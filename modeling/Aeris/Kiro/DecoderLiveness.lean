import Aeris.Kiro.DecoderChunks

/-! What the event-stream decoder waits for. Between two calls it should hold a message
that is not there as a whole; but the parser of the headers has an answer for missing bytes
of its own, and a complete message with that answer is waited on for ever. -/
namespace Aeris.Kiro
open ByteEncoding Incremental List

/-- The start of a message whose other bytes are still to come. -/
def Unfinished (bytes : Bytes) : Prop :=
  bytes.length < 12 ∨ 16 ≤ ofBeBytes (slice bytes 0 4) ∧
    ofBeBytes (slice bytes 0 4) ≤ MAX_MESSAGE_SIZE ∧ bytes.length < ofBeBytes (slice bytes 0 4)

instance (bytes : Bytes) : Decidable (Unfinished bytes) := inferInstanceAs (Decidable (_ ∨ _))

theorem parseFrame_none_iff (bytes : Bytes) : parseFrame bytes = .ok none ↔ Unfinished bytes := by
  unfold parseFrame Unfinished
  dsimp only
  split_ifs with short small large missing
  · simp [short]
  · simp [short, small]
  · simp only [short, false_or, false_iff]
    omega
  · simp only [missing, and_true, short, false_or, true_iff]
    omega
  · cases parseMessage _ _ _ <;> simp [bind, Except.bind, pure, Except.pure, short, missing]

namespace EventStreamDecoder

/-- After every call that leaves the decoder running, the buffer is an unfinished message;
and a call that brought more than that gave a frame or skipped a position. -/
def NeverStuck : EventStreamDecoder → List Bytes → Prop
  | _, [] => True
  | decoder, data :: chunks =>
    let fed := (decoder.feed data).2
    let next := (decoder.receive data).2
    (next.stopped = false → Unfinished next.buffer ∧ (Unfinished fed.buffer ∨ fed.decoded ≠ [])) ∧
      NeverStuck next chunks

variable {decoder : EventStreamDecoder} {data : Bytes}

theorem neverStuck_stopped (stopped : decoder.stopped = true) (chunks : List Bytes) :
    decoder.NeverStuck chunks := by
  induction chunks with
  | nil => trivial
  | cons data chunks ih =>
    rw [NeverStuck, receive_stopped stopped]
    exact ⟨fun running => (by cases stopped.symm.trans running), ih⟩

theorem feed_overflow {err} (fails : (decoder.feed data).1 = .error err) :
    (decoder.feed data).2.stopped = true := by
  unfold feed at fails ⊢
  split
  · rename_i idle
    rw [if_pos idle] at fails
    cases fails
  · rename_i busy
    dsimp only at fails ⊢
    split_ifs at fails ⊢
    rfl

theorem feed_small (small : decoder.buffer.length ≤ MAX_BUFFER_SIZE) :
    (decoder.feed data).2.buffer.length ≤ MAX_BUFFER_SIZE := by
  unfold feed
  dsimp only
  split_ifs with idle large
  · exact small
  · exact small
  · simpa using large

theorem drain_suffix (progress : DecoderProgress) (bytes : Bytes) :
    (decoding.drain progress bytes).2.2 <:+ bytes := by
  induction progress, bytes using Reader.drain.induct decoding with
  | case1 progress bytes waits => rw [decoding.drain_wait waits]
  | case2 progress bytes out next rest moves ih =>
    rw [decoding.drain_move moves]
    refine ih.trans ?_
    simp only [decoding, decodeStep] at moves
    repeat' split at moves
    all_goals cases moves
    all_goals first | exact drop_suffix _ _ | exact suffix_rfl

theorem unfinished_of_waits {errors bytes} (waits : decoding.move ⟨errors, false⟩ bytes = none)
    (sound : parseFrame bytes ≠ .error .incomplete) : Unfinished bytes := by
  cases parsed : parseFrame bytes with
  | ok found =>
    cases found with
    | none => exact (parseFrame_none_iff bytes).mp parsed
    | some found => cases (move_frame parsed).symm.trans waits
  | error err =>
    cases err with
    | incomplete => exact absurd parsed sound
    | invalid message =>
      by_cases enough : MAX_ERRORS ≤ errors + 1
      · cases (move_last parsed enough).symm.trans waits
      · cases (move_skip parsed (Nat.lt_of_not_le enough)).symm.trans waits

theorem decodedAll_unfinished (running : decoder.decodedAll.stopped = false)
    (sound : ∀ rest, rest <:+ decoder.buffer → parseFrame rest ≠ .error .incomplete) :
    Unfinished decoder.decodedAll.buffer := by
  have waits := decoding.drain_waits ⟨decoder.errorCount, decoder.stopped⟩ decoder.buffer
  change decoding.move ⟨_, decoder.decodedAll.stopped⟩ _ = none at waits
  rw [running] at waits
  exact unfinished_of_waits waits (sound _ (drain_suffix _ _))

theorem decodedAll_silent (silent : decoder.decoded = []) :
    decoder.decodedAll.buffer = decoder.buffer := by
  cases moves : decoding.move ⟨decoder.errorCount, decoder.stopped⟩ decoder.buffer with
  | none => rw [decodedAll, decoding.drain_wait moves]
  | some moved =>
    rw [decoded, decoding.drain_move moves] at silent
    cases silent

theorem decodeAvailable_next (decoder : EventStreamDecoder) :
    decoder.decodeAvailable.2 = decoder.decodedAll := by
  unfold decodeAvailable
  split <;> rfl

theorem neverStuck_of_sound {bytes} (sound : ∀ part, part <:+: bytes →
      part.length ≤ MAX_BUFFER_SIZE → parseFrame part ≠ .error .incomplete)
    (chunks : List Bytes) : ∀ decoder : EventStreamDecoder,
      decoder.buffer ++ chunks.flatten <:+: bytes → decoder.buffer.length ≤ MAX_BUFFER_SIZE →
      decoder.NeverStuck chunks := by
  induction chunks with
  | nil => exact fun _ _ _ => trivial
  | cons data chunks ih =>
    intro decoder inside small
    have fedSmall : (decoder.feed data).2.buffer.length ≤ MAX_BUFFER_SIZE := feed_small small
    cases running : decoder.stopped with
    | true => exact neverStuck_stopped running _
    | false =>
      rw [NeverStuck]
      cases fed : (decoder.feed data).1 with
      | error err =>
        have stopped := feed_overflow fed
        rw [receive, fed]
        exact ⟨fun running => (by cases stopped.symm.trans running), neverStuck_stopped stopped _⟩
      | ok =>
        have next : (decoder.receive data).2 = (decoder.feed data).2.decodedAll := by
          rw [receive, fed]
          exact decodeAvailable_next _
        rw [next]
        rw [feed_running running fed] at fedSmall ⊢
        rw [flatten_cons, ← append_assoc] at inside
        have kept := drain_suffix ⟨decoder.errorCount, decoder.stopped⟩ (decoder.buffer ++ data)
        refine ⟨fun running => ?_, ih _ ?_ (kept.length_le.trans fedSmall)⟩
        · have unfinished := decodedAll_unfinished running fun rest ends =>
            sound rest (ends.isInfix.trans ((prefix_append _ _).isInfix.trans inside))
              (ends.length_le.trans fedSmall)
          refine ⟨unfinished, or_iff_not_imp_right.mpr fun silent => ?_⟩
          exact decodedAll_silent (not_not.mp silent) ▸ unfinished
        · obtain ⟨gone, split⟩ := kept
          rw [← split, append_assoc] at inside
          exact (suffix_append _ _).isInfix.trans inside

theorem drain_messages (messages : List (Bytes × AwsEventFrame)) (whole : ∀ message ∈ messages,
      parseFrame message.1 = .ok (some (message.2, message.1.length))) :
    failure ⟨0, false⟩ (messages.map Prod.fst).flatten = none ∧
      frames ⟨0, false⟩ (messages.map Prod.fst).flatten = messages.map Prod.snd := by
  induction messages with
  | nil =>
    rw [failure, frames, decoding.drain_wait rfl]
    exact ⟨rfl, rfl⟩
  | cons message messages ih =>
    have first := whole message (mem_cons_self ..)
    have parsed := parseFrame_append (by rw [first]; simp) (messages.map Prod.fst).flatten
    obtain ⟨fails, found⟩ := @drain_frame 0 _ _ _ (parsed.trans first)
    rw [drop_left] at fails found
    obtain ⟨sound, later⟩ := ih fun other listed => whole other (mem_cons_of_mem _ listed)
    rw [map_cons, flatten_cons, fails, found, sound, later]
    exact ⟨rfl, rfl⟩

theorem receive_incomplete {part} (incomplete : parseFrame part = .error .incomplete)
    (small : part.length ≤ MAX_BUFFER_SIZE) : (new.receive part).2 = ⟨part, 0, false⟩ := by
  have held : part.isEmpty = false := by
    cases part with
    | nil => cases incomplete
    | cons => rfl
  have waits : decoding.move ⟨0, false⟩ part = none := by simp [decoding, decodeStep, incomplete]
  have fed : new.feed part = (.ok (), ⟨part, 0, false⟩) := by
    simp [feed, new, held, Nat.not_lt.mpr small]
  rw [receive, fed]
  simp [decodeAvailable_next, decodedAll, decoding.drain_wait waits]

/-- A header that is said to be one byte long starts with a name of five. -/
def shortHeaderBytes : Bytes :=
  [0, 0, 0, 17, 0, 0, 0, 1, 79, 165, 81, 205, 5, 207, 18, 64, 85]

end EventStreamDecoder

end Aeris.Kiro
