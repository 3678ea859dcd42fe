import Aeris.Kiro.Decoder

/-! What a caller sees of the event-stream decoder when the same bytes reach it in different pieces.
It is an incremental reader, so the error it stops with is a matter of the bytes alone; but the
failing call drops the frames that it had found. -/
namespace Aeris.Kiro
open ByteEncoding Incremental List Option

namespace EventStreamDecoder

def progress (decoder : EventStreamDecoder) : DecoderProgress :=
  ⟨decoder.errorCount, decoder.stopped⟩

def handedOut (results : List (Except String (List AwsEventFrame))) : List AwsEventFrame :=
  results.flatMap fun result => result.toOption.getD []

def errorOf : Except String (List AwsEventFrame) → Option String
  | .ok _ => none
  | .error err => some err

def stopError (results : List (Except String (List AwsEventFrame))) : Option String :=
  results.findSome? errorOf

def Fits : EventStreamDecoder → List Bytes → Prop
  | _, [] => True
  | decoder, data :: chunks => (decoder.feed data).1 = .ok () ∧ Fits (decoder.receive data).2 chunks

/-! ## Bytes the decoder gives up on -/

/-- Read from here, after so many errors in a row, the bytes come to the position at
which the decoder gives up. -/
inductive GivesUp : Nat → Bytes → Prop
  | last {errors bytes message} :
      parseFrame bytes = .error (.invalid message) → MAX_ERRORS ≤ errors + 1 → GivesUp errors bytes
  | skip {errors bytes message} :
      parseFrame bytes = .error (.invalid message) → errors + 1 < MAX_ERRORS →
        GivesUp (errors + 1) (bytes.drop 1) → GivesUp errors bytes
  | frame {errors bytes frame consumed} :
      parseFrame bytes = .ok (some (frame, consumed)) → GivesUp 0 (bytes.drop consumed) →
        GivesUp errors bytes

/-- Read from here, after so many errors in a row, the bytes come to a whole frame. -/
inductive HoldsFrame : Nat → Bytes → Prop
  | here {errors bytes frame consumed} :
      parseFrame bytes = .ok (some (frame, consumed)) → HoldsFrame errors bytes
  | skip {errors bytes message} :
      parseFrame bytes = .error (.invalid message) → errors + 1 < MAX_ERRORS →
        HoldsFrame (errors + 1) (bytes.drop 1) → HoldsFrame errors bytes

/-- Either the decoder does not give up on the bytes, or the pieces that are in before it
does hold no frame. -/
def NoFrameBeforeAbort (chunks : List Bytes) : Prop :=
  GivesUp 0 chunks.flatten → ∀ before, before <+: chunks →
    HoldsFrame 0 before.flatten → GivesUp 0 before.flatten

/-! ## The loop and the bytes -/

def failure (progress : DecoderProgress) (bytes : Bytes) : Option String :=
  (decoding.drain progress bytes).1.findSome? Decoded.message?

def frames (progress : DecoderProgress) (bytes : Bytes) : List AwsEventFrame :=
  (decoding.drain progress bytes).1.filterMap Decoded.frame?

variable {message : String}

section Passes
variable {errors : Nat} {bytes : Bytes}

theorem move_frame {frame consumed} (parsed : parseFrame bytes = .ok (some (frame, consumed))) :
    decoding.move ⟨errors, false⟩ bytes = some (.frame frame, ⟨0, false⟩, bytes.drop consumed) := by
  have positive : consumed ≠ 0 := by
    have := parseFrame_consumed parsed
    omega
  simp [decoding, decodeStep, parsed, positive]

theorem move_skip (parsed : parseFrame bytes = .error (.invalid message))
    (few : errors + 1 < MAX_ERRORS) : decoding.move ⟨errors, false⟩ bytes =
      some (.skipped, ⟨errors + 1, false⟩, bytes.drop 1) := by
  have held : bytes ≠ [] := by
    rintro rfl
    cases parsed
  simp [decoding, decodeStep, parsed, Nat.not_le.mpr few, held]

theorem move_last (parsed : parseFrame bytes = .error (.invalid message))
    (enough : MAX_ERRORS ≤ errors + 1) : decoding.move ⟨errors, false⟩ bytes =
      some (.failed message, ⟨errors + 1, true⟩, bytes) := by
  simp [decoding, decodeStep, parsed, enough]

inductive Pass (errors : Nat) (bytes : Bytes) : Prop
  | waits : decoding.move ⟨errors, false⟩ bytes = none → Pass errors bytes
  | frame (frame : AwsEventFrame) (consumed : Nat) :
      parseFrame bytes = .ok (some (frame, consumed)) → Pass errors bytes
  | skip (message : String) : parseFrame bytes = .error (.invalid message) →
      errors + 1 < MAX_ERRORS → Pass errors bytes
  | last (message : String) : parseFrame bytes = .error (.invalid message) →
      MAX_ERRORS ≤ errors + 1 → Pass errors bytes

theorem pass (errors : Nat) (bytes : Bytes) : Pass errors bytes := by
  cases parsed : parseFrame bytes with
  | ok found =>
    cases found with
    | none => exact .waits (by simp [decoding, decodeStep, parsed])
    | some found => exact .frame found.1 found.2 parsed
  | error err =>
    cases err with
    | incomplete => exact .waits (by simp [decoding, decodeStep, parsed])
    | invalid message =>
      by_cases enough : MAX_ERRORS ≤ errors + 1
      · exact .last message parsed enough
      · exact .skip message parsed (Nat.lt_of_not_le enough)

theorem drain_frame {frame consumed} (parsed : parseFrame bytes = .ok (some (frame, consumed))) :
    failure ⟨errors, false⟩ bytes = failure ⟨0, false⟩ (bytes.drop consumed) ∧
      frames ⟨errors, false⟩ bytes = frame :: frames ⟨0, false⟩ (bytes.drop consumed) := by
  rw [failure, frames, decoding.drain_move (move_frame parsed)]
  exact ⟨rfl, rfl⟩

theorem drain_skip (parsed : parseFrame bytes = .error (.invalid message))
    (few : errors + 1 < MAX_ERRORS) :
    failure ⟨errors, false⟩ bytes = failure ⟨errors + 1, false⟩ (bytes.drop 1) ∧
      frames ⟨errors, false⟩ bytes = frames ⟨errors + 1, false⟩ (bytes.drop 1) := by
  rw [failure, frames, decoding.drain_move (move_skip parsed few)]
  exact ⟨rfl, rfl⟩

theorem drain_stopped (errorCount : Nat) (buffer : Bytes) :
    decoding.drain ⟨errorCount, true⟩ buffer = ([], ⟨errorCount, true⟩, buffer) :=
  decoding.drain_wait rfl

theorem drain_last (parsed : parseFrame bytes = .error (.invalid message))
    (enough : MAX_ERRORS ≤ errors + 1) :
    failure ⟨errors, false⟩ bytes = some message ∧ frames ⟨errors, false⟩ bytes = [] := by
  rw [failure, frames, decoding.drain_move (move_last parsed enough), drain_stopped]
  exact ⟨rfl, rfl⟩

theorem givesUp_iff (errors : Nat) (bytes : Bytes) :
    GivesUp errors bytes ↔ (failure ⟨errors, false⟩ bytes).isSome := by
  constructor
  · intro givesUp
    induction givesUp with
    | last parsed enough => rw [(drain_last parsed enough).1, isSome_some]
    | skip parsed few _ ih => rwa [(drain_skip parsed few).1]
    | frame parsed _ ih => rwa [(drain_frame parsed).1]
  · generalize start : DecoderProgress.mk errors false = progress
    intro fails
    induction progress, bytes using Reader.drain.induct decoding generalizing errors with
    | case1 progress bytes waits =>
      rw [failure, decoding.drain_wait waits] at fails
      cases fails
    | case2 progress bytes out next rest moves ih =>
      subst start
      cases pass errors bytes with
      | waits idle => cases idle.symm.trans moves
      | frame frame consumed parsed =>
        cases (move_frame parsed).symm.trans moves
        exact .frame parsed (ih 0 rfl (by rwa [(drain_frame parsed).1] at fails))
      | skip message parsed few =>
        cases (move_skip parsed few).symm.trans moves
        exact .skip parsed few (ih _ rfl (by rwa [(drain_skip parsed few).1] at fails))
      | last message parsed enough => exact .last parsed enough

theorem holdsFrame_iff (errors : Nat) (bytes : Bytes) :
    HoldsFrame errors bytes ↔ frames ⟨errors, false⟩ bytes ≠ [] := by
  constructor
  · intro holds
    induction holds with
    | here parsed => simp [(drain_frame parsed).2]
    | skip parsed few _ ih => rwa [(drain_skip parsed few).2]
  · generalize start : DecoderProgress.mk errors false = progress
    intro finds
    induction progress, bytes using Reader.drain.induct decoding generalizing errors with
    | case1 progress bytes waits =>
      rw [frames, decoding.drain_wait waits] at finds
      cases finds rfl
    | case2 progress bytes out next rest moves ih =>
      subst start
      cases pass errors bytes with
      | waits idle => cases idle.symm.trans moves
      | frame frame consumed parsed => exact .here parsed
      | skip message parsed few =>
        cases (move_skip parsed few).symm.trans moves
        exact .skip parsed few (ih _ rfl (by rwa [(drain_skip parsed few).2] at finds))
      | last message parsed enough => exact absurd (drain_last parsed enough).2 finds

theorem drain_stops {progress} (buffer : Bytes) (running : progress.stopped = false) :
    (decoding.drain progress buffer).2.1.stopped = (failure progress buffer).isSome := by
  induction progress, buffer using Reader.drain.induct decoding with
  | case1 progress buffer waits =>
    rw [failure, decoding.drain_wait waits]
    exact running
  | case2 progress buffer out next rest moves ih =>
    obtain ⟨errors, _⟩ := progress
    cases running
    cases pass errors buffer with
    | waits idle => cases idle.symm.trans moves
    | frame frame consumed parsed =>
      cases (move_frame parsed).symm.trans moves
      rw [(drain_frame parsed).1, ← ih rfl, decoding.drain_move moves]
    | skip message parsed few =>
      cases (move_skip parsed few).symm.trans moves
      rw [(drain_skip parsed few).1, ← ih rfl, decoding.drain_move moves]
    | last message parsed enough =>
      cases (move_last parsed enough).symm.trans moves
      rw [(drain_last parsed enough).1, decoding.drain_move moves, drain_stopped]
      rfl

end Passes

theorem failure_append {progress bytes} (more : Bytes)
    (sound : failure progress bytes = none) : failure progress (bytes ++ more) =
      failure (decoding.drain progress bytes).2.1
        ((decoding.drain progress bytes).2.2 ++ more) := by
  rw [failure] at sound ⊢
  rw [decoding.drain_append, findSome?_append, sound]
  rfl

theorem frames_append (progress : DecoderProgress) (bytes more : Bytes) :
    frames progress (bytes ++ more) = frames progress bytes ++
      frames (decoding.drain progress bytes).2.1 ((decoding.drain progress bytes).2.2 ++ more) := by
  rw [frames, decoding.drain_append, filterMap_append]
  rfl

theorem failure_append_isSome {progress bytes} (more : Bytes)
    (fails : (failure progress bytes).isSome) : (failure progress (bytes ++ more)).isSome := by
  rw [failure] at fails ⊢
  rw [decoding.drain_append, findSome?_append, isSome_or, fails, Bool.true_or]

/-! ## One call -/

variable {decoder : EventStreamDecoder}

theorem receive_stopped (stopped : decoder.stopped = true)
    (data : Bytes) : decoder.receive data = (.ok [], decoder) := by
  obtain ⟨buffer, errorCount, _⟩ := decoder
  cases stopped
  have nothing := drain_stopped errorCount buffer
  simp [receive, feed, decodeAvailable, decoded, decodedAll, nothing]

theorem receiveAll_stopped (stopped : decoder.stopped = true) (chunks : List Bytes) :
    stopError (decoder.receiveAll chunks) = none ∧ handedOut (decoder.receiveAll chunks) = [] := by
  induction chunks with
  | nil => exact ⟨rfl, rfl⟩
  | cons data chunks ih =>
    rw [receiveAll, receive_stopped stopped]
    exact ih

variable {data : Bytes}

theorem feed_running (running : decoder.stopped = false) (fits : (decoder.feed data).1 = .ok ()) :
    (decoder.feed data).2 = { decoder with buffer := decoder.buffer ++ data } := by
  unfold feed at fits ⊢
  split
  · rename_i idle
    have empty : data = [] := by simpa [running] using idle
    simp [empty]
  · rename_i busy
    rw [if_neg busy] at fits
    dsimp only at fits ⊢
    split
    · rename_i large
      rw [if_pos large] at fits
      cases fits
    · rfl

def advanced (decoder : EventStreamDecoder) (data : Bytes) : EventStreamDecoder :=
  ({ decoder with buffer := decoder.buffer ++ data } : EventStreamDecoder).decodedAll

theorem receive_running {found} (running : decoder.stopped = false)
    (fits : (decoder.feed data).1 = .ok ())
    (fails : failure decoder.progress (decoder.buffer ++ data) = found) :
    decoder.receive data = (found.elim (.ok (frames decoder.progress (decoder.buffer ++ data)))
      .error, decoder.advanced data) := by
  rw [receive, fits, feed_running running fits]
  dsimp only
  rw [decodeAvailable, show decoded _ = (decoding.drain decoder.progress
    (decoder.buffer ++ data)).1 from rfl, show List.findSome? _ _ = found from fails]
  cases found <;> rfl

theorem advanced_stopped (data : Bytes) (running : decoder.stopped = false) :
    (decoder.advanced data).stopped = (failure decoder.progress (decoder.buffer ++ data)).isSome :=
  drain_stops (decoder.buffer ++ data) running

/-! ## A run of calls -/

/-- A decoder between two calls: it runs and has nothing left to do. -/
structure Idle (decoder : EventStreamDecoder) : Prop where
  running : decoder.stopped = false
  waits : decoding.move decoder.progress decoder.buffer = none

theorem new_idle : new.Idle := ⟨rfl, rfl⟩

theorem Idle.advanced (idle : decoder.Idle)
    (sound : failure decoder.progress (decoder.buffer ++ data) = none) :
    (decoder.advanced data).Idle where
  running := by rw [advanced_stopped data idle.running, sound, isSome_none]
  waits := decoding.drain_waits _ _

theorem Idle.frames (idle : decoder.Idle) : frames decoder.progress decoder.buffer = [] := by
  rw [EventStreamDecoder.frames, decoding.drain_wait idle.waits]
  rfl

theorem Idle.failure (idle : decoder.Idle) : failure decoder.progress decoder.buffer = none := by
  rw [EventStreamDecoder.failure, decoding.drain_wait idle.waits]
  rfl

theorem receiveAll_sound (chunks : List Bytes) : ∀ decoder : EventStreamDecoder, decoder.Idle →
    decoder.Fits chunks → failure decoder.progress (decoder.buffer ++ chunks.flatten) = none →
      stopError (decoder.receiveAll chunks) = none ∧ handedOut (decoder.receiveAll chunks) =
          frames decoder.progress (decoder.buffer ++ chunks.flatten) := by
  induction chunks with
  | nil =>
    intro decoder idle _ _
    rw [flatten_nil, append_nil, idle.frames]
    exact ⟨rfl, rfl⟩
  | cons data chunks ih =>
    intro decoder idle fits sound
    rw [flatten_cons, ← append_assoc] at sound ⊢
    have first : failure decoder.progress (decoder.buffer ++ data) = none := by
      by_contra fails
      have := failure_append_isSome chunks.flatten (isSome_iff_ne_none.mpr fails)
      rw [sound] at this
      cases this
    have call := receive_running idle.running fits.1 first
    have fits := fits.2
    rw [failure_append _ first] at sound
    rw [call] at fits
    have later := ih _ (idle.advanced first) fits sound
    rw [receiveAll, call, frames_append _ (decoder.buffer ++ data)]
    constructor
    · exact later.1
    · exact congrArg (EventStreamDecoder.frames _ _ ++ ·) later.2

/-- A run over bytes that fail: the caller gets the error, and the frames of the pieces
before the one with which it comes. -/
theorem receiveAll_fails (chunks : List Bytes) :
    ∀ decoder : EventStreamDecoder, decoder.Idle → decoder.Fits chunks →
      failure decoder.progress (decoder.buffer ++ chunks.flatten) = some message →
      stopError (decoder.receiveAll chunks) = some message ∧
        ∃ before data after, chunks = before ++ data :: after ∧
          failure decoder.progress (decoder.buffer ++ before.flatten) = none ∧
          (failure decoder.progress (decoder.buffer ++ (before ++ [data]).flatten)).isSome ∧
          handedOut (decoder.receiveAll chunks) =
            frames decoder.progress (decoder.buffer ++ before.flatten) := by
  induction chunks with
  | nil =>
    intro decoder idle _ fails
    rw [flatten_nil, append_nil, idle.failure] at fails
    cases fails
  | cons data chunks ih =>
    intro decoder idle fits fails
    rw [flatten_cons, ← append_assoc] at fails
    cases first : failure decoder.progress (decoder.buffer ++ data) with
    | some reason =>
      -- The first piece brings the error already.
      have call := receive_running idle.running fits.1 first
      have stopped := advanced_stopped data idle.running
      rw [first] at stopped
      have silent := receiveAll_stopped stopped chunks
      have same : reason = message := by
        rw [failure] at first fails
        rw [decoding.drain_append, findSome?_append, first] at fails
        exact some.inj fails
      rw [receiveAll, call]
      constructor
      · rw [same]
        rfl
      · refine ⟨[], data, chunks, rfl, ?_, ?_, ?_⟩
        · rw [flatten_nil, append_nil, idle.failure]
        · simp [first]
        · rw [flatten_nil, append_nil, idle.frames]
          exact silent.2
    | none =>
      have call := receive_running idle.running fits.1 first
      have fits := fits.2
      rw [failure_append _ first] at fails
      rw [call] at fits
      have later := ih _ (idle.advanced first) fits fails
      obtain ⟨before, last, after, split, sound, breaks, handed⟩ := later.2
      rw [receiveAll, call]
      constructor
      · exact later.1
      · refine ⟨data :: before, last, after, by rw [split]; rfl, ?_, ?_, ?_⟩
        · rw [flatten_cons, ← append_assoc, failure_append _ first]
          exact sound
        · rw [cons_append, flatten_cons, ← append_assoc, failure_append _ first]
          exact breaks
        · rw [flatten_cons, ← append_assoc, frames_append _ (decoder.buffer ++ data)]
          exact congrArg (EventStreamDecoder.frames _ _ ++ ·) handed

/-! ## The whole at once -/

theorem abort_position {chunks before after}
    (split : chunks = before ++ data :: after) {part} (isPart : part <+: chunks) :
    part <+: before ∨ before ++ [data] <+: part := by
  have start : before ++ [data] <+: chunks := ⟨after, by simp [split]⟩
  rcases prefix_or_prefix_of_prefix isPart start with shorter | longer
  · rcases prefix_concat_iff.mp shorter with whole | shorter
    · exact .inr (whole ▸ prefix_rfl)
    · exact .inl shorter
  · exact .inr longer

theorem receiveAll_whole_fails {bytes} (fits : new.Fits [bytes])
    (fails : failure new.progress bytes = some message) :
    stopError (new.receiveAll [bytes]) = some message ∧ handedOut (new.receiveAll [bytes]) =
      [] := by
  have call : new.receive bytes = (.error message, new.advanced bytes) :=
    receive_running rfl fits.1 fails
  rw [receiveAll, call]
  exact ⟨rfl, rfl⟩

/-- The decoder gives the caller the same as if the bytes had come at once, unless it gives
up on them and there is a frame in the pieces before that. -/
theorem decoding_ignores_cuts_iff (chunks : List Bytes) (fits : new.Fits chunks)
    (wholeFits : new.Fits [chunks.flatten]) :
    (handedOut (new.receiveAll chunks) = handedOut (new.receiveAll [chunks.flatten]) ∧
        stopError (new.receiveAll chunks) = stopError (new.receiveAll [chunks.flatten])) ↔
      NoFrameBeforeAbort chunks := by
  cases outcome : failure new.progress chunks.flatten with
  | none =>
    have flat : [chunks.flatten].flatten = chunks.flatten := flatten_singleton
    have cut := receiveAll_sound chunks new new_idle fits outcome
    have whole := receiveAll_sound [chunks.flatten] new new_idle wholeFits (flat.symm ▸ outcome)
    constructor
    · intro _ givesUp
      have fails : (failure new.progress chunks.flatten).isSome := (givesUp_iff 0 _).mp givesUp
      rw [outcome] at fails
      cases fails
    · intro _
      rw [cut.1, cut.2, whole.1, whole.2, flat]
      exact ⟨rfl, rfl⟩
  | some message =>
    have whole := receiveAll_whole_fails wholeFits outcome
    obtain ⟨stops, before, data, after, split, sound, breaks, handed⟩ :=
      receiveAll_fails chunks new new_idle fits outcome
    rw [stops, handed, whole.1, whole.2]
    constructor
    · rintro ⟨none, _⟩ _ part isPart holds
      -- A part is either in before the failure, and then without a frame, or fails itself.
      rcases abort_position split isPart with ⟨more, rfl⟩ | ⟨more, rfl⟩
      · have none : frames new.progress (part.flatten ++ more.flatten) = [] := by
          rwa [← flatten_append]
        have empty : frames new.progress part.flatten = [] := by
          rw [frames_append] at none
          exact (append_eq_nil_iff.mp none).1
        exact absurd empty ((holdsFrame_iff 0 _).mp holds)
      · rw [givesUp_iff, flatten_append]
        exact failure_append_isSome _ breaks
    · intro condition
      have givesUp : GivesUp 0 chunks.flatten :=
        (givesUp_iff 0 _).mpr (isSome_iff_exists.mpr ⟨message, outcome⟩)
      refine ⟨?_, rfl⟩
      by_contra holds
      have fails := (givesUp_iff 0 _).mp
        (condition givesUp before ⟨_, split.symm⟩ ((holdsFrame_iff 0 _).mpr holds))
      exact absurd sound (isSome_iff_ne_none.mp fails)

def emptyFrameBytes : Bytes :=
  [0, 0, 0, 16, 0, 0, 0, 0, 5, 194, 72, 235, 125, 152, 200, 255]

/-- Five positions in a row at which no frame starts. -/
def noFrameBytes : Bytes := List.replicate 16 0

/-- A frame in two pieces that the decoder does not give up on. -/
theorem decoding_ignores_cuts_split_frame :
    handedOut (new.receiveAll [emptyFrameBytes.take 5, emptyFrameBytes.drop 5]) = [⟨⟨.empty⟩, []⟩] ∧
      NoFrameBeforeAbort [emptyFrameBytes.take 5, emptyFrameBytes.drop 5] := by
  refine ⟨by decide +kernel, (decoding_ignores_cuts_iff _ ?_ ?_).mp ⟨?_, ?_⟩⟩
  · exact ⟨by decide +kernel, by decide +kernel, trivial⟩
  · exact ⟨by decide +kernel, trivial⟩
  · decide +kernel
  · decide +kernel

/-- A frame and the bytes that make the decoder give up: in two pieces the caller gets
the frame and then the error, in one piece only the error. -/
theorem failing_call_drops_its_frames : new.Fits [emptyFrameBytes, noFrameBytes] ∧
      new.Fits [[emptyFrameBytes, noFrameBytes].flatten] ∧
      handedOut (new.receiveAll [emptyFrameBytes, noFrameBytes]) = [⟨⟨.empty⟩, []⟩] ∧
      handedOut (new.receiveAll [[emptyFrameBytes, noFrameBytes].flatten]) = [] := by
  refine ⟨?_, ?_, by decide +kernel, by decide +kernel⟩
  · exact ⟨by decide +kernel, by decide +kernel, trivial⟩
  · exact ⟨by decide +kernel, trivial⟩

end EventStreamDecoder

end Aeris.Kiro
