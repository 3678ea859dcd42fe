import Aeris.Base.Transition
import Aeris.Usage.DeadLetter

/-! The size that a dead letter is given before it is encoded. Six bytes for every byte of
text are enough for each escape, so the writer never runs out of what was reserved, and all
encodings together stay within the budget they share. -/
namespace Aeris.Usage

open RustStd Aeris.Runtime JsonText Relation String List Option

/-! ## The length of a payload -/

theorem hexDigit_size : ∀ value < 16, (hexDigit value).utf8Size = 1 := by decide

theorem escape_le (c : Char) : utf8Len (escape c) ≤ 6 * c.utf8Size := by
  have positive := c.utf8Size_pos
  have cases : utf8Len (escape c) ≤ 6 ∨ escape c = [c] := by
    unfold escape
    split_ifs with _ _ _ _ _ _ _ control
    any_goals (left; decide)
    · have high := hexDigit_size (c.toNat / 16) (by omega)
      have low := hexDigit_size (c.toNat % 16) (by omega)
      simp only [utf8Len_cons, high, low]
      exact .inl (by decide)
    · exact .inr rfl
  rcases cases with short | plain
  · omega
  · rw [plain, utf8Len_cons, utf8Len_nil]
    omega

theorem escaped_le (text : List Char) : utf8Len (text.flatMap escape) ≤ 6 * utf8Len text := by
  induction text with
  | nil => simp
  | cons c rest ih =>
    have here := escape_le c
    simp only [flatMap_cons, utf8Len_append, utf8Len_cons]
    omega

theorem mark_size : '"'.utf8Size = 1 ∧ ','.utf8Size = 1 ∧ ':'.utf8Size = 1 ∧
    '\x7b'.utf8Size = 1 ∧ '\x7d'.utf8Size = 1 := by decide

theorem byteLen_eq (text : String) : byteLen text = utf8Len text.toList := by
  rw [← utf8ByteSize_ofList, ofList_toList, byteLen]

theorem writeString_le (text : String) : utf8Len (writeString text) ≤ 6 * byteLen text + 2 := by
  have inner := escaped_le text.toList
  simp only [writeString, utf8Len_cons, utf8Len_append, utf8Len_nil, mark_size, byteLen_eq]
  omega

def fieldBytes (fields : List (String × String)) : Nat :=
  (fields.map fun field => byteLen field.1 + byteLen field.2).sum

def texts (fields : List (String × String)) : List (String × Json) :=
  fields.map fun field => (field.1, .string field.2)

theorem writeFields_le (fields : List (String × String)) :
    utf8Len (writeFields (texts fields)) ≤ 6 * fieldBytes fields + 6 * fields.length + 1 := by
  induction fields with
  | nil => decide
  | cons field rest ih =>
    have key := writeString_le field.1
    have value := writeString_le field.2
    simp only [texts, map_cons, writeFields, write, utf8Len_cons, utf8Len_append, mark_size,
      fieldBytes, sum_cons, length_cons] at ih ⊢
    omega

theorem writeObject_le (fields : List (String × String)) :
    utf8Len (write (.object (texts fields))) ≤ 6 * fieldBytes fields + 6 * fields.length + 2 := by
  cases fields with
  | nil => decide
  | cons field rest =>
    -- the first field comes without a comma
    have all := writeFields_le (field :: rest)
    simp only [texts, map_cons, writeFields, write, utf8Len_cons, mark_size] at all ⊢
    omega

/-- The size without any bound on its numbers. -/
def exactSize (entry : RuntimeQueueEntry) (error : String) : EncodingSize :=
  let raw := byteLen entry.id + byteLen error + fieldBytes entry.fields.entries
  let json := 6 * raw + 6 * entry.fields.size + emptyEnvelopeBytes
  ⟨json, raw + json⟩

theorem payload_le (entry : RuntimeQueueEntry) (error : String) :
    byteLen (deadLetterText entry error) ≤ (exactSize entry error).json := by
  have id := writeString_le entry.id
  have fields := writeObject_le entry.fields.entries
  have last := writeString_le error
  have names : utf8Len (writeString "entry_id") = 10 ∧ utf8Len (writeString "fields") = 8 ∧
      utf8Len (writeString "error") = 7 := by decide
  rw [texts] at fields
  simp only [deadLetterText, byteLen_eq, toList_ofList, deadLetterPayload, write, writeFields,
    utf8Len_cons, utf8Len_append, utf8Len_nil, names, mark_size] at *
  simp only [exactSize, emptyEnvelopeBytes, OrderedTable.size, byteLen_eq]
  omega

theorem rawFieldBytes_eq (fields : List (String × String)) : ∀ raw ≤ u64Max, ∀ total,
    rawFieldBytes raw fields = some total ↔
      raw + fieldBytes fields ≤ u64Max ∧ total = raw + fieldBytes fields := by
  induction fields with
  | nil =>
    intro raw small total
    simp [rawFieldBytes, fieldBytes, small, eq_comm]
  | cons field rest ih =>
    intro raw small total
    simp only [rawFieldBytes, bind_eq_some_iff, checkedAdd_eq_some, fieldBytes, map_cons, sum_cons]
    constructor
    · rintro ⟨_, ⟨-, rfl⟩, _, ⟨fits, rfl⟩, rest⟩
      rw [ih _ fits, fieldBytes] at rest
      omega
    · rintro ⟨fits, rfl⟩
      refine ⟨_, ⟨by omega, rfl⟩, _, ⟨by omega, rfl⟩, (ih _ (by omega) _).mpr ?_⟩
      rw [fieldBytes]
      omega

/-- The numbers are exact, and there is no size when the largest of them has no room. -/
theorem encodingSize_eq (entry : RuntimeQueueEntry) (error : String) (size : EncodingSize) :
    encodingSize entry error = some size ↔ size = exactSize entry error ∧ size.total ≤ u64Max := by
  have raws := rawFieldBytes_eq entry.fields.entries
  simp only [encodingSize, checkedEncodingSize, bind_eq_some_iff, map_eq_some_iff,
    checkedAdd_eq_some, checkedMul_eq_some]
  constructor
  · rintro ⟨_, ⟨small, rfl⟩, _, raw, _, ⟨-, rfl⟩, _, ⟨-, rfl⟩, _, ⟨-, rfl⟩, _, ⟨-, rfl⟩, _,
      ⟨fits, rfl⟩, rfl⟩
    obtain ⟨-, rfl⟩ := (raws _ small _).mp raw
    refine ⟨?_, fits⟩
    simp only [exactSize, EncodingSize.mk.injEq]
    omega
  · rintro ⟨rfl, fits⟩
    simp only [exactSize] at fits ⊢
    refine ⟨_, ⟨by omega, rfl⟩, _, (raws _ (by omega) _).mpr ⟨by omega, rfl⟩, _,
      ⟨by omega, rfl⟩, _, ⟨by omega, rfl⟩, _, ⟨by omega, rfl⟩, _, ⟨by omega, rfl⟩, _,
      ⟨by omega, rfl⟩, ?_⟩
    simp only [EncodingSize.mk.injEq]
    omega

/-! ## The writer -/

/-- `BoundedJsonWriter::write`, with memory to be had. -/
def boundedWrite (maxBytes : Nat) (bytes piece : List UInt8) : Option (List UInt8) :=
  if piece.length > maxBytes - bytes.length then none else some (bytes ++ piece)

/-- The writes of a serializer, in whatever pieces it hands over its text. -/
def writePieces (maxBytes : Nat) (pieces : List (List UInt8)) : Option (List UInt8) :=
  pieces.foldlM (boundedWrite maxBytes) []

theorem foldlM_boundedWrite (maxBytes : Nat) (pieces : List (List UInt8)) :
    ∀ bytes, bytes.length + pieces.flatten.length ≤ maxBytes →
      pieces.foldlM (boundedWrite maxBytes) bytes = some (bytes ++ pieces.flatten) := by
  induction pieces with
  | nil => simp
  | cons piece rest ih =>
    intro bytes room
    simp only [flatten_cons, List.length_append] at room
    have fits : ¬ piece.length > maxBytes - bytes.length := by omega
    rw [foldlM_cons, boundedWrite, if_neg fits]
    have goesOn := ih (bytes ++ piece) (by rw [List.length_append]; omega)
    simpa using goesOn

/-! ## The budget -/

def maximumBudgetBytes : Nat := min (2 ^ 61 - 1) (2 ^ 32 - 1)

/-- Where a call of `try_reserve` and the encoding after it stand: with a job permit, with its
bytes as well, counted as reserved, no longer counted, and with the job permit alone again. -/
inductive EncodingPhase where
  | admitted
  | holding
  | running
  | leaving
  | closing

/-- One access to the byte permits or to the counter of reserved bytes. The number of permits
is cast to 32 bits, and the counter has 64. -/
inductive Moves (total bytes reserved : Nat) : EncodingPhase → EncodingPhase → Nat → Nat → Prop
  | hold (free : total % 2 ^ 32 ≤ bytes) :
      Moves total bytes reserved .admitted .holding (bytes - total % 2 ^ 32) reserved
  | refuse (taken : bytes < total % 2 ^ 32) :
      Moves total bytes reserved .admitted .closing bytes reserved
  | count : Moves total bytes reserved .holding .running bytes ((reserved + total) % 2 ^ 64)
  | uncount :
      Moves total bytes reserved .running .leaving bytes ((reserved + (2 ^ 64 - total)) % 2 ^ 64)
  | release : Moves total bytes reserved .leaving .closing (bytes + total % 2 ^ 32) reserved

/-- Free permits of both semaphores, the counter, and the calls under way with their totals. -/
structure DeadLetterEncodingBudget where
  limitBytes : Nat
  jobs : Nat
  bytes : Nat
  reservedBytes : Nat
  calls : List (Nat × EncodingPhase)

namespace DeadLetterEncodingBudget

def new (limitBytes jobLimit : Nat) : DeadLetterEncodingBudget where
  limitBytes := min limitBytes maximumBudgetBytes
  jobs := max 1 (min jobLimit 128)
  bytes := min limitBytes maximumBudgetBytes
  reservedBytes := 0
  calls := []

/-- Any of the calls goes on, or a new one gets its job permit. -/
inductive Step (budget : DeadLetterEncodingBudget) : DeadLetterEncodingBudget → Prop
  | enter (entry : RuntimeQueueEntry) (error : String) (size : EncodingSize)
      (sized : encodingSize entry error = some size) (fits : size.total ≤ budget.limitBytes)
      (free : 0 < budget.jobs) :
      Step budget { budget with
        jobs := budget.jobs - 1, calls := (size.total, .admitted) :: budget.calls }
  | move (before after : List (Nat × EncodingPhase)) (total : Nat) (phase next : EncodingPhase)
      (bytes reserved : Nat) (here : budget.calls = before ++ (total, phase) :: after)
      (moves : Moves total budget.bytes budget.reservedBytes phase next bytes reserved) :
      Step budget { budget with
        bytes, reservedBytes := reserved, calls := before ++ (total, next) :: after }
  | close (before after : List (Nat × EncodingPhase)) (total : Nat)
      (here : budget.calls = before ++ (total, .closing) :: after) :
      Step budget { budget with jobs := budget.jobs + 1, calls := before ++ after }

@[simp] def heldBytes : Nat × EncodingPhase → Nat
  | (_, .admitted) | (_, .closing) => 0
  | (total, _) => total

@[simp] def countedBytes : Nat × EncodingPhase → Nat
  | (total, .running) => total
  | _ => 0

@[simp] def held (budget : DeadLetterEncodingBudget) : Nat := (budget.calls.map heldBytes).sum

@[simp] def running (budget : DeadLetterEncodingBudget) : Nat := (budget.calls.map countedBytes).sum

theorem counted_le (calls : List (Nat × EncodingPhase)) :
    (calls.map countedBytes).sum ≤ (calls.map heldBytes).sum := by
  refine sum_le_sum fun (total, phase) _ => ?_
  cases phase <;> simp

structure Kept (limit : Nat) (budget : DeadLetterEncodingBudget) : Prop where
  limited : budget.limitBytes = limit
  small : limit < 2 ^ 32
  fits : ∀ call ∈ budget.calls, call.1 ≤ limit
  bytes : budget.bytes + budget.held = limit
  counter : budget.reservedBytes = budget.running

theorem Kept.step {limit : Nat} (budget next : DeadLetterEncodingBudget)
    (kept : Kept limit budget) (step : Step budget next) : Kept limit next := by
  obtain ⟨limited, small, each, bytes, counter⟩ := kept
  have below := counted_le budget.calls
  cases step with
  | enter entry error size _ fits =>
    refine ⟨limited, small, ?_, by simpa using bytes, by simpa using counter⟩
    simpa [← limited, fits] using each
  | move before after total phase next _ _ here moves =>
    simp only [held, running, here] at each bytes counter below
    have own : total ≤ limit := each (total, phase) (by simp)
    -- the cast loses nothing of a total within the limit
    have cast : total % 2 ^ 32 = total := Nat.mod_eq_of_lt (by omega)
    refine ⟨limited, small, ?_, ?_, ?_⟩
    · rw [forall_mem_append, forall_mem_cons] at each ⊢
      exact ⟨each.1, own, each.2.2⟩
    all_goals
      cases moves <;> simp at bytes counter below ⊢ <;> omega
  | close before after total here =>
    simp only [held, running, here] at each bytes counter
    refine ⟨limited, small, ?_, by simpa using bytes, by simpa using counter⟩
    rw [forall_mem_append, forall_mem_cons] at each
    exact forall_mem_append.mpr ⟨each.1, each.2.2⟩

theorem new_kept (limitBytes jobLimit : Nat) :
    Kept (min limitBytes maximumBudgetBytes) (new limitBytes jobLimit) := by
  refine ⟨rfl, ?_, by simp [new], rfl, rfl⟩
  simp only [maximumBudgetBytes]
  omega

/-- A payload has room in the size reserved for it, whatever its pieces; the size is exact; and
what all calls hold at a time, and with it what the counter shows, is within the limit. -/
theorem dead_letter_bound_sound :
    (∀ entry error size, encodingSize entry error = some size →
      byteLen (deadLetterText entry error) ≤ size.json ∧
      ∀ pieces, pieces.flatten = asBytes (deadLetterText entry error) →
        writePieces size.json pieces = some (asBytes (deadLetterText entry error))) ∧
    (∀ entry error size, encodingSize entry error = some size ↔
      size = exactSize entry error ∧ size.total ≤ u64Max) ∧
    ∀ limitBytes jobLimit budget, ReflTransGen Step (new limitBytes jobLimit) budget →
      budget.held ≤ limitBytes ∧ budget.reservedBytes = budget.running ∧
        budget.running ≤ budget.held := by
  refine ⟨fun entry error size sized => ?_, encodingSize_eq,
    fun limitBytes jobLimit budget run => ?_⟩
  · obtain ⟨rfl, -⟩ := (encodingSize_eq entry error size).mp sized
    have room := payload_le entry error
    refine ⟨room, fun pieces text => ?_⟩
    have written := foldlM_boundedWrite (exactSize entry error).json pieces []
    rw [text, nil_append] at written
    exact written (by simpa [asBytes, byteLen] using room)
  · have kept := Transition.invariant Kept.step run (new_kept limitBytes jobLimit)
    have bytes := kept.bytes
    exact ⟨by omega, kept.counter, counted_le _⟩

/-! ## The permits come back -/

theorem step_jobs {jobs : Nat} (budget next : DeadLetterEncodingBudget)
    (kept : budget.jobs + budget.calls.length = jobs) (step : Step budget next) :
    next.jobs + next.calls.length = jobs := by
  cases step with
  | enter =>
    simp
    omega
  | move _ _ _ _ _ _ _ here | close _ _ _ here =>
    simp [here] at kept ⊢
    omega

@[simp] def accessesLeft : Nat × EncodingPhase → Nat
  | (_, .admitted) => 5
  | (_, .holding) => 4
  | (_, .running) => 3
  | (_, .leaving) => 2
  | (_, .closing) => 1

def stepsLeft (budget : DeadLetterEncodingBudget) : Nat := (budget.calls.map accessesLeft).sum

theorem advances (budget : DeadLetterEncodingBudget) (busy : budget.calls ≠ []) :
    ∃ next, Step budget next ∧ next.stepsLeft < budget.stepsLeft := by
  obtain ⟨⟨total, phase⟩, rest, here⟩ := exists_cons_of_ne_nil busy
  have move next bytes reserved := Step.move [] rest total phase next bytes reserved here
  simp only [stepsLeft, here]
  cases phase with
  | admitted =>
    rcases le_or_gt (total % 2 ^ 32) budget.bytes with free | taken
    · exact ⟨_, move _ _ _ (.hold free), by simp⟩
    · exact ⟨_, move _ _ _ (.refuse taken), by simp⟩
  | holding => exact ⟨_, move _ _ _ .count, by simp⟩
  | running => exact ⟨_, move _ _ _ .uncount, by simp⟩
  | leaving => exact ⟨_, move _ _ _ .release, by simp⟩
  | closing => exact ⟨_, .close [] rest total here, by simp⟩

/-- From every state that is reached the calls under way can end, and then all permits are back
and nothing is counted any more. -/
theorem budget_restored (limitBytes jobLimit : Nat) (budget : DeadLetterEncodingBudget)
    (run : ReflTransGen Step (new limitBytes jobLimit) budget) :
    ReflTransGen Step budget (new limitBytes jobLimit) := by
  obtain ⟨last, later, idle⟩ := Transition.gets_done (ReflTransGen Step (new limitBytes jobLimit))
    (·.calls = []) stepsLeft (fun _ _ reached step => reached.tail step.1)
    (fun _ _ _ step => step.2) (fun budget _ => advances budget) run
  replace later : ReflTransGen Step budget last := ReflTransGen.mono (fun _ _ => And.left) _ _ later
  have jobs := Transition.invariant step_jobs (run.trans later) rfl
  obtain ⟨limited, -, -, bytes, counter⟩ :=
    Transition.invariant Kept.step (run.trans later) (new_kept limitBytes jobLimit)
  obtain rfl : last = new limitBytes jobLimit := by
    cases last
    simp_all [new]
  exact later

/-- Two calls with bytes for one of them. -/
theorem crowded_budget_restored : ReflTransGen Step
    { new 50 2 with jobs := 0, calls := [(38, .admitted), (38, .admitted)] } (new 50 2) :=
  budget_restored 50 2 _ <| .tail
    (.single (.enter ⟨"", .empty⟩ "" ⟨38, 38⟩ rfl (by decide) (by decide)))
    (.enter ⟨"", .empty⟩ "" ⟨38, 38⟩ rfl (by decide) (by decide))

end DeadLetterEncodingBudget

end Aeris.Usage
