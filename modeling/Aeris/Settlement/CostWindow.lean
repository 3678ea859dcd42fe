import Aeris.Base.Quota
import Aeris.Settlement.AttemptSafety
import Aeris.Settlement.PolicySteps

/-! The cost rows of one subject in one window as a quota. Plain reservations and
attempts are admitted into the same window, and a cleanup removes rows. -/
namespace Aeris.Settlement

open List OrderedTable Nat

namespace SettlementRepository

variable {repo next : SettlementRepository}

/-! ## What is in the window -/

def rowCharge (row : StoredUsagePolicyCostReservation) : Nat :=
  match row.state with
  | .reserved => row.reservedCostUnits
  | .finalized => row.actualCostUnits.getD 0
  | .released => 0

def chargeIn (subject : String) (window : UsagePolicyCostWindow)
    (row : StoredUsagePolicyCostReservation) : Nat :=
  if inCostWindow subject window row then rowCharge row else 0

/-- The cost of the subject's rows that were admitted in the window. -/
def windowCharge (repo : SettlementRepository) (subject : String)
    (window : UsagePolicyCostWindow) : Nat :=
  repo.costReservations.total (chargeIn subject window)

def removedCharge (repo : SettlementRepository) (subject : String)
    (window : UsagePolicyCostWindow) : Operation → Nat
  | .cleanupUsagePolicyCostReservations nowUnixSecs batchSize =>
    repo.windowCharge subject window -
      (cleanupUsagePolicyCostReservations nowUnixSecs batchSize repo).2.windowCharge subject
        window
  | _ => 0

/-- What all the cleanups of a run have taken out of the window. -/
def retiredCharge (subject : String) (window : UsagePolicyCostWindow) :
    SettlementRepository → List Operation → Nat
  | _, [] => 0
  | repo, operation :: rest =>
    repo.removedCharge subject window operation +
      retiredCharge subject window (repo.apply operation) rest

def AdmittedIn (subject : String) (window : UsagePolicyCostWindow)
    (input : ReserveUsagePolicyCostInput) : Prop :=
  input.subjectId = subject ∧ window.startsAtUnixSecs ≤ input.admittedAtUnixSecs ∧
    input.admittedAtUnixSecs < window.endsAtUnixSecs

/-- No row was finalized above what it had reserved. -/
def FinalizedWithin (repo : SettlementRepository) : Prop :=
  ∀ row ∈ repo.costReservations.values, row.state = .finalized →
    row.actualCostUnits.getD 0 ≤ row.reservedCostUnits

instance (repo : SettlementRepository) : Decidable repo.FinalizedWithin :=
  inferInstanceAs (Decidable (∀ row ∈ repo.costReservations.values, row.state = .finalized →
    row.actualCostUnits.getD 0 ≤ row.reservedCostUnits))

def Throughout (holds : SettlementRepository → Prop) : SettlementRepository → List Operation → Prop
  | repo, [] => holds repo
  | repo, operation :: rest => holds repo ∧ Throughout holds (repo.apply operation) rest

instance decidableThroughout (holds : SettlementRepository → Prop) [DecidablePred holds] :
    ∀ repo operations, Decidable (Throughout holds repo operations)
  | repo, [] => inferInstanceAs (Decidable (holds repo))
  | repo, operation :: rest =>
    have := decidableThroughout holds (repo.apply operation) rest
    inferInstanceAs (Decidable (holds repo ∧ Throughout holds (repo.apply operation) rest))

theorem Throughout.start {holds operations}
    (throughout : Throughout holds repo operations) : holds repo := by
  cases operations with
  | nil => exact throughout
  | cons operation rest => exact throughout.1

/-! ## Rows -/

structure RowsSound (subject : String) (window : UsagePolicyCostWindow)
    (rows : Table StoredUsagePolicyCostReservation) : Prop where
  keyed : ∀ token row, rows.get? token = some row → row.reservationToken = token
  lasting : ∀ token row, rows.get? token = some row → inCostWindow subject window row →
    window.endsAtUnixSecs ≤ row.reservationExpiresAtUnixSecs ∧
      window.endsAtUnixSecs ≤ row.retainUntilUnixSecs

variable {window : UsagePolicyCostWindow} {subject : String}
  {row : StoredUsagePolicyCostReservation} {token : String}

variable {rows : Table StoredUsagePolicyCostReservation}

theorem RowsSound.insert (sound : RowsSound subject window rows)
    (own : row.reservationToken = token)
    (lasts : inCostWindow subject window row →
      window.endsAtUnixSecs ≤ row.reservationExpiresAtUnixSecs ∧
        window.endsAtUnixSecs ≤ row.retainUntilUnixSecs) :
    RowsSound subject window (rows.insert token row) where
  keyed := forall_insert own sound.keyed
  lasting := forall_insert lasts sound.lasting

theorem RowsSound.of_sub {fewer} (sound : RowsSound subject window rows)
    (sub : ∀ token row, fewer.get? token = some row → rows.get? token = some row) :
    RowsSound subject window fewer := by
  constructor
  · intro token row found
    exact sound.keyed token row (sub token row found)
  · intro token row found
    exact sound.lasting token row (sub token row found)

theorem rowCost_eq {admittedAt} (sound : RowsSound subject window repo.costReservations)
    (found : repo.costReservations.get? token = some row)
    (inside : inCostWindow subject window row) (early : admittedAt < window.endsAtUnixSecs) :
    repo.rowCost admittedAt row = rowCharge row := by
  have expires := (sound.lasting token row found inside).1
  unfold rowCost rowCharge
  cases row.state with
  | reserved =>
    rw [if_pos (.inr (lt_of_lt_of_le early expires))]
  | finalized => rfl
  | released => rfl

theorem inCostWindow_iff (subject : String) (window : UsagePolicyCostWindow)
    (row : StoredUsagePolicyCostReservation) :
    inCostWindow subject window row ↔ row.subjectId = subject ∧
      window.startsAtUnixSecs ≤ row.admittedAtUnixSecs ∧
      row.admittedAtUnixSecs < window.endsAtUnixSecs := by
  simp [inCostWindow]

/-! ## An admission -/

structure SameWindow (window same : UsagePolicyCostWindow) : Prop where
  starts : same.startsAtUnixSecs = window.startsAtUnixSecs
  ends : same.endsAtUnixSecs = window.endsAtUnixSecs
  limit : same.limitCostUnits = window.limitCostUnits

variable {same : UsagePolicyCostWindow}

theorem SameWindow.inCostWindow {window} (agrees : SameWindow window same)
    (subject : String) (row : StoredUsagePolicyCostReservation) :
    inCostWindow subject same row = inCostWindow subject window row := by
  simp [SettlementRepository.inCostWindow, agrees.starts, agrees.ends]

variable {input : ReserveUsagePolicyCostInput}

theorem erased_le_windowCost {window} (sound : RowsSound subject window repo.costReservations)
    (inside : AdmittedIn subject window input) (agrees : SameWindow window same) :
    (repo.costReservations.erase input.reservationToken).total (chargeIn subject window) ≤
      repo.windowCost input (fun row => row.reservationToken = input.reservationToken) same := by
  have others := repo.costReservations.total_erase input.reservationToken (fun row =>
    if !(decide (row.reservationToken = input.reservationToken)) &&
        inCostWindow input.subjectId same row then repo.rowCost input.admittedAtUnixSecs row else 0)
  refine le_trans (total_mono _ ?_) (others ▸ le_add_right _ _)
  intro row member
  obtain ⟨token, found⟩ := (mem_values _ row).mp member
  rw [get?_erase] at found
  split_ifs at found with erased
  have own := sound.keyed token row found
  rw [inside.1, agrees.inCostWindow]
  unfold chargeIn
  by_cases counts : inCostWindow subject window row
  · rw [if_pos counts, rowCost_eq sound found counts inside.2.2]
    simp [counts, own, erased]
  · simp [counts]

theorem admitted_charge {window existing} (sound : RowsSound subject window repo.costReservations)
    (inside : AdmittedIn subject window input) (agrees : SameWindow window same)
    (room : repo.windowCost input (fun row => row.reservationToken = input.reservationToken) same +
      (targetRow input existing).reservedCostUnits ≤ same.limitCostUnits) :
    (repo.costReservations.insert input.reservationToken (targetRow input existing)).total
      (chargeIn subject window) ≤ window.limitCostUnits := by
  have split := repo.costReservations.total_insert input.reservationToken
    (targetRow input existing) (chargeIn subject window)
  have rest := repo.costReservations.total_erase input.reservationToken (chargeIn subject window)
  have counted := erased_le_windowCost sound inside agrees
  have charge : chargeIn subject window (targetRow input existing) ≤
      (targetRow input existing).reservedCostUnits := by
    unfold chargeIn
    split_ifs
    · exact le_rfl
    · exact zero_le _
  rw [agrees.limit] at room
  omega

theorem outside_charge {existing} (outside : ¬ AdmittedIn subject window input) :
    (repo.costReservations.insert input.reservationToken (targetRow input existing)).total
      (chargeIn subject window) ≤ repo.windowCharge subject window := by
  have split := repo.costReservations.total_insert input.reservationToken
    (targetRow input existing) (chargeIn subject window)
  have free : chargeIn subject window (targetRow input existing) = 0 := by
    unfold chargeIn
    rw [if_neg]
    rw [inCostWindow_iff]
    exact outside
  unfold windowCharge
  omega

/-! ## The end of a row, and a cleanup -/

theorem ended_charge {state}
    (amount finalizedAt : Nat) (found : repo.costReservations.get? token = some row)
    (reserved : row.state = .reserved) (terminal : state ≠ .reserved)
    (bounded : state = .finalized → amount ≤ row.reservedCostUnits) :
    (repo.costReservations.insert token (endedRow row state amount finalizedAt)).total
      (chargeIn subject window) ≤ repo.windowCharge subject window := by
  have split := repo.costReservations.total_insert token
    (endedRow row state amount finalizedAt) (chargeIn subject window)
  have fewer : rowCharge (endedRow row state amount finalizedAt) ≤ rowCharge row := by
    unfold rowCharge
    rw [reserved]
    cases state with
    | reserved => exact absurd rfl terminal
    | finalized => exact bounded rfl
    | released => exact zero_le _
  have within : chargeIn subject window (endedRow row state amount finalizedAt) ≤
      chargeIn subject window row := by
    change (if inCostWindow subject window row then
      rowCharge (endedRow row state amount finalizedAt) else 0) ≤ chargeIn subject window row
    unfold chargeIn
    split_ifs
    · exact fewer
    · exact le_rfl
  rw [found, Option.elim_some] at split
  unfold windowCharge
  omega

theorem cleanup_late (sound : RowsSound subject window repo.costReservations)
    {nowUnixSecs batchSize}
    (took : (removeAll repo.costReservations
      (repo.expiredCostTokens nowUnixSecs batchSize)).total (chargeIn subject window) ≠
        repo.windowCharge subject window) : window.endsAtUnixSecs ≤ nowUnixSecs := by
  by_contra early
  apply took
  apply total_removeAll_free
  intro token listed row found
  obtain ⟨stored, present, expired⟩ := expiredTokens_expired listed
  cases found.symm.trans present
  have past : row.retainUntilUnixSecs ≤ nowUnixSecs := by
    simp only [decide_eq_true_eq] at expired
    exact expired.1
  unfold chargeIn
  rw [if_neg]
  intro inside
  have lasts := (sound.lasting token row found inside).2
  omega

/-! ## Runs -/

/-- What the callers of the usage policy promise about a window of a subject. -/
structure CostPromise (subject : String) (window : UsagePolicyCostWindow)
    (operations : List Operation) : Prop where
  listed : ∀ operation ∈ operations, ∀ input, operation.costInput = some input →
    AdmittedIn subject window input → ∃ same ∈ input.windows, SameWindow window same
  lasting : ∀ input, .reserveUsagePolicyCost input ∈ operations →
    AdmittedIn subject window input →
      window.endsAtUnixSecs ≤ input.reservationExpiresAtUnixSecs ∧
        window.endsAtUnixSecs ≤ input.retainUntilUnixSecs
  ordered : operations.Pairwise (fun earlier later => ∀ nowUnixSecs batchSize input,
    earlier = .cleanupUsagePolicyCostReservations nowUnixSecs batchSize →
      later.costInput = some input → AdmittedIn subject window input →
        nowUnixSecs ≤ input.admittedAtUnixSecs)

variable {operation : Operation}

theorem CostPromise.rest {rest} (promise : CostPromise subject window (operation :: rest)) :
    CostPromise subject window rest where
  listed := fun other member => promise.listed other (mem_cons_of_mem _ member)
  lasting := fun input member => promise.lasting input (mem_cons_of_mem _ member)
  ordered := (pairwise_cons.mp promise.ordered).2

/-- Nothing more is admitted into the window. -/
def WindowOver (subject : String) (window : UsagePolicyCostWindow)
    (operations : List Operation) : Prop :=
  ∀ operation ∈ operations, ∀ input, operation.costInput = some input →
    ¬ AdmittedIn subject window input

/-- A state with the charge that cleanups have taken out of the window. -/
abbrev CostState := SettlementRepository × Nat

def costNext (subject : String) (window : UsagePolicyCostWindow) (state : CostState)
    (operation : Operation) : CostState :=
  (state.1.apply operation, state.2 + state.1.removedCharge subject window operation)

def costLoad (subject : String) (window : UsagePolicyCostWindow) (state : CostState) :
    Quota.Load where
  active := state.1.windowCharge subject window
  retired := state.2

structure CostGuard (subject : String) (window : UsagePolicyCostWindow) (state : CostState)
    (operations : List Operation) : Prop where
  rows : RowsSound subject window state.1.costReservations
  promise : CostPromise subject window operations
  finalized : Throughout FinalizedWithin state.1 operations
  gate : state.2 = 0 ∨ WindowOver subject window operations

theorem CostGuard.gate_rest {state rest}
    (guard : CostGuard subject window state (operation :: rest)) :
    state.2 = 0 ∨ WindowOver subject window rest :=
  guard.gate.imp id (fun none_ other member => none_ other (mem_cons_of_mem _ member))

theorem cleanup_quota {state nowUnixSecs batchSize rest}
    (guard : CostGuard subject window state
      (.cleanupUsagePolicyCostReservations nowUnixSecs batchSize :: rest)) :
    CostGuard subject window (costNext subject window state
      (.cleanupUsagePolicyCostReservations nowUnixSecs batchSize)) rest ∧
    Quota.Step window.limitCostUnits (costLoad subject window state)
      (costLoad subject window (costNext subject window state
        (.cleanupUsagePolicyCostReservations nowUnixSecs batchSize))) := by
  obtain ⟨repo, retired⟩ := state
  have fewer : (cleanupUsagePolicyCostReservations nowUnixSecs batchSize repo).2.windowCharge
      subject window ≤ repo.windowCharge subject window :=
    total_removeAll_le _ _ _
  constructor
  · refine ⟨?_, guard.promise.rest, guard.finalized.2, ?_⟩
    · apply guard.rows.of_sub
      intro token row found
      rcases cleanup_get? repo.costReservations (fun token row =>
          row.retainUntilUnixSecs ≤ nowUnixSecs ∧ ¬ repo.isAttemptCostToken token)
          batchSize token with same | ⟨gone, _⟩
      · exact same ▸ found
      · cases gone.symm.trans found
    · by_cases took : (removeAll repo.costReservations
          (repo.expiredCostTokens nowUnixSecs batchSize)).total (chargeIn subject window) =
            repo.windowCharge subject window
      · have nothing : repo.removedCharge subject window
            (.cleanupUsagePolicyCostReservations nowUnixSecs batchSize) = 0 :=
          Nat.sub_eq_zero_of_le took.ge
        exact guard.gate_rest.imp (fun zero => by rw [costNext, nothing, zero]) id
      · -- every later admission is after the cleanup, and so after the window
        right
        intro operation member input asked inside
        have late := cleanup_late guard.rows took
        have after := (pairwise_cons.mp guard.promise.ordered).1 operation member nowUnixSecs
          batchSize input rfl asked inside
        have before := inside.2.2
        omega
  · apply Quota.Step.retire (repo.removedCharge subject window
      (.cleanupUsagePolicyCostReservations nowUnixSecs batchSize)) _ rfl
    exact (Nat.add_sub_cancel' fewer).le

theorem costStep_quota {retired rest}
    (guard : CostGuard subject window (repo, retired) (operation :: rest))
    (other : ∀ nowUnixSecs batchSize,
      operation ≠ .cleanupUsagePolicyCostReservations nowUnixSecs batchSize)
    (finalized : ∀ token row, rows.get? token = some row → row.state = .finalized →
      row.actualCostUnits.getD 0 ≤ row.reservedCostUnits) (step : CostStep repo operation rows) :
    RowsSound subject window rows ∧
      (rows.total (chargeIn subject window) ≤ repo.windowCharge subject window ∨
        retired = 0 ∧ rows.total (chargeIn subject window) ≤ window.limitCostUnits) := by
  cases step with
  | unchanged => exact ⟨guard.rows, .inl le_rfl⟩
  | cleaned nowUnixSecs batchSize same => exact absurd same (other _ _)
  | ended token row state amount finalizedAt found reserved terminal =>
    constructor
    · exact guard.rows.insert (guard.rows.keyed token row found)
        (guard.rows.lasting token row found)
    · left
      apply ended_charge amount finalizedAt found reserved terminal
      exact finalized token _ (get?_insert_self _ _ _)
  | admitted input existing asked found retry lasting room =>
    by_cases inside : AdmittedIn subject window input
    · obtain ⟨same, member, agrees⟩ :=
        guard.promise.listed operation mem_cons_self input asked inside
      have lasts : window.endsAtUnixSecs ≤ input.reservationExpiresAtUnixSecs ∧
          window.endsAtUnixSecs ≤ input.retainUntilUnixSecs := by
        rcases lasting with rfl | lasting
        · exact guard.promise.lasting input mem_cons_self inside
        · exact agrees.ends ▸ lasting same member
      constructor
      · refine guard.rows.insert rfl ?_
        intro _
        exact ⟨lasts.1.trans (le_max_right _ _), lasts.2.trans (le_max_right _ _)⟩
      · right
        constructor
        · rcases guard.gate with zero | none_
          · exact zero
          · exact absurd inside (none_ operation mem_cons_self input asked)
        · exact admitted_charge guard.rows inside agrees (room same member)
    · constructor
      · refine guard.rows.insert rfl ?_
        intro counts
        exact absurd ((inCostWindow_iff _ _ _).mp counts) inside
      · left
        exact outside_charge inside

theorem costGuard_next (state : CostState) (operation : Operation) (rest : List Operation)
    (guard : CostGuard subject window state (operation :: rest)) :
    CostGuard subject window (costNext subject window state operation) rest ∧
      Quota.Step window.limitCostUnits (costLoad subject window state)
        (costLoad subject window (costNext subject window state operation)) := by
  by_cases cleaning : ∃ nowUnixSecs batchSize,
      operation = .cleanupUsagePolicyCostReservations nowUnixSecs batchSize
  · obtain ⟨nowUnixSecs, batchSize, rfl⟩ := cleaning
    exact cleanup_quota guard
  have other : ∀ nowUnixSecs batchSize,
      operation ≠ .cleanupUsagePolicyCostReservations nowUnixSecs batchSize :=
    fun nowUnixSecs batchSize same => cleaning ⟨nowUnixSecs, batchSize, same⟩
  obtain ⟨repo, retired⟩ := state
  have none_ : repo.removedCharge subject window operation = 0 := by
    cases operation with
    | cleanupUsagePolicyCostReservations nowUnixSecs batchSize => exact absurd rfl (other _ _)
    | _ => rfl
  have finalized := guard.finalized.2.start
  obtain ⟨rows, charge⟩ := costStep_quota guard other
    (fun token row found => finalized row ((mem_values _ row).mpr ⟨token, found⟩))
    (operation_costStep repo operation)
  constructor
  · refine ⟨rows, guard.promise.rest, guard.finalized.2, ?_⟩
    exact guard.gate_rest.imp (fun zero => by rw [costNext, none_]; exact zero) id
  · rcases charge with fewer | ⟨zero, room⟩
    · exact .shrink fewer (by simp [costLoad, costNext, none_])
    · exact .grant zero (by simp [costLoad, costNext, none_, zero]) room

theorem costNext_run (subject : String) (window : UsagePolicyCostWindow)
    (operations : List Operation) : ∀ repo retired,
    operations.foldl (costNext subject window) (repo, retired) =
      (repo.run operations, retired + retiredCharge subject window repo operations) := by
  induction operations with
  | nil => intro repo retired; rfl
  | cons operation rest ih =>
    intro repo retired
    rw [foldl_cons, costNext, ih, run_cons, retiredCharge, add_assoc]

/-- A cost window is never oversold. For a subject and a window that every
reserve input of the subject admitted in it lists, plain or with an attempt: after
any calls, the cost of the subject's rows in the window is at most the limit, even
with the rows that cleanups have removed. Plain reservations must not expire or be
removable before the window ends, a cleanup must not be later than the admissions
that follow it, and no row may be finalized above what it has reserved. -/
theorem cost_window_not_oversold (start : SettlementRepository) (operations : List Operation)
    (subject : String) (window : UsagePolicyCostWindow)
    (empty : start.costReservations = .empty) (promise : CostPromise subject window operations)
    (finalized : Throughout FinalizedWithin start operations) :
    (start.run operations).windowCharge subject window +
      retiredCharge subject window start operations ≤ window.limitCostUnits := by
  have guard : CostGuard subject window (start, 0) operations := by
    refine ⟨⟨?_, ?_⟩, promise, finalized, .inl rfl⟩
    · intro token row found
      rw [empty] at found
      cases found
    · intro token row found
      rw [empty] at found
      cases found
  have within : Quota.Within window.limitCostUnits (costLoad subject window (start, 0)) := by
    simp [Quota.Within, costLoad, windowCharge, empty, OrderedTable.total, OrderedTable.values,
      OrderedTable.empty]
  have final := (Quota.run_within (costNext subject window) (costLoad subject window)
    (CostGuard subject window) costGuard_next operations (start, 0) guard within).2
  rw [costNext_run] at final
  simpa [Quota.Within, costLoad] using final

def sampleWindow : UsagePolicyCostWindow := ⟨"day", 0, 100, 600000000⟩

/-- A plain reservation in the window of the sample attempt. -/
def samplePlainCost (reservedCostUnits : Nat) : ReserveUsagePolicyCostInput where
  requestId := "plain-request"
  subjectId := "user"
  reservationToken := "plain-token"
  admittedAtUnixSecs := 12
  reservedCostUnits := reservedCostUnits
  reservationExpiresAtUnixSecs := 100
  retainUntilUnixSecs := 100
  windows := [sampleWindow]

def sampleReconcile : ReconcileUsagePolicyCostInput where
  requestId := "plain-request"
  subjectId := "user"
  reservationToken := "plain-token"
  actualCostUnits := 40000000
  terminalState := .finalized
  finalizedAtUnixSecs := 30

/-- A plain reservation is raised by a retry, the attempt fills the window, both
are charged, and a cleanup removes the plain row. -/
def sampleCostRun : List Operation :=
  [.reserveUsagePolicyCost (samplePlainCost 30000000),
    .reserveUsagePolicyCost (samplePlainCost 50000000), .reserveRequestAttemptFunds sampleAttempt,
    .markRequestAttemptFundsDispatched sampleAttempt.identity 13,
    .recordRequestAttemptFundsOutcome sampleOutcome, .reconcileUsagePolicyCost sampleReconcile,
    .cleanupUsagePolicyCostReservations 100 10]

theorem sampleCostRun_promise : CostPromise "user" sampleWindow sampleCostRun where
  listed := by
    intro operation member input asked _
    simp only [sampleCostRun, mem_cons, not_mem_nil, or_false] at member
    rcases member with rfl | rfl | rfl | rfl | rfl | rfl | rfl <;> cases asked <;>
      exact ⟨sampleWindow, mem_cons_self, rfl, rfl, rfl⟩
  lasting := by
    intro input member _
    simp only [sampleCostRun, mem_cons, not_mem_nil, or_false, reduceCtorEq,
      Operation.reserveUsagePolicyCost.injEq] at member
    rcases member with rfl | rfl <;> decide
  ordered := by simp [sampleCostRun]

theorem cost_window_not_oversold_sample :
    ((sampleStart.run (sampleCostRun.take 3)).windowCharge "user" sampleWindow = 600000000 ∧
      retiredCharge "user" sampleWindow sampleStart sampleCostRun = 40000000) ∧
    (sampleStart.run sampleCostRun).windowCharge "user" sampleWindow +
      retiredCharge "user" sampleWindow sampleStart sampleCostRun ≤ 600000000 :=
  ⟨by decide +kernel,
    cost_window_not_oversold sampleStart sampleCostRun "user" sampleWindow rfl
      sampleCostRun_promise (by decide +kernel)⟩

end SettlementRepository

end Aeris.Settlement
