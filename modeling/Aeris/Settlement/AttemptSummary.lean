import Aeris.Settlement.AttemptFunding

/-! The summary of a request's attempts: that it can always be computed for the
64 attempts a request may have, and what it says about the gate of admission. -/
namespace Aeris.Settlement

open RustStd List Nat

variable {target amount : Nat}

theorem addAggregate_ok (fits : target + amount ≤ i64Max) :
    addAggregate target amount = .ok (target + amount) := by
  have wide : target + amount ≤ u64Max := by unfold i64Max at fits; unfold u64Max; omega
  simp [addAggregate, checkedAdd, wide, fits, Option.filter]

theorem addAggregate_bounded {total} (success : addAggregate target amount = .ok total) :
    total ≤ i64Max := by
  unfold addAggregate at success
  split at success
  · rename_i found
    cases success
    simpa using (Option.filter_eq_some_iff.mp found).2
  · cases success

/-! ## Computing the summary -/

namespace StoredRequestAttemptFunds

/-- The amounts of an attempt are in the range of the ledger. -/
structure Bounded (attempt : StoredRequestAttemptFunds) : Prop where
  authorized : attempt.funds.quote.authorizedCostUnits ≤ maxRequestFundsUnits
  collected : attempt.funds.collectedCostUnits ≤ maxRequestFundsUnits
  charged : ∀ usage, attempt.chargedUsage = some usage →
    usage.totalCostUnits ≤ maxRequestFundsUnits ∧ usage.actualCostUnits ≤ maxRequestFundsUnits

end StoredRequestAttemptFunds

namespace RequestFundsSummary

/-- The size of a summary of `count` attempts. -/
structure Within (count : Nat) (summary : RequestFundsSummary) : Prop where
  attempts : summary.attemptCount ≤ count
  unknown : summary.unknownAttempts ≤ count
  prepared : summary.preparedAttempts ≤ count
  total : summary.knownTotalCostUnits ≤ count * maxRequestFundsUnits
  actual : summary.knownActualCostUnits ≤ count * maxRequestFundsUnits
  collected : summary.collectedCostUnits ≤ count * maxRequestFundsUnits
  held : summary.heldCostUnits ≤ count * maxRequestFundsUnits

theorem sum_fits {count} (room : count < 64) (sofar : target ≤ count * maxRequestFundsUnits)
    (bounded : amount ≤ maxRequestFundsUnits) : target + amount ≤ i64Max := by
  have all : (count + 1) * maxRequestFundsUnits ≤ 64 * maxRequestFundsUnits :=
    mul_le_mul_right _ room
  have limit : 64 * maxRequestFundsUnits ≤ i64Max := by decide
  rw [succ_mul] at all
  omega

theorem count_fits {count} (room : count < 64) (sofar : target ≤ count) : target + 1 ≤ i64Max := by
  unfold i64Max
  omega

section

variable (count : Nat) (summary : RequestFundsSummary) (attempt : StoredRequestAttemptFunds)
  (room : count < 64)
include count summary attempt room

theorem addHeld_within (bounded : attempt.funds.quote.authorizedCostUnits ≤ maxRequestFundsUnits)
    (held : summary.heldCostUnits ≤ count * maxRequestFundsUnits)
    (unknown : summary.unknownAttempts ≤ count) (prepared : summary.preparedAttempts ≤ count) :
    ∃ heldUnits unknownAttempts preparedAttempts,
      summary.addHeld attempt = .ok { summary with
        heldCostUnits := heldUnits
        unknownAttempts := unknownAttempts
        preparedAttempts := preparedAttempts } ∧
      heldUnits ≤ (count + 1) * maxRequestFundsUnits ∧
      unknownAttempts ≤ count + 1 ∧ preparedAttempts ≤ count + 1 := by
  unfold addHeld
  rw [succ_mul]
  split_ifs with holding dispatched
  · rw [addAggregate_ok (sum_fits room held bounded), addAggregate_ok (count_fits room unknown)]
    exact ⟨_, _, summary.preparedAttempts, rfl, by omega, by omega, by omega⟩
  · rw [addAggregate_ok (sum_fits room held bounded), addAggregate_ok (count_fits room prepared)]
    exact ⟨_, summary.unknownAttempts, _, rfl, by omega, by omega, by omega⟩
  · exact ⟨summary.heldCostUnits, summary.unknownAttempts, summary.preparedAttempts, rfl,
      by omega, by omega, by omega⟩

theorem addCharged_within
    (bounded : ∀ usage, attempt.chargedUsage = some usage → usage.totalCostUnits ≤
      maxRequestFundsUnits ∧ usage.actualCostUnits ≤ maxRequestFundsUnits)
    (total : summary.knownTotalCostUnits ≤ count * maxRequestFundsUnits)
    (actual : summary.knownActualCostUnits ≤ count * maxRequestFundsUnits) :
    ∃ totalUnits actualUnits reconcile,
      summary.addCharged attempt = .ok { summary with
        knownTotalCostUnits := totalUnits
        knownActualCostUnits := actualUnits
        requiresReconciliation := reconcile } ∧
      totalUnits ≤ (count + 1) * maxRequestFundsUnits ∧
      actualUnits ≤ (count + 1) * maxRequestFundsUnits := by
  unfold addCharged
  rw [succ_mul]
  cases charged : attempt.chargedUsage with
  | none =>
    exact ⟨summary.knownTotalCostUnits, summary.knownActualCostUnits,
      summary.requiresReconciliation, rfl, by omega, by omega⟩
  | some usage =>
    obtain ⟨totalBound, actualBound⟩ := bounded usage charged
    simp only
    rw [addAggregate_ok (sum_fits room total totalBound),
      addAggregate_ok (sum_fits room actual actualBound)]
    exact ⟨_, _, _, rfl, by omega, by omega⟩

theorem addAttempt_within (bounded : attempt.Bounded) (within : summary.Within count) :
    ∃ next, summary.addAttempt attempt = .ok next ∧ next.Within (count + 1) := by
  have attempts := within.attempts
  have collected := within.collected
  have units := bounded.collected
  obtain ⟨held, unknown, prepared, first, heldBound, unknownBound, preparedBound⟩ :=
    addHeld_within count { summary with
      attemptCount := summary.attemptCount + 1
      collectedCostUnits := summary.collectedCostUnits + attempt.funds.collectedCostUnits }
      attempt room bounded.authorized within.held within.unknown within.prepared
  obtain ⟨total, actual, reconcile, second, totalBound, actualBound⟩ :=
    addCharged_within count { summary with
      attemptCount := summary.attemptCount + 1
      collectedCostUnits := summary.collectedCostUnits + attempt.funds.collectedCostUnits
      heldCostUnits := held
      unknownAttempts := unknown
      preparedAttempts := prepared }
      attempt room bounded.charged within.total within.actual
  unfold addAttempt
  rw [addAggregate_ok (count_fits room within.attempts),
    addAggregate_ok (sum_fits room within.collected bounded.collected)]
  simp only [bind, Except.bind, first, second]
  have collectedBound : summary.collectedCostUnits + attempt.funds.collectedCostUnits ≤
      (count + 1) * maxRequestFundsUnits := by
    rw [succ_mul]
    omega
  exact ⟨_, rfl, Nat.add_le_add_right attempts 1, unknownBound, preparedBound, totalBound,
    actualBound, collectedBound, heldBound⟩

end

theorem foldlM_within (attempts : List StoredRequestAttemptFunds) :
    ∀ count summary, count + attempts.length ≤ 64 → summary.Within count →
      (∀ attempt ∈ attempts, attempt.Bounded) →
        ∃ final, attempts.foldlM addAttempt summary = .ok final := by
  induction attempts with
  | nil => intro count summary _ _ _; exact ⟨summary, rfl⟩
  | cons attempt rest ih =>
    intro count summary few within bounded
    rw [length_cons] at few
    obtain ⟨next, added, larger⟩ := addAttempt_within count summary attempt (by omega)
      (bounded attempt mem_cons_self) within
    obtain ⟨final, folded⟩ := ih (count + 1) next (by omega) larger
      (fun other member => bounded other (mem_cons_of_mem _ member))
    exact ⟨final, by rw [foldlM_cons, added]; exact folded⟩

end RequestFundsSummary

variable {attempts : List StoredRequestAttemptFunds}

theorem summarize_ok (closed : Bool) (few : attempts.length ≤ 64)
    (bounded : ∀ attempt ∈ attempts, attempt.Bounded) :
    ∃ summary, summarizeRequestAttemptFunds attempts closed = .ok summary := by
  apply RequestFundsSummary.foldlM_within attempts 0 _ (by omega) _ bounded
  constructor <;> simp [RequestFundsSummary.default]

/-! ## What the summary keeps -/

namespace RequestFundsSummary

/-- What no attempt changes in a summary, and the bound of the known cost. -/
structure SameGate (before after : RequestFundsSummary) : Prop where
  closed : after.admissionClosed = before.admissionClosed
  closedAt : after.admissionClosedAtUnixSecs = before.admissionClosedAtUnixSecs
  known : before.knownActualCostUnits ≤ i64Max → after.knownActualCostUnits ≤ i64Max

section

variable (summary next : RequestFundsSummary) (attempt : StoredRequestAttemptFunds)
include summary next attempt

theorem addHeld_gate (success : summary.addHeld attempt = .ok next) : SameGate summary next := by
  unfold addHeld at success
  split_ifs at success
  · obtain ⟨held, _, success⟩ := bind_ok success
    obtain ⟨unknown, _, success⟩ := bind_ok success
    cases success
    exact ⟨rfl, rfl, id⟩
  · obtain ⟨held, _, success⟩ := bind_ok success
    obtain ⟨prepared, _, success⟩ := bind_ok success
    cases success
    exact ⟨rfl, rfl, id⟩
  · cases success
    exact ⟨rfl, rfl, id⟩

theorem addCharged_gate (success : summary.addCharged attempt = .ok next) :
    SameGate summary next := by
  unfold addCharged at success
  cases charged : attempt.chargedUsage with
  | none => simp only [charged] at success; cases success; exact ⟨rfl, rfl, id⟩
  | some usage =>
    simp only [charged] at success
    obtain ⟨total, _, success⟩ := bind_ok success
    obtain ⟨actual, added, success⟩ := bind_ok success
    cases success
    exact ⟨rfl, rfl, fun _ => addAggregate_bounded added⟩

theorem addAttempt_gate (success : summary.addAttempt attempt = .ok next) :
    SameGate summary next := by
  obtain ⟨count, _, success⟩ := bind_ok success
  obtain ⟨collected, _, success⟩ := bind_ok success
  obtain ⟨middle, held, success⟩ := bind_ok success
  obtain ⟨last, charged, success⟩ := bind_ok success
  cases success
  have first := addHeld_gate _ middle attempt held
  have second := addCharged_gate middle last attempt charged
  exact ⟨second.closed.trans first.closed, second.closedAt.trans first.closedAt,
    fun known => second.known (first.known known)⟩

end

theorem foldlM_gate (attempts : List StoredRequestAttemptFunds) : ∀ summary final,
    attempts.foldlM addAttempt summary = .ok final → SameGate summary final := by
  induction attempts with
  | nil => intro summary final success; cases success; exact ⟨rfl, rfl, id⟩
  | cons attempt rest ih =>
    intro summary final success
    obtain ⟨next, added, success⟩ := bind_ok success
    have first := addAttempt_gate summary next attempt added
    have second := ih next final success
    exact ⟨second.closed.trans first.closed, second.closedAt.trans first.closedAt,
      fun known => second.known (first.known known)⟩

end RequestFundsSummary

theorem summarize_gate (attempts : List StoredRequestAttemptFunds) (closed : Bool)
    (summary : RequestFundsSummary)
    (success : summarizeRequestAttemptFunds attempts closed = .ok summary) :
    summary.admissionClosed = closed ∧ summary.admissionClosedAtUnixSecs = none ∧
      summary.knownActualCostUnits ≤ i64Max := by
  have gate := RequestFundsSummary.foldlM_gate attempts _ summary success
  exact ⟨gate.closed, gate.closedAt, gate.known (zero_le _)⟩

/-! ## The staged parent -/

/-- The tokens of the charged usages add up within their range. -/
def TokensFit (attempts : List StoredRequestAttemptFunds) : Prop :=
  ∃ counted, aggregateTokens (attempts.filterMap (fun attempt => attempt.chargedUsage)) =
    .ok counted

/-- The stored summary is the summary of the attempts, with the time of the close. -/
def IsSummary (summary : RequestFundsSummary) (attempts : List StoredRequestAttemptFunds) : Prop :=
  summarizeRequestAttemptFunds attempts summary.admissionClosed =
    .ok { summary with admissionClosedAtUnixSecs := none }

def Staged.isClosed (staged : Staged) : Bool :=
  staged.summary.any (fun summary => summary.admissionClosed)

def Staged.closedAt (staged : Staged) : Option Nat :=
  staged.summary.bind (fun summary => summary.admissionClosedAtUnixSecs)

theorem applySummary_ok (staged : Staged) (few : attempts.length ≤ 64)
    (bounded : ∀ attempt ∈ attempts, attempt.Bounded) (fit : TokensFit attempts) :
    ∃ next, applySummary staged attempts = .ok next := by
  obtain ⟨summary, summarized⟩ := summarize_ok staged.isClosed few bounded
  obtain ⟨⟨tokens, total⟩, counted⟩ := fit
  let dated := { summary with admissionClosedAtUnixSecs := staged.closedAt }
  refine ⟨⟨staged.parent.withSummary dated tokens total, some dated⟩, ?_⟩
  change (summarizeRequestAttemptFunds attempts staged.isClosed >>= _) = _
  rw [summarized]
  rw [counted]
  rfl

/-- What a successful recomputation leaves in the staged parent. -/
structure Recomputed (staged next : Staged) (attempts : List StoredRequestAttemptFunds)
    (summary : RequestFundsSummary) : Prop where
  stored : next.summary = some summary
  summarizes : IsSummary summary attempts
  closed : summary.admissionClosed = staged.isClosed
  closedAt : summary.admissionClosedAtUnixSecs = staged.closedAt
  known : summary.knownActualCostUnits ≤ i64Max
  billing : next.parent.billingStatus = if summary.isSettled then "settled" else "pending"
  id : next.parent.id = staged.parent.id
  requestId : next.parent.requestId = staged.parent.requestId

theorem applySummary_recomputed {staged next} (success : applySummary staged attempts = .ok next) :
    TokensFit attempts ∧ ∃ summary, Recomputed staged next attempts summary := by
  obtain ⟨summary, summarized, success⟩ := bind_ok success
  obtain ⟨⟨tokens, total⟩, counted, success⟩ := bind_ok success
  cases success
  obtain ⟨closed, closedAt, known⟩ := summarize_gate attempts _ summary summarized
  refine ⟨⟨_, counted⟩, _, rfl, ?_, closed, rfl, known, rfl, rfl, rfl⟩
  have undated : { summary with admissionClosedAtUnixSecs := none } = summary := by
    cases summary
    cases closedAt
    rfl
  change summarizeRequestAttemptFunds attempts summary.admissionClosed =
    .ok { summary with admissionClosedAtUnixSecs := none }
  rw [undated, closed]
  exact summarized

/-! ## The daily cost allows the staged parent -/

/-- The contribution belongs to the parent and may count attempts. -/
structure DailyCostContribution.OpenFor (contribution : DailyCostContribution)
    (parent : StoredRequestUsageAudit) : Prop where
  requestId : contribution.requestId = parent.requestId
  usageId : contribution.usageId = parent.id
  convertible : contribution.attemptFunds = true ∨
    contribution.accountingAtUnixSecs = none ∧ contribution.actualCostUnits = 0
  inRange : ∀ time, contribution.accountingAtUnixSecs = some time → time ≤ i64Max

theorem DailyCostContribution.OpenFor.staged {previous : Option DailyCostContribution}
    {parent staged} (open_ : (previous.getD (newDailyCostContribution parent)).OpenFor parent)
    (id : staged.id = parent.id) (requestId : staged.requestId = parent.requestId) :
    (previous.getD (newDailyCostContribution staged)).OpenFor staged := by
  cases previous with
  | none => exact ⟨rfl, rfl, .inr ⟨rfl, rfl⟩, by simp [newDailyCostContribution]⟩
  | some contribution =>
    exact ⟨open_.requestId.trans requestId.symm, open_.usageId.trans id.symm, open_.convertible,
      open_.inRange⟩

theorem withFunds_ok {contribution : DailyCostContribution} {parent}
    {summary} (open_ : contribution.OpenFor parent) (known : summary.knownActualCostUnits ≤ i64Max)
    (dated : summary.admissionClosed →
      ∃ time, summary.admissionClosedAtUnixSecs = some time ∧ time ≤ i64Max) :
    ∃ next, contribution.withFunds summary = .ok next ∧ next.attemptFunds = true ∧
      next.OpenFor parent := by
  have legacy : ¬ (¬ contribution.attemptFunds ∧
      (contribution.accountingAtUnixSecs.isSome ∨ contribution.actualCostUnits ≠ 0)) := by
    rcases open_.convertible with counted | ⟨unaccounted, zero⟩
    · simp [counted]
    · simp [unaccounted, zero]
  unfold DailyCostContribution.withFunds
  rw [if_neg legacy, if_neg (not_lt.mpr known)]
  split_ifs with closing
  · obtain ⟨time, stored, inRange⟩ := dated closing.1
    simp only [stored]
    refine ⟨_, rfl, rfl, open_.requestId, open_.usageId, .inl rfl, ?_⟩
    intro accounted same
    cases same
    exact inRange
  · exact ⟨_, rfl, rfl, open_.requestId, open_.usageId, .inl rfl, open_.inRange⟩

theorem nextDaily_ok (previous : Option DailyCostContribution) (parent : StoredRequestUsageAudit)
    (summary : RequestFundsSummary)
    (open_ : (previous.getD (newDailyCostContribution parent)).OpenFor parent)
    (known : summary.knownActualCostUnits ≤ i64Max)
    (dated : summary.admissionClosed →
      ∃ time, summary.admissionClosedAtUnixSecs = some time ∧ time ≤ i64Max) :
    ∃ next, nextDailyCostContribution previous parent (some summary) = .ok next ∧
      next.attemptFunds = true ∧ next.OpenFor parent := by
  obtain ⟨next, counted, attempts, stays⟩ := withFunds_ok open_ known dated
  refine ⟨next, ?_, attempts, stays⟩
  have foreign : ¬ ((previous.getD (newDailyCostContribution parent)).requestId ≠
      parent.requestId ∨ (previous.getD
        (newDailyCostContribution parent)).usageId ≠ parent.id) := by
    simp [open_.requestId, open_.usageId]
  have inRange : ¬ (next.accountingAtUnixSecs.any (fun time => time > i64Max)) := by
    cases dated : next.accountingAtUnixSecs with
    | none => simp
    | some time => simpa using stays.inRange time dated
  unfold nextDailyCostContribution
  dsimp only
  rw [if_neg foreign, counted]
  simp only [bind, Except.bind, if_neg inRange, pure, Except.pure]

theorem nextDaily_checked (previous : Option DailyCostContribution)
    (parent : StoredRequestUsageAudit) (summary : RequestFundsSummary)
    (checked : (nextDailyCostContribution previous parent (some summary)).isOk) :
    (previous.getD (newDailyCostContribution parent)).OpenFor parent := by
  obtain ⟨next, success⟩ : ∃ next,
      nextDailyCostContribution previous parent (some summary) = .ok next := by
    -- the check only asks whether there is a contribution
    cases result : nextDailyCostContribution previous parent (some summary) with
    | error failure => rw [result] at checked; cases checked
    | ok next => exact ⟨next, rfl⟩
  unfold nextDailyCostContribution at success
  generalize previous.getD (newDailyCostContribution parent) = contribution at *
  obtain ⟨own, success⟩ := refuse_ok success
  obtain ⟨counted, converted, success⟩ := bind_ok success
  obtain ⟨inRange, success⟩ := refuse_ok success
  obtain ⟨legacy, converted⟩ := refuse_ok converted
  obtain ⟨_, converted⟩ := refuse_ok converted
  constructor
  · tauto
  · tauto
  · cases counting : contribution.attemptFunds with
    | true => exact .inl rfl
    | false => right; simpa [counting] using legacy
  · intro time accounted
    rw [if_neg (by simp [accounted])] at converted
    cases converted
    simpa [accounted] using inRange

end Aeris.Settlement
