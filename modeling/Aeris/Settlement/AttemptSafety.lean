import Aeris.Settlement.AttemptOperations
import Aeris.Settlement.FundsSafety

/-! Two properties of the attempts of a request over whole runs: the summary of
their parent is exact and its gate final, and the quota of an attempt moves with
its funds. -/
namespace Aeris.Settlement

open RustStd Option Except

namespace SettlementRepository

variable {repo : SettlementRepository}

/-- Nothing is reserved and no request has attempts; the wallets, the parents and
the rows of the usage policy are arbitrary. -/
structure Initial (repo : SettlementRepository) : Prop where
  keyed : ∀ id wallet, repo.wallets.get? id = some wallet → wallet.id = id
  funds : repo.funds = .empty
  attempts : repo.attemptMetadata = .empty
  summaries : ∀ request, repo.summaryOf request = none

theorem Initial.ledgerSound (initial : repo.Initial) : repo.LedgerSound where
  funds := initial_sound initial.funds initial.keyed
  attempts := by
    have none_ : ∀ request, repo.attemptsOf request = [] := by
      intro request
      simp [attemptsOf, initial.attempts, OrderedTable.values, OrderedTable.empty]
    constructor
    · intro token attempt found; rw [initial.attempts] at found; cases found
    · intro token attempt found; rw [initial.attempts] at found; cases found
    · intro token reservation found; rw [initial.funds] at found; cases found
    · intro place token first second found; rw [initial.attempts] at found; cases found
    · intro request; simp [none_]
    · intro request; rw [none_]; exact ⟨_, rfl⟩
    · intro token attempt policy found; rw [initial.attempts] at found; cases found
  parents := by
    constructor
    · intro request summary found; rw [initial.summaries] at found; cases found
    · intro token attempt found; rw [initial.attempts] at found; cases found

theorem run_ledgerSound (initial : repo.Initial) (operations : List Operation) :
    (repo.run operations).LedgerSound :=
  run_keeps operations (fun operation _ before ledger =>
    (operation_ledger before ledger operation).1) repo initial.ledgerSound

/-! ## A closed request -/

variable {summary : RequestFundsSummary}

theorem summary_opened (ledger : repo.LedgerSound) {request}
    (found : repo.summaryOf request = some summary) :
    ∃ usage parent contribution, repo.Opened request usage parent ∧
      usage.attemptFunds.get? request = some summary ∧ repo.parentOf request = some parent ∧
      nextDailyCostContribution (usage.dailyCostContributions.get? request) parent
        (usage.attemptFunds.get? request) = .ok contribution := by
  have recorded := ledger.parents.recorded request summary found
  obtain ⟨usage, present, stored⟩ := bind_eq_some_iff.mp found
  obtain ⟨parent, daily, row, _, kept, _, open_⟩ := recorded.parent
  have known := (summarize_gate _ _ _ recorded.summarizes).2.2
  have previous : usage.dailyCostContributions.get? request = some daily := by
    simpa [dailyOf, present] using kept
  obtain ⟨next, accepted, _⟩ := nextDaily_ok (some daily) parent summary open_ known
    (fun closed => by
      obtain ⟨time, given⟩ := isSome_iff_exists.mp (recorded.dated closed)
      exact ⟨time, given, recorded.inRange time given⟩)
  refine ⟨usage, parent, next, ⟨present, ?_, ?_⟩, stored, row, ?_⟩
  · simpa [parentOf, present] using row
  · rw [previous, stored, getD_some, accepted]; rfl
  · rw [previous, stored, accepted]

theorem withAttemptParent_answer {α request usage parent contribution}
    (opened : repo.Opened request usage parent)
    (daily : nextDailyCostContribution (usage.dailyCostContributions.get? request) parent
      (usage.attemptFunds.get? request) = .ok contribution)
    (unavailable : String) (callback : Callback α) (answer : Result α)
    (ran : callback ⟨parent, usage.attemptFunds.get? request⟩ repo =
      (answer.map (fun value => (value, ⟨parent, usage.attemptFunds.get? request⟩)), repo)) :
    (withAttemptParent unavailable request callback repo).1 = answer := by
  unfold withAttemptParent
  have checked := opened.checked
  cases first : nextDailyCostContribution (usage.dailyCostContributions.get? request) parent
      (some ((usage.attemptFunds.get? request).getD .default)) with
  | error failure => rw [first] at checked; cases checked
  | ok _ =>
    cases answer with
    | error failure => simp only [opened.present, opened.row, first, ran, Except.map]
    | ok value => simp only [opened.present, opened.row, first, ran, Except.map, daily]

theorem admitAttempt_closed {input} (staged : Staged)
    (missing : repo.attemptMetadata.get? input.quote.identity.reservationToken = none)
    (closed : staged.isClosed) :
    (∃ failure, parentMatches staged.parent input.quote.identity = .error failure ∧
      repo.admitAttempt input staged = .error failure) ∨
    repo.admitAttempt input staged = .ok (.inl .conflict) ∨
    repo.admitAttempt input staged = .ok (.inl .admissionClosed) := by
  have got : repo.getAttempt input.identity = .ok none := by
    simp [getAttempt, ReserveRequestAttemptFundsInput.identity, missing]
  unfold admitAttempt
  cases matched : parentMatches staged.parent input.quote.identity with
  | error failure => exact .inl ⟨failure, rfl, rfl⟩
  | ok _ =>
    right
    simp only [bind, Except.bind, pure, Except.pure, got]
    by_cases differs : (repo.allAttempts input.quote.identity.requestId).any
        (fun attempt => attempt.usagePolicy ≠ input.usagePolicy)
    · rw [if_pos differs]; exact .inl rfl
    · have shut : staged.summary.any (·.admissionClosed) := closed
      rw [if_neg differs, if_pos shut]
      exact .inr rfl

/-- What a reserve of a new token answers when the gate is closed: an error, or one
of two refusals; and no error for a valid input of the parent's owner. -/
theorem reserve_closed (ledger : repo.LedgerSound) {input}
    (closed : repo.isClosed input.quote.identity.requestId)
    (missing : repo.attemptMetadata.get? input.quote.identity.reservationToken = none) :
    (∀ outcome, (reserveRequestAttemptFunds input repo).1 = .ok outcome →
      outcome = .admissionClosed ∨ outcome = .conflict) ∧
    (input.validate = .ok () →
      (∀ parent, repo.parentOf input.quote.identity.requestId = some parent →
        parentMatches parent input.quote.identity = .ok ()) →
      ∃ outcome, (reserveRequestAttemptFunds input repo).1 = .ok outcome) := by
  obtain ⟨summary, found, shut⟩ := (isClosed_iff _).mp closed
  obtain ⟨usage, parent, contribution, opened, stored, row, daily⟩ := summary_opened ledger found
  have staged : Staged.isClosed ⟨parent,
    usage.attemptFunds.get? input.quote.identity.requestId⟩ := by
    simp [Staged.isClosed, stored, shut]
  unfold reserveRequestAttemptFunds
  cases valid : input.validate with
  | error failure => exact ⟨by simp, by simp⟩
  | ok _ =>
    simp only [forall_const]
    have answer := withAttemptParent_answer opened daily
      "attempt admission requires usage repository" (reserveCallback input)
    rcases admitAttempt_closed _ missing staged with
      ⟨failure, foreign, gate⟩ | gate | gate
    · rw [answer (.error failure) (by simp [reserveCallback, gate, Except.map])]
      refine ⟨by simp, ?_⟩
      intro owner
      rw [owner parent row] at foreign
      cases foreign
    · rw [answer (.ok .conflict) (by simp [reserveCallback, gate, Except.map])]
      exact ⟨fun outcome same => .inr (ok.inj same).symm, fun _ => ⟨_, rfl⟩⟩
    · rw [answer (.ok .admissionClosed) (by simp [reserveCallback, gate, Except.map])]
      exact ⟨fun outcome same => .inl (ok.inj same).symm, fun _ => ⟨_, rfl⟩⟩

theorem close_stored {input}
    (success : (closeRequestFundsAdmission input repo).1 = .ok (some summary)) :
    (closeRequestFundsAdmission input repo).2.summaryOf input.identity.request.requestId =
      some summary ∧ summary.admissionClosed := by
  revert success
  unfold closeRequestFundsAdmission
  split
  · intro success; cases success
  have run := withAttemptParent_run "attempt usage repository unavailable"
    input.identity.request.requestId (closeCallback input) repo
  generalize withAttemptParent "attempt usage repository unavailable"
    input.identity.request.requestId (closeCallback input) repo = result at run ⊢
  intro success
  cases run with
  | refused failure | failed usage parent failure next opened ran
  | unaccounted usage parent value staged failure next opened ran daily => cases success
  | stored usage parent value staged contribution next opened ran daily =>
    cases success
    obtain ⟨answer, same⟩ := Prod.mk.inj ran
    subst same
    have answer := check_ok answer
    obtain ⟨found, _, answer⟩ := bind_ok answer
    cases found with
    | none => cases answer
    | some stored =>
      cases known : usage.attemptFunds.get? input.identity.request.requestId with
      | none => simp only [known] at answer; cases answer
      | some before =>
        simp only [known] at answer
        obtain ⟨after, applied, answer⟩ := bind_ok answer
        obtain ⟨given, rfl⟩ := Prod.mk.inj (ok.inj answer)
        obtain ⟨_, recomputed, done⟩ := applySummary_recomputed applied
        rw [done.stored] at given
        cases given
        constructor
        · rw [(storeParent_reads opened.present _ _ _ _).2.2, if_pos rfl, done.stored]; rfl
        · rw [done.closed]; rfl

/-! ## The summary is exact and the gate final -/

theorem billing_settled_iff {parent : StoredRequestUsageAudit}
    (billing : parent.billingStatus = if summary.isSettled then "settled" else "pending") :
    parent.billingStatus = "settled" ↔ summary.admissionClosed = true ∧
      summary.preparedAttempts = 0 ∧ summary.unknownAttempts = 0 ∧
      summary.requiresReconciliation = false := by
  have whole : summary.isSettled ↔ summary.admissionClosed = true ∧
      summary.preparedAttempts = 0 ∧ summary.unknownAttempts = 0 ∧
      summary.requiresReconciliation = false := by
    simp [RequestFundsSummary.isSettled]
  rw [← whole, billing]
  cases summary.isSettled with
  | true => simp
  | false => simp only [Bool.false_eq_true, if_false, iff_false]; decide

/-- After any calls in any order: a request with attempts has a summary; the
stored summary is the summary of the request's current attempts, and the parent
is settled exactly when the summary says so. A close that succeeds closes the
gate, and a closed gate is final: its flag and time stay, no attempt is added, a
reserve of a new token is refused, and none of the attempts is dispatched. -/
theorem summary_exact_and_gate_final (start : SettlementRepository)
    (operations : List Operation) (initial : start.Initial) : let repo := start.run operations
    (∀ request, repo.allAttempts request ≠ [] → (repo.summaryOf request).isSome) ∧
    (∀ request summary, repo.summaryOf request = some summary →
      summarizeRequestAttemptFunds (repo.allAttempts request) summary.admissionClosed =
        .ok { summary with admissionClosedAtUnixSecs := none } ∧
      ∃ parent, repo.parentOf request = some parent ∧
        (parent.billingStatus = "settled" ↔ summary.admissionClosed = true ∧
          summary.preparedAttempts = 0 ∧ summary.unknownAttempts = 0 ∧
          summary.requiresReconciliation = false)) ∧
    (∀ input summary, (closeRequestFundsAdmission input repo).1 = .ok (some summary) →
      (closeRequestFundsAdmission input repo).2.summaryOf input.identity.request.requestId =
        some summary ∧ summary.admissionClosed = true) ∧
    (∀ request, repo.isClosed request → ∀ later, GateFinal request repo (repo.run later)) ∧
    (∀ input, repo.isClosed input.quote.identity.requestId →
      repo.attemptMetadata.get? input.quote.identity.reservationToken = none →
      (∀ outcome, (reserveRequestAttemptFunds input repo).1 = .ok outcome →
        outcome = .admissionClosed ∨ outcome = .conflict) ∧
      (input.validate = .ok () →
        (∀ parent, repo.parentOf input.quote.identity.requestId = some parent →
          parentMatches parent input.quote.identity = .ok ()) →
        ∃ outcome, (reserveRequestAttemptFunds input repo).1 = .ok outcome)) := by
  have ledger := run_ledgerSound initial operations
  intro repo
  refine ⟨?_, ?_, ?_, ?_, ?_⟩
  · intro request some_
    rw [allAttempts_eq ledger.funds ledger.attempts] at some_
    obtain ⟨attempt, member⟩ := List.exists_mem_of_ne_nil _ some_
    obtain ⟨⟨token, found⟩, own⟩ := (mem_attemptsOf request attempt).mp member
    exact own ▸ ledger.parents.covered token attempt found
  · intro request summary found
    have recorded := ledger.parents.recorded request summary found
    obtain ⟨parent, _, row, billing, _⟩ := recorded.parent
    rw [allAttempts_eq ledger.funds ledger.attempts]
    exact ⟨recorded.summarizes, parent, row, billing_settled_iff billing⟩
  · intro input summary success
    exact close_stored success
  · intro request _ later
    exact (run_gateFinal request later repo ledger).2
  · intro input closed missing
    exact reserve_closed ledger closed missing

/-- A pending request of the user of the sample wallet. -/
def sampleParent : StoredRequestUsageAudit where
  id := "usage"
  requestId := "request"
  userId := some "user"
  apiKeyId := none
  inputTokens := 0
  outputTokens := 0
  totalTokens := 0
  cacheCreationInputTokens := 0
  cacheCreationEphemeral5mInputTokens := 0
  cacheCreationEphemeral1hInputTokens := 0
  cacheReadInputTokens := 0
  totalCostUsd := .zero
  actualTotalCostUsd := .zero
  status := "pending"
  billingStatus := "pending"
  requestMetadata := none
  updatedAtUnixSecs := 10
  finalizedAtUnixSecs := none

def sampleUsageRepository : UsageRepository where
  byRequestId := OrderedTable.empty.insert sampleParent.requestId sampleParent
  attemptFunds := .empty
  attemptProviderContributions := .empty
  dailyCostContributions := .empty

def sampleStart : SettlementRepository :=
  { sampleRepository with usage := some sampleUsageRepository }

theorem sampleStart_initial : sampleStart.Initial :=
  ⟨sample_keyed, rfl, rfl, fun _ => rfl⟩

def samplePolicy : RequestFundsUsagePolicy where
  subjectId := "user"
  reservationToken := "policy"
  admittedAtUnixSecs := 10
  retainUntilUnixSecs := 100
  windows := [⟨"day", 0, 100, 600000000⟩]

def sampleAttempt : ReserveRequestAttemptFundsInput where
  attemptId := "550e8400-e29b-41d4-a716-446655440000"
  provider := ⟨"provider", some "key", none, none⟩
  quote := sampleQuote
  usagePolicy := some samplePolicy

def sampleUsage : RequestAttemptBilledUsage where
  totalCostUnits := 520000000
  actualCostUnits := 520000000
  listPriceCostUnits := none
  requiresReconciliation := false
  inputTokens := 10
  outputTokens := 20
  cacheCreationTokens := 0
  cacheReadTokens := 0
  providerCost := none

def sampleOutcome : RecordRequestAttemptFundsOutcomeInput where
  identity := sampleAttempt.identity
  facts := ⟨1, ⟨.completed, 40⟩, .charged sampleUsage, .object []⟩
  finalizedAtUnixSecs := 20

/-- One attempt, whose outcome arrives after the close. -/
def sampleAttemptRun : List Operation :=
  [.reserveRequestAttemptFunds sampleAttempt,
    .markRequestAttemptFundsDispatched sampleAttempt.identity 11,
    .closeRequestFundsAdmission ⟨sampleAttempt.identity, 15⟩,
    .recordRequestAttemptFundsOutcome sampleOutcome]

theorem summary_exact_and_gate_final_sample : sampleStart.Initial ∧
    ((sampleStart.run sampleAttemptRun).summaryOf "request").map
      (fun summary => (summary.attemptCount, summary.collectedCostUnits)) = some (1, 520000000) ∧
    ((sampleStart.run sampleAttemptRun).parentOf "request").map (·.billingStatus) = some "settled" ∧
    ∀ later, GateFinal "request" (sampleStart.run sampleAttemptRun)
      ((sampleStart.run sampleAttemptRun).run later) :=
  ⟨sampleStart_initial, by decide +kernel, by decide +kernel,
    (summary_exact_and_gate_final sampleStart sampleAttemptRun sampleStart_initial).2.2.2.1
      "request" (by decide +kernel)⟩

/-! ## Quota follows funds -/

/-- The cost row of an attempt stands where the reservation and the facts stand. -/
structure MovesTogether (attempt : StoredRequestAttemptFunds)
    (reservation : StoredRequestFundsReservation) (row : StoredUsagePolicyCostReservation) :
    Prop where
  reserved : row.state = .reserved ↔
    reservation.state.holdsFunds ∧ reservation.settlement = none
  finalized : row.state = .finalized ↔ ∃ usage, attempt.outcome = .charged usage
  charged : ∀ usage, attempt.outcome = .charged usage →
    row.actualCostUnits = some usage.actualCostUnits
  released : row.state = .released ↔ attempt.outcome = .noCharge
  free : row.state = .released → row.actualCostUnits = some 0

theorem movesTogether_of_quota {token attempt policy row}
    (sound : attempt.Sound) (quota : QuotaOf token attempt policy row) :
    MovesTogether attempt attempt.funds row := by
  have phase := sound.phase
  have state := quota.state
  unfold StoredRequestAttemptFunds.InPhase at phase
  cases outcome : attempt.outcome with
  | unknown =>
    rw [outcome] at phase state
    obtain ⟨atState, _⟩ := Prod.mk.inj state
    constructor <;> simp [outcome, atState, phase]
  | noCharge =>
    rw [outcome] at phase state
    obtain ⟨atState, actual⟩ := Prod.mk.inj state
    constructor <;> simp [outcome, atState, actual, phase, RequestFundsState.holdsFunds]
  | charged usage =>
    rw [outcome] at phase state
    obtain ⟨atState, actual⟩ := Prod.mk.inj state
    have settled : attempt.funds.settlement ≠ none := by
      intro none_
      simp [none_] at phase
    constructor <;> simp [outcome, atState, actual, settled]

/-- After any calls in any order, the cost row of an attempt under a usage policy
is there, is the attempt's own, and stands where its reservation and its terminal
facts stand; and none of the calls of the usage policy can change it. -/
theorem quota_moves_with_funds (start : SettlementRepository) (operations : List Operation)
    (initial : start.Initial) : let repo := start.run operations
    ∀ token attempt policy, repo.attemptMetadata.get? token = some attempt →
      attempt.usagePolicy = some policy →
      ∃ row reservation, repo.costReservations.get? token = some row ∧
        repo.funds.get? token = some reservation ∧
        reservation.quote.identity.reservationToken = token ∧
        row.reservationToken = token ∧
        row.requestId = reservation.quote.identity.requestId ∧
        row.subjectId = policy.subjectId ∧
        MovesTogether attempt reservation row ∧
        (∀ input, (reserveUsagePolicyCost input repo).2.costReservations.get? token = some row) ∧
        (∀ input, (reconcileUsagePolicyCost input repo).2.costReservations.get? token = some row) ∧
        (∀ nowUnixSecs batchSize, (cleanupUsagePolicyCostReservations nowUnixSecs batchSize
          repo).2.costReservations.get? token = some row) := by
  have ledger := run_ledgerSound initial operations
  intro repo token attempt policy found named
  have linked := ledger.attempts.linked token attempt found
  have guarded : repo.isAttemptCostToken token := by simp [isAttemptCostToken, found, named]
  obtain ⟨row, stored, quota⟩ := ledger.attempts.quota token attempt policy found named
  refine ⟨row, attempt.funds, stored, linked, (ledger.funds.sound token _ linked).ownToken,
    quota.token, quota.request, quota.subject,
    movesTogether_of_quota (ledger.attempts.sound token attempt found) quota, ?_, ?_, ?_⟩
  · intro input
    exact ((reserveUsagePolicyCost_untouched input).keeps.rows token guarded).trans stored
  · intro input
    exact ((reconcileUsagePolicyCost_untouched input).keeps.rows token guarded).trans stored
  · intro nowUnixSecs batchSize
    exact ((cleanupUsagePolicyCostReservations_untouched nowUnixSecs batchSize).keeps.rows token
      guarded).trans stored

theorem quota_moves_with_funds_sample : sampleStart.Initial ∧ ∃ attempt row reservation,
      (sampleStart.run sampleAttemptRun).attemptMetadata.get? "token" = some attempt ∧
      attempt.usagePolicy = some samplePolicy ∧
      (sampleStart.run sampleAttemptRun).costReservations.get? "token" = some row ∧
      MovesTogether attempt reservation row := by
  have known : ((sampleStart.run sampleAttemptRun).attemptMetadata.get? "token").any
      (fun attempt => attempt.usagePolicy = some samplePolicy) := by
    decide +kernel
  cases found : (sampleStart.run sampleAttemptRun).attemptMetadata.get? "token" with
  | none => rw [found] at known; cases known
  | some attempt =>
    rw [found] at known
    have named : attempt.usagePolicy = some samplePolicy := of_decide_eq_true known
    obtain ⟨row, reservation, stored, _, _, _, _, _, together, _⟩ :=
      quota_moves_with_funds sampleStart sampleAttemptRun sampleStart_initial "token" attempt
        samplePolicy found named
    exact ⟨sampleStart_initial, attempt, row, reservation, rfl, named, stored, together⟩

end SettlementRepository

end Aeris.Settlement
