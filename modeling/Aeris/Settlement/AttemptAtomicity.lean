import Aeris.Base.Transition
import Aeris.Settlement.AttemptSafety
import Aeris.Settlement.OrdinarySafety

/-! The attempt calls are all-or-nothing. A call under a parent writes several tables one
after the other and checks in between; in every state that the ledger can reach, no check
fails once the first table is written. -/
namespace Aeris.Settlement

open RustStd

namespace SettlementRepository

variable {repo next : SettlementRepository}

/-! ## A call under a parent -/

/-- The tables that an attempt call can write, a parent's audit and summary included. -/
structure Unchanged (repo next : SettlementRepository) : Prop where
  wallets : next.wallets = repo.wallets
  funds : next.funds = repo.funds
  metadata : next.attemptMetadata = repo.attemptMetadata
  costs : next.costReservations = repo.costReservations
  providers : next.providerMonthlyUsed = repo.providerMonthlyUsed
  summaries : ∀ request, next.summaryOf request = repo.summaryOf request
  parents : ∀ request, next.parentOf request = repo.parentOf request

theorem Unchanged.refl (repo : SettlementRepository) : Unchanged repo repo :=
  ⟨rfl, rfl, rfl, rfl, rfl, fun _ => rfl, fun _ => rfl⟩

theorem storeParent_unchanged {request usage parent}
    (opened : repo.Opened request usage parent) (contribution : DailyCostContribution) :
    Unchanged repo (repo.storeParent request ⟨parent, usage.attemptFunds.get? request⟩
      contribution) := by
  have reads := storeParent_reads opened.present request
    ⟨parent, usage.attemptFunds.get? request⟩ contribution
  refine ⟨rfl, rfl, rfl, rfl, rfl, ?_, ?_⟩
  · intro other
    rw [(reads other).2.2]
    split_ifs with own
    · simp [summaryOf, opened.present, own]
    · rfl
  · intro other
    rw [(reads other).1]
    split_ifs with own
    · simp [parentOf, opened.present, opened.row, own]
    · rfl

section Parent

variable {α : Type} {request : String} {callback : Callback α}

theorem withAttemptParent_backed (backed : repo.Backed)
    (inner : repo.CallbackSteps request callback) (unavailable : String) :
    (withAttemptParent unavailable request callback repo).2.Backed := by
  have fails := withAttemptParent_failed inner backed unavailable
  have run := withAttemptParent_run unavailable request callback repo
  generalize withAttemptParent unavailable request callback repo = result at run fails ⊢
  cases run with
  | refused | failed | unaccounted =>
    rw [fails _ rfl]
    exact backed
  | stored usage parent value staged contribution next opened ran daily =>
    have step := inner usage parent opened
    rw [ran] at step
    cases step with
    | idle _ same =>
      cases same value staged rfl
      have kept := storeParent_unchanged opened contribution
      refine ⟨storeParent_fundsSound backed.funds _ _ _,
        (storeParent_keeps _ _ _).attemptsSound backed.attempts, ?_, ?_⟩
      · intro other; rw [kept.summaries]; exact backed.dated other
      · intro other; rw [kept.summaries]; exact backed.inRange other
    | advanced _ _ _ moved =>
      obtain ⟨summary, _, accepted, accounted⟩ := advance_accounted backed opened moved
      obtain ⟨contributions, present⟩ := moved.usage usage opened.present
      have reads := storeParent_reads present request staged contribution
      have same : next.summaryOf = repo.summaryOf := by
        funext other; simp [summaryOf, present, opened.present]
      simp only [same, accounted.stored, Option.some_or] at reads
      refine ⟨storeParent_fundsSound moved.funds _ _ _,
        (storeParent_keeps _ _ _).attemptsSound moved.attempts, ?_, ?_⟩
      · intro other stored found
        rw [(reads other).2.2] at found
        split_ifs at found with own
        · cases found; exact accounted.dated
        · exact backed.dated other stored found
      · intro other stored time found
        rw [(reads other).2.2] at found
        split_ifs at found with own
        · cases found; exact accounted.inRange time
        · exact backed.inRange other stored time found

end Parent

/-! ## The four calls -/

theorem reserveInner_refused {input attemptId outcome}
    (inner : repo.reserveInner input attemptId = .ok (outcome, next))
    (refused : ∀ reservation, outcome ≠ .reserved reservation) : next = repo := by
  rcases reserveInner_cases inner with
    ⟨same, -⟩ | ⟨_, _, _, _, _, granted, -⟩
  · exact same
  · exact absurd granted (refused _)

theorem reserveCallback_refused {input staged after outcome}
    (ran : reserveCallback input staged repo = (.ok (outcome, after), next))
    (refused : ∀ attempt, outcome ≠ .reserved attempt) : after = staged ∧ next = repo := by
  unfold reserveCallback at ran
  cases gate : repo.admitAttempt input staged with
  | error failure => rw [gate] at ran; cases ran
  | ok answer =>
    rw [gate] at ran
    cases answer with
    | inl early => cases ran; exact ⟨rfl, rfl⟩
    | inr quota =>
      cases inner : repo.reserveInner input.quote (some input.attemptId) with
      | error failure => rw [inner] at ran; cases ran
      | ok pair =>
        obtain ⟨answer, between⟩ := pair
        rw [inner] at ran
        cases answer with
        | reserved reservation =>
          dsimp only [recordAttempt] at ran
          split at ran
          · cases ran
          · cases ran
            exact absurd rfl (refused _)
        | insufficient available | walletUnavailable | conflict =>
          cases ran
          exact ⟨rfl, reserveInner_refused inner (by simp)⟩

section Calls

variable (backed : repo.Backed)
include backed

theorem AttemptCall.keepsBacked {α} {result : Result α × SettlementRepository}
    (call : AttemptCall repo result) : result.2.Backed := by
  cases call with
  | refused failure => exact backed
  | ran unavailable request callback steps =>
    exact withAttemptParent_backed backed steps unavailable

theorem AttemptCall.failed {α} {result : Result α × SettlementRepository}
    (call : AttemptCall repo result) {failure} (failed : result.1 = .error failure) :
    result.2 = repo := by
  cases call with
  | refused failure => rfl
  | ran unavailable request callback steps =>
    exact withAttemptParent_failed steps backed unavailable failure failed

theorem reserveRequestAttemptFunds_unchanged (input : ReserveRequestAttemptFundsInput)
    (refused : ∀ attempt, (reserveRequestAttemptFunds input repo).1 ≠ .ok (.reserved attempt)) :
    Unchanged repo (reserveRequestAttemptFunds input repo).2 := by
  cases answer : (reserveRequestAttemptFunds input repo).1 with
  | error failure =>
    rw [(reserveRequestAttemptFunds_call backed input).failed backed answer]
    exact .refl repo
  | ok outcome =>
    unfold reserveRequestAttemptFunds at refused answer ⊢
    cases valid : input.validate with
    | error failure => exact .refl repo
    | ok _ =>
      have run := withAttemptParent_run "attempt admission requires usage repository"
        input.quote.identity.requestId (reserveCallback input) repo
      simp only [valid] at refused answer ⊢
      generalize withAttemptParent _ _ (reserveCallback input) repo = result at run refused answer ⊢
      cases run with
      | stored usage parent outcome staged contribution next opened ran daily =>
        obtain ⟨rfl, rfl⟩ := reserveCallback_refused ran
          (fun attempt same => refused attempt (by rw [same]))
        exact storeParent_unchanged opened contribution
      | _ => cases answer

end Calls

/-! ## Every state the ledger can reach -/

/-- A call of the repository, or a write of the repositories it shares its tables with: the
wallets may change in any way that keeps each under its id, and so may the audits of the
parents and their daily costs. -/
inductive LedgerStep (repo : SettlementRepository) : SettlementRepository → Prop where
  | call (operation : Operation) : LedgerStep repo (repo.apply operation)
  | settle (input : UsageSettlementInput) : LedgerStep repo (settleUsageObserved input repo).2
  | wallets (wallets : Table StoredWalletSnapshot)
      (keyed : ∀ id wallet, wallets.get? id = some wallet → wallet.id = id) :
      LedgerStep repo { repo with wallets := wallets }
  | audits (usage : UsageRepository) (present : repo.usage = some usage)
      (audits : Table StoredRequestUsageAudit) (daily : Table DailyCostContribution) :
      LedgerStep repo { repo with
        usage := some { usage with byRequestId := audits, dailyCostContributions := daily } }

theorem Untouched.backed (untouched : Untouched repo next) (backed : repo.Backed)
    (funds : next.FundsSound) : next.Backed where
  funds := funds
  attempts := untouched.keeps.attemptsSound backed.attempts
  dated := by simp only [summaryOf, untouched.usage]; exact backed.dated
  inRange := by simp only [summaryOf, untouched.usage]; exact backed.inRange

theorem operation_backed (backed : repo.Backed) (operation : Operation) :
    (repo.apply operation).Backed := by
  have funds := effect_sound backed.funds (operation_effect backed.funds operation)
  have plain : operation.isAttempt = false → (repo.apply operation).Backed :=
    fun other => (operation_untouched backed.funds other).backed backed funds
  cases operation with
  | reserveRequestAttemptFunds input =>
    exact (reserveRequestAttemptFunds_call backed input).keepsBacked backed
  | markRequestAttemptFundsDispatched identity nowUnixSecs =>
    exact (markRequestAttemptFundsDispatched_call backed identity nowUnixSecs).keepsBacked backed
  | recordRequestAttemptFundsOutcome input =>
    exact (recordRequestAttemptFundsOutcome_call backed input).keepsBacked backed
  | closeRequestFundsAdmission input =>
    exact (closeRequestFundsAdmission_call backed input).keepsBacked backed
  | _ => exact plain rfl

theorem settleUsageObserved_untouched (input : UsageSettlementInput) :
    Untouched repo (settleUsageObserved input repo).2 := by
  rcases settleUsageObserved_cases repo input with ⟨_, _, _, settles⟩ | ⟨same, -⟩
  · rw [settles.run]
    exact untouched_of_same rfl rfl rfl rfl
  · rw [same]
    exact untouched_of_same rfl rfl rfl rfl

theorem LedgerStep.backed (step : LedgerStep repo next) (backed : repo.Backed) : next.Backed := by
  cases step with
  | call operation => exact operation_backed backed operation
  | settle input =>
    exact (settleUsageObserved_untouched input).backed backed
      (settleUsageObserved_sound input backed.funds)
  | wallets wallets keyed =>
    have untouched : Untouched repo { repo with wallets := wallets } :=
      untouched_of_same rfl rfl rfl rfl
    exact untouched.backed backed ⟨keyed, backed.funds.sound⟩
  | audits usage present audits daily =>
    -- only the summaries are read from the usage repository, and they stay
    have kept : ∀ request, SettlementRepository.summaryOf { repo with usage := some { usage with
        byRequestId := audits, dailyCostContributions := daily } } request =
        repo.summaryOf request := by
      intro request
      simp [summaryOf, present]
    have keeps : KeepsAttempts repo { repo with usage := some { usage with
        byRequestId := audits, dailyCostContributions := daily } } :=
      ⟨rfl, fun _ _ found _ => found, fun _ _ found _ => found, fun _ _ => rfl⟩
    refine ⟨⟨backed.funds.keyed, backed.funds.sound⟩, keeps.attemptsSound backed.attempts, ?_, ?_⟩
    · intro request; rw [kept]; exact backed.dated request
    · intro request; rw [kept]; exact backed.inRange request

/-- In every state that the ledger can reach: a reserve that does not reserve, by a failure
or by a refusal, and each other attempt call that fails leave the wallets, the reservations,
the attempts, the cost rows, the provider totals, the summaries and the audits as they were. -/
theorem attempt_calls_all_or_nothing {start : SettlementRepository} (initial : start.Initial)
    (run : Relation.ReflTransGen LedgerStep start repo) :
    (∀ input, (∀ attempt, (reserveRequestAttemptFunds input repo).1 ≠ .ok (.reserved attempt)) →
      Unchanged repo (reserveRequestAttemptFunds input repo).2) ∧
    (∀ identity nowUnixSecs failure,
      (markRequestAttemptFundsDispatched identity nowUnixSecs repo).1 = .error failure →
      Unchanged repo (markRequestAttemptFundsDispatched identity nowUnixSecs repo).2) ∧
    (∀ input failure, (recordRequestAttemptFundsOutcome input repo).1 = .error failure →
      Unchanged repo (recordRequestAttemptFundsOutcome input repo).2) ∧
    (∀ input failure, (closeRequestFundsAdmission input repo).1 = .error failure →
      Unchanged repo (closeRequestFundsAdmission input repo).2) := by
  have backed : repo.Backed :=
    Transition.invariant (fun _ _ sound step => step.backed sound) run initial.ledgerSound.backed
  refine ⟨?_, ?_, ?_, ?_⟩
  · exact reserveRequestAttemptFunds_unchanged backed
  · intro identity nowUnixSecs failure failed
    rw [(markRequestAttemptFundsDispatched_call backed identity nowUnixSecs).failed backed failed]
    exact .refl repo
  · intro input failure failed
    rw [(recordRequestAttemptFundsOutcome_call backed input).failed backed failed]
    exact .refl repo
  · intro input failure failed
    rw [(closeRequestFundsAdmission_call backed input).failed backed failed]
    exact .refl repo

/-- The charge of an attempt that was reserved and never dispatched is refused. -/
theorem undispatched_charge_changes_nothing :
    let repo := sampleStart.apply (.reserveRequestAttemptFunds sampleAttempt)
    (repo.summaryOf "request").isSome ∧
    (recordRequestAttemptFundsOutcome sampleOutcome repo).1 =
      invalid "undispatched attempt cannot charge" ∧
    Unchanged repo (recordRequestAttemptFundsOutcome sampleOutcome repo).2 := by
  have refused : (recordRequestAttemptFundsOutcome sampleOutcome
      (sampleStart.apply (.reserveRequestAttemptFunds sampleAttempt))).1 =
      invalid "undispatched attempt cannot charge" := by decide +kernel
  refine ⟨by decide +kernel, refused, ?_⟩
  exact (attempt_calls_all_or_nothing sampleStart_initial
    (.single (.call (.reserveRequestAttemptFunds sampleAttempt)))).2.2.1 sampleOutcome _ refused

end SettlementRepository

end Aeris.Settlement
