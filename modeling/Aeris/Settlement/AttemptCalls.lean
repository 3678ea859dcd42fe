import Aeris.Settlement.AttemptFunding
import Aeris.Settlement.FundsCalls

/-! What the attempt calls do to the wallets and the reservations. A call that
fails late has kept its writes, so every exit counts. -/
namespace Aeris.Settlement

open Option OrderedTable

namespace SettlementRepository

variable {repo next : SettlementRepository}

theorem FundsTransfer.congr {before middle after}
    (step : FundsTransfer before middle) (wallets : after.wallets = middle.wallets)
    (funds : after.funds = middle.funds) : FundsTransfer before after := by
  cases step with
  | unchanged sameWallets sameFunds =>
    exact .unchanged (wallets.trans sameWallets) (funds.trans sameFunds)
  | reserved input attemptId walletId allocations fresh granted sameWallets written =>
    exact .reserved input attemptId walletId allocations fresh granted
      (wallets.trans sameWallets) (funds.trans written)
  | restated token reservation state actual found unsettled unpaid holds sameWallets written =>
    exact .restated token reservation state actual found unsettled unpaid holds
      (wallets.trans sameWallets) (funds.trans written)
  | settled token reservation actual facts settlement found unsettled holding keyed paid written =>
    rw [← wallets] at keyed paid
    exact .settled token reservation actual facts settlement found unsettled holding keyed paid
      (funds.trans written)

/-- The call found its parent, and the daily cost of the parent allows attempts. -/
structure Opened (repo : SettlementRepository) (request : String) (usage : UsageRepository)
    (parent : StoredRequestUsageAudit) : Prop where
  present : repo.usage = some usage
  row : usage.byRequestId.get? request = some parent
  checked : (nextDailyCostContribution (usage.dailyCostContributions.get? request) parent
    (some ((usage.attemptFunds.get? request).getD .default))).isOk

/-- How a call under a parent can end: it was refused, its callback failed, the
daily cost refused the staged parent, or the staged parent was stored. -/
inductive ParentRun {α} (request : String) (callback : Callback α)
    (repo : SettlementRepository) : Result α × SettlementRepository → Prop where
  | refused (failure : Failure) : ParentRun request callback repo (.error failure, repo)
  | failed (usage : UsageRepository) (parent : StoredRequestUsageAudit) (failure : Failure)
      (next : SettlementRepository) (opened : repo.Opened request usage parent)
      (ran : callback ⟨parent, usage.attemptFunds.get? request⟩ repo = (.error failure, next)) :
      ParentRun request callback repo (.error failure, next)
  | unaccounted (usage : UsageRepository) (parent : StoredRequestUsageAudit) (value : α)
      (staged : Staged) (failure : Failure) (next : SettlementRepository)
      (opened : repo.Opened request usage parent)
      (ran : callback ⟨parent, usage.attemptFunds.get? request⟩ repo = (.ok (value, staged), next))
      (daily : nextDailyCostContribution (usage.dailyCostContributions.get? request)
        staged.parent staged.summary = .error failure) :
      ParentRun request callback repo (.error failure, next)
  | stored (usage : UsageRepository) (parent : StoredRequestUsageAudit) (value : α)
      (staged : Staged) (contribution : DailyCostContribution) (next : SettlementRepository)
      (opened : repo.Opened request usage parent)
      (ran : callback ⟨parent, usage.attemptFunds.get? request⟩ repo = (.ok (value, staged), next))
      (daily : nextDailyCostContribution (usage.dailyCostContributions.get? request)
        staged.parent staged.summary = .ok contribution) :
      ParentRun request callback repo
        (.ok value, next.storeParent request staged contribution)

variable {α : Type}

theorem withAttemptParent_run (unavailable request : String) (callback : Callback α)
    (repo : SettlementRepository) :
    ParentRun request callback repo (withAttemptParent unavailable request callback repo) := by
  unfold withAttemptParent
  cases present : repo.usage with
  | none => exact .refused _
  | some usage =>
    cases row : usage.byRequestId.get? request with
    | none => simp only [row]; exact .refused _
    | some parent =>
      simp only [row]
      cases checked : nextDailyCostContribution (usage.dailyCostContributions.get? request)
        parent (some ((usage.attemptFunds.get? request).getD .default)) with
      | error failure => exact .refused failure
      | ok first =>
        have opened : repo.Opened request usage parent := ⟨present, row, by rw [checked]; rfl⟩
        cases ran : callback ⟨parent, usage.attemptFunds.get? request⟩ repo with
        | mk result next =>
          cases result with
          | error failure => exact .failed usage parent failure next opened ran
          | ok pair =>
            cases daily : nextDailyCostContribution
              (usage.dailyCostContributions.get? request) pair.2.parent
              pair.2.summary with
            | error failure =>
              simp only [daily]
              exact .unaccounted usage parent pair.1 pair.2 failure next opened ran daily
            | ok contribution =>
              simp only [daily]
              exact .stored usage parent pair.1 pair.2 contribution next opened ran daily

theorem withAttemptParent_keeps {motive : SettlementRepository → Prop}
    (unavailable request : String) (callback : Callback α) (repo : SettlementRepository)
    (same : motive repo) (inner : ∀ staged, motive (callback staged repo).2)
    (store : ∀ next staged contribution, motive next →
      motive (next.storeParent request staged contribution)) :
    motive (withAttemptParent unavailable request callback repo).2 := by
  have run := withAttemptParent_run unavailable request callback repo
  generalize withAttemptParent unavailable request callback repo = result at run ⊢
  cases run with
  | refused failure => exact same
  | failed usage parent failure next opened ran
  | unaccounted usage parent value staged failure next opened ran daily =>
    have step := inner ⟨parent, usage.attemptFunds.get? request⟩
    rw [ran] at step
    exact step
  | stored usage parent value staged contribution next opened ran daily =>
    have step := inner ⟨parent, usage.attemptFunds.get? request⟩
    rw [ran] at step
    exact store next staged contribution step

theorem withAttemptParent_transfer (unavailable request : String)
    (callback : Callback α) (repo : SettlementRepository)
    (inner : ∀ staged, FundsTransfer repo (callback staged repo).2) :
    FundsTransfer repo (withAttemptParent unavailable request callback repo).2 :=
  withAttemptParent_keeps unavailable request callback repo (.unchanged rfl rfl) inner
    (fun _ _ _ step => step.congr rfl rfl)

/-! ## Reserve -/

theorem recordAttempt_frame (repo : SettlementRepository)
    (input : ReserveRequestAttemptFundsInput) (staged : Staged)
    (quota : Option ReserveUsagePolicyCostInput) (reservation : StoredRequestFundsReservation) :
    (repo.recordAttempt input staged quota reservation).2.wallets = repo.wallets ∧
      (repo.recordAttempt input staged quota reservation).2.funds = repo.funds := by
  unfold recordAttempt
  dsimp only
  split
  · exact ⟨rfl, rfl⟩
  · cases quota with
    | none | some quota => exact ⟨rfl, rfl⟩

theorem reserveCallback_transfer (sound : repo.FundsSound)
    (input : ReserveRequestAttemptFundsInput) (staged : Staged) :
    FundsTransfer repo (reserveCallback input staged repo).2 := by
  unfold reserveCallback
  cases gate : repo.admitAttempt input staged with
  | error failure => exact .unchanged rfl rfl
  | ok answer =>
    cases answer with
    | inl outcome => exact .unchanged rfl rfl
    | inr quota =>
      cases inner : repo.reserveInner input.quote (some input.attemptId) with
      | error failure => exact .unchanged rfl rfl
      | ok pair =>
        obtain ⟨outcome, next⟩ := pair
        have step := reserveInner_transfer sound inner
        cases outcome with
        | reserved reservation =>
          have frame := recordAttempt_frame next input staged quota reservation
          exact step.congr frame.1 frame.2
        | insufficient available | walletUnavailable | conflict => exact step

theorem reserveRequestAttemptFunds_transfer (sound : repo.FundsSound)
    (input : ReserveRequestAttemptFundsInput) :
    FundsTransfer repo (reserveRequestAttemptFunds input repo).2 := by
  unfold reserveRequestAttemptFunds
  cases input.validate with
  | error failure => exact .unchanged rfl rfl
  | ok _ => exact withAttemptParent_transfer _ _ _ repo (reserveCallback_transfer sound input)

/-! ## Dispatch -/

variable {stored : StoredRequestAttemptFunds}

theorem getAttempt_some {identity} (success : repo.getAttempt identity = .ok (some stored)) :
    repo.funds.get? identity.request.reservationToken = some stored.funds ∧
    ∃ record, repo.attemptMetadata.get? identity.request.reservationToken = some record ∧
      record.attemptId = identity.attemptId ∧ record.funds.quote.identity = identity.request ∧
      stored = { record with funds := stored.funds } := by
  unfold getAttempt at success
  cases known : repo.attemptMetadata.get? identity.request.reservationToken with
  | none => simp only [known] at success; cases success
  | some record =>
    simp only [known] at success
    obtain ⟨same, success⟩ := refuse_ok success
    cases found : repo.funds.get? identity.request.reservationToken with
    | none => simp only [found] at success; cases success
    | some funds =>
      simp only [found] at success
      cases success
      exact ⟨rfl, record, rfl, by tauto, by tauto, rfl⟩

theorem storeContribution_frame (repo : SettlementRepository)
    (attempt : StoredRequestAttemptFunds) :
    repo.storeContribution attempt = { repo with usage := (repo.storeContribution attempt).usage }
    := by
  unfold storeContribution
  cases contribution attempt with
  | none => rfl
  | some after => rfl

theorem advanceAttempt_frame (repo : SettlementRepository) (token request : String)
    (staged : Staged) (attempt : StoredRequestAttemptFunds) :
    (repo.advanceAttempt token request staged attempt).2.wallets = repo.wallets ∧
      (repo.advanceAttempt token request staged attempt).2.funds =
        repo.funds.insert token attempt.funds := by
  unfold advanceAttempt
  dsimp only
  split
  · exact ⟨rfl, rfl⟩
  · rw [storeContribution_frame]
    exact ⟨rfl, rfl⟩

theorem dispatchCallback_transfer (sound : repo.FundsSound)
    (identity : RequestAttemptFundsIdentity) (nowUnixSecs : Nat) (staged : Staged) :
    FundsTransfer repo (dispatchCallback identity nowUnixSecs staged repo).2 := by
  unfold dispatchCallback
  cases gate : (do parentMatches staged.parent identity.request; repo.getAttempt identity :
      Result (Option StoredRequestAttemptFunds)) with
  | error failure => exact .unchanged rfl rfl
  | ok answer =>
    cases answer with
    | none => exact .unchanged rfl rfl
    | some stored =>
      dsimp only
      split_ifs with again refused
      · exact .unchanged rfl rfl
      · exact .unchanged rfl rfl
      · obtain ⟨found, _⟩ := getAttempt_some (check_ok gate)
        have state : stored.funds.state = .prepared := by tauto
        have unsettled : stored.funds.settlement = none :=
          (sound.sound _ _ found).open_of_state (by simp [state]) (by simp [state])
        have frame := advanceAttempt_frame repo identity.request.reservationToken
          identity.request.requestId staged (dispatchedAttempt stored nowUnixSecs)
        exact .restated _ stored.funds .dispatched stored.funds.actualCostUnits found unsettled
          (by simp) (fun _ => by simp [state, RequestFundsState.holdsFunds]) frame.1 frame.2

theorem markRequestAttemptFundsDispatched_transfer (sound : repo.FundsSound)
    (identity : RequestAttemptFundsIdentity) (nowUnixSecs : Nat) :
    FundsTransfer repo (markRequestAttemptFundsDispatched identity nowUnixSecs repo).2 := by
  unfold markRequestAttemptFundsDispatched
  cases identity.validate with
  | error failure => exact .unchanged rfl rfl
  | ok _ =>
    exact withAttemptParent_transfer _ _ _ repo
      (dispatchCallback_transfer sound identity nowUnixSecs)

/-! ## Outcome -/

theorem outcomeGate_resolves {input staged}
    (gate : repo.outcomeGate input staged = .ok (.inr stored)) :
    repo.getAttempt input.identity = .ok (some stored) ∧
      stored.funds.settlement = none ∧ stored.funds.state ≠ .released ∧
      (∀ facts, stored.terminalFacts = some facts → facts.outcome = .unknown) ∧
      (∃ tried, applySummary staged (modifyFirst
        (fun attempt => attempt.attemptId = input.identity.attemptId)
        (fun attempt => { attempt with terminalFacts := some input.facts })
        (repo.allAttempts input.identity.request.requestId)) = .ok tried) ∧
      repo.quotaOwned input stored = .ok () := by
  obtain ⟨found, got, gate⟩ := bind_ok (check_ok gate)
  cases found with
  | none => cases gate
  | some attempt =>
    dsimp only at gate
    split_ifs at gate with replay conflict terminal
    · cases gate
    · cases gate
    · cases gate
    · obtain ⟨tried, applied, gate⟩ := bind_ok gate
      obtain ⟨_, owned, gate⟩ := bind_ok gate
      cases gate
      refine ⟨got, by simpa using fun h => terminal (.inl h), fun h => terminal (.inr h), ?_,
        ⟨tried, applied⟩, owned⟩
      intro facts recorded
      simp only [recorded, any_some] at conflict
      by_contra known
      exact conflict (by simp [known])

/-- The three ways an outcome resolves the reservation of an attempt. -/
inductive Resolved (repo : SettlementRepository) (stored : StoredRequestAttemptFunds) :
    RequestAttemptFinancialOutcome → StoredRequestFundsReservation → SettlementRepository → Prop
    where
  | unknown (dispatched : stored.dispatchedAtUnixSecs.isSome) :
      Resolved repo stored .unknown { stored.funds with state := .reconciliationPending } repo
  | noCharge :
      Resolved repo stored .noCharge
        { stored.funds with state := .released, actualCostUnits := some 0 } repo
  | charged (usage : RequestAttemptBilledUsage) (input : FinalizeRequestFundsInput)
      (result : StoredRequestFundsReservation) (next : SettlementRepository)
      (token : input.identity.reservationToken = stored.funds.quote.identity.reservationToken)
      (holding : stored.funds.state.holdsFunds)
      (settled : repo.settleReservation input stored.funds usage.actualCostUnits =
        .ok (result, next)) :
      Resolved repo stored (.charged usage) result next

theorem resolveFunds_resolved (sound : repo.FundsSound) {input funds}
    (found : repo.funds.get? input.identity.request.reservationToken = some stored.funds)
    (unsettled : stored.funds.settlement = none)
    (success : repo.resolveFunds input stored = .ok (funds, next)) :
    Resolved repo stored input.facts.outcome funds next := by
  unfold resolveFunds at success
  cases outcome : input.facts.outcome with
  | unknown =>
    simp only [outcome] at success
    obtain ⟨dispatched, success⟩ := refuse_ok success
    cases success
    exact .unknown (by simpa [isSome_iff_ne_none] using dispatched)
  | noCharge =>
    simp only [outcome] at success
    cases success
    exact .noCharge
  | charged usage =>
    simp only [outcome] at success
    obtain ⟨dispatched, success⟩ := refuse_ok success
    obtain ⟨⟨answer, after⟩, finalized, success⟩ := bind_ok success
    cases answer with
    | none => cases success
    | some result =>
      cases success
      rcases finalizeInner_cases finalized with ⟨_, same⟩ |
        ⟨reservation, result, actual, present, _, _, holding, read, given, settled⟩
      · obtain ⟨again, closed⟩ := same funds rfl
        rw [show (attemptSettlement input stored usage).identity.reservationToken =
          input.identity.request.reservationToken from rfl, found] at again
        cases again
        simp [unsettled] at closed
      · have same : reservation = stored.funds := by
          have both := present.symm.trans found
          exact some.inj both
        subst same
        cases given
        rw [requestFundsAuthorizedUnits_usd _ _ read] at settled
        have token := (sound.sound _ _ found).ownToken
        exact .charged usage (attemptSettlement input stored usage) _ _ token.symm holding
          settled

theorem resolved_transfer (sound : repo.FundsSound) {token outcome funds}
    (found : repo.funds.get? token = some stored.funds) (unsettled : stored.funds.settlement = none)
    (open_ : stored.funds.state ≠ .released) (resolved : Resolved repo stored outcome funds next) :
    FundsTransfer repo next ∧ ∀ after : SettlementRepository, after.wallets = next.wallets →
        after.funds = next.funds.insert token funds → FundsTransfer repo after := by
  have known := sound.sound token stored.funds found
  have holding : stored.funds.state.holdsFunds := by
    have unpaid := (known.unsettled unsettled).2
    cases state : stored.funds.state <;> simp_all [RequestFundsState.holdsFunds]
  cases resolved with
  | unknown dispatched =>
    refine ⟨.unchanged rfl rfl, ?_⟩
    intro after wallets written
    exact .restated token stored.funds .reconciliationPending _ found unsettled (by simp)
      (fun _ => holding) wallets written
  | noCharge =>
    refine ⟨.unchanged rfl rfl, ?_⟩
    intro after wallets written
    exact .restated token stored.funds .released (some 0) found unsettled (by simp)
      (by simp [RequestFundsState.holdsFunds]) wallets written
  | charged usage input result next named held settled =>
    have same : input.identity.reservationToken = token := named.trans known.ownToken
    obtain ⟨⟨settlement, rfl⟩, keyed, paid, frame⟩ :=
      settleReservation_spec sound (same ▸ found) settled
    have written := congrArg SettlementRepository.funds frame
    rw [same] at written
    have step : FundsTransfer repo next :=
      .settled token stored.funds usage.actualCostUnits _ settlement found unsettled holding
        keyed paid written
    refine ⟨step, ?_⟩
    intro after wallets again
    apply step.congr wallets
    rw [again]
    apply insert_present
    rw [written]
    exact get?_insert_self _ _ _

theorem resolveQuota_frame {input} (success : repo.resolveQuota input stored = .ok next) :
    next = { repo with costReservations := next.costReservations } := by
  unfold resolveQuota at success
  split_ifs at success
  · cases success; rfl
  · cases terminal : terminalQuota input.facts.outcome with
    | none => simp only [terminal] at success; cases success; rfl
    | some pair =>
      simp only [terminal] at success
      cases row : repo.costReservations.get? input.identity.request.reservationToken with
      | none => simp only [row] at success; cases success
      | some quota => simp only [row] at success; cases success; rfl

theorem outcomeCallback_transfer (sound : repo.FundsSound)
    (input : RecordRequestAttemptFundsOutcomeInput) (staged : Staged) :
    FundsTransfer repo (outcomeCallback input staged repo).2 := by
  unfold outcomeCallback
  cases gate : repo.outcomeGate input staged with
  | error failure => exact .unchanged rfl rfl
  | ok answer =>
    cases answer with
    | inl answer => exact .unchanged rfl rfl
    | inr stored =>
      obtain ⟨got, unsettled, live, _⟩ := outcomeGate_resolves gate
      obtain ⟨found, _⟩ := getAttempt_some got
      dsimp only
      cases resolving : repo.resolveFunds input stored with
      | error failure => exact .unchanged rfl rfl
      | ok pair =>
        obtain ⟨funds, middle⟩ := pair
        obtain ⟨step, onward⟩ := resolved_transfer sound found unsettled live
          (resolveFunds_resolved sound found unsettled resolving)
        dsimp only
        cases charging : middle.resolveQuota input stored with
        | error failure => exact step
        | ok after =>
          have frame := resolveQuota_frame charging
          have advanced := advanceAttempt_frame after
            input.identity.request.reservationToken input.identity.request.requestId staged
            { stored with funds := funds, terminalFacts := some input.facts }
          apply onward
          · rw [advanced.1, frame]
          · rw [advanced.2, frame]

theorem recordRequestAttemptFundsOutcome_transfer (sound : repo.FundsSound)
    (input : RecordRequestAttemptFundsOutcomeInput) :
    FundsTransfer repo (recordRequestAttemptFundsOutcome input repo).2 := by
  unfold recordRequestAttemptFundsOutcome
  cases input.validate with
  | error failure => exact .unchanged rfl rfl
  | ok _ => exact withAttemptParent_transfer _ _ _ repo (outcomeCallback_transfer sound input)

/-! ## Close -/

theorem closeRequestFundsAdmission_transfer (input : CloseRequestFundsAdmissionInput) :
    FundsTransfer repo (closeRequestFundsAdmission input repo).2 := by
  unfold closeRequestFundsAdmission
  split
  · exact .unchanged rfl rfl
  · exact withAttemptParent_transfer _ _ _ repo (fun _ => .unchanged rfl rfl)

end SettlementRepository

end Aeris.Settlement
