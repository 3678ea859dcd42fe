import Aeris.Settlement.AttemptSteps
import Aeris.Settlement.Operation

/-! What every call does to the two tables of the usage policy: the cost rows,
which plain calls and attempts share, and the admitted requests. -/
namespace Aeris.Settlement

open RustStd

/-- What a call asks of the cost windows, by the plain path or with an attempt. -/
def Operation.costInput : Operation → Option ReserveUsagePolicyCostInput
  | .reserveUsagePolicyCost input => some input
  | .reserveRequestAttemptFunds input =>
    input.usagePolicy.map (fun policy => policy.costReservation input.quote)
  | _ => none

def Operation.isRequestPolicy : Operation → Bool
  | .reserveUsagePolicyRequest _ | .releaseUsagePolicyRequestAdmission _
  | .cleanupUsagePolicyRequestAdmissions _ _ => true
  | _ => false

namespace SettlementRepository

variable {repo next : SettlementRepository}

def expiredCostTokens (repo : SettlementRepository) (nowUnixSecs batchSize : Nat) : List String :=
  expiredTokens repo.costReservations
    (fun token row => row.retainUntilUnixSecs ≤ nowUnixSecs ∧ ¬ repo.isAttemptCostToken token)
    batchSize

def endedRow (row : StoredUsagePolicyCostReservation) (state : UsagePolicyCostReservationState)
    (amount finalizedAt : Nat) : StoredUsagePolicyCostReservation :=
  { row with
    state := state
    actualCostUnits := some amount
    finalizedAtUnixSecs := some finalizedAt }

inductive CostStep (repo : SettlementRepository) (operation : Operation) :
    Table StoredUsagePolicyCostReservation → Prop where
  | unchanged : CostStep repo operation repo.costReservations
  | admitted (input : ReserveUsagePolicyCostInput)
      (existing : Option StoredUsagePolicyCostReservation)
      (asked : operation.costInput = some input)
      (found : repo.costReservations.get? input.reservationToken = existing)
      (retry : ∀ row, existing = some row → Retryable input row)
      (lasting : operation = .reserveUsagePolicyCost input ∨ ∀ window ∈ input.windows,
        window.endsAtUnixSecs ≤ input.reservationExpiresAtUnixSecs ∧
          window.endsAtUnixSecs ≤ input.retainUntilUnixSecs)
      (room : ∀ window ∈ input.windows,
        repo.windowCost input (fun row => row.reservationToken = input.reservationToken) window +
          (targetRow input existing).reservedCostUnits ≤ window.limitCostUnits) :
      CostStep repo operation
        (repo.costReservations.insert input.reservationToken (targetRow input existing))
  | ended (token : String) (row : StoredUsagePolicyCostReservation)
      (state : UsagePolicyCostReservationState) (amount finalizedAt : Nat)
      (found : repo.costReservations.get? token = some row)
      (reserved : row.state = .reserved) (terminal : state ≠ .reserved) :
      CostStep repo operation
        (repo.costReservations.insert token (endedRow row state amount finalizedAt))
  | cleaned (nowUnixSecs batchSize : Nat)
      (same : operation = .cleanupUsagePolicyCostReservations nowUnixSecs batchSize) :
      CostStep repo operation
        (removeAll repo.costReservations (repo.expiredCostTokens nowUnixSecs batchSize))

/-- The effect of a call on both tables, for a call that is not about requests. -/
structure PolicyEffect (repo : SettlementRepository) (operation : Operation)
    (next : SettlementRepository) : Prop where
  cost : CostStep repo operation next.costReservations
  admissions : next.requestAdmissions = repo.requestAdmissions

variable {operation : Operation}

theorem PolicyEffect.of_same (rows : next.costReservations = repo.costReservations)
    (admissions : next.requestAdmissions = repo.requestAdmissions) :
    PolicyEffect repo operation next := by
  constructor
  · rw [rows]; exact .unchanged
  · exact admissions

theorem PolicyEffect.of_frame (frame : FundsFrame repo next) : PolicyEffect repo operation next :=
  .of_same frame.rows frame.admissions

/-! ## Plain cost calls -/

theorem reserveUsagePolicyCost_effect (input : ReserveUsagePolicyCostInput) :
    PolicyEffect repo (.reserveUsagePolicyCost input) (reserveUsagePolicyCost input repo).2 := by
  have run := reserveUsagePolicyCost_run input repo
  generalize reserveUsagePolicyCost input repo = result at run ⊢
  cases run with
  | refused result => exact .of_frame (.refl repo)
  | admitted result existing valid plain found retry room =>
    exact ⟨.admitted input existing rfl found retry (.inl rfl) room, rfl⟩

theorem reconcileUsagePolicyCost_effect (input : ReconcileUsagePolicyCostInput) :
    PolicyEffect repo (.reconcileUsagePolicyCost input)
      (reconcileUsagePolicyCost input repo).2 := by
  have run := reconcileUsagePolicyCost_run input repo
  generalize (reconcileUsagePolicyCost input repo).2 = result at run ⊢
  cases run with
  | unchanged => exact .of_frame (.refl repo)
  | terminal row plain found reserved ended released =>
    exact ⟨.ended _ row _ _ _ found reserved ended, rfl⟩

/-! ## Attempt calls -/

theorem RequestFundsUsagePolicy.validate_retains (policy : RequestFundsUsagePolicy)
    (quote : ReserveRequestFundsInput) (valid : policy.validate quote = .ok ()) :
    ∀ window ∈ policy.windows, window.endsAtUnixSecs ≤ policy.retainUntilUnixSecs := by
  obtain ⟨allowed, _⟩ := refuse_ok valid
  intro window member
  by_contra late
  have beyond : policy.windows.any (fun window =>
      window.endsAtUnixSecs > policy.retainUntilUnixSecs || window.endsAtUnixSecs > i64Max) := by
    rw [List.any_eq_true]
    exact ⟨window, member, by simp [not_le.mp late]⟩
  tauto

theorem windowCost_mono (repo : SettlementRepository) (input : ReserveUsagePolicyCostInput)
    (window : UsagePolicyCostWindow) (fewer more : StoredUsagePolicyCostReservation → Bool)
    (sub : ∀ row, fewer row → more row) :
    repo.windowCost input more window ≤ repo.windowCost input fewer window := by
  apply OrderedTable.total_mono
  intro row _
  cases skip : fewer row with
  | true => simp [sub row skip]
  | false => cases more row <;> simp

section

variable {input : ReserveRequestAttemptFundsInput} {quota : Option ReserveUsagePolicyCostInput}
  (valid : input.validate = .ok ()) (admitted : QuotaAdmitted repo input quota)
include valid admitted

theorem QuotaAdmitted.costStep (before : SettlementRepository)
    (same : before.costReservations = repo.costReservations) :
    CostStep repo (.reserveRequestAttemptFunds input)
      (before.storeQuota quota).costReservations := by
  cases admitted with
  | free none_ => rw [storeQuota, same]; exact .unchanged
  | admitted policy named fresh room =>
    change CostStep repo _ (before.costReservations.insert
      (policy.costReservation input.quote).reservationToken
      (targetRow (policy.costReservation input.quote) none))
    rw [same]
    refine .admitted (policy.costReservation input.quote) none ?_ fresh (by simp) (.inr ?_) ?_
    · simp [Operation.costInput, named]
    · obtain ⟨_, checked, _⟩ := bind_ok (check_ok (check_ok valid))
      have checked : policy.validate input.quote = .ok () := by
        simpa [ReserveRequestAttemptFundsInput.validatePolicy, named] using checked
      intro window member
      have retains := RequestFundsUsagePolicy.validate_retains policy input.quote checked window
        member
      exact ⟨retains, retains⟩
    · intro window member
      have counted := windowCost_mono repo (policy.costReservation input.quote) window
        (fun _ => false) (fun row => row.reservationToken =
          (policy.costReservation input.quote).reservationToken) (by simp)
      have target : (targetRow (policy.costReservation input.quote) none).reservedCostUnits =
          input.quote.authorizedCostUnits := Nat.zero_max _
      exact (Nat.add_le_add_right counted _).trans (room window member)

theorem recordAttempt_effect (frame : FundsFrame repo next) (staged : Staged)
    (reservation : StoredRequestFundsReservation) :
    PolicyEffect repo (.reserveRequestAttemptFunds input)
      (next.recordAttempt input staged quota reservation).2 := by
  unfold recordAttempt
  dsimp only
  split
  · exact .of_same frame.rows frame.admissions
  · constructor
    · exact admitted.costStep valid _ frame.rows
    · cases quota <;> exact frame.admissions

end

theorem reserveRequestAttemptFunds_effect (input : ReserveRequestAttemptFundsInput) :
    PolicyEffect repo (.reserveRequestAttemptFunds input)
      (reserveRequestAttemptFunds input repo).2 := by
  unfold reserveRequestAttemptFunds
  cases valid : input.validate with
  | error failure => exact .of_frame (.refl repo)
  | ok _ =>
    apply withAttemptParent_keeps _ _ _ repo (.of_frame (.refl repo))
    · intro staged
      unfold reserveCallback
      cases gate : repo.admitAttempt input staged with
      | error failure => exact .of_frame (.refl repo)
      | ok answer =>
        cases answer with
        | inl outcome => exact .of_frame (.refl repo)
        | inr quota =>
          have admitted := admitAttempt_admitted gate
          cases inner : repo.reserveInner input.quote (some input.attemptId) with
          | error failure => exact .of_frame (.refl repo)
          | ok pair =>
            obtain ⟨outcome, next⟩ := pair
            have frame := reserveInner_frame inner
            cases outcome with
            | reserved reservation =>
              exact recordAttempt_effect valid admitted.quota frame staged reservation
            | insufficient available | walletUnavailable | conflict => exact .of_frame frame
    · intro next staged contribution effect
      exact ⟨effect.cost, effect.admissions⟩

theorem advanceAttempt_tables (repo : SettlementRepository) (token request : String)
    (staged : Staged) (attempt : StoredRequestAttemptFunds) :
    (repo.advanceAttempt token request staged attempt).2.costReservations = repo.costReservations ∧
      (repo.advanceAttempt token request staged attempt).2.requestAdmissions =
        repo.requestAdmissions := by
  unfold advanceAttempt
  dsimp only
  split
  · exact ⟨rfl, rfl⟩
  · rw [storeContribution_frame]
    exact ⟨rfl, rfl⟩

theorem markRequestAttemptFundsDispatched_effect (identity : RequestAttemptFundsIdentity)
    (nowUnixSecs : Nat) :
    PolicyEffect repo (.markRequestAttemptFundsDispatched identity nowUnixSecs)
      (markRequestAttemptFundsDispatched identity nowUnixSecs repo).2 := by
  unfold markRequestAttemptFundsDispatched
  cases identity.validate with
  | error failure => exact .of_frame (.refl repo)
  | ok _ =>
    apply withAttemptParent_keeps _ _ _ repo (.of_frame (.refl repo))
    · intro staged
      unfold dispatchCallback
      split
      · exact .of_frame (.refl repo)
      · exact .of_frame (.refl repo)
      · split_ifs
        · exact .of_frame (.refl repo)
        · exact .of_frame (.refl repo)
        · obtain ⟨rows, admissions⟩ := advanceAttempt_tables repo
            identity.request.reservationToken identity.request.requestId staged _
          exact .of_same rows admissions
    · intro next staged contribution effect
      exact ⟨effect.cost, effect.admissions⟩

section

variable (input : RecordRequestAttemptFundsOutcomeInput)

theorem resolveQuota_costStep {after} (stored : StoredRequestAttemptFunds)
    (operation : Operation) (owned : repo.quotaOwned input stored = .ok ())
    (rows : next.costReservations = repo.costReservations)
    (success : next.resolveQuota input stored = .ok after) :
    CostStep repo operation after.costReservations := by
  unfold resolveQuota at success
  unfold quotaOwned at owned
  cases named : stored.usagePolicy with
  | none =>
    simp only [named, Option.isNone_none, if_true] at success
    cases success
    rw [rows]
    exact .unchanged
  | some policy =>
    simp only [named, Option.isNone_some, Bool.false_eq_true, if_false] at success owned
    cases terminal : terminalQuota input.facts.outcome with
    | none =>
      simp only [terminal] at success
      cases success
      rw [rows]
      exact .unchanged
    | some pair =>
      obtain ⟨state, amount⟩ := pair
      simp only [terminal, rows] at success
      cases found : repo.costReservations.get? input.identity.request.reservationToken with
      | none => simp only [found] at success; cases success
      | some quota =>
        simp only [found] at success owned
        cases success
        obtain ⟨active, _⟩ := refuse_ok owned
        have reserved : quota.state = .reserved := by tauto
        have ended : state ≠ .reserved := by
          cases outcome : input.facts.outcome <;> rw [outcome] at terminal <;>
            cases terminal <;> simp
        change CostStep repo operation (next.costReservations.insert _ _)
        rw [rows]
        exact .ended _ quota state amount _ found reserved ended

theorem resolveFunds_frame (stored : StoredRequestAttemptFunds)
    (funds : StoredRequestFundsReservation)
    (success : repo.resolveFunds input stored = .ok (funds, next)) : FundsFrame repo next := by
  unfold resolveFunds at success
  cases outcome : input.facts.outcome with
  | unknown =>
    simp only [outcome] at success
    obtain ⟨_, success⟩ := refuse_ok success
    cases success
    exact .refl _
  | noCharge =>
    simp only [outcome] at success
    cases success
    exact .refl _
  | charged usage =>
    simp only [outcome] at success
    obtain ⟨_, success⟩ := refuse_ok success
    obtain ⟨⟨answer, after⟩, finalized, success⟩ := bind_ok success
    cases answer with
    | none => cases success
    | some result =>
      cases success
      exact finalizeInner_frame finalized

theorem recordRequestAttemptFundsOutcome_effect :
    PolicyEffect repo (.recordRequestAttemptFundsOutcome input)
      (recordRequestAttemptFundsOutcome input repo).2 := by
  unfold recordRequestAttemptFundsOutcome
  cases input.validate with
  | error failure => exact .of_frame (.refl repo)
  | ok _ =>
    apply withAttemptParent_keeps _ _ _ repo (.of_frame (.refl repo))
    · intro staged
      unfold outcomeCallback
      cases gate : repo.outcomeGate input staged with
      | error failure => exact .of_frame (.refl repo)
      | ok answer =>
        cases answer with
        | inl answer => exact .of_frame (.refl repo)
        | inr stored =>
          obtain ⟨_, _, _, _, _, owned⟩ := outcomeGate_resolves gate
          dsimp only
          cases resolving : repo.resolveFunds input stored with
          | error failure => exact .of_frame (.refl repo)
          | ok pair =>
            obtain ⟨resolved, middle⟩ := pair
            have frame := resolveFunds_frame input stored resolved resolving
            dsimp only
            cases charging : middle.resolveQuota input stored with
            | error failure => exact .of_frame frame
            | ok after =>
              obtain ⟨rows, admissions⟩ := advanceAttempt_tables after
                input.identity.request.reservationToken
                input.identity.request.requestId staged
                { stored with funds := resolved, terminalFacts := some input.facts }
              constructor
              · rw [rows]
                exact resolveQuota_costStep input stored _ owned frame.rows charging
              · rw [admissions, resolveQuota_frame charging]
                exact frame.admissions
    · intro next staged contribution effect
      exact ⟨effect.cost, effect.admissions⟩

end

theorem closeRequestFundsAdmission_effect (input : CloseRequestFundsAdmissionInput) :
    PolicyEffect repo (.closeRequestFundsAdmission input)
      (closeRequestFundsAdmission input repo).2 := by
  unfold closeRequestFundsAdmission
  split
  · exact .of_frame (.refl repo)
  · apply withAttemptParent_keeps _ _ _ repo (.of_frame (.refl repo))
    · intro staged
      exact .of_frame (.refl repo)
    · intro next staged contribution effect
      exact ⟨effect.cost, effect.admissions⟩

/-! ## Every call -/

theorem operation_policyEffect (repo : SettlementRepository)
    (other : operation.isRequestPolicy = false) :
    PolicyEffect repo operation (repo.apply operation) := by
  cases operation with
  | reserveRequestFunds input =>
    apply PolicyEffect.of_frame
    apply atomically_keeps (.refl repo)
    intro outcome next success
    exact reserveInner_frame (refuse_ok success).2
  | markRequestFundsDispatched identity =>
    exact .of_frame (markRequestFundsDispatched_legacy identity).frame
  | releaseRequestFunds input => exact .of_frame (releaseRequestFunds_legacy input).frame
  | finalizeRequestFunds input =>
    apply PolicyEffect.of_frame
    apply atomically_keeps (.refl repo)
    intro outcome next success
    exact finalizeInner_frame (check_ok success)
  | recoverInsufficientQuota requestId =>
    exact .of_frame (recoverInsufficientQuota_legacy requestId).frame
  | reserveRequestAttemptFunds input => exact reserveRequestAttemptFunds_effect input
  | markRequestAttemptFundsDispatched identity nowUnixSecs =>
    exact markRequestAttemptFundsDispatched_effect identity nowUnixSecs
  | recordRequestAttemptFundsOutcome input => exact recordRequestAttemptFundsOutcome_effect input
  | closeRequestFundsAdmission input => exact closeRequestFundsAdmission_effect input
  | reserveUsagePolicyCost input => exact reserveUsagePolicyCost_effect input
  | reconcileUsagePolicyCost input => exact reconcileUsagePolicyCost_effect input
  | cleanupUsagePolicyCostReservations nowUnixSecs batchSize =>
    exact ⟨.cleaned nowUnixSecs batchSize rfl, rfl⟩
  | reserveUsagePolicyRequest input | releaseUsagePolicyRequestAdmission input
  | cleanupUsagePolicyRequestAdmissions nowUnixSecs batchSize => cases other

theorem requestPolicy_rows (repo : SettlementRepository) (operation : Operation)
    (about : operation.isRequestPolicy) :
    (repo.apply operation).costReservations = repo.costReservations := by
  cases operation with
  | reserveUsagePolicyRequest input =>
    simp only [apply]
    have run := reserveUsagePolicyRequest_run input repo
    generalize reserveUsagePolicyRequest input repo = result at run ⊢
    cases run <;> rfl
  | releaseUsagePolicyRequestAdmission input =>
    simp only [apply]
    have run := releaseUsagePolicyRequestAdmission_run input repo
    generalize releaseUsagePolicyRequestAdmission input repo = result at run ⊢
    cases run <;> rfl
  | cleanupUsagePolicyRequestAdmissions nowUnixSecs batchSize => rfl
  | _ => cases about

theorem operation_costStep (repo : SettlementRepository) (operation : Operation) :
    CostStep repo operation (repo.apply operation).costReservations := by
  cases about : operation.isRequestPolicy with
  | true => rw [requestPolicy_rows repo operation about]; exact .unchanged
  | false => exact (operation_policyEffect repo about).cost

end SettlementRepository

end Aeris.Settlement
