import Aeris.Settlement.AttemptSteps
import Aeris.Settlement.Operation

/-! The ledger of attempts under every call of the repository. The calls that know
no attempts leave everything alone that belongs to one. -/
namespace Aeris.Settlement

open OrderedTable

namespace SettlementRepository

variable {repo next : SettlementRepository}

/-! ## The calls without attempts -/

/-- The call leaves everything of the attempts and their parents alone. -/
structure Untouched (repo next : SettlementRepository) : Prop where
  keeps : KeepsAttempts repo next
  usage : next.usage = repo.usage

theorem untouched_of_same (metadata : next.attemptMetadata = repo.attemptMetadata)
    (funds : next.funds = repo.funds) (rows : next.costReservations = repo.costReservations)
    (usage : next.usage = repo.usage) : Untouched repo next where
  keeps := ⟨metadata, fun _ _ found _ => by rw [funds]; exact found,
    fun _ _ found _ => by rw [← funds]; exact found, fun _ _ => by rw [rows]⟩
  usage := usage

theorem LegacyStep.untouched (step : LegacyStep repo next) : Untouched repo next := by
  cases step with
  | same frame funds => exact untouched_of_same frame.metadata funds frame.rows frame.usage
  | wrote token reservation frame written legacy before =>
    refine ⟨⟨frame.metadata, ?_, ?_, fun _ _ => by rw [frame.rows]⟩, frame.usage⟩
    · intro place stored found named
      rw [written, get?_insert_of_ne]
      · exact found
      · rintro rfl
        simp [before stored found] at named
    · intro place stored found named
      rw [written, get?_insert] at found
      split_ifs at found with same
      · cases found
        simp [legacy] at named
      · exact found

/-! ## The calls of the usage policy -/

theorem storeCost_untouched (token : String) (row : StoredUsagePolicyCostReservation)
    (plain : repo.isAttemptCostToken token = false) :
    Untouched repo (repo.storeCost token row) := by
  refine ⟨⟨rfl, fun _ _ found _ => found, fun _ _ found _ => found, ?_⟩, rfl⟩
  intro place attempt
  apply get?_insert_of_ne
  rintro rfl
  rw [plain] at attempt
  cases attempt

theorem reserveUsagePolicyCost_untouched (input : ReserveUsagePolicyCostInput) :
    Untouched repo (reserveUsagePolicyCost input repo).2 := by
  have run := reserveUsagePolicyCost_run input repo
  generalize reserveUsagePolicyCost input repo = result at run ⊢
  cases run with
  | refused result => exact untouched_of_same rfl rfl rfl rfl
  | admitted result existing valid plain found retry room => exact storeCost_untouched _ _ plain

theorem reconcileUsagePolicyCost_untouched (input : ReconcileUsagePolicyCostInput) :
    Untouched repo (reconcileUsagePolicyCost input repo).2 := by
  have run := reconcileUsagePolicyCost_run input repo
  generalize (reconcileUsagePolicyCost input repo).2 = result at run ⊢
  cases run with
  | unchanged => exact untouched_of_same rfl rfl rfl rfl
  | terminal row plain found reserved ended released => exact storeCost_untouched _ _ plain

theorem cleanupUsagePolicyCostReservations_untouched (nowUnixSecs batchSize : Nat) :
    Untouched repo (cleanupUsagePolicyCostReservations nowUnixSecs batchSize repo).2 := by
  refine ⟨⟨rfl, fun _ _ found _ => found, fun _ _ found _ => found, ?_⟩, rfl⟩
  intro token attempt
  rcases cleanup_get? repo.costReservations (fun token row =>
      row.retainUntilUnixSecs ≤ nowUnixSecs ∧ ¬ repo.isAttemptCostToken token) batchSize token with
    same | ⟨_, row, _, expired⟩
  · exact same
  · simp [attempt] at expired

theorem storeAdmission_untouched (token : String) (row : StoredUsagePolicyRequestAdmission) :
    Untouched repo (repo.storeAdmission token row) :=
  untouched_of_same rfl rfl rfl rfl

theorem reserveUsagePolicyRequest_untouched (input : ReserveUsagePolicyRequestInput) :
    Untouched repo (reserveUsagePolicyRequest input repo).2 := by
  have run := reserveUsagePolicyRequest_run input repo
  generalize reserveUsagePolicyRequest input repo = result at run ⊢
  cases run with
  | refused result denied => exact untouched_of_same rfl rfl rfl rfl
  | replayed existing found subject admitted | admitted valid fresh room =>
    exact storeAdmission_untouched _ _

theorem releaseUsagePolicyRequestAdmission_untouched
    (input : ReleaseUsagePolicyRequestAdmissionInput) :
    Untouched repo (releaseUsagePolicyRequestAdmission input repo).2 := by
  have run := releaseUsagePolicyRequestAdmission_run input repo
  generalize releaseUsagePolicyRequestAdmission input repo = result at run ⊢
  cases run with
  | refused result denied => exact untouched_of_same rfl rfl rfl rfl
  | released admission after found state kept => exact storeAdmission_untouched _ _

/-! ## Every call -/

theorem AttemptCall.ledger {α} {result : Result α × SettlementRepository}
    (call : AttemptCall repo result) (ledger : repo.LedgerSound) :
    result.2.LedgerSound ∧ ∀ request, GateFinal request repo result.2 := by
  cases call with
  | refused failure => exact ⟨ledger, fun request => .refl request repo⟩
  | ran unavailable request callback steps =>
    exact withAttemptParent_ledger steps ledger unavailable

theorem operation_untouched (funds : repo.FundsSound) {operation}
    (plain : operation.isAttempt = false) : Untouched repo (repo.apply operation) := by
  cases operation with
  | reserveRequestFunds input => exact (reserveRequestFunds_legacy input).untouched
  | markRequestFundsDispatched identity =>
    exact (markRequestFundsDispatched_legacy identity).untouched
  | releaseRequestFunds input => exact (releaseRequestFunds_legacy input).untouched
  | finalizeRequestFunds input => exact (finalizeRequestFunds_legacy funds input).untouched
  | recoverInsufficientQuota requestId =>
    exact (recoverInsufficientQuota_legacy requestId).untouched
  | reserveUsagePolicyRequest input => exact reserveUsagePolicyRequest_untouched input
  | releaseUsagePolicyRequestAdmission input =>
    exact releaseUsagePolicyRequestAdmission_untouched input
  | cleanupUsagePolicyRequestAdmissions nowUnixSecs batchSize =>
    exact untouched_of_same rfl rfl rfl rfl
  | reserveUsagePolicyCost input => exact reserveUsagePolicyCost_untouched input
  | reconcileUsagePolicyCost input => exact reconcileUsagePolicyCost_untouched input
  | cleanupUsagePolicyCostReservations nowUnixSecs batchSize =>
    exact cleanupUsagePolicyCostReservations_untouched nowUnixSecs batchSize
  | _ => cases plain

theorem operation_ledger (repo : SettlementRepository) (ledger : repo.LedgerSound)
    (operation : Operation) : (repo.apply operation).LedgerSound ∧
      ∀ request, GateFinal request repo (repo.apply operation) := by
  have funds := effect_sound ledger.funds (operation_effect ledger.funds operation)
  have plain : operation.isAttempt = false → (repo.apply operation).LedgerSound ∧
      ∀ request, GateFinal request repo (repo.apply operation) := by
    intro other
    obtain ⟨keeps, usage⟩ := operation_untouched ledger.funds other
    exact ⟨keeps.ledgerSound ledger funds usage, keeps.gateFinal usage⟩
  cases operation with
  | reserveRequestAttemptFunds input =>
    exact (reserveRequestAttemptFunds_call ledger.backed input).ledger ledger
  | markRequestAttemptFundsDispatched identity nowUnixSecs =>
    exact (markRequestAttemptFundsDispatched_call ledger.backed identity nowUnixSecs).ledger ledger
  | recordRequestAttemptFundsOutcome input =>
    exact (recordRequestAttemptFundsOutcome_call ledger.backed input).ledger ledger
  | closeRequestFundsAdmission input =>
    exact (closeRequestFundsAdmission_call ledger.backed input).ledger ledger
  | _ => exact plain rfl

theorem run_gateFinal (request : String) (operations : List Operation) :
    ∀ repo : SettlementRepository, repo.LedgerSound →
      (repo.run operations).LedgerSound ∧ GateFinal request repo (repo.run operations) := by
  induction operations with
  | nil => intro repo ledger; exact ⟨ledger, .refl request repo⟩
  | cons operation rest ih =>
    intro repo ledger
    obtain ⟨sound, first⟩ := operation_ledger repo ledger operation
    obtain ⟨last, second⟩ := ih (repo.apply operation) sound
    exact ⟨last, (first request).trans second⟩

end SettlementRepository

end Aeris.Settlement
