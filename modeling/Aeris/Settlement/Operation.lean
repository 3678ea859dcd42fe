import Aeris.Settlement.AttemptCalls
import Aeris.Settlement.PolicyCalls

/-! The calls of the settlement repository as one type, and their runs. The
source takes one lock for each call, so a run is a list of calls in the order in
which they got it. -/
namespace Aeris.Settlement

inductive Operation where
  | reserveRequestFunds (input : ReserveRequestFundsInput)
  | markRequestFundsDispatched (identity : RequestFundsIdentity)
  | releaseRequestFunds (input : ReleaseRequestFundsInput)
  | finalizeRequestFunds (input : FinalizeRequestFundsInput)
  | recoverInsufficientQuota (requestId : String)
  | reserveRequestAttemptFunds (input : ReserveRequestAttemptFundsInput)
  | markRequestAttemptFundsDispatched (identity : RequestAttemptFundsIdentity) (nowUnixSecs : Nat)
  | recordRequestAttemptFundsOutcome (input : RecordRequestAttemptFundsOutcomeInput)
  | closeRequestFundsAdmission (input : CloseRequestFundsAdmissionInput)
  | reserveUsagePolicyRequest (input : ReserveUsagePolicyRequestInput)
  | releaseUsagePolicyRequestAdmission (input : ReleaseUsagePolicyRequestAdmissionInput)
  | cleanupUsagePolicyRequestAdmissions (nowUnixSecs batchSize : Nat)
  | reserveUsagePolicyCost (input : ReserveUsagePolicyCostInput)
  | reconcileUsagePolicyCost (input : ReconcileUsagePolicyCostInput)
  | cleanupUsagePolicyCostReservations (nowUnixSecs batchSize : Nat)

def Operation.isRecovery : Operation → Bool
  | .recoverInsufficientQuota _ => true
  | _ => false

def Operation.isPolicy : Operation → Bool
  | .reserveUsagePolicyRequest _ | .releaseUsagePolicyRequestAdmission _
  | .cleanupUsagePolicyRequestAdmissions _ _ | .reserveUsagePolicyCost _
  | .reconcileUsagePolicyCost _ | .cleanupUsagePolicyCostReservations _ _ => true
  | _ => false

def Operation.isAttempt : Operation → Bool
  | .reserveRequestAttemptFunds _ | .markRequestAttemptFundsDispatched _ _
  | .recordRequestAttemptFundsOutcome _ | .closeRequestFundsAdmission _ => true
  | _ => false

namespace SettlementRepository

/-- The state that a call leaves, whatever it returned. -/
def apply (repo : SettlementRepository) (operation : Operation) : SettlementRepository :=
  match operation with
  | .reserveRequestFunds input => (reserveRequestFunds input repo).2
  | .markRequestFundsDispatched identity => (markRequestFundsDispatched identity repo).2
  | .releaseRequestFunds input => (releaseRequestFunds input repo).2
  | .finalizeRequestFunds input => (finalizeRequestFunds input repo).2
  | .recoverInsufficientQuota requestId => (recoverInsufficientQuota requestId repo).2
  | .reserveRequestAttemptFunds input => (reserveRequestAttemptFunds input repo).2
  | .markRequestAttemptFundsDispatched identity nowUnixSecs =>
    (markRequestAttemptFundsDispatched identity nowUnixSecs repo).2
  | .recordRequestAttemptFundsOutcome input => (recordRequestAttemptFundsOutcome input repo).2
  | .closeRequestFundsAdmission input => (closeRequestFundsAdmission input repo).2
  | .reserveUsagePolicyRequest input => (reserveUsagePolicyRequest input repo).2
  | .releaseUsagePolicyRequestAdmission input => (releaseUsagePolicyRequestAdmission input repo).2
  | .cleanupUsagePolicyRequestAdmissions nowUnixSecs batchSize =>
    (cleanupUsagePolicyRequestAdmissions nowUnixSecs batchSize repo).2
  | .reserveUsagePolicyCost input => (reserveUsagePolicyCost input repo).2
  | .reconcileUsagePolicyCost input => (reconcileUsagePolicyCost input repo).2
  | .cleanupUsagePolicyCostReservations nowUnixSecs batchSize =>
    (cleanupUsagePolicyCostReservations nowUnixSecs batchSize repo).2

def run (repo : SettlementRepository) (operations : List Operation) : SettlementRepository :=
  operations.foldl apply repo

@[simp]
theorem run_cons (repo : SettlementRepository) (operation : Operation) (rest : List Operation) :
    repo.run (operation :: rest) = (repo.apply operation).run rest := rfl

theorem run_keeps {motive : SettlementRepository → Prop} (operations : List Operation)
    (step : ∀ operation ∈ operations, ∀ repo, motive repo → motive (repo.apply operation)) :
    ∀ repo, motive repo → motive (repo.run operations) := by
  induction operations with
  | nil => intro repo start; exact start
  | cons operation rest ih =>
    intro repo start
    have first := step operation List.mem_cons_self repo start
    exact ih (fun other member => step other (List.mem_cons_of_mem _ member)) _ first

theorem policy_frame (repo : SettlementRepository) (operation : Operation)
    (policy : operation.isPolicy) : ∃ admissions rows, repo.apply operation =
      { repo with requestAdmissions := admissions, costReservations := rows } := by
  cases operation with
  | reserveUsagePolicyRequest input =>
    simp only [apply]
    have run := reserveUsagePolicyRequest_run input repo
    generalize reserveUsagePolicyRequest input repo = result at run ⊢
    cases run <;> exact ⟨_, _, rfl⟩
  | releaseUsagePolicyRequestAdmission input =>
    simp only [apply]
    have run := releaseUsagePolicyRequestAdmission_run input repo
    generalize releaseUsagePolicyRequestAdmission input repo = result at run ⊢
    cases run <;> exact ⟨_, _, rfl⟩
  | cleanupUsagePolicyRequestAdmissions nowUnixSecs batchSize => exact ⟨_, _, rfl⟩
  | reserveUsagePolicyCost input =>
    simp only [apply]
    have run := reserveUsagePolicyCost_run input repo
    generalize reserveUsagePolicyCost input repo = result at run ⊢
    cases run <;> exact ⟨_, _, rfl⟩
  | reconcileUsagePolicyCost input =>
    simp only [apply]
    have run := reconcileUsagePolicyCost_run input repo
    generalize (reconcileUsagePolicyCost input repo).2 = result at run ⊢
    cases run <;> exact ⟨_, _, rfl⟩
  | cleanupUsagePolicyCostReservations nowUnixSecs batchSize => exact ⟨_, _, rfl⟩
  | _ => cases policy

theorem operation_transfer {repo} (sound : repo.FundsSound)
    {operation} (paid : operation.isRecovery = false) :
    FundsTransfer repo (repo.apply operation) := by
  have unchanged : operation.isPolicy → FundsTransfer repo (repo.apply operation) := by
    intro policy
    obtain ⟨admissions, rows, same⟩ := policy_frame repo operation policy
    rw [same]
    exact .unchanged rfl rfl
  cases operation with
  | reserveRequestFunds input => exact reserveRequestFunds_transfer sound input
  | markRequestFundsDispatched identity => exact markRequestFundsDispatched_transfer sound identity
  | releaseRequestFunds input => exact releaseRequestFunds_transfer sound input
  | finalizeRequestFunds input => exact finalizeRequestFunds_transfer sound input
  | recoverInsufficientQuota requestId => cases paid
  | reserveRequestAttemptFunds input => exact reserveRequestAttemptFunds_transfer sound input
  | markRequestAttemptFundsDispatched identity nowUnixSecs =>
    exact markRequestAttemptFundsDispatched_transfer sound identity nowUnixSecs
  | recordRequestAttemptFundsOutcome input =>
    exact recordRequestAttemptFundsOutcome_transfer sound input
  | closeRequestFundsAdmission input => exact closeRequestFundsAdmission_transfer input
  | _ => exact unchanged rfl

theorem operation_effect {repo} (sound : repo.FundsSound)
    (operation : Operation) : FundsEffect repo (repo.apply operation) := by
  by_cases recovery : operation.isRecovery
  · cases operation with
    | recoverInsufficientQuota requestId => exact recoverInsufficientQuota_effect sound requestId
    | _ => cases recovery
  · exact .transfer (operation_transfer sound (by simpa using recovery))

end SettlementRepository

end Aeris.Settlement
