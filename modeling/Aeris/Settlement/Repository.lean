import Aeris.Settlement.Contract.Attempt

/-! The state of the in-memory settlement repository: one ordered map for each
map of the source. The usage repository, which is optional, holds the parents of
attempts and their summaries. -/
namespace Aeris.Settlement

/-- The fields of the parent audit that the settlement code reads or writes. -/
structure StoredRequestUsageAudit where
  id : String
  requestId : String
  userId : Option String
  apiKeyId : Option String
  inputTokens : Nat
  outputTokens : Nat
  totalTokens : Nat
  cacheCreationInputTokens : Nat
  cacheCreationEphemeral5mInputTokens : Nat
  cacheCreationEphemeral1hInputTokens : Nat
  cacheReadInputTokens : Nat
  totalCostUsd : Usd
  actualTotalCostUsd : Usd
  status : String
  billingStatus : String
  requestMetadata : Option Json
  updatedAtUnixSecs : Nat
  finalizedAtUnixSecs : Option Nat
  deriving DecidableEq

structure DailyCostContribution where
  requestId : String
  usageId : String
  userId : Option String
  apiKeyId : Option String
  apiKeyIsStandalone : Bool
  attemptFunds : Bool
  actualCostUnits : Nat
  accountingAtUnixSecs : Option Nat
  deriving DecidableEq

structure ProviderApiKeyUsageContribution where
  keyId : String
  requestCount : Nat
  successCount : Nat
  errorCount : Nat
  totalTokens : Nat
  totalCostUsd : Usd
  totalResponseTimeMs : Nat
  lastUsedAtUnixSecs : Option Nat
  usageCreatedAtUnixSecs : Option Nat
  deriving DecidableEq

abbrev Table := OrderedTable String

structure UsageRepository where
  byRequestId : Table StoredRequestUsageAudit
  attemptFunds : Table RequestFundsSummary
  attemptProviderContributions : Table ProviderApiKeyUsageContribution
  dailyCostContributions : Table DailyCostContribution
  deriving DecidableEq

def UsageRepository.isAttemptFundsRequest (usage : UsageRepository) (request : String) : Bool :=
  usage.attemptFunds.contains request

structure SettlementRepository where
  wallets : Table StoredWalletSnapshot
  providerMonthlyUsed : Table Usd
  settlements : Table StoredUsageSettlement
  costReservations : Table StoredUsagePolicyCostReservation
  requestAdmissions : Table StoredUsagePolicyRequestAdmission
  funds : Table StoredRequestFundsReservation
  recoverableUsage : Table UsageSettlementInput
  recoveredUnits : Table Nat
  attemptMetadata : Table StoredRequestAttemptFunds
  usage : Option UsageRepository
  deriving DecidableEq

namespace SettlementRepository

def isAttemptCostToken (repo : SettlementRepository) (token : String) : Bool :=
  (repo.attemptMetadata.get? token).any (fun attempt => attempt.usagePolicy.isSome)

/-- A public call: what it returns, and the state it leaves behind. -/
abbrev Call (α : Type) := SettlementRepository → Result α × SettlementRepository

/-- A computation whose every check precedes its first write, so that a failure
leaves the state as it was. -/
def atomically {α : Type}
    (body : SettlementRepository → Result (α × SettlementRepository)) : Call α :=
  fun repo =>
    match body repo with
    | .ok (value, next) => (.ok value, next)
    | .error failure => (.error failure, repo)

variable {α : Type}

/-- How a checked call ends: with a failure and no change, or with what its body gives. -/
theorem atomically_run (body : SettlementRepository → Result (α × SettlementRepository))
    (repo : SettlementRepository) : (∃ failure, atomically body repo = (.error failure, repo)) ∨
      ∃ value next, body repo = .ok (value, next) ∧ atomically body repo = (.ok value, next) := by
  unfold atomically
  cases result : body repo with
  | error failure => exact .inl ⟨failure, rfl⟩
  | ok pair => exact .inr ⟨pair.1, pair.2, rfl, rfl⟩

theorem atomically_error {repo}
    {body : SettlementRepository → Result (α × SettlementRepository)} {failure}
    (failed : (atomically body repo).1 = .error failure) : body repo = .error failure := by
  unfold atomically at failed
  cases result : body repo with
  | error refused =>
    simp only [result] at failed
    exact congrArg Except.error (Except.error.inj failed)
  | ok pair => simp only [result] at failed; cases failed

theorem atomically_keeps {repo} {body : SettlementRepository → Result (α × SettlementRepository)}
    {motive : SettlementRepository → Prop} (same : motive repo)
    (changed : ∀ value next, body repo = .ok (value, next) → motive next) :
    motive (atomically body repo).2 := by
  unfold atomically
  cases result : body repo with
  | error failure => exact same
  | ok pair => exact changed pair.1 pair.2 result

end SettlementRepository

end Aeris.Settlement
