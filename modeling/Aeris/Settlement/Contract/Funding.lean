import Aeris.Base.Json
import Aeris.Settlement.Units

/-! The request-funds contract: who pays for a request, the quote that is
reserved, the reservation that is stored, and the settlement of a usage. -/
namespace Aeris.Settlement

open RustStd

structure RequestFundsIdentity where
  reservationToken : String
  requestId : String
  userId : Option String
  apiKeyId : Option String
  apiKeyIsStandalone : Bool
  deriving DecidableEq

/-- An identifier that is present must have 1 to 128 bytes and not be blank. -/
def unboundedId (value : String) : Bool := isBlank value || byteLen value > 128

def RequestFundsIdentity.validateField (_ : Nat) (field : String × Option String) : Result Unit :=
  if field.2.any unboundedId then
    invalid ("request funds " ++ field.1 ++ " must contain 1 to 128 bytes")
  else .ok ()

def RequestFundsIdentity.validate (identity : RequestFundsIdentity) : Result Unit := do
  forEach validateField 0
    [("reservation_token", some identity.reservationToken), ("request_id", some identity.requestId),
      ("user_id", identity.userId), ("api_key_id", identity.apiKeyId)]
  if identity.apiKeyIsStandalone ∧ identity.apiKeyId.isNone ∨
      ¬ identity.apiKeyIsStandalone ∧ identity.userId.isNone then
    invalid "request funds identity is missing its funding owner"
  else .ok ()

structure ReserveRequestFundsInput where
  identity : RequestFundsIdentity
  authorizedCostUnits : Nat
  pricingSnapshot : Json
  admittedAtUnixSecs : Nat
  deriving DecidableEq

def ReserveRequestFundsInput.validate (input : ReserveRequestFundsInput) : Result Unit := do
  input.identity.validate
  if input.authorizedCostUnits > maxRequestFundsUnits ∨ input.admittedAtUnixSecs > i64Max ∨
      ¬ input.pricingSnapshot.isObject ∨ input.pricingSnapshot.textLen > 64 * 1024 then
    invalid "request funds quote has invalid amount, time or pricing snapshot"
  else .ok ()

theorem ReserveRequestFundsInput.validate_bounded (input : ReserveRequestFundsInput)
    (valid : input.validate = .ok ()) : input.authorizedCostUnits ≤ maxRequestFundsUnits := by
  obtain ⟨accepted, _⟩ := refuse_ok (check_ok valid)
  exact not_lt.mp (fun larger => accepted (.inl larger))

inductive RequestFundsState where
  | prepared
  | dispatched
  | settled
  | released
  | reconciliationPending
  deriving DecidableEq, Repr

def RequestFundsState.holdsFunds : RequestFundsState → Bool
  | .prepared | .dispatched | .reconciliationPending => true
  | .settled | .released => false

inductive RequestFundingSource where
  | walletRecharge (walletId : String)
  | walletGift (walletId : String)
  | entitlement (entitlementId usageDate : String) (quotaCostUnits : Nat)
  | postpaid (walletId : String)
  deriving DecidableEq, Repr

structure RequestFundsAllocation where
  source : RequestFundingSource
  reservedCostUnits : Nat
  deriving DecidableEq, Repr

structure UsageSettlementInput where
  requestId : String
  userId : Option String
  apiKeyId : Option String
  apiKeyIsStandalone : Bool
  providerId : Option String
  status : String
  billingStatus : String
  totalCostUsd : Usd
  actualTotalCostUsd : Usd
  billingCostUsd : Option Usd
  finalizedAtUnixSecs : Option Nat
  deriving DecidableEq

def UsageSettlementInput.validate (input : UsageSettlementInput) : Result Unit :=
  if isBlank input.requestId then invalid "settlement request_id cannot be empty"
  else if isBlank input.status ∨ isBlank input.billingStatus then
    invalid "settlement status cannot be empty"
  else if ¬ input.totalCostUsd.isFinite ∨ ¬ input.actualTotalCostUsd.isFinite then
    invalid "settlement cost must be finite"
  else if input.billingCostUsd.any (fun value => !value.isFinite || value.isNegative) then
    invalid "settlement billing_cost_usd must be finite and non-negative"
  else .ok ()

structure StoredUsageSettlement where
  requestId : String
  walletId : Option String
  billingStatus : String
  walletBalanceBefore : Option Usd
  walletBalanceAfter : Option Usd
  walletRechargeBalanceBefore : Option Usd
  walletRechargeBalanceAfter : Option Usd
  walletGiftBalanceBefore : Option Usd
  walletGiftBalanceAfter : Option Usd
  providerMonthlyUsedUsd : Option Usd
  finalizedAtUnixSecs : Option Nat
  deriving DecidableEq

structure StoredRequestFundsReservation where
  attemptId : Option String
  quote : ReserveRequestFundsInput
  walletId : Option String
  allocations : List RequestFundsAllocation
  state : RequestFundsState
  actualCostUnits : Option Nat
  collectedCostUnits : Nat
  reconciliationFacts : Option Json
  settlement : Option StoredUsageSettlement
  deriving DecidableEq

inductive ReserveRequestFundsOutcome where
  | reserved (reservation : StoredRequestFundsReservation)
  | insufficient (availableCostUnits : Nat)
  | walletUnavailable
  | conflict
  deriving DecidableEq

structure ReleaseRequestFundsInput where
  identity : RequestFundsIdentity
  terminalNoCharge : Bool
  deriving DecidableEq

structure FinalizeRequestFundsInput where
  identity : RequestFundsIdentity
  usage : UsageSettlementInput
  reconciliationFacts : Option Json
  deriving DecidableEq

def FinalizeRequestFundsInput.validate (input : FinalizeRequestFundsInput) : Result Unit := do
  input.identity.validate
  input.usage.validate
  if input.identity.requestId ≠ input.usage.requestId ∨
      input.identity.userId ≠ input.usage.userId ∨
      input.identity.apiKeyId ≠ input.usage.apiKeyId ∨
      input.identity.apiKeyIsStandalone ≠ input.usage.apiKeyIsStandalone then
    invalid "request funds settlement identity does not match the reserved request"
  else if input.reconciliationFacts.any
      (fun facts => !facts.isObject || facts.textLen > 16 * 1024) then
    invalid "request funds reconciliation facts must be an object under 16 KiB"
  else .ok ()

structure RequestFundsRecoveryOutcome where
  requestId : String
  collectedCostUnits : Nat
  outstandingCostUnits : Nat
  settlement : StoredUsageSettlement
  deriving DecidableEq

structure StoredWalletSnapshot where
  id : String
  userId : Option String
  apiKeyId : Option String
  balance : Usd
  giftBalance : Usd
  limitMode : String
  status : String
  totalConsumed : Usd
  deriving DecidableEq

def validateWalletSettlementValues (rechargeBalance giftBalance totalConsumed
    additionalConsumed : Usd) : Result Unit :=
  let balanceTotal := rechargeBalance + giftBalance
  let consumedAfter := totalConsumed + additionalConsumed
  if ¬ rechargeBalance.isFinite ∨ ¬ giftBalance.isFinite ∨ giftBalance.isNegative ∨
      ¬ balanceTotal.isFinite ∨ ¬ totalConsumed.isFinite ∨ totalConsumed.isNegative ∨
      ¬ additionalConsumed.isFinite ∨ additionalConsumed.isNegative ∨
      ¬ consumedAfter.isFinite then
    .error (.unexpectedValue "wallet financial state is invalid for usage settlement")
  else .ok ()

end Aeris.Settlement
