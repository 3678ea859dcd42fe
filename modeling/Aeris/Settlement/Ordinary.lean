import Aeris.Base.Checked
import Aeris.Settlement.Funding

/-! Settlement of a usage that nothing was reserved for. The bill is split over the two
balances of the wallet, less what reservations hold there; what is left of it is an overdraft
of the recharge balance. A usage without a wallet is recorded as unpaid, for a recovery. -/
namespace Aeris.Settlement

open Checked

/-- `usd > 0.0`. -/
def Usd.isPositive : Usd → Bool
  | .finite value => 0 < value
  | .infinite negative => !negative
  | .nan => false

def Usd.neg : Usd → Usd
  | .finite value => .finite (-value)
  | .infinite negative => .infinite (!negative)
  | .nan => .nan

def settlementBillingStatusForUsageStatus (status : String) : String :=
  if status = "completed" ∨ status = "cancelled" then "settled" else "void"

def settlementBillableCostUsd (input : UsageSettlementInput) : Usd :=
  (input.billingCostUsd.getD input.actualTotalCostUsd).maxZero

structure UsageSettlementWriteOutcome where
  settlement : Option StoredUsageSettlement
  newlyFinalized : Bool
  deriving DecidableEq

/-! ## The debit of a finite wallet -/

structure BillSplit where
  recharge : Nat
  gift : Nat
  overdraft : Nat
  deriving DecidableEq, Repr

def splitBill (required availableRecharge availableGift : Nat) : BillSplit :=
  let recharge := min required availableRecharge
  let gift := min (required - recharge) availableGift
  ⟨recharge, gift, required - recharge - gift⟩

def signedFundsUsd (units : Int) : Usd :=
  if 0 ≤ units then requestFundsUsd units.toNat else (requestFundsUsd (-units).toNat).neg

/-- The balance that is left. A debt counts as an empty balance before the debit. -/
def rechargeAfter (before : Usd) (split : BillSplit) : Result Usd :=
  if split.recharge = 0 ∧ split.overdraft = 0 then .ok before
  else do
    let units ← requestFundsAvailableUnits before.maxZero
    return signedFundsUsd (units - split.recharge - split.overdraft)

def giftAfter (before : Usd) (split : BillSplit) : Result Usd :=
  if split.gift = 0 then .ok before
  else do
    let units ← requestFundsAvailableUnits before
    return requestFundsUsd (units - split.gift)

def debitFiniteWallet (held : Bucket → Nat) (wallet : StoredWalletSnapshot) (bill : Usd) :
    Result (Usd × Usd) := do
  let recharge ← requestFundsAvailableUnits wallet.balance.maxZero
  let gift ← requestFundsAvailableUnits wallet.giftBalance
  let required ← requestFundsAuthorizedUnits bill
  let split := splitBill required (recharge - held .recharge) (gift - held .gift)
  let balance ← rechargeAfter wallet.balance split
  let giftBalance ← giftAfter wallet.giftBalance split
  return (balance, giftBalance)

def chargeOrdinary (held : Bucket → Nat) (wallet : StoredWalletSnapshot) (bill : Usd) :
    Result StoredWalletSnapshot :=
  let totalConsumed := wallet.totalConsumed + bill
  if eqIgnoreAsciiCase wallet.limitMode "unlimited" then do
    validateWalletSettlementValues wallet.balance wallet.giftBalance totalConsumed .zero
    return { wallet with totalConsumed := totalConsumed }
  else do
    let (balance, giftBalance) ← debitFiniteWallet held wallet bill
    validateWalletSettlementValues balance giftBalance totalConsumed .zero
    return { wallet with
      balance := balance, giftBalance := giftBalance, totalConsumed := totalConsumed }

def settleWallet (held : Bucket → Nat) (wallet : StoredWalletSnapshot) (status : String)
    (bill : Usd) : Result StoredWalletSnapshot := do
  validateWalletSettlementValues wallet.balance wallet.giftBalance wallet.totalConsumed
    (if status = "settled" then bill else .zero)
  if status = "settled" then chargeOrdinary held wallet bill else .ok wallet

/-! ## The call -/

/-- The wallet of the key, or else any wallet of the user. -/
def settlementWalletId (wallets : Table StoredWalletSnapshot) (input : UsageSettlementInput) :
    Option String :=
  let byKey := input.apiKeyId.bind fun key =>
    wallets.values.find? (fun wallet => wallet.apiKeyId = some key)
  let byUser :=
    if input.apiKeyIsStandalone then none
    else input.userId.bind fun user =>
      wallets.values.find? (fun wallet => wallet.userId = some user)
  (byKey.or byUser).map (fun wallet => wallet.id)

def settlementRecord (input : UsageSettlementInput) (billingStatus : String) :
    StoredUsageSettlement where
  requestId := input.requestId
  walletId := none
  billingStatus := billingStatus
  walletBalanceBefore := none
  walletBalanceAfter := none
  walletRechargeBalanceBefore := none
  walletRechargeBalanceAfter := none
  walletGiftBalanceBefore := none
  walletGiftBalanceAfter := none
  providerMonthlyUsedUsd := none
  finalizedAtUnixSecs := input.finalizedAtUnixSecs

namespace SettlementRepository

/-- What the provider has used this month after a billable settlement. -/
def providerMonthlyAfter (repo : SettlementRepository) (input : UsageSettlementInput) :
    Result (Option (String × Usd)) :=
  if settlementBillingStatusForUsageStatus input.status = "settled" then
    match input.providerId with
    | none => .ok none
    | some provider =>
      let current := (repo.providerMonthlyUsed.get? provider).getD .zero
      let next := current + input.actualTotalCostUsd
      if ¬ current.isFinite ∨ current.isNegative ∨ ¬ next.isFinite then
        .error (.unexpectedValue "provider monthly usage is invalid for settlement")
      else .ok (some (provider, next))
  else .ok none

/-- Funds are held for the request under some token. -/
def reservedFor (repo : SettlementRepository) (requestId : String) : Bool :=
  repo.funds.values.any fun reservation =>
    reservation.quote.identity.requestId = requestId ∧ reservation.state.holdsFunds

/-- The wallets and the record of the settlement. -/
def settleOnWallet (repo : SettlementRepository) (input : UsageSettlementInput) :
    Result (Table StoredWalletSnapshot × StoredUsageSettlement) :=
  let status := settlementBillingStatusForUsageStatus input.status
  let bill := settlementBillableCostUsd input
  match settlementWalletId repo.wallets input with
  | some id =>
    match repo.wallets.get? id with
    | some wallet => do
        let after ← settleWallet (fun bucket => heldWalletUnits repo.funds bucket wallet.id)
          wallet status bill
        return (repo.wallets.insert id after,
          { (settlementRecord input status).withBalances wallet after with
            walletId := some wallet.id })
    | none => .ok (repo.wallets, unpaid status bill)
  | none => .ok (repo.wallets, unpaid status bill)
where
  unpaid (status : String) (bill : Usd) : StoredUsageSettlement :=
    settlementRecord input
      (if status = "settled" ∧ bill.isPositive then "insufficient_quota" else status)

def storeSettlement (repo : SettlementRepository) (input : UsageSettlementInput)
    (provider : Option (String × Usd)) (wallets : Table StoredWalletSnapshot)
    (settlement : StoredUsageSettlement) : UsageSettlementWriteOutcome × SettlementRepository :=
  let counted := if settlement.billingStatus = "settled" then provider else none
  let settlement := { settlement with providerMonthlyUsedUsd := counted.map Prod.snd }
  (⟨some settlement, true⟩, { repo with
    wallets := wallets
    providerMonthlyUsed :=
      counted.elim repo.providerMonthlyUsed fun used =>
        repo.providerMonthlyUsed.insert used.1 used.2
    settlements := repo.settlements.insert settlement.requestId settlement
    recoverableUsage :=
      if settlement.billingStatus = "insufficient_quota" then
        repo.recoverableUsage.insert input.requestId input
      else repo.recoverableUsage })

def settlePending (repo : SettlementRepository) (input : UsageSettlementInput) :
    Result (UsageSettlementWriteOutcome × SettlementRepository) := do
  let provider ← repo.providerMonthlyAfter input
  if repo.reservedFor input.requestId then
    invalid "reserved usage requires token-bound funds settlement"
  else do
    let (wallets, settlement) ← repo.settleOnWallet input
    return repo.storeSettlement input provider wallets settlement

def settleUsageObserved (input : UsageSettlementInput) : Call UsageSettlementWriteOutcome :=
  atomically fun repo => do
    input.validate
    if repo.usage.any (fun usage => usage.isAttemptFundsRequest input.requestId) then
      invalid "attempt funds usage requires v2 financial settlement"
    else
      match repo.settlements.get? input.requestId with
      | some existing => return (⟨some existing, false⟩, repo)
      | none =>
        if input.billingStatus ≠ "pending" then
          return (⟨some (settlementRecord input input.billingStatus), false⟩, repo)
        else repo.settlePending input

end SettlementRepository

end Aeris.Settlement
