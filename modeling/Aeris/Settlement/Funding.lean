import Aeris.Settlement.Repository

/-! The funds of a request, one reservation for each token: reserve, dispatch,
release, settle, and the later recovery of an unpaid usage. Two entry paths share
the reservation and the settlement: the legacy calls here, with no attempt, and
the attempt calls. -/
namespace Aeris.Settlement

open RustStd

inductive Bucket where
  | recharge
  | gift
  deriving DecidableEq, Repr

namespace RequestFundingSource

def isFrom (bucket : Bucket) : RequestFundingSource → Bool
  | .walletRecharge _ => bucket = .recharge
  | .walletGift _ => bucket = .gift
  | .entitlement _ _ _ | .postpaid _ => false

def drawsOn (bucket : Bucket) (walletId : String) : RequestFundingSource → Bool
  | .walletRecharge id => bucket = .recharge ∧ id = walletId
  | .walletGift id => bucket = .gift ∧ id = walletId
  | .entitlement _ _ _ | .postpaid _ => false

end RequestFundingSource

/-! ## Holds -/

/-- The units that the chosen allocations still hold, when the collected units
are taken from all the allocations in their order. -/
def heldAllocations (chosen : RequestFundingSource → Bool) : Nat → List RequestFundsAllocation → Nat
  | _, [] => 0
  | collected, allocation :: rest =>
    let used := min collected allocation.reservedCostUnits
    let held := allocation.reservedCostUnits - used
    (if chosen allocation.source then held else 0) +
      heldAllocations chosen (collected - used) rest

namespace StoredRequestFundsReservation

/-- The reservation counts as held: its state holds funds and nothing settled it. -/
def unsettledHold (reservation : StoredRequestFundsReservation) : Bool :=
  reservation.state.holdsFunds && reservation.settlement.isNone

def heldUnits (bucket : Bucket) (walletId : String)
    (reservation : StoredRequestFundsReservation) : Nat :=
  if reservation.unsettledHold then
    heldAllocations (RequestFundingSource.drawsOn bucket walletId)
      reservation.collectedCostUnits reservation.allocations
  else 0

end StoredRequestFundsReservation

/-- `held_wallet_units`, one bucket at a time. -/
def heldWalletUnits (reservations : Table StoredRequestFundsReservation) (bucket : Bucket)
    (walletId : String) : Nat :=
  reservations.total (StoredRequestFundsReservation.heldUnits bucket walletId)

/-! ## Reserve -/

def walletIdOf (wallets : Table StoredWalletSnapshot) (identity : RequestFundsIdentity) :
    Option String :=
  let byKey := identity.apiKeyId.bind (fun key =>
    wallets.values.find? (fun wallet => wallet.apiKeyId = some key))
  let byUser :=
    if identity.apiKeyIsStandalone then none
    else wallets.values.find? (fun wallet =>
      wallet.userId = identity.userId ∧ wallet.apiKeyId = none)
  (byKey.or byUser).map (fun wallet => wallet.id)

/-- Take what remains from the sources in turn; a source that gives nothing
leaves no allocation. -/
def draw : Nat → List (RequestFundingSource × Nat) → List RequestFundsAllocation × Nat
  | remaining, [] => ([], remaining)
  | remaining, (source, available) :: rest =>
    let amount := min remaining available
    let (allocations, left) := draw (remaining - amount) rest
    (if amount > 0 then ⟨source, amount⟩ :: allocations else allocations, left)

def eqIgnoreAsciiCase (left right : String) : Bool :=
  left.toList.map Char.toLower = right.toList.map Char.toLower

def allocate (funds : Table StoredRequestFundsReservation) (wallet : StoredWalletSnapshot)
    (authorized : Nat) : Result (List RequestFundsAllocation × Nat) :=
  if eqIgnoreAsciiCase wallet.limitMode "unlimited" then
    .ok (draw authorized [(.postpaid wallet.id, authorized)])
  else if wallet.balance.isNonnegative then do
    let recharge ← requestFundsAvailableUnits wallet.balance
    let gift ← requestFundsAvailableUnits wallet.giftBalance
    return draw authorized
      [(.walletRecharge wallet.id, recharge - heldWalletUnits funds .recharge wallet.id),
        (.walletGift wallet.id, gift - heldWalletUnits funds .gift wallet.id)]
  else .ok ([], authorized)

/-- Another reservation stands in the way: a request is either legacy, with one
reservation, or has attempts, and an attempt reserves once. -/
def clashes (input : ReserveRequestFundsInput) (attemptId : Option String)
    (stored : StoredRequestFundsReservation) : Bool :=
  (stored.quote.identity.requestId = input.identity.requestId ∧
      (stored.attemptId.isNone ∨ attemptId.isNone)) ∨
    (attemptId.isSome ∧ stored.attemptId = attemptId)

def preparedReservation (input : ReserveRequestFundsInput) (attemptId walletId : Option String)
    (allocations : List RequestFundsAllocation) : StoredRequestFundsReservation where
  attemptId := attemptId
  quote := input
  walletId := walletId
  allocations := allocations
  state := .prepared
  actualCostUnits := none
  collectedCostUnits := 0
  reconciliationFacts := none
  settlement := none

namespace SettlementRepository

def storeReservation (repo : SettlementRepository) (input : ReserveRequestFundsInput)
    (attemptId walletId : Option String) (allocations : List RequestFundsAllocation)
    (remaining : Nat) : ReserveRequestFundsOutcome × SettlementRepository :=
  if remaining > 0 then (.insufficient (input.authorizedCostUnits - remaining), repo)
  else
    let reservation := preparedReservation input attemptId walletId allocations
    (.reserved reservation,
      { repo with funds := repo.funds.insert input.identity.reservationToken reservation })

def reserveInner (repo : SettlementRepository) (input : ReserveRequestFundsInput)
    (attemptId : Option String) : Result (ReserveRequestFundsOutcome × SettlementRepository) := do
  input.validate
  match repo.funds.get? input.identity.reservationToken with
  | some stored =>
    if stored.quote = input ∧ stored.attemptId = attemptId then return (.reserved stored, repo)
    else return (.conflict, repo)
  | none =>
    if repo.funds.values.any (clashes input attemptId) then return (.conflict, repo)
    else
      let id := walletIdOf repo.wallets input.identity
      match id.bind repo.wallets.get? with
      | some wallet =>
        if wallet.status ≠ "active" then return (.walletUnavailable, repo)
        else do
          let (allocations, remaining) ←
            allocate repo.funds wallet input.authorizedCostUnits
          return repo.storeReservation input attemptId id allocations remaining
      | none => return repo.storeReservation input attemptId id [] input.authorizedCostUnits

def reserveRequestFunds (input : ReserveRequestFundsInput) : Call ReserveRequestFundsOutcome :=
  atomically fun repo =>
    if repo.usage.any (fun usage => usage.isAttemptFundsRequest input.identity.requestId) then
      invalid "attempt funds request requires v2 admission"
    else repo.reserveInner input none

/-! ## Dispatch and release -/

/-- `funds.get_mut`: change one stored reservation in place. -/
def storeFunds (repo : SettlementRepository) (token : String)
    (reservation : StoredRequestFundsReservation) : SettlementRepository :=
  { repo with funds := repo.funds.insert token reservation }

def markRequestFundsDispatched (identity : RequestFundsIdentity) :
    Call (Option StoredRequestFundsReservation) :=
  atomically fun repo => do
    identity.validate
    match repo.funds.get? identity.reservationToken with
    | none => return (none, repo)
    | some reservation =>
      if reservation.quote.identity ≠ identity ∨ reservation.attemptId.isSome then
        invalid "request funds identity conflict"
      else if reservation.state ≠ .prepared ∧ reservation.state ≠ .dispatched then
        invalid "terminal request funds cannot dispatch"
      else
        let next := { reservation with state := .dispatched }
        return (some next, repo.storeFunds identity.reservationToken next)

def releasable (reservation : StoredRequestFundsReservation) (terminalNoCharge : Bool) : Bool :=
  match reservation.state with
  | .prepared | .released => true
  | .dispatched => terminalNoCharge
  | .settled | .reconciliationPending => false

def releaseRequestFunds (input : ReleaseRequestFundsInput) :
    Call (Option StoredRequestFundsReservation) :=
  atomically fun repo => do
    input.identity.validate
    match repo.funds.get? input.identity.reservationToken with
    | none => return (none, repo)
    | some reservation =>
      if reservation.quote.identity ≠ input.identity ∨ reservation.attemptId.isSome then
        invalid "request funds identity conflict"
      else if ¬ releasable reservation input.terminalNoCharge then
        invalid "request funds require an authoritative no-charge terminal before release"
      else
        let next := { reservation with state := .released, actualCostUnits := some 0 }
        return (some next, repo.storeFunds input.identity.reservationToken next)

end SettlementRepository

/-! ## Settle -/

structure Debits where
  recharge : Nat
  gift : Nat
  wallet : Nat
  remaining : Nat
  deriving DecidableEq, Repr

/-- The loop of `finalize_inner` over the allocations. -/
def debitAllocations : Nat → List RequestFundsAllocation → Result Debits
  | remaining, [] => .ok ⟨0, 0, 0, remaining⟩
  | remaining, allocation :: rest =>
    let amount := min remaining allocation.reservedCostUnits
    match allocation.source with
    | .walletRecharge _ => do
        let debits ← debitAllocations (remaining - amount) rest
        return { debits with
          recharge := amount + debits.recharge, wallet := amount + debits.wallet }
    | .walletGift _ => do
        let debits ← debitAllocations (remaining - amount) rest
        return { debits with gift := amount + debits.gift, wallet := amount + debits.wallet }
    | .postpaid _ => do
        let debits ← debitAllocations (remaining - amount) rest
        return { debits with wallet := amount + debits.wallet }
    | .entitlement _ _ _ => invalid "memory funds do not implement entitlement storage"

def debitBalance (balance : Usd) (amount : Nat) (missing : String) : Result Usd :=
  if amount > 0 then do
    let available ← requestFundsAvailableUnits balance
    if available < amount then invalid missing else return requestFundsUsd (available - amount)
  else .ok balance

def debitWallet (wallet : StoredWalletSnapshot) (debits : Debits) :
    Result StoredWalletSnapshot := do
  let balance ← debitBalance wallet.balance debits.recharge "reserved funds missing"
  let giftBalance ← debitBalance wallet.giftBalance debits.gift "reserved gift missing"
  validateWalletSettlementValues balance giftBalance wallet.totalConsumed
    (requestFundsUsd debits.wallet)
  return { wallet with
    balance := balance
    giftBalance := giftBalance
    totalConsumed := wallet.totalConsumed + requestFundsUsd debits.wallet }

def frozenSettlement (input : FinalizeRequestFundsInput) (walletId : Option String) :
    StoredUsageSettlement where
  requestId := input.identity.requestId
  walletId := walletId
  billingStatus := "settled"
  walletBalanceBefore := none
  walletBalanceAfter := none
  walletRechargeBalanceBefore := none
  walletRechargeBalanceAfter := none
  walletGiftBalanceBefore := none
  walletGiftBalanceAfter := none
  providerMonthlyUsedUsd := none
  finalizedAtUnixSecs := input.usage.finalizedAtUnixSecs

def StoredUsageSettlement.withBalances (settlement : StoredUsageSettlement)
    (before after : StoredWalletSnapshot) : StoredUsageSettlement :=
  { settlement with
    walletBalanceBefore := some (before.balance + before.giftBalance)
    walletBalanceAfter := some (after.balance + after.giftBalance)
    walletRechargeBalanceBefore := some before.balance
    walletRechargeBalanceAfter := some after.balance
    walletGiftBalanceBefore := some before.giftBalance
    walletGiftBalanceAfter := some after.giftBalance }

namespace SettlementRepository

/-- The wallet's part of a settlement. A wallet that is gone can be charged nothing. -/
def chargeWallet (repo : SettlementRepository) (walletId : Option String) (debits : Debits)
    (settlement : StoredUsageSettlement) :
    Result (Table StoredWalletSnapshot × StoredUsageSettlement) :=
  match walletId.bind repo.wallets.get? with
  | some wallet => do
      let next ← debitWallet wallet debits
      return (repo.wallets.insert next.id next, settlement.withBalances wallet next)
  | none =>
    if debits.wallet > 0 then invalid "reserved wallet missing"
    else .ok (repo.wallets, settlement)

def chargeProvider (repo : SettlementRepository) (usage : UsageSettlementInput)
    (settlement : StoredUsageSettlement) : Result (Table Usd × StoredUsageSettlement) :=
  match usage.providerId with
  | some provider =>
    let amount := (repo.providerMonthlyUsed.get? provider).getD .zero + usage.actualTotalCostUsd
    if ¬ amount.isFinite then invalid "provider cost overflow"
    else
      .ok (repo.providerMonthlyUsed.insert provider amount,
        { settlement with providerMonthlyUsedUsd := some amount })
  | none => .ok (repo.providerMonthlyUsed, settlement)

def settledReservation (reservation : StoredRequestFundsReservation) (actual : Nat)
    (facts : Option Json) (settlement : StoredUsageSettlement) : StoredRequestFundsReservation :=
  let collect := min actual reservation.quote.authorizedCostUnits
  { reservation with
    actualCostUnits := some actual
    collectedCostUnits := collect
    reconciliationFacts := facts
    settlement := some settlement
    state := if actual > collect ∨ facts.isSome then .reconciliationPending else .settled }

def settleReservation (repo : SettlementRepository) (input : FinalizeRequestFundsInput)
    (reservation : StoredRequestFundsReservation) (actual : Nat) :
    Result (StoredRequestFundsReservation × SettlementRepository) := do
  let collect := min actual reservation.quote.authorizedCostUnits
  let debits ← debitAllocations collect reservation.allocations
  if debits.remaining > 0 then invalid "incomplete funding allocation"
  else do
    let (wallets, settlement) ← repo.chargeWallet reservation.walletId debits
      (frozenSettlement input reservation.walletId)
    let (providers, settlement) ← repo.chargeProvider input.usage settlement
    let next := settledReservation reservation actual input.reconciliationFacts settlement
    return (next, { repo with
      wallets := wallets
      providerMonthlyUsed := providers
      settlements :=
        if reservation.attemptId.isNone then
          repo.settlements.insert settlement.requestId settlement
        else repo.settlements
      funds := repo.funds.insert input.identity.reservationToken next })

def settleable (reservation : StoredRequestFundsReservation) (attemptId : Option String)
    (status : String) : Bool :=
  (reservation.state = .dispatched ∨
      attemptId.isSome ∧ reservation.state = .reconciliationPending) ∧
    (status = "completed" ∨ status = "cancelled")

def finalizeInner (repo : SettlementRepository) (input : FinalizeRequestFundsInput)
    (attemptId : Option String) :
    Result (Option StoredRequestFundsReservation × SettlementRepository) :=
  match repo.funds.get? input.identity.reservationToken with
  | none => .ok (none, repo)
  | some reservation =>
    if reservation.quote.identity ≠ input.identity ∨ reservation.attemptId ≠ attemptId then
      invalid "request funds identity conflict"
    else do
      let actual ← requestFundsAuthorizedUnits input.usage.actualTotalCostUsd
      if reservation.settlement.isSome then
        if reservation.actualCostUnits ≠ some actual ∨
            reservation.reconciliationFacts ≠ input.reconciliationFacts then
          invalid "conflicting terminal cost or facts"
        else .ok (some reservation, repo)
      else if ¬ settleable reservation attemptId input.usage.status then
        invalid "only dispatched billable usage may settle funds"
      else do
        let (next, repo) ← repo.settleReservation input reservation actual
        return (some next, repo)

def finalizeRequestFunds (input : FinalizeRequestFundsInput) :
    Call (Option StoredRequestFundsReservation) :=
  atomically fun repo => do
    input.validate
    repo.finalizeInner input none

/-! ## Recover -/

def recoveryIdentity (request : String) (usage : UsageSettlementInput) : RequestFundsIdentity where
  reservationToken := ""
  requestId := request
  userId := usage.userId
  apiKeyId := usage.apiKeyId
  apiKeyIsStandalone := usage.apiKeyIsStandalone

/-- A debit of what is not held: the amount was read as available before. -/
def recoverBalance (balance : Usd) (amount : Nat) : Result Usd :=
  if amount > 0 then do
    let available ← requestFundsAvailableUnits balance
    return requestFundsUsd (available - amount)
  else .ok balance

def recoverWallet (wallet : StoredWalletSnapshot) (recharge gift : Nat) :
    Result StoredWalletSnapshot := do
  let balance ← recoverBalance wallet.balance recharge
  let giftBalance ← recoverBalance wallet.giftBalance gift
  validateWalletSettlementValues balance giftBalance wallet.totalConsumed
    (requestFundsUsd (recharge + gift))
  return { wallet with
    balance := balance
    giftBalance := giftBalance
    totalConsumed := wallet.totalConsumed + requestFundsUsd (recharge + gift) }

/-- The frozen settlement after a recovery; only a full recovery settles it and
counts the usage on its provider. -/
def recoverSettlement (repo : SettlementRepository) (usage : UsageSettlementInput)
    (previous : StoredUsageSettlement) (id : String) (before after : StoredWalletSnapshot)
    (due collect : Nat) : Result (Table Usd × StoredUsageSettlement) :=
  let settlement :=
    if collect > 0 then { previous.withBalances before after with walletId := some id }
    else previous
  if due = collect ∧ previous.billingStatus ≠ "settled" then do
    let (providers, settlement) ← repo.chargeProvider usage settlement
    return (providers, { settlement with billingStatus := "settled" })
  else .ok (repo.providerMonthlyUsed, settlement)

def recoverFrom (repo : SettlementRepository) (request : String) (usage : UsageSettlementInput)
    (id : String) (wallet : StoredWalletSnapshot) (actual : Nat) :
    Result (Option RequestFundsRecoveryOutcome × SettlementRepository) :=
  let previous := (repo.recoveredUnits.get? request).getD 0
  if actual < previous then invalid "invalid recovery receipt total"
  else do
    let due := actual - previous
    let recharge ← requestFundsAvailableUnits wallet.balance.maxZero
    let gift ← requestFundsAvailableUnits wallet.giftBalance
    let availableRecharge := recharge - heldWalletUnits repo.funds .recharge id
    let availableGift := gift - heldWalletUnits repo.funds .gift id
    let collect :=
      if wallet.balance.isNegative then 0 else min due (availableRecharge + availableGift)
    let rechargeDebit := min collect availableRecharge
    let giftDebit := collect - rechargeDebit
    let next ← recoverWallet wallet rechargeDebit giftDebit
    match repo.settlements.get? request with
    | none => invalid "recovery has no frozen settlement"
    | some frozen => do
        let (providers, settlement) ←
          repo.recoverSettlement usage frozen id wallet next due collect
        return (some ⟨request, previous + collect, due - collect, settlement⟩, { repo with
          wallets := repo.wallets.insert id next
          providerMonthlyUsed := providers
          recoveredUnits := repo.recoveredUnits.insert request (previous + collect)
          settlements := repo.settlements.insert request settlement })

def recoverInsufficientQuota (request : String) : Call (Option RequestFundsRecoveryOutcome) :=
  atomically fun repo =>
    if repo.usage.any (fun usage => usage.isAttemptFundsRequest request) then
      invalid "attempt funds cannot use legacy recovery"
    else
      match repo.recoverableUsage.get? request with
      | none => .ok (none, repo)
      | some usage => do
          let actual ← requestFundsAuthorizedUnits usage.actualTotalCostUsd
          match walletIdOf repo.wallets (recoveryIdentity request usage) with
          | none => return (none, repo)
          | some id =>
            match repo.wallets.get? id with
            | none => .error (.panic "resolved recovery wallet")
            | some wallet =>
              if wallet.status ≠ "active" then invalid "recovery wallet is unavailable"
              else repo.recoverFrom request usage id wallet actual

end SettlementRepository

end Aeris.Settlement
