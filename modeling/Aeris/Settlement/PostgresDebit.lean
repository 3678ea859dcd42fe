import Aeris.Settlement.OrdinarySafety

/-! The debit of a finite wallet in the two backends. They split the bill in the same way and
differ in what they see as available: in SQL a wallet in debt has nothing to give, in memory
its gift balance still counts. In both a debt is forgotten when the next bill is overdrawn. -/
namespace Aeris.Settlement

open Checked

namespace Postgres

/-- Negative balances are debts, never capacity. The holds are what SQL sums up. -/
def walletAvailableUnits (held : Bucket → Nat) (recharge gift : Usd) : Result (Nat × Nat) :=
  if ¬ recharge.isFinite ∨ ¬ gift.isFinite ∨ gift.isNegative then
    invalid "wallet financial state is invalid"
  else if recharge.isNegative then .ok (0, 0)
  else do
    let rechargeUnits ← requestFundsAvailableUnits recharge
    let giftUnits ← requestFundsAvailableUnits gift
    return (rechargeUnits - held .recharge, giftUnits - held .gift)

/-- The wallet's part of the bill. Where daily quotas are asked, they cover nothing here. -/
def walletDebitCost (quotaAsked : Bool) (bill : Usd) : Result Usd :=
  if quotaAsked then do
    let units ← requestFundsAuthorizedUnits bill
    let covered ← requestFundsAuthorizedUnits .zero
    return requestFundsUsd (units - covered)
  else .ok bill

def debitWallet (held : Bucket → Nat) (wallet : StoredWalletSnapshot) (cost : Usd) :
    Result (Usd × Usd) :=
  if eqIgnoreAsciiCase wallet.limitMode "unlimited" then .ok (wallet.balance, wallet.giftBalance)
  else do
    let (recharge, gift) ← walletAvailableUnits held wallet.balance wallet.giftBalance
    let required ← requestFundsAuthorizedUnits cost
    let split := splitBill required recharge gift
    let balance ← rechargeAfter wallet.balance split
    let giftBalance ← giftAfter wallet.giftBalance split
    return (balance, giftBalance)

/-- The balances that the transaction writes for the wallet of a billable usage. -/
def settleWallet (held : Bucket → Nat) (wallet : StoredWalletSnapshot) (quotaAsked : Bool)
    (bill : Usd) : Result StoredWalletSnapshot := do
  validateWalletSettlementValues wallet.balance wallet.giftBalance wallet.totalConsumed .zero
  if ¬ eqIgnoreAsciiCase wallet.limitMode "unlimited" then
    discard (walletAvailableUnits held wallet.balance wallet.giftBalance)
  let cost ← walletDebitCost quotaAsked bill
  if cost.isPositive then do
    let (balance, giftBalance) ← debitWallet held wallet cost
    validateWalletSettlementValues balance giftBalance (wallet.totalConsumed + cost) .zero
    return { wallet with
      balance := balance, giftBalance := giftBalance, totalConsumed := wallet.totalConsumed + cost }
  else return wallet

end Postgres

/-! ## Wallets in units -/

/-- A finite wallet with a signed number of recharged units and a number of given ones. -/
structure InUnits (wallet : StoredWalletSnapshot) (recharge : Int) (gift : Nat) : Prop where
  balance : wallet.balance = signedFundsUsd recharge
  given : wallet.giftBalance = requestFundsUsd gift
  consumed : wallet.totalConsumed.IsAmount
  finite : eqIgnoreAsciiCase wallet.limitMode "unlimited" = false

def unitsLeft (recharge : Int) (gift : Nat) (split : BillSplit) : Int × Nat :=
  (if split.recharge = 0 ∧ split.overdraft = 0 then recharge
    else recharge.toNat - split.recharge - split.overdraft, gift - split.gift)

def balancesOf (result : Result StoredWalletSnapshot) : Option (Usd × Usd) :=
  result.toOption.map fun wallet => (wallet.balance, wallet.giftBalance)

def balancesIn (units : Int × Nat) : Usd × Usd := (signedFundsUsd units.1, requestFundsUsd units.2)

theorem balancesIn_injective : Function.Injective balancesIn := by
  rintro ⟨recharge, gift⟩ ⟨other, given⟩ same
  obtain ⟨first, second⟩ := Prod.mk.inj same
  rw [← signedFundsUsd_natCast, ← signedFundsUsd_natCast] at second
  have left := signedFundsUsd_injective first
  have right := signedFundsUsd_injective second
  simp_all

theorem maxZero_signed (units : Int) :
    (signedFundsUsd units).maxZero = requestFundsUsd units.toNat := by
  rcases le_total 0 units with positive | negative
  · obtain ⟨amount, rfl⟩ := Int.eq_ofNat_of_zero_le positive
    rw [signedFundsUsd_natCast, Int.toNat_natCast, requestFundsUsd, Usd.maxZero,
      max_eq_left (by positivity)]
  · have below : (units : ℚ) / requestFundsUnitsPerUsd ≤ 0 :=
      div_nonpos_of_nonpos_of_nonneg (by exact_mod_cast negative) (by positivity)
    rw [signedFundsUsd_eq, Usd.maxZero, max_eq_right below, Int.toNat_of_nonpos negative,
      requestFundsUsd]
    simp

section Units

variable {wallet : StoredWalletSnapshot} {recharge : Int} {gift : Nat} {bill : Usd} {required : Nat}

section

variable (units : InUnits wallet recharge gift)
include units

theorem InUnits.owned : wallet.owned .recharge = recharge.toNat ∧ wallet.owned .gift = gift := by
  constructor
  · rw [StoredWalletSnapshot.owned, units.balance, wholeUnits_signed]
  · rw [StoredWalletSnapshot.owned, units.given, wholeUnits_requestFundsUsd]

theorem InUnits.readable (authorized : requestFundsAuthorizedUnits bill = .ok required)
    (supported : recharge.toNat ≤ maxRequestFundsUnits ∧ gift ≤ maxRequestFundsUnits) :
    Readable wallet bill required := by
  obtain ⟨owned, given⟩ := units.owned
  constructor
  · rw [owned, units.balance, maxZero_signed, requestFundsAvailableUnits_usd supported.1]
  · rw [given, units.given, requestFundsAvailableUnits_usd supported.2]
  · exact authorized

theorem InUnits.left (split : BillSplit) : (rechargeLeft wallet split, giftLeft wallet split) =
      balancesIn (unitsLeft recharge gift split) := by
  obtain ⟨owned, given⟩ := units.owned
  simp only [rechargeLeft, giftLeft, balancesIn, unitsLeft, owned, given, units.balance,
    units.given]
  congr 1
  · split_ifs <;> rfl
  · split_ifs with nothing
    · rw [nothing, Nat.sub_zero]
    · rfl

theorem InUnits.consistent (amount : bill.IsAmount) :
    validateWalletSettlementValues wallet.balance wallet.giftBalance wallet.totalConsumed bill =
      .ok () := by
  rw [validateWalletSettlementValues_ok_iff, units.balance, units.given, signedFundsUsd_eq]
  exact ⟨rfl, isAmount_units gift, units.consumed, amount⟩

end

/-! ## In memory -/

/-- What is free in the two balances, as the memory backend sees it. -/
def memoryAvailable (held : Bucket → Nat) (recharge : Int) (gift : Nat) : Nat × Nat :=
  (recharge.toNat - held .recharge, gift - held .gift)

theorem settleWallet_units (held : Bucket → Nat) (units : InUnits wallet recharge gift)
    (amount : bill.IsAmount) (authorized : requestFundsAuthorizedUnits bill = .ok required)
    (supported : recharge.toNat ≤ maxRequestFundsUnits ∧ gift ≤ maxRequestFundsUnits) :
    balancesOf (settleWallet held wallet "settled" bill) =
      some (balancesIn (unitsLeft recharge gift (splitBill required
        (memoryAvailable held recharge gift).1 (memoryAvailable held recharge gift).2))) := by
  obtain ⟨owned, given⟩ := units.owned
  have charge := chargeOrdinary_eq held (units.readable authorized supported) units.finite
    (units.consistent amount)
  rw [settleWallet, if_pos rfl, if_pos rfl, units.consistent amount]
  simp only [bind, Except.bind, charge, balancesOf, Except.toOption, Option.map_some, charged,
    units.left, billOn, owned, given, memoryAvailable]

variable {balances : Usd × Usd}

theorem balancesOf_ok {result}
    (written : balancesOf result = some balances) : ∃ after, result = .ok after := by
  cases result with
  | error failure => cases written
  | ok after => exact ⟨after, rfl⟩

variable {held : Bucket → Nat}

theorem settleWallet_supported (units : InUnits wallet recharge gift)
    (written : balancesOf (settleWallet held wallet "settled" bill) = some balances) :
    ∃ required, requestFundsAuthorizedUnits bill = .ok required ∧
      recharge.toNat ≤ maxRequestFundsUnits ∧ gift ≤ maxRequestFundsUnits := by
  obtain ⟨after, success⟩ := balancesOf_ok written
  obtain ⟨required, readable⟩ := chargeOrdinary_readable units.finite (check_ok success)
  obtain ⟨owned, given⟩ := units.owned
  refine ⟨required, readable.required, ?_, ?_⟩
  · rw [← owned]
    exact requestFundsUnits_bounded readable.recharge
  · rw [← given]
    exact requestFundsUnits_bounded readable.gift

/-! ## In SQL -/

/-- What is free in the two balances, as the SQL backend sees it. -/
def postgresAvailable (held : Bucket → Nat) (recharge : Int) (gift : Nat) : Nat × Nat :=
  if recharge < 0 then (0, 0) else memoryAvailable held recharge gift

theorem isNegative_signed (units : Int) :
    (signedFundsUsd units).isNegative = decide (units < 0) := by
  have positive : (0 : ℚ) < requestFundsUnitsPerUsd := by norm_num [requestFundsUnitsPerUsd]
  rw [signedFundsUsd_eq, Usd.isNegative, decide_eq_decide, div_lt_iff₀ positive, zero_mul,
    Int.cast_lt_zero]

theorem walletAvailableUnits_eq (held : Bucket → Nat) (units : InUnits wallet recharge gift)
    (supported : recharge < 0 ∨
      recharge.toNat ≤ maxRequestFundsUnits ∧ gift ≤ maxRequestFundsUnits) :
    Postgres.walletAvailableUnits held wallet.balance wallet.giftBalance =
      .ok (postgresAvailable held recharge gift) := by
  obtain ⟨_, nonnegative, amount⟩ := isAmount_units gift
  have valid : ¬ (¬ (signedFundsUsd recharge).isFinite ∨ ¬ (requestFundsUsd gift).isFinite ∨
      (requestFundsUsd gift).isNegative) := by
    rw [signedFundsUsd_eq, amount]
    simp [Usd.isFinite, Usd.isNegative, nonnegative]
  unfold Postgres.walletAvailableUnits postgresAvailable
  rw [units.balance, units.given, if_neg valid, isNegative_signed]
  by_cases negative : recharge < 0
  · simp [negative]
  · obtain ⟨first, second⟩ := supported.resolve_left negative
    obtain ⟨owned, rfl⟩ := Int.eq_ofNat_of_zero_le (not_lt.mp negative)
    rw [signedFundsUsd_natCast, requestFundsAvailableUnits_usd (by simpa using first),
      requestFundsAvailableUnits_usd second]
    simp [negative, memoryAvailable, bind, Except.bind, pure, Except.pure]

theorem isPositive_iff (amount : bill.IsAmount)
    (authorized : requestFundsAuthorizedUnits bill = .ok required) :
    bill.isPositive = decide (0 < required) := by
  obtain ⟨value, nonnegative, rfl⟩ := amount
  have scale : (0 : ℚ) < requestFundsUnitsPerUsd := by norm_num [requestFundsUnitsPerUsd]
  have rounded : required = ⌈value * requestFundsUnitsPerUsd⌉.toNat := by
    simp only [requestFundsAuthorizedUnits, requestFundsUnits, not_lt.mpr nonnegative, if_false,
      if_true] at authorized
    split_ifs at authorized
    · exact (Except.ok.inj authorized).symm
    · cases authorized
  rw [Usd.isPositive, rounded]
  congr 1
  rw [eq_iff_iff, Int.lt_toNat, Nat.cast_zero, Int.ceil_pos, mul_pos_iff_of_pos_right scale]

theorem walletDebitCost_units (quotaAsked : Bool) (amount : bill.IsAmount)
    (authorized : requestFundsAuthorizedUnits bill = .ok required) :
    ∃ cost, Postgres.walletDebitCost quotaAsked bill = .ok cost ∧ cost.IsAmount ∧
      requestFundsAuthorizedUnits cost = .ok required := by
  cases quotaAsked with
  | false => exact ⟨bill, rfl, amount, authorized⟩
  | true =>
    have small := requestFundsUnits_bounded authorized
    have nothing : requestFundsAuthorizedUnits .zero = .ok 0 := by decide +kernel
    refine ⟨requestFundsUsd required, ?_, isAmount_units required, ?_⟩
    · simp [Postgres.walletDebitCost, authorized, nothing, bind, Except.bind, pure, Except.pure]
    · rw [requestFundsAuthorizedUnits, requestFundsUnits_usd, if_pos small]

theorem rechargeAfter_units (units : InUnits wallet recharge gift) (split : BillSplit)
    (supported : recharge.toNat ≤ maxRequestFundsUnits) : rechargeAfter wallet.balance split =
      .ok (signedFundsUsd (unitsLeft recharge gift split).1) := by
  rw [rechargeAfter, units.balance, maxZero_signed, requestFundsAvailableUnits_usd supported]
  simp only [unitsLeft]
  split_ifs <;> rfl

theorem giftAfter_units (units : InUnits wallet recharge gift) {split}
    (supported : split.gift = 0 ∨ gift ≤ maxRequestFundsUnits) :
    giftAfter wallet.giftBalance split =
      .ok (requestFundsUsd (unitsLeft recharge gift split).2) := by
  rw [giftAfter, units.given]
  simp only [unitsLeft]
  split_ifs with nothing
  · rw [nothing, Nat.sub_zero]
  · rw [requestFundsAvailableUnits_usd (supported.resolve_left nothing)]
    rfl

theorem left_valid {cost} (units : InUnits wallet recharge gift) (amount : cost.IsAmount)
    (left : Int × Nat) :
    validateWalletSettlementValues (signedFundsUsd left.1) (requestFundsUsd left.2)
      (wallet.totalConsumed + cost) .zero = .ok () := by
  rw [validateWalletSettlementValues_ok_iff, signedFundsUsd_eq]
  exact ⟨rfl, isAmount_units _, units.consumed.add amount, isAmount_zero⟩

theorem postgres_units (held : Bucket → Nat) (quotaAsked : Bool)
    (units : InUnits wallet recharge gift) (amount : bill.IsAmount)
    (authorized : requestFundsAuthorizedUnits bill = .ok required)
    (supported : recharge < 0 ∨
      recharge.toNat ≤ maxRequestFundsUnits ∧ gift ≤ maxRequestFundsUnits) :
    balancesOf (Postgres.settleWallet held wallet quotaAsked bill) =
      some (balancesIn (unitsLeft recharge gift (splitBill required
        (postgresAvailable held recharge gift).1 (postgresAvailable held recharge gift).2))) := by
  obtain ⟨cost, costs, costAmount, costUnits⟩ := walletDebitCost_units quotaAsked amount authorized
  have positive := isPositive_iff costAmount costUnits
  have available := walletAvailableUnits_eq held units supported
  have small : recharge.toNat ≤ maxRequestFundsUnits := by
    rcases supported with negative | ⟨first, -⟩
    · rw [Int.toNat_of_nonpos negative.le]
      exact Nat.zero_le _
    · exact first
  set split := splitBill required (postgresAvailable held recharge gift).1
    (postgresAvailable held recharge gift).2 with isSplit
  have given : split.gift = 0 ∨ gift ≤ maxRequestFundsUnits := by
    rcases supported with negative | ⟨-, second⟩
    · left
      simp [isSplit, postgresAvailable, negative, splitBill]
    · exact .inr second
  have debit : Postgres.debitWallet held wallet cost =
    .ok (balancesIn (unitsLeft recharge gift split)) := by
    simp only [Postgres.debitWallet, units.finite, Bool.false_eq_true, if_false, available,
      costUnits, bind, Except.bind, ← isSplit, rechargeAfter_units units split small,
      giftAfter_units units given]
    rfl
  by_cases asks : 0 < required
  · simp only [Postgres.settleWallet, units.consistent isAmount_zero, units.finite, available,
      costs,
      positive, asks, debit, discard, bind, Except.bind, balancesIn, left_valid units costAmount,
      Functor.discard, Bool.false_eq_true, not_false_eq_true, if_true, decide_true]
    rfl
  · have none : split = ⟨0, 0, 0⟩ := by
      simp [isSplit, splitBill, Nat.eq_zero_of_not_pos asks]
    have same : balancesIn (unitsLeft recharge gift split) =
      (wallet.balance, wallet.giftBalance) := by
      rw [none, balancesIn, units.balance, units.given]
      rfl
    rw [same]
    simp only [Postgres.settleWallet, units.consistent isAmount_zero, units.finite, available,
      costs, positive, asks, discard, bind, Except.bind, Functor.discard, Bool.false_eq_true,
      not_false_eq_true, if_true, if_false, decide_false]
    rfl

theorem walletAvailableUnits_supported {free} (units : InUnits wallet recharge gift)
    (success : Postgres.walletAvailableUnits held wallet.balance wallet.giftBalance = .ok free) :
    recharge < 0 ∨ recharge.toNat ≤ maxRequestFundsUnits ∧ gift ≤ maxRequestFundsUnits := by
  by_cases negative : recharge < 0
  · exact .inl negative
  · right
    obtain ⟨-, success⟩ := refuse_ok success
    rw [units.balance, units.given, isNegative_signed, decide_eq_false negative, if_neg (by simp)]
      at success
    obtain ⟨first, read, success⟩ := bind_ok success
    obtain ⟨second, readGift, -⟩ := bind_ok success
    have owned := requestFundsAvailableUnits_whole read
    have given := requestFundsAvailableUnits_whole readGift
    rw [wholeUnits_signed] at owned
    rw [wholeUnits_requestFundsUsd] at given
    exact ⟨owned ▸ requestFundsUnits_bounded read, given ▸ requestFundsUnits_bounded readGift⟩

theorem postgres_supported {quotaAsked} (units : InUnits wallet recharge gift)
    (amount : bill.IsAmount)
    (written : balancesOf (Postgres.settleWallet held wallet quotaAsked bill) = some balances) :
    (∃ required, requestFundsAuthorizedUnits bill = .ok required) ∧
      (recharge < 0 ∨ recharge.toNat ≤ maxRequestFundsUnits ∧ gift ≤ maxRequestFundsUnits) := by
  obtain ⟨after, success⟩ := balancesOf_ok written
  have success := check_ok success
  simp only [units.finite, Bool.false_eq_true, not_false_eq_true, if_true] at success
  obtain ⟨_, read, success⟩ := bind_ok success
  obtain ⟨cost, costs, success⟩ := bind_ok success
  constructor
  · cases quotaAsked with
    | true =>
      obtain ⟨required, authorized, -⟩ := bind_ok costs
      exact ⟨required, authorized⟩
    | false =>
      cases costs
      by_cases positive : bill.isPositive
      · rw [if_pos positive] at success
        obtain ⟨_, debit, -⟩ := bind_ok success
        rw [Postgres.debitWallet, units.finite, if_neg (by simp)] at debit
        obtain ⟨_, -, debit⟩ := bind_ok debit
        obtain ⟨required, authorized, -⟩ := bind_ok debit
        exact ⟨required, authorized⟩
      · obtain ⟨value, nonnegative, rfl⟩ := amount
        obtain rfl : value = 0 := le_antisymm (by simpa [Usd.isPositive] using positive) nonnegative
        exact ⟨0, by decide +kernel⟩
  · cases free : Postgres.walletAvailableUnits held wallet.balance wallet.giftBalance with
    | error failure =>
      rw [free] at read
      cases read
    | ok pair => exact walletAvailableUnits_supported units free

end Units

/-! ## The two backends -/

theorem debt_left_iff {recharge} (debt : recharge < 0) (gift free required : Nat)
    (enough : free ≤ gift) : unitsLeft recharge gift (splitBill required 0 free) =
        unitsLeft recharge gift (splitBill required 0 0) ↔ required = 0 ∨ free = 0 := by
  have nothing : recharge.toNat = 0 := Int.toNat_of_nonpos debt.le
  constructor
  · intro same
    have gifts := congrArg Prod.snd same
    simp only [unitsLeft, splitBill] at gifts
    omega
  · rintro (rfl | rfl)
    · simp [splitBill]
    · rfl

/-- A user who owes 1 USD and has 2 USD given. -/
def indebtedWallet : StoredWalletSnapshot where
  id := "wallet"
  userId := some "user"
  apiKeyId := none
  balance := signedFundsUsd (-100000000)
  giftBalance := requestFundsUsd 200000000
  limitMode := "finite"
  status := "active"
  totalConsumed := .zero

theorem unitsLeft_memory_iff (held : Bucket → Nat) (recharge : Int) (gift required : Nat) :
    let left := unitsLeft recharge gift (splitBill required (memoryAvailable held recharge gift).1
      (memoryAvailable held recharge gift).2)
    (left.1 + left.2 = recharge + gift - required ↔
      0 ≤ recharge ∨ required ≤ gift - held .gift) := by
  simp only [unitsLeft, memoryAvailable, splitBill]
  split_ifs <;> omega

namespace SettlementRepository

theorem settled_charges {repo next input settlement id wallet}
    (keyed : ∀ id wallet, repo.wallets.get? id = some wallet → wallet.id = id)
    (settled : settleUsageObserved input repo = (.ok ⟨some settlement, true⟩, next))
    (paid : settlement.billingStatus = "settled") (against : settlement.walletId = some id)
    (stored : repo.wallets.get? id = some wallet)
    (finite : eqIgnoreAsciiCase wallet.limitMode "unlimited" = false) :
    ∃ required, Charges repo input id wallet required := by
  rcases settleUsageObserved_cases repo input with
    ⟨provider, wallets, record, settles⟩ | ⟨-, unsettled⟩
  · have outcome := settles.run.symm.trans settled
    obtain ⟨written, -⟩ := Prod.mk.inj outcome
    have same : { record with providerMonthlyUsedUsd := _ } = settlement :=
      Option.some.inj (congrArg UsageSettlementWriteOutcome.settlement (Except.ok.inj written))
    subst same
    cases settleOnWallet_cases settles.onWallet with
    | without none _ => rw [none] at against; cases against
    | void _ _ _ unpaid _ => exact absurd paid unpaid
    | billed chosen other after found otherStored named billable consistent charge _ =>
      obtain rfl : other.id = id := Option.some.inj (named.symm.trans against)
      obtain rfl := keyed chosen other otherStored
      obtain rfl : other = wallet := Option.some.inj (otherStored.symm.trans stored)
      exact OnWallet.charges settles found stored billable consistent finite charge
  · have new := unsettled _ (congrArg Prod.fst settled)
    cases new

/-- A settlement charges a finite wallet exactly its bill if and only if the wallet is not in
debt or the free part of the gift balance pays. In SQL the gift balance of a wallet in debt is
not used, so only a bill of nothing is charged exactly there. -/
theorem settlement_charges_bill_iff (repo next : SettlementRepository)
    (input : UsageSettlementInput) (settlement : StoredUsageSettlement) (id : String)
    (wallet : StoredWalletSnapshot) (recharge : Int) (gift : Nat)
    (keyed : ∀ id wallet, repo.wallets.get? id = some wallet → wallet.id = id)
    (settled : settleUsageObserved input repo = (.ok ⟨some settlement, true⟩, next))
    (paid : settlement.billingStatus = "settled") (against : settlement.walletId = some id)
    (stored : repo.wallets.get? id = some wallet)
    (finite : eqIgnoreAsciiCase wallet.limitMode "unlimited" = false)
    (balance : wallet.balance = signedFundsUsd recharge)
    (given : wallet.giftBalance = requestFundsUsd gift) :
    ∃ required, requestFundsAuthorizedUnits (settlementBillableCostUsd input) = .ok required ∧
      (∃ after left, next.wallets.get? id = some after ∧
        (after.balance, after.giftBalance) = balancesIn left ∧
        (left.1 + left.2 = recharge + gift - required ↔
          0 ≤ recharge ∨ required ≤ gift - heldWalletUnits repo.funds .gift id)) ∧
      (∀ held quotaAsked balances, balancesOf (Postgres.settleWallet held wallet quotaAsked
          (settlementBillableCostUsd input)) = some balances → ∃ left, balances = balancesIn left ∧
          (left.1 + left.2 = recharge + gift - required ↔ 0 ≤ recharge ∨ required = 0)) := by
  obtain ⟨required, charges⟩ := settled_charges keyed settled paid against stored finite
  obtain ⟨-, -, consumed, amount⟩ := validateWalletSettlementValues_ok_iff.mp charges.consistent
  have units : InUnits wallet recharge gift := ⟨balance, given, consumed, finite⟩
  obtain ⟨owned, isGift⟩ := units.owned
  obtain rfl := keyed id wallet stored
  refine ⟨required, charges.readable.required, ?_, ?_⟩
  · have wallets : next.wallets = repo.wallets.insert wallet.id
        (repo.chargedWallet input wallet required) := by
      rw [← charges.run.2, settled]
    refine ⟨_, _, by rw [wallets, OrderedTable.get?_insert_self], units.left _, ?_⟩
    simp only [billOn, owned, isGift]
    exact unitsLeft_memory_iff (repo.holdsOf wallet.id) recharge gift required
  · intro held quotaAsked balances written
    have supported := (postgres_supported units amount written).2
    rw [postgres_units held quotaAsked units amount charges.readable.required supported] at written
    refine ⟨_, (Option.some.inj written).symm, ?_⟩
    simp only [unitsLeft, postgresAvailable, memoryAvailable, splitBill]
    split_ifs <;> simp only [] <;> omega

/-- The record of half a dollar charged to the sample wallet. -/
def halfDollarSettlement : StoredUsageSettlement where
  requestId := "other"
  walletId := some "wallet"
  billingStatus := "settled"
  walletBalanceBefore := some (.finite 6)
  walletBalanceAfter := some (.finite (11 / 2))
  walletRechargeBalanceBefore := some (.finite 5)
  walletRechargeBalanceAfter := some (.finite (9 / 2))
  walletGiftBalanceBefore := some (.finite 1)
  walletGiftBalanceAfter := some (.finite 1)
  providerMonthlyUsedUsd := none
  finalizedAtUnixSecs := some 30

theorem half_dollar_charged :
    ∃ after left, (settleUsageObserved (unreservedUsage (1 / 2)) sampleRepository).2.wallets.get?
        "wallet" = some after ∧ (after.balance, after.giftBalance) = balancesIn left ∧
      left.1 + left.2 = 500000000 + 100000000 - 50000000 := by
  obtain ⟨required, authorized, ⟨after, left, stored, balances, exactly⟩, -⟩ :=
    settlement_charges_bill_iff sampleRepository
      (settleUsageObserved (unreservedUsage (1 / 2)) sampleRepository).2 (unreservedUsage (1 / 2))
      halfDollarSettlement "wallet" sampleWallet 500000000 100000000 sample_keyed
      (by decide +kernel) rfl rfl (by decide +kernel) (by decide) (by decide +kernel)
      (by decide +kernel)
  obtain rfl : required = 50000000 := Except.ok.inj (authorized.symm.trans (by decide +kernel))
  exact ⟨after, left, stored, balances, exactly.mpr (.inl (by decide))⟩

def indebtedRepository : SettlementRepository :=
  { sampleRepository with
    wallets := OrderedTable.empty.insert "wallet"
      { indebtedWallet with giftBalance := requestFundsUsd 0 } }

/-- A wallet that owes 1 USD owes half a dollar after a bill of half a dollar, in memory and
in SQL. -/
theorem old_debt_forgotten :
    ((settleUsageObserved (unreservedUsage (1 / 2)) indebtedRepository).1.toOption.bind
        fun outcome => outcome.settlement.map fun settlement =>
          (settlement.billingStatus, settlement.walletId)) = some ("settled", some "wallet") ∧
      ((settleUsageObserved (unreservedUsage (1 / 2)) indebtedRepository).2.wallets.get?
        "wallet").map (fun wallet => (wallet.balance, wallet.giftBalance)) =
          some (balancesIn (-50000000, 0)) ∧
      balancesOf (Postgres.settleWallet (fun _ => 0)
        { indebtedWallet with giftBalance := requestFundsUsd 0 } false (.finite (1 / 2))) =
          some (balancesIn (-50000000, 0)) := by
  decide +kernel

end SettlementRepository

end Aeris.Settlement
