import Aeris.Wallet.RefundChanges

/-! An administrator changes the balance of a wallet. A debit takes the positive part of the chosen
bucket and then of the other one, and what is left over becomes a debt of the recharge balance. -/
namespace Aeris.Wallet

open RustStd Settlement

structure AdjustWalletBalanceInput where
  walletId : String
  amountUsd : Int
  balanceType : String
  operatorId : Option String
  description : Option String
  clampDeductionToAvailableBalance : Bool

/-- The row of `wallet_transactions`, with category `adjust` and reason `adjust_admin`. -/
structure AdminAdjustment where
  amount : Int
  balanceBefore : Int
  balanceAfter : Int
  rechargeBalanceBefore : Int
  rechargeBalanceAfter : Int
  giftBalanceBefore : Int
  giftBalanceAfter : Int
  operatorId : Option String
  description : String

namespace AdjustWalletBalanceInput

variable (input : AdjustWalletBalanceInput)

def prefersGift : Bool := eqIgnoreAsciiCase input.balanceType "gift"

def effectiveWalletAdjustmentAmount (beforeTotal : Int) : Int :=
  if input.clampDeductionToAvailableBalance ∧ input.amountUsd < 0 then
    if beforeTotal < 0 then -beforeTotal else -min (-input.amountUsd) beforeTotal
  else input.amountUsd

/-- What is left in the bucket, and what is still to be taken. -/
def consumePositiveBucket (balance : Int) (toConsume : Nat) : Result (Int × Nat) :=
  if toConsume = 0 then .ok (balance, toConsume)
  else do
    let available ← requestFundsAvailableUnits (unitsUsd (max balance 0))
    let consumed := min available toConsume
    return (if 0 < consumed then (available - consumed : Nat) else balance, toConsume - consumed)

/-- The recharge and the gift balance after a debit. The cast to `NUMERIC(20,8)` changes no
whole number of units. -/
def debit (wallet : WalletRow) (debitUsd : Int) : Result (Int × Int) := do
  let toConsume ← requestFundsAvailableUnits (unitsUsd debitUsd)
  if input.prefersGift then do
    let gift ← consumePositiveBucket wallet.giftBalance toConsume
    let recharge ← consumePositiveBucket wallet.balance gift.2
    return (if 0 < recharge.2 then recharge.1 - recharge.2 else recharge.1, gift.1)
  else do
    let recharge ← consumePositiveBucket wallet.balance toConsume
    let gift ← consumePositiveBucket wallet.giftBalance recharge.2
    return (if 0 < gift.2 then recharge.1 - gift.2 else recharge.1, gift.1)

def balancesAfter (wallet : WalletRow) (amountUsd : Int) : Result (Int × Int) :=
  if 0 < amountUsd then
    if input.prefersGift then .ok (wallet.balance, wallet.giftBalance + amountUsd)
    else .ok (wallet.balance + amountUsd, wallet.giftBalance)
  else input.debit wallet (-amountUsd)

/-- One transaction: the wallet and the row about the change, with the rows it leaves. -/
def adjustWalletBalance (db : Database) :
    Result (Option (WalletRow × Option AdminAdjustment) × Database) :=
  if input.amountUsd = 0 then invalid "adjustment amount must be finite and non-zero"
  else
    match db.wallets.get? input.walletId with
    | none => .ok (none, db)
    | some wallet =>
      let beforeTotal := wallet.balance + wallet.giftBalance
      let amountUsd := input.effectiveWalletAdjustmentAmount beforeTotal
      if amountUsd = 0 then .ok (some (wallet, none), db)
      else do
        let after ← input.balancesAfter wallet amountUsd
        db.ensureWalletHoldsPreserved input.walletId after.1 after.2
        let walletAfter := { wallet with balance := after.1, giftBalance := after.2 }
        return (some (walletAfter, some
          { amount := amountUsd
            balanceBefore := beforeTotal
            balanceAfter := after.1 + after.2
            rechargeBalanceBefore := wallet.balance
            rechargeBalanceAfter := after.1
            giftBalanceBefore := wallet.giftBalance
            giftBalanceAfter := after.2
            operatorId := input.operatorId
            description :=
              (input.description.filter fun text => !(trim text).isEmpty).getD "管理员调账" }),
          { db with wallets := db.wallets.insert input.walletId walletAfter })

/-- What the call answers and the rows after it: a call that fails is rolled back. -/
def run (db : Database) : Result (Option (WalletRow × Option AdminAdjustment)) × Database :=
  match input.adjustWalletBalance db with
  | .ok (reply, after) => (.ok reply, after)
  | .error failure => (.error failure, db)

theorem consumePositiveBucket_ok {balance toConsume left}
    (success : consumePositiveBucket balance toConsume = .ok left) :
    left.1 + toConsume = balance + left.2 ∧ left.2 ≤ toConsume ∧ (left.1 = balance ∨ 0 ≤ left.1) ∧
      (left.2 = 0 ∨ left.1 ≤ 0) := by
  unfold consumePositiveBucket at success
  split_ifs at success with nothing
  · cases success
    simp [nothing]
  · obtain ⟨available, read, rest⟩ := bind_ok success
    obtain ⟨same, -⟩ := (requestFundsAvailableUnits_units_iff _ _).mp read
    cases rest
    dsimp only
    split_ifs <;> omega

theorem debtAfter_eq (balance : Int) (remaining : Nat) :
    (if 0 < remaining then balance - remaining else balance) = balance - remaining := by
  split_ifs <;> omega

/-- What a debit of so many units does to the two balances. -/
structure Debited (wallet after : WalletRow) (units : Int) : Prop where
  total : after.balance + after.giftBalance = wallet.balance + wallet.giftBalance - units
  gift : 0 ≤ after.giftBalance
  down : after.balance ≤ wallet.balance ∧ after.giftBalance ≤ wallet.giftBalance
  preferred : if input.prefersGift then after.balance = wallet.balance ∨ after.giftBalance = 0
    else after.giftBalance = wallet.giftBalance ∨ after.balance ≤ 0
  debt : after.balance < min wallet.balance 0 → after.giftBalance = 0

theorem debit_ok {wallet debitUsd after}
    (given : 0 ≤ wallet.giftBalance) (success : input.debit wallet debitUsd = .ok after) :
    input.Debited wallet { wallet with balance := after.1, giftBalance := after.2 } debitUsd := by
  obtain ⟨toConsume, read, rest⟩ := bind_ok success
  obtain ⟨rfl, -⟩ := (requestFundsAvailableUnits_units_iff _ _).mp read
  split_ifs at rest with preferred
  all_goals
    obtain ⟨first, taken, rest⟩ := bind_ok rest
    obtain ⟨second, alsoTaken, rest⟩ := bind_ok rest
    obtain ⟨sum, less, kept, used⟩ := consumePositiveBucket_ok taken
    obtain ⟨sum', less', kept', used'⟩ := consumePositiveBucket_ok alsoTaken
    cases rest
    constructor <;> simp only [debtAfter_eq, preferred, if_true, if_false, Bool.false_eq_true] <;>
      omega

/-- The units that a debit is for, with the clamp if it is asked for. -/
def debitUnits (wallet : WalletRow) : Int :=
  if input.clampDeductionToAvailableBalance then
    min (-input.amountUsd) (wallet.balance + wallet.giftBalance)
  else -input.amountUsd

/-- A debit that is applied takes exactly its units and leaves what is held for requests, and
one that is not changes nothing. -/
def ExactDebit (db : Database) (wallet : WalletRow) : Prop :=
  (∃ after adjustment, input.run db = (.ok (some (after, some adjustment)),
      { db with wallets := db.wallets.insert input.walletId after }) ∧
    input.Debited wallet after (input.debitUnits wallet) ∧
    (db.held input.walletId).recharge ≤ after.balance.toNat ∧
    (db.held input.walletId).gift ≤ after.giftBalance.toNat) ∨
  (∀ after adjustment, (input.run db).1 ≠ .ok (some (after, some adjustment))) ∧
    (input.run db).2 = db

theorem admin_debit_exact (input : AdjustWalletBalanceInput) (db : Database) (wallet : WalletRow)
    (found : db.wallets.get? input.walletId = some wallet) (given : 0 ≤ wallet.giftBalance)
    (isDebit : input.amountUsd < 0) (solvent : input.clampDeductionToAvailableBalance →
      0 ≤ wallet.balance + wallet.giftBalance) : input.ExactDebit db wallet := by
  have units : 0 ≤ input.debitUnits wallet := by
    unfold debitUnits
    split_ifs with clamped
    · have := solvent clamped
      omega
    · omega
  have amount : input.effectiveWalletAdjustmentAmount (wallet.balance + wallet.giftBalance) =
      -input.debitUnits wallet := by
    unfold effectiveWalletAdjustmentAmount debitUnits
    split_ifs <;> simp_all
    omega
  cases result : input.adjustWalletBalance db with
  | error failure => exact .inr (by simp [run, result])
  | ok pair =>
    have ran := result
    simp only [adjustWalletBalance, if_neg isDebit.ne, found, amount] at ran
    split_ifs at ran with nothing
    · cases ran
      exact .inr (by simp [run, result])
    · obtain ⟨balances, taken, ran⟩ := bind_ok ran
      obtain ⟨_, covered, ran⟩ := bind_ok ran
      cases ran
      rw [balancesAfter, if_neg (by omega), neg_neg] at taken
      exact .inl ⟨_, _, by rw [run, result], debit_ok input given taken,
        Database.ensureWalletHoldsPreserved_covers covered⟩

def indebted : WalletRow := ⟨none, -200, 500, 0⟩

def sampleRows : Database :=
  ⟨OrderedTable.empty.insert "w" indebted, .empty, .empty, [], .empty, fun _ => ⟨0, 200⟩⟩

theorem clamped_debit_exact :
    ExactDebit ⟨"w", -1000, "gift", none, none, true⟩ sampleRows indebted :=
  admin_debit_exact _ _ _ rfl (by decide) (by decide) fun _ => by decide

end AdjustWalletBalanceInput

end Aeris.Wallet
