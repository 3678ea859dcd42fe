import Aeris.Wallet.Refunds

/-! What a refund call can do to the rows: nothing, open a request, mark one, or move its
money out of the wallet or back. -/
namespace Aeris.Wallet

open RustStd Checked Settlement Except

theorem requestFundsAvailableUnits_units_iff (amount : Int) (units : Nat) :
    requestFundsAvailableUnits (unitsUsd amount) = .ok units ↔
      amount = units ∧ units ≤ maxRequestFundsUnits := by
  rcases lt_or_ge amount 0 with negative | nonnegative
  · have below : (amount : ℚ) / requestFundsUnitsPerUsd < 0 :=
      div_neg_of_neg_of_pos (by exact_mod_cast negative) (by norm_num [requestFundsUnitsPerUsd])
    have refused : requestFundsAvailableUnits (unitsUsd amount) =
        invalid "request funds amount is not a finite supported nonnegative amount" := by
      simp [requestFundsAvailableUnits, requestFundsUnits, unitsUsd, below]
    constructor
    · intro read
      rw [refused] at read
      cases read
    · rintro ⟨rfl, -⟩
      omega
  · lift amount to Nat using nonnegative
    have same : unitsUsd (amount : Int) = requestFundsUsd amount := by
      simp [unitsUsd, requestFundsUsd]
    rw [same, requestFundsAvailableUnits, requestFundsUnits_usd]
    constructor
    · intro read
      split_ifs at read with supported
      · cases read
        exact ⟨rfl, supported⟩
      · cases read
    · rintro ⟨equal, supported⟩
      obtain rfl : amount = units := by omega
      rw [if_pos supported]

namespace StoredAdminWalletRefund

def IsOpen (refund : StoredAdminWalletRefund) : Prop :=
  refund.status = .pendingApproval ∨ refund.status = .approved

def isPaidOut (refund : StoredAdminWalletRefund) : Bool :=
  refund.status = .processing || refund.status = .succeeded

def SameAccount (before after : StoredAdminWalletRefund) : Prop :=
  after.walletId = before.walletId ∧ after.paymentOrderId = before.paymentOrderId ∧
    after.amountUsd = before.amountUsd

end StoredAdminWalletRefund

namespace Database

open StoredAdminWalletRefund

/-! ## What a call can do -/

/-- So much more is refunded of an order, and so much less refundable. -/
def refundMore (delta : Int) (order : PaymentOrderRow) : PaymentOrderRow :=
  { order with
    refundedAmountUsd := order.refundedAmountUsd + delta
    refundableAmountUsd := order.refundableAmountUsd - delta }

def takeOut (delta : Int) (wallet : WalletRow) : WalletRow :=
  { wallet with
    balance := wallet.balance - delta, totalRefunded := wallet.totalRefunded + delta }

def OrderMoves (before after : Table PaymentOrderRow) (walletId : String) (delta : Int) :
    Option String → Prop
  | none => after = before
  | some orderId => ∃ order, before.get? orderId = some order ∧ order.walletId = walletId ∧
      order.status = .credited ∧ 0 < order.amountUsd ∧
      order.amountUsd ≤ order.refundedAmountUsd + order.refundableAmountUsd + refundAmountEpsilonUsd ∧
      0 ≤ order.refundableAmountUsd - delta ∧
      after = before.insert orderId (refundMore delta order)

/-- The money of a refund leaves the wallet, or comes back. -/
inductive Way (before after : StoredAdminWalletRefund) : ReasonCode → Int → Prop where
  | out (waits : before.IsOpen) (next : after.status = .processing) :
      Way before after .refundOut before.amountUsd
  | back (paid : before.status = .processing) (next : after.status = .failed) :
      Way before after .refundRevert (-before.amountUsd)

/-- A refund is paid out, or given up before that. -/
def Settles (before after : StoredAdminWalletRefund) : Prop :=
  (before.status = .processing ∧ after.isPaidOut) ∨ (before.IsOpen ∧ after.status = .failed)

/-- A wallet row, an order and a refund move together, and the booking says so. -/
structure MoneyMoves (before : Database) (id : String) (refund later : StoredAdminWalletRefund)
    (wallet : WalletRow) (row : StoredAdminWalletTransaction) (delta : Int)
    (orders : Table PaymentOrderRow) : Prop where
  found : before.refunds.get? id = some refund
  same : SameAccount refund later
  way : Way refund later row.reasonCode delta
  owner : before.wallets.get? refund.walletId = some wallet
  linked : row.linkId = id
  booked : row.walletId = refund.walletId
  amount : row.amount = -delta
  preserved : (before.held refund.walletId).recharge ≤ (wallet.balance - delta).toNat ∨
    wallet.balance ≤ wallet.balance - delta
  order : OrderMoves before.orders orders refund.walletId delta refund.paymentOrderId

inductive Change (before after : Database) : Prop where
  | idle (same : after = before)
  | opened (id : String) (refund : StoredAdminWalletRefund) (wallet : WalletRow)
      (result : after = { before with refunds := before.refunds.insert id refund })
      (fresh : before.refunds.get? id = none) (status : refund.status = .pendingApproval)
      (positive : 0 < refund.amountUsd) (owner : before.wallets.get? refund.walletId = some wallet)
  | marked (id : String) (refund later : StoredAdminWalletRefund)
      (notifications : Table RefundStatusNotification)
      (result : after = { before with
        refunds := before.refunds.insert id later, notifications := notifications })
      (found : before.refunds.get? id = some refund) (same : SameAccount refund later)
      (turn : Settles refund later)
  | moved (id : String) (refund later : StoredAdminWalletRefund) (wallet : WalletRow)
      (row : StoredAdminWalletTransaction) (delta : Int) (orders : Table PaymentOrderRow)
      (notifications : Table RefundStatusNotification)
      (result : after = { before with
        wallets := before.wallets.insert refund.walletId (takeOut delta wallet)
        orders := orders
        refunds := before.refunds.insert id later
        transactions := before.transactions ++ [row]
        notifications := notifications })
      (movement : MoneyMoves before id refund later wallet row delta orders)

variable {db before after : Database}

variable {refund : StoredAdminWalletRefund}

theorem findRefund_eq_some {refundId walletId} : db.findRefund refundId walletId = some refund ↔
      db.refunds.get? refundId = some refund ∧ refund.walletId = walletId := by
  simp [findRefund, Option.filter_eq_some_iff]

theorem paymentOrderRefundAmountsAreConsistent_iff (amount refunded refundable : Int) :
    paymentOrderRefundAmountsAreConsistent amount refunded refundable ↔
      0 < amount ∧ 0 ≤ refunded ∧ refunded ≤ amount + refundAmountEpsilonUsd ∧ 0 ≤ refundable ∧
        refundable ≤ amount + refundAmountEpsilonUsd ∧
        |refunded + refundable - amount| ≤ refundAmountEpsilonUsd := by
  simp [paymentOrderRefundAmountsAreConsistent, and_assoc]

variable {walletId orderId : String}

theorem refundableOrder_ok_iff {order} : db.refundableOrder walletId orderId = .ok order ↔
      db.orders.get? orderId = some order ∧ order.walletId = walletId ∧ order.status = .credited ∧
        paymentOrderRefundAmountsAreConsistent order.amountUsd order.refundedAmountUsd
          order.refundableAmountUsd := by
  simp only [refundableOrder, bind_ok_iff, expect_ok_iff, require_ok_iff, pure, Except.pure,
    ok.injEq]
  constructor
  · rintro ⟨order, found, _, ⟨wallet, credited⟩, _, consistent, rfl⟩
    exact ⟨found, wallet, credited, consistent⟩
  · rintro ⟨found, wallet, credited, consistent⟩
    exact ⟨order, found, (), ⟨wallet, credited⟩, (), consistent, rfl⟩

variable {orders : Table PaymentOrderRow}

theorem debitOrder_moves {amount} (result : db.debitOrder walletId amount orderId = .ok orders) :
    OrderMoves db.orders orders walletId amount (some orderId) := by
  simp only [debitOrder, bind_ok_iff, require_ok_iff, refundableOrder_ok_iff, pure, Except.pure,
    ok.injEq, paymentOrderRefundAmountsAreConsistent_iff, abs_le] at result
  obtain ⟨order, ⟨found, wallet, credited, consistent⟩, _, room, rfl⟩ := result
  exact ⟨order, found, wallet, credited, consistent.1, by omega, by omega, rfl⟩

theorem creditOrder_moves {amount} (result : db.creditOrder walletId amount orderId = .ok orders) :
    OrderMoves db.orders orders walletId (-amount) (some orderId) := by
  simp only [creditOrder, bind_ok_iff, require_ok_iff, refundableOrder_ok_iff, pure, Except.pure,
    ok.injEq, paymentOrderRefundAmountsAreConsistent_iff, abs_le] at result
  obtain ⟨order, ⟨found, wallet, credited, consistent⟩, _, room, rfl⟩ := result
  refine ⟨order, found, wallet, credited, consistent.1, by omega, by omega, ?_⟩
  simp [refundMore, sub_eq_add_neg]

theorem followOrder_moves {walletId delta write}
    (moves : ∀ orderId orders, write orderId = .ok orders →
      OrderMoves db.orders orders walletId delta (some orderId))
    (result : db.followOrder refund write = .ok orders) :
    OrderMoves db.orders orders walletId delta refund.paymentOrderId := by
  unfold followOrder at result
  split at result
  case h_1 without => exact without ▸ (ok.inj result).symm
  case h_2 orderId which => exact which ▸ moves orderId orders result

theorem ensureWalletHoldsPreserved_covers {walletId recharge gift}
    (result : db.ensureWalletHoldsPreserved walletId recharge gift = .ok ()) :
    (db.held walletId).recharge ≤ recharge.toNat ∧ (db.held walletId).gift ≤ gift.toNat := by
  obtain ⟨units, read, rest⟩ := Settlement.bind_ok result
  obtain ⟨covered, rest⟩ := refuse_ok rest
  obtain ⟨given, readGift, rest⟩ := Settlement.bind_ok rest
  obtain ⟨coveredGift, -⟩ := refuse_ok rest
  obtain ⟨same, -⟩ := (requestFundsAvailableUnits_units_iff _ _).mp read
  obtain ⟨sameGift, -⟩ := (requestFundsAvailableUnits_units_iff _ _).mp readGift
  constructor <;> omega

theorem create_change {input newId}
    {reply} (result : createWalletRefundRequest input newId db = .ok (reply, after)) :
    Change db after := by
  simp only [createWalletRefundRequest, bind_ok_iff, expect_ok_iff, require_ok_iff,
    Option.filter_eq_some_iff] at result
  obtain ⟨_, positive, wallet, ⟨owner, -⟩, _, -, _, -, _, -, canonical, -, inserted⟩ := result
  unfold insertRefund at inserted
  split_ifs at inserted with known
  · simp only [bind_ok_iff, pure, Except.pure, ok.injEq, Prod.mk.injEq] at inserted
    obtain ⟨_, -, -, same⟩ := inserted
    exact .idle same.symm
  · simp only [bind_ok_iff, require_ok_iff, pure, Except.pure, ok.injEq, Prod.mk.injEq] at inserted
    obtain ⟨_, ⟨fresh, -⟩, -, same⟩ := inserted
    exact .opened newId _ wallet same.symm fresh rfl positive owner

theorem process_change {input reply}
    (result : processAdminWalletRefund input db = .ok (reply, after)) : Change db after := by
  simp only [processAdminWalletRefund, bind_ok_iff, expect_ok_iff, require_ok_iff,
    mapError_ok_iff, findRefund_eq_some, requestFundsAvailableUnits_units_iff, pure, Except.pure,
    ok.injEq, Prod.mk.injEq] at result
  obtain ⟨refund, ⟨found, sameWallet⟩, _, positive, _, waits, wallet, owner, _, sane, units,
    ⟨balance, -⟩, amount, ⟨exact, -⟩, _, room, _, covered, orders, order, -, same⟩ := result
  have left : ((units - amount : Nat) : Int) = wallet.balance - refund.amountUsd := by omega
  rw [left] at covered same
  rw [← sameWallet] at covered owner order same
  have moves := followOrder_moves (fun _ _ => debitOrder_moves) order
  exact .moved input.refundId refund _ wallet _ refund.amountUsd orders db.notifications same.symm
    ⟨found, ⟨rfl, rfl, rfl⟩, .out waits.symm rfl, owner, rfl, rfl, rfl,
      .inl (ensureWalletHoldsPreserved_covers covered).1, moves⟩

theorem updateGateway_change {input reply}
    (result : updateAdminWalletRefundGateway input db = .ok (reply, after)) : Change db after := by
  simp only [updateAdminWalletRefundGateway, bind_ok_iff, expect_ok_iff, require_ok_iff,
    findRefund_eq_some] at result
  obtain ⟨_, -, _, -, refund, ⟨found, -⟩, _, -, _, -, rest⟩ := result
  split_ifs at rest with done
  · exact .idle (Prod.mk.inj (ok.inj rest)).2.symm
  · simp only [bind_ok_iff, require_ok_iff, pure, Except.pure, ok.injEq, Prod.mk.injEq] at rest
    obtain ⟨_, processing, -, same⟩ := rest
    exact .marked input.refundId refund _ db.notifications same.symm found ⟨rfl, rfl, rfl⟩
      (.inl ⟨processing, by simp [isPaidOut, processing]⟩)

theorem complete_change {input reply}
    (result : completeAdminWalletRefund input db = .ok (reply, after)) : Change db after := by
  simp only [completeAdminWalletRefund, bind_ok_iff, expect_ok_iff, require_ok_iff,
    findRefund_eq_some] at result
  obtain ⟨refund, ⟨found, -⟩, _, -, _, -, rest⟩ := result
  split_ifs at rest with done
  · exact .idle (Prod.mk.inj (ok.inj rest)).2.symm
  · simp only [bind_ok_iff, require_ok_iff, pure, Except.pure, ok.injEq, Prod.mk.injEq] at rest
    obtain ⟨_, processing, -, same⟩ := rest
    exact .marked input.refundId refund _ _ same.symm found ⟨rfl, rfl, rfl⟩
      (.inl ⟨processing, by simp [isPaidOut]⟩)

variable {input : FailAdminWalletRefundInput} {reply : FailReply}

theorem failRequest_change (found : db.refunds.get? input.refundId = some refund)
    (waits : refund.IsOpen) (result : failRequest input refund db = .ok (reply, after)) :
    Change db after := by
  simp only [failRequest, bind_ok_iff, pure, Except.pure, ok.injEq, Prod.mk.injEq] at result
  obtain ⟨_, -, -, same⟩ := result
  exact .marked input.refundId refund _ _ same.symm found ⟨rfl, rfl, rfl⟩ (.inr ⟨waits, rfl⟩)

theorem failProcessing_change (found : db.refunds.get? input.refundId = some refund)
    (sameWallet : refund.walletId = input.walletId) (positive : 0 < refund.amountUsd)
    (processing : refund.status = .processing)
    (result : failProcessing input refund db = .ok (reply, after)) : Change db after := by
  simp only [failProcessing, bind_ok_iff, expect_ok_iff, require_ok_iff, pure, Except.pure,
    ok.injEq, Prod.mk.injEq] at result
  obtain ⟨_, -, wallet, owner, _, sane, orders, order, -, same⟩ := result
  rw [← sameWallet] at owner order same
  have moves := followOrder_moves (fun _ _ => creditOrder_moves) order
  rw [← sub_neg_eq_add, sub_eq_add_neg wallet.totalRefunded] at same
  exact .moved input.refundId refund _ wallet _ (-refund.amountUsd) orders _ same.symm
    ⟨found, ⟨rfl, rfl, rfl⟩, .back processing rfl, owner, rfl, rfl, (neg_neg _).symm,
      .inr (by omega), moves⟩

theorem fail_change
    (result : failAdminWalletRefund input db = .ok (reply, after)) : Change db after := by
  simp only [failAdminWalletRefund, bind_ok_iff, expect_ok_iff, require_ok_iff,
    findRefund_eq_some] at result
  obtain ⟨refund, ⟨found, sameWallet⟩, _, positive, rest⟩ := result
  split at rest
  case h_1 waits => exact failRequest_change found (.inl waits) rest
  case h_2 waits => exact failRequest_change found (.inr waits) rest
  case h_3 processing => exact failProcessing_change found sameWallet positive processing rest
  case h_4 => cases rest

theorem commit_change {Stop Reply} {result : Except Stop (Reply × Database)}
    (change : ∀ reply after, result = .ok (reply, after) → Change db after) :
    Change db (db.commit result) := by
  cases result with
  | error stop => exact .idle rfl
  | ok value => exact change value.1 value.2 rfl

theorem call_change (db : Database) (call : RefundCall) : Change db (db.call call) := by
  cases call with
  | create input newId => exact commit_change fun _ _ => create_change
  | process input => exact commit_change fun _ _ => process_change
  | updateGateway input => exact commit_change fun _ _ => updateGateway_change
  | complete input => exact commit_change fun _ _ => complete_change
  | fail input => exact commit_change fun _ _ => fail_change

end Database

end Aeris.Wallet
