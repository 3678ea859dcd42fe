import Aeris.Base.Checked
import Aeris.Settlement.Funding

/-! The refunds of a wallet: a request is created, processed (the money leaves the
wallet), and then completed or failed (the money comes back). Every call is one
transaction over the rows of wallets, payment orders and refund requests. Amounts are
whole units of 1e-8 USD. -/
namespace Aeris.Wallet

open RustStd Checked Settlement

def unitsUsd (amount : Int) : Usd := .finite (amount / requestFundsUnitsPerUsd)

inductive RefundStatus where
  | pendingApproval
  | approved
  | processing
  | succeeded
  | failed
  deriving DecidableEq, Repr

def RefundStatus.text : RefundStatus → String
  | .pendingApproval => "pending_approval"
  | .approved => "approved"
  | .processing => "processing"
  | .succeeded => "succeeded"
  | .failed => "failed"

inductive PaymentOrderStatus where
  | pending
  | credited
  | failed
  | expired
  deriving DecidableEq, Repr

/-- A row of `refund_requests`; its id is the key of the row. -/
structure StoredAdminWalletRefund where
  refundNo : String
  walletId : String
  userId : Option String
  paymentOrderId : Option String
  sourceType : String
  sourceId : Option String
  refundMode : String
  amountUsd : Int
  status : RefundStatus
  reason : Option String
  failureReason : Option String
  gatewayRefundId : Option String
  payoutReference : Option String
  payoutProof : Option Json
  requestedBy : Option String
  approvedBy : Option String
  processedBy : Option String
  idempotencyKey : Option String
  deriving DecidableEq

structure WalletRow where
  userId : Option String
  balance : Int
  giftBalance : Int
  totalRefunded : Int
  deriving DecidableEq, Repr

structure PaymentOrderRow where
  walletId : String
  status : PaymentOrderStatus
  paymentMethod : String
  amountUsd : Int
  refundedAmountUsd : Int
  refundableAmountUsd : Int
  deriving DecidableEq, Repr

inductive ReasonCode where
  | refundOut
  | refundRevert
  deriving DecidableEq, Repr

/-- A row of `wallet_transactions` that a refund wrote: its category is `refund` and it
is linked to a `refund_request`. -/
structure StoredAdminWalletTransaction where
  walletId : String
  reasonCode : ReasonCode
  amount : Int
  balanceBefore : Int
  balanceAfter : Int
  rechargeBalanceBefore : Int
  rechargeBalanceAfter : Int
  giftBalanceBefore : Int
  giftBalanceAfter : Int
  linkId : String
  operatorId : Option String
  description : String
  deriving DecidableEq, Repr

structure RefundStatusNotification where
  walletId : String
  userId : Option String
  refundNo : String
  amountUsd : Int
  terminalStatus : RefundStatus
  failureReason : Option String
  deriving DecidableEq, Repr

/-- What `held_source_units` sums up for a wallet: the funds held for requests. -/
structure HeldUnits where
  recharge : Nat
  gift : Nat
  deriving DecidableEq, Repr

structure Database where
  wallets : Table WalletRow
  orders : Table PaymentOrderRow
  refunds : Table StoredAdminWalletRefund
  transactions : List StoredAdminWalletTransaction
  notifications : Table RefundStatusNotification
  held : String → HeldUnits

/-- How a call ends without a change: the outcomes `NotFound` and `Invalid`, an error, or a
row that breaks a unique key. -/
inductive Refusal where
  | notFound
  | invalid (message : String)
  | error (failure : Failure)
  | uniqueViolation
  deriving DecidableEq, Repr

/-! ## Rules shared by the calls -/

def refundAmountEpsilonUsd : Int := 100

def paymentOrderRefundAmountsAreConsistent
    (amountUsd refundedAmountUsd refundableAmountUsd : Int) : Bool :=
  amountUsd > 0 && refundedAmountUsd ≥ 0 &&
    refundedAmountUsd ≤ amountUsd + refundAmountEpsilonUsd && refundableAmountUsd ≥ 0 &&
    refundableAmountUsd ≤ amountUsd + refundAmountEpsilonUsd &&
    |refundedAmountUsd + refundableAmountUsd - amountUsd| ≤ refundAmountEpsilonUsd

def statusIsSuccess (status : Option Json) : Bool :=
  match status with
  | some (.string text) =>
    eqIgnoreAsciiCase (trim text) "success" || eqIgnoreAsciiCase (trim text) "succeeded"
  | _ => false

def walletRefundProofIsSuccess (proof : Json) : Bool :=
  match proof.get? "gateway_refund" with
  | some gatewayRefund => statusIsSuccess (gatewayRefund.get? "status")
  | none => statusIsSuccess (proof.get? "status")

/-- The proof that a row keeps: the first one, or a later one that reports a success. -/
def keptProof (current incoming : Option Json) : Option Json :=
  (incoming.filter (fun proof => current.isNone || walletRefundProofIsSuccess proof)).or current

structure CanonicalWalletRefundFields where
  sourceType : String
  sourceId : Option String
  refundMode : String
  deriving DecidableEq, Repr

def defaultRefundModeForPaymentMethod (paymentMethod : String) : String :=
  if ["admin_manual", "card_recharge", "card_code", "gift_code"].any
      (eqIgnoreAsciiCase (trim paymentMethod)) then "offline_payout"
  else "original_channel"

def normalize (value : Option String) : Option String :=
  (value.map trim).filter (fun text => !text.isEmpty)

def canonicalizeWalletRefundFields
    (paymentOrderId sourceType sourceId refundMode paymentMethod : Option String) :
    Except String CanonicalWalletRefundFields :=
  match normalize paymentOrderId with
  | some orderId => do
      let method ← expect (normalize paymentMethod) "payment method is required for an order refund"
      let expectedMode := defaultRefundModeForPaymentMethod method
      require ((normalize sourceType).all (eqIgnoreAsciiCase · "payment_order"))
        "source_type does not match payment_order"
      require ((normalize sourceId).all (· = orderId)) "source_id does not match payment_order_id"
      require ((normalize refundMode).all (eqIgnoreAsciiCase · expectedMode))
        "refund_mode does not match the payment method"
      return ⟨"payment_order", some orderId, expectedMode⟩
  | none => do
      require (normalize paymentMethod).isNone "payment method is only valid for an order refund"
      require ((normalize sourceType).all (eqIgnoreAsciiCase · "wallet_balance"))
        "source_type must be wallet_balance without an order"
      require (normalize sourceId).isNone "source_id is not valid without a payment order"
      require ((normalize refundMode).all (eqIgnoreAsciiCase · "offline_payout"))
        "refund_mode must be offline_payout without an order"
      return ⟨"wallet_balance", none, "offline_payout"⟩

/-- What the payment side leaves in an order that no refund has touched. -/
def PaymentOrderRow.Sane (order : PaymentOrderRow) : Prop :=
  0 ≤ order.refundedAmountUsd ∧ 0 ≤ order.refundableAmountUsd ∧
    order.refundedAmountUsd + order.refundableAmountUsd ≤ order.amountUsd

namespace Database

/-- `SELECT … WHERE id = $1 AND wallet_id = $2`. -/
def findRefund (db : Database) (refundId walletId : String) : Option StoredAdminWalletRefund :=
  (db.refunds.get? refundId).filter (fun refund => refund.walletId = walletId)

/-- The funds that stay in the wallet must cover what is held there for requests. -/
def ensureWalletHoldsPreserved (db : Database) (walletId : String)
    (afterRecharge afterGift : Int) : Result Unit := do
  let held := db.held walletId
  let recharge ← requestFundsAvailableUnits (unitsUsd (max afterRecharge 0))
  if held.recharge > recharge then
    invalid "wallet debit would consume funds reserved for a request"
  else do
    let gift ← requestFundsAvailableUnits (unitsUsd (max afterGift 0))
    if held.gift > gift then invalid "wallet debit would consume funds reserved for a request"
    else .ok ()

def enqueue (db : Database) (refundId : String) (refund : StoredAdminWalletRefund) :
    Table RefundStatusNotification :=
  if db.notifications.contains refundId then db.notifications
  else db.notifications.insert refundId
    { walletId := refund.walletId
      userId := refund.userId
      refundNo := refund.refundNo
      amountUsd := refund.amountUsd
      terminalStatus := refund.status
      failureReason :=
        if refund.status = .failed then some "退款未完成，请在账户中查看退款详情或联系管理员。"
        else none }

/-! ## Create -/

structure CreateWalletRefundRequestInput where
  walletId : String
  userId : String
  amountUsd : Int
  paymentOrderId : Option String
  sourceType : Option String
  sourceId : Option String
  refundMode : Option String
  reason : Option String
  idempotencyKey : Option String
  refundNo : String

inductive CreateRefusal where
  | invalidInput (message : String)
  | walletMissing
  | refundAmountExceedsAvailableBalance
  | paymentOrderNotFound
  | paymentOrderNotRefundable
  | refundAmountExceedsAvailableOrderAmount
  | duplicateRejected
  | error (failure : Failure)
  | uniqueViolation
  deriving DecidableEq, Repr

inductive CreateReply where
  | created (refund : StoredAdminWalletRefund)
  | duplicate (refund : StoredAdminWalletRefund)
  deriving DecidableEq

/-- The `try_fold` over the amounts of the open requests. -/
def reservedAmount : List Int → Int → Option Int
  | [], total => some total
  | amount :: rest, total => if amount ≤ 0 then none else reservedAmount rest (total + amount)

/-- The amounts of the requests that wait for a decision. -/
def openAmounts (db : Database) (chosen : StoredAdminWalletRefund → Bool) : List Int :=
  (db.refunds.values.filter (fun refund =>
    chosen refund && (refund.status = .pendingApproval || refund.status = .approved))).map
      StoredAdminWalletRefund.amountUsd

/-- The payment order of a request, with the checks that it can still pay that much. -/
def orderForRequest (db : Database) (input : CreateWalletRefundRequestInput) (orderId : String) :
    Except CreateRefusal PaymentOrderRow := do
  let order ← expect ((db.orders.get? orderId).filter
    (fun order => order.walletId = input.walletId))
    .paymentOrderNotFound
  require (order.status = .credited) .paymentOrderNotRefundable
  let reserved ← expect
    (reservedAmount (db.openAmounts (fun refund => refund.paymentOrderId = some orderId)) 0)
    (.invalidInput "payment order refund reservation is invalid")
  require (paymentOrderRefundAmountsAreConsistent order.amountUsd order.refundedAmountUsd
      order.refundableAmountUsd)
    (.invalidInput "payment order refund amounts are invalid")
  require (input.amountUsd ≤ order.refundableAmountUsd - reserved)
    .refundAmountExceedsAvailableOrderAmount
  return order

def orderOf (db : Database) (input : CreateWalletRefundRequestInput) :
    Except CreateRefusal (Option PaymentOrderRow) :=
  match input.paymentOrderId with
  | none => .ok none
  | some orderId => some <$> db.orderForRequest input orderId

/-- The new row, or the row that already has the idempotency key. -/
def insertRefund (db : Database) (newId : String) (refund : StoredAdminWalletRefund) :
    Except CreateRefusal (CreateReply × Database) :=
  if refund.idempotencyKey.isSome ∧
      (db.refunds.values.any (fun other => other.idempotencyKey = refund.idempotencyKey)) then do
    let existing ← expect (db.refunds.values.find? (fun other =>
      other.userId = refund.userId && other.idempotencyKey = refund.idempotencyKey))
      .duplicateRejected
    return (.duplicate existing, db)
  else do
    require (db.refunds.get? newId = none ∧
      ∀ other ∈ db.refunds.values, other.refundNo ≠ refund.refundNo) .uniqueViolation
    return (.created refund, { db with refunds := db.refunds.insert newId refund })

def createWalletRefundRequest (input : CreateWalletRefundRequestInput) (newId : String)
    (db : Database) : Except CreateRefusal (CreateReply × Database) := do
  require (0 < input.amountUsd)
    (.invalidInput "refund amount must be finite and greater than zero")
  let wallet ← expect
    ((db.wallets.get? input.walletId).filter (fun wallet => wallet.userId = some input.userId))
    .walletMissing
  let reserved ← expect
    (reservedAmount (db.openAmounts (fun refund => refund.walletId = input.walletId)) 0)
    (.invalidInput "wallet refund reservation is invalid")
  require (input.amountUsd ≤ wallet.balance - reserved) .refundAmountExceedsAvailableBalance
  let order ← db.orderOf input
  let canonical ← (canonicalizeWalletRefundFields input.paymentOrderId input.sourceType
    input.sourceId input.refundMode (order.map PaymentOrderRow.paymentMethod)).mapError
      (fun message => .error (.invalidInput message))
  db.insertRefund newId
    { refundNo := input.refundNo
      walletId := input.walletId
      userId := some input.userId
      paymentOrderId := input.paymentOrderId
      sourceType := canonical.sourceType
      sourceId := canonical.sourceId
      refundMode := canonical.refundMode
      amountUsd := input.amountUsd
      status := .pendingApproval
      reason := input.reason
      failureReason := none
      gatewayRefundId := none
      payoutReference := none
      payoutProof := none
      requestedBy := some input.userId
      approvedBy := none
      processedBy := none
      idempotencyKey := input.idempotencyKey }

/-! ## Process -/

structure ProcessAdminWalletRefundInput where
  walletId : String
  refundId : String
  operatorId : Option String

/-- The order of a refund, checked for the wallet and for its own amounts. -/
def refundableOrder (db : Database) (walletId orderId : String) :
    Except Refusal PaymentOrderRow := do
  let order ← expect (db.orders.get? orderId) (.invalid "payment order not found")
  require (order.walletId = walletId ∧ order.status = .credited)
    (.invalid "payment order is not refundable for this wallet")
  require (paymentOrderRefundAmountsAreConsistent order.amountUsd order.refundedAmountUsd
      order.refundableAmountUsd)
    (.invalid "payment order refund amounts are invalid")
  return order

/-- A refund of an order writes the order too. -/
def followOrder (db : Database) (refund : StoredAdminWalletRefund)
    (write : String → Except Refusal (Table PaymentOrderRow)) :
    Except Refusal (Table PaymentOrderRow) :=
  match refund.paymentOrderId with
  | none => .ok db.orders
  | some orderId => write orderId

def debitOrder (db : Database) (walletId : String) (amountUsd : Int) (orderId : String) :
    Except Refusal (Table PaymentOrderRow) := do
  let order ← db.refundableOrder walletId orderId
  let refundedAfter := order.refundedAmountUsd + amountUsd
  let refundableAfter := order.refundableAmountUsd - amountUsd
  require (amountUsd ≤ order.refundableAmountUsd ∧ 0 ≤ refundedAfter ∧
      refundedAfter ≤ order.amountUsd ∧ 0 ≤ refundableAfter ∧ refundableAfter ≤ order.amountUsd)
    (.invalid "payment order refund amounts are invalid")
  return db.orders.insert orderId
    { order with refundedAmountUsd := refundedAfter, refundableAmountUsd := refundableAfter }

def processAdminWalletRefund (input : ProcessAdminWalletRefundInput) (db : Database) :
    Except Refusal
      ((WalletRow × StoredAdminWalletRefund × StoredAdminWalletTransaction) × Database) := do
  let refund ← expect (db.findRefund input.refundId input.walletId) .notFound
  require (0 < refund.amountUsd) (.invalid "refund amount must be finite and greater than zero")
  require (refund.status = .approved ∨ refund.status = .pendingApproval)
    (.invalid "refund status is not approvable")
  let wallet ← expect (db.wallets.get? input.walletId) (.invalid "wallet not found")
  require (0 ≤ wallet.balance ∧ 0 ≤ wallet.giftBalance ∧ 0 ≤ wallet.totalRefunded)
    (.invalid "wallet balance is invalid")
  let beforeUnits ← (requestFundsAvailableUnits (unitsUsd wallet.balance)).mapError .error
  let amountUnits ← (requestFundsAvailableUnits (unitsUsd refund.amountUsd)).mapError .error
  require (amountUnits ≤ beforeUnits)
    (.invalid "refund amount exceeds refundable recharge balance")
  let afterRecharge : Int := (beforeUnits - amountUnits : Nat)
  (db.ensureWalletHoldsPreserved input.walletId afterRecharge wallet.giftBalance).mapError
    (fun _ => .invalid "refund would consume funds reserved for a request")
  let orders ← db.followOrder refund (db.debitOrder input.walletId refund.amountUsd)
  let walletAfter := { wallet with
    balance := afterRecharge, totalRefunded := wallet.totalRefunded + refund.amountUsd }
  let refundAfter := { refund with
    status := .processing, approvedBy := input.operatorId, processedBy := input.operatorId }
  let transaction : StoredAdminWalletTransaction :=
    { walletId := input.walletId
      reasonCode := .refundOut
      amount := -refund.amountUsd
      balanceBefore := wallet.balance + wallet.giftBalance
      balanceAfter := afterRecharge + wallet.giftBalance
      rechargeBalanceBefore := wallet.balance
      rechargeBalanceAfter := afterRecharge
      giftBalanceBefore := wallet.giftBalance
      giftBalanceAfter := wallet.giftBalance
      linkId := input.refundId
      operatorId := input.operatorId
      description := "退款占款" }
  return ((walletAfter, refundAfter, transaction),
    { db with
      wallets := db.wallets.insert input.walletId walletAfter
      orders := orders
      refunds := db.refunds.insert input.refundId refundAfter
      transactions := db.transactions ++ [transaction] })

/-! ## Gateway evidence and completion -/

structure UpdateAdminWalletRefundGatewayInput where
  walletId : String
  refundId : String
  gatewayRefundId : String
  payoutProof : Option Json

def updateAdminWalletRefundGateway (input : UpdateAdminWalletRefundGatewayInput)
    (db : Database) : Except Refusal (StoredAdminWalletRefund × Database) := do
  require (¬ isBlank input.gatewayRefundId ∧ byteLen input.gatewayRefundId ≤ 128)
    (.invalid "gateway refund identifier is invalid")
  require (input.payoutProof.all Json.isObject) (.invalid "gateway refund proof must be an object")
  let current ← expect (db.findRefund input.refundId input.walletId) .notFound
  require (0 < current.amountUsd) (.invalid "refund amount must be finite and greater than zero")
  require (current.gatewayRefundId.all (· = input.gatewayRefundId))
    (.invalid "gateway refund identifier conflicts with existing evidence")
  if current.status = .succeeded then return (current, db)
  else do
    require (current.status = .processing)
      (.invalid "refund status must be processing before gateway update")
    let after := { current with
      gatewayRefundId := current.gatewayRefundId.or (some input.gatewayRefundId)
      payoutProof := keptProof current.payoutProof input.payoutProof }
    return (after, { db with refunds := db.refunds.insert input.refundId after })

structure CompleteAdminWalletRefundInput where
  walletId : String
  refundId : String
  gatewayRefundId : Option String
  payoutReference : Option String
  payoutProof : Option Json

def completeAdminWalletRefund (input : CompleteAdminWalletRefundInput) (db : Database) :
    Except Refusal (StoredAdminWalletRefund × Database) := do
  let refund ← expect (db.findRefund input.refundId input.walletId) .notFound
  require (0 < refund.amountUsd) (.invalid "refund amount must be finite and greater than zero")
  require (refund.gatewayRefundId.all (fun existing => input.gatewayRefundId.all (existing = ·)))
    (.invalid "gateway refund identifier conflicts with existing evidence")
  if refund.status = .succeeded then return (refund, db)
  else do
    require (refund.status = .processing)
      (.invalid "refund status must be processing before completion")
    let after := { refund with
      status := .succeeded
      gatewayRefundId := input.gatewayRefundId.or refund.gatewayRefundId
      payoutReference := input.payoutReference.or refund.payoutReference
      payoutProof := keptProof refund.payoutProof input.payoutProof }
    return (after, { db with
      refunds := db.refunds.insert input.refundId after
      notifications := db.enqueue input.refundId after })

/-! ## Failure -/

structure FailAdminWalletRefundInput where
  walletId : String
  refundId : String
  reason : String
  operatorId : Option String

abbrev FailReply := WalletRow × StoredAdminWalletRefund × Option StoredAdminWalletTransaction

/-- A request that was not processed fails without a transaction. -/
def failRequest (input : FailAdminWalletRefundInput) (refund : StoredAdminWalletRefund)
    (db : Database) : Except Refusal (FailReply × Database) := do
  let after := { refund with status := .failed, failureReason := some input.reason }
  -- `fetch_one` without a row is an error
  let wallet ← expect (db.wallets.get? input.walletId)
    (.error (.unexpectedValue "row not found"))
  return ((wallet, after, none), { db with
    refunds := db.refunds.insert input.refundId after
    notifications := db.enqueue input.refundId after })

def creditOrder (db : Database) (walletId : String) (amountUsd : Int) (orderId : String) :
    Except Refusal (Table PaymentOrderRow) := do
  let order ← db.refundableOrder walletId orderId
  let refundedAfter := order.refundedAmountUsd - amountUsd
  let refundableAfter := order.refundableAmountUsd + amountUsd
  require (amountUsd ≤ order.refundedAmountUsd ∧ 0 ≤ refundedAfter ∧ 0 ≤ refundableAfter ∧
      refundableAfter ≤ order.amountUsd)
    (.invalid "payment order refund amounts are invalid")
  return db.orders.insert orderId
    { order with refundedAmountUsd := refundedAfter, refundableAmountUsd := refundableAfter }

/-- Only an offline payout without evidence of the gateway can be taken back. -/
def isReleasable (refund : StoredAdminWalletRefund) : Bool :=
  refund.gatewayRefundId.isNone && refund.payoutProof.isNone &&
    eqIgnoreAsciiCase (trim refund.refundMode) "offline_payout"

def failProcessing (input : FailAdminWalletRefundInput) (refund : StoredAdminWalletRefund)
    (db : Database) : Except Refusal (FailReply × Database) := do
  require (isReleasable refund)
    (.invalid "cannot fail refund while gateway settlement is processing")
  let wallet ← expect (db.wallets.get? input.walletId) (.invalid "wallet not found")
  require (0 ≤ wallet.balance ∧ 0 ≤ wallet.giftBalance ∧ 0 ≤ wallet.totalRefunded ∧
      refund.amountUsd ≤ wallet.totalRefunded)
    (.invalid "wallet balance is invalid for refund recovery")
  let orders ← db.followOrder refund (db.creditOrder input.walletId refund.amountUsd)
  let afterRecharge := wallet.balance + refund.amountUsd
  let walletAfter := { wallet with
    balance := afterRecharge, totalRefunded := wallet.totalRefunded - refund.amountUsd }
  let after := { refund with status := .failed, failureReason := some input.reason }
  let transaction : StoredAdminWalletTransaction :=
    { walletId := input.walletId
      reasonCode := .refundRevert
      amount := refund.amountUsd
      balanceBefore := wallet.balance + wallet.giftBalance
      balanceAfter := afterRecharge + wallet.giftBalance
      rechargeBalanceBefore := wallet.balance
      rechargeBalanceAfter := afterRecharge
      giftBalanceBefore := wallet.giftBalance
      giftBalanceAfter := wallet.giftBalance
      linkId := input.refundId
      operatorId := input.operatorId
      description := "退款失败回补" }
  return ((walletAfter, after, some transaction), { db with
    wallets := db.wallets.insert input.walletId walletAfter
    orders := orders
    refunds := db.refunds.insert input.refundId after
    transactions := db.transactions ++ [transaction]
    notifications := db.enqueue input.refundId after })

def failAdminWalletRefund (input : FailAdminWalletRefundInput) (db : Database) :
    Except Refusal (FailReply × Database) := do
  let refund ← expect (db.findRefund input.refundId input.walletId) .notFound
  require (0 < refund.amountUsd) (.invalid "refund amount must be finite and greater than zero")
  match refund.status with
  | .pendingApproval | .approved => failRequest input refund db
  | .processing => failProcessing input refund db
  | status => .error (.invalid ("cannot fail refund in status: " ++ status.text))

/-! ## Runs -/

inductive RefundCall where
  | create (input : CreateWalletRefundRequestInput) (newId : String)
  | process (input : ProcessAdminWalletRefundInput)
  | updateGateway (input : UpdateAdminWalletRefundGatewayInput)
  | complete (input : CompleteAdminWalletRefundInput)
  | fail (input : FailAdminWalletRefundInput)

/-- The rows after a transaction: those of a refused one are rolled back. -/
def commit {Stop Reply : Type} (db : Database) (result : Except Stop (Reply × Database)) :
    Database :=
  match result with
  | .ok (_, after) => after
  | .error _ => db

def call (db : Database) : RefundCall → Database
  | .create input newId => db.commit (createWalletRefundRequest input newId db)
  | .process input => db.commit (processAdminWalletRefund input db)
  | .updateGateway input => db.commit (updateAdminWalletRefundGateway input db)
  | .complete input => db.commit (completeAdminWalletRefund input db)
  | .fail input => db.commit (failAdminWalletRefund input db)

/-- What is held for requests lies in the wallet. -/
def Covered (db : Database) : Prop :=
  ∀ id wallet, db.wallets.get? id = some wallet →
    (db.held id).recharge ≤ wallet.balance.toNat ∧ (db.held id).gift ≤ wallet.giftBalance.toNat

/-- The rest of the program: credits and debits of wallets that respect the holds, holds that
come and go, new wallets, orders that are placed and paid. A settlement may overdraw a
wallet. A credited order changes no more. -/
structure Elsewhere (before after : Database) : Prop where
  refunds : after.refunds = before.refunds
  transactions : after.transactions = before.transactions
  wallets : ∀ id wallet, before.wallets.get? id = some wallet →
    ∃ later, after.wallets.get? id = some later ∧ later.totalRefunded = wallet.totalRefunded
  newWallets : ∀ id wallet, before.wallets.get? id = none → after.wallets.get? id = some wallet →
    0 ≤ wallet.totalRefunded
  credited : ∀ id order, before.orders.get? id = some order → order.status = .credited →
    after.orders.get? id = some order
  payments : ∀ id order, after.orders.get? id = some order →
    before.orders.get? id = some order ∨ order.Sane
  covered : after.Covered

inductive Step (before after : Database) : Prop where
  | refund (call : RefundCall) (result : after = before.call call)
  | elsewhere (other : Elsewhere before after)

abbrev Reaches := Relation.ReflTransGen Step

end Database

end Aeris.Wallet
