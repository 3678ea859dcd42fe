import Aeris.Base.Transition
import Aeris.Wallet.RefundBooks

/-! Refunds conserve money. A refund takes its amount once and gives it back at most once,
and the totals of wallets and orders follow. What does not always work is the way back: a
wallet that was overdrawn in the meantime refuses the money. -/
namespace Aeris.Wallet

open Checked Settlement Relation Option OrderedTable
open OrderedTable (empty forall_insert get?_insert)

namespace Database

open StoredAdminWalletRefund

variable {db before after : Database}

/-! ## Conservation -/

/-- From one state to a later one: a refund keeps its account, and its status once that is
final; what was refunded of a wallet or of an order changed by what its refunds paid out. -/
structure Conserved (before after : Database) : Prop where
  refunds : ∀ id refund, before.refunds.get? id = some refund →
    ∃ later, after.refunds.get? id = some later ∧ SameAccount refund later ∧
      (refund.IsFinal → later.status = refund.status)
  wallets : ∀ id wallet, before.wallets.get? id = some wallet →
    ∃ later, after.wallets.get? id = some later ∧
      later.totalRefunded + before.paidOutOfWallet id =
        wallet.totalRefunded + after.paidOutOfWallet id
  orders : ∀ id order, before.orders.get? id = some order → order.status = .credited →
    ∃ later, after.orders.get? id = some later ∧ later.status = .credited ∧
      later.refundedAmountUsd + before.paidOutOfOrder id =
        order.refundedAmountUsd + after.paidOutOfOrder id ∧
      later.refundedAmountUsd + later.refundableAmountUsd =
        order.refundedAmountUsd + order.refundableAmountUsd

theorem Conserved.refl (db : Database) : Conserved db db where
  refunds := fun _ refund found => ⟨refund, found, ⟨rfl, rfl, rfl⟩, fun _ => rfl⟩
  wallets := fun _ wallet found => ⟨wallet, found, rfl⟩
  orders := fun _ order found credited => ⟨order, found, credited, rfl, rfl⟩

theorem Conserved.trans {first second third} (left : Conserved first second)
    (right : Conserved second third) : Conserved first third where
  refunds := by
    intro id refund found
    obtain ⟨middle, present, same, final⟩ := left.refunds id refund found
    obtain ⟨last, stays, later, finalLater⟩ := right.refunds id middle present
    refine ⟨last, stays, ⟨later.1.trans same.1, later.2.1.trans same.2.1,
      later.2.2.trans same.2.2⟩, fun done => ?_⟩
    have status := final done
    exact (finalLater (by rwa [IsFinal, status])).trans status
  wallets := by
    intro id wallet found
    obtain ⟨middle, present, first⟩ := left.wallets id wallet found
    obtain ⟨last, stays, second⟩ := right.wallets id middle present
    exact ⟨last, stays, by omega⟩
  orders := by
    intro id order found credited
    obtain ⟨middle, present, status, first, sum⟩ := left.orders id order found credited
    obtain ⟨last, stays, credited, second, total⟩ := right.orders id middle present status
    exact ⟨last, stays, credited, by omega, total.trans sum⟩

theorem refunds_written {refunds : Table StoredAdminWalletRefund} {id}
    {refund later} (found : refunds.get? id = some refund)
    (same : SameAccount refund later) (unfinished : ¬ refund.IsFinal) (other : String)
    (row : StoredAdminWalletRefund) (present : refunds.get? other = some row) :
    ∃ next, (refunds.insert id later).get? other = some next ∧ SameAccount row next ∧
      (row.IsFinal → next.status = row.status) := by
  rw [get?_insert]
  split_ifs with equal
  · obtain rfl : refund = row := some.inj ((equal ▸ found).symm.trans present)
    exact ⟨later, rfl, same, fun final => absurd final unfinished⟩
  · exact ⟨row, present, ⟨rfl, rfl, rfl⟩, fun _ => rfl⟩

theorem not_final_of_open {refund : StoredAdminWalletRefund} (waits : refund.IsOpen) :
    ¬ refund.IsFinal := by
  rcases waits with waits | waits <;> simp [IsFinal, waits]

theorem not_final_of_processing {refund : StoredAdminWalletRefund}
    (processing : refund.status = .processing) : ¬ refund.IsFinal := by
  simp [IsFinal, processing]

theorem Way.unfinished {refund later : StoredAdminWalletRefund} {reason delta}
    (way : Way refund later reason delta) : ¬ refund.IsFinal := by
  cases way with
  | out waits _ => exact not_final_of_open waits
  | back paid _ => exact not_final_of_processing paid

theorem Change.conserved (change : Change before after) (sound : Sound before) :
    Conserved before after := by
  cases change with
  | idle same => exact same ▸ .refl before
  | opened id refund wallet result fresh status positive owner =>
    have unpaid : refund.isPaidOut = false := by simp [isPaidOut, status]
    subst result
    constructor
    case refunds =>
      intro other row found
      have different : other ≠ id := by
        rintro rfl
        rw [fresh] at found
        cases found
      exact ⟨row, (get?_insert_of_ne _ _ different).trans found, ⟨rfl, rfl, rfl⟩, fun _ => rfl⟩
    case wallets =>
      intro walletId row found
      exact ⟨row, found, by rw [paidOutOfWallet, paidOutOfWallet, paidOut_opened _ fresh unpaid]⟩
    case orders =>
      intro orderId row found credited
      exact ⟨row, found, credited,
        by rw [paidOutOfOrder, paidOutOfOrder, paidOut_opened _ fresh unpaid], rfl⟩
  | marked id refund later notifications result found same turn =>
    subst result
    have unfinished : ¬ refund.IsFinal := by
      rcases turn with ⟨processing, -⟩ | ⟨waits, -⟩
      · exact not_final_of_processing processing
      · exact not_final_of_open waits
    have paid := isPaidOut_marked turn
    constructor
    case refunds => exact refunds_written found same unfinished
    case wallets =>
      intro walletId row present
      refine ⟨row, present, ?_⟩
      rw [paidOutOfWallet, paidOutOfWallet, paidOut_marked _ found (by rw [same.1]) same.2.2 paid]
    case orders =>
      intro orderId row present credited
      refine ⟨row, present, credited, ?_, rfl⟩
      rw [paidOutOfOrder, paidOutOfOrder, paidOut_marked _ found (by rw [same.2.1]) same.2.2 paid]
  | moved id refund later wallet row delta orders notifications result movement =>
    obtain ⟨found, same, way, owner, -, -, -, -, order⟩ := movement
    subst result
    have positive := (sound.accounted id refund found).positive
    constructor
    case refunds => exact refunds_written found same way.unfinished
    case wallets =>
      intro walletId row present
      refine ⟨_, by rw [get?_takeOut delta owner, present, map_some], ?_⟩
      have sum := paidOut_moved (fun refund => refund.walletId = walletId) found (by rw [same.1])
        same.2.2 positive way
      simp only [paidOutOfWallet, takeOut, decide_eq_true_eq] at sum ⊢
      omega
    case orders =>
      intro orderId row present credited
      refine ⟨refundMore (if refund.paymentOrderId = some orderId then delta else 0) row, ?_,
        credited, ?_, ?_⟩
      · rw [get?_refundMore order, present, map_some]
      · have sum := paidOut_moved (fun refund => refund.paymentOrderId = some orderId) found
          (by rw [same.2.1]) same.2.2 positive way
        simp only [paidOutOfOrder, refundMore, decide_eq_true_eq] at sum ⊢
        omega
      · simp [refundMore]

theorem Elsewhere.conserved (other : Elsewhere before after) : Conserved before after where
  refunds := fun _ refund found => ⟨refund, other.refunds ▸ found, ⟨rfl, rfl, rfl⟩, fun _ => rfl⟩
  wallets := by
    intro id wallet found
    obtain ⟨later, stays, same⟩ := other.wallets id wallet found
    exact ⟨later, stays, by rw [same, paidOutOfWallet, paidOutOfWallet, other.refunds]⟩
  orders := by
    intro id order found credited
    exact ⟨order, other.credited id order found credited, credited,
      by rw [paidOutOfOrder, paidOutOfOrder, other.refunds], rfl⟩

theorem Step.conserved (step : Step before after) (sound : Sound before) :
    Conserved before after := by
  cases step with
  | refund call result => exact result ▸ (call_change before call).conserved sound
  | elsewhere other => exact other.conserved

theorem Reaches.sound {first last} (run : Reaches first last) (sound : Sound first) : Sound last :=
  Transition.invariant (fun _ _ sound step => step.sound sound) run sound

theorem Reaches.conserved {first last} (run : Reaches first last)
    (sound : Sound first) : Conserved first last := by
  induction run with
  | refl => exact .refl first
  | tail earlier step ih => exact ih.trans (step.conserved (Reaches.sound earlier sound))

/-- A refund call changes a balance by the transactions that it writes. -/
def Booked (before after : Database) : Prop :=
  ∃ rows, after.transactions = before.transactions ++ rows ∧
    ∀ id wallet, before.wallets.get? id = some wallet →
      ∃ later, after.wallets.get? id = some later ∧ later.giftBalance = wallet.giftBalance ∧
        later.balance = wallet.balance +
          ((rows.filter (fun row => row.walletId = id)).map StoredAdminWalletTransaction.amount).sum

theorem Booked.same (transactions : after.transactions = before.transactions)
    (wallets : after.wallets = before.wallets) : Booked before after :=
  ⟨[], by simp [transactions], fun _ wallet found => ⟨wallet, wallets ▸ found, rfl, by simp⟩⟩

theorem Change.booked (change : Change before after) : Booked before after := by
  cases change with
  | idle same => exact .same (by rw [same]) (by rw [same])
  | opened _ _ _ result | marked _ _ _ _ result => exact .same (by rw [result]) (by rw [result])
  | moved id refund later wallet row delta orders notifications result movement =>
    subst result
    refine ⟨[row], rfl, fun walletId old present => ?_⟩
    refine ⟨takeOut (if refund.walletId = walletId then delta else 0) old, ?_, rfl, ?_⟩
    · rw [get?_takeOut delta movement.owner, present, map_some]
    · by_cases here : refund.walletId = walletId
      · simp [takeOut, movement.booked, here, movement.amount, sub_eq_add_neg]
      · simp [takeOut, movement.booked, here]

/-! ## The way back -/

/-- A refund that the source means to be released without evidence of the gateway. -/
structure Releasable (db : Database) (id : String) (refund : StoredAdminWalletRefund) : Prop where
  found : db.refunds.get? id = some refund
  processing : refund.status = .processing
  offline : isReleasable refund

def Solvent (db : Database) (walletId : String) : Prop :=
  ∃ wallet, db.wallets.get? walletId = some wallet ∧ 0 ≤ wallet.balance ∧ 0 ≤ wallet.giftBalance

def CanBeFailed (db : Database) (id : String) (refund : StoredAdminWalletRefund) : Prop :=
  ∀ reason operatorId, ∃ reply after,
    failAdminWalletRefund ⟨refund.walletId, id, reason, operatorId⟩ db = .ok (reply, after)

variable {id : String} {refund : StoredAdminWalletRefund}

theorem fail_eq_failProcessing (releasable : Releasable db id refund)
    (positive : 0 < refund.amountUsd) (reason : String) (operatorId : Option String) :
    failAdminWalletRefund ⟨refund.walletId, id, reason, operatorId⟩ db =
      failProcessing ⟨refund.walletId, id, reason, operatorId⟩ refund db := by
  have found : db.findRefund id refund.walletId = some refund :=
    findRefund_eq_some.mpr ⟨releasable.found, rfl⟩
  simp [failAdminWalletRefund, found, expect, require, positive, releasable.processing, bind,
    Except.bind]

theorem fail_overdrawn {wallet} (releasable : Releasable db id refund)
    (positive : 0 < refund.amountUsd) (owner : db.wallets.get? refund.walletId = some wallet)
    (overdrawn : wallet.balance < 0 ∨ wallet.giftBalance < 0) (reason : String)
    (operatorId : Option String) :
    failAdminWalletRefund ⟨refund.walletId, id, reason, operatorId⟩ db =
      .error (.invalid "wallet balance is invalid for refund recovery") := by
  have refused : ¬ (0 ≤ wallet.balance ∧ 0 ≤ wallet.giftBalance ∧ 0 ≤ wallet.totalRefunded ∧
      refund.amountUsd ≤ wallet.totalRefunded) := by omega
  rw [fail_eq_failProcessing releasable positive]
  simp [failProcessing, expect, require, releasable.offline, owner, refused, bind, Except.bind]

theorem share_le_paidOut (found : db.refunds.get? id = some refund) (paid : refund.isPaidOut)
    {chosen} (counts : chosen refund) : refund.amountUsd ≤ paidOut db.refunds chosen := by
  have part := db.refunds.le_total (share chosen) found
  simp only [share, counts, paid, Bool.and_self, if_true] at part
  rw [paidOut]
  omega

theorem creditOrder_succeeds (sound : Sound db) (releasable : Releasable db id refund) :
    ∃ orders, db.followOrder refund (db.creditOrder refund.walletId refund.amountUsd) =
      .ok orders := by
  have accounted := sound.accounted id refund releasable.found
  have paid : refund.isPaidOut := by simp [isPaidOut, releasable.processing]
  cases which : refund.paymentOrderId with
  | none => exact ⟨db.orders, by simp [followOrder, which]⟩
  | some orderId =>
    obtain ⟨order, present, wallet, credited, size, whole⟩ := accounted.paid orderId paid which
    have bounds := sound.orders orderId order present
    have part : refund.amountUsd ≤ db.paidOutOfOrder orderId :=
      share_le_paidOut releasable.found paid (by simp [which])
    have positive := accounted.positive
    refine ⟨db.orders.insert orderId { order with
      refundedAmountUsd := order.refundedAmountUsd - refund.amountUsd
      refundableAmountUsd := order.refundableAmountUsd + refund.amountUsd }, ?_⟩
    simp only [followOrder, which, creditOrder, bind_ok_iff, require_ok_iff,
      refundableOrder_ok_iff, paymentOrderRefundAmountsAreConsistent_iff, pure, Except.pure]
    refine ⟨order, ⟨present, wallet, credited, size, ?_, ?_, ?_, ?_, abs_le.mpr ⟨?_, ?_⟩⟩, (),
      ⟨?_, ?_, ?_, ?_⟩, rfl⟩ <;> omega

theorem canBeFailed_iff (sound : Sound db) (releasable : Releasable db id refund) :
    CanBeFailed db id refund ↔ Solvent db refund.walletId := by
  have accounted := sound.accounted id refund releasable.found
  obtain ⟨wallet, owner⟩ := ne_none_iff_exists'.mp accounted.owned
  constructor
  · intro applies
    by_contra insolvent
    have overdrawn : wallet.balance < 0 ∨ wallet.giftBalance < 0 := by
      by_contra fine
      exact insolvent ⟨wallet, owner, by omega, by omega⟩
    obtain ⟨reply, after, applied⟩ := applies "" none
    rw [fail_overdrawn releasable accounted.positive owner overdrawn] at applied
    cases applied
  · rintro ⟨row, present, balance, gift⟩ reason operatorId
    obtain rfl : wallet = row := some.inj (owner.symm.trans present)
    have paid : refund.isPaidOut := by simp [isPaidOut, releasable.processing]
    have part : refund.amountUsd ≤ db.paidOutOfWallet refund.walletId :=
      share_le_paidOut releasable.found paid (by simp)
    have total := sound.totals refund.walletId wallet owner
    have positive := accounted.positive
    have fits : 0 ≤ wallet.balance ∧ 0 ≤ wallet.giftBalance ∧ 0 ≤ wallet.totalRefunded ∧
        refund.amountUsd ≤ wallet.totalRefunded := ⟨balance, gift, by omega, by omega⟩
    obtain ⟨orders, order⟩ := creditOrder_succeeds sound releasable
    rw [fail_eq_failProcessing releasable positive]
    simp [failProcessing, expect, require, releasable.offline, owner, fits, order, bind,
      Except.bind, pure, Except.pure]

/-! ## Every run -/

/-- Before any refund: nothing is refunded yet that a refund paid out. -/
structure Opening (db : Database) : Prop where
  refunds : db.refunds = empty
  transactions : db.transactions = []
  totals : ∀ id wallet, db.wallets.get? id = some wallet → 0 ≤ wallet.totalRefunded
  orders : ∀ id order, db.orders.get? id = some order → order.Sane
  covered : db.Covered

theorem Opening.sound (opening : Opening db) : Sound db := by
  have none : ∀ id, db.refunds.get? id = none := by
    intro id
    rw [opening.refunds]
    rfl
  have nothing : ∀ chosen, paidOut db.refunds chosen = 0 := fun chosen =>
    paidOut_eq_zero fun id refund found => by
      rw [none id] at found
      cases found
  constructor
  case accounted =>
    intro id refund found
    rw [none id] at found
    cases found
  case linked => simp [opening.transactions]
  case totals =>
    intro id wallet found
    rw [paidOutOfWallet, nothing]
    exact opening.totals id wallet found
  case orders =>
    intro id order found
    rw [paidOutOfOrder, nothing]
    exact opening.orders id order found
  case covered => exact opening.covered

/-- What the refunds of a run keep to, from any state of the run to any later one. -/
structure Lawful (first last : Database) : Prop where
  conserved : Conserved first last
  explained : ∀ id refund, last.refunds.get? id = some refund → refund.Explains (last.movements id)
  booked : ∀ call, Booked last (last.call call)
  covered : last.Covered
  stillCovered : ∀ call, (last.call call).Covered

/-- Every run keeps to the law of refunds, and in the states where the wallets of the offline
payouts under way are not overdrawn, and in no others, each of these payouts can be failed. -/
theorem refunds_conserve_money {start first last : Database} (opening : Opening start)
    (run : Reaches start first) (rest : Reaches first last) : Lawful first last ∧
      ((∀ id refund, Releasable last id refund → CanBeFailed last id refund) ↔
        ∀ id refund, Releasable last id refund → Solvent last refund.walletId) := by
  have soundFirst := Reaches.sound run opening.sound
  have sound := Reaches.sound rest soundFirst
  refine ⟨⟨Reaches.conserved rest soundFirst, ?_, ?_, sound.covered, ?_⟩, ?_⟩
  · exact fun id refund found => (sound.accounted id refund found).explained
  · exact fun call => (call_change last call).booked
  · exact fun call => ((call_change last call).sound sound).covered
  · exact forall_congr' fun id => forall_congr' fun refund =>
      forall_congr' fun releasable => canBeFailed_iff sound releasable

theorem Elsewhere.settled {wallet walletId balance}
    (found : db.wallets.get? walletId = some wallet) (covered : db.Covered)
    (respects : (db.held walletId).recharge ≤ balance.toNat) :
    Elsewhere db { db with
      wallets := db.wallets.insert walletId { wallet with balance := balance } } := by
  constructor
  case refunds => rfl
  case transactions => rfl
  case wallets =>
    intro id row present
    rw [get?_insert]
    split_ifs with same
    · rw [same, found] at present
      exact ⟨_, rfl, some.inj present ▸ rfl⟩
    · exact ⟨row, present, rfl⟩
  case newWallets =>
    intro id row missing present
    rw [get?_insert] at present
    split_ifs at present with same
    · rw [same, found] at missing
      cases missing
    · rw [missing] at present
      cases present
  case credited => exact fun id order present credited => present
  case payments => exact fun id order present => .inl present
  case covered => exact forall_insert ⟨respects, (covered walletId wallet found).2⟩ covered

section

/-- A wallet with one paid order of a method whose refunds are paid out by hand. -/
def sampleOpening : Database where
  wallets := OrderedTable.empty.insert "wallet" ⟨some "user", 100, 0, 0⟩
  orders := OrderedTable.empty.insert "order" ⟨"wallet", .credited, "admin_manual", 100, 0, 100⟩
  refunds := empty
  transactions := []
  notifications := empty
  held := fun _ => ⟨0, 0⟩

def samplePaidOut : Database :=
  (sampleOpening.call (.create ⟨"wallet", "user", 60, some "order", none, none, none, none, none,
    "R-1"⟩ "refund")).call (.process ⟨"wallet", "refund", none⟩)

theorem sampleOpening_opening : Opening sampleOpening := by
  constructor
  case refunds => rfl
  case transactions => rfl
  case totals => exact forall_insert (le_refl 0) fun _ _ found => by cases found
  case orders =>
    refine forall_insert ?_ fun _ _ found => by cases found
    unfold PaymentOrderRow.Sane
    decide
  case covered => exact fun _ _ _ => ⟨Nat.zero_le _, Nat.zero_le _⟩

theorem samplePaidOut_reached : Reaches sampleOpening samplePaidOut :=
  (ReflTransGen.single (.refund _ rfl)).tail (.refund _ rfl)

theorem samplePaidOut_wallet :
    samplePaidOut.wallets.get? "wallet" = some ⟨some "user", 40, 0, 60⟩ := by
  decide +kernel

def sampleRefund : StoredAdminWalletRefund where
  refundNo := "R-1"
  walletId := "wallet"
  userId := some "user"
  paymentOrderId := some "order"
  sourceType := "payment_order"
  sourceId := some "order"
  refundMode := "offline_payout"
  amountUsd := 60
  status := .processing
  reason := none
  failureReason := none
  gatewayRefundId := none
  payoutReference := none
  payoutProof := none
  requestedBy := some "user"
  approvedBy := none
  processedBy := none
  idempotencyKey := none

theorem samplePaidOut_releasable : Releasable samplePaidOut "refund" sampleRefund :=
  ⟨by decide +kernel, rfl, by decide +kernel⟩

/-- The sample refund is under way, and its wallet has money left. -/
theorem sample_refund_conserves :
    Lawful sampleOpening samplePaidOut ∧ CanBeFailed samplePaidOut "refund" sampleRefund := by
  have always := refunds_conserve_money sampleOpening_opening .refl samplePaidOut_reached
  have sound := Reaches.sound samplePaidOut_reached sampleOpening_opening.sound
  have solvent : Solvent samplePaidOut "wallet" := ⟨_, samplePaidOut_wallet, by decide, by decide⟩
  exact ⟨always.1, (canBeFailed_iff sound samplePaidOut_releasable).mpr solvent⟩

def sampleOverdrawn : Database :=
  { samplePaidOut with
    wallets := samplePaidOut.wallets.insert "wallet" ⟨some "user", -5, 0, 60⟩ }

/-- A settlement overdraws the wallet while the payout is under way; the payout then cannot be
taken back. -/
theorem overdrawn_wallet_keeps_payout :
    Opening sampleOpening ∧ Reaches sampleOpening sampleOverdrawn ∧
      Releasable sampleOverdrawn "refund" sampleRefund ∧
      failAdminWalletRefund ⟨"wallet", "refund", "payout refused", none⟩ sampleOverdrawn =
        .error (.invalid "wallet balance is invalid for refund recovery") := by
  have sound := Reaches.sound samplePaidOut_reached sampleOpening_opening.sound
  have held : (samplePaidOut.held "wallet").recharge ≤ (-5 : Int).toNat := by decide +kernel
  have overdraw := Elsewhere.settled samplePaidOut_wallet sound.covered held
  have releasable : Releasable sampleOverdrawn "refund" sampleRefund :=
    ⟨samplePaidOut_releasable.found, rfl, samplePaidOut_releasable.offline⟩
  have owner : sampleOverdrawn.wallets.get? "wallet" = some ⟨some "user", -5, 0, 60⟩ :=
    get?_insert_self _ _ _
  exact ⟨sampleOpening_opening, samplePaidOut_reached.tail (.elsewhere overdraw), releasable,
    fail_overdrawn releasable (by decide) owner (.inl (by decide)) _ _⟩

end

end Database

end Aeris.Wallet
