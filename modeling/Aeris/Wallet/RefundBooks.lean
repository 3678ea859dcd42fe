import Aeris.Wallet.RefundChanges

/-! The books of the refunds. The transactions of a refund tell its status, the totals of
wallets and orders cover what was paid out, and the holds of requests stay covered, whatever
the rest of the program does to the wallets. -/
namespace Aeris.Wallet

open RustStd Checked Settlement List Option OrderedTable

namespace StoredAdminWalletRefund

def IsFinal (refund : StoredAdminWalletRefund) : Prop :=
  refund.status = .succeeded ∨ refund.status = .failed

/-- A movement of the wallet: which wallet, why, and by how much. -/
abbrev Movement := String × ReasonCode × Int

def debit (refund : StoredAdminWalletRefund) : Movement :=
  (refund.walletId, .refundOut, -refund.amountUsd)

def credit (refund : StoredAdminWalletRefund) : Movement :=
  (refund.walletId, .refundRevert, refund.amountUsd)

/-- The movements that a refund has made by the time it has its status. -/
def Explains (refund : StoredAdminWalletRefund) (movements : List Movement) : Prop :=
  match refund.status with
  | .pendingApproval | .approved => movements = []
  | .processing | .succeeded => movements = [refund.debit]
  | .failed => movements = [] ∨ movements = [refund.debit, refund.credit]

theorem debit_same {before after} (same : SameAccount before after) :
    after.debit = before.debit := by
  rw [debit, debit, same.1, same.2.2]

end StoredAdminWalletRefund

namespace Database

open StoredAdminWalletRefund

variable {db before after : Database}

/-- What a refund counts in the sum over the chosen refunds. -/
def share (chosen : StoredAdminWalletRefund → Bool) (refund : StoredAdminWalletRefund) : Nat :=
  if chosen refund && refund.isPaidOut then refund.amountUsd.toNat else 0

def paidOut (refunds : Table StoredAdminWalletRefund) (chosen : StoredAdminWalletRefund → Bool) :
    Nat :=
  refunds.total (share chosen)

/-- The sum of the refunds of a wallet that are processing or succeeded. -/
def paidOutOfWallet (db : Database) (walletId : String) : Nat :=
  paidOut db.refunds (fun refund => refund.walletId = walletId)

def paidOutOfOrder (db : Database) (orderId : String) : Nat :=
  paidOut db.refunds (fun refund => refund.paymentOrderId = some orderId)

def movements (db : Database) (refundId : String) : List Movement :=
  (db.transactions.filter (fun row => row.linkId = refundId)).map
    (fun row => (row.walletId, row.reasonCode, row.amount))

/-! ## Sums and movements -/

section

variable {refunds : Table StoredAdminWalletRefund} (chosen : StoredAdminWalletRefund → Bool)
  {id : String} {refund later : StoredAdminWalletRefund}

theorem paidOut_insert (found : refunds.get? id = some refund) (later : StoredAdminWalletRefund) :
    paidOut (refunds.insert id later) chosen + share chosen refund =
      paidOut refunds chosen + share chosen later := by
  have split := refunds.total_insert id later (share chosen)
  rwa [found, elim_some] at split

theorem paidOut_opened (fresh : refunds.get? id = none) (unpaid : refund.isPaidOut = false) :
    paidOut (refunds.insert id refund) chosen = paidOut refunds chosen := by
  rw [paidOut, refunds.total_insert_fresh refund _ fresh]
  simp [paidOut, share, unpaid]

theorem paidOut_marked (found : refunds.get? id = some refund)
    (account : chosen later = chosen refund) (amount : later.amountUsd = refund.amountUsd)
    (paid : later.isPaidOut = refund.isPaidOut) :
    paidOut (refunds.insert id later) chosen = paidOut refunds chosen := by
  have split := paidOut_insert chosen found later
  have same : share chosen later = share chosen refund := by
    rw [share, share, account, amount, paid]
  omega

theorem paidOut_moved {reason delta} (found : refunds.get? id = some refund)
    (account : chosen later = chosen refund) (amount : later.amountUsd = refund.amountUsd)
    (positive : 0 < refund.amountUsd) (way : Way refund later reason delta) :
    (paidOut (refunds.insert id later) chosen : Int) =
      paidOut refunds chosen + if chosen refund then delta else 0 := by
  have split := paidOut_insert chosen found later
  have change : (share chosen later : Int) =
      share chosen refund + if chosen refund then delta else 0 := by
    cases way with
    | out waits next =>
      rcases waits with waits | waits <;>
        by_cases counts : chosen refund <;>
          simp [share, account, amount, isPaidOut, waits, next, counts, positive.le]
    | back paid next =>
      by_cases counts : chosen refund <;>
        simp [share, account, isPaidOut, paid, next, counts, positive.le]
  omega

end

theorem movements_append (db : Database) (row : StoredAdminWalletTransaction) (id : String) :
    ({ db with transactions := db.transactions ++ [row] } : Database).movements id =
      db.movements id ++
        if row.linkId = id then [(row.walletId, row.reasonCode, row.amount)] else [] := by
  by_cases linked : row.linkId = id <;> simp [movements, filter_append, linked]

/-! ## Invariants -/

/-- The rows of one refund agree: its movements with its status, its wallet and, once it is
paid out, an order that can take the money back. -/
structure Accounted (db : Database) (id : String) (refund : StoredAdminWalletRefund) : Prop where
  explained : refund.Explains (db.movements id)
  positive : 0 < refund.amountUsd
  owned : db.wallets.get? refund.walletId ≠ none
  paid : ∀ orderId, refund.isPaidOut → refund.paymentOrderId = some orderId →
    ∃ order, db.orders.get? orderId = some order ∧ order.walletId = refund.walletId ∧
      order.status = .credited ∧ 0 < order.amountUsd ∧
      order.amountUsd ≤ order.refundedAmountUsd + order.refundableAmountUsd + refundAmountEpsilonUsd

structure Sound (db : Database) : Prop where
  accounted : ∀ id refund, db.refunds.get? id = some refund → Accounted db id refund
  linked : ∀ row ∈ db.transactions, db.refunds.get? row.linkId ≠ none
  totals : ∀ id wallet, db.wallets.get? id = some wallet →
    db.paidOutOfWallet id ≤ wallet.totalRefunded
  orders : ∀ id order, db.orders.get? id = some order →
    db.paidOutOfOrder id ≤ order.refundedAmountUsd ∧ 0 ≤ order.refundableAmountUsd ∧
      order.refundedAmountUsd + order.refundableAmountUsd ≤ order.amountUsd
  covered : db.Covered

/-- Wallets stay, and a credited order keeps all but the split of its amount. -/
structure Keeps (before after : Database) : Prop where
  wallets : ∀ id, before.wallets.get? id ≠ none → after.wallets.get? id ≠ none
  orders : ∀ id order, before.orders.get? id = some order → order.status = .credited →
    ∃ later, after.orders.get? id = some later ∧ later.status = .credited ∧
      later.walletId = order.walletId ∧ later.amountUsd = order.amountUsd ∧
      later.refundedAmountUsd + later.refundableAmountUsd =
        order.refundedAmountUsd + order.refundableAmountUsd

theorem Keeps.same (wallets : after.wallets = before.wallets) (orders : after.orders =
    before.orders) : Keeps before after where
  wallets := fun _ present => wallets ▸ present
  orders := fun _ order found credited => ⟨order, orders ▸ found, credited, rfl, rfl, rfl⟩

variable {refund : StoredAdminWalletRefund} {id : String}

theorem Accounted.kept (keeps : Keeps before after)
    (movements : after.movements id = before.movements id)
      (accounted : Accounted before id refund) : Accounted after id refund where
  explained := movements ▸ accounted.explained
  positive := accounted.positive
  owned := keeps.wallets _ accounted.owned
  paid := by
    intro orderId paid which
    obtain ⟨order, found, wallet, credited, amount, whole⟩ := accounted.paid orderId paid which
    obtain ⟨later, stays, status, owner, size, sum⟩ := keeps.orders orderId order found credited
    exact ⟨later, stays, owner.trans wallet, status, by omega, by omega⟩

theorem movements_nil (sound : Sound db) (fresh : db.refunds.get? id = none) :
    db.movements id = [] := by
  rw [movements, map_eq_nil_iff, filter_eq_nil_iff]
  intro row member linked
  exact sound.linked row member (by simpa [of_decide_eq_true linked] using fresh)

theorem accounted_insert (sound : Sound before)
    (refunds : after.refunds = before.refunds.insert id refund) (keeps : Keeps before after)
    (movements : ∀ other, other ≠ id → after.movements other = before.movements other)
    (written : Accounted after id refund) (other : String) (row : StoredAdminWalletRefund)
    (found : after.refunds.get? other = some row) : Accounted after other row := by
  rw [refunds, get?_insert] at found
  split_ifs at found with same
  · rw [same, ← some.inj found]
    exact written
  · exact (sound.accounted other row found).kept keeps (movements other same)

theorem linked_insert (sound : Sound before)
    (refunds : after.refunds = before.refunds.insert id refund)
    (rows : ∀ row ∈ after.transactions, row ∈ before.transactions ∨ row.linkId = id) :
    ∀ row ∈ after.transactions, after.refunds.get? row.linkId ≠ none := by
  intro row member
  rw [refunds, get?_insert]
  split_ifs with same
  · simp
  · exact sound.linked row ((rows row member).resolve_right same)

variable {wallet : WalletRow}

theorem sound_opened (sound : Sound before) (fresh : before.refunds.get? id = none)
    (status : refund.status = .pendingApproval) (positive : 0 < refund.amountUsd)
    (owner : before.wallets.get? refund.walletId = some wallet) :
    Sound { before with refunds := before.refunds.insert id refund } := by
  have unpaid : refund.isPaidOut = false := by simp [isPaidOut, status]
  constructor
  case accounted =>
    refine accounted_insert sound rfl (.same rfl rfl) (fun _ _ => rfl) ⟨?_, positive, ?_, ?_⟩
    · change refund.Explains (before.movements id)
      rw [movements_nil sound fresh, Explains, status]
    · simp [owner]
    · intro orderId paid
      rw [unpaid] at paid
      cases paid
  case linked => exact linked_insert sound rfl fun _ => .inl
  case totals =>
    intro walletId row found
    rw [paidOutOfWallet, paidOut_opened _ fresh unpaid]
    exact sound.totals walletId row found
  case orders =>
    intro orderId row found
    rw [paidOutOfOrder, paidOut_opened _ fresh unpaid]
    exact sound.orders orderId row found
  case covered => exact sound.covered

theorem explains_marked {refund later movements} (same : SameAccount refund later)
    (turn : Settles refund later) (explained : refund.Explains movements) : later.Explains movements := by
  rcases turn with ⟨processing, paid⟩ | ⟨waits, failed⟩
  · have once : movements = [refund.debit] := by simpa [Explains, processing] using explained
    rcases (by simpa [isPaidOut] using paid : later.status = .processing ∨ later.status =
      .succeeded)
      with status | status
    · simp [Explains, status, once, debit_same same]
    · simp [Explains, status, once, debit_same same]
  · have none : movements = [] := by
      rcases waits with waits | waits <;> simpa [Explains, waits] using explained
    simp [Explains, failed, none]

theorem isPaidOut_marked {refund later} (turn : Settles refund later) :
    later.isPaidOut = refund.isPaidOut := by
  rcases turn with ⟨processing, paid⟩ | ⟨waits | waits, failed⟩
  · rw [paid]
    simp [isPaidOut, processing]
  · simp [isPaidOut, waits, failed]
  · simp [isPaidOut, waits, failed]

theorem sound_marked {refund later notifications} (sound : Sound before)
    (found : before.refunds.get? id = some refund) (same : SameAccount refund later)
    (turn : Settles refund later) :
    Sound { before with
      refunds := before.refunds.insert id later, notifications := notifications } := by
  have accounted := sound.accounted id refund found
  have paid := isPaidOut_marked turn
  obtain ⟨wallet, order, amount⟩ := same
  constructor
  case accounted =>
    refine accounted_insert sound rfl (.same rfl rfl) (fun _ _ => rfl) ⟨?_, ?_, ?_, ?_⟩
    · exact explains_marked ⟨wallet, order, amount⟩ turn accounted.explained
    · exact amount ▸ accounted.positive
    · exact wallet ▸ accounted.owned
    · intro orderId
      rw [paid, order, wallet]
      exact accounted.paid orderId
  case linked => exact linked_insert sound rfl fun _ => .inl
  case totals =>
    intro walletId row present
    rw [paidOutOfWallet, paidOut_marked _ found (by rw [wallet]) amount paid]
    exact sound.totals walletId row present
  case orders =>
    intro orderId row present
    rw [paidOutOfOrder, paidOut_marked _ found (by rw [order]) amount paid]
    exact sound.orders orderId row present
  case covered => exact sound.covered

variable {delta : Int}

theorem get?_refundMore {orders later walletId}
    {which} (moves : OrderMoves orders later walletId delta which)
    (orderId : String) : later.get? orderId =
      (orders.get? orderId).map (refundMore (if which = some orderId then delta else 0)) := by
  cases which with
  | none =>
    rw [show later = orders from moves]
    cases orders.get? orderId <;> simp [refundMore]
  | some target =>
    obtain ⟨order, found, -, -, -, -, -, rfl⟩ := moves
    rw [get?_insert]
    by_cases same : orderId = target
    · simp [same, found]
    · cases orders.get? orderId <;> simp [refundMore, same, Ne.symm same]

theorem get?_takeOut {wallets : Table WalletRow} (delta : Int)
    (found : wallets.get? id = some wallet) (walletId : String) :
    (wallets.insert id (takeOut delta wallet)).get? walletId =
      (wallets.get? walletId).map (takeOut (if id = walletId then delta else 0)) := by
  rw [get?_insert]
  by_cases same : walletId = id
  · simp [same, found]
  · cases wallets.get? walletId <;> simp [takeOut, same, Ne.symm same]

theorem Keeps.moved {walletId : String} {which} (owner : before.wallets.get? walletId = some wallet)
    (wallets : after.wallets = before.wallets.insert walletId (takeOut delta wallet))
    (moves : OrderMoves before.orders after.orders walletId delta which) : Keeps before after where
  wallets := by
    intro id present
    rw [wallets, get?_takeOut delta owner]
    simpa using present
  orders := by
    intro id order found credited
    refine ⟨refundMore (if which = some id then delta else 0) order, ?_, credited, rfl, rfl, ?_⟩
    · rw [get?_refundMore moves, found, map_some]
    · simp [refundMore]

theorem explains_moved {refund later movements reason} (same : SameAccount refund later)
    (way : Way refund later reason delta) (explained : refund.Explains movements) :
    later.Explains (movements ++ [(refund.walletId, reason, -delta)]) := by
  cases way with
  | out waits next =>
    have none : movements = [] := by
      rcases waits with waits | waits <;> simpa [Explains, waits] using explained
    simp [Explains, next, none, debit, same.1, same.2.2]
  | back paid next =>
    have once : movements = [refund.debit] := by simpa [Explains, paid] using explained
    simp [Explains, next, once, debit_same same, credit, same.1, same.2.2]

theorem sound_moved {refund later row orders notifications} (sound : Sound before)
    (movement : MoneyMoves before id refund later wallet row delta orders) :
    Sound { before with
      wallets := before.wallets.insert refund.walletId (takeOut delta wallet)
      orders := orders
      refunds := before.refunds.insert id later
      transactions := before.transactions ++ [row]
      notifications := notifications } := by
  obtain ⟨found, same, way, owner, linked, booked, amount, preserved, order⟩ := movement
  have accounted := sound.accounted id refund found
  constructor
  case accounted =>
    refine accounted_insert sound rfl (.moved owner rfl order) ?_ ⟨?_, ?_, ?_, ?_⟩
    · intro other different
      exact (movements_append before row other).trans (by simp [linked, Ne.symm different])
    · have explained := explains_moved same way accounted.explained
      rw [← booked, ← amount] at explained
      exact (movements_append before row id).trans (by rw [if_pos linked]) ▸ explained
    · exact same.2.2 ▸ accounted.positive
    · rw [get?_takeOut delta owner, same.1, owner]
      simp
    · intro orderId paid which
      rw [same.2.1] at which
      rw [which] at order
      obtain ⟨row, present, wallet, credited, size, whole, -, rfl⟩ := order
      refine ⟨_, get?_insert_self _ _ _, wallet.trans same.1.symm, credited, size, ?_⟩
      simp only [refundMore]
      omega
  case linked =>
    refine linked_insert sound rfl fun entry member => ?_
    rcases mem_append.mp member with earlier | last
    · exact .inl earlier
    · exact .inr (mem_singleton.mp last ▸ linked)
  case totals =>
    intro walletId row present
    rw [get?_takeOut delta owner, map_eq_some_iff] at present
    obtain ⟨old, was, rfl⟩ := present
    have sum := paidOut_moved (fun refund => refund.walletId = walletId) found (by rw [same.1])
      same.2.2 accounted.positive way
    have total := sound.totals walletId old was
    simp only [paidOutOfWallet, takeOut, decide_eq_true_eq] at sum total ⊢
    omega
  case orders =>
    intro orderId row present
    rw [get?_refundMore order, map_eq_some_iff] at present
    obtain ⟨old, was, rfl⟩ := present
    have sum := paidOut_moved (fun refund => refund.paymentOrderId = some orderId) found
      (by rw [same.2.1]) same.2.2 accounted.positive way
    have total := sound.orders orderId old was
    have room : 0 ≤ old.refundableAmountUsd -
        if refund.paymentOrderId = some orderId then delta else 0 := by
      split_ifs with which
      · rw [which] at order
        obtain ⟨row, present, -, -, -, -, room, -⟩ := order
        rw [was] at present
        exact some.inj present ▸ room
      · omega
    simp only [paidOutOfOrder, refundMore, decide_eq_true_eq] at sum total ⊢
    exact ⟨by omega, by omega, by omega⟩
  case covered =>
    intro walletId row present
    rw [get?_takeOut delta owner, map_eq_some_iff] at present
    obtain ⟨old, was, rfl⟩ := present
    have covered := sound.covered walletId old was
    refine ⟨?_, covered.2⟩
    simp only [takeOut]
    split_ifs with same
    · obtain rfl : wallet = old := some.inj ((same ▸ owner).symm.trans was)
      subst same
      rcases preserved with preserved | grows
      · exact preserved
      · exact covered.1.trans (Int.toNat_le_toNat grows)
    · simpa using covered.1

theorem Change.sound (change : Change before after) (sound : Sound before) : Sound after := by
  cases change with
  | idle same => exact same ▸ sound
  | opened id refund wallet result fresh status positive owner =>
    exact result ▸ sound_opened sound fresh status positive owner
  | marked id refund later notifications result found same turn =>
    exact result ▸ sound_marked sound found same turn
  | moved id refund later wallet row delta orders notifications result movement =>
    exact result ▸ sound_moved sound movement

theorem paidOut_eq_zero {chosen}
    (nothing : ∀ id refund, db.refunds.get? id = some refund → chosen refund →
      refund.isPaidOut = false) : paidOut db.refunds chosen = 0 := by
  refine sum_eq_zero fun amount member => ?_
  obtain ⟨refund, inside, rfl⟩ := mem_map.mp member
  obtain ⟨id, found⟩ := (db.refunds.mem_values refund).mp inside
  rw [share]
  by_cases counts : chosen refund
  · simp [nothing id refund found counts]
  · simp [counts]

theorem Elsewhere.keeps (other : Elsewhere before after) : Keeps before after where
  wallets := by
    intro id present
    obtain ⟨wallet, found⟩ := ne_none_iff_exists'.mp present
    obtain ⟨later, stays, -⟩ := other.wallets id wallet found
    simp [stays]
  orders := by
    intro id order found credited
    exact ⟨order, other.credited id order found credited, credited, rfl, rfl, rfl⟩

theorem Elsewhere.sound (other : Elsewhere before after) (sound : Sound before) : Sound after := by
  have movements : ∀ id, after.movements id = before.movements id := by
    intro id
    rw [Database.movements, Database.movements, other.transactions]
  constructor
  case accounted =>
    intro id refund found
    rw [other.refunds] at found
    exact (sound.accounted id refund found).kept other.keeps (movements id)
  case linked =>
    rw [other.refunds, other.transactions]
    exact sound.linked
  case totals =>
    intro id wallet found
    rw [paidOutOfWallet, other.refunds]
    cases was : before.wallets.get? id with
    | some old =>
      obtain ⟨later, stays, same⟩ := other.wallets id old was
      rw [stays] at found
      rw [← some.inj found, same]
      exact sound.totals id old was
    | none =>
      -- no refund belongs to a wallet that did not exist
      have nothing : paidOut before.refunds (fun refund => refund.walletId = id) = 0 := by
        refine paidOut_eq_zero fun refundId refund inside owner => ?_
        rw [← of_decide_eq_true owner] at was
        exact absurd was (sound.accounted refundId refund inside).owned
      rw [nothing]
      exact other.newWallets id wallet was found
  case orders =>
    intro id order found
    rw [paidOutOfOrder, other.refunds]
    rcases other.payments id order found with was | sane
    · exact sound.orders id order was
    · by_cases was : before.orders.get? id = some order
      · exact sound.orders id order was
      · -- nothing was paid out of an order that changed, for then it was credited
        have nothing : paidOut before.refunds (fun refund => refund.paymentOrderId = some id) =
          0 := by
          refine paidOut_eq_zero fun refundId refund inside which => ?_
          rw [← Bool.not_eq_true]
          intro paid
          obtain ⟨old, present, -, credited, -⟩ := (sound.accounted refundId refund inside).paid id
            paid (of_decide_eq_true which)
          have stays := other.credited id old present credited
          rw [found] at stays
          exact was (stays ▸ present)
        rw [nothing]
        exact sane
  case covered => exact other.covered

theorem Step.sound (step : Step before after) (sound : Sound before) : Sound after := by
  cases step with
  | refund call result => exact result ▸ (call_change before call).sound sound
  | elsewhere other => exact other.sound sound

end Database

end Aeris.Wallet
