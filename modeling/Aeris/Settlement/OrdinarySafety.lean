import Aeris.Settlement.FundsSafety
import Aeris.Settlement.Ordinary

/-! What an ordinary settlement does to the wallet. The bill is charged in full unless the
wallet is in debt already: the debit starts from a balance of zero then, and the old debt is
forgotten. And the overdraft is taken from units that reservations hold. -/
namespace Aeris.Settlement

open Checked Int OrderedTable Except

/-! ## Signed units -/

theorem signedFundsUsd_eq (units : Int) :
    signedFundsUsd units = .finite ((units : ℚ) / requestFundsUnitsPerUsd) := by
  unfold signedFundsUsd
  split_ifs with sign
  · obtain ⟨amount, rfl⟩ := eq_ofNat_of_zero_le sign
    simp [requestFundsUsd]
  · obtain ⟨amount, same⟩ := eq_ofNat_of_zero_le (a := -units) (by omega)
    have negated : units = -(amount : ℤ) := by omega
    subst negated
    simp [requestFundsUsd, Usd.neg, neg_div]

theorem signedFundsUsd_natCast (units : Nat) : signedFundsUsd units = requestFundsUsd units := by
  rw [signedFundsUsd_eq, requestFundsUsd, cast_natCast]

theorem signedFundsUsd_injective : Function.Injective signedFundsUsd := by
  intro left right same
  rw [signedFundsUsd_eq, signedFundsUsd_eq, Usd.finite.injEq,
    div_left_inj' (by norm_num [requestFundsUnitsPerUsd])] at same
  exact_mod_cast same

theorem wholeUnits_signed (units : Int) : (signedFundsUsd units).wholeUnits = units.toNat := by
  rw [signedFundsUsd_eq, Usd.wholeUnits, div_mul_cancel₀ _ (by norm_num [requestFundsUnitsPerUsd]),
    floor_intCast]

theorem maxZero_whole (usd : Usd) (units : Nat)
    (read : requestFundsAvailableUnits usd.maxZero = .ok units) : usd.wholeUnits = units := by
  by_cases negative : usd.isNegative
  · rw [← requestFundsAvailableUnits_whole read]
    cases usd with
    | finite value =>
      have below : value < 0 := by simpa [Usd.isNegative] using negative
      have floor : ⌊value * requestFundsUnitsPerUsd⌋ ≤ 0 := by
        have product : value * requestFundsUnitsPerUsd ≤ 0 :=
          mul_nonpos_of_nonpos_of_nonneg below.le (by positivity)
        exact_mod_cast (floor_le _).trans product
      simp [Usd.maxZero, Usd.wholeUnits, max_eq_right below.le, floor]
    | infinite sign =>
      cases sign with
      | false => cases negative
      | true => simp [Usd.maxZero, Usd.wholeUnits]
    | nan => cases negative
  · exact SettlementRepository.maxZero_units (by simpa using negative) read

/-! ## The debit -/

/-- The bill as it is split over a wallet with these holds. -/
def billOn (held : Bucket → Nat) (wallet : StoredWalletSnapshot) (required : Nat) : BillSplit :=
  splitBill required (wallet.owned .recharge - held .recharge) (wallet.owned .gift - held .gift)

def rechargeLeft (wallet : StoredWalletSnapshot) (split : BillSplit) : Usd :=
  if split.recharge = 0 ∧ split.overdraft = 0 then wallet.balance
  else signedFundsUsd (wallet.owned .recharge - split.recharge - split.overdraft)

def giftLeft (wallet : StoredWalletSnapshot) (split : BillSplit) : Usd :=
  if split.gift = 0 then wallet.giftBalance
  else requestFundsUsd (wallet.owned .gift - split.gift)

/-- The two balances and the bill can be read as units. -/
structure Readable (wallet : StoredWalletSnapshot) (bill : Usd) (required : Nat) : Prop where
  recharge : requestFundsAvailableUnits wallet.balance.maxZero = .ok (wallet.owned .recharge)
  gift : requestFundsAvailableUnits wallet.giftBalance = .ok (wallet.owned .gift)
  required : requestFundsAuthorizedUnits bill = .ok required

section Debit

variable {held : Bucket → Nat} {wallet : StoredWalletSnapshot} {bill : Usd} {required : Nat}

theorem rechargeAfter_eq (readable : Readable wallet bill required) (split : BillSplit) :
    rechargeAfter wallet.balance split = .ok (rechargeLeft wallet split) := by
  unfold rechargeAfter rechargeLeft
  split_ifs
  · rfl
  · rw [readable.recharge]
    rfl

theorem giftAfter_eq (readable : Readable wallet bill required) (split : BillSplit) :
    giftAfter wallet.giftBalance split = .ok (giftLeft wallet split) := by
  unfold giftAfter giftLeft
  split_ifs
  · rfl
  · rw [readable.gift]
    rfl

theorem debitFiniteWallet_eq (held : Bucket → Nat) (readable : Readable wallet bill required) :
    debitFiniteWallet held wallet bill = .ok (rechargeLeft wallet (billOn held wallet required),
      giftLeft wallet (billOn held wallet required)) := by
  simp only [debitFiniteWallet, readable.recharge, readable.gift, readable.required,
    bind, Except.bind]
  rw [rechargeAfter_eq readable, giftAfter_eq readable]
  rfl

theorem debitFiniteWallet_readable {after}
    (success : debitFiniteWallet held wallet bill = .ok after) :
    ∃ required, Readable wallet bill required := by
  obtain ⟨recharge, first, success⟩ := bind_ok success
  obtain ⟨gift, second, success⟩ := bind_ok success
  obtain ⟨required, third, -⟩ := bind_ok success
  have owned : wallet.owned .recharge = recharge := maxZero_whole _ _ first
  have given : wallet.owned .gift = gift := requestFundsAvailableUnits_whole second
  exact ⟨required, ⟨owned ▸ first, given ▸ second, third⟩⟩

theorem left_units (wallet : StoredWalletSnapshot) (split : BillSplit) :
    (rechargeLeft wallet split).wholeUnits =
      wallet.owned .recharge - split.recharge - split.overdraft ∧
      (giftLeft wallet split).wholeUnits = wallet.owned .gift - split.gift := by
  unfold rechargeLeft giftLeft
  constructor
  · split_ifs with nothing
    · rw [nothing.1, nothing.2]
      rfl
    · rw [wholeUnits_signed]
      omega
  · split_ifs with nothing
    · rw [nothing]
      rfl
    · rw [wholeUnits_requestFundsUsd]

end Debit

/-! ## The wallet's values -/

def Usd.IsAmount (usd : Usd) : Prop := ∃ value : ℚ, 0 ≤ value ∧ usd = .finite value

theorem Usd.isAmount_iff (usd : Usd) : usd.IsAmount ↔ usd.isFinite ∧ usd.isNegative = false := by
  cases usd <;> simp [Usd.IsAmount, Usd.isFinite, Usd.isNegative]

theorem Usd.IsAmount.add {left right : Usd} (first : left.IsAmount) (second : right.IsAmount) :
    (left + right).IsAmount := by
  obtain ⟨value, nonnegative, rfl⟩ := first
  obtain ⟨other, further, rfl⟩ := second
  exact ⟨value + other, add_nonneg nonnegative further, rfl⟩

theorem isAmount_zero : Usd.zero.IsAmount := ⟨0, le_refl 0, rfl⟩

theorem isAmount_units (units : Nat) : (requestFundsUsd units).IsAmount :=
  ⟨_, by positivity, rfl⟩

theorem validateWalletSettlementValues_ok_iff {recharge gift consumed additional} :
    validateWalletSettlementValues recharge gift consumed additional = .ok () ↔
      recharge.isFinite ∧ gift.IsAmount ∧ consumed.IsAmount ∧ additional.IsAmount := by
  simp only [Usd.isAmount_iff]
  unfold validateWalletSettlementValues
  cases recharge <;> cases gift <;> cases consumed <;> cases additional <;>
    simp [Usd.isFinite, HAdd.hAdd, Add.add, Usd.add]

section Wallet

variable {held : Bucket → Nat} {wallet : StoredWalletSnapshot} {bill : Usd} {required : Nat}

theorem left_consistent (split : BillSplit)
    (before : validateWalletSettlementValues wallet.balance wallet.giftBalance wallet.totalConsumed
      bill = .ok ()) :
    validateWalletSettlementValues (rechargeLeft wallet split) (giftLeft wallet split)
      (wallet.totalConsumed + bill) .zero = .ok () := by
  rw [validateWalletSettlementValues_ok_iff] at before ⊢
  obtain ⟨finite, given, consumed, additional⟩ := before
  refine ⟨?_, ?_, consumed.add additional, isAmount_zero⟩
  · unfold rechargeLeft
    split_ifs
    · exact finite
    · rw [signedFundsUsd_eq]
      rfl
  · unfold giftLeft
    split_ifs
    · exact given
    · exact isAmount_units _

def charged (held : Bucket → Nat) (wallet : StoredWalletSnapshot) (bill : Usd) (required : Nat) :
    StoredWalletSnapshot :=
  { wallet with
    balance := rechargeLeft wallet (billOn held wallet required)
    giftBalance := giftLeft wallet (billOn held wallet required)
    totalConsumed := wallet.totalConsumed + bill }

theorem chargeOrdinary_eq (held : Bucket → Nat) (readable : Readable wallet bill required)
    (finite : eqIgnoreAsciiCase wallet.limitMode "unlimited" = false)
    (consistent : validateWalletSettlementValues wallet.balance wallet.giftBalance
      wallet.totalConsumed bill = .ok ()) :
    chargeOrdinary held wallet bill = .ok (charged held wallet bill required) := by
  simp only [chargeOrdinary, finite, Bool.false_eq_true, if_false,
    debitFiniteWallet_eq held readable, bind, Except.bind, left_consistent _ consistent]
  rfl

variable {after : StoredWalletSnapshot}

theorem chargeOrdinary_unlimited (unlimited : eqIgnoreAsciiCase wallet.limitMode "unlimited" = true)
    (success : chargeOrdinary held wallet bill = .ok after) :
    after.balance = wallet.balance ∧ after.giftBalance = wallet.giftBalance := by
  simp only [chargeOrdinary, unlimited, if_true] at success
  have same := check_ok success
  cases same
  exact ⟨rfl, rfl⟩

theorem chargeOrdinary_id
    (success : chargeOrdinary held wallet bill = .ok after) : after.id = wallet.id := by
  unfold chargeOrdinary at success
  split_ifs at success
  · have same := check_ok success
    cases same
    rfl
  · obtain ⟨balances, -, success⟩ := bind_ok success
    have same := check_ok success
    cases same
    rfl

theorem chargeOrdinary_readable (finite : eqIgnoreAsciiCase wallet.limitMode "unlimited" = false)
    (success : chargeOrdinary held wallet bill = .ok after) :
    ∃ required, Readable wallet bill required := by
  simp only [chargeOrdinary, finite, Bool.false_eq_true, if_false] at success
  obtain ⟨balances, debited, -⟩ := bind_ok success
  exact debitFiniteWallet_readable debited

end Wallet

namespace SettlementRepository

variable {repo next : SettlementRepository} {input : UsageSettlementInput}

/-- The holds on a wallet, one balance at a time. -/
def holdsOf (repo : SettlementRepository) (walletId : String) (bucket : Bucket) : Nat :=
  heldWalletUnits repo.funds bucket walletId

/-- The usage is settled now, with this record. -/
structure Settles (repo : SettlementRepository) (input : UsageSettlementInput)
    (provider : Option (String × Usd)) (wallets : Table StoredWalletSnapshot)
    (settlement : StoredUsageSettlement) : Prop where
  valid : input.validate = .ok ()
  ordinary : repo.usage.any (fun usage => usage.isAttemptFundsRequest input.requestId) = false
  first : repo.settlements.get? input.requestId = none
  pending : input.billingStatus = "pending"
  provider : repo.providerMonthlyAfter input = .ok provider
  unreserved : repo.reservedFor input.requestId = false
  onWallet : repo.settleOnWallet input = .ok (wallets, settlement)

section Call

variable {provider : Option (String × Usd)} {wallets : Table StoredWalletSnapshot}
  {settlement : StoredUsageSettlement}

theorem Settles.run (settles : Settles repo input provider wallets settlement) :
    settleUsageObserved input repo =
      (.ok (repo.storeSettlement input provider wallets settlement).1,
        (repo.storeSettlement input provider wallets settlement).2) := by
  simp only [settleUsageObserved, atomically, settles.valid, settles.ordinary, settles.first,
    settles.pending, settlePending, settles.provider, settles.unreserved, settles.onWallet, bind,
    Except.bind, Bool.false_eq_true, if_false, ne_eq, not_true_eq_false, pure, Except.pure]

theorem settleUsageObserved_cases (repo : SettlementRepository) (input : UsageSettlementInput) :
    (∃ provider wallets settlement, Settles repo input provider wallets settlement) ∨
      ((settleUsageObserved input repo).2 = repo ∧ ∀ outcome,
        (settleUsageObserved input repo).1 = .ok outcome → outcome.newlyFinalized = false) := by
  rcases atomically_run _ repo with ⟨failure, run⟩ | ⟨outcome, next, success, run⟩
  · refine .inr ⟨congrArg Prod.snd run, fun outcome ok => ?_⟩
    rw [settleUsageObserved, run] at ok
    cases ok
  · obtain ⟨_, valid, success⟩ := bind_ok success
    obtain ⟨ordinary, success⟩ := refuse_ok success
    cases first : repo.settlements.get? input.requestId with
    | some existing =>
      simp only [first] at success
      obtain ⟨rfl, rfl⟩ := Prod.mk.inj (ok.inj success)
      refine .inr ⟨congrArg Prod.snd run, fun other ok => ?_⟩
      rw [settleUsageObserved, run] at ok
      cases ok
      rfl
    | none =>
      simp only [first] at success
      split_ifs at success with pending
      · obtain ⟨rfl, rfl⟩ := Prod.mk.inj (ok.inj success)
        refine .inr ⟨congrArg Prod.snd run, fun other ok => ?_⟩
        rw [settleUsageObserved, run] at ok
        cases ok
        rfl
      · obtain ⟨provider, counted, success⟩ := bind_ok success
        obtain ⟨unreserved, success⟩ := refuse_ok success
        obtain ⟨⟨wallets, settlement⟩, onWallet, -⟩ := bind_ok success
        exact .inl ⟨provider, wallets, settlement, valid, by simpa using ordinary, first,
          not_not.mp pending, counted, by simpa using unreserved, onWallet⟩

end Call

/-- The usage is settled by a charge on this finite wallet. -/
structure Charges (repo : SettlementRepository) (input : UsageSettlementInput) (id : String)
    (wallet : StoredWalletSnapshot) (required : Nat) : Prop where
  valid : input.validate = .ok ()
  ordinary : repo.usage.any (fun usage => usage.isAttemptFundsRequest input.requestId) = false
  first : repo.settlements.get? input.requestId = none
  pending : input.billingStatus = "pending"
  billable : settlementBillingStatusForUsageStatus input.status = "settled"
  provider : ∃ provider, repo.providerMonthlyAfter input = .ok provider
  unreserved : repo.reservedFor input.requestId = false
  chosen : settlementWalletId repo.wallets input = some id
  stored : repo.wallets.get? id = some wallet
  consistent : validateWalletSettlementValues wallet.balance wallet.giftBalance
    wallet.totalConsumed (settlementBillableCostUsd input) = .ok ()
  finite : eqIgnoreAsciiCase wallet.limitMode "unlimited" = false
  readable : Readable wallet (settlementBillableCostUsd input) required

def chargedWallet (repo : SettlementRepository) (input : UsageSettlementInput)
    (wallet : StoredWalletSnapshot) (required : Nat) : StoredWalletSnapshot :=
  charged (repo.holdsOf wallet.id) wallet (settlementBillableCostUsd input) required

section Charge

variable {id : String} {wallet : StoredWalletSnapshot} {required : Nat}

theorem Charges.settles (charges : Charges repo input id wallet required) :
    ∃ provider settlement, Settles repo input provider
      (repo.wallets.insert id (repo.chargedWallet input wallet required)) settlement := by
  obtain ⟨provider, counted⟩ := charges.provider
  have charge := chargeOrdinary_eq (repo.holdsOf wallet.id) charges.readable charges.finite
    charges.consistent
  refine ⟨provider, { (settlementRecord input "settled").withBalances wallet
      (repo.chargedWallet input wallet required) with walletId := some wallet.id }, charges.valid,
    charges.ordinary, charges.first, charges.pending, counted, charges.unreserved, ?_⟩
  change chargeOrdinary (fun bucket => heldWalletUnits repo.funds bucket wallet.id) _ _ =
    _ at charge
  simp only [settleOnWallet, settleWallet, charges.chosen, charges.stored, charges.billable,
    if_true, charges.consistent, bind, Except.bind, charge]
  rfl

theorem Charges.run (charges : Charges repo input id wallet required) :
    (settleUsageObserved input repo).2.funds = repo.funds ∧
      (settleUsageObserved input repo).2.wallets =
        repo.wallets.insert id (repo.chargedWallet input wallet required) := by
  obtain ⟨provider, settlement, settles⟩ := charges.settles
  rw [settles.run]
  exact ⟨rfl, rfl⟩

inductive OnWallet (repo : SettlementRepository) (input : UsageSettlementInput)
    (wallets : Table StoredWalletSnapshot) (settlement : StoredUsageSettlement) : Prop where
  | without (none : settlement.walletId = none) (same : wallets = repo.wallets)
  | void (id : String) (wallet : StoredWalletSnapshot)
      (stored : repo.wallets.get? id = some wallet)
      (status : settlement.billingStatus ≠ "settled")
      (written : wallets = repo.wallets.insert id wallet)
  | billed (id : String) (wallet after : StoredWalletSnapshot)
      (chosen : settlementWalletId repo.wallets input = some id)
      (stored : repo.wallets.get? id = some wallet)
      (named : settlement.walletId = some wallet.id)
      (billable : settlementBillingStatusForUsageStatus input.status = "settled")
      (consistent : validateWalletSettlementValues wallet.balance wallet.giftBalance
        wallet.totalConsumed (settlementBillableCostUsd input) = .ok ())
      (charge : chargeOrdinary (repo.holdsOf wallet.id) wallet (settlementBillableCostUsd input) =
        .ok after)
      (written : wallets = repo.wallets.insert id after)

variable {wallets : Table StoredWalletSnapshot}

theorem settleOnWallet_cases {settlement}
    (success : repo.settleOnWallet input = .ok (wallets, settlement)) :
    OnWallet repo input wallets settlement := by
  unfold settleOnWallet at success
  cases chosen : settlementWalletId repo.wallets input with
  | none =>
    simp only [chosen] at success
    cases success
    exact .without rfl rfl
  | some id =>
    simp only [chosen] at success
    cases stored : repo.wallets.get? id with
    | none =>
      simp only [stored] at success
      cases success
      exact .without rfl rfl
    | some wallet =>
      simp only [stored] at success
      by_cases billable : settlementBillingStatusForUsageStatus input.status = "settled"
      · obtain ⟨after, settled, success⟩ := bind_ok success
        simp only [settleWallet, billable, if_true] at settled
        obtain ⟨_, consistent, charge⟩ := bind_ok settled
        cases success
        exact .billed id wallet after chosen stored rfl billable consistent charge rfl
      · obtain ⟨after, settled, success⟩ := bind_ok success
        simp only [settleWallet, billable, if_false] at settled
        obtain ⟨_, -, same⟩ := bind_ok settled
        cases same
        cases success
        exact .void id wallet stored billable rfl

theorem OnWallet.charges {provider settlement after}
    (settles : Settles repo input provider wallets settlement)
    (chosen : settlementWalletId repo.wallets input = some id)
    (stored : repo.wallets.get? id = some wallet)
    (billable : settlementBillingStatusForUsageStatus input.status = "settled")
    (consistent : validateWalletSettlementValues wallet.balance wallet.giftBalance
      wallet.totalConsumed (settlementBillableCostUsd input) = .ok ())
    (finite : eqIgnoreAsciiCase wallet.limitMode "unlimited" = false)
    (charge : chargeOrdinary (repo.holdsOf wallet.id) wallet (settlementBillableCostUsd input) =
      .ok after) : ∃ required, Charges repo input id wallet required := by
  obtain ⟨required, readable⟩ := chargeOrdinary_readable finite charge
  exact ⟨required, settles.valid, settles.ordinary, settles.first, settles.pending, billable,
    ⟨provider, settles.provider⟩, settles.unreserved, chosen, stored, consistent, finite, readable⟩

def SameUnits (wallets others : Table StoredWalletSnapshot) : Prop :=
  ∀ bucket id, ownedUnits others bucket id = ownedUnits wallets bucket id

theorem sameUnits_insert {after} (stored : wallets.get? id = some wallet)
      (same : ∀ bucket, after.owned bucket = wallet.owned bucket) :
    SameUnits wallets (wallets.insert id after) := by
  intro bucket other
  have moved := ownedUnits_insert wallets wallet after id other bucket stored 0 (same bucket)
  simpa using moved

theorem settleUsageObserved_units (repo : SettlementRepository) (input : UsageSettlementInput) :
    (∃ id wallet required, Charges repo input id wallet required) ∨
      ((settleUsageObserved input repo).2.funds = repo.funds ∧
        SameUnits repo.wallets (settleUsageObserved input repo).2.wallets) := by
  rcases settleUsageObserved_cases repo input with ⟨provider, wallets, settlement, settles⟩ |
    ⟨same, -⟩
  · rw [settles.run]
    cases settleOnWallet_cases settles.onWallet with
    | without _ same => exact .inr ⟨rfl, fun bucket id => by rw [storeSettlement, same]⟩
    | void id wallet stored _ written =>
      refine .inr ⟨rfl, ?_⟩
      rw [storeSettlement, written]
      exact sameUnits_insert stored fun _ => rfl
    | billed id wallet after chosen stored _ billable consistent charge written =>
      cases limit : eqIgnoreAsciiCase wallet.limitMode "unlimited" with
      | false =>
        obtain ⟨required, charges⟩ :=
          OnWallet.charges settles chosen stored billable consistent limit charge
        exact .inl ⟨id, wallet, required, charges⟩
      | true =>
        obtain ⟨balance, gift⟩ := chargeOrdinary_unlimited limit charge
        refine .inr ⟨rfl, ?_⟩
        rw [storeSettlement, written]
        refine sameUnits_insert stored fun bucket => ?_
        cases bucket <;> simp only [StoredWalletSnapshot.owned, balance, gift]
  · exact .inr (by rw [same]; exact ⟨rfl, fun _ _ => rfl⟩)

theorem settleUsageObserved_sound (input : UsageSettlementInput) (sound : repo.FundsSound) :
    (settleUsageObserved input repo).2.FundsSound := by
  rcases settleUsageObserved_cases repo input with ⟨provider, wallets, settlement, settles⟩ |
    ⟨same, -⟩
  · rw [settles.run]
    refine ⟨?_, sound.sound⟩
    have keyed : ∀ id wallet after, repo.wallets.get? id = some wallet → after.id = wallet.id →
        ∀ other found, (repo.wallets.insert id after).get? other = some found → found.id =
          other := by
      intro id wallet after stored same
      exact forall_insert (same.trans (sound.keyed id wallet stored)) sound.keyed
    cases settleOnWallet_cases settles.onWallet with
    | without _ same => rw [storeSettlement, same]; exact sound.keyed
    | void id wallet stored _ written =>
      rw [storeSettlement, written]
      exact keyed id wallet wallet stored rfl
    | billed id wallet after _ stored _ _ _ charge written =>
      rw [storeSettlement, written]
      exact keyed id wallet after stored (chargeOrdinary_id charge)
  · rw [same]
    exact sound

/-! ## Reserved funds -/

/-- Every balance has the units that reservations hold in it. -/
def HoldsCovered (repo : SettlementRepository) : Prop :=
  ∀ bucket id, heldWalletUnits repo.funds bucket id ≤ ownedUnits repo.wallets bucket id

/-- If the usage is charged to a finite wallet, no recharged unit is held there, or the bill is
at most what is free in the two balances. -/
def Affordable (repo : SettlementRepository) (input : UsageSettlementInput) : Prop :=
  ∀ id wallet required, Charges repo input id wallet required →
    repo.holdsOf id .recharge = 0 ∨
      required ≤ (wallet.owned .recharge - repo.holdsOf id .recharge) +
        (wallet.owned .gift - repo.holdsOf id .gift)

theorem Charges.covered_split (charges : Charges repo input id wallet required)
    (own : wallet.id = id) (covered : repo.HoldsCovered) :
    (settleUsageObserved input repo).2.HoldsCovered ↔
      let split := billOn (repo.holdsOf id) wallet required
      repo.holdsOf id .recharge ≤ wallet.owned .recharge - split.recharge - split.overdraft ∧
        repo.holdsOf id .gift ≤ wallet.owned .gift - split.gift := by
  obtain ⟨funds, wallets⟩ := charges.run
  obtain ⟨recharge, gift⟩ := left_units wallet (billOn (repo.holdsOf id) wallet required)
  have afterId : ∀ bucket, ownedUnits (settleUsageObserved input repo).2.wallets bucket id =
      (repo.chargedWallet input wallet required).owned bucket := by
    intro bucket
    rw [wallets, ownedUnits, get?_insert_self]
    rfl
  constructor
  · intro after
    have first := after .recharge id
    have second := after .gift id
    rw [funds, afterId] at first second
    subst own
    exact ⟨first.trans recharge.le, second.trans gift.le⟩
  · rintro ⟨first, second⟩ bucket other
    rw [funds]
    by_cases here : other = id
    · subst here
      subst own
      rw [afterId]
      cases bucket with
      | recharge => exact first.trans recharge.ge
      | gift => exact second.trans gift.ge
    · rw [wallets, ownedUnits, get?_insert_of_ne _ _ here]
      exact covered bucket other

theorem Charges.covered_iff (charges : Charges repo input id wallet required)
    (own : wallet.id = id) (covered : repo.HoldsCovered) :
    (settleUsageObserved input repo).2.HoldsCovered ↔ repo.holdsOf id .recharge = 0 ∨
        required ≤ (wallet.owned .recharge - repo.holdsOf id .recharge) +
          (wallet.owned .gift - repo.holdsOf id .gift) := by
  rw [charges.covered_split own covered]
  have first := covered .recharge id
  have second := covered .gift id
  rw [ownedUnits, charges.stored] at first second
  change repo.holdsOf id .recharge ≤ wallet.owned .recharge at first
  change repo.holdsOf id .gift ≤ wallet.owned .gift at second
  simp only [billOn, splitBill]
  omega

end Charge

/-- An ordinary settlement leaves every reservation its units exactly when it charges no
finite wallet, or one without recharged units on hold, or a bill that the free units pay. Then
no settlement of a reservation finds its funds missing afterwards. -/
theorem ordinary_settlement_keeps_holds_iff (repo : SettlementRepository)
    (input : UsageSettlementInput)
    (keyed : ∀ id wallet, repo.wallets.get? id = some wallet → wallet.id = id)
    (covered : repo.HoldsCovered) :
    ((settleUsageObserved input repo).2.HoldsCovered ↔ repo.Affordable input) ∧
      (repo.FundsSound → repo.Affordable input → ∀ finalize failure,
        (finalizeRequestFunds finalize (settleUsageObserved input repo).2).1 = .error failure →
          failure ∉ coverageFailures) := by
  have iff : (settleUsageObserved input repo).2.HoldsCovered ↔ repo.Affordable input := by
    constructor
    · intro after id wallet required charges
      exact (charges.covered_iff (keyed id wallet charges.stored) covered).mp after
    · intro affordable
      rcases settleUsageObserved_units repo input with ⟨id, wallet, required, charges⟩ |
        ⟨funds, same⟩
      · exact (charges.covered_iff (keyed id wallet charges.stored) covered).mpr
          (affordable id wallet required charges)
      · intro bucket id
        rw [funds, same]
        exact covered bucket id
  refine ⟨iff, fun sound affordable finalize failure failed => ?_⟩
  have safe : (settleUsageObserved input repo).2.FundsSafe :=
    ⟨settleUsageObserved_sound input sound, fun account => iff.mpr affordable account.1 account.2⟩
  exact finalizeRequestFunds_error safe failed

/-- All of the 5 USD recharged and half of the 1 USD given are on hold. -/
def reservedRepository : SettlementRepository :=
  sampleRepository.run [.reserveRequestFunds sampleQuote,
    .markRequestFundsDispatched sampleIdentity]

theorem reservedRepository_safe : reservedRepository.FundsSafe :=
  run_keeps _ (fun operation _ before => apply_fundsSafe before operation) sampleRepository
    (initial_fundsSafe rfl sample_keyed)

/-- Another request of the same user, with nothing reserved. -/
def unreservedUsage (cost : ℚ) : UsageSettlementInput where
  requestId := "other"
  userId := some "user"
  apiKeyId := none
  apiKeyIsStandalone := false
  providerId := none
  status := "completed"
  billingStatus := "pending"
  totalCostUsd := .finite cost
  actualTotalCostUsd := .finite cost
  billingCostUsd := none
  finalizedAtUnixSecs := some 30

theorem small_bill_keeps_holds :
    (settleUsageObserved (unreservedUsage (1 / 4)) reservedRepository).2.HoldsCovered := by
  have safe := reservedRepository_safe
  refine (ordinary_settlement_keeps_holds_iff reservedRepository (unreservedUsage (1 / 4))
    safe.sound.keyed fun bucket id => safe.covered (bucket, id)).1.mpr ?_
  intro id wallet required charges
  obtain rfl : "wallet" = id := Option.some.inj ((by decide +kernel : some "wallet" =
    settlementWalletId reservedRepository.wallets (unreservedUsage (1 / 4))).trans charges.chosen)
  obtain rfl : sampleWallet = wallet := Option.some.inj ((by decide +kernel :
    some sampleWallet = reservedRepository.wallets.get? "wallet").trans charges.stored)
  obtain rfl : 25000000 = required := ok.inj ((by decide +kernel : Except.ok 25000000 =
    requestFundsAuthorizedUnits (settlementBillableCostUsd (unreservedUsage (1 / 4)))).trans
      charges.readable.required)
  exact .inr (by decide +kernel)

/-- A bill of 1 USD takes half a dollar of what is on hold, and the reservation cannot be
settled any more. -/
theorem large_bill_spends_hold : reservedRepository.FundsSafe ∧
      ¬ (settleUsageObserved (unreservedUsage 1) reservedRepository).2.HoldsCovered ∧
      (finalizeRequestFunds
        { sampleFinalize with usage := { sampleFinalize.usage with
            totalCostUsd := .finite (11 / 2), actualTotalCostUsd := .finite (11 / 2) } }
        (settleUsageObserved (unreservedUsage 1) reservedRepository).2).1 =
          .error (.invalidInput "reserved funds missing") := by
  refine ⟨reservedRepository_safe, fun covered => ?_, by decide +kernel⟩
  have missing : ¬ heldWalletUnits
      (settleUsageObserved (unreservedUsage 1) reservedRepository).2.funds .recharge "wallet" ≤
        ownedUnits (settleUsageObserved (unreservedUsage 1) reservedRepository).2.wallets .recharge
          "wallet" := by
    decide +kernel
  exact missing (covered .recharge "wallet")

end SettlementRepository

end Aeris.Settlement
