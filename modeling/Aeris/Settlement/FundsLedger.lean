import Aeris.Base.Escrow
import Aeris.Settlement.Funding

/-! The funds of requests as money in escrow. An account is one balance of one
wallet; a reservation holds what its allocations draw on the account until it is
settled, and has charged what was collected from them. -/
namespace Aeris.Settlement

open List OrderedTable Nat
open RequestFundingSource (drawsOn isFrom)
open StoredRequestFundsReservation (heldUnits unsettledHold)

/-! ## Allocations -/

/-- The part of the collected units that falls on the chosen allocations, when
the units are taken from all the allocations in their order. -/
def collectedAllocations (chosen : RequestFundingSource → Bool) :
    Nat → List RequestFundsAllocation → Nat
  | _, [] => 0
  | collected, allocation :: rest =>
    let used := min collected allocation.reservedCostUnits
    (if chosen allocation.source then used else 0) +
      collectedAllocations chosen (collected - used) rest

def allocatedUnits (allocations : List RequestFundsAllocation) : Nat :=
  (allocations.map (fun allocation => allocation.reservedCostUnits)).sum

theorem collected_add_held (chosen : RequestFundingSource → Bool)
    (allocations : List RequestFundsAllocation) : ∀ collected,
    collectedAllocations chosen collected allocations +
      heldAllocations chosen collected allocations = heldAllocations chosen 0 allocations := by
  induction allocations with
  | nil => intro collected; rfl
  | cons allocation rest ih =>
    intro collected
    have later := ih (collected - min collected allocation.reservedCostUnits)
    simp only [collectedAllocations, heldAllocations, Nat.zero_min, Nat.sub_zero]
    split_ifs <;> omega

theorem collectedAllocations_le (chosen : RequestFundingSource → Bool)
    (allocations : List RequestFundsAllocation) (collected : Nat) :
    collectedAllocations chosen collected allocations ≤ heldAllocations chosen 0 allocations := by
  have split := collected_add_held chosen allocations collected
  omega

variable {allocations : List RequestFundsAllocation}

theorem collectedAllocations_congr {first second}
    (same : ∀ allocation ∈ allocations, first allocation.source = second allocation.source) :
    ∀ collected, collectedAllocations first collected allocations =
      collectedAllocations second collected allocations := by
  induction allocations with
  | nil => intro collected; rfl
  | cons allocation rest ih =>
    intro collected
    have later := ih (fun other member => same other (mem_cons_of_mem _ member))
      (collected - min collected allocation.reservedCostUnits)
    simp only [collectedAllocations, same allocation mem_cons_self, later]

theorem heldAllocations_none {chosen}
    (skipped : ∀ allocation ∈ allocations, chosen allocation.source = false) :
    heldAllocations chosen 0 allocations = 0 := by
  induction allocations with
  | nil => rfl
  | cons allocation rest ih =>
    have later := ih (fun other member => skipped other (mem_cons_of_mem _ member))
    simp [heldAllocations, skipped allocation mem_cons_self, later]

theorem collectedAllocations_none {chosen}
    (skipped : ∀ allocation ∈ allocations, chosen allocation.source = false) (collected : Nat) :
    collectedAllocations chosen collected allocations = 0 := by
  have bound := collectedAllocations_le chosen allocations collected
  rw [heldAllocations_none skipped] at bound
  exact le_zero.mp bound

theorem drawsOn_owner (bucket : Bucket) (id : String) {owner} {source : RequestFundingSource}
    (own : source = .walletRecharge owner ∨ source = .walletGift owner ∨ source = .postpaid owner) :
    source.drawsOn bucket id = (source.isFrom bucket && (owner = id)) := by
  rcases own with rfl | rfl | rfl
  · simp [drawsOn, isFrom]
  · simp [drawsOn, isFrom]
  · rfl

/-! ### Drawing on the sources of a wallet -/

theorem draw_sum (sources : List (RequestFundingSource × Nat)) : ∀ remaining,
    allocatedUnits (draw remaining sources).1 + (draw remaining sources).2 = remaining := by
  induction sources with
  | nil => intro remaining; simp [draw, allocatedUnits]
  | cons head rest ih =>
    intro remaining
    have later := ih (remaining - min remaining head.2)
    simp only [draw]
    split_ifs with positive
    · simp only [allocatedUnits, map_cons, sum_cons] at later ⊢
      omega
    · omega

theorem draw_source (sources : List (RequestFundingSource × Nat)) : ∀ remaining,
    ∀ allocation ∈ (draw remaining sources).1, ∃ available, (allocation.source, available) ∈ sources
    := by
  induction sources with
  | nil => intro remaining allocation member; simp [draw] at member
  | cons head rest ih =>
    intro remaining allocation member
    simp only [draw] at member
    have later : allocation ∈ (draw (remaining - min remaining head.2) rest).1 →
        ∃ available, (allocation.source, available) ∈ head :: rest := by
      intro member
      obtain ⟨available, listed⟩ := ih _ allocation member
      exact ⟨available, mem_cons_of_mem _ listed⟩
    split_ifs at member with positive
    · rcases mem_cons.mp member with rfl | member
      · exact ⟨head.2, mem_cons_self⟩
      · exact later member
    · exact later member

theorem draw_within (chosen : RequestFundingSource → Bool)
    (sources : List (RequestFundingSource × Nat)) : ∀ remaining,
    heldAllocations chosen 0 (draw remaining sources).1 ≤
      (sources.map (fun source => if chosen source.1 then source.2 else 0)).sum := by
  induction sources with
  | nil => intro remaining; simp [draw, heldAllocations]
  | cons head rest ih =>
    intro remaining
    have later := ih (remaining - min remaining head.2)
    simp only [draw, map_cons, sum_cons]
    split_ifs with positive picked picked
    · simp only [heldAllocations, picked, if_true, Nat.zero_min, Nat.sub_zero]
      omega
    · simp only [heldAllocations, picked, Bool.false_eq_true, if_false, Nat.zero_min, Nat.sub_zero]
      omega
    · omega
    · omega

/-! ### Debiting the allocations -/

def isEntitlement : RequestFundingSource → Bool
  | .entitlement _ _ _ => true
  | _ => false

theorem debitAllocations_eq (allocations : List RequestFundsAllocation)
    (stored : ∀ allocation ∈ allocations, isEntitlement allocation.source = false) :
    ∀ remaining, ∃ debits, debitAllocations remaining allocations = .ok debits ∧ debits.recharge =
        collectedAllocations (isFrom .recharge) remaining allocations ∧ debits.gift =
        collectedAllocations (isFrom .gift) remaining allocations ∧
      debits.recharge + debits.gift ≤ debits.wallet ∧
      debits.remaining = remaining - allocatedUnits allocations := by
  induction allocations with
  | nil => intro remaining; exact ⟨_, rfl, rfl, rfl, le_refl 0, rfl⟩
  | cons allocation rest ih =>
    intro remaining
    have known := stored allocation mem_cons_self
    obtain ⟨debits, later, recharge, gift, wallet, left⟩ :=
      ih (fun other member => stored other (mem_cons_of_mem _ member))
        (remaining - min remaining allocation.reservedCostUnits)
    have left : debits.remaining = remaining - allocatedUnits (allocation :: rest) := by
      simp only [allocatedUnits, map_cons, sum_cons] at left ⊢
      omega
    simp only [debitAllocations, collectedAllocations, later]
    cases source : allocation.source with
    | entitlement _ _ _ => simp [isEntitlement, source] at known
    | walletRecharge _ | walletGift _ | postpaid _ =>
      refine ⟨_, rfl, ?_⟩
      simp only [isFrom, left]
      exact ⟨by simp [recharge], by simp [gift], by omega, trivial⟩

def Debits.of (debits : Debits) : Bucket → Nat
  | .recharge => debits.recharge
  | .gift => debits.gift

/-! ## The ledger of a repository -/

abbrev Account := Bucket × String

def StoredWalletSnapshot.owned (wallet : StoredWalletSnapshot) : Bucket → Nat
  | .recharge => wallet.balance.wholeUnits
  | .gift => wallet.giftBalance.wholeUnits

def ownedUnits (wallets : Table StoredWalletSnapshot) (bucket : Bucket) (walletId : String) : Nat :=
  (wallets.get? walletId).elim 0 (fun wallet => wallet.owned bucket)

namespace StoredRequestFundsReservation

/-- What a settled reservation took from one balance of a wallet. -/
def chargedUnits (bucket : Bucket) (walletId : String)
    (reservation : StoredRequestFundsReservation) : Nat :=
  if reservation.settlement.isSome then
    collectedAllocations (drawsOn bucket walletId)
      reservation.collectedCostUnits reservation.allocations
  else 0

def holdOn (reservation : StoredRequestFundsReservation) (account : Account) : Nat :=
  reservation.heldUnits account.1 account.2

def chargeOn (reservation : StoredRequestFundsReservation) (account : Account) : Nat :=
  reservation.chargedUnits account.1 account.2

structure Sound (token : String) (reservation : StoredRequestFundsReservation) : Prop where
  ownToken : reservation.quote.identity.reservationToken = token
  bounded : reservation.quote.authorizedCostUnits ≤ maxRequestFundsUnits
  complete : allocatedUnits reservation.allocations = reservation.quote.authorizedCostUnits
  oneWallet : ∀ allocation ∈ reservation.allocations, ∃ id, reservation.walletId = some id ∧
    (allocation.source = .walletRecharge id ∨ allocation.source = .walletGift id ∨
      allocation.source = .postpaid id)
  unsettled : reservation.settlement = none →
    reservation.collectedCostUnits = 0 ∧ reservation.state ≠ .settled
  settled : reservation.settlement.isSome →
    (reservation.state = .settled ∨ reservation.state = .reconciliationPending) ∧
      ∃ actual, reservation.actualCostUnits = some actual ∧
        reservation.collectedCostUnits = min actual reservation.quote.authorizedCostUnits

theorem Sound.open_of_state {token} {reservation : StoredRequestFundsReservation}
    (sound : reservation.Sound token) (unpaid : reservation.state ≠ .settled)
    (resolved : reservation.state ≠ .reconciliationPending) : reservation.settlement = none := by
  cases stored : reservation.settlement with
  | none => rfl
  | some settlement =>
    rcases (sound.settled (by simp [stored])).1 with state | state
    · exact absurd state unpaid
    · exact absurd state resolved

end StoredRequestFundsReservation

namespace SettlementRepository

def ledger (repo : SettlementRepository) :
    Escrow.Ledger String Account StoredRequestFundsReservation where
  balance := fun account => ownedUnits repo.wallets account.1 account.2
  entries := repo.funds

structure FundsSound (repo : SettlementRepository) : Prop where
  keyed : ∀ id wallet, repo.wallets.get? id = some wallet → wallet.id = id
  sound : ∀ token reservation, repo.funds.get? token = some reservation →
    reservation.Sound token

/-- The allocations pay the whole quote, from free units of one wallet. -/
structure Granted (repo : SettlementRepository) (input : ReserveRequestFundsInput)
    (walletId : Option String) (allocations : List RequestFundsAllocation) : Prop where
  bounded : input.authorizedCostUnits ≤ maxRequestFundsUnits
  complete : allocatedUnits allocations = input.authorizedCostUnits
  oneWallet : ∀ allocation ∈ allocations, ∃ id, walletId = some id ∧
    (allocation.source = .walletRecharge id ∨ allocation.source = .walletGift id ∨
      allocation.source = .postpaid id)
  room : ∀ bucket id,
    heldAllocations (drawsOn bucket id) 0 allocations = 0 ∨
      heldWalletUnits repo.funds bucket id +
        heldAllocations (drawsOn bucket id) 0 allocations ≤
          ownedUnits repo.wallets bucket id

/-- What a call other than a recovery can do to the wallets and the reservations. -/
inductive FundsTransfer (before after : SettlementRepository) : Prop where
  | unchanged (wallets : after.wallets = before.wallets) (funds : after.funds = before.funds)
  | reserved (input : ReserveRequestFundsInput) (attemptId walletId : Option String)
      (allocations : List RequestFundsAllocation)
      (fresh : before.funds.get? input.identity.reservationToken = none)
      (granted : before.Granted input walletId allocations)
      (wallets : after.wallets = before.wallets)
      (funds : after.funds = before.funds.insert input.identity.reservationToken
        (preparedReservation input attemptId walletId allocations))
  | restated (token : String) (reservation : StoredRequestFundsReservation)
      (state : RequestFundsState) (actual : Option Nat)
      (found : before.funds.get? token = some reservation)
      (unsettled : reservation.settlement = none)
      (unpaid : state ≠ .settled)
      (holds : state.holdsFunds → reservation.state.holdsFunds)
      (wallets : after.wallets = before.wallets)
      (funds : after.funds = before.funds.insert token
        { reservation with state := state, actualCostUnits := actual })
  | settled (token : String) (reservation : StoredRequestFundsReservation) (actual : Nat)
      (facts : Option Json) (settlement : StoredUsageSettlement)
      (found : before.funds.get? token = some reservation)
      (unsettled : reservation.settlement = none)
      (holding : reservation.state.holdsFunds)
      (keyed : ∀ id wallet, after.wallets.get? id = some wallet → wallet.id = id)
      (paid : ∀ bucket id, ownedUnits after.wallets bucket id +
        collectedAllocations (drawsOn bucket id)
          (min actual reservation.quote.authorizedCostUnits) reservation.allocations =
            ownedUnits before.wallets bucket id)
      (funds : after.funds = before.funds.insert token
        (settledReservation reservation actual facts settlement))

/-- All that a call can do to the wallets and the reservations. -/
inductive FundsEffect (before after : SettlementRepository) : Prop where
  | transfer (step : FundsTransfer before after)
  | recovered (amount : Bucket → String → Nat)
      (keyed : ∀ id wallet, after.wallets.get? id = some wallet → wallet.id = id)
      (free : ∀ bucket id, amount bucket id = 0 ∨
        heldWalletUnits before.funds bucket id + amount bucket id ≤
          ownedUnits before.wallets bucket id)
      (paid : ∀ bucket id, ownedUnits after.wallets bucket id + amount bucket id =
        ownedUnits before.wallets bucket id)
      (funds : after.funds = before.funds)

variable {before after : SettlementRepository}

theorem preparedReservation_sound {input} (attemptId : Option String)
    {walletId allocations} (granted : before.Granted input walletId allocations) :
    (preparedReservation input attemptId walletId allocations).Sound
      input.identity.reservationToken where
  ownToken := rfl
  bounded := granted.bounded
  complete := granted.complete
  oneWallet := granted.oneWallet
  unsettled := fun _ => ⟨rfl, by simp [preparedReservation]⟩
  settled := fun closed => by simp [preparedReservation] at closed

theorem settledReservation_sound {token reservation}
    (actual : Nat) (facts : Option Json) (settlement : StoredUsageSettlement)
    (sound : reservation.Sound token) :
    (settledReservation reservation actual facts settlement).Sound token where
  ownToken := sound.ownToken
  bounded := sound.bounded
  complete := sound.complete
  oneWallet := sound.oneWallet
  unsettled := fun opened => by simp [settledReservation] at opened
  settled := by
    intro _
    constructor
    · simp only [settledReservation]
      split_ifs
      · exact .inr rfl
      · exact .inl rfl
    · exact ⟨actual, rfl, rfl⟩

theorem transfer_sound (sound : before.FundsSound) (step : FundsTransfer before after) :
    after.FundsSound := by
  cases step with
  | unchanged wallets funds =>
    constructor
    · rw [wallets]; exact sound.keyed
    · rw [funds]; exact sound.sound
  | reserved input attemptId walletId allocations fresh granted wallets funds =>
    constructor
    · rw [wallets]; exact sound.keyed
    · rw [funds]
      exact forall_insert
        (preparedReservation_sound attemptId granted) sound.sound
  | restated token reservation state actual found unsettled unpaid holds wallets funds =>
    have old := sound.sound token reservation found
    constructor
    · rw [wallets]; exact sound.keyed
    · rw [funds]
      refine forall_insert ?_ sound.sound
      exact { old with
        unsettled := fun _ => ⟨(old.unsettled unsettled).1, unpaid⟩
        settled := fun closed => by simp [unsettled] at closed }
  | settled token reservation actual facts settlement found unsettled holding keyed paid funds =>
    constructor
    · exact keyed
    · rw [funds]
      exact forall_insert (settledReservation_sound actual facts
        settlement (sound.sound token reservation found)) sound.sound

section

variable (reservation : StoredRequestFundsReservation)
include reservation

theorem chargeOn_unsettled (account : Account) (unsettled : reservation.settlement = none) :
    reservation.chargeOn account = 0 := by
  simp [StoredRequestFundsReservation.chargeOn, StoredRequestFundsReservation.chargedUnits,
    unsettled]

theorem holdOn_settled (account : Account) (settled : reservation.settlement.isSome) :
    reservation.holdOn account = 0 := by
  obtain ⟨settlement, stored⟩ := Option.isSome_iff_exists.mp settled
  simp [StoredRequestFundsReservation.holdOn, heldUnits, unsettledHold, stored]

theorem holdOn_holding (account : Account) (unsettled : reservation.settlement = none)
    (uncollected : reservation.collectedCostUnits = 0) (holding : reservation.state.holdsFunds) :
    reservation.holdOn account = heldAllocations (drawsOn account.1 account.2) 0
        reservation.allocations := by
  simp [StoredRequestFundsReservation.holdOn, heldUnits,
    unsettledHold, unsettled, uncollected, holding]

theorem holdOn_restated (state : RequestFundsState) (actual : Option Nat) (account : Account)
    (holds : state.holdsFunds → reservation.state.holdsFunds) : StoredRequestFundsReservation.holdOn
        { reservation with state := state, actualCostUnits := actual } account ≤
      reservation.holdOn account := by
  cases kept : state.holdsFunds with
  | false => simp [StoredRequestFundsReservation.holdOn, heldUnits, unsettledHold, kept]
  | true => simp [StoredRequestFundsReservation.holdOn, heldUnits, unsettledHold, kept, holds kept]

end

theorem transfer_refines (sound : before.FundsSound) (step : FundsTransfer before after) :
    Escrow.Transfer StoredRequestFundsReservation.holdOn StoredRequestFundsReservation.chargeOn
      before.ledger after.ledger := by
  cases step with
  | unchanged wallets funds => exact .idle (by simp [ledger, wallets]) funds
  | reserved input attemptId walletId allocations fresh granted wallets funds =>
    exact .reserve input.identity.reservationToken
      (preparedReservation input attemptId walletId allocations) fresh
      (fun _ => rfl) (fun account => granted.room account.1 account.2)
      (by simp [ledger, wallets]) funds
  | restated token reservation state actual found unsettled unpaid holds wallets funds =>
    have before := fun account => chargeOn_unsettled reservation account unsettled
    have after := fun account => chargeOn_unsettled
      { reservation with state := state, actualCostUnits := actual } account unsettled
    apply Escrow.Transfer.resolve token reservation _ found _ _ _ funds
    · intro account
      rw [before account]
      exact zero_le _
    · intro account
      rw [before account, after account]
      exact holdOn_restated reservation state actual account holds
    · intro account
      rw [before account, after account, ledger, ledger, wallets]
  | settled token reservation actual facts settlement found unsettled holding keyed paid funds =>
    have free := fun account => chargeOn_unsettled reservation account unsettled
    have uncollected := ((sound.sound token reservation found).unsettled unsettled).1
    apply Escrow.Transfer.resolve token reservation _ found _ _ _ funds
    · intro account
      rw [free account]
      exact zero_le _
    · intro account
      rw [free account, holdOn_settled _ account rfl,
        holdOn_holding reservation account unsettled uncollected holding, zero_add]
      exact collectedAllocations_le _ _ _
    · intro account
      rw [free account]
      exact paid account.1 account.2

theorem effect_sound (sound : before.FundsSound) (effect : FundsEffect before after) :
    after.FundsSound := by
  cases effect with
  | transfer step => exact transfer_sound sound step
  | recovered amount keyed free paid funds =>
    constructor
    · exact keyed
    · rw [funds]; exact sound.sound

theorem effect_refines (sound : before.FundsSound) (effect : FundsEffect before after) :
    Escrow.Step StoredRequestFundsReservation.holdOn StoredRequestFundsReservation.chargeOn
      before.ledger after.ledger := by
  cases effect with
  | transfer step => exact .transfer (transfer_refines sound step)
  | recovered amount keyed free paid funds =>
    exact .spend (fun account => amount account.1 account.2)
      (fun account => free account.1 account.2) (fun account => paid account.1 account.2) funds

theorem transfer_frozen (step : FundsTransfer before after) {token reservation}
    (found : before.funds.get? token = some reservation) (settled : reservation.settlement.isSome) :
    after.funds.get? token = some reservation := by
  have differs : ∀ other stored, before.funds.get? other = some stored →
      stored.settlement = none → token ≠ other := by
    rintro other stored present unsettled rfl
    rw [found] at present
    cases present
    simp [unsettled] at settled
  cases step with
  | unchanged wallets funds => rw [funds]; exact found
  | reserved input attemptId walletId allocations fresh granted wallets funds =>
    have different : token ≠ input.identity.reservationToken := by
      rintro rfl
      rw [found] at fresh
      cases fresh
    rw [funds, get?_insert_of_ne _ _ different]
    exact found
  | restated other stored state actual present unsettled unpaid holds wallets funds
  | settled other stored actual facts settlement present unsettled holding keyed paid funds =>
    rw [funds, get?_insert_of_ne _ _ (differs other stored present unsettled)]
    exact found

end SettlementRepository

end Aeris.Settlement
