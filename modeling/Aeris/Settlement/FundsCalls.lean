import Aeris.Settlement.FundsLedger

/-! What each funds call does, read off its definition once. Every call is a
transfer of the ledger, or the recovery of an unpaid usage. -/
namespace Aeris.Settlement

open List Option OrderedTable
open RequestFundingSource (drawsOn isFrom)

namespace SettlementRepository

variable {repo next : SettlementRepository}

/-! ## Reserve -/

/-- Shape and size of what `allocate` grants, before the rest is looked at. -/
structure Allocated (repo : SettlementRepository) (wallet : StoredWalletSnapshot)
    (authorized : Nat) (allocations : List RequestFundsAllocation) (remaining : Nat) : Prop where
  sum : allocatedUnits allocations + remaining = authorized
  oneWallet : ∀ allocation ∈ allocations,
    allocation.source = .walletRecharge wallet.id ∨ allocation.source = .walletGift wallet.id ∨
      allocation.source = .postpaid wallet.id
  room : ∀ bucket,
    heldAllocations (drawsOn bucket wallet.id) 0 allocations = 0 ∨
      heldWalletUnits repo.funds bucket wallet.id +
        heldAllocations (drawsOn bucket wallet.id) 0 allocations ≤
          wallet.owned bucket

theorem allocate_postpaid (repo : SettlementRepository) (wallet : StoredWalletSnapshot)
    (authorized : Nat) :
    repo.Allocated wallet authorized (draw authorized [(.postpaid wallet.id, authorized)]).1
      (draw authorized [(.postpaid wallet.id, authorized)]).2 where
  sum := draw_sum _ authorized
  oneWallet := by
    intro allocation member
    obtain ⟨available, listed⟩ := draw_source _ authorized allocation member
    simp only [mem_singleton, Prod.mk.injEq] at listed
    exact .inr (.inr listed.1)
  room := by
    intro bucket
    have within := draw_within (drawsOn bucket wallet.id)
      [(.postpaid wallet.id, authorized)] authorized
    exact .inl (Nat.le_zero.mp within)

variable {wallet : StoredWalletSnapshot}

theorem allocate_balances {repo : SettlementRepository} (authorized : Nat) {recharge gift}
    (first : requestFundsAvailableUnits wallet.balance = .ok recharge)
    (second : requestFundsAvailableUnits wallet.giftBalance = .ok gift) {sources}
    (listed : sources =
      [(.walletRecharge wallet.id, recharge - heldWalletUnits repo.funds .recharge wallet.id),
        (.walletGift wallet.id, gift - heldWalletUnits repo.funds .gift wallet.id)]) :
    repo.Allocated wallet authorized (draw authorized sources).1 (draw authorized sources).2 where
  sum := draw_sum _ authorized
  oneWallet := by
    intro allocation member
    obtain ⟨available, present⟩ := draw_source _ authorized allocation member
    rw [listed] at present
    simp only [mem_cons, Prod.mk.injEq, not_mem_nil, or_false] at present
    rcases present with ⟨source, _⟩ | ⟨source, _⟩
    · exact .inl source
    · exact .inr (.inl source)
  room := by
    intro bucket
    have within := draw_within (drawsOn bucket wallet.id) sources authorized
    subst listed
    have ownedRecharge := requestFundsAvailableUnits_whole first
    have ownedGift := requestFundsAvailableUnits_whole second
    cases bucket with
    | recharge | gift =>
      simp [drawsOn] at within
      simp only [StoredWalletSnapshot.owned]
      omega

theorem allocate_spec {authorized : Nat} {allocations} {remaining}
    (success : allocate repo.funds wallet authorized = .ok (allocations, remaining)) :
    repo.Allocated wallet authorized allocations remaining := by
  unfold allocate at success
  split_ifs at success with unlimited nonnegative
  · cases success
    exact allocate_postpaid repo wallet authorized
  · obtain ⟨recharge, first, success⟩ := bind_ok success
    obtain ⟨gift, second, success⟩ := bind_ok success
    cases success
    exact allocate_balances authorized first second rfl
  · cases success
    exact ⟨by simp [allocatedUnits], by simp, fun bucket => .inl rfl⟩

theorem granted_of_allocated {input allocations} (valid : input.validate = .ok ())
    (stored : repo.wallets.get? wallet.id = some wallet)
    (allocated : repo.Allocated wallet input.authorizedCostUnits allocations 0) :
    repo.Granted input (some wallet.id) allocations where
  bounded := input.validate_bounded valid
  complete := allocated.sum
  oneWallet := fun allocation member => ⟨wallet.id, rfl, allocated.oneWallet allocation member⟩
  room := by
    intro bucket id
    by_cases same : id = wallet.id
    · subst same
      have room := allocated.room bucket
      simpa [ownedUnits, stored] using room
    · left
      apply heldAllocations_none
      intro allocation member
      rw [drawsOn_owner bucket id (allocated.oneWallet allocation member)]
      simp [Ne.symm same]

theorem storeReservation_cases (repo : SettlementRepository) (input : ReserveRequestFundsInput)
    (attemptId walletId : Option String) (allocations : List RequestFundsAllocation)
    (remaining : Nat) :
    (remaining = 0 ∧ repo.storeReservation input attemptId walletId allocations remaining =
      (.reserved (preparedReservation input attemptId walletId allocations),
        repo.storeFunds input.identity.reservationToken
          (preparedReservation input attemptId walletId allocations))) ∨
    repo.storeReservation input attemptId walletId allocations remaining =
      (.insufficient (input.authorizedCostUnits - remaining), repo) := by
  unfold storeReservation
  split_ifs with short
  · exact .inr rfl
  · exact .inl ⟨Nat.eq_zero_of_not_pos short, rfl⟩

variable {attemptId : Option String}

theorem reserveInner_cases {input outcome}
    (success : repo.reserveInner input attemptId = .ok (outcome, next)) :
    (next = repo ∧ ∀ reservation, outcome = .reserved reservation →
      repo.funds.get? input.identity.reservationToken = some reservation ∧
        reservation.attemptId = attemptId) ∨
    ∃ walletId allocations, (repo.FundsSound → repo.Granted input walletId allocations) ∧
      repo.funds.get? input.identity.reservationToken = none ∧
      (∀ stored ∈ repo.funds.values, clashes input attemptId stored = false) ∧
      outcome = .reserved (preparedReservation input attemptId walletId allocations) ∧
      next = repo.storeFunds input.identity.reservationToken
        (preparedReservation input attemptId walletId allocations) := by
  obtain ⟨_, valid, success⟩ := bind_ok success
  cases found : repo.funds.get? input.identity.reservationToken with
  | some stored =>
    left
    simp only [found] at success
    split_ifs at success with replay
    · cases success
      refine ⟨rfl, ?_⟩
      rintro reservation same
      cases same
      exact ⟨rfl, replay.2⟩
    · cases success
      exact ⟨rfl, by simp⟩
  | none =>
    simp only [found] at success
    split_ifs at success with clash
    · cases success
      exact .inl ⟨rfl, by simp⟩
    have clear : ∀ stored ∈ repo.funds.values, clashes input attemptId stored = false := by
      simpa using clash
    cases owner : (walletIdOf repo.wallets input.identity).bind repo.wallets.get? with
    | none =>
      simp only [owner] at success
      rcases storeReservation_cases repo input attemptId
        (walletIdOf repo.wallets input.identity) [] input.authorizedCostUnits with
        ⟨free, stored⟩ | short
      · rw [stored] at success
        cases success
        have granted (walletId : Option String) : repo.Granted input walletId [] :=
          ⟨input.validate_bounded valid, free.symm, by simp, fun _ _ => .inl rfl⟩
        exact .inr ⟨_, _, fun _ => granted _, rfl, clear, rfl, rfl⟩
      · rw [short] at success
        cases success
        exact .inl ⟨rfl, by simp⟩
    | some wallet =>
      obtain ⟨id, resolved, stored⟩ := bind_eq_some_iff.mp owner
      simp only [owner] at success
      split_ifs at success with inactive
      · cases success
        exact .inl ⟨rfl, by simp⟩
      · obtain ⟨⟨allocations, remaining⟩, granted, success⟩ := bind_ok success
        have allocated := allocate_spec granted
        rcases storeReservation_cases repo input attemptId
          (walletIdOf repo.wallets input.identity) allocations remaining with
          ⟨rfl, written⟩ | short
        · cases success
          rw [resolved]
          refine .inr ⟨_, _, fun sound => ?_, rfl, clear, rfl, rfl⟩
          obtain rfl := sound.keyed id wallet stored
          exact granted_of_allocated valid stored allocated
        · simp only [short] at success
          cases success
          exact .inl ⟨rfl, by simp⟩

theorem reserveInner_transfer (sound : repo.FundsSound) {input outcome}
    (success : repo.reserveInner input attemptId = .ok (outcome, next)) :
    FundsTransfer repo next := by
  rcases reserveInner_cases success with
    ⟨rfl, _⟩ | ⟨walletId, allocations, granted, fresh, _, _, rfl⟩
  · exact .unchanged rfl rfl
  · exact .reserved input attemptId walletId allocations fresh (granted sound) rfl rfl

theorem reserveRequestFunds_transfer (sound : repo.FundsSound) (input : ReserveRequestFundsInput) :
    FundsTransfer repo (reserveRequestFunds input repo).2 := by
  apply atomically_keeps (.unchanged rfl rfl)
  intro outcome next success
  exact reserveInner_transfer sound (refuse_ok success).2

/-! ## Dispatch and release -/

theorem markRequestFundsDispatched_transfer (sound : repo.FundsSound)
    (identity : RequestFundsIdentity) :
    FundsTransfer repo (markRequestFundsDispatched identity repo).2 := by
  apply atomically_keeps (.unchanged rfl rfl)
  intro outcome next success
  have success := check_ok success
  cases found : repo.funds.get? identity.reservationToken with
  | none =>
    simp only [found] at success
    cases success
    exact .unchanged rfl rfl
  | some reservation =>
    simp only [found] at success
    obtain ⟨_, success⟩ := refuse_ok success
    obtain ⟨live, success⟩ := refuse_ok success
    cases success
    have state : reservation.state = .prepared ∨ reservation.state = .dispatched := by tauto
    have unsettled : reservation.settlement = none := by
      apply (sound.sound _ reservation found).open_of_state
      · rcases state with state | state <;> simp [state]
      · rcases state with state | state <;> simp [state]
    have held : reservation.state.holdsFunds := by
      rcases state with state | state <;> simp [state, RequestFundsState.holdsFunds]
    exact .restated _ reservation .dispatched _ found unsettled (by simp) (fun _ => held) rfl rfl

variable {reservation : StoredRequestFundsReservation} {token : String}

theorem releasable_unsettled (sound : reservation.Sound token) (terminalNoCharge : Bool)
    (allowed : releasable reservation terminalNoCharge) : reservation.settlement = none := by
  apply sound.open_of_state
  · intro state
    simp [releasable, state] at allowed
  · intro state
    simp [releasable, state] at allowed

theorem releaseRequestFunds_transfer (sound : repo.FundsSound) (input : ReleaseRequestFundsInput) :
    FundsTransfer repo (releaseRequestFunds input repo).2 := by
  apply atomically_keeps (.unchanged rfl rfl)
  intro outcome next success
  have success := check_ok success
  cases found : repo.funds.get? input.identity.reservationToken with
  | none =>
    simp only [found] at success
    cases success
    exact .unchanged rfl rfl
  | some reservation =>
    simp only [found] at success
    obtain ⟨_, success⟩ := refuse_ok success
    obtain ⟨allowed, success⟩ := refuse_ok success
    cases success
    have unsettled := releasable_unsettled (sound.sound _ reservation found)
      input.terminalNoCharge (not_not.mp allowed)
    exact .restated _ reservation .released (some 0) found unsettled (by simp)
      (by simp [RequestFundsState.holdsFunds]) rfl rfl

/-! ## Settle -/

theorem debitBalance_units {balance amount missing after}
    (success : debitBalance balance amount missing = .ok after) :
    after.wholeUnits + amount = balance.wholeUnits := by
  unfold debitBalance at success
  split_ifs at success with positive
  · obtain ⟨available, read, success⟩ := bind_ok success
    obtain ⟨enough, success⟩ := refuse_ok success
    cases success
    rw [wholeUnits_requestFundsUsd, requestFundsAvailableUnits_whole read]
    omega
  · cases success
    omega

variable {debits : Debits}

theorem debitWallet_units {after} (success : debitWallet wallet debits = .ok after) :
    after.id = wallet.id ∧ ∀ bucket, after.owned bucket + debits.of bucket =
      wallet.owned bucket := by
  obtain ⟨balance, recharge, success⟩ := bind_ok success
  obtain ⟨giftBalance, gift, success⟩ := bind_ok success
  have success := check_ok success
  cases success
  constructor
  · rfl
  · intro bucket
    cases bucket with
    | recharge => exact debitBalance_units recharge
    | gift => exact debitBalance_units gift

theorem ownedUnits_insert (wallets : Table StoredWalletSnapshot)
    (wallet after : StoredWalletSnapshot)
    (id other : String) (bucket : Bucket) (stored : wallets.get? id = some wallet) (amount : Nat)
    (paid : after.owned bucket + amount = wallet.owned bucket) :
    ownedUnits (wallets.insert id after) bucket other + (if other = id then amount else 0) =
      ownedUnits wallets bucket other := by
  unfold ownedUnits
  rw [get?_insert]
  split_ifs with same
  · subst same
    simpa [stored] using paid
  · rfl

theorem chargeWallet_spec (keyed : ∀ id wallet, repo.wallets.get? id = some wallet → wallet.id = id)
    {walletId settlement frozen wallets} (covers : debits.recharge + debits.gift ≤ debits.wallet)
    (success : repo.chargeWallet walletId debits settlement = .ok (wallets, frozen)) :
    (∀ id wallet, wallets.get? id = some wallet → wallet.id = id) ∧
    ∀ bucket id, ownedUnits wallets bucket id +
      (if walletId = some id then debits.of bucket else 0) = ownedUnits repo.wallets bucket id := by
  unfold chargeWallet at success
  cases owner : walletId.bind repo.wallets.get? with
  | some wallet =>
    obtain ⟨id, rfl, stored⟩ := bind_eq_some_iff.mp owner
    simp only [owner] at success
    obtain ⟨after, debited, success⟩ := bind_ok success
    cases success
    obtain ⟨same, paid⟩ := debitWallet_units debited
    have identified : after.id = id := same.trans (keyed id wallet stored)
    constructor
    · exact forall_insert rfl keyed
    · intro bucket other
      have moved := ownedUnits_insert repo.wallets wallet after id other bucket stored _
        (paid bucket)
      rw [identified]
      simpa [eq_comm] using moved
  | none =>
    simp only [owner] at success
    obtain ⟨nothing, success⟩ := refuse_ok success
    cases success
    constructor
    · exact keyed
    · intro bucket id
      have zero : debits.of bucket = 0 := by cases bucket <;> simp only [Debits.of] <;> omega
      simp [zero]

theorem noEntitlement (sound : reservation.Sound token) :
    ∀ allocation ∈ reservation.allocations, isEntitlement allocation.source = false := by
  intro allocation member
  obtain ⟨id, _, source | source | source⟩ := sound.oneWallet allocation member <;>
    simp [source, isEntitlement]

theorem collected_own
    (sound : reservation.Sound token) (bucket : Bucket) (id : String) (collected : Nat) :
    collectedAllocations (drawsOn bucket id) collected reservation.allocations =
      if reservation.walletId = some id then
        collectedAllocations (isFrom bucket) collected reservation.allocations else 0 := by
  split_ifs with own
  · apply collectedAllocations_congr
    intro allocation member
    obtain ⟨owner, named, source⟩ := sound.oneWallet allocation member
    have same : owner = id := some.inj (named.symm.trans own)
    simp [drawsOn_owner bucket id source, same]
  · apply collectedAllocations_none
    intro allocation member
    obtain ⟨owner, named, source⟩ := sound.oneWallet allocation member
    have different : owner ≠ id := fun same => own (same ▸ named)
    simp [drawsOn_owner bucket id source, different]

theorem debits_own (sound : reservation.Sound token) (collect : Nat) :
    ∃ debits, debitAllocations collect reservation.allocations = .ok debits ∧
      debits.recharge + debits.gift ≤ debits.wallet ∧
      debits.remaining = collect - reservation.quote.authorizedCostUnits ∧
      ∀ bucket id, (if reservation.walletId = some id then debits.of bucket else 0) =
        collectedAllocations (drawsOn bucket id) collect reservation.allocations := by
  obtain ⟨debits, result, recharge, gift, covers, left⟩ :=
    debitAllocations_eq reservation.allocations (noEntitlement sound) collect
  refine ⟨debits, result, covers, sound.complete ▸ left, ?_⟩
  intro bucket id
  rw [collected_own sound]
  split_ifs with own
  · cases bucket with
    | recharge => exact recharge
    | gift => exact gift
  · rfl

theorem settleReservation_spec (sound : repo.FundsSound) {input reservation result actual}
    (found : repo.funds.get? input.identity.reservationToken = some reservation)
    (success : repo.settleReservation input reservation actual = .ok (result, next)) :
    (∃ settlement,
      result = settledReservation reservation actual input.reconciliationFacts settlement) ∧
    (∀ id wallet, next.wallets.get? id = some wallet → wallet.id = id) ∧
    (∀ bucket id, ownedUnits next.wallets bucket id + collectedAllocations (drawsOn bucket id)
        (min actual reservation.quote.authorizedCostUnits) reservation.allocations =
          ownedUnits repo.wallets bucket id) ∧
    next = { repo with
      wallets := next.wallets
      providerMonthlyUsed := next.providerMonthlyUsed
      settlements := next.settlements
      funds := repo.funds.insert input.identity.reservationToken result } := by
  obtain ⟨debits, loop, covers, left, own⟩ := debits_own (sound.sound _ reservation found)
    (min actual reservation.quote.authorizedCostUnits)
  obtain ⟨debits', again, success⟩ := bind_ok success
  rw [loop] at again
  cases again
  obtain ⟨_, success⟩ := refuse_ok success
  obtain ⟨⟨wallets, settlement⟩, charged, success⟩ := bind_ok success
  obtain ⟨⟨providers, frozen⟩, _, success⟩ := bind_ok success
  cases success
  obtain ⟨keyed, paid⟩ := chargeWallet_spec sound.keyed covers charged
  refine ⟨⟨frozen, rfl⟩, keyed, ?_, rfl⟩
  intro bucket id
  rw [← own bucket id]
  exact paid bucket id

theorem finalizeInner_cases {input outcome}
    (success : repo.finalizeInner input attemptId = .ok (outcome, next)) :
    (next = repo ∧ ∀ reservation, outcome = some reservation →
      repo.funds.get? input.identity.reservationToken = some reservation ∧
        reservation.settlement.isSome) ∨ ∃ reservation result actual,
      repo.funds.get? input.identity.reservationToken = some reservation ∧
      reservation.attemptId = attemptId ∧ reservation.settlement = none ∧
      reservation.state.holdsFunds ∧
      requestFundsAuthorizedUnits input.usage.actualTotalCostUsd = .ok actual ∧
      outcome = some result ∧
      repo.settleReservation input reservation actual = .ok (result, next) := by
  unfold finalizeInner at success
  cases found : repo.funds.get? input.identity.reservationToken with
  | none =>
    simp only [found] at success
    cases success
    exact .inl ⟨rfl, by simp⟩
  | some reservation =>
    simp only [found] at success
    obtain ⟨same, success⟩ := refuse_ok success
    obtain ⟨actual, read, success⟩ := bind_ok success
    by_cases closed : reservation.settlement.isSome
    · rw [if_pos closed] at success
      obtain ⟨_, success⟩ := refuse_ok success
      cases success
      left
      refine ⟨rfl, ?_⟩
      intro stored same
      exact ⟨same, some.inj same ▸ closed⟩
    · rw [if_neg closed] at success
      obtain ⟨ready, success⟩ := refuse_ok success
      obtain ⟨⟨result, after⟩, settled, success⟩ := bind_ok success
      cases success
      have holding : reservation.state.holdsFunds := by
        simp only [settleable, decide_eq_true_eq, not_not] at ready
        rcases ready.1 with state | ⟨_, state⟩ <;> simp [state, RequestFundsState.holdsFunds]
      exact .inr ⟨reservation, result, actual, rfl, by tauto, by simpa using closed, holding,
        read, rfl, settled⟩

theorem finalizeInner_transfer (sound : repo.FundsSound) {input outcome}
    (success : repo.finalizeInner input attemptId = .ok (outcome, next)) :
    FundsTransfer repo next := by
  rcases finalizeInner_cases success with
    ⟨rfl, _⟩ | ⟨reservation, result, actual, found, _, unsettled, holding, _, _, settled⟩
  · exact .unchanged rfl rfl
  · obtain ⟨⟨settlement, rfl⟩, keyed, paid, frame⟩ :=
      settleReservation_spec sound found settled
    exact .settled _ reservation actual input.reconciliationFacts settlement found unsettled
      holding keyed paid (congrArg funds frame)

theorem finalizeRequestFunds_transfer (sound : repo.FundsSound)
    (input : FinalizeRequestFundsInput) :
    FundsTransfer repo (finalizeRequestFunds input repo).2 := by
  apply atomically_keeps (.unchanged rfl rfl)
  intro outcome next success
  exact finalizeInner_transfer sound (check_ok success)

/-! ### What a settlement can fail with -/

/-- The failures that would mean money was promised twice. -/
def coverageFailures : List Failure :=
  [.invalidInput "reserved funds missing", .invalidInput "reserved gift missing",
    .invalidInput "incomplete funding allocation"]

theorem requestFundsUnits_spares (usd : Usd) (roundUp : Bool) :
    Spares coverageFailures (requestFundsUnits usd roundUp) := by
  unfold requestFundsUnits
  split
  · refine .refuse (by decide) fun _ => ?_
    dsimp only
    generalize (if roundUp then _ else _) = units
    split_ifs
    · exact .ok _
    · exact .error (by decide)
  · exact .error (by decide)

theorem debitBalance_spares {balance amount} (enough : amount ≤ balance.wholeUnits)
    (missing : String) : Spares coverageFailures (debitBalance balance amount missing) := by
  unfold debitBalance
  split_ifs
  · refine .bind (requestFundsUnits_spares balance false) fun available read => ?_
    rw [requestFundsAvailableUnits_whole read] at enough
    rw [if_neg (not_lt.mpr enough)]
    exact .ok _
  · exact .ok _

theorem validateWalletSettlementValues_spares (recharge gift total additional : Usd) :
    Spares coverageFailures (validateWalletSettlementValues recharge gift total additional) := by
  unfold validateWalletSettlementValues
  dsimp only
  split_ifs
  · exact .error (by decide)
  · exact .ok ()

theorem debitWallet_spares (enough : ∀ bucket, debits.of bucket ≤ wallet.owned bucket) :
    Spares coverageFailures (debitWallet wallet debits) := by
  refine .bind (debitBalance_spares (enough .recharge) _) fun _ _ => ?_
  refine .bind (debitBalance_spares (enough .gift) _) fun _ _ => ?_
  exact .bind (validateWalletSettlementValues_spares _ _ _ _) fun _ _ => .ok _

theorem chargeWallet_spares {walletId} (settlement : StoredUsageSettlement)
    (enough : ∀ bucket id, walletId = some id →
      debits.of bucket ≤ ownedUnits repo.wallets bucket id) :
    Spares coverageFailures (repo.chargeWallet walletId debits settlement) := by
  unfold chargeWallet
  split
  · rename_i wallet owner
    obtain ⟨id, named, stored⟩ := bind_eq_some_iff.mp owner
    refine .bind (debitWallet_spares fun bucket => ?_) fun _ _ => .ok _
    have enough := enough bucket id named
    simpa [ownedUnits, stored] using enough
  · exact .refuse (by decide) fun _ => .ok _

theorem chargeProvider_spares (usage : UsageSettlementInput) (settlement : StoredUsageSettlement) :
    Spares coverageFailures (repo.chargeProvider usage settlement) := by
  unfold chargeProvider
  split
  · exact .refuse (by decide) fun _ => .ok _
  · exact .ok _

section

variable (sound : repo.FundsSound)
  (covered : Escrow.Covered StoredRequestFundsReservation.holdOn repo.ledger)
include sound covered

theorem enough_when_covered (token : String) (reservation : StoredRequestFundsReservation)
    (found : repo.funds.get? token = some reservation) (unsettled : reservation.settlement = none)
    (holding : reservation.state.holdsFunds) (collect : Nat) (bucket : Bucket) (id : String) :
    collectedAllocations (drawsOn bucket id) collect
      reservation.allocations ≤ ownedUnits repo.wallets bucket id := by
  have uncollected := ((sound.sound token reservation found).unsettled unsettled).1
  calc
    _ ≤ heldAllocations (drawsOn bucket id) 0 reservation.allocations :=
      collectedAllocations_le _ _ _
    _ = reservation.holdOn (bucket, id) :=
      (holdOn_holding reservation (bucket, id) unsettled uncollected holding).symm
    _ ≤ Escrow.held StoredRequestFundsReservation.holdOn repo.ledger (bucket, id) :=
      repo.funds.le_total (fun entry => entry.holdOn (bucket, id)) found
    _ ≤ ownedUnits repo.wallets bucket id := covered (bucket, id)

theorem settleReservation_spares {input reservation} (actual : Nat)
    (found : repo.funds.get? input.identity.reservationToken = some reservation)
    (unsettled : reservation.settlement = none) (holding : reservation.state.holdsFunds) :
    Spares coverageFailures (repo.settleReservation input reservation actual) := by
  have known := sound.sound _ reservation found
  obtain ⟨debits, loop, covers, left, own⟩ := debits_own known
    (min actual reservation.quote.authorizedCostUnits)
  unfold settleReservation
  dsimp only
  rw [loop]
  change Spares _ (if debits.remaining > 0 then _ else _)
  rw [if_neg (by omega)]
  refine .bind (chargeWallet_spares _ fun bucket id named => ?_) fun _ _ =>
    .bind (chargeProvider_spares _ _) fun _ _ => .ok _
  have same := own bucket id
  rw [if_pos named] at same
  rw [same]
  exact enough_when_covered sound covered _ reservation found unsettled holding _ bucket id

theorem finalizeInner_spares (input : FinalizeRequestFundsInput) (attemptId : Option String) :
    Spares coverageFailures (repo.finalizeInner input attemptId) := by
  unfold finalizeInner
  split
  · exact .ok _
  · rename_i reservation found
    refine .refuse (by decide) fun _ => .bind (requestFundsUnits_spares _ true) fun actual _ => ?_
    by_cases closed : reservation.settlement.isSome
    · rw [if_pos closed]
      exact .refuse (by decide) fun _ => .ok _
    · rw [if_neg closed]
      refine .refuse (by decide) fun ready => ?_
      have unsettled : reservation.settlement = none := by simpa using closed
      have holding : reservation.state.holdsFunds := by
        simp only [settleable, decide_eq_true_eq, not_not] at ready
        rcases ready.1 with state | ⟨_, state⟩ <;> simp [state, RequestFundsState.holdsFunds]
      exact .bind (settleReservation_spares sound covered actual found unsettled holding)
        fun _ _ => .ok _

end

/-! ## Recover -/

theorem recoverBalance_units (balance : Usd) (amount : Nat) (after : Usd)
    (enough : amount ≤ balance.wholeUnits) (success : recoverBalance balance amount = .ok after) :
    after.wholeUnits + amount = balance.wholeUnits := by
  unfold recoverBalance at success
  split_ifs at success with positive
  · obtain ⟨available, read, success⟩ := bind_ok success
    cases success
    rw [requestFundsAvailableUnits_whole read] at enough
    rw [wholeUnits_requestFundsUsd, requestFundsAvailableUnits_whole read]
    omega
  · cases success
    omega

theorem maxZero_units {usd : Usd} {units} (nonnegative : usd.isNegative = false)
    (read : requestFundsAvailableUnits usd.maxZero = .ok units) : usd.wholeUnits = units := by
  rw [← requestFundsAvailableUnits_whole read]
  cases usd with
  | finite value =>
    have atLeast : 0 ≤ value := by simpa [Usd.isNegative] using nonnegative
    simp [Usd.maxZero, max_eq_left atLeast]
  | infinite negative =>
    cases negative with
    | false => cases read
    | true => simp [Usd.isNegative] at nonnegative
  | nan => simp [Usd.maxZero, Usd.wholeUnits]

theorem recoverWallet_units {after} {debit : Bucket → Nat}
    (enough : ∀ bucket, debit bucket ≤ wallet.owned bucket)
    (success : recoverWallet wallet (debit .recharge) (debit .gift) = .ok after) :
    after.id = wallet.id ∧ ∀ bucket, after.owned bucket + debit bucket = wallet.owned bucket := by
  obtain ⟨balance, recharge, success⟩ := bind_ok success
  obtain ⟨giftBalance, gift, success⟩ := bind_ok success
  have success := check_ok success
  cases success
  constructor
  · rfl
  · intro bucket
    cases bucket with
    | recharge => exact recoverBalance_units _ _ _ (enough .recharge) recharge
    | gift => exact recoverBalance_units _ _ _ (enough .gift) gift

def splitDebit (collect availableRecharge : Nat) : Bucket → Nat
  | .recharge => min collect availableRecharge
  | .gift => collect - min collect availableRecharge

theorem splitDebit_free (held : Bucket → Nat) (due : Nat) {recharge gift : Nat}
    (first : requestFundsAvailableUnits wallet.balance.maxZero = .ok recharge)
    (second : requestFundsAvailableUnits wallet.giftBalance = .ok gift) (bucket : Bucket) :
    let collect := if wallet.balance.isNegative then 0
      else min due (recharge - held .recharge + (gift - held .gift))
    let debit := splitDebit collect (recharge - held .recharge) bucket
    debit = 0 ∨ held bucket + debit ≤ wallet.owned bucket := by
  have ownedGift := requestFundsAvailableUnits_whole second
  by_cases negative : wallet.balance.isNegative
  · left
    cases bucket <;> simp [splitDebit, negative]
  · have ownedRecharge := maxZero_units (by simpa using negative) first
    simp only [if_neg negative]
    cases bucket with
    | recharge | gift => simp only [splitDebit, StoredWalletSnapshot.owned]; omega

theorem recoverFrom_effect (sound : repo.FundsSound) {request : String}
    {usage id actual outcome} (stored : repo.wallets.get? id = some wallet)
    (success : repo.recoverFrom request usage id wallet actual = .ok (outcome, next)) :
    FundsEffect repo next := by
  obtain ⟨_, success⟩ := refuse_ok success
  obtain ⟨recharge, first, success⟩ := bind_ok success
  obtain ⟨gift, second, success⟩ := bind_ok success
  obtain ⟨after, debited, success⟩ := bind_ok success
  let held := fun bucket => heldWalletUnits repo.funds bucket id
  let due := actual - (repo.recoveredUnits.get? request).getD 0
  let debit := splitDebit
    (if wallet.balance.isNegative then 0
      else min due (recharge - held .recharge + (gift - held .gift))) (recharge - held .recharge)
  have free : ∀ bucket, debit bucket = 0 ∨ held bucket + debit bucket ≤ wallet.owned bucket :=
    splitDebit_free held due first second
  have enough : ∀ bucket, debit bucket ≤ wallet.owned bucket := by
    intro bucket
    rcases free bucket with nothing | fits <;> omega
  obtain ⟨same, paid⟩ := recoverWallet_units enough debited
  cases frozen : repo.settlements.get? request with
  | none => simp only [frozen] at success; cases success
  | some settlement =>
    simp only [frozen] at success
    obtain ⟨⟨providers, settled⟩, _, success⟩ := bind_ok success
    cases success
    have identified : after.id = id := same.trans (sound.keyed id wallet stored)
    refine .recovered (fun bucket other => if other = id then debit bucket else 0) ?_ ?_ ?_ rfl
    · exact forall_insert identified sound.keyed
    · intro bucket other
      by_cases own : other = id
      · subst own
        simpa [ownedUnits, stored] using free bucket
      · simp [own]
    · intro bucket other
      exact ownedUnits_insert repo.wallets wallet after id other bucket stored _ (paid bucket)

theorem recoverInsufficientQuota_run (request : String) (repo : SettlementRepository) :
    ((recoverInsufficientQuota request repo).2 = repo ∧
      ∀ outcome, (recoverInsufficientQuota request repo).1 ≠ .ok (some outcome)) ∨
    ∃ usage actual id wallet answer, repo.recoverableUsage.get? request = some usage ∧
      requestFundsAuthorizedUnits usage.actualTotalCostUsd = .ok actual ∧
      repo.wallets.get? id = some wallet ∧ repo.recoverFrom request usage id wallet actual =
        .ok (answer, (recoverInsufficientQuota request repo).2) ∧
      (recoverInsufficientQuota request repo).1 = .ok answer := by
  rcases atomically_run _ repo with ⟨failure, run⟩ | ⟨answer, next, success, run⟩
  · rw [recoverInsufficientQuota, run]
    exact .inl ⟨rfl, by simp⟩
  rw [recoverInsufficientQuota, run]
  obtain ⟨_, success⟩ := refuse_ok success
  cases recoverable : repo.recoverableUsage.get? request with
  | none =>
    simp only [recoverable] at success
    cases success
    exact .inl ⟨rfl, by simp⟩
  | some usage =>
    simp only [recoverable] at success
    obtain ⟨actual, read, success⟩ := bind_ok success
    cases owner : walletIdOf repo.wallets (recoveryIdentity request usage) with
    | none =>
      simp only [owner] at success
      cases success
      exact .inl ⟨rfl, by simp⟩
    | some id =>
      cases stored : repo.wallets.get? id with
      | none => simp only [owner, stored] at success; cases success
      | some wallet =>
        simp only [owner, stored] at success
        exact .inr ⟨usage, actual, id, wallet, answer, rfl, read, stored,
          (refuse_ok success).2, rfl⟩

theorem recoverInsufficientQuota_effect (sound : repo.FundsSound) (request : String) :
    FundsEffect repo (recoverInsufficientQuota request repo).2 := by
  rcases recoverInsufficientQuota_run request repo with
    ⟨same, _⟩ | ⟨usage, actual, id, wallet, answer, _, _, stored, recovered, _⟩
  · rw [same]
    exact .transfer (.unchanged rfl rfl)
  · exact recoverFrom_effect sound stored recovered

end SettlementRepository

end Aeris.Settlement
