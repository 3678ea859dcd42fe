import Aeris.Settlement.Operation

/-! Two properties of whole runs: what is reserved stays covered by the balances,
and what leaves a wallet is what its reservations have collected. Both are read
off the abstract ledger, which every call refines. -/
namespace Aeris.Settlement

open List
open StoredRequestFundsReservation (chargeOn chargedUnits holdOn)

namespace SettlementRepository

/-- The reservations are sound and the balances cover what they hold. -/
structure FundsSafe (repo : SettlementRepository) : Prop where
  sound : repo.FundsSound
  covered : Escrow.Covered holdOn repo.ledger

theorem apply_fundsSafe (repo : SettlementRepository) (operation : Operation)
    (safe : repo.FundsSafe) : (repo.apply operation).FundsSafe := by
  have effect := operation_effect safe.sound operation
  constructor
  · exact effect_sound safe.sound effect
  · exact Escrow.step_covered (effect_refines safe.sound effect) safe.covered

variable {repo : SettlementRepository}

theorem initial_sound (empty : repo.funds = .empty)
    (keyed : ∀ id wallet, repo.wallets.get? id = some wallet → wallet.id = id) :
    repo.FundsSound := by
  constructor
  · exact keyed
  · intro token reservation found
    rw [empty] at found
    cases found

theorem initial_fundsSafe (empty : repo.funds = .empty)
    (keyed : ∀ id wallet, repo.wallets.get? id = some wallet → wallet.id = id) :
    repo.FundsSafe := by
  constructor
  · exact initial_sound empty keyed
  · intro account
    change heldWalletUnits repo.funds _ _ ≤ _
    rw [empty]
    exact Nat.zero_le _

/-! ## What a finalize can fail with -/

theorem identity_spares (identity : RequestFundsIdentity) :
    Spares coverageFailures identity.validate := by
  refine .bind (.forEach (fun field member index => ?_) 0) fun _ _ =>
    .refuse (by decide) fun _ => .ok ()
  refine .refuse ?_ fun _ => .ok ()
  simp only [mem_cons, not_mem_nil, or_false] at member
  rcases member with rfl | rfl | rfl | rfl <;> dsimp only <;> decide

theorem usage_spares (usage : UsageSettlementInput) : Spares coverageFailures usage.validate :=
  .refuse (by decide) fun _ => .refuse (by decide) fun _ => .refuse (by decide) fun _ =>
    .refuse (by decide) fun _ => .ok ()

theorem finalizeInput_spares (input : FinalizeRequestFundsInput) :
    Spares coverageFailures input.validate := by
  refine .bind (identity_spares _) fun _ _ => .bind (usage_spares _) fun _ _ => ?_
  exact .refuse (by decide) fun _ => .refuse (by decide) fun _ => .ok ()

theorem finalizeRequestFunds_error (safe : repo.FundsSafe) {input}
    {failure} (failed : (finalizeRequestFunds input repo).1 = .error failure) :
    failure ∉ coverageFailures := by
  have spares := (finalizeInput_spares input).bind fun _ _ =>
    finalizeInner_spares safe.sound safe.covered input none
  exact fun listed => spares failure listed (atomically_error failed)

/-! ## Reserved funds stay covered -/

/-- From any wallets and no reservation, after any calls in any order: the units
that reservations hold in a balance are there, and no settlement, legacy or of an
attempt, finds them missing. -/
theorem reserved_funds_stay_covered (repo : SettlementRepository) (operations : List Operation)
    (empty : repo.funds = .empty)
    (keyed : ∀ id wallet, repo.wallets.get? id = some wallet → wallet.id = id) :
    (∀ bucket walletId, heldWalletUnits (repo.run operations).funds bucket walletId ≤
      ownedUnits (repo.run operations).wallets bucket walletId) ∧
    (∀ input failure, (finalizeRequestFunds input (repo.run operations)).1 = .error failure →
      failure ∉ coverageFailures) ∧
    (∀ input attemptId failure,
      (repo.run operations).finalizeInner input attemptId = .error failure →
        failure ∉ coverageFailures) := by
  have safe : (repo.run operations).FundsSafe :=
    run_keeps operations (fun operation _ before => apply_fundsSafe before operation) repo
      (initial_fundsSafe empty keyed)
  refine ⟨?_, ?_, ?_⟩
  · intro bucket walletId
    exact safe.covered (bucket, walletId)
  · intro input failure failed
    exact finalizeRequestFunds_error safe failed
  · intro input attemptId failure failed
    exact fun listed =>
      finalizeInner_spares safe.sound safe.covered input attemptId failure listed failed

/-- A user with 5 USD recharged and 1 USD given. -/
def sampleWallet : StoredWalletSnapshot where
  id := "wallet"
  userId := some "user"
  apiKeyId := none
  balance := .finite 5
  giftBalance := .finite 1
  limitMode := "finite"
  status := "active"
  totalConsumed := .zero

def sampleRepository : SettlementRepository where
  wallets := OrderedTable.empty.insert sampleWallet.id sampleWallet
  providerMonthlyUsed := .empty
  settlements := .empty
  costReservations := .empty
  requestAdmissions := .empty
  funds := .empty
  recoverableUsage := .empty
  recoveredUnits := .empty
  attemptMetadata := .empty
  usage := none

theorem sample_keyed (id : String) (wallet : StoredWalletSnapshot)
    (found : sampleRepository.wallets.get? id = some wallet) : wallet.id = id := by
  revert id wallet
  exact OrderedTable.forall_insert rfl fun _ _ found => by cases found

def sampleIdentity : RequestFundsIdentity where
  reservationToken := "token"
  requestId := "request"
  userId := some "user"
  apiKeyId := none
  apiKeyIsStandalone := false

/-- A quote of 5.5 USD, which takes all of the first balance and half of the second. -/
def sampleQuote : ReserveRequestFundsInput where
  identity := sampleIdentity
  authorizedCostUnits := 550000000
  pricingSnapshot := .object []
  admittedAtUnixSecs := 10

theorem reserved_funds_stay_covered_sample :
    heldWalletUnits (sampleRepository.run [.reserveRequestFunds sampleQuote,
      .markRequestFundsDispatched sampleIdentity]).funds .gift "wallet" = 50000000 ∧
    heldWalletUnits (sampleRepository.run [.reserveRequestFunds sampleQuote,
      .markRequestFundsDispatched sampleIdentity]).funds .gift "wallet" ≤
        ownedUnits (sampleRepository.run [.reserveRequestFunds sampleQuote,
          .markRequestFundsDispatched sampleIdentity]).wallets .gift "wallet" :=
  ⟨by decide +kernel,
    (reserved_funds_stay_covered sampleRepository _ rfl sample_keyed).1 .gift "wallet"⟩

/-! ## Money is conserved -/

/-- Money that was in a wallet, in either balance. -/
def isWalletMoney (source : RequestFundingSource) : Bool :=
  source.isFrom .recharge || source.isFrom .gift

theorem collected_walletMoney (allocations : List RequestFundsAllocation) : ∀ collected,
    collectedAllocations isWalletMoney collected allocations =
      collectedAllocations (RequestFundingSource.isFrom .recharge) collected allocations +
        collectedAllocations (RequestFundingSource.isFrom .gift) collected allocations := by
  induction allocations with
  | nil => intro collected; rfl
  | cons allocation rest ih =>
    intro collected
    have later := ih (collected - min collected allocation.reservedCostUnits)
    simp only [collectedAllocations, later]
    cases source : allocation.source <;>
      simp [isWalletMoney, RequestFundingSource.isFrom] <;> omega

/-- What a reservation has taken from a wallet: nothing, until it is settled. -/
def walletContribution (walletId : String) (reservation : StoredRequestFundsReservation) : Nat :=
  if reservation.walletId = some walletId ∧ reservation.settlement.isSome then
    collectedAllocations isWalletMoney reservation.collectedCostUnits reservation.allocations
  else 0

theorem walletContribution_eq {token reservation}
    (sound : reservation.Sound token) (walletId : String) :
    walletContribution walletId reservation =
      reservation.chargeOn (.recharge, walletId) + reservation.chargeOn (.gift, walletId) := by
  unfold walletContribution chargeOn
    chargedUnits
  rw [collected_own sound, collected_own sound, collected_walletMoney]
  by_cases own : reservation.walletId = some walletId
  · by_cases settled : reservation.settlement.isSome
    · simp [own, settled]
    · simp [settled]
  · simp [own]

theorem total_walletContribution (repo : SettlementRepository) (sound : repo.FundsSound)
    (walletId : String) : repo.funds.total (walletContribution walletId) =
      Escrow.charged chargeOn repo.ledger (.recharge, walletId) +
        Escrow.charged chargeOn repo.ledger (.gift, walletId) := by
  have pointwise := repo.funds.total_congr (fun reservation member => by
    obtain ⟨token, found⟩ := (repo.funds.mem_values reservation).mp member
    exact walletContribution_eq (sound.sound token reservation found) walletId)
  exact pointwise.trans sum_map_add

/-- Sound reservations, and the same worth in each account as in a first state. -/
structure Conserved (first repo : SettlementRepository) : Prop where
  sound : repo.FundsSound
  worth : ∀ account,
    repo.ledger.balance account +
        Escrow.charged chargeOn repo.ledger account =
      first.ledger.balance account

theorem apply_conserved (first repo : SettlementRepository) (operation : Operation)
    (paid : operation.isRecovery = false) (conserved : Conserved first repo) :
    Conserved first (repo.apply operation) := by
  have step := operation_transfer conserved.sound paid
  constructor
  · exact transfer_sound conserved.sound step
  · intro account
    have moved := Escrow.transfer_conserves (transfer_refines conserved.sound step) account
    exact moved.trans (conserved.worth account)

theorem run_frozen (operations : List Operation)
    (paid : ∀ operation ∈ operations, operation.isRecovery = false) (token : String)
    (reservation : StoredRequestFundsReservation) (settled : reservation.settlement.isSome)
    (repo : SettlementRepository) (sound : repo.FundsSound)
    (found : repo.funds.get? token = some reservation) :
    (repo.run operations).funds.get? token = some reservation := by
  have kept := run_keeps
    (motive := fun repo => repo.FundsSound ∧ repo.funds.get? token = some reservation) operations
    (fun operation member before state => by
      have step := operation_transfer state.1 (paid operation member)
      exact ⟨transfer_sound state.1 step,
        transfer_frozen step state.2 settled⟩)
    repo ⟨sound, found⟩
  exact kept.2

/-- Over any run without a recovery, a wallet has lost exactly what its settled
reservations have collected from its two balances. A settled reservation has
collected the smaller of its cost and its authorization and never changes again;
one that is prepared, dispatched or released has taken nothing. -/
theorem funds_conserved (repo : SettlementRepository) (operations later : List Operation)
    (empty : repo.funds = .empty)
    (keyed : ∀ id wallet, repo.wallets.get? id = some wallet → wallet.id = id)
    (paid : ∀ operation ∈ operations ++ later, operation.isRecovery = false) :
    (∀ walletId,
      ownedUnits repo.wallets .recharge walletId + ownedUnits repo.wallets .gift walletId =
        ownedUnits (repo.run operations).wallets .recharge walletId +
          ownedUnits (repo.run operations).wallets .gift walletId +
          (repo.run operations).funds.total (walletContribution walletId)) ∧
    (∀ token reservation, (repo.run operations).funds.get? token = some reservation →
      reservation.settlement.isSome →
        (∃ actual, reservation.actualCostUnits = some actual ∧
          reservation.collectedCostUnits = min actual reservation.quote.authorizedCostUnits) ∧
        ((repo.run operations).run later).funds.get? token = some reservation) ∧
    (∀ token reservation walletId, (repo.run operations).funds.get? token = some reservation →
        reservation.state ∈ [.prepared, .dispatched, .released] →
          walletContribution walletId reservation = 0) := by
  have start : Conserved repo repo := by
    constructor
    · exact initial_sound empty keyed
    · intro account
      rw [Escrow.charged, ledger, empty]
      rfl
  have final : Conserved repo (repo.run operations) :=
    run_keeps operations (fun operation member before => apply_conserved repo before operation
      (paid operation (mem_append_left _ member))) repo start
  refine ⟨?_, ?_, ?_⟩
  · intro walletId
    have recharge := final.worth (.recharge, walletId)
    have gift := final.worth (.gift, walletId)
    rw [total_walletContribution _ final.sound]
    simp only [ledger] at recharge gift ⊢
    omega
  · intro token reservation found settled
    constructor
    · exact ((final.sound.sound token reservation found).settled settled).2
    · exact run_frozen later
        (fun operation member => paid operation (mem_append_right _ member)) token reservation
        settled _ final.sound found
  · intro token reservation walletId found state
    have unsettled : reservation.settlement = none := by
      apply (final.sound.sound token reservation found).open_of_state
      · rintro settled; simp [settled] at state
      · rintro pending; simp [pending] at state
    simp [walletContribution, unsettled]

/-- The request ends with a cost of 5.2 USD. -/
def sampleFinalize : FinalizeRequestFundsInput where
  identity := sampleIdentity
  usage := {
    requestId := "request"
    userId := some "user"
    apiKeyId := none
    apiKeyIsStandalone := false
    providerId := some "provider"
    status := "completed"
    billingStatus := "pending"
    totalCostUsd := .finite (26 / 5)
    actualTotalCostUsd := .finite (26 / 5)
    billingCostUsd := none
    finalizedAtUnixSecs := some 20 }
  reconciliationFacts := none

/-- A finalize that is sent twice charges once. -/
def sampleRun : List Operation :=
  [.reserveRequestFunds sampleQuote, .markRequestFundsDispatched sampleIdentity,
    .finalizeRequestFunds sampleFinalize, .finalizeRequestFunds sampleFinalize]

theorem funds_conserved_sample :
    (sampleRepository.run sampleRun).funds.total (walletContribution "wallet") = 520000000 ∧
    ownedUnits sampleRepository.wallets .recharge "wallet" +
        ownedUnits sampleRepository.wallets .gift "wallet" =
      ownedUnits (sampleRepository.run sampleRun).wallets .recharge "wallet" +
        ownedUnits (sampleRepository.run sampleRun).wallets .gift "wallet" +
        (sampleRepository.run sampleRun).funds.total (walletContribution "wallet") :=
  ⟨by decide +kernel,
    (funds_conserved sampleRepository sampleRun [] rfl sample_keyed (by decide)).1 "wallet"⟩

end SettlementRepository

end Aeris.Settlement
