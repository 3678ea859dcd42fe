import Aeris.Base.Transition
import Aeris.Settlement.PostgresDebit

/-! The recovery of a usage that was recorded as unpaid. Each call collects what the wallet
has free, and keeps a receipt of all that was collected. The amount due is computed from the
actual cost; the bill that the settlement froze may be another. -/
namespace Aeris.Settlement

open Option OrderedTable Except

namespace SettlementRepository

def collected (repo : SettlementRepository) (request : String) : Nat :=
  (repo.recoveredUnits.get? request).getD 0

/-- A recovery of the request, or any change to wallets and reservations. -/
inductive RecoveryStep (request : String) (repo : SettlementRepository) :
    SettlementRepository → Prop where
  | elsewhere (wallets : Table StoredWalletSnapshot) (funds : Table StoredRequestFundsReservation) :
      RecoveryStep request repo { repo with wallets := wallets, funds := funds }
  | recover : RecoveryStep request repo (recoverInsufficientQuota request repo).2

/-- The monthly totals when the usage has been counted on its provider. -/
def countedOn (repo : SettlementRepository) (usage : UsageSettlementInput) : Table Usd :=
  match usage.providerId with
  | none => repo.providerMonthlyUsed
  | some provider =>
    repo.providerMonthlyUsed.insert provider
      ((repo.providerMonthlyUsed.get? provider).getD .zero + usage.actualTotalCostUsd)

theorem authorized_amount {usd units}
    (authorized : requestFundsAuthorizedUnits usd = .ok units) : usd.IsAmount := by
  cases usd with
  | finite value =>
    obtain ⟨nonnegative, -⟩ := refuse_ok authorized
    exact ⟨value, not_lt.mp nonnegative, rfl⟩
  | infinite negative | nan => cases authorized

/-! ## One recovery -/

structure Recovered (repo next : SettlementRepository) (request : String)
    (usage : UsageSettlementInput) (actual : Nat) (outcome : RequestFundsRecoveryOutcome)
    (previous : StoredUsageSettlement) (collect : Nat) : Prop where
  owed : repo.collected request + collect ≤ actual
  frozen : repo.settlements.get? request = some previous
  receipt : next.recoveredUnits = repo.recoveredUnits.insert request
    (repo.collected request + collect)
  kept : next.recoverableUsage = repo.recoverableUsage
  outcome : outcome.collectedCostUnits = repo.collected request + collect ∧
    outcome.outstandingCostUnits = actual - repo.collected request - collect
  settlement : ∃ settlement, next.settlements = repo.settlements.insert request settlement ∧
    (actual = repo.collected request + collect ∧ previous.billingStatus ≠ "settled" ∧
        settlement.billingStatus = "settled" ∧ next.providerMonthlyUsed = repo.countedOn usage ∨
      ¬ (actual = repo.collected request + collect ∧ previous.billingStatus ≠ "settled") ∧
        settlement.billingStatus = previous.billingStatus ∧
        next.providerMonthlyUsed = repo.providerMonthlyUsed)
  wallets : collect = 0 → next.wallets = repo.wallets

variable {previous : StoredUsageSettlement} {collect : Nat}

section Recover

variable {repo next : SettlementRepository} {request : String} {usage : UsageSettlementInput}

theorem recoverWallet_nothing {wallet after}
    (success : recoverWallet wallet 0 0 = .ok after) : after = wallet := by
  obtain ⟨balance, recharge, success⟩ := bind_ok success
  obtain ⟨giftBalance, gift, success⟩ := bind_ok success
  obtain ⟨_, valid, success⟩ := bind_ok success
  cases recharge
  cases gift
  cases success
  obtain ⟨-, -, ⟨value, -, consumed⟩, -⟩ := validateWalletSettlementValues_ok_iff.mp valid
  have same : wallet.totalConsumed + requestFundsUsd (0 + 0) = wallet.totalConsumed := by
    rw [consumed]
    change Usd.finite (value + (0 + 0 : Nat) / requestFundsUnitsPerUsd) = _
    simp
  rw [same]

theorem chargeProvider_counts {before after providers}
    (charge : repo.chargeProvider usage before = .ok (providers, after)) :
    providers = repo.countedOn usage := by
  unfold chargeProvider at charge
  unfold countedOn
  split at charge
  case h_1 provider named =>
    obtain ⟨-, charge⟩ := refuse_ok charge
    cases charge
    rw [named]
  case h_2 none =>
    cases charge
    rw [none]

theorem recoverSettlement_cases {settlement id before after due providers}
    (success : repo.recoverSettlement usage previous id before after due collect =
      .ok (providers, settlement)) :
    due = collect ∧ previous.billingStatus ≠ "settled" ∧ settlement.billingStatus = "settled" ∧
        providers = repo.countedOn usage ∨ ¬ (due = collect ∧ previous.billingStatus ≠ "settled") ∧
        settlement.billingStatus = previous.billingStatus ∧ providers =
          repo.providerMonthlyUsed := by
  unfold recoverSettlement at success
  by_cases paid : due = collect ∧ previous.billingStatus ≠ "settled"
  · simp only [if_pos paid] at success
    obtain ⟨⟨totals, record⟩, charge, success⟩ := bind_ok success
    cases success
    exact .inl ⟨paid.1, paid.2, rfl, chargeProvider_counts charge⟩
  · simp only [if_neg paid] at success
    cases success
    refine .inr ⟨paid, ?_, rfl⟩
    split_ifs <;> rfl

theorem recoverFrom_recovered {id wallet actual}
    {answer} (stored : repo.wallets.get? id = some wallet)
    (success : repo.recoverFrom request usage id wallet actual = .ok (answer, next)) :
    ∃ outcome previous collect, answer = some outcome ∧
      Recovered repo next request usage actual outcome previous collect := by
  obtain ⟨enough, success⟩ := refuse_ok success
  obtain ⟨recharge, -, success⟩ := bind_ok success
  obtain ⟨gift, -, success⟩ := bind_ok success
  obtain ⟨after, debited, success⟩ := bind_ok success
  change ¬ actual < repo.collected request at enough
  cases frozen : repo.settlements.get? request with
  | none => simp only [frozen] at success; cases success
  | some previous =>
    simp only [frozen] at success
    obtain ⟨⟨providers, settlement⟩, settles, success⟩ := bind_ok success
    obtain ⟨rfl, rfl⟩ := Prod.mk.inj (ok.inj success)
    set collect := if wallet.balance.isNegative then 0
      else min (actual - (repo.recoveredUnits.get? request).getD 0)
        (recharge - heldWalletUnits repo.funds .recharge id +
          (gift - heldWalletUnits repo.funds .gift id)) with isCollect
    have bound : collect ≤ actual - repo.collected request := by
      rw [isCollect]
      split_ifs
      · exact Nat.zero_le _
      · exact min_le_left _ _
    refine ⟨_, previous, collect, rfl, ?_⟩
    constructor
    case owed => omega
    case frozen => exact frozen
    case receipt => rfl
    case kept => rfl
    case outcome => exact ⟨rfl, rfl⟩
    case settlement =>
      refine ⟨settlement, rfl, ?_⟩
      have whole : actual - (repo.recoveredUnits.get? request).getD 0 = collect ↔
          actual = repo.collected request + collect := by
        change actual - repo.collected request = collect ↔ _
        omega
      have settles := recoverSettlement_cases settles
      rw [whole] at settles
      exact settles
    case wallets =>
      intro nothing
      rw [nothing, Nat.zero_min, Nat.sub_zero] at debited
      rw [recoverWallet_nothing debited]
      exact insert_present _ stored

theorem recoverInsufficientQuota_cases
    (recoverable : repo.recoverableUsage.get? request = some usage)
    {actual} (authorized : requestFundsAuthorizedUnits usage.actualTotalCostUsd = .ok actual) :
    (∃ outcome previous collect, (recoverInsufficientQuota request repo).1 = .ok (some outcome) ∧
        Recovered repo (recoverInsufficientQuota request repo).2 request usage actual outcome previous
          collect) ∨
      ((recoverInsufficientQuota request repo).2 = repo ∧
        ∀ outcome, (recoverInsufficientQuota request repo).1 ≠ .ok (some outcome)) := by
  rcases recoverInsufficientQuota_run request repo with
    same | ⟨_, _, id, wallet, answer, known, read, stored, success, answered⟩
  · exact .inr same
  · cases recoverable.symm.trans known
    cases authorized.symm.trans read
    obtain ⟨outcome, previous, collect, rfl, recovered⟩ := recoverFrom_recovered stored success
    exact .inl ⟨outcome, previous, collect, answered, recovered⟩

end Recover

/-! ## Runs -/

/-- A usage that was recorded as unpaid, some time later: what was collected is below the bill
and nothing was counted on the provider, or it is the bill and the usage was counted once. -/
structure OnRecord (first : SettlementRepository) (request : String) (usage : UsageSettlementInput)
    (bill : Nat) (repo : SettlementRepository) : Prop where
  recoverable : repo.recoverableUsage.get? request = some usage
  account : ∃ settlement, repo.settlements.get? request = some settlement ∧
    (settlement.billingStatus ≠ "settled" ∧ repo.collected request < bill ∧
        repo.providerMonthlyUsed = first.providerMonthlyUsed ∨
      settlement.billingStatus = "settled" ∧ repo.collected request = bill ∧
        repo.providerMonthlyUsed = first.countedOn usage)

section Runs

variable {first repo next : SettlementRepository} {request : String} {usage : UsageSettlementInput}
  {bill : Nat}

theorem Recovered.collected {outcome}
    (recovered : Recovered repo next request usage bill outcome previous collect) :
    next.collected request = repo.collected request + collect := by
  rw [SettlementRepository.collected, recovered.receipt, get?_insert_self]
  rfl

theorem Recovered.recorded {outcome}
    (recovered : Recovered repo next request usage bill outcome previous collect)
    (recorded : OnRecord first request usage bill repo) :
    OnRecord first request usage bill next := by
  obtain ⟨settlement, written, settles⟩ := recovered.settlement
  obtain ⟨earlier, stored, account⟩ := recorded.account
  obtain rfl : previous = earlier := some.inj (recovered.frozen.symm.trans stored)
  refine ⟨recovered.kept ▸ recorded.recoverable, settlement, ?_, ?_⟩
  · rw [written, get?_insert_self]
  · rw [recovered.collected]
    have owed := recovered.owed
    rcases settles with ⟨whole, unpaid, paid, counted⟩ | ⟨rest, same, kept⟩
    · rcases account with ⟨-, -, untouched⟩ | ⟨settled, -, -⟩
      · refine .inr ⟨paid, whole.symm, ?_⟩
        rw [counted, countedOn, countedOn, untouched]
      · exact absurd settled unpaid
    · rw [same, kept]
      rcases account with ⟨unpaid, less, untouched⟩ | ⟨settled, full, counted⟩
      · refine .inl ⟨unpaid, ?_, untouched⟩
        have notWhole : bill ≠ repo.collected request + collect := fun whole => rest ⟨whole, unpaid⟩
        omega
      · exact .inr ⟨settled, by omega, counted⟩

theorem RecoveryStep.recorded (step : RecoveryStep request repo next)
    (authorized : requestFundsAuthorizedUnits usage.actualTotalCostUsd = .ok bill)
    (recorded : OnRecord first request usage bill repo) :
    OnRecord first request usage bill next := by
  cases step with
  | elsewhere wallets funds => exact ⟨recorded.recoverable, recorded.account⟩
  | recover =>
    rcases recoverInsufficientQuota_cases recorded.recoverable authorized with
      ⟨outcome, previous, collect, -, recovered⟩ | ⟨same, -⟩
    · exact recovered.recorded recorded
    · rw [same]
      exact recorded

theorem OnRecord.bounded (recorded : OnRecord first request usage bill repo) :
    repo.collected request ≤ bill := by
  obtain ⟨settlement, -, ⟨-, less, -⟩ | ⟨-, full, -⟩⟩ := recorded.account
  · exact less.le
  · exact full.le

theorem OnRecord.providers (recorded : OnRecord first request usage bill repo) :
    repo.collected request < bill ∧ repo.providerMonthlyUsed = first.providerMonthlyUsed ∨
      repo.collected request = bill ∧ repo.providerMonthlyUsed = first.countedOn usage := by
  obtain ⟨settlement, -, ⟨-, less, same⟩ | ⟨-, full, counted⟩⟩ := recorded.account
  · exact .inl ⟨less, same⟩
  · exact .inr ⟨full, counted⟩

theorem RecoveryStep.grows (step : RecoveryStep request repo next)
    (authorized : requestFundsAuthorizedUnits usage.actualTotalCostUsd = .ok bill)
    (recorded : OnRecord first request usage bill repo) :
    repo.collected request ≤ next.collected request := by
  cases step with
  | elsewhere wallets funds => exact le_refl _
  | recover =>
    rcases recoverInsufficientQuota_cases recorded.recoverable authorized with
      ⟨outcome, previous, collect, -, recovered⟩ | ⟨same, -⟩
    · rw [recovered.collected]
      exact Nat.le_add_right _ _
    · rw [same]

theorem OnRecord.idle (authorized : requestFundsAuthorizedUnits usage.actualTotalCostUsd = .ok bill)
    (recorded : OnRecord first request usage bill repo) (full : repo.collected request = bill) :
    (recoverInsufficientQuota request repo).2.wallets = repo.wallets := by
  rcases recoverInsufficientQuota_cases recorded.recoverable authorized with
    ⟨outcome, previous, collect, -, recovered⟩ | ⟨same, -⟩
  · have owed := recovered.owed
    exact recovered.wallets (by omega)
  · rw [same]

theorem settleOnWallet_record {input wallets record}
    (success : repo.settleOnWallet input = .ok (wallets, record)) :
    record.requestId = input.requestId ∧ (record.billingStatus = "insufficient_quota" →
      (settlementBillableCostUsd input).isPositive = true) := by
  have other : settlementBillingStatusForUsageStatus input.status ≠ "insufficient_quota" := by
    unfold settlementBillingStatusForUsageStatus
    split_ifs <;> decide
  have without : ∀ wallets', Except.ok (wallets', settleOnWallet.unpaid input
      (settlementBillingStatusForUsageStatus input.status) (settlementBillableCostUsd input)) =
        (.ok (wallets, record) : Result _) → record.requestId = input.requestId ∧
      (record.billingStatus = "insufficient_quota" →
        (settlementBillableCostUsd input).isPositive = true) := by
    intro wallets' same
    cases same
    refine ⟨rfl, fun unpaid => ?_⟩
    simp only [settleOnWallet.unpaid, settlementRecord] at unpaid
    split_ifs at unpaid with asked
    · exact asked.2
    · exact absurd unpaid other
  unfold settleOnWallet at success
  split at success
  case h_1 id chosen =>
    split at success
    case h_1 wallet stored =>
      obtain ⟨after, -, success⟩ := bind_ok success
      cases success
      exact ⟨rfl, fun unpaid => absurd unpaid other⟩
    case h_2 => exact without _ success
  case h_2 => exact without _ success

theorem settled_unpaid {input settlement}
    (settled : settleUsageObserved input repo = (.ok ⟨some settlement, true⟩, next))
    (unpaid : settlement.billingStatus = "insufficient_quota") :
    next.recoverableUsage.get? input.requestId = some input ∧
      next.settlements.get? input.requestId = some settlement ∧
      next.recoveredUnits = repo.recoveredUnits ∧
      (settlementBillableCostUsd input).isPositive = true := by
  rcases settleUsageObserved_cases repo input with
    ⟨provider, wallets, record, settles⟩ | ⟨-, unsettled⟩
  · obtain ⟨written, rfl⟩ := Prod.mk.inj (settles.run.symm.trans settled)
    have same : { record with providerMonthlyUsedUsd := _ } = settlement :=
      some.inj (congrArg UsageSettlementWriteOutcome.settlement (ok.inj written))
    subst same
    obtain ⟨named, positive⟩ := settleOnWallet_record settles.onWallet
    refine ⟨?_, ?_, rfl, positive unpaid⟩
    · have status : record.billingStatus = "insufficient_quota" := unpaid
      simp only [storeSettlement, status, if_true]
      exact get?_insert_self _ _ _
    · simp only [storeSettlement, ← named]
      exact get?_insert_self _ _ _
  · have new := unsettled _ (congrArg Prod.fst settled)
    cases new

end Runs

/-- A usage is recorded as unpaid, and its bill is the actual cost. However often it is then
recovered, whatever happens to wallets and reservations in between: what is collected never
shrinks and never exceeds the bill, it is the bill when nothing is outstanding, the usage is
counted on its provider once, at that moment, and no later recovery moves money. -/
theorem recovery_collects_bill (repo start : SettlementRepository) (input : UsageSettlementInput)
    (settlement : StoredUsageSettlement) (bill : Nat)
    (settled : settleUsageObserved input repo = (.ok ⟨some settlement, true⟩, start))
    (unpaid : settlement.billingStatus = "insufficient_quota")
    (fresh : repo.recoveredUnits.get? input.requestId = none)
    (authorized : requestFundsAuthorizedUnits (settlementBillableCostUsd input) = .ok bill)
    (same : requestFundsAuthorizedUnits input.actualTotalCostUsd =
      requestFundsAuthorizedUnits (settlementBillableCostUsd input))
    (state next : SettlementRepository)
    (run : Relation.ReflTransGen (RecoveryStep input.requestId) start state)
    (step : RecoveryStep input.requestId state next) :
    (state.collected input.requestId ≤ next.collected input.requestId ∧
      next.collected input.requestId ≤ bill) ∧
    (∀ outcome, (recoverInsufficientQuota input.requestId state).1 = .ok (some outcome) →
      outcome.collectedCostUnits =
        (recoverInsufficientQuota input.requestId state).2.collected input.requestId ∧
      outcome.collectedCostUnits + outcome.outstandingCostUnits = bill) ∧
    (next.providerMonthlyUsed = state.providerMonthlyUsed ∨
      state.providerMonthlyUsed = start.providerMonthlyUsed ∧
        state.collected input.requestId < bill ∧ next.collected input.requestId = bill ∧
        next.providerMonthlyUsed = start.countedOn input) ∧
    (state.collected input.requestId = bill →
      (recoverInsufficientQuota input.requestId state).2.wallets = state.wallets) := by
  rw [authorized] at same
  obtain ⟨recoverable, stored, receipts, positive⟩ := settled_unpaid settled unpaid
  have amount := authorized_amount authorized
  have asks : 0 < bill := by simpa [isPositive_iff amount authorized] using positive
  have begins : OnRecord start input.requestId input bill start := by
    refine ⟨recoverable, settlement, stored, .inl ⟨by simp [unpaid], ?_, rfl⟩⟩
    rw [collected, receipts, fresh]
    exact asks
  have recorded : OnRecord start input.requestId input bill state :=
    Transition.invariant (fun _ _ before taken => taken.recorded same before) run begins
  have later := step.recorded same recorded
  refine ⟨⟨step.grows same recorded, later.bounded⟩, ?_, ?_, recorded.idle same⟩
  · intro outcome answered
    rcases recoverInsufficientQuota_cases recorded.recoverable same with
      ⟨other, previous, collect, answer, recovered⟩ | ⟨-, none⟩
    · obtain rfl : outcome = other := some.inj (ok.inj (answered.symm.trans answer))
      have owed := recovered.owed
      rw [recovered.collected, recovered.outcome.1, recovered.outcome.2]
      exact ⟨rfl, by omega⟩
    · exact absurd answered (none outcome)
  · rcases recorded.providers with ⟨less, before⟩ | ⟨full, before⟩ <;>
      rcases later.providers with ⟨still, after⟩ | ⟨done, after⟩
    · exact .inl (after.trans before.symm)
    · exact .inr ⟨before, less, done, after⟩
    · have grows := step.grows same recorded
      omega
    · exact .inl (after.trans before.symm)

/-- The same wallets, but for a user who has none. -/
def walletlessRepository : SettlementRepository := { sampleRepository with wallets := .empty }

/-- A cost of half a dollar, billed as given. -/
def billedUsage (bill : Option ℚ) : UsageSettlementInput :=
  { unreservedUsage (1 / 2) with providerId := some "provider", billingCostUsd := bill.map .finite }

def unpaidSettlement : StoredUsageSettlement :=
  settlementRecord (unreservedUsage (1 / 2)) "insufficient_quota"

/-- The user gets a wallet, and the usage is recovered. -/
def recoveredAfterCredit (bill : Option ℚ) : SettlementRepository :=
  (recoverInsufficientQuota "other"
    { (settleUsageObserved (billedUsage bill) walletlessRepository).2 with
      wallets := sampleRepository.wallets }).2

theorem half_dollar_recovered :
    (recoverInsufficientQuota "other" (recoveredAfterCredit none)).2.wallets =
      (recoveredAfterCredit none).wallets := by
  have run : Relation.ReflTransGen (RecoveryStep "other")
      (settleUsageObserved (billedUsage none) walletlessRepository).2 (recoveredAfterCredit none) :=
    (Relation.ReflTransGen.single (.elsewhere sampleRepository.wallets _)).tail .recover
  exact (recovery_collects_bill walletlessRepository
    (settleUsageObserved (billedUsage none) walletlessRepository).2 (billedUsage none)
    unpaidSettlement 50000000 (by decide +kernel) rfl rfl (by decide +kernel) (by decide +kernel)
    (recoveredAfterCredit none) _ run .recover).2.2.2 (by decide +kernel)

/-- A bill of 3 USD on a cost of half a dollar: the recovery says that nothing is outstanding
when half a dollar was collected. -/
theorem explicit_bill_not_recovered :
    (settleUsageObserved (billedUsage (some 3)) walletlessRepository).1 =
        .ok ⟨some unpaidSettlement, true⟩ ∧
      requestFundsAuthorizedUnits (settlementBillableCostUsd (billedUsage (some 3))) =
        .ok 300000000 ∧
      ((recoverInsufficientQuota "other"
        { (settleUsageObserved (billedUsage (some 3)) walletlessRepository).2 with
          wallets := sampleRepository.wallets }).1.toOption.bind fun answer => answer.map
            fun outcome => (outcome.collectedCostUnits, outcome.outstandingCostUnits)) =
        some (50000000, 0) := by
  decide +kernel

end SettlementRepository

end Aeris.Settlement
