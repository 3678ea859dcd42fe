import Aeris.Base.UniqueInsert
import Aeris.Settlement.DecimalUnits
import Aeris.Settlement.Ordinary

/-! The debit of daily quotas in SQL. Every `daily_quota` item of an entitlement is a grant of
its own, and what is left of each is read before any of them is debited. A debit is a row of
the ledger, unless the entitlement has a row for the request already: then the insert does
nothing, and the debit is counted all the same. -/
namespace Aeris.Settlement

open RustStd List Nat

/-- `Value::as_f64` of a number, read from its digits. -/
def numeralOfText (text : List Char) : Numeral :=
  let negative := text.head? = some '-'
  let unsigned := if negative then text.tail else text
  let whole := unsigned.takeWhile Char.isDigit
  let afterWhole := unsigned.dropWhile Char.isDigit
  let fractional := afterWhole.head? = some '.'
  let fraction := if fractional then afterWhole.tail.takeWhile Char.isDigit else []
  let exponent := if fractional then afterWhole.tail.dropWhile Char.isDigit else afterWhole
  { negative := negative
    whole := whole
    fraction := fraction
    exponent :=
      match exponent with
      | [] => none
      | _ :: '-' :: digits => some (true, digits)
      | _ :: '+' :: digits => some (false, digits)
      | _ :: digits => some (false, digits) }

def jsonUsd : Json → Option Usd
  | .number text => some (.finite (numeralOfText text.toList).value)
  | _ => none

def jsonText : Json → Option String
  | .string text => some text
  | _ => none

def jsonItems : Json → Option (List Json)
  | .array items => some items
  | _ => none

namespace Postgres

/-! ## Grants -/

/-- The date in a time zone at the moment of the call, or what is wrong with the zone's name. -/
abbrev DateIn := String → Except String String

structure DailyQuotaGrant where
  entitlementId : String
  dailyQuotaUsd : Usd
  usageDate : String
  allowWalletOverage : Bool
  deriving DecidableEq

def dailyQuotaUsageDate (dateIn : DateIn) (resetTimezone : Option String) : Result String :=
  match dateIn (((resetTimezone.map trim).filter (fun zone => zone ≠ "")).getD "Asia/Shanghai") with
  | .ok date => .ok date
  | .error problem => invalid ("invalid reset_timezone: " ++ problem)

def dailyQuotaGrantsFromItems (entitlementId : String) (allowWalletOverage : Option Bool)
    (dateIn : DateIn) : List Json → Result (List DailyQuotaGrant)
  | [] => .ok []
  | item :: rest =>
    let dailyQuotaUsd := ((item.get? "daily_quota_usd").bind jsonUsd).getD .zero
    if (item.get? "type").bind jsonText ≠ some "daily_quota" ∨ ¬ dailyQuotaUsd.isFinite ∨
        ¬ dailyQuotaUsd.isPositive then
      dailyQuotaGrantsFromItems entitlementId allowWalletOverage dateIn rest
    else do
      let usageDate ← dailyQuotaUsageDate dateIn ((item.get? "reset_timezone").bind jsonText)
      let grants ← dailyQuotaGrantsFromItems entitlementId allowWalletOverage dateIn rest
      return {
        entitlementId := entitlementId
        dailyQuotaUsd := dailyQuotaUsd
        usageDate := usageDate
        allowWalletOverage := allowWalletOverage.getD
          (((item.get? "allow_wallet_overage").bind Json.asBool).getD false) } :: grants

def dailyQuotaGrantsFromEntitlement (entitlementId : String) (entitlements : Json)
    (allowWalletOverage : Option Bool) (dateIn : DateIn) : Result (List DailyQuotaGrant) :=
  match jsonItems entitlements with
  | none => .ok []
  | some items => dailyQuotaGrantsFromItems entitlementId allowWalletOverage dateIn items

/-! ## Tables -/

/-- A row of `user_plan_entitlements`. -/
structure UserPlanEntitlement where
  id : String
  userId : String
  status : String
  startsAt : Int
  expiresAt : Int
  createdAt : Int
  entitlementsSnapshot : Json
  deriving DecidableEq

/-- A row of `entitlement_usage_ledgers`; the amounts are `NUMERIC(20,8)`, here in units. -/
structure EntitlementUsageLedger where
  userEntitlementId : String
  userId : String
  requestId : String
  amountUnits : Int
  balanceBeforeUnits : Int
  balanceAfterUnits : Int
  usageDate : String
  attemptId : Option String
  deriving DecidableEq

/-- A row of `request_fund_allocations` joined with its reservation. -/
structure RequestFundAllocation where
  sourceId : String
  sourceKind : String
  usageDate : Option String
  reservedCostUnits : Int
  collectedCostUnits : Int
  state : RequestFundsState
  hasSettlement : Bool
  deriving DecidableEq

structure QuotaTables where
  entitlements : List UserPlanEntitlement
  ledger : List EntitlementUsageLedger
  allocations : List RequestFundAllocation
  allowWalletOverage : Table Bool
  deriving DecidableEq

/-- The unique index that the insert names. -/
def EntitlementUsageLedger.requestKey (row : EntitlementUsageLedger) : Option (String × String) :=
  if row.attemptId = none then some (row.userEntitlementId, row.requestId) else none

/-- `SUM(amount_usd)` of an entitlement on a date. -/
def spentUnits (ledger : List EntitlementUsageLedger) (entitlement date : String) : Int :=
  ((ledger.filter fun row => row.userEntitlementId = entitlement ∧ row.usageDate = date).map
    (·.amountUnits)).sum

/-- A sum cast to `BIGINT`; the database refuses one that does not fit. -/
def bigint (value : Int) : Result Int :=
  if -(2 ^ 63) ≤ value ∧ value < 2 ^ 63 then .ok value
  else .error (.unexpectedValue "bigint out of range")

abbrev Pot := DailyQuotaGrant × Nat

/-- A grant, what was left of it and what is taken from it. -/
abbrev Part := DailyQuotaGrant × Nat × Nat

namespace QuotaTables

/-- The sum of what active reservations hold of a source. -/
def heldSum (tables : QuotaTables) (sourceId kind : String) (usageDate : Option String) : Int :=
  ((tables.allocations.filter fun row => row.sourceId = sourceId ∧ row.sourceKind = kind ∧
    row.usageDate = usageDate ∧ row.state.holdsFunds ∧ ¬ row.hasSettlement).map
    fun row => row.reservedCostUnits - row.collectedCostUnits).sum

def heldSourceUnits (tables : QuotaTables) (sourceId kind : String) (usageDate : Option String) :
    Result Nat := do
  let units ← bigint (tables.heldSum sourceId kind usageDate)
  if units < 0 then invalid "negative held request funds" else return units.toNat

/-- The user's entitlements that are active now, the first to expire first. -/
def activeEntitlements (tables : QuotaTables) (userId : String) (now : Int) :
    List UserPlanEntitlement :=
  (tables.entitlements.filter fun row =>
    row.userId = userId ∧ row.status = "active" ∧ row.startsAt ≤ now ∧ now < row.expiresAt).insertionSort
    fun first second => first.expiresAt < second.expiresAt ∨ first.expiresAt = second.expiresAt ∧
      (first.createdAt < second.createdAt ∨
        first.createdAt = second.createdAt ∧ first.id ≤ second.id)

def dailyQuotaGrants (tables : QuotaTables) (dateIn : DateIn) (userId : String) (now : Int) :
    Result (List DailyQuotaGrant) := do
  let grants ← (tables.activeEntitlements userId now).mapM fun row =>
    dailyQuotaGrantsFromEntitlement row.id row.entitlementsSnapshot none dateIn
  return grants.flatten

/-- What is left of a grant: the quota without what was spent and what is held. -/
def remainingOf (tables : QuotaTables) (grant : DailyQuotaGrant) : Result Nat := do
  let used ← bigint (spentUnits tables.ledger grant.entitlementId grant.usageDate)
  if used < 0 then .error (.unexpectedValue "daily quota usage ledger total is invalid")
  else do
    let held ← tables.heldSourceUnits grant.entitlementId "entitlement" (some grant.usageDate)
    let quota ← requestFundsAvailableUnits grant.dailyQuotaUsd
    return quota - used.toNat - held

/-- Each grant with what is left of it, and the sum of that, on top of `total`. -/
def grantsWithRemaining (tables : QuotaTables) :
    Nat → List DailyQuotaGrant → Result (List Pot × Nat)
  | total, [] => .ok ([], total)
  | total, grant :: rest => do
      let remaining ← tables.remainingOf grant
      match checkedAdd total remaining with
      | none => .error (.unexpectedValue "daily quota remaining total overflowed")
      | some total => do
          let (pots, sum) ← tables.grantsWithRemaining total rest
          return ((grant, remaining) :: pots, sum)

end QuotaTables

/-! ## Consumption -/

structure DailyQuotaDebitResult where
  debitedUsd : Usd
  insufficient : Bool
  deriving DecidableEq

/-- The grants, with the wallet where it may take the rest, do not cover the cost. -/
def quotaInsufficient (allowWalletOverage walletCanOverdraft : Bool)
    (walletAvailableUnits : Option Nat) (totalRemaining cost : Nat) : Bool :=
  (¬ allowWalletOverage ∧ totalRemaining < cost) ∨
    (allowWalletOverage ∧ ¬ walletCanOverdraft ∧
      walletAvailableUnits.any fun available => saturatingAdd totalRemaining available < cost)

structure QuotaDebit where
  remainingCost : Nat
  debited : Nat
  ledger : List EntitlementUsageLedger
  deriving DecidableEq

def ledgerRow (userId requestId : String) (grant : DailyQuotaGrant) (balanceBefore amount : Nat) :
    EntitlementUsageLedger where
  userEntitlementId := grant.entitlementId
  userId := userId
  requestId := requestId
  amountUnits := amount
  balanceBeforeUnits := balanceBefore
  balanceAfterUnits := (balanceBefore - amount : Nat)
  usageDate := grant.usageDate
  attemptId := none

def debitGrant (userId requestId : String) (debit : QuotaDebit) (pot : Pot) : QuotaDebit :=
  if debit.remainingCost = 0 ∨ pot.2 = 0 then debit
  else
    let amount := min debit.remainingCost pot.2
    { remainingCost := debit.remainingCost - amount
      debited := debit.debited + amount
      ledger := UniqueInsert.insert EntitlementUsageLedger.requestKey debit.ledger
        (ledgerRow userId requestId pot.1 pot.2 amount) }

def debitDailyQuotas (tables : QuotaTables) (dateIn : DateIn) (now : Int) (userId requestId :
    String) (cost : Nat) (walletAvailableUnits : Option Nat) (walletCanOverdraft : Bool) :
    Result (DailyQuotaDebitResult × QuotaTables) := do
  let grants ← tables.dailyQuotaGrants dateIn userId now
  if grants = [] then
    return (⟨.zero, ¬ walletCanOverdraft ∧ walletAvailableUnits.any fun available =>
      available < cost⟩, tables)
  else do
    let (pots, totalRemaining) ← tables.grantsWithRemaining 0 grants
    let preference := tables.allowWalletOverage.get? userId
    let allowWalletOverage := grants.all fun grant => preference.getD grant.allowWalletOverage
    if quotaInsufficient allowWalletOverage walletCanOverdraft walletAvailableUnits totalRemaining
        cost then
      return (⟨.zero, true⟩, tables)
    else
      let debit := pots.foldl (debitGrant userId requestId) ⟨cost, 0, tables.ledger⟩
      return (⟨requestFundsUsd debit.debited, false⟩, { tables with ledger := debit.ledger })

def consumeDailyQuotaPostgres (tables : QuotaTables) (dateIn : DateIn) (now : Int)
    (userId requestId : String) (totalCostUsd : Usd) (walletAvailableUsd : Option Usd)
    (walletCanOverdraft : Bool) : Result (DailyQuotaDebitResult × QuotaTables) :=
  if ¬ totalCostUsd.isFinite ∨ totalCostUsd.isNegative then
    invalid "daily quota settlement cost must be finite and non-negative"
  else if totalCostUsd = .zero then .ok (⟨.zero, false⟩, tables)
  else do
    let cost ← requestFundsAuthorizedUnits totalCostUsd
    let walletAvailableUnits ← walletAvailableUsd.mapM requestFundsAvailableUnits
    debitDailyQuotas tables dateIn now userId requestId cost walletAvailableUnits walletCanOverdraft

/-! ## What the debits add up to -/

/-- The grants that a cost is spread over, with their parts of it. -/
def drawn : Nat → List Pot → List Part
  | _, [] => []
  | cost, (grant, left) :: rest =>
    if cost = 0 ∨ left = 0 then drawn cost rest
    else (grant, left, min cost left) :: drawn (cost - min cost left) rest

def partRow (userId requestId : String) (part : Part) : EntitlementUsageLedger :=
  ledgerRow userId requestId part.1 part.2.1 part.2.2

def partsTotal (parts : List Part) : Nat :=
  (parts.map fun part => part.2.2).sum

section Debits

variable {userId requestId : String}

theorem foldl_debitGrant (pots : List Pot) : ∀ debit : QuotaDebit,
    pots.foldl (debitGrant userId requestId) debit =
      { remainingCost := debit.remainingCost - partsTotal (drawn debit.remainingCost pots)
        debited := debit.debited + partsTotal (drawn debit.remainingCost pots)
        ledger := ((drawn debit.remainingCost pots).map (partRow userId requestId)).foldl
          (UniqueInsert.insert EntitlementUsageLedger.requestKey) debit.ledger } := by
  induction pots with
  | nil => intro debit; rfl
  | cons pot rest ih =>
    intro debit
    rw [foldl_cons, ih, debitGrant, drawn]
    split_ifs with skipped
    · rfl
    · simp only [partsTotal, map_cons, sum_cons, foldl_cons, Nat.sub_sub, Nat.add_assoc]
      rfl

theorem drawn_part {cost pots} : partsTotal (drawn cost pots) ≤ cost ∧ ∀ part ∈ drawn cost pots,
      (part.1, part.2.1) ∈ pots ∧ 0 < part.2.2 ∧ part.2.2 ≤ part.2.1 := by
  induction pots generalizing cost with
  | nil => exact ⟨zero_le _, fun part member => by cases member⟩
  | cons pot rest ih =>
    obtain ⟨grant, left⟩ := pot
    rw [drawn]
    split_ifs with skipped
    · obtain ⟨total, parts⟩ := @ih cost
      refine ⟨total, fun part member => ?_⟩
      obtain ⟨here, amounts⟩ := parts part member
      exact ⟨mem_cons_of_mem _ here, amounts⟩
    · obtain ⟨total, parts⟩ := @ih (cost - min cost left)
      refine ⟨?_, fun part member => ?_⟩
      · simp only [partsTotal, map_cons, sum_cons] at total ⊢
        omega
      · rcases mem_cons.mp member with rfl | later
        · exact ⟨mem_cons_self, by simp; omega, by simp⟩
        · obtain ⟨here, amounts⟩ := parts part later
          exact ⟨mem_cons_of_mem _ here, amounts⟩

theorem taken_partRow (ledger : List EntitlementUsageLedger) (part : Part) :
    UniqueInsert.taken EntitlementUsageLedger.requestKey ledger (partRow userId requestId part) =
      false ↔ ∀ row ∈ ledger, row.attemptId = none →
        row.userEntitlementId = part.1.entitlementId → row.requestId ≠ requestId := by
  simp only [UniqueInsert.taken, partRow, ledgerRow, EntitlementUsageLedger.requestKey, if_true,
    Option.any_some, any_eq_false]
  refine forall₂_congr fun row member => ?_
  split_ifs with whole <;> simp [whole]

theorem apart_partRow (first second : Part) :
    UniqueInsert.Apart EntitlementUsageLedger.requestKey (partRow userId requestId first)
      (partRow userId requestId second) ↔ first.1.entitlementId ≠ second.1.entitlementId := by
  rw [← UniqueInsert.taken_single, taken_partRow]
  simp [partRow, ledgerRow]

end Debits

/-- The cost draws on every entitlement at most once, and on none that has a row for it. -/
def DrawsOnce (tables : QuotaTables) (requestId : String) (cost : Nat) (pots : List Pot) : Prop :=
  ((drawn cost pots).Pairwise fun first second => first.1.entitlementId ≠ second.1.entitlementId) ∧
    ∀ part ∈ drawn cost pots, ∀ row ∈ tables.ledger, row.attemptId = none →
      row.userEntitlementId = part.1.entitlementId → row.requestId ≠ requestId

/-- What the entitlement is granted for a date, over all of its items. -/
def grantedUnits (grants : List DailyQuotaGrant) (entitlement date : String) : Nat :=
  ((grants.filter fun grant => grant.entitlementId = entitlement ∧ grant.usageDate = date).map
    fun grant => grant.dailyQuotaUsd.wholeUnits).sum

def QuotaTables.WithinQuota (tables : QuotaTables) (grants : List DailyQuotaGrant) : Prop :=
  ∀ grant ∈ grants, spentUnits tables.ledger grant.entitlementId grant.usageDate +
      tables.heldSum grant.entitlementId "entitlement" (some grant.usageDate) ≤
    grantedUnits grants grant.entitlementId grant.usageDate

/-- The rows that the call inserted add up to what it reports, within the cost. -/
def Booked (before after : QuotaTables) (totalCostUsd : Usd) (result : DailyQuotaDebitResult) :
    Prop :=
  ∃ rows debited cost, after.ledger = before.ledger ++ rows ∧
    result.debitedUsd = requestFundsUsd debited ∧
    (debited : ℤ) = (rows.map (·.amountUnits)).sum ∧
    requestFundsAuthorizedUnits totalCostUsd = .ok cost ∧ debited ≤ cost

section Books

variable {tables : QuotaTables} {userId requestId : String} {cost : Nat}
  {grants : List DailyQuotaGrant} {pots : List Pot}

theorem remainingOf_ok {grant left}
    (read : tables.remainingOf grant = .ok left) (positive : 0 < left) :
    spentUnits tables.ledger grant.entitlementId grant.usageDate +
      tables.heldSum grant.entitlementId "entitlement" (some grant.usageDate) + left ≤
        grant.dailyQuotaUsd.wholeUnits := by
  obtain ⟨used, spent, read⟩ := bind_ok read
  split_ifs at read with negative
  obtain ⟨held, reserved, read⟩ := bind_ok read
  obtain ⟨quota, granted, read⟩ := bind_ok read
  obtain ⟨sum, summed, reserved⟩ := bind_ok reserved
  obtain ⟨sign, reserved⟩ := refuse_ok reserved
  unfold bigint at spent summed
  split_ifs at spent summed
  rw [requestFundsAvailableUnits_whole granted]
  cases spent; cases summed; cases reserved; cases read
  omega

theorem grantsWithRemaining_ok {total sum}
    (read : tables.grantsWithRemaining total grants = .ok (pots, sum)) :
    pots.map Prod.fst = grants ∧ ∀ pot ∈ pots, tables.remainingOf pot.1 = .ok pot.2 := by
  induction grants generalizing total pots with
  | nil => cases read; simp
  | cons grant rest ih =>
    obtain ⟨left, remaining, read⟩ := bind_ok read
    split at read
    · cases read
    · obtain ⟨⟨later, sum⟩, tail, read⟩ := bind_ok read
      cases read
      obtain ⟨same, each⟩ := ih tail
      exact ⟨by rw [map_cons, same], forall_mem_cons.mpr ⟨remaining, each⟩⟩

theorem spentUnits_append (ledger rows : List EntitlementUsageLedger) (entitlement date : String) :
    spentUnits (ledger ++ rows) entitlement date =
      spentUnits ledger entitlement date + spentUnits rows entitlement date := by
  simp [spentUnits]

theorem spentUnits_cons (row : EntitlementUsageLedger) (rows : List EntitlementUsageLedger)
    (entitlement date : String) : spentUnits (row :: rows) entitlement date =
      (if row.userEntitlementId = entitlement ∧ row.usageDate = date then row.amountUnits else 0) +
        spentUnits rows entitlement date := by
  unfold spentUnits
  rw [filter_cons]
  split_ifs with here here' <;> simp_all

theorem spentUnits_parts (userId requestId : String) {parts : List Part}
    (different : parts.Pairwise fun first second => first.1.entitlementId ≠ second.1.entitlementId)
    (entitlement date : String) :
    spentUnits (parts.map (partRow userId requestId)) entitlement date = 0 ∨
      ∃ part ∈ parts, part.1.entitlementId = entitlement ∧ part.1.usageDate = date ∧
        spentUnits (parts.map (partRow userId requestId)) entitlement date = part.2.2 := by
  induction parts with
  | nil => exact .inl rfl
  | cons part rest ih =>
    obtain ⟨apart, later⟩ := pairwise_cons.mp different
    simp only [map_cons, spentUnits_cons, exists_mem_cons_iff]
    rcases ih later with none | ⟨other, member, same, day, spent⟩
    · rw [none, add_zero]
      split_ifs with here
      · exact .inr (.inl ⟨here.1, here.2, rfl⟩)
      · exact .inl rfl
    · rw [if_neg fun here => apart other member (here.1.trans same.symm), zero_add]
      exact .inr (.inr ⟨other, member, same, day, spent⟩)

theorem partsTotal_rows (userId requestId : String) (parts : List Part) : (partsTotal parts : ℤ) =
      ((parts.map (partRow userId requestId)).map (·.amountUnits)).sum := by
  induction parts with
  | nil => rfl
  | cons part rest ih =>
    simp only [partsTotal, map_cons, sum_cons, cast_add] at ih ⊢
    rw [ih]
    rfl

abbrev bookedRows (tables : QuotaTables) (userId requestId : String) (cost : Nat)
    (pots : List Pot) : List EntitlementUsageLedger :=
  UniqueInsert.kept EntitlementUsageLedger.requestKey tables.ledger
    ((drawn cost pots).map (partRow userId requestId))

theorem drawsOnce_iff (userId : String) : DrawsOnce tables requestId cost pots ↔
    bookedRows tables userId requestId cost pots =
      (drawn cost pots).map (partRow userId requestId) := by
  rw [bookedRows, UniqueInsert.kept_eq_iff, pairwise_map, forall_mem_map]
  simp only [apart_partRow, taken_partRow, DrawsOnce]

theorem positive_rows (userId requestId : String) (cost : Nat) (pots : List Pot) :
    ∀ row ∈ (drawn cost pots).map (partRow userId requestId), 0 < row.amountUnits := by
  intro row member
  obtain ⟨part, drawnPart, rfl⟩ := mem_map.mp member
  have amount := (drawn_part.2 part drawnPart).2.1
  simp only [partRow, ledgerRow]
  omega

theorem booked_sum_iff (userId : String) : (partsTotal (drawn cost pots) : ℤ) =
      ((bookedRows tables userId requestId cost pots).map (·.amountUnits)).sum ↔
    DrawsOnce tables requestId cost pots := by
  rw [partsTotal_rows userId requestId, drawsOnce_iff userId]
  exact (UniqueInsert.kept_sum (positive_rows userId requestId cost pots) _).2

theorem withinQuota_booked {total sum : Nat}
    (read : tables.grantsWithRemaining total grants = .ok (pots, sum))
    (once : DrawsOnce tables requestId cost pots) : QuotaTables.WithinQuota
        { tables with ledger := tables.ledger ++ bookedRows tables userId requestId cost pots } grants ↔
      tables.WithinQuota grants := by
  obtain ⟨same, each⟩ := grantsWithRemaining_ok read
  refine forall₂_congr fun grant member => ?_
  simp only [QuotaTables.heldSum, spentUnits_append, (drawsOnce_iff userId).mp once]
  rcases spentUnits_parts userId requestId once.1 grant.entitlementId grant.usageDate with
    none | ⟨part, drawnPart, here, day, spent⟩
  · rw [none, add_zero]
  · -- what the part takes was left of a grant for the same date
    obtain ⟨pot, positive, atMost⟩ := drawn_part.2 part drawnPart
    have left := remainingOf_ok (each _ pot) (positive.trans_le atMost)
    have granted : part.1.dailyQuotaUsd.wholeUnits ≤
        grantedUnits grants grant.entitlementId grant.usageDate := by
      refine le_sum_of_mem (mem_map.mpr ⟨part.1, mem_filter.mpr ⟨?_, ?_⟩, rfl⟩)
      · exact same ▸ mem_map_of_mem pot
      · simp [here, day]
    simp only [here, day, QuotaTables.heldSum] at left
    constructor <;> intro within <;> omega

end Books

section Consumption

variable {tables : QuotaTables} {dateIn : DateIn} {now : Int} {userId requestId : String}
  {totalCostUsd : Usd} {walletAvailableUsd : Option Usd} {walletCanOverdraft : Bool}

variable (tables dateIn now userId requestId totalCostUsd walletAvailableUsd walletCanOverdraft) in
/-- Whenever the grants cover the cost, it draws on every entitlement at most once. -/
def QuotaTables.SpreadsOnce : Prop :=
  ∀ cost walletAvailableUnits grants pots totalRemaining,
    requestFundsAuthorizedUnits totalCostUsd = .ok cost →
    walletAvailableUsd.mapM requestFundsAvailableUnits = .ok walletAvailableUnits →
    tables.dailyQuotaGrants dateIn userId now = .ok grants →
    tables.grantsWithRemaining 0 grants = .ok (pots, totalRemaining) →
    ¬ quotaInsufficient
        (grants.all fun grant => (tables.allowWalletOverage.get? userId).getD grant.allowWalletOverage)
        walletCanOverdraft walletAvailableUnits totalRemaining cost →
    DrawsOnce tables requestId cost pots

variable (tables dateIn now userId) in
def QuotaTables.grantsNow : List DailyQuotaGrant :=
  (tables.dailyQuotaGrants dateIn userId now).toOption.getD []

theorem booked_nothing {cost insufficient}
    (authorized : requestFundsAuthorizedUnits totalCostUsd = .ok cost) :
    Booked tables tables totalCostUsd ⟨.zero, insufficient⟩ :=
  ⟨[], 0, cost, by simp, by simp [requestFundsUsd, Usd.zero], rfl, authorized, zero_le cost⟩

theorem drawsOnce_idle {cost pots} (idle : cost = 0 ∨ pots = []) :
    DrawsOnce tables requestId cost pots := by
  have none : drawn cost pots = [] := by
    rcases idle with rfl | rfl
    · induction pots with
      | nil => rfl
      | cons pot rest ih => simpa [drawn] using ih
    · rfl
  simp [DrawsOnce, none]

theorem debit_booked_iff {cost pots}
    (authorized : requestFundsAuthorizedUnits totalCostUsd = .ok cost) : Booked tables
        { tables with ledger := tables.ledger ++ bookedRows tables userId requestId cost pots }
        totalCostUsd ⟨requestFundsUsd (partsTotal (drawn cost pots)), false⟩ ↔
      DrawsOnce tables requestId cost pots := by
  rw [← booked_sum_iff userId]
  constructor
  · rintro ⟨rows, debited, _, inserted, reported, sum, -⟩
    have units := congrArg Usd.wholeUnits reported
    rw [wholeUnits_requestFundsUsd, wholeUnits_requestFundsUsd] at units
    rw [units, sum, append_cancel_left inserted]
  · intro sum
    exact ⟨_, _, cost, rfl, rfl, sum, authorized, drawn_part.1⟩

section

variable {result : DailyQuotaDebitResult} {after : QuotaTables}
  (ran : consumeDailyQuotaPostgres tables dateIn now userId requestId totalCostUsd
    walletAvailableUsd walletCanOverdraft = .ok (result, after))
include ran

theorem consumeDailyQuotaPostgres_cases :
    ∃ cost, requestFundsAuthorizedUnits totalCostUsd = .ok cost ∧
      ((result.debitedUsd = .zero ∧ after = tables ∧ tables.SpreadsOnce dateIn now userId requestId
          totalCostUsd walletAvailableUsd walletCanOverdraft) ∨ ∃ pots totalRemaining,
          tables.grantsWithRemaining 0 (tables.grantsNow dateIn now userId) =
            .ok (pots, totalRemaining) ∧
          result = ⟨requestFundsUsd (partsTotal (drawn cost pots)), false⟩ ∧
          after = { tables with ledger :=
            tables.ledger ++ bookedRows tables userId requestId cost pots } ∧
          (tables.SpreadsOnce dateIn now userId requestId totalCostUsd walletAvailableUsd
            walletCanOverdraft ↔ DrawsOnce tables requestId cost pots)) := by
  obtain ⟨_, ran⟩ := refuse_ok ran
  split_ifs at ran with free
  · -- a cost of zero draws on nothing
    cases ran
    have authorized : requestFundsAuthorizedUnits totalCostUsd = .ok 0 := by
      rw [free]
      decide +kernel
    refine ⟨0, authorized, .inl ⟨rfl, rfl, ?_⟩⟩
    intro cost _ _ _ _ read _ _ _ _
    rw [authorized] at read
    exact drawsOnce_idle (.inl (Except.ok.inj read).symm)
  · obtain ⟨cost, authorized, ran⟩ := bind_ok ran
    obtain ⟨wallet, available, ran⟩ := bind_ok ran
    obtain ⟨grants, granted, ran⟩ := bind_ok ran
    refine ⟨cost, authorized, ?_⟩
    split_ifs at ran with ungranted
    · cases ran
      refine .inl ⟨rfl, rfl, ?_⟩
      intro _ _ _ _ _ _ _ listed spread _
      cases granted.symm.trans listed
      subst ungranted
      cases spread
      exact drawsOnce_idle (.inr rfl)
    · obtain ⟨⟨pots, totalRemaining⟩, read, ran⟩ := bind_ok ran
      dsimp only at ran
      split_ifs at ran with insufficient
      · cases ran
        refine .inl ⟨rfl, rfl, ?_⟩
        intro _ _ _ _ _ costs wallets listed spread covered
        cases authorized.symm.trans costs
        cases available.symm.trans wallets
        cases granted.symm.trans listed
        cases read.symm.trans spread
        exact absurd insufficient covered
      · rw [foldl_debitGrant, UniqueInsert.foldl_insert, zero_add] at ran
        cases ran
        refine .inr ⟨pots, totalRemaining, ?_, rfl, rfl, ?_, ?_⟩
        · rw [QuotaTables.grantsNow, granted]
          exact read
        · intro once
          exact once _ _ _ _ _ authorized available granted read insufficient
        · intro once _ _ _ _ _ costs _ listed spread _
          cases authorized.symm.trans costs
          cases granted.symm.trans listed
          cases read.symm.trans spread
          exact once

end

/-- A plan with a dollar a day in each of two time zones. -/
def twoZones : QuotaTables where
  entitlements := [{
    id := "plan"
    userId := "user"
    status := "active"
    startsAt := 0
    expiresAt := 10
    createdAt := 0
    entitlementsSnapshot := .array (["Asia/Shanghai", "UTC"].map fun zone =>
      .object [("type", .string "daily_quota"), ("daily_quota_usd", .number "1"),
        ("reset_timezone", .string zone)]) }]
  ledger := []
  allocations := []
  allowWalletOverage := OrderedTable.empty

end Consumption
end Postgres
end Aeris.Settlement
