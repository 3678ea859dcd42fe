import Aeris.Settlement.UsagePolicy

/-! What each usage-policy call does, read off its definition once. -/
namespace Aeris.Settlement

open RustStd List OrderedTable

namespace SettlementRepository

variable {repo next : SettlementRepository}

/-! ## Requests -/

theorem fullWindow_none (subject : String) (windows : List UsagePolicyRequestWindow) : ∀ index,
    repo.fullWindow subject index windows = none →
      ∀ window ∈ windows, repo.usedRequests subject window < window.limitRequests := by
  induction windows with
  | nil => intro index _ window member; cases member
  | cons head rest ih =>
    intro index open_ window member
    simp only [fullWindow] at open_
    split_ifs at open_ with full
    rcases mem_cons.mp member with rfl | member
    · exact not_le.mp full
    · exact ih (index + 1) open_ window member

inductive RequestReserved (input : ReserveUsagePolicyRequestInput) (repo : SettlementRepository) :
    Result ReserveUsagePolicyRequestOutcome × SettlementRepository → Prop where
  | refused (result : Result ReserveUsagePolicyRequestOutcome) (denied : result ≠ .ok .allowed) :
      RequestReserved input repo (result, repo)
  | replayed (existing : StoredUsagePolicyRequestAdmission)
      (found : repo.requestAdmissions.get? input.eventToken = some existing)
      (subject : existing.subjectId = input.subjectId)
      (admitted : existing.admittedAtUnixSecs = input.admittedAtUnixSecs) :
      RequestReserved input repo
        (.ok (if existing.state = .released then .alreadyReleased else .allowed),
          repo.storeAdmission input.eventToken { existing with
            retainUntilUnixSecs := max existing.retainUntilUnixSecs input.retainUntilUnixSecs })
  | admitted (valid : input.validate = .ok ())
      (fresh : repo.requestAdmissions.get? input.eventToken = none)
      (room : ∀ window ∈ input.windows,
        repo.usedRequests input.subjectId window < window.limitRequests) :
      RequestReserved input repo
        (.ok .allowed, repo.storeAdmission input.eventToken (newAdmission input))

theorem reserveUsagePolicyRequest_run (input : ReserveUsagePolicyRequestInput)
    (repo : SettlementRepository) :
    RequestReserved input repo (reserveUsagePolicyRequest input repo) := by
  rcases atomically_run _ repo with ⟨failure, same⟩ | ⟨outcome, next, success, same⟩
  · rw [reserveUsagePolicyRequest, same]
    exact .refused _ (by simp)
  rw [reserveUsagePolicyRequest, same]
  clear same
  obtain ⟨_, valid, success⟩ := bind_ok success
  cases found : repo.requestAdmissions.get? input.eventToken with
  | some existing =>
    simp only [found] at success
    by_cases foreign : existing.requestId ≠ input.requestId ∨
        existing.subjectId ≠ input.subjectId
    · rw [if_pos foreign] at success
      cases success
      exact .refused _ (by simp)
    · rw [if_neg foreign] at success
      obtain ⟨moved, success⟩ := refuse_ok success
      cases success
      exact .replayed existing found (by tauto) (not_not.mp moved)
  | none =>
    simp only [found] at success
    cases full : repo.fullWindow input.subjectId 0 input.windows with
    | some rejection =>
      simp only [full] at success
      cases success
      exact .refused _ (by simp)
    | none =>
      simp only [full] at success
      cases success
      exact .admitted valid found (fullWindow_none input.subjectId input.windows 0 full)

inductive RequestReleased (input : ReleaseUsagePolicyRequestAdmissionInput)
    (repo : SettlementRepository) :
    Result (Option StoredUsagePolicyRequestAdmission) × SettlementRepository → Prop where
  | refused (result : Result (Option StoredUsagePolicyRequestAdmission))
      (denied : ∀ admission, result ≠ .ok (some admission)) :
      RequestReleased input repo (result, repo)
  | released (admission after : StoredUsagePolicyRequestAdmission)
      (found : repo.requestAdmissions.get? input.eventToken = some admission)
      (state : after.state = .released)
      (kept : after = { admission with
        state := after.state, releasedAtUnixSecs := after.releasedAtUnixSecs }) :
      RequestReleased input repo (.ok (some after), repo.storeAdmission input.eventToken after)

theorem releaseUsagePolicyRequestAdmission_run (input : ReleaseUsagePolicyRequestAdmissionInput)
    (repo : SettlementRepository) :
    RequestReleased input repo (releaseUsagePolicyRequestAdmission input repo) := by
  rcases atomically_run _ repo with ⟨failure, same⟩ | ⟨outcome, next, success, same⟩
  · rw [releaseUsagePolicyRequestAdmission, same]
    exact .refused _ (by simp)
  rw [releaseUsagePolicyRequestAdmission, same]
  clear same
  have success := check_ok success
  cases found : repo.requestAdmissions.get? input.eventToken with
  | none => simp only [found] at success; cases success; exact .refused _ (by simp)
  | some admission =>
    simp only [found] at success
    split_ifs at success with foreign early active
    · cases success; exact .refused _ (by simp)
    · cases success
    · cases success
      exact .released admission _ found rfl rfl
    · cases success
      apply RequestReleased.released admission _ found _ rfl
      cases state : admission.state with
      | active => exact absurd state active
      | released => rfl

/-! ## Cleanup -/

variable {Row : Type}

theorem removeAll_get? (tokens : List String) : ∀ (table : Table Row) (token : String),
    (removeAll table tokens).get? token = if token ∈ tokens then none else table.get? token := by
  induction tokens with
  | nil => intro table token; simp [removeAll]
  | cons head rest ih =>
    intro table token
    have later := ih (table.erase head) token
    simp only [removeAll, foldl_cons] at later ⊢
    rw [later, get?_erase]
    by_cases same : token = head
    · simp [same]
    · simp [same]

theorem expiredTokens_expired {table : Table Row} {expired batchSize}
    {token} (listed : token ∈ expiredTokens table expired batchSize) :
    ∃ row, table.get? token = some row ∧ expired token row := by
  obtain ⟨⟨key, row⟩, member, rfl⟩ := mem_map.mp (mem_of_mem_take listed)
  obtain ⟨present, passed⟩ := mem_filter.mp member
  exact ⟨row, (table.get?_eq_some_iff key row).mpr present, passed⟩

theorem cleanup_get? (table : Table Row) (expired : String → Row → Bool)
    (batchSize : Nat) (token : String) :
    (removeAll table (expiredTokens table expired batchSize)).get? token = table.get? token ∨
      (removeAll table (expiredTokens table expired batchSize)).get? token = none ∧
        ∃ row, table.get? token = some row ∧ expired token row := by
  rw [removeAll_get?]
  split_ifs with listed
  · exact .inr ⟨rfl, expiredTokens_expired listed⟩
  · exact .inl rfl

theorem total_removeAll_le (amount : Row → Nat) (tokens : List String) :
    ∀ table : Table Row, (removeAll table tokens).total amount ≤ table.total amount := by
  induction tokens with
  | nil => intro table; exact le_rfl
  | cons token rest ih =>
    intro table
    have split := table.total_erase token amount
    have later := ih (table.erase token)
    change (removeAll (table.erase token) rest).total amount ≤ table.total amount
    omega

theorem total_removeAll_free (amount : Row → Nat) (tokens : List String) : ∀ table : Table Row,
      (∀ token ∈ tokens, ∀ row, table.get? token = some row → amount row = 0) →
        (removeAll table tokens).total amount = table.total amount := by
  induction tokens with
  | nil => intro table _; rfl
  | cons token rest ih =>
    intro table free
    have split := table.total_erase token amount
    have nothing : (table.get? token).elim 0 amount = 0 := by
      cases found : table.get? token with
      | none => rfl
      | some row => exact free token mem_cons_self row found
    have later := ih (table.erase token) (fun other member row found => by
      rw [get?_erase] at found
      split_ifs at found
      exact free other (mem_cons_of_mem _ member) row found)
    change (removeAll (table.erase token) rest).total amount = table.total amount
    omega

/-! ## Cost -/

theorem foldlM_checkedAdd (cost : Row → Nat) (overflow : Failure) (rows : List Row) :
    ∀ start total, rows.foldlM (fun used row => match checkedAdd used (cost row) with
      | some sum => (.ok sum : Result Nat)
      | none => .error overflow) start = .ok total → total = start + (rows.map cost).sum := by
  induction rows with
  | nil => intro start total success; cases success; simp
  | cons row rest ih =>
    intro start total success
    rw [foldlM_cons] at success
    obtain ⟨sum, added, later⟩ := bind_ok success
    have sum_eq : sum = start + cost row := by
      cases checked : checkedAdd start (cost row) with
      | none => rw [checked] at added; cases added
      | some value =>
        rw [checked] at added
        cases added
        exact ((checkedAdd_eq_some _ _ _).mp checked).2
    rw [ih sum total later, sum_eq, map_cons, sum_cons, Nat.add_assoc]

theorem sum_filter (picked : Row → Bool) (cost : Row → Nat) (rows : List Row) :
    ((rows.filter picked).map cost).sum =
      (rows.map (fun row => if picked row then cost row else 0)).sum := by
  induction rows with
  | nil => rfl
  | cons row rest ih =>
    cases take : picked row with
    | true | false => simp [take, ih]

/-- The units that a window's check counts, as a sum over the table. -/
def windowCost (repo : SettlementRepository) (input : ReserveUsagePolicyCostInput)
    (skipped : StoredUsagePolicyCostReservation → Bool) (window : UsagePolicyCostWindow) : Nat :=
  repo.costReservations.total (fun row =>
    if !skipped row && inCostWindow input.subjectId window row then
      repo.rowCost input.admittedAtUnixSecs row else 0)

theorem usedCostUnits_eq {input skipped overflow window used}
    (success : repo.usedCostUnits input skipped overflow window = .ok used) :
    used = repo.windowCost input skipped window := by
  have sum := foldlM_checkedAdd _ overflow _ 0 used success
  rw [Nat.zero_add, sum_filter] at sum
  exact sum

theorem exceededWindow_none (input : ReserveUsagePolicyCostInput) (target : Nat)
    (skipped : StoredUsagePolicyCostReservation → Bool) (overflow : Failure)
    (windows : List UsagePolicyCostWindow) : ∀ index,
    repo.exceededWindow input target skipped overflow index windows = .ok none →
      ∀ window ∈ windows, repo.windowCost input skipped window + target ≤
        window.limitCostUnits := by
  induction windows with
  | nil => intro index _ window member; cases member
  | cons head rest ih =>
    intro index success window member
    obtain ⟨used, read, success⟩ := bind_ok success
    split_ifs at success with full
    · cases success
    rcases mem_cons.mp member with rfl | member
    · rw [← usedCostUnits_eq read]
      simp only [checkedAdd] at full
      split_ifs at full with fits
      · simpa using full
      · simp at full
    · exact ih (index + 1) success window member

/-- The row of a token that a retry may raise. -/
def Retryable (input : ReserveUsagePolicyCostInput) (row : StoredUsagePolicyCostReservation) :
    Prop :=
  row.requestId = input.requestId ∧ row.subjectId = input.subjectId ∧ row.state = .reserved ∧
    row.admittedAtUnixSecs = input.admittedAtUnixSecs

inductive CostReserved (input : ReserveUsagePolicyCostInput) (repo : SettlementRepository) :
    Result ReserveUsagePolicyCostOutcome × SettlementRepository → Prop where
  | refused (result : Result ReserveUsagePolicyCostOutcome) : CostReserved input repo (result, repo)
  | admitted (result : Result ReserveUsagePolicyCostOutcome)
      (existing : Option StoredUsagePolicyCostReservation)
      (valid : input.validate = .ok ())
      (plain : repo.isAttemptCostToken input.reservationToken = false)
      (found : repo.costReservations.get? input.reservationToken = existing)
      (retry : ∀ row, existing = some row → Retryable input row)
      (room : ∀ window ∈ input.windows,
        repo.windowCost input (fun row => row.reservationToken = input.reservationToken) window +
          (targetRow input existing).reservedCostUnits ≤ window.limitCostUnits) :
      CostReserved input repo
        (result, repo.storeCost input.reservationToken (targetRow input existing))

theorem admitCost_run {input existing outcome} (valid : input.validate = .ok ())
    (plain : repo.isAttemptCostToken input.reservationToken = false)
    (found : repo.costReservations.get? input.reservationToken = existing)
    (retry : ∀ row, existing = some row → Retryable input row)
    (success : repo.admitCost input existing = .ok (outcome, next)) :
    CostReserved input repo (.ok outcome, next) := by
  obtain ⟨exceeded, checked, success⟩ := bind_ok success
  cases exceeded with
  | some rejection => cases success; exact .refused _
  | none =>
    cases success
    exact .admitted _ existing valid plain found retry
      (exceededWindow_none input _ _ _ input.windows 0 checked)

theorem reserveUsagePolicyCost_run (input : ReserveUsagePolicyCostInput)
    (repo : SettlementRepository) :
    CostReserved input repo (reserveUsagePolicyCost input repo) := by
  rcases atomically_run _ repo with ⟨failure, same⟩ | ⟨outcome, next, success, same⟩
  · rw [reserveUsagePolicyCost, same]
    exact .refused _
  rw [reserveUsagePolicyCost, same]
  clear same
  obtain ⟨_, valid, success⟩ := bind_ok success
  by_cases attempt : repo.isAttemptCostToken input.reservationToken
  · rw [if_pos attempt] at success
    cases success
    exact .refused _
  rw [if_neg attempt] at success
  have plain : repo.isAttemptCostToken input.reservationToken = false := by simpa using attempt
  cases found : repo.costReservations.get? input.reservationToken with
  | none =>
    simp only [found] at success
    exact admitCost_run valid plain found (by simp) success
  | some existing =>
    simp only [found] at success
    by_cases foreign : existing.requestId ≠ input.requestId ∨
        existing.subjectId ≠ input.subjectId
    · rw [if_pos foreign] at success
      cases success
      exact .refused _
    rw [if_neg foreign] at success
    by_cases terminal : existing.state ≠ .reserved
    · rw [if_pos terminal] at success
      cases success
      exact .refused _
    rw [if_neg terminal] at success
    obtain ⟨moved, success⟩ := refuse_ok success
    apply admitCost_run valid plain found _ success
    rintro row same
    cases same
    exact ⟨by tauto, by tauto, not_not.mp terminal, not_not.mp moved⟩

def reconciledRow (input : ReconcileUsagePolicyCostInput)
    (row : StoredUsagePolicyCostReservation) : StoredUsagePolicyCostReservation :=
  { row with
    state := input.terminalState
    actualCostUnits := some input.actualCostUnits
    finalizedAtUnixSecs := some input.finalizedAtUnixSecs }

inductive CostReconciled (input : ReconcileUsagePolicyCostInput) (repo : SettlementRepository) :
    SettlementRepository → Prop where
  | unchanged : CostReconciled input repo repo
  | terminal (row : StoredUsagePolicyCostReservation)
      (plain : repo.isAttemptCostToken input.reservationToken = false)
      (found : repo.costReservations.get? input.reservationToken = some row)
      (reserved : row.state = .reserved) (ended : input.terminalState ≠ .reserved)
      (released : input.terminalState = .released → input.actualCostUnits = 0) :
      CostReconciled input repo
        (repo.storeCost input.reservationToken (reconciledRow input row))

theorem ReconcileUsagePolicyCostInput.validate_terminal (input : ReconcileUsagePolicyCostInput)
    (valid : input.validate = .ok ()) : input.terminalState ≠ .reserved ∧
      (input.terminalState = .released → input.actualCostUnits = 0) := by
  have valid := check_ok (check_ok (check_ok (check_ok valid)))
  cases state : input.terminalState with
  | reserved => simp only [state] at valid; cases valid
  | finalized => exact ⟨by simp, by simp⟩
  | released =>
    simp only [state] at valid
    obtain ⟨zero, _⟩ := refuse_ok valid
    exact ⟨by simp, fun _ => not_not.mp zero⟩

theorem reconcileUsagePolicyCost_run (input : ReconcileUsagePolicyCostInput)
    (repo : SettlementRepository) :
    CostReconciled input repo (reconcileUsagePolicyCost input repo).2 := by
  rcases atomically_run _ repo with ⟨failure, same⟩ | ⟨outcome, next, success, same⟩
  · rw [reconcileUsagePolicyCost, same]
    exact .unchanged
  rw [reconcileUsagePolicyCost, same]
  clear same
  obtain ⟨_, valid, success⟩ := bind_ok success
  obtain ⟨ended, released⟩ := ReconcileUsagePolicyCostInput.validate_terminal input valid
  cases found : repo.costReservations.get? input.reservationToken with
  | none => simp only [found] at success; cases success; exact .unchanged
  | some row =>
    simp only [found] at success
    obtain ⟨attempt, success⟩ := refuse_ok success
    split_ifs at success with foreign reserved
    · cases success; exact .unchanged
    · cases success
      exact .terminal row (by simpa using attempt) found reserved ended released
    · cases success
      have same : repo.storeCost input.reservationToken row = repo := by
        simp [storeCost, repo.costReservations.insert_present found]
      rw [same]
      exact .unchanged

end SettlementRepository

end Aeris.Settlement
