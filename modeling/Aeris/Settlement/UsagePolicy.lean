import Aeris.Settlement.Repository

/-! The usage-policy calls: admission of requests into counted windows, and
reservation of cost in windows of limited cost. Rows are kept by token until
their retention has passed and a cleanup removes them. -/
namespace Aeris.Settlement

open RustStd

namespace SettlementRepository

/-! ## Requests -/

def activeInWindow (subject : String) (window : UsagePolicyRequestWindow)
    (admission : StoredUsagePolicyRequestAdmission) : Bool :=
  admission.state = .active ∧ admission.subjectId = subject ∧
    admission.admittedAtUnixSecs ≥ window.startsAtUnixSecs ∧
    admission.admittedAtUnixSecs < window.endsAtUnixSecs

def usedRequests (repo : SettlementRepository) (subject : String)
    (window : UsagePolicyRequestWindow) : Nat :=
  repo.requestAdmissions.values.countP (activeInWindow subject window)

/-- The loop over the windows: the first that is full, if there is one. -/
def fullWindow (repo : SettlementRepository) (subject : String) :
    Nat → List UsagePolicyRequestWindow → Option (Nat × Nat × Nat)
  | _, [] => none
  | index, window :: rest =>
    if repo.usedRequests subject window ≥ window.limitRequests then
      some (index, window.limitRequests, repo.usedRequests subject window)
    else repo.fullWindow subject (index + 1) rest

def storeAdmission (repo : SettlementRepository) (token : String)
    (admission : StoredUsagePolicyRequestAdmission) : SettlementRepository :=
  { repo with requestAdmissions := repo.requestAdmissions.insert token admission }

def newAdmission (input : ReserveUsagePolicyRequestInput) : StoredUsagePolicyRequestAdmission where
  requestId := input.requestId
  subjectId := input.subjectId
  eventToken := input.eventToken
  admittedAtUnixSecs := input.admittedAtUnixSecs
  retainUntilUnixSecs := input.retainUntilUnixSecs
  state := .active
  releasedAtUnixSecs := none

def reserveUsagePolicyRequest (input : ReserveUsagePolicyRequestInput) :
    Call ReserveUsagePolicyRequestOutcome :=
  atomically fun repo => do
    input.validate
    match repo.requestAdmissions.get? input.eventToken with
    | some existing =>
      if existing.requestId ≠ input.requestId ∨ existing.subjectId ≠ input.subjectId then
        return (.conflict, repo)
      else if existing.admittedAtUnixSecs ≠ input.admittedAtUnixSecs then
        invalid "usage policy event_token must keep its original admitted_at"
      else
        let next := { existing with
          retainUntilUnixSecs := max existing.retainUntilUnixSecs input.retainUntilUnixSecs }
        return (if existing.state = .released then .alreadyReleased else .allowed,
          repo.storeAdmission input.eventToken next)
    | none =>
      match repo.fullWindow input.subjectId 0 input.windows with
      | some (index, limit, used) => return (.rejected index limit used, repo)
      | none => return (.allowed, repo.storeAdmission input.eventToken (newAdmission input))

def releaseUsagePolicyRequestAdmission (input : ReleaseUsagePolicyRequestAdmissionInput) :
    Call (Option StoredUsagePolicyRequestAdmission) :=
  atomically fun repo => do
    input.validate
    match repo.requestAdmissions.get? input.eventToken with
    | none => return (none, repo)
    | some admission =>
      if admission.requestId ≠ input.requestId ∨ admission.subjectId ≠ input.subjectId then
        return (none, repo)
      else if input.releasedAtUnixSecs < admission.admittedAtUnixSecs then
        invalid "usage policy released_at must not precede admitted_at"
      else
        let next :=
          if admission.state = .active then
            { admission with
              state := .released, releasedAtUnixSecs := some input.releasedAtUnixSecs }
          else admission
        return (some next, repo.storeAdmission input.eventToken next)

/-- The tokens that a cleanup takes: the first `batchSize` whose row is past its retention. -/
def expiredTokens {Row : Type} (table : Table Row) (expired : String → Row → Bool)
    (batchSize : Nat) : List String :=
  ((table.entries.filter (fun entry => expired entry.1 entry.2)).map Prod.fst).take batchSize

def removeAll {Row : Type} (table : Table Row) (tokens : List String) : Table Row :=
  tokens.foldl (fun table token => table.erase token) table

def cleanupUsagePolicyRequestAdmissions (nowUnixSecs batchSize : Nat) : Call Nat :=
  atomically fun repo =>
    let tokens := expiredTokens repo.requestAdmissions
      (fun _ admission => admission.retainUntilUnixSecs ≤ nowUnixSecs) batchSize
    .ok (tokens.length, { repo with requestAdmissions := removeAll repo.requestAdmissions tokens })

/-! ## Cost -/

/-- What a row costs at an admission. The reservation of an attempt does not expire. -/
def rowCost (repo : SettlementRepository) (admittedAt : Nat)
    (row : StoredUsagePolicyCostReservation) : Nat :=
  match row.state with
  | .reserved =>
    if repo.isAttemptCostToken row.reservationToken ∨
        row.reservationExpiresAtUnixSecs > admittedAt then row.reservedCostUnits
    else 0
  | .finalized => row.actualCostUnits.getD 0
  | .released => 0

def inCostWindow (subject : String) (window : UsagePolicyCostWindow)
    (row : StoredUsagePolicyCostReservation) : Bool :=
  row.subjectId = subject ∧ row.admittedAtUnixSecs ≥ window.startsAtUnixSecs ∧
    row.admittedAtUnixSecs < window.endsAtUnixSecs

def usedCostUnits (repo : SettlementRepository) (input : ReserveUsagePolicyCostInput)
    (skipped : StoredUsagePolicyCostReservation → Bool) (overflow : Failure)
    (window : UsagePolicyCostWindow) : Result Nat :=
  (repo.costReservations.values.filter (fun row =>
    !skipped row && inCostWindow input.subjectId window row)).foldlM (fun used row =>
      match checkedAdd used (repo.rowCost input.admittedAtUnixSecs row) with
      | some total => .ok total
      | none => .error overflow) 0

/-- The loop over the windows, for a target cost: the first that has no room. -/
def exceededWindow (repo : SettlementRepository) (input : ReserveUsagePolicyCostInput)
    (target : Nat) (skipped : StoredUsagePolicyCostReservation → Bool) (overflow : Failure) :
    Nat → List UsagePolicyCostWindow → Result (Option (Nat × Nat × Nat))
  | _, [] => .ok none
  | index, window :: rest => do
      let used ← repo.usedCostUnits input skipped overflow window
      if (checkedAdd used target).all (fun total => total > window.limitCostUnits) then
        return some (index, window.limitCostUnits, used)
      else repo.exceededWindow input target skipped overflow (index + 1) rest

def storeCost (repo : SettlementRepository) (token : String)
    (row : StoredUsagePolicyCostReservation) : SettlementRepository :=
  { repo with costReservations := repo.costReservations.insert token row }

/-- The row of an admission: a retry keeps the larger amount, expiry and retention. -/
def targetRow (input : ReserveUsagePolicyCostInput)
    (existing : Option StoredUsagePolicyCostReservation) : StoredUsagePolicyCostReservation where
  requestId := input.requestId
  subjectId := input.subjectId
  reservationToken := input.reservationToken
  admittedAtUnixSecs := input.admittedAtUnixSecs
  reservedCostUnits := max (existing.elim 0 (·.reservedCostUnits)) input.reservedCostUnits
  actualCostUnits := none
  state := .reserved
  reservationExpiresAtUnixSecs :=
    max (existing.elim 0 (·.reservationExpiresAtUnixSecs)) input.reservationExpiresAtUnixSecs
  retainUntilUnixSecs :=
    max (existing.elim 0 (·.retainUntilUnixSecs)) input.retainUntilUnixSecs
  finalizedAtUnixSecs := none

def admitCost (repo : SettlementRepository) (input : ReserveUsagePolicyCostInput)
    (existing : Option StoredUsagePolicyCostReservation) :
    Result (ReserveUsagePolicyCostOutcome × SettlementRepository) := do
  let row := targetRow input existing
  let exceeded ← repo.exceededWindow input row.reservedCostUnits
    (fun other => other.reservationToken = input.reservationToken)
    (.unexpectedValue "usage policy cost total overflowed") 0 input.windows
  match exceeded with
  | some (index, limit, used) => return (.rejected index limit used, repo)
  | none =>
    return (.allowed row.reservedCostUnits
      (row.reservedCostUnits - existing.elim 0 (·.reservedCostUnits)),
      repo.storeCost input.reservationToken row)

def reserveUsagePolicyCost (input : ReserveUsagePolicyCostInput) :
    Call ReserveUsagePolicyCostOutcome :=
  atomically fun repo => do
    input.validate
    if repo.isAttemptCostToken input.reservationToken then return (.conflict, repo)
    else
      match repo.costReservations.get? input.reservationToken with
      | some existing =>
        if existing.requestId ≠ input.requestId ∨ existing.subjectId ≠ input.subjectId then
          return (.conflict, repo)
        else if existing.state ≠ .reserved then
          return (.alreadyTerminal existing.state, repo)
        else if existing.admittedAtUnixSecs ≠ input.admittedAtUnixSecs then
          invalid "usage policy reservation_token must keep its original admitted_at"
        else repo.admitCost input (some existing)
      | none => repo.admitCost input none

def reconcileUsagePolicyCost (input : ReconcileUsagePolicyCostInput) :
    Call (Option StoredUsagePolicyCostReservation) :=
  atomically fun repo => do
    input.validate
    match repo.costReservations.get? input.reservationToken with
    | none => return (none, repo)
    | some row =>
      if repo.isAttemptCostToken input.reservationToken then
        invalid "attempt usage policy requires its financial outcome writer"
      else if row.requestId ≠ input.requestId ∨ row.subjectId ≠ input.subjectId then
        return (none, repo)
      else
        let next :=
          if row.state = .reserved then
            { row with
              state := input.terminalState
              actualCostUnits := some input.actualCostUnits
              finalizedAtUnixSecs := some input.finalizedAtUnixSecs }
          else row
        return (some next, repo.storeCost input.reservationToken next)

def cleanupUsagePolicyCostReservations (nowUnixSecs batchSize : Nat) : Call Nat :=
  atomically fun repo =>
    let tokens := expiredTokens repo.costReservations
      (fun token row => row.retainUntilUnixSecs ≤ nowUnixSecs ∧ ¬ repo.isAttemptCostToken token)
      batchSize
    .ok (tokens.length, { repo with costReservations := removeAll repo.costReservations tokens })

end SettlementRepository

end Aeris.Settlement
