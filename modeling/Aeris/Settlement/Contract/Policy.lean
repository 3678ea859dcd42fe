import Aeris.Settlement.Units

/-! The usage-policy contract: admissions of requests and reservations of cost,
each against a list of time windows, with the checks on their inputs. -/
namespace Aeris.Settlement

open RustStd

def maxUsagePolicyTotalRules : Nat := 64

def maxUsagePolicyLedgerIdBytes : Nat := 128

def validateNonEmptyId (value field : String) : Result Unit :=
  if isBlank value then invalid (field ++ " must not be empty") else .ok ()

def validateBoundedId (value field : String) : Result Unit := do
  validateNonEmptyId value field
  if byteLen value > maxUsagePolicyLedgerIdBytes then invalid (field ++ " exceeds 128 bytes")
  else .ok ()

/-- `validate_database_u64` and `validate_cost_units` have one body. -/
def validateDatabaseU64 (value : Nat) (field : String) : Result Unit :=
  if value > i64Max then invalid (field ++ " exceeds the database integer range") else .ok ()

def validateCostUnits (value : Nat) (field : String) : Result Unit :=
  validateDatabaseU64 value field

/-! ## Requests -/

structure UsagePolicyRequestWindow where
  startsAtUnixSecs : Nat
  endsAtUnixSecs : Nat
  limitRequests : Nat
  deriving DecidableEq, Repr

structure ReserveUsagePolicyRequestInput where
  requestId : String
  subjectId : String
  eventToken : String
  admittedAtUnixSecs : Nat
  retainUntilUnixSecs : Nat
  windows : List UsagePolicyRequestWindow
  deriving DecidableEq, Repr

namespace ReserveUsagePolicyRequestInput

def validateWindow (input : ReserveUsagePolicyRequestInput) (index : Nat)
    (window : UsagePolicyRequestWindow) : Result Unit := do
  let name := "usage policy request window " ++ toString index
  validateDatabaseU64 window.startsAtUnixSecs (name ++ " start")
  validateDatabaseU64 window.endsAtUnixSecs (name ++ " end")
  validateDatabaseU64 window.limitRequests (name ++ " limit")
  if window.limitRequests = 0 ∨ window.startsAtUnixSecs ≥ window.endsAtUnixSecs ∨
      input.admittedAtUnixSecs < window.startsAtUnixSecs ∨
      input.admittedAtUnixSecs ≥ window.endsAtUnixSecs then
    invalid (name ++ " does not contain admission or has invalid bounds")
  else if input.retainUntilUnixSecs < window.endsAtUnixSecs then
    invalid ("usage policy request retain_until precedes window " ++ toString index ++ " end")
  else .ok ()

def validate (input : ReserveUsagePolicyRequestInput) : Result Unit := do
  validateBoundedId input.requestId "usage policy request_id"
  validateBoundedId input.subjectId "usage policy subject_id"
  validateBoundedId input.eventToken "usage policy event_token"
  validateDatabaseU64 input.admittedAtUnixSecs "usage policy admitted_at"
  validateDatabaseU64 input.retainUntilUnixSecs "usage policy retain_until"
  if input.windows.isEmpty ∨ input.windows.length > maxUsagePolicyTotalRules then
    invalid "usage policy request admission requires 1 to 64 windows"
  else forEach input.validateWindow 0 input.windows

theorem validate_retains (input : ReserveUsagePolicyRequestInput) (valid : input.validate = .ok ())
    (window : UsagePolicyRequestWindow) (named : window ∈ input.windows) :
    window.endsAtUnixSecs ≤ input.retainUntilUnixSecs := by
  obtain ⟨_, loop⟩ := refuse_ok (check_ok (check_ok (check_ok (check_ok (check_ok valid)))))
  obtain ⟨index, checked⟩ := forEach_ok _ _ 0 loop window named
  obtain ⟨_, retention⟩ := refuse_ok (check_ok (check_ok (check_ok checked)))
  exact not_lt.mp (refuse_ok retention).1

end ReserveUsagePolicyRequestInput

inductive UsagePolicyRequestAdmissionState where
  | active
  | released
  deriving DecidableEq, Repr

inductive ReserveUsagePolicyRequestOutcome where
  | allowed
  | rejected (windowIndex limitRequests usedRequests : Nat)
  | alreadyReleased
  | conflict
  deriving DecidableEq, Repr

structure ReleaseUsagePolicyRequestAdmissionInput where
  requestId : String
  subjectId : String
  eventToken : String
  releasedAtUnixSecs : Nat
  deriving DecidableEq, Repr

def ReleaseUsagePolicyRequestAdmissionInput.validate
    (input : ReleaseUsagePolicyRequestAdmissionInput) : Result Unit := do
  validateBoundedId input.requestId "usage policy request_id"
  validateBoundedId input.subjectId "usage policy subject_id"
  validateBoundedId input.eventToken "usage policy event_token"
  validateDatabaseU64 input.releasedAtUnixSecs "usage policy released_at"

structure StoredUsagePolicyRequestAdmission where
  requestId : String
  subjectId : String
  eventToken : String
  admittedAtUnixSecs : Nat
  retainUntilUnixSecs : Nat
  state : UsagePolicyRequestAdmissionState
  releasedAtUnixSecs : Option Nat
  deriving DecidableEq, Repr

/-! ## Cost -/

structure UsagePolicyCostWindow where
  windowId : String
  startsAtUnixSecs : Nat
  endsAtUnixSecs : Nat
  limitCostUnits : Nat
  deriving DecidableEq, Repr

structure ReserveUsagePolicyCostInput where
  requestId : String
  subjectId : String
  reservationToken : String
  admittedAtUnixSecs : Nat
  reservedCostUnits : Nat
  reservationExpiresAtUnixSecs : Nat
  retainUntilUnixSecs : Nat
  windows : List UsagePolicyCostWindow
  deriving DecidableEq, Repr

namespace ReserveUsagePolicyCostInput

def validateWindow (input : ReserveUsagePolicyCostInput) (index : Nat)
    (window : UsagePolicyCostWindow) : Result Unit := do
  let name := "usage policy window " ++ toString index
  validateNonEmptyId window.windowId (name ++ " id")
  validateCostUnits window.limitCostUnits (name ++ " limit_cost_units")
  if window.limitCostUnits = 0 ∨ window.startsAtUnixSecs ≥ window.endsAtUnixSecs ∨
      input.admittedAtUnixSecs < window.startsAtUnixSecs ∨
      input.admittedAtUnixSecs ≥ window.endsAtUnixSecs then
    invalid (name ++ " does not contain admission or has invalid bounds")
  else if (input.windows.take index).any (fun previous => previous.windowId = window.windowId) then
    invalid (name ++ " duplicates window_id " ++ window.windowId)
  else .ok ()

def validate (input : ReserveUsagePolicyCostInput) : Result Unit := do
  validateBoundedId input.requestId "usage policy request_id"
  validateBoundedId input.subjectId "usage policy subject_id"
  validateBoundedId input.reservationToken "usage policy reservation_token"
  validateCostUnits input.reservedCostUnits "reserved_cost_units"
  if input.reservationExpiresAtUnixSecs ≤ input.admittedAtUnixSecs then
    invalid "usage policy reservation must expire after admission"
  else if input.retainUntilUnixSecs < input.reservationExpiresAtUnixSecs then
    invalid "usage policy retain_until must not precede reservation expiry"
  else if input.windows.isEmpty ∨ input.windows.length > maxUsagePolicyTotalRules then
    invalid "usage policy reservation requires 1 to 64 windows"
  else forEach input.validateWindow 0 input.windows

end ReserveUsagePolicyCostInput

inductive UsagePolicyCostReservationState where
  | reserved
  | finalized
  | released
  deriving DecidableEq, Repr

inductive ReserveUsagePolicyCostOutcome where
  | allowed (reservedCostUnits additionalReservedCostUnits : Nat)
  | rejected (windowIndex limitCostUnits usedCostUnits : Nat)
  | alreadyTerminal (state : UsagePolicyCostReservationState)
  | conflict
  deriving DecidableEq, Repr

structure ReconcileUsagePolicyCostInput where
  requestId : String
  subjectId : String
  reservationToken : String
  actualCostUnits : Nat
  terminalState : UsagePolicyCostReservationState
  finalizedAtUnixSecs : Nat
  deriving DecidableEq, Repr

def ReconcileUsagePolicyCostInput.validate (input : ReconcileUsagePolicyCostInput) :
    Result Unit := do
  validateBoundedId input.requestId "usage policy request_id"
  validateBoundedId input.subjectId "usage policy subject_id"
  validateBoundedId input.reservationToken "usage policy reservation_token"
  validateCostUnits input.actualCostUnits "actual_cost_units"
  match input.terminalState with
  | .reserved => invalid "usage policy reconciliation requires a terminal state"
  | .released =>
    if input.actualCostUnits ≠ 0 then
      invalid "released usage policy reservations must have zero actual cost"
    else .ok ()
  | .finalized => .ok ()

structure StoredUsagePolicyCostReservation where
  requestId : String
  subjectId : String
  reservationToken : String
  admittedAtUnixSecs : Nat
  reservedCostUnits : Nat
  actualCostUnits : Option Nat
  state : UsagePolicyCostReservationState
  reservationExpiresAtUnixSecs : Nat
  retainUntilUnixSecs : Nat
  finalizedAtUnixSecs : Option Nat
  deriving DecidableEq, Repr

end Aeris.Settlement
