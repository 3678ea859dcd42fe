import Aeris.Settlement.Contract.Funding
import Aeris.Settlement.Contract.Policy

/-! The attempt-funds contract: one request may try several providers, and each
attempt has its own reservation, its own terminal facts and, under a usage
policy, its own cost reservation. The parent keeps a summary of them all. -/
namespace Aeris.Settlement

open RustStd

/-! ## Identity -/

def isHexDigit (c : Char) : Bool := c.isDigit || ('a' ≤ c && c ≤ 'f') || ('A' ≤ c && c ≤ 'F')

def isHyphenatedUuid (digit : Char → Bool) (text : List Char) : Bool :=
  text.length == 36 && text.zipIdx.all (fun (c, place) =>
    if place ∈ [8, 13, 18, 23] then c == '-' else digit c)

/-- What `Uuid::parse_str` accepts: 32 digits, or the hyphenated form, bare, in
braces or as a URN. -/
def isUuid (text : List Char) : Bool :=
  (text.length == 32 && text.all isHexDigit) ||
    isHyphenatedUuid isHexDigit text ||
    (text.length == 38 && text.head? == some '\x7b' && text.getLast? == some '\x7d' &&
      isHyphenatedUuid isHexDigit (text.tail.take 36)) ||
    (text.length == 45 && text.take 9 == "urn:uuid:".toList &&
      isHyphenatedUuid isHexDigit (text.drop 9))

/-- The parsed value prints back as the text: hyphenated, in lower case. -/
def isCanonicalUuid (text : List Char) : Bool :=
  isHyphenatedUuid (fun c => isHexDigit c && !c.isUpper) text

structure RequestAttemptFundsIdentity where
  request : RequestFundsIdentity
  attemptId : String
  deriving DecidableEq

def RequestAttemptFundsIdentity.validate (identity : RequestAttemptFundsIdentity) :
    Result Unit := do
  identity.request.validate
  if ¬ isUuid identity.attemptId.toList then invalid "attempt funds identity requires a UUID"
  else if ¬ isCanonicalUuid identity.attemptId.toList then
    invalid "attempt funds UUID must use canonical lowercase format"
  else .ok ()

structure RequestAttemptProvider where
  providerId : String
  providerApiKeyId : Option String
  modelId : Option String
  candidateId : Option String
  deriving DecidableEq

/-! ## Usage policy -/

structure RequestFundsUsagePolicy where
  subjectId : String
  reservationToken : String
  admittedAtUnixSecs : Nat
  retainUntilUnixSecs : Nat
  windows : List UsagePolicyCostWindow
  deriving DecidableEq

def jsonNat (value : Nat) : Json := .number (toString value)

def UsagePolicyCostWindow.toJson (window : UsagePolicyCostWindow) : Json :=
  .object [("ends_at_unix_secs", jsonNat window.endsAtUnixSecs),
    ("limit_cost_units", jsonNat window.limitCostUnits),
    ("starts_at_unix_secs", jsonNat window.startsAtUnixSecs),
    ("window_id", .string window.windowId)]

namespace RequestFundsUsagePolicy

def toJson (policy : RequestFundsUsagePolicy) : Json :=
  .object [("admitted_at_unix_secs", jsonNat policy.admittedAtUnixSecs),
    ("reservation_token", .string policy.reservationToken),
    ("retain_until_unix_secs", jsonNat policy.retainUntilUnixSecs),
    ("subject_id", .string policy.subjectId),
    ("windows", .array (policy.windows.map UsagePolicyCostWindow.toJson))]

def costReservation (policy : RequestFundsUsagePolicy) (quote : ReserveRequestFundsInput) :
    ReserveUsagePolicyCostInput where
  requestId := quote.identity.requestId
  subjectId := policy.subjectId
  reservationToken := quote.identity.reservationToken
  admittedAtUnixSecs := policy.admittedAtUnixSecs
  reservedCostUnits := quote.authorizedCostUnits
  reservationExpiresAtUnixSecs := policy.retainUntilUnixSecs
  retainUntilUnixSecs := policy.retainUntilUnixSecs
  windows := policy.windows

def validate (policy : RequestFundsUsagePolicy) (quote : ReserveRequestFundsInput) : Result Unit :=
  if quote.identity.apiKeyIsStandalone ∨ quote.identity.userId ≠ some policy.subjectId ∨
      isBlank policy.reservationToken ∨ byteLen policy.reservationToken > 128 ∨
      policy.reservationToken = quote.identity.reservationToken ∨
      policy.admittedAtUnixSecs > quote.admittedAtUnixSecs ∨
      policy.retainUntilUnixSecs > i64Max ∨
      policy.windows.any (fun window =>
        window.endsAtUnixSecs > policy.retainUntilUnixSecs || window.endsAtUnixSecs > i64Max) then
    invalid "attempt usage policy has an invalid owner, context or window"
  else if policy.toJson.textLen > 32768 then
    invalid "attempt usage policy exceeds the storage bound"
  else (policy.costReservation quote).validate

end RequestFundsUsagePolicy

/-! ## Admission of an attempt -/

structure ReserveRequestAttemptFundsInput where
  attemptId : String
  provider : RequestAttemptProvider
  quote : ReserveRequestFundsInput
  usagePolicy : Option RequestFundsUsagePolicy
  deriving DecidableEq

namespace ReserveRequestAttemptFundsInput

def identity (input : ReserveRequestAttemptFundsInput) : RequestAttemptFundsIdentity where
  request := input.quote.identity
  attemptId := input.attemptId

def validatePolicy (input : ReserveRequestAttemptFundsInput) : Result Unit :=
  match input.usagePolicy with
  | some policy => policy.validate input.quote
  | none => .ok ()

def validateProviderId (_ : Nat) (value : Option String) : Result Unit :=
  if value.any unboundedId then invalid "attempt provider identity must contain 1 to 128 bytes"
  else .ok ()

def validate (input : ReserveRequestAttemptFundsInput) : Result Unit := do
  input.identity.validate
  input.quote.validate
  input.validatePolicy
  forEach validateProviderId 0
    [some input.provider.providerId, input.provider.providerApiKeyId, input.provider.modelId,
      input.provider.candidateId]

end ReserveRequestAttemptFundsInput

/-! ## Terminal facts -/

inductive RequestAttemptExecutionStatus where
  | completed
  | failed
  | cancelled
  deriving DecidableEq, Repr

structure RequestAttemptExecutionFacts where
  status : RequestAttemptExecutionStatus
  responseTimeMs : Nat
  deriving DecidableEq, Repr

inductive ProviderCostCertainty where
  | known
  | estimated
  | unknown
  deriving DecidableEq, Repr

structure RequestAttemptCostSnapshot where
  certainty : Option ProviderCostCertainty
  amountUnits : Option Nat
  currency : Option String
  priceVersion : Option String
  sourceReference : Option String
  deriving DecidableEq, Repr

structure RequestAttemptBilledUsage where
  totalCostUnits : Nat
  actualCostUnits : Nat
  listPriceCostUnits : Option Nat
  requiresReconciliation : Bool
  inputTokens : Nat
  outputTokens : Nat
  cacheCreationTokens : Nat
  cacheReadTokens : Nat
  providerCost : Option RequestAttemptCostSnapshot
  deriving DecidableEq, Repr

namespace RequestAttemptBilledUsage

def reconciliationFacts (usage : RequestAttemptBilledUsage) (authorizedCostUnits : Nat) :
    Option Json :=
  let excessUnits := usage.actualCostUnits - authorizedCostUnits
  if usage.requiresReconciliation ∨ excessUnits > 0 then
    some (.object [("excess_units", jsonNat excessUnits),
      ("quote_requires_reconciliation", .bool usage.requiresReconciliation),
      ("reason", .string (if excessUnits > 0 then "authorization_exceeded" else "quote_mismatch"))])
  else none

def totalTokens (usage : RequestAttemptBilledUsage) : Option Nat := do
  let total ← checkedAdd usage.inputTokens usage.outputTokens
  let total ← checkedAdd total usage.cacheCreationTokens
  checkedAdd total usage.cacheReadTokens

end RequestAttemptBilledUsage

inductive RequestAttemptFinancialOutcome where
  | unknown
  | noCharge
  | charged (usage : RequestAttemptBilledUsage)
  deriving DecidableEq, Repr

structure RequestAttemptTerminalFacts where
  schemaVersion : Nat
  execution : RequestAttemptExecutionFacts
  outcome : RequestAttemptFinancialOutcome
  evidence : Json
  deriving DecidableEq

def RequestAttemptBilledUsage.outOfRange (usage : RequestAttemptBilledUsage) : Bool :=
  usage.totalCostUnits > maxRequestFundsUnits || usage.actualCostUnits > maxRequestFundsUnits ||
    usage.totalTokens.all (fun tokens => tokens > i32Max) ||
    (usage.providerCost.bind (fun cost => cost.amountUnits)).any (fun units => units > i64Max)

def RequestAttemptTerminalFacts.validate (facts : RequestAttemptTerminalFacts) : Result Unit :=
  if facts.schemaVersion ≠ 1 ∨ facts.execution.responseTimeMs > i64Max ∨
      ¬ facts.evidence.isObject ∨ facts.evidence.textLen > 16 * 1024 then
    invalid "invalid versioned attempt terminal facts"
  else
    match facts.outcome with
    | .charged usage =>
      if usage.outOfRange then invalid "attempt billing facts exceed supported range"
      else .ok ()
    | _ => .ok ()

structure RecordRequestAttemptFundsOutcomeInput where
  identity : RequestAttemptFundsIdentity
  facts : RequestAttemptTerminalFacts
  finalizedAtUnixSecs : Nat
  deriving DecidableEq

def RecordRequestAttemptFundsOutcomeInput.validate
    (input : RecordRequestAttemptFundsOutcomeInput) : Result Unit := do
  input.identity.validate
  input.facts.validate
  if input.finalizedAtUnixSecs > i64Max then invalid "attempt terminal timestamp overflow"
  else .ok ()

structure StoredRequestAttemptFunds where
  attemptId : String
  provider : RequestAttemptProvider
  funds : StoredRequestFundsReservation
  dispatchedAtUnixSecs : Option Nat
  terminalFacts : Option RequestAttemptTerminalFacts
  usagePolicy : Option RequestFundsUsagePolicy
  deriving DecidableEq

/-- The usage of a `Charged` outcome on record. -/
def StoredRequestAttemptFunds.chargedUsage (attempt : StoredRequestAttemptFunds) :
    Option RequestAttemptBilledUsage :=
  match attempt.terminalFacts with
  | some { outcome := .charged usage, .. } => some usage
  | _ => none

inductive ReserveRequestAttemptFundsOutcome where
  | reserved (reservation : StoredRequestAttemptFunds)
  | insufficient (availableCostUnits : Nat)
  | usagePolicyRejected (windowIndex limitCostUnits usedCostUnits : Nat)
  | walletUnavailable
  | conflict
  | admissionClosed
  deriving DecidableEq

/-! ## The summary of a request -/

structure RequestFundsSummary where
  schemaVersion : Nat
  attemptCount : Nat
  unknownAttempts : Nat
  preparedAttempts : Nat
  knownTotalCostUnits : Nat
  knownActualCostUnits : Nat
  collectedCostUnits : Nat
  heldCostUnits : Nat
  admissionClosed : Bool
  admissionClosedAtUnixSecs : Option Nat
  requiresReconciliation : Bool
  deriving DecidableEq, Repr

def RequestFundsSummary.default : RequestFundsSummary where
  schemaVersion := 0
  attemptCount := 0
  unknownAttempts := 0
  preparedAttempts := 0
  knownTotalCostUnits := 0
  knownActualCostUnits := 0
  collectedCostUnits := 0
  heldCostUnits := 0
  admissionClosed := false
  admissionClosedAtUnixSecs := none
  requiresReconciliation := false

structure CloseRequestFundsAdmissionInput where
  identity : RequestAttemptFundsIdentity
  closedAtUnixSecs : Nat
  deriving DecidableEq

/-- An addition to an aggregate, which must stay in the database range. -/
def addAggregate (target amount : Nat) : Result Nat :=
  match (checkedAdd target amount).filter (fun value => value ≤ i64Max) with
  | some total => .ok total
  | none => invalid "attempt aggregate overflow"

section

variable (summary : RequestFundsSummary) (attempt : StoredRequestAttemptFunds)

def RequestFundsSummary.addHeld : Result RequestFundsSummary :=
  if attempt.funds.settlement.isNone ∧ attempt.funds.state.holdsFunds then do
    let held ← addAggregate summary.heldCostUnits attempt.funds.quote.authorizedCostUnits
    if attempt.dispatchedAtUnixSecs.isSome then do
      let unknown ← addAggregate summary.unknownAttempts 1
      return { summary with heldCostUnits := held, unknownAttempts := unknown }
    else do
      let prepared ← addAggregate summary.preparedAttempts 1
      return { summary with heldCostUnits := held, preparedAttempts := prepared }
  else .ok summary

def RequestFundsSummary.addCharged : Result RequestFundsSummary :=
  match attempt.chargedUsage with
  | some usage => do
      let total ← addAggregate summary.knownTotalCostUnits usage.totalCostUnits
      let actual ← addAggregate summary.knownActualCostUnits usage.actualCostUnits
      return { summary with
        knownTotalCostUnits := total
        knownActualCostUnits := actual
        requiresReconciliation := summary.requiresReconciliation || usage.requiresReconciliation }
  | none => .ok summary

def RequestFundsSummary.addAttempt : Result RequestFundsSummary := do
  let count ← addAggregate summary.attemptCount 1
  let collected ← addAggregate summary.collectedCostUnits attempt.funds.collectedCostUnits
  let summary := { summary with attemptCount := count, collectedCostUnits := collected }
  let summary ← summary.addHeld attempt
  let summary ← summary.addCharged attempt
  return { summary with
    requiresReconciliation := summary.requiresReconciliation ||
      attempt.funds.state = .reconciliationPending }

end

def summarizeRequestAttemptFunds (attempts : List StoredRequestAttemptFunds)
    (admissionClosed : Bool) : Result RequestFundsSummary :=
  attempts.foldlM RequestFundsSummary.addAttempt
    { RequestFundsSummary.default with schemaVersion := 1, admissionClosed := admissionClosed }

end Aeris.Settlement
