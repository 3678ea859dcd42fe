import Aeris.Settlement.Funding
import Aeris.Settlement.UsagePolicy

/-! The attempt calls. Each works on a staged copy of the parent audit and of its
summary, which are stored when the whole call succeeds. The reservation, the
attempt's own record and the cost reservation are written on the way. -/
namespace Aeris.Settlement

open RustStd

/-! ## The daily cost of a parent -/

def StoredRequestUsageAudit.isStandalone (parent : StoredRequestUsageAudit) : Bool :=
  ((parent.requestMetadata.bind (Json.get? "api_key_is_standalone")).bind Json.asBool).getD false

/-- The nearest number of units, halves away from zero. -/
def dailyActualCostUnits (usd : Usd) : Result Nat :=
  match usd with
  | .finite value =>
    let units := ⌊value * requestFundsUnitsPerUsd + 1 / 2⌋.toNat
    if value < 0 ∨ units ≥ 2 ^ 63 then
      invalid "daily actual cost is negative, non-finite or overflowing"
    else .ok units
  | _ => invalid "daily actual cost is negative, non-finite or overflowing"

def newDailyCostContribution (parent : StoredRequestUsageAudit) : DailyCostContribution where
  requestId := parent.requestId
  usageId := parent.id
  userId := parent.userId
  apiKeyId := parent.apiKeyId
  apiKeyIsStandalone := parent.isStandalone
  attemptFunds := false
  actualCostUnits := 0
  accountingAtUnixSecs := none

def DailyCostContribution.withFunds (contribution : DailyCostContribution)
    (funds : RequestFundsSummary) : Result DailyCostContribution :=
  if ¬ contribution.attemptFunds ∧
      (contribution.accountingAtUnixSecs.isSome ∨ contribution.actualCostUnits ≠ 0) then
    invalid "cannot convert an accounted legacy request to attempt funds"
  else if funds.knownActualCostUnits > i64Max then invalid "daily attempt cost overflow"
  else
    let next := { contribution with
      attemptFunds := true, actualCostUnits := funds.knownActualCostUnits }
    if funds.admissionClosed ∧ contribution.accountingAtUnixSecs.isNone then
      match funds.admissionClosedAtUnixSecs with
      | some closedAt => .ok { next with accountingAtUnixSecs := some closedAt }
      | none => invalid "closed attempt request lacks its accounting time"
    else .ok next

def DailyCostContribution.withParent (contribution : DailyCostContribution)
    (parent : StoredRequestUsageAudit) : Result DailyCostContribution :=
  if ¬ contribution.attemptFunds ∧ parent.status = "completed" then do
    let units ← dailyActualCostUnits parent.actualTotalCostUsd
    return { contribution with
      actualCostUnits := units
      accountingAtUnixSecs := some (contribution.accountingAtUnixSecs.getD
        (parent.finalizedAtUnixSecs.getD parent.updatedAtUnixSecs)) }
  else .ok contribution

def nextDailyCostContribution (previous : Option DailyCostContribution)
    (parent : StoredRequestUsageAudit) (funds : Option RequestFundsSummary) :
    Result DailyCostContribution :=
  let contribution := previous.getD (newDailyCostContribution parent)
  if contribution.requestId ≠ parent.requestId ∨ contribution.usageId ≠ parent.id then
    invalid "daily cost request identity was already used by another audit"
  else do
    let next ← match funds with
      | some funds => contribution.withFunds funds
      | none => contribution.withParent parent
    if next.accountingAtUnixSecs.any (fun time => time > i64Max) then
      invalid "daily cost accounting time overflow"
    else return next

/-! ## The staged parent -/

def parentMatches (parent : StoredRequestUsageAudit) (identity : RequestFundsIdentity) :
    Result Unit :=
  if parent.userId ≠ identity.userId ∨ parent.apiKeyId ≠ identity.apiKeyId ∨
      parent.isStandalone ≠ identity.apiKeyIsStandalone then
    invalid "attempt funds parent owner conflict"
  else .ok ()

structure TokenTotals where
  input : Nat
  output : Nat
  cacheCreation : Nat
  cacheRead : Nat
  deriving DecidableEq, Repr

def addToken (target amount : Nat) : Result Nat :=
  match checkedAdd target amount with
  | some total => .ok total
  | none => invalid "aggregate token overflow"

def TokenTotals.addUsage (totals : TokenTotals) (usage : RequestAttemptBilledUsage) :
    Result TokenTotals := do
  let input ← addToken totals.input usage.inputTokens
  let output ← addToken totals.output usage.outputTokens
  let cacheCreation ← addToken totals.cacheCreation usage.cacheCreationTokens
  let cacheRead ← addToken totals.cacheRead usage.cacheReadTokens
  return ⟨input, output, cacheCreation, cacheRead⟩

def TokenTotals.total (totals : TokenTotals) : Option Nat := do
  let total ← checkedAdd totals.input totals.output
  let total ← checkedAdd total totals.cacheCreation
  checkedAdd total totals.cacheRead

/-- The tokens of all the charged usages, with their sum, which must fit an `i32`. -/
def aggregateTokens (usages : List RequestAttemptBilledUsage) : Result (TokenTotals × Nat) := do
  let totals ← usages.foldlM TokenTotals.addUsage ⟨0, 0, 0, 0⟩
  match totals.total.filter (fun total => total ≤ i32Max) with
  | some total => return (totals, total)
  | none => invalid "aggregate token overflow"

def markUsageAvailable : Option Json → Json
  | some (.object fields) =>
    .object (Json.insertField "usage_pricing_available" (.bool true)
      (Json.insertField "usage_available" (.bool true) fields))
  | some other => other
  | none => .object [("usage_available", .bool true), ("usage_pricing_available", .bool true)]

/-- The request is settled: closed, with nothing prepared, unknown or to reconcile. -/
def RequestFundsSummary.isSettled (summary : RequestFundsSummary) : Bool :=
  summary.admissionClosed ∧ summary.preparedAttempts = 0 ∧ summary.unknownAttempts = 0 ∧
    ¬ summary.requiresReconciliation

def StoredRequestUsageAudit.withSummary (parent : StoredRequestUsageAudit)
    (summary : RequestFundsSummary) (tokens : TokenTotals) (totalTokens : Nat) :
    StoredRequestUsageAudit :=
  { parent with
    totalCostUsd := requestFundsUsd summary.knownTotalCostUnits
    actualTotalCostUsd := requestFundsUsd summary.knownActualCostUnits
    inputTokens := tokens.input
    outputTokens := tokens.output
    cacheCreationInputTokens := tokens.cacheCreation
    cacheReadInputTokens := tokens.cacheRead
    cacheCreationEphemeral5mInputTokens := 0
    cacheCreationEphemeral1hInputTokens := 0
    totalTokens := totalTokens
    requestMetadata := some (markUsageAvailable parent.requestMetadata)
    billingStatus := if summary.isSettled then "settled" else "pending" }

structure Staged where
  parent : StoredRequestUsageAudit
  summary : Option RequestFundsSummary
  deriving DecidableEq

def applySummary (staged : Staged) (attempts : List StoredRequestAttemptFunds) : Result Staged := do
  let closed := staged.summary.any (fun summary => summary.admissionClosed)
  let summary ← summarizeRequestAttemptFunds attempts closed
  let summary := { summary with
    admissionClosedAtUnixSecs :=
      staged.summary.bind (fun summary => summary.admissionClosedAtUnixSecs) }
  let (tokens, totalTokens) ←
    aggregateTokens (attempts.filterMap (fun attempt => attempt.chargedUsage))
  return ⟨staged.parent.withSummary summary tokens totalTokens, some summary⟩

namespace SettlementRepository

def storeParent (repo : SettlementRepository) (request : String) (staged : Staged)
    (contribution : DailyCostContribution) : SettlementRepository :=
  { repo with usage := repo.usage.map (fun usage => { usage with
      byRequestId := usage.byRequestId.insert request staged.parent
      dailyCostContributions := usage.dailyCostContributions.insert request contribution
      attemptFunds :=
        match staged.summary with
        | some summary => usage.attemptFunds.insert request summary
        | none => usage.attemptFunds }) }

/-- The work of a call between the two checks of the parent's daily cost. -/
abbrev Callback (α : Type) := Staged → Call (α × Staged)

/-- `with_attempt_parent`: a failure after the callback's writes does not undo them. -/
def withAttemptParent {α : Type} (unavailable request : String) (callback : Callback α) :
    Call α := fun repo =>
  match repo.usage with
  | none => (invalid unavailable, repo)
  | some usage =>
    match usage.byRequestId.get? request with
    | none => (invalid "attempt admission requires persisted parent usage", repo)
    | some parent =>
      let daily := usage.dailyCostContributions.get? request
      let summary := usage.attemptFunds.get? request
      match nextDailyCostContribution daily parent (some (summary.getD .default)) with
      | .error failure => (.error failure, repo)
      | .ok _ =>
        match callback ⟨parent, summary⟩ repo with
        | (.error failure, repo) => (.error failure, repo)
        | (.ok (value, staged), repo) =>
          match nextDailyCostContribution daily staged.parent staged.summary with
          | .error failure => (.error failure, repo)
          | .ok contribution => (.ok value, repo.storeParent request staged contribution)

/-! ## Attempts -/

def getAttempt (repo : SettlementRepository) (identity : RequestAttemptFundsIdentity) :
    Result (Option StoredRequestAttemptFunds) :=
  match repo.attemptMetadata.get? identity.request.reservationToken with
  | none => .ok none
  | some stored =>
    if stored.attemptId ≠ identity.attemptId ∨
        stored.funds.quote.identity ≠ identity.request then
      invalid "attempt funds identity conflict"
    else
      match repo.funds.get? identity.request.reservationToken with
      | none => invalid "attempt funds missing"
      | some funds => .ok (some { stored with funds := funds })

def refreshed (repo : SettlementRepository) (attempt : StoredRequestAttemptFunds) :
    StoredRequestAttemptFunds :=
  match repo.funds.get? attempt.funds.quote.identity.reservationToken with
  | some funds => { attempt with funds := funds }
  | none => attempt

def allAttempts (repo : SettlementRepository) (request : String) : List StoredRequestAttemptFunds :=
  (repo.attemptMetadata.values.filter (fun attempt =>
    attempt.funds.quote.identity.requestId = request)).map repo.refreshed

def storeAttempt (repo : SettlementRepository) (token : String)
    (attempt : StoredRequestAttemptFunds) : SettlementRepository :=
  { repo with attemptMetadata := repo.attemptMetadata.insert token attempt }

end SettlementRepository

def contribution (attempt : StoredRequestAttemptFunds) :
    Option ProviderApiKeyUsageContribution := do
  let _ ← attempt.dispatchedAtUnixSecs
  let keyId ← attempt.provider.providerApiKeyId
  let success := attempt.terminalFacts.any (fun facts => facts.execution.status = .completed)
  let (totalTokens, totalCostUsd) ← match attempt.chargedUsage with
    | some usage => usage.totalTokens.map (fun tokens =>
      (tokens, requestFundsUsd usage.totalCostUnits))
    | none => some (0, .zero)
  return {
    keyId := keyId
    requestCount := 1
    successCount := if success then 1 else 0
    errorCount := if attempt.terminalFacts.isSome ∧ ¬ success then 1 else 0
    totalTokens := totalTokens
    totalCostUsd := totalCostUsd
    totalResponseTimeMs :=
      if success then attempt.terminalFacts.elim 0 (fun facts => facts.execution.responseTimeMs)
      else 0
    lastUsedAtUnixSecs := some attempt.funds.quote.admittedAtUnixSecs
    usageCreatedAtUnixSecs := some attempt.funds.quote.admittedAtUnixSecs }

/-- `apply_attempt_provider_contribution`; an attempt without one changes nothing. -/
def SettlementRepository.storeContribution (repo : SettlementRepository)
    (attempt : StoredRequestAttemptFunds) : SettlementRepository :=
  match contribution attempt with
  | none => repo
  | some after => { repo with usage := repo.usage.map (fun usage => { usage with
      attemptProviderContributions :=
        usage.attemptProviderContributions.insert attempt.attemptId after }) }

namespace SettlementRepository

/-! ## Reserve -/

/-- The gates before the wallet is asked: an answer that ends the call, or the
cost reservation that goes with the funds. -/
def admitAttempt (repo : SettlementRepository) (input : ReserveRequestAttemptFundsInput)
    (staged : Staged) :
    Result (ReserveRequestAttemptFundsOutcome ⊕ Option ReserveUsagePolicyCostInput) := do
  parentMatches staged.parent input.quote.identity
  let previous := repo.allAttempts input.quote.identity.requestId
  if previous.any (fun attempt => attempt.usagePolicy ≠ input.usagePolicy) then
    return .inl .conflict
  else do
    let existing ← repo.getAttempt input.identity
    match existing with
    | some existing =>
      if existing.provider = input.provider ∧ existing.funds.quote = input.quote ∧
          existing.usagePolicy = input.usagePolicy then return .inl (.reserved existing)
      else return .inl .conflict
    | none =>
      if staged.summary.any (fun summary => summary.admissionClosed) then
        return .inl .admissionClosed
      else if staged.summary.isNone ∧ staged.parent.billingStatus ≠ "pending" then
        return .inl .conflict
      else if previous.length ≥ 64 then invalid "request attempt count exceeds 64"
      else do
        let summary ← summarizeRequestAttemptFunds previous false
        let _ ← addAggregate summary.heldCostUnits input.quote.authorizedCostUnits
        match input.usagePolicy with
        | none => return .inr none
        | some policy => do
            let quota := policy.costReservation input.quote
            if repo.costReservations.contains quota.reservationToken then
              return .inl .conflict
            else do
              let exceeded ← repo.exceededWindow quota quota.reservedCostUnits (fun _ => false)
                (.invalidInput "attempt policy cost overflow") 0 quota.windows
              match exceeded with
              | some (index, limit, used) => return .inl (.usagePolicyRejected index limit used)
              | none => return .inr (some quota)

def newAttempt (input : ReserveRequestAttemptFundsInput)
    (reservation : StoredRequestFundsReservation) : StoredRequestAttemptFunds where
  attemptId := input.attemptId
  provider := input.provider
  funds := reservation
  dispatchedAtUnixSecs := none
  terminalFacts := none
  usagePolicy := input.usagePolicy

def storeQuota (repo : SettlementRepository) (quota : Option ReserveUsagePolicyCostInput) :
    SettlementRepository :=
  match quota with
  | none => repo
  | some quota => repo.storeCost quota.reservationToken (targetRow quota none)

/-- The writes of an admitted attempt, in the order of the source. -/
def recordAttempt (repo : SettlementRepository) (input : ReserveRequestAttemptFundsInput)
    (staged : Staged) (quota : Option ReserveUsagePolicyCostInput)
    (reservation : StoredRequestFundsReservation) :
    Result (ReserveRequestAttemptFundsOutcome × Staged) × SettlementRepository :=
  let stored := newAttempt input reservation
  let repo := repo.storeAttempt input.quote.identity.reservationToken stored
  match applySummary staged (repo.allAttempts input.quote.identity.requestId) with
  | .error failure => (.error failure, repo)
  | .ok staged => (.ok (.reserved stored, staged), repo.storeQuota quota)

def reserveCallback (input : ReserveRequestAttemptFundsInput) :
    Callback ReserveRequestAttemptFundsOutcome := fun staged repo =>
  match repo.admitAttempt input staged with
  | .error failure => (.error failure, repo)
  | .ok (.inl outcome) => (.ok (outcome, staged), repo)
  | .ok (.inr quota) =>
    match repo.reserveInner input.quote (some input.attemptId) with
    | .error failure => (.error failure, repo)
    | .ok (.reserved reservation, repo) => repo.recordAttempt input staged quota reservation
    | .ok (.insufficient available, repo) => (.ok (.insufficient available, staged), repo)
    | .ok (.walletUnavailable, repo) => (.ok (.walletUnavailable, staged), repo)
    | .ok (.conflict, repo) => (.ok (.conflict, staged), repo)

def reserveRequestAttemptFunds (input : ReserveRequestAttemptFundsInput) :
    Call ReserveRequestAttemptFundsOutcome := fun repo =>
  match input.validate with
  | .error failure => (.error failure, repo)
  | .ok () =>
    withAttemptParent "attempt admission requires usage repository"
      input.quote.identity.requestId (reserveCallback input) repo

/-! ## Dispatch -/

/-- The record of an attempt moves on: its reservation, itself, the summary and
its contribution to the statistics of the provider. -/
def advanceAttempt (repo : SettlementRepository) (token request : String) (staged : Staged)
    (attempt : StoredRequestAttemptFunds) :
    Result (Option StoredRequestAttemptFunds × Staged) × SettlementRepository :=
  let repo := (repo.storeFunds token attempt.funds).storeAttempt token attempt
  match applySummary staged (repo.allAttempts request) with
  | .error failure => (.error failure, repo)
  | .ok staged => (.ok (some attempt, staged), repo.storeContribution attempt)

def dispatchedAttempt (attempt : StoredRequestAttemptFunds) (nowUnixSecs : Nat) :
    StoredRequestAttemptFunds :=
  { attempt with
    funds := { attempt.funds with state := .dispatched }
    dispatchedAtUnixSecs := some nowUnixSecs }

def dispatchCallback (identity : RequestAttemptFundsIdentity) (nowUnixSecs : Nat) :
    Callback (Option StoredRequestAttemptFunds) := fun staged repo =>
  match (do parentMatches staged.parent identity.request; repo.getAttempt identity) with
  | .error failure => (.error failure, repo)
  | .ok none => (.ok (none, staged), repo)
  | .ok (some stored) =>
    if stored.funds.state = .dispatched then (.ok (some stored, staged), repo)
    else if stored.funds.state ≠ .prepared ∨
        staged.summary.any (fun summary => summary.admissionClosed) then
      (invalid "terminal or closed attempt cannot dispatch", repo)
    else
      repo.advanceAttempt identity.request.reservationToken identity.request.requestId staged
        (dispatchedAttempt stored nowUnixSecs)

def markRequestAttemptFundsDispatched (identity : RequestAttemptFundsIdentity)
    (nowUnixSecs : Nat) : Call (Option StoredRequestAttemptFunds) := fun repo =>
  match identity.validate with
  | .error failure => (.error failure, repo)
  | .ok () =>
    withAttemptParent "attempt usage repository unavailable" identity.request.requestId
      (dispatchCallback identity nowUnixSecs) repo

/-! ## Outcome -/

/-- `iter_mut().find(..)`: change the first item that matches. -/
def modifyFirst {Item : Type} (found : Item → Bool) (change : Item → Item) : List Item → List Item
  | [] => []
  | item :: rest =>
    if found item then change item :: rest else item :: modifyFirst found change rest

def quotaOwned (repo : SettlementRepository) (input : RecordRequestAttemptFundsOutcomeInput)
    (stored : StoredRequestAttemptFunds) : Result Unit :=
  match stored.usagePolicy with
  | none => .ok ()
  | some policy =>
    match repo.costReservations.get? input.identity.request.reservationToken with
    | none => invalid "attempt usage policy reservation is missing"
    | some quota =>
      if quota.subjectId ≠ policy.subjectId ∨
          quota.requestId ≠ input.identity.request.requestId ∨ quota.state ≠ .reserved then
        invalid "attempt usage policy reservation is not owned or active"
      else .ok ()

/-- The gates of an outcome: an answer that ends the call, or the attempt to resolve. -/
def outcomeGate (repo : SettlementRepository) (input : RecordRequestAttemptFundsOutcomeInput)
    (staged : Staged) : Result (Option StoredRequestAttemptFunds ⊕ StoredRequestAttemptFunds) := do
  parentMatches staged.parent input.identity.request
  let found ← repo.getAttempt input.identity
  match found with
  | none => return .inl none
  | some stored =>
    if stored.terminalFacts = some input.facts then return .inl (some stored)
    else if stored.terminalFacts.any (fun facts =>
        facts.outcome ≠ .unknown ∨ facts.execution ≠ input.facts.execution) then
      invalid "conflicting terminal attempt facts"
    else if stored.funds.settlement.isSome ∨ stored.funds.state = .released then
      invalid "attempt already terminal"
    else do
      -- the aggregates are tried on copies before any wallet is touched
      let candidates := modifyFirst
        (fun attempt => attempt.attemptId = input.identity.attemptId)
        (fun attempt => { attempt with terminalFacts := some input.facts })
        (repo.allAttempts input.identity.request.requestId)
      let _ ← applySummary staged candidates
      repo.quotaOwned input stored
      return .inr stored

def attemptSettlement (input : RecordRequestAttemptFundsOutcomeInput)
    (stored : StoredRequestAttemptFunds) (usage : RequestAttemptBilledUsage) :
    FinalizeRequestFundsInput where
  identity := input.identity.request
  usage := {
    requestId := input.identity.request.requestId
    userId := input.identity.request.userId
    apiKeyId := input.identity.request.apiKeyId
    apiKeyIsStandalone := input.identity.request.apiKeyIsStandalone
    providerId := some stored.provider.providerId
    status := "completed"
    billingStatus := "pending"
    totalCostUsd := requestFundsUsd usage.totalCostUnits
    actualTotalCostUsd := requestFundsUsd usage.actualCostUnits
    billingCostUsd := none
    finalizedAtUnixSecs := some input.finalizedAtUnixSecs }
  reconciliationFacts := usage.reconciliationFacts stored.funds.quote.authorizedCostUnits

/-- The reservation after the outcome; only a charge touches the wallet. -/
def resolveFunds (repo : SettlementRepository) (input : RecordRequestAttemptFundsOutcomeInput)
    (stored : StoredRequestAttemptFunds) :
    Result (StoredRequestFundsReservation × SettlementRepository) :=
  match input.facts.outcome with
  | .unknown =>
    if stored.dispatchedAtUnixSecs.isNone then
      invalid "undispatched work cannot have unknown upstream cost"
    else .ok ({ stored.funds with state := .reconciliationPending }, repo)
  | .noCharge => .ok ({ stored.funds with state := .released, actualCostUnits := some 0 }, repo)
  | .charged usage =>
    if stored.dispatchedAtUnixSecs.isNone then invalid "undispatched attempt cannot charge"
    else do
      let (funds, repo) ← repo.finalizeInner (attemptSettlement input stored usage)
        (some input.identity.attemptId)
      match funds with
      | none => invalid "attempt funds missing"
      | some funds => return (funds, repo)

def terminalQuota : RequestAttemptFinancialOutcome → Option (UsagePolicyCostReservationState × Nat)
  | .unknown => none
  | .noCharge => some (.released, 0)
  | .charged usage => some (.finalized, usage.actualCostUnits)

def resolveQuota (repo : SettlementRepository) (input : RecordRequestAttemptFundsOutcomeInput)
    (stored : StoredRequestAttemptFunds) : Result SettlementRepository :=
  if stored.usagePolicy.isNone then .ok repo
  else
    match terminalQuota input.facts.outcome with
    | none => .ok repo
    | some (state, amount) =>
      match repo.costReservations.get? input.identity.request.reservationToken with
      | none => .error (.panic "quota validated before financial mutation")
      | some quota => .ok (repo.storeCost input.identity.request.reservationToken { quota with
          state := state
          actualCostUnits := some amount
          finalizedAtUnixSecs := some input.finalizedAtUnixSecs })

def outcomeCallback (input : RecordRequestAttemptFundsOutcomeInput) :
    Callback (Option StoredRequestAttemptFunds) := fun staged repo =>
  match repo.outcomeGate input staged with
  | .error failure => (.error failure, repo)
  | .ok (.inl answer) => (.ok (answer, staged), repo)
  | .ok (.inr stored) =>
    match repo.resolveFunds input stored with
    | .error failure => (.error failure, repo)
    | .ok (funds, repo) =>
      match repo.resolveQuota input stored with
      | .error failure => (.error failure, repo)
      | .ok repo =>
        repo.advanceAttempt input.identity.request.reservationToken
          input.identity.request.requestId staged
          { stored with funds := funds, terminalFacts := some input.facts }

def recordRequestAttemptFundsOutcome (input : RecordRequestAttemptFundsOutcomeInput) :
    Call (Option StoredRequestAttemptFunds) := fun repo =>
  match input.validate with
  | .error failure => (.error failure, repo)
  | .ok () =>
    withAttemptParent "attempt usage repository unavailable" input.identity.request.requestId
      (outcomeCallback input) repo

/-! ## Close -/

def closedSummary (summary : RequestFundsSummary) (closedAtUnixSecs : Nat) : RequestFundsSummary :=
  { summary with
    admissionClosed := true
    admissionClosedAtUnixSecs :=
      some (summary.admissionClosedAtUnixSecs.getD closedAtUnixSecs) }

def closeCallback (input : CloseRequestFundsAdmissionInput) :
    Callback (Option RequestFundsSummary) := fun staged repo =>
  (do
    parentMatches staged.parent input.identity.request
    let found ← repo.getAttempt input.identity
    match found, staged.summary with
    | none, _ => return (none, staged)
    | some _, none => invalid "attempt parent mode missing"
    | some _, some summary =>
      let staged ← applySummary
        { staged with summary := some (closedSummary summary input.closedAtUnixSecs) }
        (repo.allAttempts input.identity.request.requestId)
      return (staged.summary, staged), repo)

def closeRequestFundsAdmission (input : CloseRequestFundsAdmissionInput) :
    Call (Option RequestFundsSummary) := fun repo =>
  match (do
      input.identity.validate
      if input.closedAtUnixSecs > i64Max then invalid "admission close time overflow"
      else .ok () : Result Unit) with
  | .error failure => (.error failure, repo)
  | .ok () =>
    withAttemptParent "attempt usage repository unavailable" input.identity.request.requestId
      (closeCallback input) repo

end SettlementRepository

end Aeris.Settlement
