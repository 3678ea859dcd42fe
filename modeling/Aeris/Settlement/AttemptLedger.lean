import Aeris.Settlement.AttemptCalls
import Aeris.Settlement.AttemptSummary

/-! The attempts of all requests as one ledger. An attempt has a record, a
reservation and, under a usage policy, a cost row; its request has a parent and a
summary. The invariant says how these agree between two calls. -/
namespace Aeris.Settlement

open RustStd List OrderedTable

/-! ## One attempt -/

namespace StoredRequestAttemptFunds

def requestId (attempt : StoredRequestAttemptFunds) : String :=
  attempt.funds.quote.identity.requestId

/-- What the terminal facts say about the cost; it is unknown before there are any. -/
def outcome (attempt : StoredRequestAttemptFunds) : RequestAttemptFinancialOutcome :=
  attempt.terminalFacts.elim .unknown (fun facts => facts.outcome)

theorem chargedUsage_eq_some (attempt : StoredRequestAttemptFunds)
    (usage : RequestAttemptBilledUsage) :
    attempt.chargedUsage = some usage ↔ attempt.outcome = .charged usage := by
  unfold chargedUsage outcome
  cases attempt.terminalFacts with
  | none => simp
  | some facts =>
    obtain ⟨version, execution, outcome, evidence⟩ := facts
    cases outcome <;> simp

/-- The reservation is where the outcome has put it. -/
def InPhase (attempt : StoredRequestAttemptFunds) : Prop :=
  match attempt.outcome with
  | .unknown => attempt.funds.settlement = none ∧ attempt.funds.state.holdsFunds
  | .noCharge => attempt.funds.settlement = none ∧ attempt.funds.state = .released
  | .charged _ => attempt.funds.settlement.isSome

structure Sound (attempt : StoredRequestAttemptFunds) : Prop where
  own : attempt.funds.attemptId = some attempt.attemptId
  phase : attempt.InPhase
  charged : ∀ usage, attempt.chargedUsage = some usage →
    usage.totalCostUnits ≤ maxRequestFundsUnits ∧ usage.actualCostUnits ≤ maxRequestFundsUnits

theorem Sound.bounded {attempt : StoredRequestAttemptFunds} {token}
    (sound : attempt.Sound) (funds : attempt.funds.Sound token) : attempt.Bounded := by
  refine ⟨funds.bounded, ?_, sound.charged⟩
  cases settled : attempt.funds.settlement with
  | none =>
    have nothing := (funds.unsettled settled).1
    omega
  | some settlement =>
    obtain ⟨_, actual, _, collected⟩ := funds.settled (by simp [settled])
    have authorized := funds.bounded
    omega

end StoredRequestAttemptFunds

/-- The state of a cost row, and its actual cost, under an outcome. -/
def quotaState : RequestAttemptFinancialOutcome → UsagePolicyCostReservationState × Option Nat
  | .unknown => (.reserved, none)
  | .noCharge => (.released, some 0)
  | .charged usage => (.finalized, some usage.actualCostUnits)

structure QuotaOf (token : String) (attempt : StoredRequestAttemptFunds)
    (policy : RequestFundsUsagePolicy) (row : StoredUsagePolicyCostReservation) : Prop where
  token : row.reservationToken = token
  request : row.requestId = attempt.requestId
  subject : row.subjectId = policy.subjectId
  state : (row.state, row.actualCostUnits) = quotaState attempt.outcome

/-! ## The ledger -/

namespace SettlementRepository

variable {repo next : SettlementRepository}

section

variable (repo : SettlementRepository) (request : String)

def attemptsOf : List StoredRequestAttemptFunds :=
  repo.attemptMetadata.values.filter (fun attempt => attempt.requestId = request)

def summaryOf : Option RequestFundsSummary :=
  repo.usage.bind (fun usage => usage.attemptFunds.get? request)

def parentOf : Option StoredRequestUsageAudit :=
  repo.usage.bind (fun usage => usage.byRequestId.get? request)

def dailyOf : Option DailyCostContribution :=
  repo.usage.bind (fun usage => usage.dailyCostContributions.get? request)

def isClosed : Bool :=
  (repo.summaryOf request).any (fun summary => summary.admissionClosed)

end

structure AttemptsSound (repo : SettlementRepository) : Prop where
  linked : ∀ token attempt, repo.attemptMetadata.get? token = some attempt →
    repo.funds.get? token = some attempt.funds
  sound : ∀ token attempt, repo.attemptMetadata.get? token = some attempt → attempt.Sound
  owned : ∀ token reservation, repo.funds.get? token = some reservation →
    reservation.attemptId.isSome → ∃ attempt, repo.attemptMetadata.get? token = some attempt
  unique : ∀ place token first second, repo.attemptMetadata.get? place = some first →
    repo.attemptMetadata.get? token = some second → first.attemptId = second.attemptId →
      place = token
  few : ∀ request, (repo.attemptsOf request).length ≤ 64
  fit : ∀ request, TokensFit (repo.attemptsOf request)
  quota : ∀ token attempt policy, repo.attemptMetadata.get? token = some attempt →
    attempt.usagePolicy = some policy →
      ∃ row, repo.costReservations.get? token = some row ∧ QuotaOf token attempt policy row

structure Recorded (repo : SettlementRepository) (request : String)
    (summary : RequestFundsSummary) : Prop where
  summarizes : IsSummary summary (repo.attemptsOf request)
  dated : summary.admissionClosed → summary.admissionClosedAtUnixSecs.isSome
  inRange : ∀ time, summary.admissionClosedAtUnixSecs = some time → time ≤ i64Max
  parent : ∃ parent contribution, repo.parentOf request = some parent ∧
    parent.billingStatus = (if summary.isSettled then "settled" else "pending") ∧
    repo.dailyOf request = some contribution ∧ contribution.attemptFunds = true ∧
    contribution.OpenFor parent

structure ParentsSound (repo : SettlementRepository) : Prop where
  recorded : ∀ request summary, repo.summaryOf request = some summary →
    repo.Recorded request summary
  covered : ∀ token attempt, repo.attemptMetadata.get? token = some attempt →
    (repo.summaryOf attempt.requestId).isSome

structure LedgerSound (repo : SettlementRepository) : Prop where
  funds : repo.FundsSound
  attempts : repo.AttemptsSound
  parents : repo.ParentsSound

/-- The part of the invariant that does not speak of the parents' audits: the
reservations, the records of attempts and the times of the closed gates. -/
structure Backed (repo : SettlementRepository) : Prop where
  funds : repo.FundsSound
  attempts : repo.AttemptsSound
  dated : ∀ request summary, repo.summaryOf request = some summary →
    summary.admissionClosed → summary.admissionClosedAtUnixSecs.isSome
  inRange : ∀ request summary time, repo.summaryOf request = some summary →
    summary.admissionClosedAtUnixSecs = some time → time ≤ i64Max

theorem LedgerSound.backed (ledger : repo.LedgerSound) : repo.Backed where
  funds := ledger.funds
  attempts := ledger.attempts
  dated := fun request summary stored => (ledger.parents.recorded request summary stored).dated
  inRange := fun request summary time stored =>
    (ledger.parents.recorded request summary stored).inRange time

theorem mem_attemptsOf (request : String) (attempt : StoredRequestAttemptFunds) :
    attempt ∈ repo.attemptsOf request ↔
      (∃ token, repo.attemptMetadata.get? token = some attempt) ∧ attempt.requestId = request := by
  simp [attemptsOf, mem_values]

theorem attemptsOf_bounded (funds : repo.FundsSound) (attempts : repo.AttemptsSound)
    (request : String) : ∀ attempt ∈ repo.attemptsOf request, attempt.Bounded := by
  intro attempt member
  obtain ⟨⟨token, found⟩, _⟩ := (mem_attemptsOf request attempt).mp member
  exact (attempts.sound token attempt found).bounded
    (funds.sound token _ (attempts.linked token attempt found))

theorem allAttempts_eq (funds : repo.FundsSound) (attempts : repo.AttemptsSound)
    (request : String) : repo.allAttempts request = repo.attemptsOf request := by
  change (repo.attemptsOf request).map repo.refreshed = repo.attemptsOf request
  nth_rewrite 2 [← map_id (repo.attemptsOf request)]
  apply map_congr_left
  intro attempt member
  obtain ⟨⟨token, found⟩, _⟩ := (mem_attemptsOf request attempt).mp member
  have linked := attempts.linked token attempt found
  have own := (funds.sound token attempt.funds linked).ownToken
  simp [refreshed, own, linked]

theorem summary_computes (funds : repo.FundsSound) (attempts : repo.AttemptsSound)
    (staged : Staged) (request : String) :
    ∃ after, applySummary staged (repo.allAttempts request) = .ok after ∧
      applySummary staged (repo.attemptsOf request) = .ok after := by
  obtain ⟨after, applied⟩ := applySummary_ok staged
    (attempts.few request) (attemptsOf_bounded funds attempts request) (attempts.fit request)
  refine ⟨after, ?_, applied⟩
  rw [allAttempts_eq funds attempts]
  exact applied

theorem getAttempt_eq (attempts : repo.AttemptsSound) {identity stored}
    (success : repo.getAttempt identity = .ok (some stored)) :
    repo.attemptMetadata.get? identity.request.reservationToken = some stored ∧
      stored.attemptId = identity.attemptId ∧ stored.requestId = identity.request.requestId := by
  obtain ⟨current, record, found, sameId, sameRequest, copied⟩ :=
    getAttempt_some success
  have linked := attempts.linked _ record found
  have fresh : record.funds = stored.funds := Option.some.inj (linked.symm.trans current)
  have same : stored = record := by rw [copied, ← fresh]
  subst same
  exact ⟨found, sameId, congrArg (·.requestId) sameRequest⟩

theorem getAttempt_none {identity} (success : repo.getAttempt identity = .ok none) :
    repo.attemptMetadata.get? identity.request.reservationToken = none := by
  unfold getAttempt at success
  cases found : repo.attemptMetadata.get? identity.request.reservationToken with
  | none => rfl
  | some record =>
    simp only [found] at success
    obtain ⟨_, success⟩ := refuse_ok success
    cases linked : repo.funds.get? identity.request.reservationToken with
    | none | some funds => simp only [linked] at success; cases success

/-! ## Writing an attempt -/

/-- The record and the reservation of one attempt are written, and its cost row. -/
structure Written (repo next : SettlementRepository) (token : String)
    (attempt : StoredRequestAttemptFunds) : Prop where
  metadata : next.attemptMetadata = repo.attemptMetadata.insert token attempt
  funds : next.funds = repo.funds.insert token attempt.funds
  rows : ∀ place, place ≠ token →
    next.costReservations.get? place = repo.costReservations.get? place

variable {attempt : StoredRequestAttemptFunds} {token : String}

theorem Written.get? (written : Written repo next token attempt) (place : String) :
    next.attemptMetadata.get? place =
      if place = token then some attempt else repo.attemptMetadata.get? place := by
  rw [written.metadata, get?_insert]

theorem Written.others (written : Written repo next token attempt)
    (moved : ∀ old, repo.attemptMetadata.get? token = some old → old.requestId = attempt.requestId)
    (request : String) (other : request ≠ attempt.requestId) :
    next.attemptsOf request = repo.attemptsOf request := by
  unfold attemptsOf
  rw [written.metadata]
  apply filter_insert
  · simpa using other.symm
  · intro old found
    simpa [moved old found] using other.symm

theorem attemptsSound_of_written
    (sound : repo.AttemptsSound) (written : Written repo next token attempt) (good : attempt.Sound)
    (alone : ∀ place other, repo.attemptMetadata.get? place = some other →
      other.attemptId = attempt.attemptId → place = token)
    (moved : ∀ old, repo.attemptMetadata.get? token = some old → old.requestId = attempt.requestId)
    (few : (next.attemptsOf attempt.requestId).length ≤ 64)
    (fit : TokensFit (next.attemptsOf attempt.requestId))
    (quota : ∀ policy, attempt.usagePolicy = some policy →
      ∃ row, next.costReservations.get? token = some row ∧ QuotaOf token attempt policy row) :
    next.AttemptsSound where
  linked := by
    intro place stored found
    rw [written.get?] at found
    rw [written.funds, get?_insert]
    split_ifs at found ⊢ with same
    · cases found; rfl
    · exact sound.linked place stored found
  sound := by
    rw [written.metadata]
    exact forall_insert good sound.sound
  owned := by
    intro place reservation found named
    rw [written.get?]
    rw [written.funds, get?_insert] at found
    split_ifs at found ⊢ with same
    · exact ⟨attempt, rfl⟩
    · exact sound.owned place reservation found named
  unique := by
    intro left right first second foundFirst foundSecond same
    rw [written.get?] at foundFirst foundSecond
    split_ifs at foundFirst foundSecond with atFirst atSecond atSecond
    · exact atFirst.trans atSecond.symm
    · cases foundFirst
      exact absurd (alone right second foundSecond same.symm) atSecond
    · cases foundSecond
      exact absurd (alone left first foundFirst same) atFirst
    · exact sound.unique left right first second foundFirst foundSecond same
  few := by
    intro request
    by_cases own : request = attempt.requestId
    · rw [own]; exact few
    · rw [written.others moved request own]; exact sound.few request
  fit := by
    intro request
    by_cases own : request = attempt.requestId
    · rw [own]; exact fit
    · rw [written.others moved request own]; exact sound.fit request
  quota := by
    intro place stored policy found named
    rw [written.get?] at found
    split_ifs at found with same
    · cases found
      rw [same]
      exact quota policy named
    · rw [written.rows place same]
      exact sound.quota place stored policy found named

theorem attemptsOf_replaced (sound : repo.AttemptsSound)
    {old attempt} (written : Written repo next token attempt)
    (found : repo.attemptMetadata.get? token = some old)
    (moved : old.requestId = attempt.requestId) :
    ∃ pre post, repo.attemptsOf attempt.requestId = pre ++ old :: post ∧
      next.attemptsOf attempt.requestId = pre ++ attempt :: post ∧
      ∀ other ∈ pre, other.attemptId ≠ old.attemptId := by
  obtain ⟨pre, post, whole, replaced, others⟩ := repo.attemptMetadata.values_around found
  refine ⟨pre.filter (fun other => other.requestId = attempt.requestId),
    post.filter (fun other => other.requestId = attempt.requestId), ?_, ?_, ?_⟩
  · simp [attemptsOf, whole, moved]
  · simp [attemptsOf, written.metadata, replaced attempt]
  · intro other member same
    obtain ⟨place, different, stored⟩ :=
      others other (mem_append_left _ (mem_of_mem_filter member))
    exact different (sound.unique place token other old stored found same)

theorem attemptsOf_added (written : Written repo next token attempt)
    (missing : repo.attemptMetadata.get? token = none) :
    ∃ pre post, repo.attemptsOf attempt.requestId = pre ++ post ∧
      next.attemptsOf attempt.requestId = pre ++ attempt :: post := by
  obtain ⟨pre, post, whole, added⟩ := repo.attemptMetadata.values_around_absent missing
  refine ⟨pre.filter (fun other => other.requestId = attempt.requestId),
    post.filter (fun other => other.requestId = attempt.requestId), ?_, ?_⟩
  · simp [attemptsOf, whole]
  · simp [attemptsOf, written.metadata, added attempt]

theorem modifyFirst_middle {Item} (found : Item → Bool) (change : Item → Item)
    (item : Item) (post : List Item) (hit : found item) (pre : List Item)
    (skipped : ∀ other ∈ pre, found other = false) :
    modifyFirst found change (pre ++ item :: post) = pre ++ change item :: post := by
  induction pre with
  | nil => simp [modifyFirst, hit]
  | cons head rest ih =>
    have later := ih (fun other member => skipped other (mem_cons_of_mem _ member))
    simp [modifyFirst, skipped head mem_cons_self, later]

end SettlementRepository

end Aeris.Settlement
