import Aeris.Settlement.AttemptRuns
import Aeris.Settlement.LegacyCalls
import Aeris.Settlement.PolicyCalls

/-! The steps of the ledger of attempts: each of the four attempt calls moves one
request on or does nothing. -/
namespace Aeris.Settlement

open RustStd List OrderedTable

theorem TokensFit.congr {first second} (fit : TokensFit first)
    (same : second.filterMap (·.chargedUsage) =
      first.filterMap (·.chargedUsage)) : TokensFit second := by
  unfold TokensFit at fit ⊢
  rw [same]
  exact fit

namespace SettlementRepository

variable {repo middle next : SettlementRepository}

/-! ## Reserve -/

/-- The cost reservation that goes with an admitted attempt. -/
inductive QuotaAdmitted (repo : SettlementRepository) (input : ReserveRequestAttemptFundsInput) :
    Option ReserveUsagePolicyCostInput → Prop where
  | free (none_ : input.usagePolicy = none) : QuotaAdmitted repo input none
  | admitted (policy : RequestFundsUsagePolicy) (named : input.usagePolicy = some policy)
      (fresh : repo.costReservations.get? input.quote.identity.reservationToken = none)
      (room : ∀ window ∈ policy.windows,
        repo.windowCost (policy.costReservation input.quote) (fun _ => false) window +
          input.quote.authorizedCostUnits ≤ window.limitCostUnits) :
      QuotaAdmitted repo input (some (policy.costReservation input.quote))

structure Admitted (repo : SettlementRepository) (input : ReserveRequestAttemptFundsInput)
    (staged : Staged) (quota : Option ReserveUsagePolicyCostInput) : Prop where
  missing : repo.attemptMetadata.get? input.quote.identity.reservationToken = none
  open_ : staged.isClosed = false
  room : (repo.allAttempts input.quote.identity.requestId).length < 64
  quota : QuotaAdmitted repo input quota

theorem admitAttempt_admitted {input staged quota}
    (gate : repo.admitAttempt input staged = .ok (.inr quota)) :
    Admitted repo input staged quota := by
  have gate := check_ok gate
  by_cases differs : (repo.allAttempts input.quote.identity.requestId).any
      (fun attempt => attempt.usagePolicy ≠ input.usagePolicy)
  · rw [if_pos differs] at gate; cases gate
  rw [if_neg differs] at gate
  obtain ⟨existing, got, gate⟩ := bind_ok gate
  cases existing with
  | some existing =>
    dsimp only at gate
    split_ifs at gate
    · cases gate
    · cases gate
  | none =>
    have missing := getAttempt_none got
    by_cases closed : staged.summary.any (·.admissionClosed)
    · rw [if_pos closed] at gate; cases gate
    rw [if_neg closed] at gate
    by_cases legacy : staged.summary.isNone ∧ staged.parent.billingStatus ≠ "pending"
    · rw [if_pos legacy] at gate; cases gate
    rw [if_neg legacy] at gate
    obtain ⟨few, gate⟩ := refuse_ok gate
    obtain ⟨summary, _, gate⟩ := bind_ok gate
    obtain ⟨_, _, gate⟩ := bind_ok gate
    refine ⟨missing, Bool.eq_false_of_not_eq_true closed, not_le.mp few, ?_⟩
    cases named : input.usagePolicy with
    | none =>
      simp only [named] at gate
      cases gate
      exact .free named
    | some policy =>
      simp only [named] at gate
      by_cases taken : repo.costReservations.contains
          (policy.costReservation input.quote).reservationToken
      · rw [if_pos taken] at gate; cases gate
      rw [if_neg taken] at gate
      obtain ⟨exceeded, checked, gate⟩ := bind_ok gate
      cases exceeded with
      | some rejection => cases gate
      | none =>
        cases gate
        apply QuotaAdmitted.admitted policy named
        · exact (contains_eq_false _ _).mp (Bool.eq_false_of_not_eq_true taken)
        · exact exceededWindow_none _ _ _ _ policy.windows 0 checked

def withAttempt (repo : SettlementRepository) (input : ReserveRequestAttemptFundsInput)
    (quota : Option ReserveUsagePolicyCostInput) (reservation : StoredRequestFundsReservation) :
    SettlementRepository :=
  ((repo.storeFunds input.quote.identity.reservationToken reservation).storeAttempt
    input.quote.identity.reservationToken (newAttempt input reservation)).storeQuota quota

theorem withAttempt_frame (repo : SettlementRepository) (input : ReserveRequestAttemptFundsInput)
    (quota : Option ReserveUsagePolicyCostInput) (reservation : StoredRequestFundsReservation) :
    repo.withAttempt input quota reservation = { repo with
      funds := repo.funds.insert input.quote.identity.reservationToken reservation
      attemptMetadata := repo.attemptMetadata.insert input.quote.identity.reservationToken
        (newAttempt input reservation)
      costReservations := (repo.withAttempt input quota reservation).costReservations } := by
  cases quota <;> rfl

variable {input : ReserveRequestAttemptFundsInput} {quota : Option ReserveUsagePolicyCostInput}

theorem QuotaAdmitted.written (admitted : QuotaAdmitted repo input quota)
    (reservation : StoredRequestFundsReservation) :
    Written repo (repo.withAttempt input quota reservation)
      input.quote.identity.reservationToken (newAttempt input reservation) := by
  cases admitted with
  | free none_ => exact ⟨rfl, rfl, fun _ _ => rfl⟩
  | admitted policy named fresh room =>
    refine ⟨rfl, rfl, ?_⟩
    intro place different
    exact get?_insert_of_ne _ _ different

theorem QuotaAdmitted.quotaOf (admitted : QuotaAdmitted repo input quota)
    (reservation : StoredRequestFundsReservation) (same : reservation.quote = input.quote)
    (before : SettlementRepository) (policy : RequestFundsUsagePolicy)
    (named : input.usagePolicy = some policy) :
    ∃ row, (before.storeQuota quota).costReservations.get?
        input.quote.identity.reservationToken = some row ∧
      QuotaOf input.quote.identity.reservationToken (newAttempt input reservation) policy row := by
  cases admitted with
  | free none_ => rw [named] at none_; cases none_
  | admitted chosen given fresh room =>
    rw [named] at given
    cases given
    refine ⟨targetRow (policy.costReservation input.quote) none, ?_, rfl, ?_, rfl, rfl⟩
    · exact get?_insert_self _ _ _
    · simp [targetRow, RequestFundsUsagePolicy.costReservation, newAttempt,
        StoredRequestAttemptFunds.requestId, same]

variable {staged : Staged}

theorem withAttempt_sound (attempts : repo.AttemptsSound) (funds : repo.FundsSound)
    (admitted : Admitted repo input staged quota)
    (clear : ∀ stored ∈ repo.funds.values,
      clashes input.quote (some input.attemptId) stored = false) (walletId : Option String)
    (allocations : List RequestFundsAllocation) :
    (repo.withAttempt input quota (preparedReservation input.quote (some input.attemptId) walletId
      allocations)).AttemptsSound := by
  have written := admitted.quota.written
    (preparedReservation input.quote (some input.attemptId) walletId allocations)
  obtain ⟨pre, post, before, after⟩ := attemptsOf_added written admitted.missing
  have room := admitted.room
  rw [allAttempts_eq funds attempts] at room
  apply attemptsSound_of_written attempts written
  · exact ⟨rfl, ⟨rfl, rfl⟩, by simp [StoredRequestAttemptFunds.chargedUsage, newAttempt]⟩
  · intro place other found same
    -- the id of an attempt is on its reservation, and reservations do not share one
    have listed := (repo.funds.mem_values other.funds).mpr
      ⟨place, attempts.linked place other found⟩
    have named := (attempts.sound place other found).own
    have distinct := clear other.funds listed
    rw [same] at named
    simp [clashes, named, newAttempt] at distinct
  · intro old found
    rw [admitted.missing] at found
    cases found
  · rw [after, length_append, length_cons]
    have count := congrArg List.length before
    rw [length_append] at count
    change (repo.attemptsOf input.quote.identity.requestId).length = _ at count
    omega
  · apply (attempts.fit _).congr
    rw [before, after, filterMap_append, filterMap_append, filterMap_cons_none]
    rfl
  · exact admitted.quota.quotaOf _ rfl _

theorem recordAttempt_eq {input staged after quota reservation}
    (applied : applySummary staged ((repo.withAttempt input quota reservation).allAttempts
      input.quote.identity.requestId) = .ok after) :
    (repo.storeFunds input.quote.identity.reservationToken reservation).recordAttempt input staged
        quota reservation =
      (.ok (.reserved (newAttempt input reservation), after),
        repo.withAttempt input quota reservation) := by
  have same : ((repo.storeFunds input.quote.identity.reservationToken reservation).storeAttempt
      input.quote.identity.reservationToken (newAttempt input reservation)).allAttempts
        input.quote.identity.requestId =
      (repo.withAttempt input quota reservation).allAttempts input.quote.identity.requestId := by
    cases quota <;> rfl
  unfold recordAttempt
  simp only [same, applied]
  rfl

theorem withAttempt_fundsSound (funds : repo.FundsSound)
    (quota : Option ReserveUsagePolicyCostInput) {walletId allocations}
    (fresh : repo.funds.get? input.quote.identity.reservationToken = none)
    (granted : repo.Granted input.quote walletId allocations) :
    (repo.withAttempt input quota (preparedReservation input.quote (some input.attemptId) walletId
      allocations)).FundsSound := by
  apply transfer_sound funds
  apply FundsTransfer.reserved input.quote (some input.attemptId) walletId allocations fresh granted
  · rw [withAttempt_frame]
  · rw [withAttempt_frame]

theorem withAttempt_advance {after} (admitted : Admitted repo input staged quota)
    (reservation : StoredRequestFundsReservation) (same : reservation.quote = input.quote)
    (funds : (repo.withAttempt input quota reservation).FundsSound)
    (attempts : (repo.withAttempt input quota reservation).AttemptsSound)
    (applied : applySummary staged ((repo.withAttempt input quota reservation).attemptsOf
      input.quote.identity.requestId) = .ok after) :
    Advance input.quote.identity.requestId repo (repo.withAttempt input quota reservation) staged
      after := by
  have written := admitted.quota.written reservation
  have own : (newAttempt input reservation).requestId = input.quote.identity.requestId := by
    simp [newAttempt, StoredRequestAttemptFunds.requestId, same]
  refine ⟨funds, attempts, ?_, ?_, ?_, staged, .stays rfl, applied⟩
  · intro other different
    apply written.others _ other (own ▸ different)
    intro old found
    rw [admitted.missing] at found
    cases found
  · intro usage present
    refine ⟨usage.attemptProviderContributions, ?_⟩
    rw [withAttempt_frame]
    exact present
  · intro token attempt found
    rw [written.get?] at found
    split_ifs at found with new
    · cases found
      exact .inr ⟨own, fun closed => by rw [admitted.open_] at closed; cases closed⟩
    · exact .inl found

theorem reserveCallback_step (ledger : repo.Backed)
    (input : ReserveRequestAttemptFundsInput) (staged : Staged) :
    CallbackStep input.quote.identity.requestId repo staged
      (reserveCallback input staged repo) := by
  unfold reserveCallback
  cases gate : repo.admitAttempt input staged with
  | error failure => exact .idle _ (by simp)
  | ok answer =>
    cases answer with
    | inl outcome => exact .idle _ (by simp)
    | inr quota =>
      have admitted := admitAttempt_admitted gate
      cases inner : repo.reserveInner input.quote (some input.attemptId) with
      | error failure => exact .idle _ (by simp)
      | ok pair =>
        obtain ⟨outcome, next⟩ := pair
        rcases reserveInner_cases inner with
          ⟨rfl, replay⟩ | ⟨walletId, allocations, granted, fresh, clear, rfl, rfl⟩
        · cases outcome with
          | reserved reservation =>
            -- a reservation of an attempt has a record, and this token has none
            obtain ⟨found, named⟩ := replay reservation rfl
            obtain ⟨attempt, recorded⟩ :=
              ledger.attempts.owned _ reservation found (by simp [named])
            rw [admitted.missing] at recorded
            cases recorded
          | insufficient available | walletUnavailable | conflict => exact .idle _ (by simp)
        · have attempts := withAttempt_sound ledger.attempts ledger.funds admitted clear
            walletId allocations
          have funds := withAttempt_fundsSound ledger.funds quota fresh (granted ledger.funds)
          obtain ⟨after, applied, computed⟩ := summary_computes funds attempts staged
            input.quote.identity.requestId
          dsimp only
          rw [recordAttempt_eq applied]
          exact .advanced _ after _
            (withAttempt_advance admitted _ rfl funds attempts computed)

/-! ## An attempt on record moves on -/

def withProgress (repo : SettlementRepository) (token : String)
    (attempt : StoredRequestAttemptFunds) : SettlementRepository :=
  ((repo.storeFunds token attempt.funds).storeAttempt token attempt).storeContribution attempt

theorem withProgress_frame (repo : SettlementRepository) (token : String)
    (attempt : StoredRequestAttemptFunds) :
    repo.withProgress token attempt = { repo with
      funds := repo.funds.insert token attempt.funds
      attemptMetadata := repo.attemptMetadata.insert token attempt
      usage := (repo.withProgress token attempt).usage } := by
  unfold withProgress
  rw [storeContribution_frame]
  rfl

theorem withProgress_usage {repo : SettlementRepository} (token : String)
    (attempt : StoredRequestAttemptFunds) {usage}
    (present : repo.usage = some usage) : ∃ contributions, (repo.withProgress token attempt).usage =
      some { usage with attemptProviderContributions := contributions } := by
  unfold withProgress storeContribution
  cases contribution attempt with
  | none => exact ⟨usage.attemptProviderContributions, present⟩
  | some after =>
    simp [storeAttempt, storeFunds, present]

theorem advanceAttempt_eq {repo : SettlementRepository} {token request} {staged after attempt}
    (applied : applySummary staged ((repo.withProgress token attempt).allAttempts request) =
      .ok after) : repo.advanceAttempt token request staged attempt =
      (.ok (some attempt, after), repo.withProgress token attempt) := by
  have same : ((repo.storeFunds token attempt.funds).storeAttempt token attempt).allAttempts
      request = (repo.withProgress token attempt).allAttempts request := by
    unfold withProgress
    rw [storeContribution_frame]
    rfl
  unfold advanceAttempt
  simp only [same, applied]
  rfl

/-- The parts of the state that the call has changed before the record moves on. -/
structure Readied (repo after : SettlementRepository) (token : String)
    (funds : StoredRequestFundsReservation) : Prop where
  metadata : after.attemptMetadata = repo.attemptMetadata
  reservation : after.funds.insert token funds = repo.funds.insert token funds
  rows : ∀ place, place ≠ token →
    after.costReservations.get? place = repo.costReservations.get? place
  usage : after.usage = repo.usage

/-- The new record of an attempt: the same attempt, in a state that fits its
facts, with tokens that fit those of the other attempts. -/
structure Progress (repo : SettlementRepository) (token : String) (staged : Staged)
    (old attempt : StoredRequestAttemptFunds) : Prop where
  found : repo.attemptMetadata.get? token = some old
  request : attempt.requestId = old.requestId
  id : attempt.attemptId = old.attemptId
  sound : attempt.Sound
  fit : ∀ pre post, repo.attemptsOf old.requestId = pre ++ old :: post →
    (∀ other ∈ pre, other.attemptId ≠ old.attemptId) → TokensFit (pre ++ attempt :: post)
  gate : staged.isClosed → attempt.dispatchedAtUnixSecs = old.dispatchedAtUnixSecs ∧
    (attempt.funds.state = .dispatched → old.funds.state = .dispatched)

variable {after : SettlementRepository} {token : String}

variable {attempt : StoredRequestAttemptFunds}

theorem withProgress_written (readied : Readied repo after token attempt.funds) :
    Written repo (after.withProgress token attempt) token attempt where
  metadata := by rw [withProgress_frame]; exact congrArg (·.insert token attempt) readied.metadata
  funds := by rw [withProgress_frame]; exact readied.reservation
  rows := by rw [withProgress_frame]; exact readied.rows

theorem withProgress_sound (attempts : repo.AttemptsSound) {old}
    (readied : Readied repo after token attempt.funds)
    (progress : Progress repo token staged old attempt)
    (quota : ∀ policy, attempt.usagePolicy = some policy →
      ∃ row, after.costReservations.get? token = some row ∧ QuotaOf token attempt policy row) :
    (after.withProgress token attempt).AttemptsSound := by
  have written := withProgress_written readied
  obtain ⟨pre, post, before, now, others⟩ :=
    attemptsOf_replaced attempts written progress.found progress.request.symm
  apply attemptsSound_of_written attempts written progress.sound
  · intro place other found same
    exact attempts.unique place token other old found progress.found (same.trans progress.id)
  · intro first found
    rw [progress.found] at found
    cases found
    exact progress.request.symm
  · have count := attempts.few attempt.requestId
    rw [before] at count
    rw [now]
    simpa using count
  · rw [now]
    rw [progress.request] at before
    exact progress.fit pre post before others
  · rw [withProgress_frame]
    exact quota

theorem advanceAttempt_step (ledger : repo.Backed) {token request : String}
    {old} (own : old.requestId = request) (readied : Readied repo after token attempt.funds)
    (progress : Progress repo token staged old attempt)
    (quota : ∀ policy, attempt.usagePolicy = some policy →
      ∃ row, after.costReservations.get? token = some row ∧ QuotaOf token attempt policy row)
    (funds : (after.withProgress token attempt).FundsSound) :
    CallbackStep request repo staged (after.advanceAttempt token request staged attempt) := by
  have written := withProgress_written readied
  have attempts := withProgress_sound ledger.attempts readied progress quota
  obtain ⟨staged', applied, computed⟩ := summary_computes funds attempts staged request
  rw [advanceAttempt_eq applied]
  refine .advanced _ staged' _ ⟨funds, attempts, ?_, ?_, ?_, staged, .stays rfl, computed⟩
  · intro other different
    apply written.others _ other
    · rw [progress.request, own]; exact different
    · intro first found
      rw [progress.found] at found
      cases found
      exact progress.request.symm
  · intro usage present
    exact withProgress_usage token attempt (readied.usage.trans present)
  · intro place stored found
    rw [written.get?] at found
    split_ifs at found with same
    · cases found
      right
      refine ⟨progress.request.trans own, ?_⟩
      intro closed
      obtain ⟨sent, moved⟩ := progress.gate closed
      exact ⟨old, same ▸ progress.found, own, sent, moved⟩
    · exact .inl found

/-! ## Dispatch -/

theorem outcome_unknown (sound : attempt.Sound) (unsettled : attempt.funds.settlement = none)
    (live : attempt.funds.state ≠ .released) : attempt.outcome = .unknown := by
  have phase := sound.phase
  unfold StoredRequestAttemptFunds.InPhase at phase
  cases outcome : attempt.outcome with
  | unknown => rfl
  | noCharge => rw [outcome] at phase; exact absurd phase.2 live
  | charged usage => rw [outcome] at phase; simp [unsettled] at phase

variable {stored : StoredRequestAttemptFunds}

theorem dispatched_progress (ledger : repo.Backed)
    (found : repo.attemptMetadata.get? token = some stored)
    (prepared : stored.funds.state = .prepared) (open_ : staged.isClosed = false)
    (unsettled : stored.funds.settlement = none) (nowUnixSecs : Nat) :
    Progress repo token staged stored (dispatchedAttempt stored nowUnixSecs) where
  found := found
  request := rfl
  id := rfl
  sound := by
    have before := ledger.attempts.sound token stored found
    have unknown := outcome_unknown before unsettled (by simp [prepared])
    refine ⟨before.own, ?_, before.charged⟩
    have same : (dispatchedAttempt stored nowUnixSecs).outcome = .unknown := unknown
    unfold StoredRequestAttemptFunds.InPhase
    rw [same]
    exact ⟨unsettled, rfl⟩
  fit := by
    intro pre post before _
    apply (ledger.attempts.fit stored.requestId).congr
    rw [before, filterMap_append, filterMap_append, filterMap_cons, filterMap_cons]
    rfl
  gate := by rw [open_]; simp

theorem dispatchCallback_step (ledger : repo.Backed)
    (identity : RequestAttemptFundsIdentity) (nowUnixSecs : Nat) (staged : Staged) :
    CallbackStep identity.request.requestId repo staged
      (dispatchCallback identity nowUnixSecs staged repo) := by
  unfold dispatchCallback
  cases gate : (do parentMatches staged.parent identity.request; repo.getAttempt identity :
      Result (Option StoredRequestAttemptFunds)) with
  | error failure => exact .idle _ (by simp)
  | ok answer =>
    cases answer with
    | none => exact .idle _ (by simp)
    | some stored =>
      obtain ⟨found, _, own⟩ := getAttempt_eq ledger.attempts
        (check_ok gate)
      have linked := ledger.attempts.linked _ stored found
      dsimp only
      split_ifs with again refused
      · exact .idle _ (by simp)
      · exact .idle _ (by simp [invalid])
      · have prepared : stored.funds.state = .prepared := by tauto
        have open_ : staged.isClosed = false :=
          Bool.eq_false_of_not_eq_true (fun closed => refused (.inr closed))
        have unsettled : stored.funds.settlement = none :=
          (ledger.funds.sound _ _ linked).open_of_state (by simp [prepared])
            (by simp [prepared])
        apply advanceAttempt_step ledger own
          ⟨rfl, rfl, fun _ _ => rfl, rfl⟩
          (dispatched_progress ledger found prepared open_ unsettled nowUnixSecs)
        · intro policy named
          obtain ⟨row, kept, follows⟩ := ledger.attempts.quota _ stored policy found named
          exact ⟨row, kept, follows.token, follows.request, follows.subject, follows.state⟩
        · apply transfer_sound ledger.funds
          apply FundsTransfer.restated _ stored.funds .dispatched stored.funds.actualCostUnits
            linked unsettled
          · simp
          · simp [prepared, RequestFundsState.holdsFunds]
          · rw [withProgress_frame]
          · rw [withProgress_frame]; rfl

/-! ## Outcome -/

theorem validate_charged {input : RecordRequestAttemptFundsOutcomeInput}
    (valid : input.validate = .ok ()) {usage} (charged : input.facts.outcome = .charged usage) :
    usage.totalCostUnits ≤ maxRequestFundsUnits ∧ usage.actualCostUnits ≤ maxRequestFundsUnits := by
  obtain ⟨_, facts, _⟩ := bind_ok (check_ok valid)
  obtain ⟨_, ranged⟩ := refuse_ok facts
  simp only [charged] at ranged
  obtain ⟨inRange, _⟩ := refuse_ok ranged
  simp only [RequestAttemptBilledUsage.outOfRange, Bool.or_eq_true, decide_eq_true_eq, not_or,
    not_lt] at inRange
  exact ⟨inRange.1.1.1, inRange.1.1.2⟩

variable {funds : StoredRequestFundsReservation}

theorem resolved_frame (sound : repo.FundsSound) {outcome}
    (found : repo.funds.get? token = some stored.funds)
    (resolved : Resolved repo stored outcome funds next) :
    FundsFrame repo next ∧ next.funds.insert token funds = repo.funds.insert token funds := by
  cases resolved with
  | unknown dispatched | noCharge => exact ⟨.refl repo, rfl⟩
  | charged usage input result next named held settled =>
    have same : input.identity.reservationToken = token :=
      named.trans (sound.sound token stored.funds found).ownToken
    obtain ⟨_, _, _, frame⟩ := settleReservation_spec sound (same ▸ found) settled
    rw [same] at frame
    refine ⟨settleReservation_frame settled, ?_⟩
    rw [congrArg SettlementRepository.funds frame]
    exact insert_present _ (get?_insert_self _ _ _)

def resolvedAttempt (stored : StoredRequestAttemptFunds) (facts : RequestAttemptTerminalFacts)
    (funds : StoredRequestFundsReservation) : StoredRequestAttemptFunds :=
  { stored with funds := funds, terminalFacts := some facts }

theorem resolved_attempt (sound : repo.FundsSound) {facts}
    (found : repo.funds.get? token = some stored.funds) (unsettled : stored.funds.settlement = none)
    (resolved : Resolved repo stored facts.outcome funds next) :
    (resolvedAttempt stored facts funds).InPhase ∧ funds.attemptId = stored.funds.attemptId ∧
      funds.quote = stored.funds.quote ∧ funds.state ≠ .dispatched := by
  cases facts
  cases resolved with
  | unknown dispatched | noCharge => exact ⟨⟨unsettled, rfl⟩, rfl, rfl, by simp⟩
  | charged usage input result next named held settled =>
    have same : input.identity.reservationToken = token :=
      named.trans (sound.sound token stored.funds found).ownToken
    obtain ⟨⟨settlement, rfl⟩, _⟩ := settleReservation_spec sound (same ▸ found) settled
    refine ⟨rfl, rfl, rfl, ?_⟩
    dsimp only [settledReservation]
    split_ifs <;> simp

/-- The aggregates were tried with the new facts before anything was written, so
they fit the attempts after the call. -/
theorem resolved_progress (ledger : repo.Backed) {input : RecordRequestAttemptFundsOutcomeInput}
    (valid : input.validate = .ok ()) {tried}
    (got : repo.getAttempt input.identity = .ok (some stored))
    (unsettled : stored.funds.settlement = none)
    (applied : applySummary staged (modifyFirst
      (fun attempt => attempt.attemptId = input.identity.attemptId)
      (fun attempt => { attempt with terminalFacts := some input.facts })
      (repo.allAttempts input.identity.request.requestId)) = .ok tried)
    (resolved : Resolved repo stored input.facts.outcome funds next) :
    Progress repo input.identity.request.reservationToken staged stored
      (resolvedAttempt stored input.facts funds) := by
  obtain ⟨found, named, own⟩ := getAttempt_eq ledger.attempts got
  obtain ⟨phase, sameId, sameQuote, undispatched⟩ := resolved_attempt ledger.funds
    (ledger.attempts.linked _ stored found) unsettled resolved
  refine ⟨found, ?_, rfl, ⟨?_, phase, ?_⟩, ?_, ?_⟩
  · change funds.quote.identity.requestId = stored.funds.quote.identity.requestId
    rw [sameQuote]
  · exact sameId.trans (ledger.attempts.sound _ stored found).own
  · intro usage charged
    exact validate_charged valid
      ((StoredRequestAttemptFunds.chargedUsage_eq_some _ usage).mp charged)
  · intro pre post before others
    rw [allAttempts_eq ledger.funds ledger.attempts, ← own, before,
      modifyFirst_middle _ _ stored post (by simp [named]) pre
        (fun other member => by simpa [named] using others other member)] at applied
    apply (applySummary_recomputed applied).1.congr
    rw [filterMap_append, filterMap_append, filterMap_cons, filterMap_cons]
    rfl
  · intro _
    exact ⟨rfl, fun state => absurd state undispatched⟩

theorem resolveQuota_ok {input stored} (owned : repo.quotaOwned input stored = .ok ())
    (rows : middle.costReservations = repo.costReservations) :
    ∃ after, middle.resolveQuota input stored = .ok after := by
  unfold resolveQuota
  unfold quotaOwned at owned
  cases named : stored.usagePolicy with
  | none => exact ⟨middle, by simp⟩
  | some policy =>
    simp only [named, rows] at owned ⊢
    cases row : repo.costReservations.get? input.identity.request.reservationToken with
    | none => simp only [row] at owned; cases owned
    | some quota =>
      cases terminalQuota input.facts.outcome with
      | none => exact ⟨middle, by simp⟩
      | some pair => exact ⟨_, rfl⟩

theorem terminalQuota_none (outcome : RequestAttemptFinancialOutcome)
    (none_ : terminalQuota outcome = none) : outcome = .unknown := by
  cases outcome with
  | unknown => rfl
  | noCharge | charged usage => cases none_

theorem quotaState_terminal {outcome state amount}
    (terminal : terminalQuota outcome = some (state, amount)) :
    quotaState outcome = (state, some amount) := by
  cases outcome <;> cases terminal <;> rfl

theorem resolveQuota_rows {input stored funds}
    (sameRequest : funds.quote = stored.funds.quote) (unknown : stored.outcome = .unknown)
    (success : middle.resolveQuota input stored = .ok after) :
    (∀ place, place ≠ input.identity.request.reservationToken →
      after.costReservations.get? place = middle.costReservations.get? place) ∧
    ∀ policy row, stored.usagePolicy = some policy →
      middle.costReservations.get? input.identity.request.reservationToken = some row →
      QuotaOf input.identity.request.reservationToken stored policy row →
        ∃ row, after.costReservations.get? input.identity.request.reservationToken = some row ∧
          QuotaOf input.identity.request.reservationToken
            (resolvedAttempt stored input.facts funds) policy row := by
  have request : (resolvedAttempt stored input.facts funds).requestId = stored.requestId := by
    change funds.quote.identity.requestId = stored.funds.quote.identity.requestId
    rw [sameRequest]
  have facts : (resolvedAttempt stored input.facts funds).outcome = input.facts.outcome := rfl
  unfold resolveQuota at success
  cases policyNamed : stored.usagePolicy with
  | none =>
    simp only [policyNamed, Option.isNone_none, if_true] at success
    cases success
    exact ⟨fun _ _ => rfl, by simp⟩
  | some policy =>
    simp only [policyNamed, Option.isNone_some, Bool.false_eq_true, if_false] at success
    cases terminal : terminalQuota input.facts.outcome with
    | none =>
      simp only [terminal] at success
      cases success
      refine ⟨fun _ _ => rfl, ?_⟩
      rintro _ row _ found follows
      refine ⟨row, found, follows.token, follows.request.trans request.symm, follows.subject, ?_⟩
      rw [facts, terminalQuota_none _ terminal, ← unknown]
      exact follows.state
    | some pair =>
      simp only [terminal] at success
      cases row : middle.costReservations.get? input.identity.request.reservationToken with
      | none => simp only [row] at success; cases success
      | some quota =>
        simp only [row] at success
        cases success
        constructor
        · intro place different
          exact get?_insert_of_ne _ _ different
        · rintro _ _ _ found follows
          cases found
          refine ⟨_, get?_insert_self _ _ _, follows.token,
            follows.request.trans request.symm, follows.subject, ?_⟩
          rw [facts, quotaState_terminal terminal]

theorem outcomeCallback_step (ledger : repo.Backed) {input : RecordRequestAttemptFundsOutcomeInput}
    (valid : input.validate = .ok ()) (staged : Staged) :
    CallbackStep input.identity.request.requestId repo staged
      (outcomeCallback input staged repo) := by
  unfold outcomeCallback
  cases gate : repo.outcomeGate input staged with
  | error failure => exact .idle _ (by simp)
  | ok answer =>
    cases answer with
    | inl answer => exact .idle _ (by simp)
    | inr stored =>
      obtain ⟨got, unsettled, live, _, ⟨tried, applied⟩, owned⟩ :=
        outcomeGate_resolves gate
      obtain ⟨found, _, own⟩ := getAttempt_eq ledger.attempts got
      have linked := ledger.attempts.linked _ stored found
      dsimp only
      cases resolving : repo.resolveFunds input stored with
      | error failure => exact .idle _ (by simp)
      | ok pair =>
        have resolved := resolveFunds_resolved ledger.funds linked
          unsettled resolving
        obtain ⟨kept, reservation⟩ := resolved_frame ledger.funds linked resolved
        obtain ⟨after, charging⟩ := resolveQuota_ok owned kept.rows
        have progress := resolved_progress ledger valid got unsettled applied resolved
        have unknown := outcome_unknown (ledger.attempts.sound _ stored found) unsettled live
        obtain ⟨_, _, sameQuote, _⟩ := resolved_attempt ledger.funds linked unsettled resolved
        obtain ⟨others, follows⟩ := resolveQuota_rows sameQuote unknown
          charging
        have frame := resolveQuota_frame charging
        simp only [charging]
        apply advanceAttempt_step ledger own _ progress
        · intro policy named
          obtain ⟨row, present, quota⟩ := ledger.attempts.quota _ stored policy found named
          exact follows policy row named (kept.rows ▸ present) quota
        · apply transfer_sound ledger.funds
          apply (resolved_transfer ledger.funds linked unsettled live resolved).2
          · rw [withProgress_frame, frame]
          · rw [withProgress_frame, frame]; rfl
        · refine ⟨?_, ?_, ?_, ?_⟩
          · rw [frame]; exact kept.metadata
          · rw [frame]; exact reservation
          · intro place different
            rw [others place different, kept.rows]
          · rw [frame]; exact kept.usage

/-! ## Close -/

theorem closeCallback_step (ledger : repo.Backed) {input}
    (inRange : input.closedAtUnixSecs ≤ i64Max) (staged : Staged) :
    CallbackStep input.identity.request.requestId repo staged
      (closeCallback input staged repo) := by
  unfold closeCallback
  cases matched : parentMatches staged.parent input.identity.request with
  | error failure => exact .idle _ (by simp [bind, Except.bind])
  | ok _ =>
    cases got : repo.getAttempt input.identity with
    | error failure => exact .idle _ (by simp [bind, Except.bind])
    | ok answer =>
      cases answer with
      | none => exact .idle _ (by simp [bind, Except.bind, pure, Except.pure])
      | some stored =>
        cases summarized : staged.summary with
        | none => exact .idle _ (by simp [bind, Except.bind, invalid])
        | some summary =>
          obtain ⟨after, applied, computed⟩ := summary_computes ledger.funds
            ledger.attempts
            { staged with summary := some (closedSummary summary input.closedAtUnixSecs) }
            input.identity.request.requestId
          simp only [bind, Except.bind, applied]
          refine .advanced _ after repo ⟨ledger.funds, ledger.attempts, fun _ _ => rfl, ?_,
            fun _ _ found => .inl found, _,
            .closes summary input.closedAtUnixSecs inRange summarized rfl, computed⟩
          intro usage present
          exact ⟨usage.attemptProviderContributions, present⟩

/-! ## The four calls -/

/-- An attempt call was refused at once, or it ran a callback under a parent. -/
inductive AttemptCall {α : Type} (repo : SettlementRepository) :
    Result α × SettlementRepository → Prop where
  | refused (failure : Failure) : AttemptCall repo (.error failure, repo)
  | ran (unavailable request : String) (callback : Callback α)
      (steps : repo.CallbackSteps request callback) :
      AttemptCall repo (withAttemptParent unavailable request callback repo)

section Calls

variable (backed : repo.Backed)
include backed

theorem reserveRequestAttemptFunds_call (input : ReserveRequestAttemptFundsInput) :
    AttemptCall repo (reserveRequestAttemptFunds input repo) := by
  unfold reserveRequestAttemptFunds
  cases input.validate with
  | error failure => exact .refused failure
  | ok _ => exact .ran _ _ _ fun _ _ _ => reserveCallback_step backed input _

theorem markRequestAttemptFundsDispatched_call (identity : RequestAttemptFundsIdentity)
    (nowUnixSecs : Nat) :
    AttemptCall repo (markRequestAttemptFundsDispatched identity nowUnixSecs repo) := by
  unfold markRequestAttemptFundsDispatched
  cases identity.validate with
  | error failure => exact .refused failure
  | ok _ => exact .ran _ _ _ fun _ _ _ => dispatchCallback_step backed identity nowUnixSecs _

theorem recordRequestAttemptFundsOutcome_call (input : RecordRequestAttemptFundsOutcomeInput) :
    AttemptCall repo (recordRequestAttemptFundsOutcome input repo) := by
  unfold recordRequestAttemptFundsOutcome
  cases valid : input.validate with
  | error failure => exact .refused failure
  | ok _ => exact .ran _ _ _ fun _ _ _ => outcomeCallback_step backed valid _

theorem closeRequestFundsAdmission_call (input : CloseRequestFundsAdmissionInput) :
    AttemptCall repo (closeRequestFundsAdmission input repo) := by
  unfold closeRequestFundsAdmission
  split
  · exact .refused _
  · rename_i checked
    have inRange := not_lt.mp (refuse_ok (check_ok checked)).1
    exact .ran _ _ _ fun _ _ _ => closeCallback_step backed inRange _

end Calls

end SettlementRepository

end Aeris.Settlement
