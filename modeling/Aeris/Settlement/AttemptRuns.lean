import Aeris.Settlement.AttemptLedger

/-! What a call under a parent does to the ledger of attempts. The callback either
leaves everything as it was or moves one request on; then the daily cost accepts
the new parent, so that a summary is never left behind its attempts. -/
namespace Aeris.Settlement

open RustStd Option OrderedTable

namespace SettlementRepository

variable {repo middle next : SettlementRepository}

/-! ## The gate of a request -/

/-- What a closed request keeps: its gate, its attempts, and which of them were dispatched. -/
structure GateFinal (request : String) (before after : SettlementRepository) : Prop where
  gate : ∀ summary, before.summaryOf request = some summary → summary.admissionClosed →
    ∃ later, after.summaryOf request = some later ∧ later.admissionClosed ∧
      later.admissionClosedAtUnixSecs = summary.admissionClosedAtUnixSecs
  attempts : before.isClosed request → ∀ token later,
    after.attemptMetadata.get? token = some later → later.requestId = request →
      ∃ attempt, before.attemptMetadata.get? token = some attempt ∧
        attempt.requestId = request ∧
        later.dispatchedAtUnixSecs = attempt.dispatchedAtUnixSecs ∧
        (later.funds.state = .dispatched → attempt.funds.state = .dispatched)

theorem isClosed_iff (request : String) : repo.isClosed request ↔
    ∃ summary, repo.summaryOf request = some summary ∧ summary.admissionClosed := by
  unfold isClosed
  cases repo.summaryOf request <;> simp

theorem GateFinal.refl (request : String) (repo : SettlementRepository) :
    GateFinal request repo repo where
  gate := fun summary stored closed => ⟨summary, stored, closed, rfl⟩
  attempts := fun _ _ later found own => ⟨later, found, own, rfl, id⟩

theorem GateFinal.isClosed {request} (final : GateFinal request repo next)
    (closed : repo.isClosed request) : next.isClosed request := by
  obtain ⟨summary, stored, shut⟩ := (isClosed_iff request).mp closed
  obtain ⟨later, found, still, _⟩ := final.gate summary stored shut
  exact (isClosed_iff request).mpr ⟨later, found, still⟩

theorem GateFinal.trans {request} (first : GateFinal request repo middle)
    (second : GateFinal request middle next) : GateFinal request repo next where
  gate := by
    intro summary stored closed
    obtain ⟨between, found, shut, dated⟩ := first.gate summary stored closed
    obtain ⟨later, stays, still, same⟩ := second.gate between found shut
    exact ⟨later, stays, still, same.trans dated⟩
  attempts := by
    intro closed token later found own
    obtain ⟨between, known, ours, sent, moved⟩ :=
      second.attempts (first.isClosed closed) token later found own
    obtain ⟨attempt, start, mine, before, came⟩ := first.attempts closed token between known ours
    exact ⟨attempt, start, mine, sent.trans before, fun state => came (moved state)⟩

/-! ## Calls that leave the attempts alone -/

/-- The records, the reservations and the cost rows of attempts stay as they were. -/
structure KeepsAttempts (repo next : SettlementRepository) : Prop where
  metadata : next.attemptMetadata = repo.attemptMetadata
  kept : ∀ token reservation, repo.funds.get? token = some reservation →
    reservation.attemptId.isSome → next.funds.get? token = some reservation
  made : ∀ token reservation, next.funds.get? token = some reservation →
    reservation.attemptId.isSome → repo.funds.get? token = some reservation
  rows : ∀ token, repo.isAttemptCostToken token →
    next.costReservations.get? token = repo.costReservations.get? token

theorem KeepsAttempts.attemptsOf (keeps : KeepsAttempts repo next) (request : String) :
    next.attemptsOf request = repo.attemptsOf request := by
  simp [SettlementRepository.attemptsOf, keeps.metadata]

theorem KeepsAttempts.attemptsSound (keeps : KeepsAttempts repo next)
    (sound : repo.AttemptsSound) : next.AttemptsSound where
  linked := by
    intro token attempt found
    rw [keeps.metadata] at found
    have named : attempt.funds.attemptId.isSome := by simp [(sound.sound token attempt found).own]
    exact keeps.kept token attempt.funds (sound.linked token attempt found) named
  sound := by rw [keeps.metadata]; exact sound.sound
  owned := by
    intro token reservation found named
    rw [keeps.metadata]
    exact sound.owned token reservation (keeps.made token reservation found named) named
  unique := by rw [keeps.metadata]; exact sound.unique
  few := by intro request; rw [keeps.attemptsOf]; exact sound.few request
  fit := by intro request; rw [keeps.attemptsOf]; exact sound.fit request
  quota := by
    intro token attempt policy found named
    rw [keeps.metadata] at found
    rw [keeps.rows token (by simp [isAttemptCostToken, found, named])]
    exact sound.quota token attempt policy found named

variable {summary : RequestFundsSummary}

theorem Recorded.congr {request} (recorded : repo.Recorded request summary)
    (attempts : next.attemptsOf request = repo.attemptsOf request)
    (parent : next.parentOf request = repo.parentOf request)
    (daily : next.dailyOf request = repo.dailyOf request) : next.Recorded request summary where
  summarizes := by rw [attempts]; exact recorded.summarizes
  dated := recorded.dated
  inRange := recorded.inRange
  parent := by rw [parent, daily]; exact recorded.parent

theorem KeepsAttempts.ledgerSound (keeps : KeepsAttempts repo next) (ledger : repo.LedgerSound)
    (funds : next.FundsSound) (usage : next.usage = repo.usage) : next.LedgerSound where
  funds := funds
  attempts := keeps.attemptsSound ledger.attempts
  parents := by
    constructor
    · intro request summary stored
      rw [summaryOf, usage] at stored
      apply (ledger.parents.recorded request summary stored).congr (keeps.attemptsOf request)
      · rw [parentOf, parentOf, usage]
      · rw [dailyOf, dailyOf, usage]
    · intro token attempt found
      rw [keeps.metadata] at found
      rw [summaryOf, usage]
      exact ledger.parents.covered token attempt found

theorem KeepsAttempts.gateFinal (keeps : KeepsAttempts repo next) (usage : next.usage = repo.usage)
    (request : String) : GateFinal request repo next where
  gate := by
    intro summary stored closed
    refine ⟨summary, ?_, closed, rfl⟩
    rw [summaryOf, usage]
    exact stored
  attempts := by
    intro _ token later found own
    rw [keeps.metadata] at found
    exact ⟨later, found, own, rfl, id⟩

/-! ## Callbacks -/

/-- The summary from which the new one is computed: the stored one, or its closed copy. -/
inductive GateMoves (staged base : Staged) : Prop where
  | stays (same : base = staged)
  | closes (summary : RequestFundsSummary) (time : Nat) (inRange : time ≤ i64Max)
      (stored : staged.summary = some summary)
      (closed : base = { staged with summary := some (closedSummary summary time) })

/-- The callback moved the request on: the attempts are sound, and the staged
parent carries their summary. -/
structure Advance (request : String) (repo middle : SettlementRepository)
    (staged after : Staged) : Prop where
  funds : middle.FundsSound
  attempts : middle.AttemptsSound
  others : ∀ other, other ≠ request → middle.attemptsOf other = repo.attemptsOf other
  usage : ∀ usage, repo.usage = some usage → ∃ contributions, middle.usage =
    some { usage with attemptProviderContributions := contributions }
  records : ∀ token attempt, middle.attemptMetadata.get? token = some attempt →
    repo.attemptMetadata.get? token = some attempt ∨
      attempt.requestId = request ∧ (staged.isClosed → ∃ old,
        repo.attemptMetadata.get? token = some old ∧ old.requestId = request ∧
        attempt.dispatchedAtUnixSecs = old.dispatchedAtUnixSecs ∧
        (attempt.funds.state = .dispatched → old.funds.state = .dispatched))
  base : ∃ base, GateMoves staged base ∧
    applySummary base (middle.attemptsOf request) = .ok after

inductive CallbackStep {α : Type} (request : String) (repo : SettlementRepository)
    (staged : Staged) : Result (α × Staged) × SettlementRepository → Prop where
  | idle (result : Result (α × Staged))
      (same : ∀ value after, result = .ok (value, after) → after = staged) :
      CallbackStep request repo staged (result, repo)
  | advanced (value : α) (after : Staged) (middle : SettlementRepository)
      (moved : Advance request repo middle staged after) :
      CallbackStep request repo staged (.ok (value, after), middle)

theorem GateMoves.gate {staged base} (moves : GateMoves staged base)
    (dated : ∀ summary, staged.summary = some summary → summary.admissionClosed →
      summary.admissionClosedAtUnixSecs.isSome)
    (inRange : ∀ summary time, staged.summary = some summary →
      summary.admissionClosedAtUnixSecs = some time → time ≤ i64Max) :
    (base.isClosed → base.closedAt.isSome) ∧ (∀ time, base.closedAt = some time → time ≤ i64Max) ∧
      (staged.isClosed → base.isClosed ∧ base.closedAt = staged.closedAt) := by
  cases moves with
  | stays same =>
    subst same
    refine ⟨?_, ?_, fun closed => ⟨closed, rfl⟩⟩
    · cases stored : base.summary with
      | none => simp [Staged.isClosed, stored]
      | some summary => simpa [Staged.isClosed, Staged.closedAt, stored] using dated summary stored
    · cases stored : base.summary with
      | none => simp [Staged.closedAt, stored]
      | some summary =>
        simpa [Staged.closedAt, stored] using fun time => inRange summary time stored
  | closes summary time bounded stored closed =>
    subst closed
    refine ⟨by simp [Staged.closedAt, closedSummary], ?_, ?_⟩
    · rintro later same
      have given : summary.admissionClosedAtUnixSecs.getD time = later := by
        simpa [Staged.closedAt, closedSummary] using same
      cases before : summary.admissionClosedAtUnixSecs with
      | none => rw [before] at given; exact given ▸ bounded
      | some first => rw [before] at given; exact given ▸ inRange summary first stored before
    · intro shut
      have was := dated summary stored (by simpa [Staged.isClosed, stored] using shut)
      obtain ⟨first, before⟩ := isSome_iff_exists.mp was
      simp [Staged.isClosed, Staged.closedAt, stored, closedSummary, before]

/-! ## The parent is stored -/

/-- The new summary and the new contribution, as they will be stored. -/
structure Accounted (request : String) (middle : SettlementRepository) (staged after : Staged)
    (summary : RequestFundsSummary) (contribution : DailyCostContribution) : Prop where
  stored : after.summary = some summary
  summarizes : IsSummary summary (middle.attemptsOf request)
  dated : summary.admissionClosed → summary.admissionClosedAtUnixSecs.isSome
  inRange : ∀ time, summary.admissionClosedAtUnixSecs = some time → time ≤ i64Max
  kept : staged.isClosed → summary.admissionClosed ∧
    summary.admissionClosedAtUnixSecs = staged.closedAt
  billing : after.parent.billingStatus = if summary.isSettled then "settled" else "pending"
  counted : contribution.attemptFunds = true
  open_ : contribution.OpenFor after.parent

variable {parent : StoredRequestUsageAudit} {usage : UsageRepository}

theorem staged_gate (ledger : repo.LedgerSound) {request} (opened :
    repo.Opened request usage parent) : usage.attemptFunds.get? request = repo.summaryOf request ∧
      ∀ summary, usage.attemptFunds.get? request = some summary →
        repo.Recorded request summary := by
  have same : usage.attemptFunds.get? request = repo.summaryOf request := by
    simp [summaryOf, opened.present]
  refine ⟨same, ?_⟩
  intro summary stored
  exact ledger.parents.recorded request summary (same ▸ stored)

variable {after : Staged}

theorem advance_accounted
    (ledger : repo.Backed) {request} (opened : repo.Opened request usage parent)
    (moved : Advance request repo middle ⟨parent, usage.attemptFunds.get? request⟩ after) :
    ∃ summary contribution,
      nextDailyCostContribution (usage.dailyCostContributions.get? request) after.parent
        after.summary = .ok contribution ∧
      Accounted request middle ⟨parent, usage.attemptFunds.get? request⟩ after summary
        contribution := by
  obtain ⟨base, moves, applied⟩ := moved.base
  obtain ⟨_, summary, done⟩ := applySummary_recomputed applied
  have same : usage.attemptFunds.get? request = repo.summaryOf request := by
    simp [summaryOf, opened.present]
  obtain ⟨dated, inRange, kept⟩ := moves.gate
    (fun summary stored => ledger.dated request summary (same ▸ stored))
    (fun summary time stored => ledger.inRange request summary time (same ▸ stored))
  have sameParent : base.parent = parent := by
    cases moves with
    | stays same => rw [same]
    | closes summary time _ _ closed => rw [closed]
  rw [← done.closed, ← done.closedAt] at dated kept
  rw [← done.closedAt] at inRange
  have open_ := (nextDaily_checked _ parent _ opened.checked).staged
    (done.id.trans (congrArg _ sameParent)) (done.requestId.trans (congrArg _ sameParent))
  obtain ⟨contribution, accepted, counted, stays⟩ := nextDaily_ok _ after.parent summary open_
    done.known (fun closed => by
      obtain ⟨time, given⟩ := isSome_iff_exists.mp (dated closed)
      exact ⟨time, given, inRange time given⟩)
  refine ⟨summary, contribution, ?_, ?_⟩
  · rw [done.stored]; exact accepted
  · exact ⟨done.stored, done.summarizes, dated, inRange, kept, done.billing, counted, stays⟩

theorem storeParent_reads (present : middle.usage = some usage)
    (request : String) (staged : Staged) (contribution : DailyCostContribution) (other : String) :
    (middle.storeParent request staged contribution).parentOf other =
        (if other = request then some staged.parent else middle.parentOf other) ∧
      (middle.storeParent request staged contribution).dailyOf other =
        (if other = request then some contribution else middle.dailyOf other) ∧
      (middle.storeParent request staged contribution).summaryOf other =
        (if other = request then staged.summary.or (middle.summaryOf other)
          else middle.summaryOf other) := by
  refine ⟨?_, ?_, ?_⟩
  · simp [storeParent, parentOf, present, get?_insert]
  · simp [storeParent, dailyOf, present, get?_insert]
  · cases stored : staged.summary with
    | none => simp [storeParent, summaryOf, present, stored]
    | some summary => simp [storeParent, summaryOf, present, stored, get?_insert]

theorem storeParent_keeps (request : String) (staged : Staged)
    (contribution : DailyCostContribution) :
    KeepsAttempts middle (middle.storeParent request staged contribution) where
  metadata := rfl
  kept := fun _ _ found _ => found
  made := fun _ _ found _ => found
  rows := fun _ _ => rfl

theorem storeParent_fundsSound (funds : middle.FundsSound) (request : String) (staged : Staged)
    (contribution : DailyCostContribution) :
    (middle.storeParent request staged contribution).FundsSound :=
  ⟨funds.keyed, funds.sound⟩

variable {contribution : DailyCostContribution}

theorem advance_ledgerSound (ledger : repo.LedgerSound) {request}
    (opened : repo.Opened request usage parent)
    (moved : Advance request repo middle ⟨parent, usage.attemptFunds.get? request⟩ after)
    (accounted : Accounted request middle ⟨parent, usage.attemptFunds.get? request⟩ after summary
      contribution) : (middle.storeParent request after contribution).LedgerSound := by
  obtain ⟨contributions, present⟩ := moved.usage usage opened.present
  have reads := storeParent_reads present request after contribution
  have same : middle.parentOf = repo.parentOf ∧ middle.dailyOf = repo.dailyOf ∧
      middle.summaryOf = repo.summaryOf := by
    refine ⟨?_, ?_, ?_⟩ <;> funext other <;>
      simp [parentOf, dailyOf, summaryOf, present, opened.present]
  simp only [same, accounted.stored, some_or] at reads
  constructor
  · exact storeParent_fundsSound moved.funds request after contribution
  · exact (storeParent_keeps request after contribution).attemptsSound moved.attempts
  constructor
  · intro other stored found
    rw [(reads other).2.2] at found
    by_cases own : other = request
    · subst own
      rw [if_pos rfl] at found
      cases found
      refine ⟨accounted.summarizes, accounted.dated, accounted.inRange, after.parent, contribution,
        ?_, accounted.billing, ?_, accounted.counted, accounted.open_⟩
      · rw [(reads other).1, if_pos rfl]
      · rw [(reads other).2.1, if_pos rfl]
    · rw [if_neg own] at found
      apply (ledger.parents.recorded other stored found).congr
      · exact moved.others other own
      · rw [(reads other).1, if_neg own]
      · rw [(reads other).2.1, if_neg own]
  · intro token attempt found
    rw [(reads _).2.2]
    split_ifs with own
    · rfl
    · rcases moved.records token attempt found with before | ⟨ours, _⟩
      · exact ledger.parents.covered token attempt before
      · exact absurd ours own

theorem advance_gateFinal {request} (opened : repo.Opened request usage parent)
    (moved : Advance request repo middle ⟨parent, usage.attemptFunds.get? request⟩ after)
    (accounted : Accounted request middle ⟨parent, usage.attemptFunds.get? request⟩ after summary
      contribution) (other : String) :
    GateFinal other repo (middle.storeParent request after contribution) := by
  obtain ⟨contributions, present⟩ := moved.usage usage opened.present
  have read := (storeParent_reads present request after contribution other).2.2
  have before : repo.summaryOf other = usage.attemptFunds.get? other := by
    simp [summaryOf, opened.present]
  have between : middle.summaryOf other = usage.attemptFunds.get? other := by
    simp [summaryOf, present]
  constructor
  · intro stored found closed
    by_cases own : other = request
    · subst own
      obtain ⟨still, dated⟩ := accounted.kept (by
        simp [Staged.isClosed, ← before, found, closed])
      refine ⟨summary, ?_, still, ?_⟩
      · rw [read, if_pos rfl, accounted.stored]; rfl
      · simpa [Staged.closedAt, ← before, found] using dated
    · refine ⟨stored, ?_, closed, rfl⟩
      rw [read, if_neg own, between, ← before, found]
  · intro closed token later found own
    rcases moved.records token later found with same | ⟨ours, kept⟩
    · exact ⟨later, same, own, rfl, id⟩
    · rw [own] at ours
      subst ours
      apply kept
      simpa [isClosed, before, Staged.isClosed] using closed

theorem idle_stored (ledger : repo.LedgerSound) {request}
    (opened : repo.Opened request usage parent)
    (daily : nextDailyCostContribution (usage.dailyCostContributions.get? request) parent
      (usage.attemptFunds.get? request) = .ok contribution) :
    (repo.storeParent request ⟨parent, usage.attemptFunds.get? request⟩ contribution).LedgerSound ∧
      ∀ other, GateFinal other repo
        (repo.storeParent request ⟨parent, usage.attemptFunds.get? request⟩ contribution) := by
  have reads := storeParent_reads opened.present request
    ⟨parent, usage.attemptFunds.get? request⟩ contribution
  obtain ⟨same, recorded⟩ := staged_gate ledger opened
  have parents : ∀ other, (repo.storeParent request ⟨parent, usage.attemptFunds.get? request⟩
      contribution).parentOf other = repo.parentOf other := by
    intro other
    rw [(reads other).1]
    split_ifs with own
    · simp [parentOf, opened.present, own, opened.row]
    · rfl
  have summaries : ∀ other, (repo.storeParent request ⟨parent, usage.attemptFunds.get? request⟩
      contribution).summaryOf other = repo.summaryOf other := by
    intro other
    rw [(reads other).2.2]
    split_ifs with own
    · simp [same, own]
    · rfl
  refine ⟨⟨storeParent_fundsSound ledger.funds _ _ _,
    (storeParent_keeps _ _ _).attemptsSound ledger.attempts, ?_, ?_⟩, ?_⟩
  · intro other summary found
    rw [summaries] at found
    have known := ledger.parents.recorded other summary found
    by_cases own : other = request
    · -- the contribution is computed anew, from the same parent and summary
      subst own
      rw [same, found] at daily
      obtain ⟨row, _, stored, billing, _⟩ := known.parent
      have this : row = parent := by simpa [parentOf, opened.present, opened.row] using stored.symm
      subst this
      have bound := (summarize_gate _ _ _ known.summarizes).2.2
      obtain ⟨next, accepted, counted, stays⟩ := nextDaily_ok _ row summary
        (nextDaily_checked _ row _ opened.checked) bound (fun closed => by
          obtain ⟨time, given⟩ := isSome_iff_exists.mp (known.dated closed)
          exact ⟨time, given, known.inRange time given⟩)
      cases daily.symm.trans accepted
      refine ⟨known.summarizes, known.dated, known.inRange, row, contribution, ?_, billing, ?_,
        counted, stays⟩
      · rw [parents, stored]
      · rw [(reads other).2.1, if_pos rfl]
    · apply known.congr
      · rfl
      · exact parents other
      · rw [(reads other).2.1, if_neg own]
  · intro token attempt found
    rw [summaries]
    exact ledger.parents.covered token attempt found
  · intro other
    constructor
    · intro summary found closed
      exact ⟨summary, by rw [summaries, found], closed, rfl⟩
    · intro _ token later found own
      exact ⟨later, found, own, rfl, id⟩

/-- What a callback does under whichever parent it is run. -/
def CallbackSteps {α : Type} (repo : SettlementRepository) (request : String)
    (callback : Callback α) : Prop :=
  ∀ usage parent, repo.Opened request usage parent →
    CallbackStep request repo ⟨parent, usage.attemptFunds.get? request⟩
      (callback ⟨parent, usage.attemptFunds.get? request⟩ repo)

section Parent

variable {α : Type} {request : String} {callback : Callback α}
  (inner : repo.CallbackSteps request callback)
include inner

theorem withAttemptParent_failed (backed : repo.Backed) (unavailable : String) (failure : Failure)
    (failed : (withAttemptParent unavailable request callback repo).1 = .error failure) :
    (withAttemptParent unavailable request callback repo).2 = repo := by
  have run := withAttemptParent_run unavailable request callback repo
  generalize withAttemptParent unavailable request callback repo = result at run failed ⊢
  cases run with
  | refused _ => rfl
  | failed usage parent _ next opened ran =>
    have step := inner usage parent opened
    rw [ran] at step
    cases step with
    | idle _ _ => rfl
  | unaccounted usage parent value staged _ next opened ran daily =>
    have step := inner usage parent opened
    rw [ran] at step
    cases step with
    | idle _ _ => rfl
    | advanced _ _ _ moved =>
      -- the callback has written, and then the daily cost accepts
      obtain ⟨_, _, accepted, _⟩ := advance_accounted backed opened moved
      rw [accepted] at daily
      cases daily
  | stored => cases failed

theorem withAttemptParent_ledger (ledger : repo.LedgerSound) (unavailable : String) :
    (withAttemptParent unavailable request callback repo).2.LedgerSound ∧
      ∀ other, GateFinal other repo (withAttemptParent unavailable request callback repo).2 := by
  have fails := withAttemptParent_failed inner ledger.backed unavailable
  have run := withAttemptParent_run unavailable request callback repo
  generalize withAttemptParent unavailable request callback repo = result at run fails ⊢
  cases run with
  | refused | failed | unaccounted =>
    rw [fails _ rfl]
    exact ⟨ledger, fun other => .refl other repo⟩
  | stored usage parent value staged contribution next opened ran daily =>
    have step := inner usage parent opened
    rw [ran] at step
    cases step with
    | idle _ same =>
      cases same value staged rfl
      exact idle_stored ledger opened daily
    | advanced _ _ _ moved =>
      obtain ⟨summary, _, accepted, accounted⟩ := advance_accounted ledger.backed opened moved
      cases daily.symm.trans accepted
      exact ⟨advance_ledgerSound ledger opened moved accounted,
        advance_gateFinal opened moved accounted⟩

end Parent

end SettlementRepository

end Aeris.Settlement
