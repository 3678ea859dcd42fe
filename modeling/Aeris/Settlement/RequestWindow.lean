import Mathlib.Data.Finset.Card
import Aeris.Base.Quota
import Aeris.Settlement.FundsSafety
import Aeris.Settlement.PolicySteps

/-! The admitted requests of one subject in one window as a quota, and the tokens
that were allowed and not released, whether or not their rows are still there. -/
namespace Aeris.Settlement

open List Option Finset OrderedTable

namespace SettlementRepository

variable {repo next : SettlementRepository}

/-! ## Tokens that count -/

def AdmittedRequest (subject : String) (window : UsagePolicyRequestWindow)
    (input : ReserveUsagePolicyRequestInput) : Prop :=
  input.subjectId = subject ∧ window.startsAtUnixSecs ≤ input.admittedAtUnixSecs ∧
    input.admittedAtUnixSecs < window.endsAtUnixSecs

instance (subject : String) (window : UsagePolicyRequestWindow)
    (input : ReserveUsagePolicyRequestInput) : Decidable (AdmittedRequest subject window input) :=
  inferInstanceAs (Decidable (_ ∧ _ ∧ _))

def isAllowed : Result ReserveUsagePolicyRequestOutcome → Bool
  | .ok .allowed => true
  | _ => false

theorem isAllowed_of_ne {result} (denied : result ≠ .ok .allowed) : isAllowed result = false := by
  unfold isAllowed
  split
  · exact absurd rfl denied
  · rfl

def isReleased : Result (Option StoredUsagePolicyRequestAdmission) → Bool
  | .ok (some _) => true
  | _ => false

theorem isReleased_of_ne {result}
    (denied : ∀ admission, result ≠ .ok (some admission)) : isReleased result = false := by
  unfold isReleased
  split
  · exact absurd rfl (denied _)
  · rfl

/-- The tokens that count in the window after a call: one more when the call
allowed it, one less when the call released it. -/
def countAfter (subject : String) (window : UsagePolicyRequestWindow)
    (repo : SettlementRepository) (counted : Finset String) : Operation → Finset String
  | .reserveUsagePolicyRequest input =>
    if isAllowed (reserveUsagePolicyRequest input repo).1 ∧
        AdmittedRequest subject window input then
      insert input.eventToken counted
    else counted
  | .releaseUsagePolicyRequestAdmission input =>
    if isReleased (releaseUsagePolicyRequestAdmission input repo).1 then
      counted.erase input.eventToken
    else counted
  | _ => counted

/-- The tokens that were allowed in the window during a run and not released since. -/
def liveTokens (subject : String) (window : UsagePolicyRequestWindow) :
    SettlementRepository → Finset String → List Operation → Finset String
  | _, counted, [] => counted
  | repo, counted, operation :: rest =>
    liveTokens subject window (repo.apply operation)
      (countAfter subject window repo counted operation) rest

/-- The active rows that a cleanup takes out of the window. -/
def removedRequests (subject : String) (window : UsagePolicyRequestWindow)
    (repo : SettlementRepository) : Operation → Nat
  | .cleanupUsagePolicyRequestAdmissions nowUnixSecs batchSize =>
    repo.usedRequests subject window -
      (cleanupUsagePolicyRequestAdmissions nowUnixSecs batchSize repo).2.usedRequests subject
        window
  | _ => 0

/-! ## Rows -/

def inRequestWindow (subject : String) (window : UsagePolicyRequestWindow)
    (row : StoredUsagePolicyRequestAdmission) : Prop :=
  row.subjectId = subject ∧ window.startsAtUnixSecs ≤ row.admittedAtUnixSecs ∧
    row.admittedAtUnixSecs < window.endsAtUnixSecs

theorem activeInWindow_iff (subject : String) (window : UsagePolicyRequestWindow)
    (row : StoredUsagePolicyRequestAdmission) :
    activeInWindow subject window row ↔ row.state = .active ∧
      inRequestWindow subject window row := by
  simp [activeInWindow, inRequestWindow]

theorem usedRequests_eq (subject : String) (window : UsagePolicyRequestWindow) :
    repo.usedRequests subject window = repo.requestAdmissions.total
      (fun row => if activeInWindow subject window row then 1 else 0) := by
  rw [usedRequests, countP_eq_length_filter, OrderedTable.total,
    ← sum_filter (activeInWindow subject window) (fun _ => 1)]
  simp

theorem usedRequests_storeAdmission (repo : SettlementRepository) (subject : String)
    (window : UsagePolicyRequestWindow) (token : String) (row : StoredUsagePolicyRequestAdmission) :
    (repo.storeAdmission token row).usedRequests subject window +
        (repo.requestAdmissions.get? token).elim 0
          (fun row => if activeInWindow subject window row then 1 else 0) =
      repo.usedRequests subject window + if activeInWindow subject window row then 1 else 0 := by
  rw [usedRequests_eq, usedRequests_eq]
  exact repo.requestAdmissions.total_insert token row _

/-! ## Runs -/

/-- What the callers of the usage policy promise about a window of a subject. -/
structure RequestPromise (subject : String) (window : UsagePolicyRequestWindow)
    (operations : List Operation) : Prop where
  listed : ∀ input, .reserveUsagePolicyRequest input ∈ operations → input.validate = .ok () →
    AdmittedRequest subject window input → window ∈ input.windows
  ordered : operations.Pairwise (fun earlier later => ∀ nowUnixSecs batchSize input,
    earlier = .cleanupUsagePolicyRequestAdmissions nowUnixSecs batchSize →
      later = .reserveUsagePolicyRequest input → AdmittedRequest subject window input →
        nowUnixSecs ≤ input.admittedAtUnixSecs)

variable {window : UsagePolicyRequestWindow} {subject : String} {operation : Operation}

theorem RequestPromise.rest {rest} (promise : RequestPromise subject window (operation :: rest)) :
    RequestPromise subject window rest where
  listed := fun input member => promise.listed input (mem_cons_of_mem _ member)
  ordered := (pairwise_cons.mp promise.ordered).2

/-- The state, the tokens that count, and the active rows that cleanups removed. -/
structure RequestState where
  repo : SettlementRepository
  counted : Finset String
  retired : Nat

def requestNext (subject : String) (window : UsagePolicyRequestWindow) (state : RequestState)
    (operation : Operation) : RequestState where
  repo := state.repo.apply operation
  counted := countAfter subject window state.repo state.counted operation
  retired := state.retired + removedRequests subject window state.repo operation

def requestLoad (subject : String) (window : UsagePolicyRequestWindow) (state : RequestState) :
    Quota.Load where
  active := state.repo.usedRequests subject window
  retired := state.retired

/-- How the rows of the table and the tokens that count agree. -/
structure TokensAgree (subject : String) (window : UsagePolicyRequestWindow)
    (state : RequestState) : Prop where
  lasting : ∀ token row, state.repo.requestAdmissions.get? token = some row →
    inRequestWindow subject window row → window.endsAtUnixSecs ≤ row.retainUntilUnixSecs
  active : ∀ token row, state.repo.requestAdmissions.get? token = some row →
    activeInWindow subject window row → token ∈ state.counted
  card : state.counted.card ≤ state.repo.usedRequests subject window + state.retired

structure RequestGuard (subject : String) (window : UsagePolicyRequestWindow)
    (state : RequestState) (operations : List Operation) : Prop where
  agree : TokensAgree subject window state
  promise : RequestPromise subject window operations
  gate : state.retired = 0 ∨ ∀ input, .reserveUsagePolicyRequest input ∈ operations →
    ¬ AdmittedRequest subject window input

variable {counted : Finset String}

variable {existing : StoredUsagePolicyRequestAdmission}

theorem replay_counted {input}
    (found : repo.requestAdmissions.get? input.eventToken = some existing)
    (active : activeInWindow subject window existing → input.eventToken ∈ counted) :
    countAfter subject window repo counted (.reserveUsagePolicyRequest input) = counted := by
  have run := reserveUsagePolicyRequest_run input repo
  simp only [countAfter]
  generalize reserveUsagePolicyRequest input repo = result at run ⊢
  cases run with
  | refused result denied => simp [isAllowed_of_ne denied]
  | replayed stored again subjectId admittedAt =>
    cases found.symm.trans again
    cases state : existing.state with
    | released => simp [isAllowed]
    | active =>
      by_cases inside : AdmittedRequest subject window input
      · have own : activeInWindow subject window existing := by
          rw [activeInWindow_iff, inRequestWindow, subjectId, admittedAt]
          exact ⟨state, inside⟩
        rw [if_pos ⟨rfl, inside⟩]
        exact insert_eq_of_mem (active own)
      · rw [if_neg (fun both => inside both.2)]
  | admitted valid fresh room =>
    rw [found] at fresh
    cases fresh

theorem usedRequests_retained (subject : String) (window : UsagePolicyRequestWindow)
    {token stored} (retainUntil : Nat) (found : repo.requestAdmissions.get? token = some stored) :
    (repo.storeAdmission token { stored with retainUntilUnixSecs := retainUntil }).usedRequests
      subject window = repo.usedRequests subject window := by
  have change := usedRequests_storeAdmission repo subject window token
    { stored with retainUntilUnixSecs := retainUntil }
  have same : activeInWindow subject window { stored with retainUntilUnixSecs := retainUntil } =
      activeInWindow subject window stored := rfl
  rw [found, elim_some, same] at change
  exact Nat.add_right_cancel change

theorem replay_usedRequests (subject : String) (window : UsagePolicyRequestWindow) {input}
    (found : repo.requestAdmissions.get? input.eventToken = some existing) :
    (reserveUsagePolicyRequest input repo).2.usedRequests subject window =
      repo.usedRequests subject window := by
  have run := reserveUsagePolicyRequest_run input repo
  generalize reserveUsagePolicyRequest input repo = result at run ⊢
  cases run with
  | refused result denied => rfl
  | replayed stored again subjectId admittedAt =>
    exact usedRequests_retained subject window _ again
  | admitted valid fresh room =>
    rw [found] at fresh
    cases fresh

/-! ## One call -/

theorem RequestGuard.gate_rest {state rest}
    (guard : RequestGuard subject window state (operation :: rest)) :
    state.retired = 0 ∨ ∀ input, .reserveUsagePolicyRequest input ∈ rest →
      ¬ AdmittedRequest subject window input :=
  guard.gate.imp id (fun none_ input member => none_ input (mem_cons_of_mem _ member))

variable {retired : Nat}

theorem TokensAgree.write {after token row}
    (agree : TokensAgree subject window ⟨repo, counted, retired⟩)
    (lasting : inRequestWindow subject window row → window.endsAtUnixSecs ≤ row.retainUntilUnixSecs)
    (own : activeInWindow subject window row → token ∈ after)
    (others : ∀ place, place ≠ token → place ∈ counted → place ∈ after)
    (card : after.card ≤ (repo.storeAdmission token row).usedRequests subject window + retired) :
    TokensAgree subject window ⟨repo.storeAdmission token row, after, retired⟩ := by
  refine ⟨forall_insert lasting agree.lasting, ?_, card⟩
  intro place stored found active
  change (repo.requestAdmissions.insert token row).get? place = some stored at found
  rw [get?_insert] at found
  split_ifs at found with same
  · cases found
    exact same ▸ own active
  · exact others place same (agree.active place stored found active)

theorem replay_agree {input} (found : repo.requestAdmissions.get? input.eventToken = some existing)
    (agree : TokensAgree subject window ⟨repo, counted, retired⟩) :
    TokensAgree subject window ⟨(reserveUsagePolicyRequest input repo).2, counted, retired⟩ := by
  have used := replay_usedRequests subject window found
  have run := reserveUsagePolicyRequest_run input repo
  generalize reserveUsagePolicyRequest input repo = result at run used ⊢
  cases run with
  | refused result denied => exact agree
  | replayed stored again subjectId admittedAt =>
    apply agree.write
    · intro inside
      exact (agree.lasting _ stored again inside).trans (le_max_left _ _)
    · exact agree.active _ stored again
    · intro place _ member
      exact member
    · rw [used]
      exact agree.card
  | admitted valid fresh room =>
    rw [found] at fresh
    cases fresh

theorem fresh_agree {input} (valid : input.validate = .ok ())
    (fresh : repo.requestAdmissions.get? input.eventToken = none)
    (listed : AdmittedRequest subject window input → window ∈ input.windows)
    (agree : TokensAgree subject window ⟨repo, counted, retired⟩) :
    TokensAgree subject window ⟨repo.storeAdmission input.eventToken (newAdmission input),
      if AdmittedRequest subject window input then insert input.eventToken counted else counted,
      retired⟩ := by
  have used := usedRequests_storeAdmission repo subject window input.eventToken
    (newAdmission input)
  have card := agree.card
  dsimp only at card
  rw [fresh, elim_none] at used
  by_cases inside : AdmittedRequest subject window input
  · have active : activeInWindow subject window (newAdmission input) :=
      (activeInWindow_iff _ _ _).mpr ⟨rfl, inside⟩
    rw [if_pos active] at used
    rw [if_pos inside]
    apply agree.write
    · intro _
      exact input.validate_retains valid window (listed inside)
    · intro _
      exact mem_insert_self _ _
    · intro place _ member
      exact mem_insert_of_mem member
    · have more := card_insert_le input.eventToken counted
      omega
  · have outside : ¬ activeInWindow subject window (newAdmission input) := by
      rw [activeInWindow_iff]
      exact fun active => inside active.2
    rw [if_neg inside]
    apply agree.write
    · intro within
      exact absurd within inside
    · intro active
      exact absurd active outside
    · intro place _ member
      exact member
    · omega

theorem fresh_step {input} (fresh : repo.requestAdmissions.get? input.eventToken = none)
    (room : AdmittedRequest subject window input →
      retired = 0 ∧ repo.usedRequests subject window < window.limitRequests) :
    Quota.Step window.limitRequests ⟨repo.usedRequests subject window, retired⟩
      ⟨(repo.storeAdmission input.eventToken (newAdmission input)).usedRequests subject window,
        retired⟩ := by
  have used := usedRequests_storeAdmission repo subject window input.eventToken
    (newAdmission input)
  rw [fresh, elim_none] at used
  by_cases inside : AdmittedRequest subject window input
  · obtain ⟨zero, free⟩ := room inside
    apply Quota.Step.grant zero zero
    dsimp only
    split_ifs at used <;> omega
  · have outside : ¬ activeInWindow subject window (newAdmission input) := by
      rw [activeInWindow_iff]
      exact fun active => inside active.2
    rw [if_neg outside] at used
    exact .shrink used.le rfl

theorem reserve_guard {input rest}
    (guard : RequestGuard subject window ⟨repo, counted, retired⟩
      (.reserveUsagePolicyRequest input :: rest)) :
    TokensAgree subject window (requestNext subject window ⟨repo, counted, retired⟩
      (.reserveUsagePolicyRequest input)) ∧
    Quota.Step window.limitRequests (requestLoad subject window ⟨repo, counted, retired⟩)
      (requestLoad subject window (requestNext subject window ⟨repo, counted, retired⟩
        (.reserveUsagePolicyRequest input))) := by
  cases found : repo.requestAdmissions.get? input.eventToken with
  | some existing =>
    have used := replay_usedRequests subject window found
    unfold requestNext requestLoad
    rw [replay_counted found (guard.agree.active _ existing found)]
    exact ⟨replay_agree found guard.agree, .shrink used.le rfl⟩
  | none =>
    have run := reserveUsagePolicyRequest_run input repo
    simp only [requestNext, requestLoad, countAfter, removedRequests, apply]
    generalize reserveUsagePolicyRequest input repo = result at run ⊢
    cases run with
    | refused result denied =>
      simp only [isAllowed_of_ne denied, Bool.false_eq_true, false_and, if_false]
      exact ⟨guard.agree, .shrink le_rfl rfl⟩
    | replayed stored again subjectId admittedAt =>
      rw [found] at again
      cases again
    | admitted valid fresh room =>
      have listed := guard.promise.listed input mem_cons_self valid
      simp only [isAllowed, true_and]
      refine ⟨fresh_agree valid fresh listed guard.agree, fresh_step fresh ?_⟩
      intro inside
      refine ⟨?_, inside.1 ▸ room window (listed inside)⟩
      rcases guard.gate with zero | none_
      · exact zero
      · exact absurd inside (none_ input mem_cons_self)

theorem release_guard (input : ReleaseUsagePolicyRequestAdmissionInput)
    (agree : TokensAgree subject window ⟨repo, counted, retired⟩) :
    TokensAgree subject window (requestNext subject window ⟨repo, counted, retired⟩
      (.releaseUsagePolicyRequestAdmission input)) ∧
    Quota.Step window.limitRequests (requestLoad subject window ⟨repo, counted, retired⟩)
      (requestLoad subject window (requestNext subject window ⟨repo, counted, retired⟩
        (.releaseUsagePolicyRequestAdmission input))) := by
  have run := releaseUsagePolicyRequestAdmission_run input repo
  simp only [requestNext, requestLoad, countAfter, removedRequests, apply]
  generalize releaseUsagePolicyRequestAdmission input repo = result at run ⊢
  cases run with
  | refused result denied =>
    simp only [isReleased_of_ne denied, Bool.false_eq_true, if_false]
    exact ⟨agree, .shrink le_rfl rfl⟩
  | released admission after found state kept =>
    have used := usedRequests_storeAdmission repo subject window input.eventToken after
    have inactive : ¬ activeInWindow subject window after := by
      rw [activeInWindow_iff, state]
      simp
    have card := agree.card
    dsimp only at card
    rw [found, elim_some, if_neg inactive] at used
    simp only [isReleased, if_true]
    constructor
    · apply agree.write
      · rw [kept]
        exact agree.lasting _ admission found
      · intro active
        exact absurd active inactive
      · intro place different member
        exact mem_erase.mpr ⟨different, member⟩
      · by_cases active : activeInWindow subject window admission
        · rw [if_pos active] at used
          have known : input.eventToken ∈ counted := agree.active _ admission found active
          rw [card_erase_of_mem known]
          omega
        · rw [if_neg active] at used
          have fewer := card_erase_le (s := counted) (a := input.eventToken)
          omega
    · exact .shrink (by dsimp only; omega) rfl

theorem cleanup_used (nowUnixSecs batchSize : Nat)
    (agree : TokensAgree subject window ⟨repo, counted, retired⟩) :
    let after := (cleanupUsagePolicyRequestAdmissions nowUnixSecs batchSize repo).2
    after.usedRequests subject window ≤ repo.usedRequests subject window ∧
      (after.usedRequests subject window = repo.usedRequests subject window ∨
        window.endsAtUnixSecs ≤ nowUnixSecs) := by
  intro after
  rw [usedRequests_eq, usedRequests_eq]
  constructor
  · exact total_removeAll_le _ _ _
  · by_cases late : window.endsAtUnixSecs ≤ nowUnixSecs
    · exact .inr late
    · left
      apply total_removeAll_free
      intro token listed row found
      obtain ⟨stored, present, expired⟩ := expiredTokens_expired listed
      cases found.symm.trans present
      have past : row.retainUntilUnixSecs ≤ nowUnixSecs := of_decide_eq_true expired
      rw [if_neg]
      intro active
      have lasts := agree.lasting token row found ((activeInWindow_iff _ _ _).mp active).2
      omega

theorem cleanup_guard {nowUnixSecs batchSize rest}
    (guard : RequestGuard subject window ⟨repo, counted, retired⟩
      (.cleanupUsagePolicyRequestAdmissions nowUnixSecs batchSize :: rest)) :
    RequestGuard subject window (requestNext subject window ⟨repo, counted, retired⟩
      (.cleanupUsagePolicyRequestAdmissions nowUnixSecs batchSize)) rest ∧
    Quota.Step window.limitRequests (requestLoad subject window ⟨repo, counted, retired⟩)
      (requestLoad subject window (requestNext subject window ⟨repo, counted, retired⟩
        (.cleanupUsagePolicyRequestAdmissions nowUnixSecs batchSize))) := by
  obtain ⟨fewer, late⟩ := cleanup_used nowUnixSecs batchSize guard.agree
  have survives : ∀ token row,
      (cleanupUsagePolicyRequestAdmissions nowUnixSecs batchSize repo).2.requestAdmissions.get?
        token = some row → repo.requestAdmissions.get? token = some row := by
    intro token row found
    rcases cleanup_get? repo.requestAdmissions (fun _ row =>
        row.retainUntilUnixSecs ≤ nowUnixSecs) batchSize token with same | ⟨gone, _⟩
    · exact same ▸ found
    · cases gone.symm.trans found
  constructor
  · refine ⟨⟨?_, ?_, ?_⟩, guard.promise.rest, ?_⟩
    · intro token row found
      exact guard.agree.lasting token row (survives token row found)
    · intro token row found
      exact guard.agree.active token row (survives token row found)
    · -- a row that the cleanup took was active, and goes on counting as retired
      have card := guard.agree.card
      simp only [requestNext, countAfter, removedRequests, apply] at card ⊢
      omega
    · rcases late with same | late
      · have nothing : removedRequests subject window repo
            (.cleanupUsagePolicyRequestAdmissions nowUnixSecs batchSize) = 0 :=
          Nat.sub_eq_zero_of_le same.ge
        exact guard.gate_rest.imp (fun zero => by
          dsimp only [requestNext] at zero ⊢; rw [nothing, zero]) id
      · -- every later admission is after the cleanup, and so after the window
        right
        intro input member inside
        have after := (pairwise_cons.mp guard.promise.ordered).1 _ member nowUnixSecs
          batchSize input rfl rfl inside
        have before := inside.2.2
        omega
  · apply Quota.Step.retire (removedRequests subject window repo
      (.cleanupUsagePolicyRequestAdmissions nowUnixSecs batchSize)) _ rfl
    exact (Nat.add_sub_cancel' fewer).le

theorem other_next (other : operation.isRequestPolicy = false) :
    requestNext subject window ⟨repo, counted, retired⟩ operation =
      ⟨repo.apply operation, counted, retired⟩ := by
  cases operation with
  | reserveUsagePolicyRequest input | releaseUsagePolicyRequestAdmission input
  | cleanupUsagePolicyRequestAdmissions nowUnixSecs batchSize => cases other
  | _ => rfl

theorem requestGuard_next (subject : String) (window : UsagePolicyRequestWindow)
    (state : RequestState) (operation : Operation) (rest : List Operation)
    (guard : RequestGuard subject window state (operation :: rest)) :
    RequestGuard subject window (requestNext subject window state operation) rest ∧
      Quota.Step window.limitRequests (requestLoad subject window state)
        (requestLoad subject window (requestNext subject window state operation)) := by
  obtain ⟨repo, counted, retired⟩ := state
  cases about : operation.isRequestPolicy with
  | false =>
    have same := (operation_policyEffect repo about).admissions
    have used : (repo.apply operation).usedRequests subject window =
        repo.usedRequests subject window := by
      rw [usedRequests_eq, usedRequests_eq, same]
    rw [other_next about]
    constructor
    · refine ⟨⟨?_, ?_, ?_⟩, guard.promise.rest, guard.gate_rest⟩
      · dsimp only
        rw [same]
        exact guard.agree.lasting
      · dsimp only
        rw [same]
        exact guard.agree.active
      · dsimp only
        rw [used]
        exact guard.agree.card
    · exact .shrink used.le rfl
  | true =>
    cases operation with
    | reserveUsagePolicyRequest input =>
      obtain ⟨agree, step⟩ := reserve_guard guard
      exact ⟨⟨agree, guard.promise.rest, guard.gate_rest⟩, step⟩
    | releaseUsagePolicyRequestAdmission input =>
      obtain ⟨agree, step⟩ := release_guard input guard.agree
      exact ⟨⟨agree, guard.promise.rest, guard.gate_rest⟩, step⟩
    | cleanupUsagePolicyRequestAdmissions nowUnixSecs batchSize => exact cleanup_guard guard
    | _ => cases about

/-! ## Runs -/

theorem requestNext_run (subject : String) (window : UsagePolicyRequestWindow)
    (operations : List Operation) : ∀ state : RequestState,
      (operations.foldl (requestNext subject window) state).repo = state.repo.run operations ∧
        (operations.foldl (requestNext subject window) state).counted =
          liveTokens subject window state.repo state.counted operations := by
  induction operations with
  | nil => intro state; exact ⟨rfl, rfl⟩
  | cons operation rest ih =>
    intro state
    exact ih (requestNext subject window state operation)

theorem run_tokens {start operations} (empty : start.requestAdmissions = .empty)
    (promise : RequestPromise subject window operations) : ∃ retired, TokensAgree subject window
        ⟨start.run operations, liveTokens subject window start ∅ operations, retired⟩ ∧
      (start.run operations).usedRequests subject window + retired ≤ window.limitRequests := by
  have used : start.usedRequests subject window = 0 := by
    rw [usedRequests_eq, empty]
    rfl
  have agree : TokensAgree subject window ⟨start, ∅, 0⟩ := by
    refine ⟨?_, ?_, Nat.zero_le _⟩
    · rw [empty]
      rintro token row ⟨⟩
    · rw [empty]
      rintro token row ⟨⟩
  have within : Quota.Within window.limitRequests (requestLoad subject window ⟨start, ∅, 0⟩) := by
    simp only [Quota.Within, requestLoad, used]
    exact Nat.zero_le _
  obtain ⟨guard, bounded⟩ := Quota.run_within (requestNext subject window)
    (requestLoad subject window) (RequestGuard subject window) (requestGuard_next subject window)
    operations ⟨start, ∅, 0⟩ ⟨agree, promise, .inl rfl⟩ within
  obtain ⟨reached, counted⟩ := requestNext_run subject window operations ⟨start, ∅, 0⟩
  generalize operations.foldl (requestNext subject window) ⟨start, ∅, 0⟩ = final at *
  obtain ⟨repo, tokens, retired⟩ := final
  cases reached
  cases counted
  exact ⟨retired, guard.agree, bounded⟩

end SettlementRepository

end Aeris.Settlement
