import Aeris.Settlement.RequestWindow

/-! One admission over a run: its row lasts until its retention has passed, its
release is not undone, and asking for its token again admits nothing new. -/
namespace Aeris.Settlement

open List OrderedTable

namespace SettlementRepository

variable {repo next : SettlementRepository}

/-! ## One row over a run -/

/-- What later calls leave of an admission: who asked and when, a retention that
only grows, and a release that is not undone. -/
structure AdmissionContinues (row next : StoredUsagePolicyRequestAdmission) : Prop where
  subjectId : next.subjectId = row.subjectId
  admittedAt : next.admittedAtUnixSecs = row.admittedAtUnixSecs
  retained : row.retainUntilUnixSecs ≤ next.retainUntilUnixSecs
  final : row.state = .released → next.state = .released

theorem AdmissionContinues.refl (row : StoredUsagePolicyRequestAdmission) :
    AdmissionContinues row row :=
  ⟨rfl, rfl, le_rfl, id⟩

theorem AdmissionContinues.trans {row next last}
    (first : AdmissionContinues row next) (second : AdmissionContinues next last) :
    AdmissionContinues row last where
  subjectId := second.subjectId.trans first.subjectId
  admittedAt := second.admittedAt.trans first.admittedAt
  retained := first.retained.trans second.retained
  final := second.final ∘ first.final

def CleanupsBefore (time : Nat) (operations : List Operation) : Prop :=
  ∀ nowUnixSecs batchSize,
    .cleanupUsagePolicyRequestAdmissions nowUnixSecs batchSize ∈ operations → nowUnixSecs < time

theorem storeAdmission_continues {token place row old stored}
    (found : repo.requestAdmissions.get? place = some row)
    (previous : repo.requestAdmissions.get? token = some old)
    (continues : AdmissionContinues old stored) :
    ∃ next, (repo.storeAdmission token stored).requestAdmissions.get? place = some next ∧
      AdmissionContinues row next := by
  change ∃ next, (repo.requestAdmissions.insert token stored).get? place = some next ∧ _
  rw [get?_insert]
  split_ifs with same
  · subst same
    cases found.symm.trans previous
    exact ⟨stored, rfl, continues⟩
  · exact ⟨row, found, .refl row⟩

variable {row : StoredUsagePolicyRequestAdmission} {token : String}

theorem reserve_continues (input : ReserveUsagePolicyRequestInput)
    (found : repo.requestAdmissions.get? token = some row) :
    ∃ next, (reserveUsagePolicyRequest input repo).2.requestAdmissions.get? token = some next ∧
      AdmissionContinues row next := by
  have run := reserveUsagePolicyRequest_run input repo
  generalize reserveUsagePolicyRequest input repo = result at run ⊢
  cases run with
  | refused result denied => exact ⟨row, found, .refl row⟩
  | replayed stored again subjectId admittedAt =>
    exact storeAdmission_continues found again ⟨rfl, rfl, le_max_left _ _, id⟩
  | admitted valid fresh room =>
    change ∃ next, (repo.requestAdmissions.insert input.eventToken _).get? token = some next ∧ _
    have other : token ≠ input.eventToken := by
      rintro rfl
      cases found.symm.trans fresh
    rw [get?_insert, if_neg other]
    exact ⟨row, found, .refl row⟩

theorem release_continues (input : ReleaseUsagePolicyRequestAdmissionInput)
    (found : repo.requestAdmissions.get? token = some row) :
    ∃ next, (releaseUsagePolicyRequestAdmission input repo).2.requestAdmissions.get? token =
      some next ∧ AdmissionContinues row next := by
  have run := releaseUsagePolicyRequestAdmission_run input repo
  generalize releaseUsagePolicyRequestAdmission input repo = result at run ⊢
  cases run with
  | refused result denied => exact ⟨row, found, .refl row⟩
  | released admission after previous state kept =>
    apply storeAdmission_continues found previous
    rw [kept, state]
    exact ⟨rfl, rfl, le_rfl, fun _ => rfl⟩

theorem operation_continues {operation} (found : repo.requestAdmissions.get? token = some row)
    (early : CleanupsBefore row.retainUntilUnixSecs [operation]) :
    ∃ next, (repo.apply operation).requestAdmissions.get? token = some next ∧
      AdmissionContinues row next := by
  cases about : operation.isRequestPolicy with
  | false =>
    rw [(operation_policyEffect repo about).admissions]
    exact ⟨row, found, .refl row⟩
  | true =>
    cases operation with
    | reserveUsagePolicyRequest input => exact reserve_continues input found
    | releaseUsagePolicyRequestAdmission input => exact release_continues input found
    | cleanupUsagePolicyRequestAdmissions nowUnixSecs batchSize =>
      have before := early nowUnixSecs batchSize mem_cons_self
      rcases cleanup_get? repo.requestAdmissions (fun _ row =>
          row.retainUntilUnixSecs ≤ nowUnixSecs) batchSize token with
        same | ⟨_, stored, present, expired⟩
      · exact ⟨row, same.trans found, .refl row⟩
      · cases found.symm.trans present
        have past := of_decide_eq_true expired
        omega
    | _ => cases about

theorem run_continues (operations : List Operation) : ∀ {repo : SettlementRepository} {row},
      repo.requestAdmissions.get? token = some row →
      CleanupsBefore row.retainUntilUnixSecs operations →
        ∃ next, (repo.run operations).requestAdmissions.get? token = some next ∧
          AdmissionContinues row next := by
  induction operations with
  | nil => intro repo row found _; exact ⟨row, found, .refl row⟩
  | cons operation rest ih =>
    intro repo row found early
    have one : CleanupsBefore row.retainUntilUnixSecs [operation] := by
      intro nowUnixSecs batchSize member
      exact early nowUnixSecs batchSize (mem_singleton.mp member ▸ mem_cons_self)
    obtain ⟨next, present, continues⟩ := operation_continues found one
    have later : CleanupsBefore next.retainUntilUnixSecs rest := by
      intro nowUnixSecs batchSize member
      have before := early nowUnixSecs batchSize (mem_cons_of_mem _ member)
      exact before.trans_le continues.retained
    obtain ⟨last, reached, onward⟩ := ih present later
    exact ⟨last, reached, continues.trans onward⟩

/-! ## Replays -/

theorem allowed_row (input : ReserveUsagePolicyRequestInput)
    (allowed : isAllowed (reserveUsagePolicyRequest input repo).1) :
    ∃ row, (reserveUsagePolicyRequest input repo).2.requestAdmissions.get? input.eventToken =
      some row ∧ row.subjectId = input.subjectId ∧
        row.admittedAtUnixSecs = input.admittedAtUnixSecs := by
  have run := reserveUsagePolicyRequest_run input repo
  generalize reserveUsagePolicyRequest input repo = result at run allowed ⊢
  cases run with
  | refused result denied =>
    rw [isAllowed_of_ne denied] at allowed
    cases allowed
  | replayed stored again subjectId admittedAt =>
    exact ⟨_, get?_insert_self _ _ _, subjectId, admittedAt⟩
  | admitted valid fresh room => exact ⟨_, get?_insert_self _ _ _, rfl, rfl⟩

theorem released_row {input released}
    (success : (releaseUsagePolicyRequestAdmission input repo).1 = .ok (some released)) :
    (releaseUsagePolicyRequestAdmission input repo).2.requestAdmissions.get? input.eventToken =
      some released ∧ released.state = .released := by
  have run := releaseUsagePolicyRequestAdmission_run input repo
  generalize releaseUsagePolicyRequestAdmission input repo = result at run success ⊢
  cases run with
  | refused result denied => exact absurd success (denied released)
  | released admission after previous state kept =>
    cases success
    exact ⟨get?_insert_self _ _ _, state⟩

theorem liveTokens_append (subject : String) (window : UsagePolicyRequestWindow)
    (front back : List Operation) : ∀ (repo : SettlementRepository) (counted : Finset String),
      liveTokens subject window repo counted (front ++ back) =
        liveTokens subject window (repo.run front)
          (liveTokens subject window repo counted front) back := by
  induction front with
  | nil => intro repo counted; rfl
  | cons operation rest ih =>
    intro repo counted
    exact ih (repo.apply operation) (countAfter subject window repo counted operation)

theorem run_append (repo : SettlementRepository) (front back : List Operation) :
    repo.run (front ++ back) = (repo.run front).run back :=
  foldl_append

variable {window : UsagePolicyRequestWindow} {subject : String}

theorem RequestPromise.front
    {front back} (promise : RequestPromise subject window (front ++ back)) :
    RequestPromise subject window front where
  listed := fun input member => promise.listed input (mem_append_left _ member)
  ordered := (pairwise_append.mp promise.ordered).1

section

variable {start : SettlementRepository} {earlier : List Operation}
  {again : ReserveUsagePolicyRequestInput} (empty : start.requestAdmissions = .empty)
include empty

theorem again_counted
    (promise : RequestPromise subject window (earlier ++ [.reserveUsagePolicyRequest again]))
    (known : AdmittedRequest subject window again → ∃ row,
      (start.run earlier).requestAdmissions.get? again.eventToken = some row) :
    liveTokens subject window start ∅ (earlier ++ [.reserveUsagePolicyRequest again]) =
      liveTokens subject window start ∅ earlier := by
  rw [liveTokens_append]
  simp only [liveTokens]
  by_cases inside : AdmittedRequest subject window again
  · obtain ⟨row, found⟩ := known inside
    obtain ⟨retired, agree, _⟩ := run_tokens empty promise.front
    exact replay_counted found (agree.active _ row found)
  · simp only [countAfter]
    rw [if_neg (fun both => inside both.2)]

theorem allowed_lasts {later : List Operation} {first}
    (promise : RequestPromise subject window
      ((earlier ++ .reserveUsagePolicyRequest first :: later) ++
      [.reserveUsagePolicyRequest again]))
    (allowed : isAllowed (reserveUsagePolicyRequest first (start.run earlier)).1)
    (inWindow : AdmittedRequest subject window first)
    (inside : AdmittedRequest subject window again) :
    ∃ row, (start.run (earlier ++ .reserveUsagePolicyRequest first :: later)).requestAdmissions.get?
      first.eventToken = some row := by
  have opening : RequestPromise subject window (earlier ++ [.reserveUsagePolicyRequest first]) := by
    have whole := promise.front
    rw [← singleton_append, ← append_assoc] at whole
    exact whole.front
  obtain ⟨retired, agree, _⟩ := run_tokens empty opening
  obtain ⟨row, found, subjectId, admittedAt⟩ := allowed_row first allowed
  have lasts : window.endsAtUnixSecs ≤ row.retainUntilUnixSecs := by
    apply agree.lasting first.eventToken row
    · rw [run_append]
      exact found
    · rw [inRequestWindow, subjectId, admittedAt]
      exact inWindow
  -- the last call is in the window, so every cleanup before it came before its end
  have early : CleanupsBefore row.retainUntilUnixSecs later := by
    intro nowUnixSecs batchSize member
    have before := (pairwise_append.mp promise.ordered).2.2 _
      (mem_append_right _ (mem_cons_of_mem _ member)) _ mem_cons_self
      nowUnixSecs batchSize again rfl rfl inside
    have ends := inside.2.2
    omega
  obtain ⟨last, reached, _⟩ := run_continues later found early
  rw [run_append]
  exact ⟨last, reached⟩

end

/-- From a repository without admissions, no window is oversold: the tokens that
were allowed in it and not released, whether or not their rows are still there,
are at most its limit. A released token is not active again before a cleanup that
is past its retention, and a reserve that repeats an allowed one, or names a token
that has a row, does not change which tokens count. -/
theorem request_window_not_oversold (start : SettlementRepository) (operations : List Operation)
    (subject : String) (window : UsagePolicyRequestWindow)
    (empty : start.requestAdmissions = .empty)
    (promise : RequestPromise subject window operations) :
    (liveTokens subject window start ∅ operations).card ≤ window.limitRequests ∧
    (∀ earlier input later released,
      operations = earlier ++ .releaseUsagePolicyRequestAdmission input :: later →
      (releaseUsagePolicyRequestAdmission input (start.run earlier)).1 = .ok (some released) →
      CleanupsBefore released.retainUntilUnixSecs later →
        ∃ row, (start.run operations).requestAdmissions.get? input.eventToken = some row ∧
          row.state = .released) ∧
    (∀ earlier first later again,
      operations = (earlier ++ .reserveUsagePolicyRequest first :: later) ++
        [.reserveUsagePolicyRequest again] →
      isAllowed (reserveUsagePolicyRequest first (start.run earlier)).1 →
      again.eventToken = first.eventToken →
      (AdmittedRequest subject window again → AdmittedRequest subject window first) →
        liveTokens subject window start ∅ operations = liveTokens subject window start ∅
            (earlier ++ .reserveUsagePolicyRequest first :: later)) ∧
    (∀ earlier again row, operations = earlier ++ [.reserveUsagePolicyRequest again] →
      (start.run earlier).requestAdmissions.get? again.eventToken = some row →
        liveTokens subject window start ∅ operations =
          liveTokens subject window start ∅ earlier) := by
  refine ⟨?_, ?_, ?_, ?_⟩
  · obtain ⟨retired, agree, bounded⟩ := run_tokens empty promise
    exact agree.card.trans bounded
  · rintro earlier input later released rfl success early
    obtain ⟨found, state⟩ := released_row success
    obtain ⟨last, reached, continues⟩ := run_continues later found early
    rw [run_append]
    exact ⟨last, reached, continues.final state⟩
  · rintro earlier first later again rfl allowed same inWindow
    apply again_counted empty promise
    intro inside
    rw [same]
    exact allowed_lasts empty promise allowed (inWindow inside) inside
  · rintro earlier again row rfl found
    exact again_counted empty promise (fun _ => ⟨row, found⟩)

def sampleRequestWindow : UsagePolicyRequestWindow := ⟨0, 100, 2⟩

def sampleRequest (eventToken : String) (admittedAtUnixSecs : Nat) :
    ReserveUsagePolicyRequestInput where
  requestId := "request"
  subjectId := "user"
  eventToken := eventToken
  admittedAtUnixSecs := admittedAtUnixSecs
  retainUntilUnixSecs := 100
  windows := [sampleRequestWindow]

def sampleRelease : ReleaseUsagePolicyRequestAdmissionInput where
  requestId := "request"
  subjectId := "user"
  eventToken := "first"
  releasedAtUnixSecs := 13

def sampleReleased : StoredUsagePolicyRequestAdmission :=
  { newAdmission (sampleRequest "first" 10) with
    state := .released, releasedAtUnixSecs := some 13 }

/-- Two tokens fill the window; one is released, and asked for again in vain. -/
def sampleRequestRun : List Operation :=
  [.reserveUsagePolicyRequest (sampleRequest "first" 10),
    .reserveUsagePolicyRequest (sampleRequest "second" 11),
    .reserveUsagePolicyRequest (sampleRequest "third" 12),
    .releaseUsagePolicyRequestAdmission sampleRelease,
    .reserveUsagePolicyRequest (sampleRequest "first" 10),
    .cleanupUsagePolicyRequestAdmissions 10 5,
    .reserveUsagePolicyRequest (sampleRequest "third" 15),
    .reserveUsagePolicyRequest (sampleRequest "second" 11)]

theorem sampleRequestRun_promise : RequestPromise "user" sampleRequestWindow sampleRequestRun where
  listed := by
    intro input member _ _
    simp only [sampleRequestRun, mem_cons, not_mem_nil, or_false, reduceCtorEq,
      false_or, Operation.reserveUsagePolicyRequest.injEq] at member
    rcases member with rfl | rfl | rfl | rfl | rfl | rfl <;> exact mem_cons_self
  ordered := by simp [sampleRequestRun, sampleRequest]

theorem request_window_not_oversold_sample :
    (liveTokens "user" sampleRequestWindow sampleRepository ∅ sampleRequestRun =
        {"second", "third"} ∧
      isAllowed (reserveUsagePolicyRequest (sampleRequest "second" 11)
        (sampleRepository.run (sampleRequestRun.take 7))).1) ∧
    (liveTokens "user" sampleRequestWindow sampleRepository ∅ sampleRequestRun).card ≤ 2 ∧
    (∃ row, (sampleRepository.run sampleRequestRun).requestAdmissions.get? "first" = some row ∧
      row.state = .released) ∧
    liveTokens "user" sampleRequestWindow sampleRepository ∅ sampleRequestRun =
      liveTokens "user" sampleRequestWindow sampleRepository ∅ (sampleRequestRun.take 7) := by
  have safe := request_window_not_oversold sampleRepository sampleRequestRun "user"
    sampleRequestWindow rfl sampleRequestRun_promise
  refine ⟨by decide +kernel, safe.1, ?_, ?_⟩
  · apply safe.2.1 (sampleRequestRun.take 3) sampleRelease (sampleRequestRun.drop 4)
      sampleReleased rfl rfl
    simp [CleanupsBefore, sampleRequestRun, sampleReleased, newAdmission, sampleRequest]
  · exact safe.2.2.1 (sampleRequestRun.take 1) (sampleRequest "second" 11)
      ((sampleRequestRun.take 7).drop 2) (sampleRequest "second" 11) rfl (by decide +kernel) rfl id

end SettlementRepository

end Aeris.Settlement
