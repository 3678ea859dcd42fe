import Aeris.Base.History
import Aeris.Usage.WorkerRuns

/-! The usage worker loses no event: nothing leaves the queue before it was recorded
or stored as a dead letter, whatever the recorder, the budget and the store answer. -/
namespace Aeris.Usage

open Aeris.Runtime Interaction History List

variable {Event : Type}

/-! ## What must have happened before an entry may go -/

/-- The recorder took the event that was decoded from this very entry. -/
def Recorded (before : List (Seen Event)) (entry : RuntimeQueueEntry) : Prop :=
  ∃ start event later,
    before = start ++ ⟨.decode entry, .ok event⟩ :: ⟨.record event, .ok ()⟩ :: later

/-- The entry could not be decoded, or the recorder refused its event for good. -/
def Failed (before : List (Seen Event)) (entry : RuntimeQueueEntry) (error : DataLayerError) :
    Prop :=
  ∃ start failure eventName later,
    before = start ++ (failure ++ later) ∧ FailedRun entry failure error eventName

/-- A dead letter was stored that says all there is to say about the entry. -/
def Stored (queue : UsageQueue) (before : List (Seen Event)) (entry : RuntimeQueueEntry) : Prop :=
  ∃ error fields maxlen destinationId, Failed before entry error ∧
    ⟨.append queue.dlqStream fields maxlen, .ok destinationId⟩ ∈ before ∧
    readDeadLetter fields = some ⟨entry.id, entry.fields.entries, error.text⟩

section

variable (queue : UsageQueue) (entries : List RuntimeQueueEntry) (before : List (Seen Event))

def MayGo (id : String) : Prop :=
  ∃ entry ∈ entries, entry.id = id ∧ (Recorded before entry ∨ Stored queue before entry)

/-- Acks and deletes name only ids that may go; a transfer carries the dead letter of the
entry that it moves away. -/
def SafeStep : Seen Event → Prop
  | ⟨.ack _ _ ids, _⟩ | ⟨.delete _ ids, _⟩ => ∀ id ∈ ids, MayGo queue entries before id
  | ⟨.transfer _ _ id destination fields _, _⟩ =>
    destination = queue.dlqStream ∧ ∃ entry ∈ entries, entry.id = id ∧ ∃ error,
      Failed before entry error ∧
      readDeadLetter fields = some ⟨entry.id, entry.fields.entries, error.text⟩
  | _ => True

/-- All the steps of a trace are safe when it follows on `before`. -/
def SafeAfter (trace : List (Seen Event)) : Prop :=
  Each (fun earlier seen => SafeStep queue entries (before ++ earlier) seen) trace

end

section

variable {queue : UsageQueue} {entries : List RuntimeQueueEntry} {entry : RuntimeQueueEntry}
variable {before : List (Seen Event)}

theorem safeAfter_append (first second : List (Seen Event)) :
    SafeAfter queue entries before (first ++ second) ↔
      SafeAfter queue entries before first ∧ SafeAfter queue entries (before ++ first) second := by
  rw [SafeAfter, each_append]
  simp only [SafeAfter, append_assoc]

variable {trace : List (Seen Event)}

theorem safeAfter_of_forall
    (safe : ∀ seen ∈ trace, ∀ earlier, SafeStep queue entries (before ++ earlier) seen) :
    SafeAfter queue entries before trace :=
  each_of_forall safe

theorem safeAfter_single {seen} (safe : SafeStep queue entries before seen) :
    SafeAfter queue entries before [seen] :=
  (each_cons seen).mpr ⟨by rwa [append_nil], each_nil⟩

theorem MayGo.later {id} (may : MayGo queue entries before id)
    (more : List (Seen Event)) : MayGo queue entries (before ++ more) id := by
  obtain ⟨entry, member, same, recorded | stored⟩ := may
  · obtain ⟨start, event, later, rfl⟩ := recorded
    exact ⟨entry, member, same, .inl ⟨start, event, later ++ more, by simp⟩⟩
  · obtain ⟨error, fields, maxlen, destinationId, failed, appended, content⟩ := stored
    obtain ⟨start, failure, eventName, later, rfl, run⟩ := failed
    exact ⟨entry, member, same, .inr ⟨error, fields, maxlen, destinationId,
      ⟨start, failure, eventName, later ++ more, by simp, run⟩,
      mem_append_left _ appended, content⟩⟩

theorem Seen.Quiet.safe {seen} (quiet : seen.Quiet) (before : List (Seen Event)) :
    SafeStep queue entries before seen := by
  obtain ⟨request, response⟩ := seen
  cases request <;> trivial

variable {error : DataLayerError}

theorem EncodingRun.safe {outcome}
    (run : EncodingRun queue entry error.text trace outcome) (member : entry ∈ entries)
    (failed : ∀ more, Failed (before ++ more) entry error) :
    SafeAfter queue entries before trace := by
  have quietly : ∀ start : List (Seen Event), Usage.Quiet start →
      SafeAfter queue entries before start :=
    fun start quiet => safeAfter_of_forall fun seen here _ => (quiet seen here).safe _
  have moved : ∀ start answer, SafeAfter queue entries (before ++ start)
      [sawTransfer queue entry error.text answer] :=
    fun start answer => safeAfter_single ⟨rfl, entry, member, rfl, error, failed start,
      readDeadLetter_deadLetterFields entry error.text⟩
  have stored : ∀ start answer, SafeAfter queue entries (before ++ start)
      [sawAppend queue entry error.text answer] :=
    fun start answer => safeAfter_single trivial
  cases run with
  | deferred start quiet deferral => exact quietly trace quiet
  | transferFailed start quiet failure | transferred start quiet destinationId acked deleted
  | notPending start quiet =>
    exact (safeAfter_append start _).mpr ⟨quietly start quiet, moved start _⟩
  | appendFailed start quiet failure | appended start quiet destinationId =>
    refine (safeAfter_append start _).mpr ⟨quietly start quiet, ?_⟩
    refine (safeAfter_append [_] [_]).mpr ⟨moved start _, ?_⟩
    rw [append_assoc]
    exact stored _ _

theorem OutcomeRun.safe {eventName outcome disposition}
    (run : OutcomeRun entry error eventName outcome trace disposition) {seen}
    (member : seen ∈ trace) (before : List (Seen Event)) : SafeStep queue entries before seen := by
  cases run with
  | failed failure => cases member
  | transferred destinationId acked =>
    rcases mem_append.mp member with report | rest
    · split at report
      · rw [mem_singleton.mp report]; trivial
      · cases report
    · rcases mem_pair.mp rest with rfl | rfl <;> trivial
  | appended destinationId => rcases mem_pair.mp member with rfl | rfl <;> trivial
  | notPending | deferred deferral => rw [mem_singleton.mp member]; trivial

theorem EntryRun.safe {disposition}
    (run : EntryRun queue entry trace disposition) (member : entry ∈ entries) :
    SafeAfter queue entries before trace := by
  cases run with
  | recorded event =>
    refine safeAfter_of_forall fun seen here _ => ?_
    rcases mem_pair.mp here with rfl | rfl <;> trivial
  | retryable event error retry =>
    refine safeAfter_of_forall fun seen here _ => ?_
    simp only [mem_cons, not_mem_nil, or_false] at here
    rcases here with rfl | rfl | rfl <;> trivial
  | @deadLetter start middle last error eventName outcome _ failed encoding ends =>
    rw [safeAfter_append, safeAfter_append]
    refine ⟨?_, ?_, safeAfter_of_forall fun seen here _ => ends.safe here _⟩
    · refine safeAfter_of_forall fun seen here _ => ?_
      cases failed with
      | undecodable error => rw [mem_singleton.mp here]; trivial
      | unrecordable event error permanent =>
        simp only [mem_cons, not_mem_nil, or_false] at here
        rcases here with rfl | rfl | rfl <;> trivial
    · exact encoding.safe member fun more => ⟨before, start, eventName, more, by simp, failed⟩

theorem EntryRun.mayGo (run : EntryRun queue entry trace (.ok .needsAck)) (member : entry ∈ entries)
    (before : List (Seen Event)) : MayGo queue entries (before ++ trace) entry.id := by
  refine ⟨entry, member, rfl, ?_⟩
  cases run with
  | recorded event => exact .inl ⟨before, event, [], rfl⟩
  | @deadLetter start middle last error eventName outcome _ failed encoding ends =>
    cases ends with
    | appended destinationId =>
      cases encoding with
      | appended quiets quiet destinationId =>
        refine .inr ⟨error, deadLetterFields entry error.text, some queue.dlqStreamMaxlen,
          destinationId, ⟨before, start, eventName, _, rfl, failed⟩, by simp,
          readDeadLetter_deadLetterFields entry error.text⟩

variable {ids : List String}

theorem FlushRun.safe {result} (run : FlushRun queue ids trace result)
    (may : ∀ id ∈ ids, MayGo queue entries before id) : SafeAfter queue entries before trace := by
  have named : ∀ earlier, ∀ id ∈ ids, MayGo queue entries (before ++ earlier) id :=
    fun earlier id here => (may id here).later earlier
  refine safeAfter_of_forall fun seen here earlier => ?_
  cases run with
  | ackFailed failure =>
    rw [mem_singleton.mp here]
    exact named earlier
  | deleteFailed acked failure =>
    rcases mem_pair.mp here with rfl | rfl <;> exact named earlier
  | acked acked deleted =>
    rcases mem_append.mp here with store | report
    · rcases mem_pair.mp store with rfl | rfl <;> exact named earlier
    · split at report
      · rw [mem_singleton.mp report]; trivial
      · cases report

theorem LastFlush.safe
    (run : LastFlush queue ids trace) (may : ∀ id ∈ ids, MayGo queue entries before id) :
    SafeAfter queue entries before trace := by
  cases run with
  | nothing => exact each_nil
  | flush run => exact run.safe may

theorem EntryRun.mayGo_all
    (run : EntryRun queue entry trace (.ok .needsAck)) (member : entry ∈ entries)
    (may : ∀ id ∈ ids, MayGo queue entries before id) :
    ∀ id ∈ ids ++ [entry.id], MayGo queue entries (before ++ trace) id := by
  intro id here
  rcases mem_append.mp here with waiting | new
  · exact (may id waiting).later trace
  · rw [mem_singleton.mp new]
    exact run.mayGo member before

theorem BatchRun.safe {remaining}
    (run : BatchRun queue remaining ids trace) (members : ∀ entry ∈ remaining, entry ∈ entries)
    (may : ∀ id ∈ ids, MayGo queue entries before id) : SafeAfter queue entries before trace := by
  induction run generalizing before with
  | finish flush => exact flush.safe may
  | stop run flush =>
    exact (safeAfter_append _ _).mpr ⟨run.safe (members _ mem_cons_self),
      flush.safe fun id here => (may id here).later _⟩
  | pass run noAck further ih =>
    exact (safeAfter_append _ _).mpr ⟨run.safe (members _ mem_cons_self),
      ih (fun entry later => members entry (.tail _ later)) fun id here => (may id here).later _⟩
  | collect run further ih =>
    exact (safeAfter_append _ _).mpr ⟨run.safe (members _ mem_cons_self),
      ih (fun entry later => members entry (.tail _ later))
        (run.mayGo_all (members _ mem_cons_self) may)⟩
  | chunk run flush further ih =>
    rw [safeAfter_append, safeAfter_append]
    exact ⟨run.safe (members _ mem_cons_self),
      flush.safe (run.mayGo_all (members _ mem_cons_self) may),
      ih (fun entry later => members entry (.tail _ later))
        (fun id here => absurd here not_mem_nil)⟩
  | chunkFailed run flush =>
    exact (safeAfter_append _ _).mpr ⟨run.safe (members _ mem_cons_self),
      flush.safe (run.mayGo_all (members _ mem_cons_self) may)⟩

end

end Aeris.Usage
