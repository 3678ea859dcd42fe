import Aeris.Usage.Worker

/-! What the worker can do, said once: the runs of each part of the batch loop as
relations between an entry, the observations it leaves and its disposition. -/
namespace Aeris.Usage

open Aeris.Runtime Interaction List

variable {Event : Type}

/-- A step of the encoding budget, which touches no entry. -/
def Seen.Quiet : Seen Event → Prop
  | ⟨.reserve _, _⟩ | ⟨.encode, _⟩ => True
  | _ => False

def Quiet (trace : List (Seen Event)) : Prop := ∀ seen ∈ trace, seen.Quiet

abbrev sawTransfer (queue : UsageQueue) (entry : RuntimeQueueEntry) (error : String)
    (answer : Except DataLayerError (Option RuntimeQueueTransferOutcome)) : Seen Event :=
  ⟨.transfer queue.stream queue.group entry.id queue.dlqStream (deadLetterFields entry error)
    (some queue.dlqStreamMaxlen), answer⟩

abbrev sawAppend (queue : UsageQueue) (entry : RuntimeQueueEntry) (error : String)
    (answer : Except DataLayerError String) : Seen Event :=
  ⟨.append queue.dlqStream (deadLetterFields entry error) (some queue.dlqStreamMaxlen), answer⟩

abbrev sawWarn (eventName entryId error : String) : Seen Event :=
  ⟨.warn eventName entryId error, ()⟩

abbrev sawReport (observation : UsageWorkerObservation) : Seen Event := ⟨.report observation, ()⟩

/-! ## One dead letter -/

inductive EncodingRun (queue : UsageQueue) (entry : RuntimeQueueEntry) (error : String) :
    List (Seen Event) → Except DataLayerError UsageDeadLetterOutcome → Prop
  | deferred (start : List (Seen Event)) (quiet : Quiet start) (deferral : DataLayerError) :
      EncodingRun queue entry error start (.ok (.encodingDeferred deferral))
  | transferFailed (start : List (Seen Event)) (quiet : Quiet start) (failure : DataLayerError) :
      EncodingRun queue entry error (start ++ [sawTransfer queue entry error (.error failure)])
        (.error failure)
  | transferred (start : List (Seen Event)) (quiet : Quiet start) (destinationId : String)
      (acked deleted : Nat) :
      EncodingRun queue entry error
        (start ++ [sawTransfer queue entry error
          (.ok (some (.transferred destinationId acked deleted)))])
        (.ok (.transferred destinationId acked))
  | notPending (start : List (Seen Event)) (quiet : Quiet start) :
      EncodingRun queue entry error
        (start ++ [sawTransfer queue entry error (.ok (some .notPending))]) (.ok .notPending)
  | appendFailed (start : List (Seen Event)) (quiet : Quiet start) (failure : DataLayerError) :
      EncodingRun queue entry error
        (start ++ [sawTransfer queue entry error (.ok none),
          sawAppend queue entry error (.error failure)]) (.error failure)
  | appended (start : List (Seen Event)) (quiet : Quiet start) (destinationId : String) :
      EncodingRun queue entry error
        (start ++ [sawTransfer queue entry error (.ok none),
          sawAppend queue entry error (.ok destinationId)]) (.ok (.appended destinationId))

section

variable {queue : UsageQueue} {entry : RuntimeQueueEntry}

variable {trace : List (Seen Event)} {error : String}

theorem tryReserve_runs {result}
    (run : Runs (tryReserve queue entry error) trace result) : Quiet trace := by
  unfold tryReserve at run
  split at run
  · obtain ⟨rfl, -⟩ := runs_pure.mp run
    simp [Quiet]
  · obtain ⟨granted, later, rfl, rest⟩ := runs_request_bind.mp run
    have empty : later = [] := by
      cases granted with
      | false | true => exact (runs_pure.mp rest).1
    simp [Quiet, empty, Seen.Quiet]

theorem encodeOwned_runs {size result} (run : Runs (encodeOwned size entry error) trace result) :
    Quiet trace ∧ ∀ fields, result = .ok fields → fields = deadLetterFields entry error := by
  obtain ⟨fault, later, rfl, rest⟩ := runs_request_bind.mp run
  have inner : later = [] ∧
      ∀ fields, result = .ok fields → fields = deadLetterFields entry error := by
    cases fault with
    | some fault =>
      cases fault with
      | task message | allocation message =>
        obtain ⟨rfl, rfl⟩ := runs_pure.mp rest
        exact ⟨rfl, fun _ impossible => by cases impossible⟩
    | none =>
      dsimp only at rest
      split at rest
      · obtain ⟨rfl, rfl⟩ := runs_pure.mp rest
        exact ⟨rfl, fun _ impossible => by cases impossible⟩
      · obtain ⟨rfl, rfl⟩ := runs_pure.mp rest
        exact ⟨rfl, fun _ same => (Except.ok.inj same).symm⟩
  exact ⟨by simp [Quiet, inner.1, Seen.Quiet], inner.2⟩

theorem transferDeadLetterOwned_runs {result}
    (run : Runs (transferDeadLetterOwned queue entry error) trace result) :
    EncodingRun queue entry error trace result := by
  obtain ⟨first, reservation, after, rfl, reserved, rest⟩ := runs_bind.mp run
  have quiet := tryReserve_runs reserved
  cases reservation with
  | error refusal =>
    obtain ⟨rfl, rfl⟩ := runs_pure.mp rest
    rw [append_nil]
    exact .deferred first quiet refusal
  | ok size =>
    obtain ⟨second, encoded, last, rfl, encoding, transfer⟩ := runs_bind.mp rest
    have both : Quiet (first ++ second) := by
      intro seen member
      rcases mem_append.mp member with early | late
      · exact quiet seen early
      · exact (encodeOwned_runs encoding).1 seen late
    rw [← append_assoc]
    cases encoded with
    | error fault =>
      obtain ⟨rfl, rfl⟩ := runs_pure.mp transfer
      rw [append_nil]
      exact .deferred _ both fault
    | ok fields =>
      cases (encodeOwned_runs encoding).2 fields rfl
      obtain ⟨answer, later, rfl, after⟩ := runs_request_bind.mp transfer
      cases answer with
      | error failure =>
        obtain ⟨rfl, rfl⟩ := runs_pure.mp after
        exact .transferFailed _ both failure
      | ok answer =>
        cases answer with
        | some outcome =>
          cases outcome with
          | transferred destinationId acked deleted =>
            obtain ⟨rfl, rfl⟩ := runs_pure.mp after
            exact .transferred _ both destinationId acked deleted
          | notPending =>
            obtain ⟨rfl, rfl⟩ := runs_pure.mp after
            exact .notPending _ both
        | none =>
          obtain ⟨appended, later, rfl, final⟩ := runs_request_bind.mp after
          cases appended with
          | error failure =>
            obtain ⟨rfl, rfl⟩ := runs_pure.mp final
            exact .appendFailed _ both failure
          | ok destinationId =>
            obtain ⟨rfl, rfl⟩ := runs_pure.mp final
            exact .appended _ both destinationId

theorem reportAcked_runs {acked} (run : Runs (reportAcked acked) trace ()) :
    trace = if acked > 0 then [sawReport (.acked acked)] else [] := by
  unfold reportAcked at run
  split at run
  · rw [if_pos (by assumption)]
    exact runs_request.mp run
  · rw [if_neg (by assumption)]
    exact (runs_pure.mp run).1

theorem reportDeadLettered_runs
    {eventName entryId error} (run : Runs (reportDeadLettered eventName entryId error) trace ()) :
    trace = [sawReport (.deadLettered 1), sawWarn eventName entryId error.text] := by
  obtain ⟨-, later, rfl, rest⟩ := runs_request_bind.mp run
  rw [runs_request.mp rest]

end

/-! ## One entry -/

/-- How the observations of an entry begin that then goes to the dead letters. -/
inductive FailedRun (entry : RuntimeQueueEntry) : List (Seen Event) → DataLayerError → String → Prop
  | undecodable (error : DataLayerError) :
      FailedRun entry [⟨.decode entry, .error error⟩] error
        "usage_worker_entry_decode_dead_lettered"
  | unrecordable (event : Event) (error : DataLayerError)
      (permanent : usageEventRecordErrorIsPermanent error) :
      FailedRun entry [⟨.decode entry, .ok event⟩, ⟨.record event, .error error⟩,
        sawWarn "usage_worker_entry_record_permanent_failed" entry.id error.text] error
        "usage_worker_entry_record_dead_lettered"

/-- The end of a dead letter: what is reported, and what becomes of the entry. -/
inductive OutcomeRun (entry : RuntimeQueueEntry) (error : DataLayerError) (eventName : String) :
    Except DataLayerError UsageDeadLetterOutcome → List (Seen Event) →
      Except DataLayerError EntryDisposition → Prop
  | failed (failure : DataLayerError) :
      OutcomeRun entry error eventName (.error failure) [] (.error failure)
  | transferred (destinationId : String) (acked : Nat) :
      OutcomeRun entry error eventName (.ok (.transferred destinationId acked))
        ((if acked > 0 then [sawReport (.acked acked)] else []) ++
          [sawReport (.deadLettered 1), sawWarn eventName entry.id error.text]) (.ok .complete)
  | appended (destinationId : String) :
      OutcomeRun entry error eventName (.ok (.appended destinationId))
        [sawReport (.deadLettered 1), sawWarn eventName entry.id error.text] (.ok .needsAck)
  | notPending :
      OutcomeRun entry error eventName (.ok .notPending)
        [sawWarn "usage_worker_dead_letter_source_not_pending" entry.id error.text] (.ok .complete)
  | deferred (deferral : DataLayerError) :
      OutcomeRun entry error eventName (.ok (.encodingDeferred deferral))
        [sawWarn "usage_worker_dead_letter_encoding_deferred" entry.id deferral.text]
        (.ok (.deferred deferral))

inductive EntryRun (queue : UsageQueue) (entry : RuntimeQueueEntry) :
    List (Seen Event) → Except DataLayerError EntryDisposition → Prop
  | recorded (event : Event) :
      EntryRun queue entry [⟨.decode entry, .ok event⟩, ⟨.record event, .ok ()⟩] (.ok .needsAck)
  | retryable (event : Event) (error : DataLayerError)
      (retry : ¬ usageEventRecordErrorIsPermanent error) :
      EntryRun queue entry [⟨.decode entry, .ok event⟩, ⟨.record event, .error error⟩,
        sawWarn "usage_worker_entry_record_retryable_failed" entry.id error.text] (.error error)
  | deadLetter {start middle last error eventName outcome disposition}
      (failed : FailedRun entry start error eventName)
      (encoding : EncodingRun queue entry error.text middle outcome)
      (ends : OutcomeRun entry error eventName outcome last disposition) :
      EntryRun queue entry (start ++ (middle ++ last)) disposition

section

variable {queue : UsageQueue} {entry : RuntimeQueueEntry}

theorem deadLetterEntry_runs {error eventName} {trace : List (Seen Event)} {disposition}
    (run : Runs (deadLetterEntry queue entry error eventName) trace disposition) :
    ∃ middle last outcome, trace = middle ++ last ∧
      EncodingRun queue entry error.text middle outcome ∧
      OutcomeRun entry error eventName outcome last disposition := by
  obtain ⟨middle, outcome, last, rfl, transfer, rest⟩ := runs_bind.mp run
  refine ⟨middle, last, outcome, rfl, transferDeadLetterOwned_runs transfer, ?_⟩
  cases outcome with
  | error failure =>
    obtain ⟨rfl, rfl⟩ := runs_pure.mp rest
    exact .failed failure
  | ok outcome =>
    cases outcome with
    | transferred destinationId acked =>
      obtain ⟨first, _, second, rfl, reported, next⟩ := runs_bind.mp rest
      obtain ⟨third, _, fourth, rfl, warned, done⟩ := runs_bind.mp next
      obtain ⟨rfl, rfl⟩ := runs_pure.mp done
      rw [reportAcked_runs reported, reportDeadLettered_runs warned, append_nil]
      exact .transferred destinationId acked
    | appended destinationId =>
      obtain ⟨third, _, fourth, rfl, warned, done⟩ := runs_bind.mp rest
      obtain ⟨rfl, rfl⟩ := runs_pure.mp done
      rw [reportDeadLettered_runs warned, append_nil]
      exact .appended destinationId
    | notPending =>
      obtain ⟨_, later, rfl, done⟩ := runs_request_bind.mp rest
      obtain ⟨rfl, rfl⟩ := runs_pure.mp done
      exact .notPending
    | encodingDeferred deferral =>
      obtain ⟨_, later, rfl, done⟩ := runs_request_bind.mp rest
      obtain ⟨rfl, rfl⟩ := runs_pure.mp done
      exact .deferred deferral

theorem processEntry_runs {trace : List (Seen Event)} {disposition}
    (run : Runs (processEntry queue entry) trace disposition) :
    EntryRun queue entry trace disposition := by
  obtain ⟨decoded, later, rfl, rest⟩ := runs_request_bind.mp run
  cases decoded with
  | error error =>
    obtain ⟨middle, last, outcome, rfl, encoding, ends⟩ := deadLetterEntry_runs rest
    exact .deadLetter (.undecodable error) encoding ends
  | ok event =>
    obtain ⟨recorded, after, rfl, next⟩ := runs_request_bind.mp rest
    cases recorded with
    | ok done =>
      obtain ⟨rfl, rfl⟩ := runs_pure.mp next
      exact .recorded event
    | error error =>
      dsimp only at next
      split at next
      · rename_i permanent
        obtain ⟨_, tail, rfl, letter⟩ := runs_request_bind.mp next
        obtain ⟨middle, last, outcome, rfl, encoding, ends⟩ := deadLetterEntry_runs letter
        exact .deadLetter (.unrecordable event error permanent) encoding ends
      · rename_i retry
        obtain ⟨_, tail, rfl, done⟩ := runs_request_bind.mp next
        obtain ⟨rfl, rfl⟩ := runs_pure.mp done
        exact .retryable event error retry

end

/-! ## The batch -/

abbrev sawAck (queue : UsageQueue) (ids : List String) (answer : Except DataLayerError Nat) :
    Seen Event := ⟨.ack queue.stream queue.group ids, answer⟩

abbrev sawDelete (queue : UsageQueue) (ids : List String) (answer : Except DataLayerError Nat) :
    Seen Event := ⟨.delete queue.stream ids, answer⟩

inductive FlushRun (queue : UsageQueue) (ids : List String) :
    List (Seen Event) → Except DataLayerError Unit → Prop
  | ackFailed (failure : DataLayerError) :
      FlushRun queue ids [sawAck queue ids (.error failure)] (.error failure)
  | deleteFailed (acked : Nat) (failure : DataLayerError) :
      FlushRun queue ids [sawAck queue ids (.ok acked), sawDelete queue ids (.error failure)]
        (.error failure)
  | acked (acked deleted : Nat) :
      FlushRun queue ids ([sawAck queue ids (.ok acked), sawDelete queue ids (.ok deleted)] ++
        if acked > 0 then [sawReport (.acked acked)] else []) (.ok ())

variable {queue : UsageQueue}

theorem acknowledgeEntries_runs {ids} {trace : List (Seen Event)} {result}
    (run : Runs (acknowledgeEntries queue ids) trace result) : FlushRun queue ids trace result := by
  obtain ⟨first, counted, second, rfl, acking, rest⟩ := runs_bind.mp run
  obtain ⟨acked, later, rfl, deleting⟩ := runs_request_bind.mp acking
  cases acked with
  | error failure =>
    obtain ⟨rfl, rfl⟩ := runs_pure.mp deleting
    obtain ⟨rfl, rfl⟩ := runs_pure.mp rest
    exact .ackFailed failure
  | ok acked =>
    obtain ⟨deleted, tail, rfl, counting⟩ := runs_request_bind.mp deleting
    cases deleted with
    | error failure =>
      obtain ⟨rfl, rfl⟩ := runs_pure.mp counting
      obtain ⟨rfl, rfl⟩ := runs_pure.mp rest
      exact .deleteFailed acked failure
    | ok deleted =>
      obtain ⟨rfl, rfl⟩ := runs_pure.mp counting
      obtain ⟨reports, _, empty, rfl, reporting, done⟩ := runs_bind.mp rest
      obtain ⟨rfl, rfl⟩ := runs_pure.mp done
      rw [reportAcked_runs reporting, append_nil]
      exact .acked acked deleted

/-- The flush at the end of a batch, or of the part before a failure. -/
inductive LastFlush (queue : UsageQueue) : List String → List (Seen Event) → Prop
  | nothing : LastFlush queue [] []
  | flush {ids trace result}
      (run : FlushRun queue ids trace result) : LastFlush queue ids trace

/-- A run of the loop from the entries that remain and the ids that wait for their ack. -/
inductive BatchRun (queue : UsageQueue) :
    List RuntimeQueueEntry → List String → List (Seen Event) → Prop
  | finish {ids trace} (flush : LastFlush queue ids trace) :
      BatchRun queue [] ids trace
  | stop {entry rest ids trace flushed error}
      (run : EntryRun queue entry trace (.error error)) (flush : LastFlush queue ids flushed) :
      BatchRun queue (entry :: rest) ids (trace ++ flushed)
  | pass {entry rest ids trace later disposition}
      (run : EntryRun queue entry trace (.ok disposition)) (noAck : disposition ≠ .needsAck)
      (further : BatchRun queue rest ids later) :
      BatchRun queue (entry :: rest) ids (trace ++ later)
  | collect {entry rest ids trace later} (run : EntryRun queue entry trace (.ok .needsAck))
      (further : BatchRun queue rest (ids ++ [entry.id]) later) :
      BatchRun queue (entry :: rest) ids (trace ++ later)
  | chunk {entry rest ids trace flushed later}
      (run : EntryRun queue entry trace (.ok .needsAck))
      (flush : FlushRun queue (ids ++ [entry.id]) flushed (.ok ()))
      (further : BatchRun queue rest [] later) :
      BatchRun queue (entry :: rest) ids (trace ++ (flushed ++ later))
  | chunkFailed {entry rest ids trace flushed error}
      (run : EntryRun queue entry trace (.ok .needsAck))
      (flush : FlushRun queue (ids ++ [entry.id]) flushed (.error error)) :
      BatchRun queue (entry :: rest) ids (trace ++ flushed)

theorem lastFlush_runs {ids} {trace : List (Seen Event)} {result}
    (run : Runs (flushRemaining queue ids) trace result) : LastFlush queue ids trace := by
  cases ids with
  | nil =>
    obtain ⟨rfl, -⟩ := runs_pure.mp run
    exact .nothing
  | cons id ids => exact .flush (acknowledgeEntries_runs run)

theorem processFrom_runs (entries : List RuntimeQueueEntry) :
    ∀ (ids : List String) (deferred : Option DataLayerError) (trace : List (Seen Event))
      (result : Except DataLayerError Unit),
      Runs (processFrom queue entries ids deferred) trace result →
        BatchRun queue entries ids trace := by
  induction entries with
  | nil =>
    intro ids deferred trace result run
    obtain ⟨first, flushed, second, rfl, flushing, rest⟩ := runs_bind.mp run
    have empty : second = [] := by
      cases flushed with
      | error failure => exact (runs_pure.mp rest).1
      | ok done => cases deferred <;> exact (runs_pure.mp rest).1
    rw [empty, append_nil]
    exact .finish (lastFlush_runs flushing)
  | cons entry entries ih =>
    intro ids deferred trace result run
    obtain ⟨first, disposition, second, rfl, processed, rest⟩ := runs_bind.mp run
    have here := processEntry_runs processed
    cases disposition with
    | error error =>
      obtain ⟨third, flushed, fourth, rfl, flushing, done⟩ := runs_bind.mp rest
      obtain ⟨rfl, -⟩ := runs_pure.mp done
      rw [append_nil]
      exact .stop here (lastFlush_runs flushing)
    | ok disposition =>
      cases disposition with
      | needsAck =>
        dsimp only at rest
        split at rest
        · obtain ⟨third, flushed, fourth, rfl, flushing, further⟩ := runs_bind.mp rest
          cases flushed with
          | error failure =>
            obtain ⟨rfl, -⟩ := runs_pure.mp further
            rw [append_nil]
            exact .chunkFailed here (acknowledgeEntries_runs flushing)
          | ok done => exact .chunk here (acknowledgeEntries_runs flushing) (ih _ _ _ _ further)
        · exact .collect here (ih _ _ _ _ rest)
      | complete | deferred error => exact .pass here (by simp) (ih _ _ _ _ rest)

end Aeris.Usage
