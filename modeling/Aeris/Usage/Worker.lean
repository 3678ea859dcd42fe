import Aeris.Base.Interaction
import Aeris.Usage.DeadLetter

/-! The usage worker: a batch of queue entries is decoded, recorded and
acknowledged in chunks; what cannot be decoded or recorded goes to the dead-letter
stream. The recorder, the store, the encoding budget and the telemetry answer from
outside, each call as it likes. Of a log line its name, entry id and error are kept. -/
namespace Aeris.Usage

open RustStd Aeris.Runtime Interaction

structure UsageQueue where
  stream : String
  group : String
  dlqStream : String
  dlqStreamMaxlen : Nat
  /-- The limit of the dead-letter encoding budget. -/
  limitBytes : Nat

def usageWorkerAckChunkSize : Nat := 100

inductive UsageWorkerObservation where
  | acked (ackedEntries : Nat)
  | deadLettered (deadLetteredEntries : Nat)
  deriving DecidableEq, Repr

/-- Why an encoding that has its reservation still fails. -/
inductive EncodingFault where
  | task (message : String)
  | allocation (message : String)
  deriving DecidableEq, Repr

inductive WorkerRequest (Event : Type) where
  | decode (entry : RuntimeQueueEntry)
  | record (event : Event)
  /-- One job and that many bytes of the encoding budget. -/
  | reserve (bytes : Nat)
  | encode
  | transfer (source group entryId destination : String)
      (fields : OrderedTable String String) (maxlen : Option Nat)
  | append (stream : String) (fields : OrderedTable String String) (maxlen : Option Nat)
  | ack (stream group : String) (ids : List String)
  | delete (stream : String) (ids : List String)
  | report (observation : UsageWorkerObservation)
  | warn (eventName entryId error : String)

abbrev WorkerResponse {Event : Type} : WorkerRequest Event → Type
  | .decode _ => Except DataLayerError Event
  | .record _ => Except DataLayerError Unit
  | .reserve _ => Bool
  | .encode => Option EncodingFault
  | .transfer .. => Except DataLayerError (Option RuntimeQueueTransferOutcome)
  | .append .. => Except DataLayerError String
  | .ack .. => Except DataLayerError Nat
  | .delete .. => Except DataLayerError Nat
  | .report _ => Unit
  | .warn .. => Unit

variable {Event : Type}

abbrev WorkerProgram (Event A : Type) := Program (@WorkerResponse Event) A

abbrev Seen (Event : Type) := Observation (@WorkerResponse Event)

/-! ## The calls -/

abbrev fromStreamFields (entry : RuntimeQueueEntry) :
    WorkerProgram Event (Except DataLayerError Event) :=
  request (WorkerRequest.decode entry)

abbrev recordUsageEvent (event : Event) : WorkerProgram Event (Except DataLayerError Unit) :=
  request (WorkerRequest.record event)

abbrev tryAcquire (bytes : Nat) : WorkerProgram Event Bool :=
  request (WorkerRequest.reserve bytes)

abbrev spawnEncoding : WorkerProgram Event (Option EncodingFault) := request WorkerRequest.encode

abbrev tryTransferPendingToStream (source group entryId destination : String)
    (fields : OrderedTable String String) (maxlen : Option Nat) :
    WorkerProgram Event (Except DataLayerError (Option RuntimeQueueTransferOutcome)) :=
  request (WorkerRequest.transfer source group entryId destination fields maxlen)

abbrev appendFieldsWithMaxlen (stream : String) (fields : OrderedTable String String)
    (maxlen : Option Nat) : WorkerProgram Event (Except DataLayerError String) :=
  request (WorkerRequest.append stream fields maxlen)

abbrev runnerAck (stream group : String) (ids : List String) :
    WorkerProgram Event (Except DataLayerError Nat) :=
  request (WorkerRequest.ack stream group ids)

abbrev runnerDelete (stream : String) (ids : List String) :
    WorkerProgram Event (Except DataLayerError Nat) :=
  request (WorkerRequest.delete stream ids)

abbrev report (observation : UsageWorkerObservation) : WorkerProgram Event Unit :=
  request (WorkerRequest.report observation)

abbrev warn (eventName entryId error : String) : WorkerProgram Event Unit :=
  request (WorkerRequest.warn eventName entryId error)

/-! ## Dead letters -/

def tryReserve (queue : UsageQueue) (entry : RuntimeQueueEntry) (error : String) :
    WorkerProgram Event (Except DataLayerError EncodingSize) :=
  match (encodingSize entry error).filter (fun size => size.total ≤ queue.limitBytes) with
  | none =>
    pure (.error (.invalidInput ("dead-letter raw fields and worst-case JSON exceed the " ++
      toString queue.limitBytes ++ "-byte encoding budget")))
  | some size => do
      let granted ← tryAcquire size.total
      if granted then pure (.ok size)
      else pure (.error (.timedOut "dead-letter encoding capacity is exhausted"))

def encodeOwned (size : EncodingSize) (entry : RuntimeQueueEntry) (error : String) :
    WorkerProgram Event (Except DataLayerError (OrderedTable String String)) := do
  let fault ← spawnEncoding
  match fault with
  | some (.task message) =>
    pure (.error (.unexpectedValue ("dead-letter encoding task failed: " ++ message)))
  | some (.allocation message) =>
    pure (.error (.unexpectedValue ("failed to encode complete dead-letter fields: " ++
      "dead-letter JSON allocation failed: " ++ message)))
  | none =>
    if byteLen (deadLetterText entry error) > size.json then
      pure (.error (.unexpectedValue ("failed to encode complete dead-letter fields: " ++
        "dead-letter JSON encoding bound exceeded")))
    else pure (.ok (deadLetterFields entry error))

inductive UsageDeadLetterOutcome where
  | transferred (destinationId : String) (acked : Nat)
  | appended (destinationId : String)
  | notPending
  | encodingDeferred (error : DataLayerError)

def transferEncoded (queue : UsageQueue) (entryId : String) (fields : OrderedTable String String) :
    WorkerProgram Event (Except DataLayerError UsageDeadLetterOutcome) := do
  let answer ← tryTransferPendingToStream queue.stream queue.group entryId queue.dlqStream
    fields (some queue.dlqStreamMaxlen)
  match answer with
  | .error error => pure (.error error)
  | .ok (some (.transferred destinationId acked _)) => pure (.ok (.transferred destinationId acked))
  | .ok (some .notPending) => pure (.ok .notPending)
  | .ok none => do
      let appended ← appendFieldsWithMaxlen queue.dlqStream fields (some queue.dlqStreamMaxlen)
      match appended with
      | .error error => pure (.error error)
      | .ok destinationId => pure (.ok (.appended destinationId))

def transferDeadLetterOwned (queue : UsageQueue) (entry : RuntimeQueueEntry) (error : String) :
    WorkerProgram Event (Except DataLayerError UsageDeadLetterOutcome) := do
  let reservation ← tryReserve queue entry error
  match reservation with
  | .error error => pure (.ok (.encodingDeferred error))
  | .ok size => do
      let encoded ← encodeOwned size entry error
      match encoded with
      | .error error => pure (.ok (.encodingDeferred error))
      | .ok fields => transferEncoded queue entry.id fields

inductive EntryDisposition where
  | needsAck
  | complete
  | deferred (error : DataLayerError)

def reportAcked (acked : Nat) : WorkerProgram Event Unit :=
  if acked > 0 then report (.acked acked) else pure ()

def reportDeadLettered (eventName entryId : String) (error : DataLayerError) :
    WorkerProgram Event Unit := do
  report (.deadLettered 1)
  warn eventName entryId error.text

def deadLetterEntry (queue : UsageQueue) (entry : RuntimeQueueEntry) (error : DataLayerError)
    (eventName : String) : WorkerProgram Event (Except DataLayerError EntryDisposition) := do
  let outcome ← transferDeadLetterOwned queue entry error.text
  match outcome with
  | .error failure => pure (.error failure)
  | .ok (.transferred _ acked) => do
      reportAcked acked
      reportDeadLettered eventName entry.id error
      pure (.ok .complete)
  | .ok (.appended _) => do
      reportDeadLettered eventName entry.id error
      pure (.ok .needsAck)
  | .ok .notPending => do
      warn "usage_worker_dead_letter_source_not_pending" entry.id error.text
      pure (.ok .complete)
  | .ok (.encodingDeferred deferral) => do
      warn "usage_worker_dead_letter_encoding_deferred" entry.id deferral.text
      pure (.ok (.deferred deferral))

/-! ## The batch -/

def processEntry (queue : UsageQueue) (entry : RuntimeQueueEntry) :
    WorkerProgram Event (Except DataLayerError EntryDisposition) := do
  let decoded ← fromStreamFields entry
  match decoded with
  | .error error => deadLetterEntry queue entry error "usage_worker_entry_decode_dead_lettered"
  | .ok event => do
      let recorded ← recordUsageEvent event
      match recorded with
      | .ok () => pure (.ok .needsAck)
      | .error error =>
        if usageEventRecordErrorIsPermanent error then do
          warn "usage_worker_entry_record_permanent_failed" entry.id error.text
          deadLetterEntry queue entry error "usage_worker_entry_record_dead_lettered"
        else do
          warn "usage_worker_entry_record_retryable_failed" entry.id error.text
          pure (.error error)

def ackAndDeleteCounted (queue : UsageQueue) (ids : List String) :
    WorkerProgram Event (Except DataLayerError Nat) := do
  let acked ← runnerAck queue.stream queue.group ids
  match acked with
  | .error error => pure (.error error)
  | .ok acked => do
      let deleted ← runnerDelete queue.stream ids
      match deleted with
      | .error error => pure (.error error)
      | .ok _ => pure (.ok acked)

def acknowledgeEntries (queue : UsageQueue) (ids : List String) :
    WorkerProgram Event (Except DataLayerError Unit) := do
  let acked ← ackAndDeleteCounted queue ids
  match acked with
  | .error error => pure (.error error)
  | .ok acked => do
      reportAcked acked
      pure (.ok ())

def flushRemaining (queue : UsageQueue) (ackIds : List String) :
    WorkerProgram Event (Except DataLayerError Unit) :=
  if ackIds.isEmpty then pure (.ok ()) else acknowledgeEntries queue ackIds

/-- The loop of `process_entries`, with the ids it has collected and the first deferral. -/
def processFrom (queue : UsageQueue) : List RuntimeQueueEntry → List String →
    Option DataLayerError → WorkerProgram Event (Except DataLayerError Unit)
  | [], ackIds, deferredError => do
      let flushed ← flushRemaining queue ackIds
      match flushed with
      | .error error => pure (.error error)
      | .ok () =>
        match deferredError with
        | some error => pure (.error error)
        | none => pure (.ok ())
  | entry :: rest, ackIds, deferredError => do
      let result ← processEntry queue entry
      match result with
      | .ok .needsAck =>
        if (ackIds ++ [entry.id]).length ≥ usageWorkerAckChunkSize then do
          let flushed ← acknowledgeEntries queue (ackIds ++ [entry.id])
          match flushed with
          | .error error => pure (.error error)
          | .ok () => processFrom queue rest [] deferredError
        else processFrom queue rest (ackIds ++ [entry.id]) deferredError
      | .ok .complete => processFrom queue rest ackIds deferredError
      | .ok (.deferred error) => processFrom queue rest ackIds (some (deferredError.getD error))
      | .error error => do
          let _ ← flushRemaining queue ackIds
          pure (.error error)

def processEntries (queue : UsageQueue) (entries : List RuntimeQueueEntry) :
    WorkerProgram Event (Except DataLayerError Unit) := processFrom queue entries [] none

end Aeris.Usage
