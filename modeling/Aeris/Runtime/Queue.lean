import Aeris.Base.OrderedTable
import Aeris.Settlement.Units

/-! Queues of the in-memory runtime: streams of entries that consumer groups read. Each
call holds the lock of the streams, so it is one function of their state; instants
are nanoseconds and belong to the call. The expiry of a whole stream is left out. -/
namespace Aeris.Runtime

open RustStd Settlement

structure RuntimeQueueEntry where
  id : String
  fields : OrderedTable String String
  deriving DecidableEq

structure MemoryQueuedEntry where
  sequence : Nat
  entry : RuntimeQueueEntry
  deriving DecidableEq

structure MemoryPendingQueueEntry where
  sequence : Nat
  entry : RuntimeQueueEntry
  consumer : String
  deliveredAt : Nat
  deriving DecidableEq

structure MemoryConsumerGroup where
  lastDeliveredSequence : Nat
  pending : OrderedTable String MemoryPendingQueueEntry
  deriving DecidableEq

structure MemoryQueueStream where
  entries : List MemoryQueuedEntry
  groups : OrderedTable String MemoryConsumerGroup
  deriving DecidableEq

structure MemoryRedriveMarker where
  destinationId : String
  expiresAt : Nat
  deriving DecidableEq

structure MemoryQueueState where
  queues : OrderedTable String MemoryQueueStream
  queueRedriveMarkers : OrderedTable String MemoryRedriveMarker
  queueSeq : Nat
  deriving DecidableEq

structure RuntimeQueueReclaimConfig where
  minIdleMs : Nat
  count : Nat
  deriving DecidableEq, Repr

structure RuntimeQueueReclaimPage where
  nextStartId : String
  entries : List RuntimeQueueEntry
  deletedIds : List String
  deriving DecidableEq

inductive RuntimeQueueTransferOutcome where
  | transferred (destinationId : String) (acked deleted : Nat)
  | notPending
  deriving DecidableEq, Repr

inductive RuntimeQueueRedriveOutcome where
  | redriven (destinationId : String)
  | alreadyRedriven (destinationId : String)
  | notFound
  deriving DecidableEq, Repr

def runtimeQueueRedriveMarkerTtlSeconds : Nat := 7 * 24 * 60 * 60

def nanosOfMillis (millis : Nat) : Nat := millis * 1000000

def nanosOfSecs (secs : Nat) : Nat := secs * 1000000000

/-! ## Stream ids -/

def streamId (sequence : Nat) : String := toString sequence ++ "-0"

def parseMemoryStreamSequence (id : String) : Result Nat :=
  match splitOnce '-' id with
  | none => invalid ("runtime queue stream id " ++ id ++ " must use redis stream id format")
  | some (sequence, _) =>
    match parseU64 sequence with
    | .ok value => .ok value
    | .error failure =>
      invalid ("runtime queue stream id " ++ id ++ " is invalid: " ++ failure.message)

def validateRuntimeQueueName (value field : String) : Result Unit :=
  if isBlank value then invalid (field ++ " cannot be empty") else .ok ()

def canonicalU64 (value : String) : Bool :=
  value ≠ "" && value.toList.all Char.isDigit &&
    (value.length = 1 || value.toList.head? ≠ some '0') && (parseU64 value).isOk

/-- The checks of the names come first, then those of the entry that is moved. -/
def validateTransferEntry (source entryId destination : String)
    (destinationFields : OrderedTable String String) : Result Unit :=
  if source = destination then
    invalid "runtime queue transfer source and destination must differ"
  else if destinationFields.size = 0 then
    invalid "runtime queue transfer destination fields cannot be empty"
  else if !(splitOnce '-' entryId).any (fun parts => canonicalU64 parts.1 && canonicalU64 parts.2)
  then invalid "runtime queue transfer entry id must be a canonical u64-u64 stream id"
  else .ok ()

def validateRuntimeQueueTransfer (source group entryId destination : String)
    (destinationFields : OrderedTable String String) : Result Unit := do
  validateRuntimeQueueName source "runtime queue source stream"
  validateRuntimeQueueName group "runtime queue group"
  validateRuntimeQueueName destination "runtime queue destination stream"
  validateTransferEntry source entryId destination destinationFields

namespace MemoryQueueStream

def default : MemoryQueueStream := ⟨[], .empty⟩

/-- The entries that are dropped from the front so that at most `maxlen` remain. -/
def trimmedEntries {Entry : Type} (maxlen : Option Nat) (entries : List Entry) : List Entry :=
  match maxlen.filter (fun value => value > 0) with
  | none => []
  | some maxlen => entries.take (entries.length - maxlen)

def trimEntries {Entry : Type} (maxlen : Option Nat) (entries : List Entry) : List Entry :=
  entries.drop (trimmedEntries maxlen entries).length

def removePendingFromAllGroups (id : String) (stream : MemoryQueueStream) : MemoryQueueStream :=
  { stream with groups := stream.groups.filterMap (fun _ group =>
      some { group with pending := group.pending.erase id }) }

/-- An entry is taken out of the stream and of every group. -/
def removeEntry (id : String) (stream : MemoryQueueStream) : MemoryQueueStream :=
  removePendingFromAllGroups id
    { stream with entries := stream.entries.filter (fun queued => queued.entry.id ≠ id) }

end MemoryQueueStream

namespace MemoryConsumerGroup

/-- The loop of a read: each entry moves the cursor and becomes pending. -/
def deliver (consumer : String) (now : Nat) (group : MemoryConsumerGroup)
    (queued : MemoryQueuedEntry) : MemoryConsumerGroup where
  lastDeliveredSequence := queued.sequence
  pending := group.pending.insert queued.entry.id
    ⟨queued.sequence, queued.entry, consumer, now⟩

/-- The pending entries from a sequence on that were idle for long enough, by sequence. -/
def staleIds (startSequence minIdle now : Nat) (group : MemoryConsumerGroup) :
    List (Nat × String) :=
  ((group.pending.values.filter (fun pending => pending.sequence ≥ startSequence)).filter
    (fun pending => now - pending.deliveredAt ≥ minIdle)).map
      (fun pending => (pending.sequence, pending.entry.id))
    |>.insertionSort (fun first second => first.1 ≤ second.1)

def claim (consumer : String) (now : Nat) :
    MemoryConsumerGroup × List RuntimeQueueEntry → Nat × String →
      MemoryConsumerGroup × List RuntimeQueueEntry
  | (group, claimed), (_, id) =>
    match group.pending.get? id with
    | none => (group, claimed)
    | some pending =>
      ({ group with
          pending := group.pending.insert id { pending with consumer, deliveredAt := now } },
        claimed ++ [pending.entry])

/-- The loop of an acknowledgement, with the number of entries that were pending. -/
def ack : MemoryConsumerGroup × Nat → String → MemoryConsumerGroup × Nat
  | (group, count), id =>
    ({ group with pending := group.pending.erase id },
      if group.pending.contains id then count + 1 else count)

end MemoryConsumerGroup

namespace MemoryQueueState

open MemoryQueueStream

def default : MemoryQueueState := ⟨.empty, .empty, 0⟩

/-- A stream is created when it is first written to. -/
def streamOf (state : MemoryQueueState) (stream : String) : MemoryQueueStream :=
  (state.queues.get? stream).getD .default

def writeStream (state : MemoryQueueState) (stream : String) (value : MemoryQueueStream) :
    MemoryQueueState :=
  { state with queues := state.queues.insert stream value }

/-- An entry is put at the end of its stream, whose length is then cut. -/
def push (state : MemoryQueueState) (stream : String) (queued : MemoryQueuedEntry)
    (maxlen : Option Nat) : MemoryQueueState :=
  state.writeStream stream { state.streamOf stream with
    entries := trimEntries maxlen ((state.streamOf stream).entries ++ [queued]) }

/-- `fetch_add`, which wraps around. -/
def advance (state : MemoryQueueState) : MemoryQueueState :=
  { state with queueSeq := (state.queueSeq + 1) % 2 ^ 64 }

def queueAppend (stream : String) (fields : OrderedTable String String) (maxlen : Option Nat)
    (state : MemoryQueueState) : String × MemoryQueueState :=
  let sequence := saturatingAdd state.queueSeq 1
  let id := streamId sequence
  (id, state.advance.push stream ⟨sequence, ⟨id, fields⟩⟩ maxlen)

def queueRedriveStreamEntry (source entryId destination : String)
    (destinationFields : OrderedTable String String) (destinationMaxlen : Option Nat) (now : Nat)
    (state : MemoryQueueState) : RuntimeQueueRedriveOutcome × MemoryQueueState :=
  let marker := source ++ "\n" ++ entryId
  let markers := state.queueRedriveMarkers.retain (fun _ value => value.expiresAt > now)
  let state := { state with queueRedriveMarkers := markers }
  match markers.get? marker with
  | some existing => (.alreadyRedriven existing.destinationId, state)
  | none =>
    if !(state.streamOf source).entries.any (fun queued => queued.entry.id = entryId) then
      (.notFound, state)
    else
      let sequence := saturatingAdd state.queueSeq 1
      let destinationId := streamId sequence
      let pushed := state.advance.push destination
        ⟨sequence, ⟨destinationId, destinationFields⟩⟩ destinationMaxlen
      let removed := pushed.writeStream source (removeEntry entryId (pushed.streamOf source))
      (.redriven destinationId,
        { removed with
          queueRedriveMarkers := markers.insert marker
            ⟨destinationId, now + nanosOfSecs runtimeQueueRedriveMarkerTtlSeconds⟩ })

def startSequence (startId : String) (stream : MemoryQueueStream) : Result Nat :=
  if startId = "$" then .ok ((stream.entries.getLast?.map MemoryQueuedEntry.sequence).getD 0)
  else parseMemoryStreamSequence startId

def queueEnsureConsumerGroup (stream group startId : String) (state : MemoryQueueState) :
    Result Unit × MemoryQueueState :=
  let streamState := state.streamOf stream
  if streamState.groups.contains group then (.ok (), state.writeStream stream streamState)
  else
    match startSequence startId streamState with
    | .error failure => (.error failure, state.writeStream stream streamState)
    | .ok lastDeliveredSequence =>
      (.ok (), state.writeStream stream { streamState with
        groups := streamState.groups.insert group ⟨lastDeliveredSequence, .empty⟩ })

def missingStream {α : Type} (stream : String) : Result α :=
  invalid ("runtime queue stream " ++ stream ++ " does not exist")

def missingGroup {α : Type} (stream group : String) : Result α :=
  invalid ("runtime queue group " ++ group ++ " does not exist for stream " ++ stream)

/-- A call on a group that has to be there. -/
def onGroup {α : Type} (stream group : String)
    (run : MemoryQueueStream → MemoryConsumerGroup → α × MemoryConsumerGroup)
    (state : MemoryQueueState) : Result α × MemoryQueueState :=
  match state.queues.get? stream with
  | none => (missingStream stream, state)
  | some streamState =>
    match streamState.groups.get? group with
    | none => (missingGroup stream group, state)
    | some groupState =>
      (.ok (run streamState groupState).1, state.writeStream stream { streamState with
        groups := streamState.groups.insert group (run streamState groupState).2 })

/-- What a group has not been given yet, as far as one read goes. -/
def waitingEntries (count : Nat) (stream : MemoryQueueStream) (group : MemoryConsumerGroup) :
    List MemoryQueuedEntry :=
  (stream.entries.filter (fun queued => queued.sequence > group.lastDeliveredSequence)).take
    (max count 1)

/-- One look at the stream. A blocking read looks again until there are entries or its
deadline has passed; a look that finds nothing changes nothing. -/
def queueRead (stream group consumer : String) (count now : Nat) (state : MemoryQueueState) :
    Result (List RuntimeQueueEntry) × MemoryQueueState :=
  onGroup stream group (fun streamState groupState =>
    ((waitingEntries count streamState groupState).map MemoryQueuedEntry.entry,
      (waitingEntries count streamState groupState).foldl
        (MemoryConsumerGroup.deliver consumer now) groupState)) state

def claimPage (consumer : String) (startSequence now : Nat) (config : RuntimeQueueReclaimConfig)
    (group : MemoryConsumerGroup) : RuntimeQueueReclaimPage × MemoryConsumerGroup :=
  let minIdle := nanosOfMillis (max config.minIdleMs 1)
  let ids := group.staleIds startSequence minIdle now
  let count := max config.count 1
  let claimed := (ids.take count).foldl (MemoryConsumerGroup.claim consumer now) (group, [])
  (⟨(ids[count]?.map Prod.snd).getD "0-0", claimed.2, []⟩, claimed.1)

def queueClaimStalePage (stream group consumer startId : String)
    (config : RuntimeQueueReclaimConfig) (now : Nat) (state : MemoryQueueState) :
    Result RuntimeQueueReclaimPage × MemoryQueueState :=
  match parseMemoryStreamSequence startId with
  | .error failure => (.error failure, state)
  | .ok startSequence =>
    onGroup stream group (fun _ groupState =>
      claimPage consumer startSequence now config groupState) state

def queueTransferPendingToStreamWithMaxlen (source group entryId destination : String)
    (destinationFields : OrderedTable String String) (destinationMaxlen : Option Nat)
    (state : MemoryQueueState) : Result RuntimeQueueTransferOutcome × MemoryQueueState :=
  match validateRuntimeQueueTransfer source group entryId destination destinationFields with
  | .error failure => (.error failure, state)
  | .ok _ =>
    match state.queues.get? source with
    | none => (missingStream source, state)
    | some sourceState =>
      match sourceState.groups.get? group with
      | none => (missingGroup source group, state)
      | some groupState =>
        if !groupState.pending.contains entryId then (.ok .notPending, state)
        else
          match checkedAdd state.queueSeq 1 with
          | none => (.error (.unexpectedValue "runtime queue sequence exhausted"), state)
          | some sequence =>
            let destinationId := streamId sequence
            let pushed := { state with queueSeq := sequence }.push destination
              ⟨sequence, ⟨destinationId, destinationFields⟩⟩ destinationMaxlen
            let before := pushed.streamOf source
            let after := removeEntry entryId before
            (.ok (.transferred destinationId (if groupState.pending.contains entryId then 1 else 0)
              (before.entries.length - after.entries.length)), pushed.writeStream source after)

def queueTransferPendingToStream (source group entryId destination : String)
    (destinationFields : OrderedTable String String) (state : MemoryQueueState) :
    Result RuntimeQueueTransferOutcome × MemoryQueueState :=
  queueTransferPendingToStreamWithMaxlen source group entryId destination destinationFields none
    state

def queueAck (stream group : String) (ids : List String) (state : MemoryQueueState) :
    Result Nat × MemoryQueueState :=
  onGroup stream group (fun _ groupState =>
    ((ids.foldl MemoryConsumerGroup.ack (groupState, 0)).2,
      (ids.foldl MemoryConsumerGroup.ack (groupState, 0)).1)) state

def queueDelete (stream : String) (ids : List String) (state : MemoryQueueState) :
    Nat × MemoryQueueState :=
  match state.queues.get? stream with
  | none => (0, state)
  | some streamState =>
    let kept := streamState.entries.filter (fun queued => queued.entry.id ∉ ids)
    (streamState.entries.length - kept.length,
      state.writeStream stream (ids.foldl (fun stream id => removePendingFromAllGroups id stream)
        { streamState with entries := kept }))

end MemoryQueueState

end Aeris.Runtime
