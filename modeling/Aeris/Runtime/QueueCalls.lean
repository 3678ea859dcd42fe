import Aeris.Runtime.QueueSteps

/-! The calls of the queues. What happened is kept in a history beside the state: what
was appended and trimmed, what each group was given and acknowledged, and what was
taken out. Each call is a number of steps of a log that is read by groups. -/
namespace Aeris.Runtime

open RustStd Settlement GroupLog History MemoryQueueStream MemoryQueueState List

inductive QueueCall where
  | append (stream : String) (fields : Fields) (maxlen : Option Nat)
  | ensureConsumerGroup (stream group : String)
  | read (stream group consumer : String) (count now : Nat)
  | claimStalePage (stream group consumer startId : String) (config : RuntimeQueueReclaimConfig)
      (now : Nat)
  | ack (stream group : String) (ids : List String)
  | delete (stream : String) (ids : List String)
  | transferPendingToStream (source group entryId destination : String) (fields : Fields)
      (maxlen : Option Nat)
  | redriveStreamEntry (source entryId destination : String) (fields : Fields)
      (maxlen : Option Nat) (now : Nat)

structure QueueLog where
  state : MemoryQueueState
  history : List QueueEvent

namespace QueueLog

def start : QueueLog := ⟨.default, []⟩

def observe (seen : QueueLog) : QueueCall → QueueLog
  | .append stream fields maxlen =>
    let (id, next) := queueAppend stream fields maxlen seen.state
    ⟨next, seen.history ++ pushEvents seen.state stream id fields maxlen⟩
  | .ensureConsumerGroup stream group =>
    ⟨(queueEnsureConsumerGroup stream group "0-0" seen.state).2, seen.history⟩
  | .read stream group consumer count now =>
    match queueRead stream group consumer count now seen.state with
    | (.ok entries, next) => ⟨next, seen.history ++
        entries.map (fun entry => .delivered stream group entry.id entry.fields)⟩
    | (.error _, next) => ⟨next, seen.history⟩
  | .claimStalePage stream group consumer startId config now =>
    match queueClaimStalePage stream group consumer startId config now seen.state with
    | (.ok page, next) => ⟨next, seen.history ++
        page.entries.map (fun entry => .claimed stream group entry.id entry.fields)⟩
    | (.error _, next) => ⟨next, seen.history⟩
  | .ack stream group ids =>
    let pending := ((seen.state.groupOf stream group).map MemoryConsumerGroup.pending).getD .empty
    ⟨(queueAck stream group ids seen.state).2,
      seen.history ++ (ackedIds pending ids).map (fun id => .acked stream group id)⟩
  | .delete stream ids =>
    ⟨(queueDelete stream ids seen.state).2,
      seen.history ++ (deletedIds (seen.state.streamOf stream) ids).map
        (fun id => .removed stream id .deleted)⟩
  | .transferPendingToStream source group entryId destination fields maxlen =>
    match queueTransferPendingToStreamWithMaxlen source group entryId destination fields maxlen
        seen.state with
    | (.ok (.transferred destinationId _ _), next) => ⟨next, seen.history ++
        pushEvents seen.state destination destinationId fields maxlen ++
          [.removed source entryId (.transferred destination destinationId)]⟩
    | (_, next) => ⟨next, seen.history⟩
  | .redriveStreamEntry source entryId destination fields maxlen now =>
    match queueRedriveStreamEntry source entryId destination fields maxlen now seen.state with
    | (.redriven destinationId, next) => ⟨next, seen.history ++
        pushEvents seen.state destination destinationId fields maxlen ++
          [.removed source entryId (.redriven destination destinationId)]⟩
    | (_, next) => ⟨next, seen.history⟩

def run (seen : QueueLog) (calls : List QueueCall) : QueueLog := calls.foldl observe seen

def issued (seen : QueueLog) : Nat := (numbers idNumber seen.history).length

/-- A state and its history as a log that is read by groups. -/
def seen (log : QueueLog) : Seen String String String Fields QueueRemoval :=
  ⟨log.state.view, log.history⟩

/-! ## One call -/

variable {log : QueueLog}

theorem onGroup_cases {α} (stream group : String)
    (run : MemoryQueueStream → MemoryConsumerGroup → α × MemoryConsumerGroup)
    (state : MemoryQueueState) :
    (state.groupOf stream group = none ∧
      ∃ failure, onGroup stream group run state = (.error failure, state)) ∨
      ∃ value, state.groupOf stream group = some value ∧
        onGroup stream group run state = (.ok (run (state.streamOf stream) value).1,
          state.writeGroup stream group (run (state.streamOf stream) value).2) := by
  unfold onGroup
  cases found : state.queues.get? stream with
  | none =>
    have absent : state.groupOf stream group = none := by
      rw [groupOf, streamOf, found]
      rfl
    exact .inl ⟨absent, _, rfl⟩
  | some streamState =>
    have same := streamOf_eq found
    dsimp only
    cases grouped : streamState.groups.get? group with
    | none =>
      have absent : state.groupOf stream group = none := by rw [groupOf, same, grouped]
      exact .inl ⟨absent, _, rfl⟩
    | some value =>
      refine .inr ⟨value, ?_, ?_⟩
      · rw [groupOf, same, grouped]
      · rw [writeGroup, same]

theorem issued_eq (sound : Sound idNumber log.seen) : log.issued = log.state.queueSeq := by
  have numbered := congrArg List.length sound.numbered
  rwa [length_map, length_range] at numbered

variable {fields : Fields} {maxlen : Option Nat}

theorem room_of_few (sound : Sound idNumber log.seen) (more : List QueueEvent) {stream id}
    (few : (numbers idNumber (log.history ++
      (pushEvents log.state stream id fields maxlen ++ more))).length < 2 ^ 64) :
    log.state.queueSeq < u64Max := by
  have count := issued_eq sound
  have given : idNumber id ∈
      numbers idNumber (pushEvents log.state stream id fields maxlen ++ more) :=
    (mem_numbers _ _ _).mpr ⟨stream, id, fields, by simp [pushEvents], rfl⟩
  have positive := length_pos_of_mem given
  rw [numbers_append, length_append] at few
  unfold issued at count
  unfold u64Max
  omega

variable {state : MemoryQueueState}

theorem advance_eq (room : state.queueSeq < u64Max) : state.advance = state.counted := by
  have small : (state.queueSeq + 1) % 2 ^ 64 = state.queueSeq + 1 := by
    unfold u64Max at room
    omega
  rw [advance, small, counted]

theorem saturatingAdd_one {value} (room : value < u64Max) :
    saturatingAdd value 1 = value + 1 := min_eq_left room

def newEntry (state : MemoryQueueState) (fields : Fields) : MemoryQueuedEntry :=
  ⟨state.queueSeq + 1, ⟨streamId (state.queueSeq + 1), fields⟩⟩

theorem pushed_named (named : state.Named)
    (room : state.queueSeq < u64Max) (stream : String) (fields : Fields) (maxlen : Option Nat) :
    (state.counted.push stream (newEntry state fields) maxlen).Named := by
  have counted : state.counted.Named := ⟨room, named.streams⟩
  apply push_named counted
  exact ⟨rfl, room⟩

variable {source : String}

theorem move_steps {history} (sound : Sound idNumber ⟨state.view, history⟩)
    (room : state.queueSeq < u64Max) {id} (present : Present (state.streamOf source) id)
    (destination : String) (fields : Fields) (maxlen : Option Nat) (why : QueueRemoval) :
    Steps idNumber ⟨state.view, history⟩
      ⟨((state.counted.push destination (newEntry state fields) maxlen).writeStream source
          (removeEntry id ((state.counted.push destination (newEntry state fields)
            maxlen).streamOf source))).view,
        history ++ pushEvents state destination (streamId (state.queueSeq + 1)) fields maxlen ++
          [.removed source id why]⟩ := by
  obtain ⟨⟨body, known⟩, once⟩ := present_known sound present
  refine .tail (push_steps room destination fields maxlen history) (remove_step _ source why ?_ ?_)
  · exact ⟨body, mem_append_left _ known⟩
  · intro other removed
    rcases mem_append.mp removed with old | new
    · exact once other old
    · simp [pushEvents] at new

/-- What one call does: it keeps the ids in order, and it is a number of steps. -/
def Kept (log next : QueueLog) : Prop :=
  next.state.Named ∧ Steps idNumber log.seen next.seen

theorem append_kept (named : log.state.Named) (sound : Sound idNumber log.seen) {stream}
    (few : (log.observe (.append stream fields maxlen)).issued < 2 ^ 64) :
    Kept log (log.observe (.append stream fields maxlen)) := by
  have room : log.state.queueSeq < u64Max := by
    apply room_of_few sound []
    rw [append_nil]
    exact few
  dsimp only [observe, queueAppend]
  rw [advance_eq room, saturatingAdd_one room]
  exact ⟨pushed_named named room stream fields maxlen,
    push_steps room stream fields maxlen log.history⟩

theorem parse_start : parseMemoryStreamSequence "0-0" = .ok 0 := by decide +kernel

section

variable (named : log.state.Named)
include named

theorem ensureConsumerGroup_kept (stream group : String) :
    Kept log (log.observe (.ensureConsumerGroup stream group)) := by
  have same : Kept log ⟨log.state.writeStream stream (log.state.streamOf stream), log.history⟩ := by
    refine ⟨named_writeStream named (named.streams stream), ?_⟩
    dsimp only [seen]
    rw [view_writeStream_self]
  unfold observe queueEnsureConsumerGroup
  dsimp only
  cases present : (log.state.streamOf stream).groups.get? group with
  | some value =>
    have has : (log.state.streamOf stream).groups.contains group = true := by
      rw [OrderedTable.contains, present]
      rfl
    rw [if_pos has]
    exact same
  | none =>
    have missing : (log.state.streamOf stream).groups.contains group = false := by
      rw [OrderedTable.contains, present]
      rfl
    have start_ : startSequence "0-0" (log.state.streamOf stream) = .ok 0 := by
      rw [startSequence, if_neg (by decide), parse_start]
    rw [missing, if_neg Bool.false_ne_true, start_]
    have absent : log.state.groupOf stream group = none := present
    refine ⟨named_writeGroup named (fun id pending found => by cases found), .single ?_⟩
    have step : Step idNumber log.seen _ := .create stream group (by
      change (log.state.groupOf stream group).map _ = none
      rw [absent]
      rfl)
    have nothing : log.state.view.pending (stream, group) = heldFields ⟨0, .empty⟩ := by
      funext id
      change (log.state.groupOf stream group).bind _ = none
      rw [absent]
      rfl
    have view := view_writeGroup log.state stream group ⟨0, .empty⟩
    rw [← nothing, Function.update_eq_self] at view
    dsimp only [seen] at step ⊢
    rw [writeGroup] at view
    rw [view]
    exact step

theorem entries_sorted (sound : Sound idNumber log.seen) (stream : String) :
    (log.state.streamOf stream).entries.Pairwise
      (fun first second => first.sequence < second.sequence) := by
  have sorted := pairwise_map.mp (sound.sorted stream)
  apply sorted.imp_of_mem
  intro first second left right order
  rwa [((named.streams stream).entries first left).number,
    ((named.streams stream).entries second right).number] at order

theorem read_kept (sound : Sound idNumber log.seen) (stream group consumer : String)
    (count now : Nat) : Kept log (log.observe (.read stream group consumer count now)) := by
  unfold observe queueRead
  dsimp only
  rcases onGroup_cases stream group _ log.state with ⟨_, failure, failed⟩ | ⟨value, found, ran⟩
  · rw [failed]
    exact ⟨named, .refl⟩
  · rw [ran]
    dsimp only
    rw [map_map]
    constructor
    · apply named_writeGroup named
      apply foldl_deliver_named consumer now _ (named_groupOf named found)
      intro queued member
      exact (named.streams stream).entries queued
        (mem_of_mem_filter (mem_of_mem_take member))
    · exact deliver_steps consumer now _ log.state value log.history _ named found
        (entries_sorted named sound stream) (take_append_drop _ _).symm

theorem claimStalePage_kept (stream group consumer startId : String)
    (config : RuntimeQueueReclaimConfig) (now : Nat) :
    Kept log (log.observe (.claimStalePage stream group consumer startId config now)) := by
  unfold observe queueClaimStalePage
  dsimp only
  cases parseMemoryStreamSequence startId with
  | error failure => exact ⟨named, .refl⟩
  | ok start_ =>
    dsimp only
    rcases onGroup_cases stream group
      (fun _ groupState => claimPage consumer start_ now config groupState) log.state with
      ⟨_, failure, failed⟩ | ⟨value, found, ran⟩
    · rw [failed]
      exact ⟨named, .refl⟩
    · rw [ran]
      constructor
      · apply named_writeGroup named
        exact (foldl_claim consumer now _ value []).1.named (named_groupOf named found)
      · exact claim_steps consumer now _ log.history named found

theorem ack_kept (stream group : String) (ids : List String) :
    Kept log (log.observe (.ack stream group ids)) := by
  unfold observe queueAck
  dsimp only
  rcases onGroup_cases stream group (fun _ groupState =>
    ((ids.foldl MemoryConsumerGroup.ack (groupState, 0)).2,
      (ids.foldl MemoryConsumerGroup.ack (groupState, 0)).1)) log.state with
    ⟨absent, failure, failed⟩ | ⟨value, found, ran⟩
  · have none_ : ackedIds (.empty : OrderedTable String MemoryPendingQueueEntry) ids = [] := by
      clear failed
      induction ids with
      | nil => rfl
      | cons id rest ih => exact ih
    rw [failed, absent, Option.map_none, Option.getD_none, none_, map_nil, append_nil]
    exact ⟨named, .refl⟩
  · rw [ran, found]
    constructor
    · apply named_writeGroup named
      exact foldl_ack_named ids 0 (named_groupOf named found)
    · exact ack_steps ids log.state value 0 log.history found

end

theorem foldl_removeEntry (ids : List String) : ∀ value : MemoryQueueStream,
    ids.foldl (fun value id => removeEntry id value) value =
      ids.foldl (fun value id => removePendingFromAllGroups id value)
        { value with entries := value.entries.filter (fun queued => queued.entry.id ∉ ids) } := by
  induction ids with
  | nil =>
    intro value
    simp
  | cons id rest ih =>
    intro value
    rw [foldl_cons, ih, foldl_cons]
    congr 1
    dsimp only [removeEntry, removePendingFromAllGroups]
    congr 1
    rw [filter_filter]
    apply filter_congr
    intro queued _
    simp only [mem_cons, not_or, Bool.decide_and, Bool.and_comm]

theorem foldl_removeEntry_named (ids : List String) : ∀ {value}, value.Named →
    (ids.foldl (fun value id => removeEntry id value) value).Named := by
  induction ids with
  | nil => intro value named; exact named
  | cons id rest ih => intro value named; exact ih (removeEntry_named named id)

theorem delete_kept (named : log.state.Named) (sound : Sound idNumber log.seen) (stream : String)
    (ids : List String) : Kept log (log.observe (.delete stream ids)) := by
  have steps := delete_steps stream ids log.state log.history sound
  unfold observe queueDelete
  dsimp only
  cases found : log.state.queues.get? stream with
  | none =>
    have empty : log.state.streamOf stream = .default := by
      rw [streamOf, found]
      rfl
    have still : ids.foldl (fun value id => removeEntry id value) MemoryQueueStream.default =
        .default := by
      clear steps
      induction ids with
      | nil => rfl
      | cons id rest ih => exact ih
    refine ⟨named, ?_⟩
    rw [empty, still, ← empty, view_writeStream_self] at steps
    exact steps
  | some value =>
    rw [streamOf_eq found] at steps ⊢
    dsimp only
    rw [← foldl_removeEntry]
    refine ⟨named_writeStream named (foldl_removeEntry_named ids ?_), steps⟩
    exact streamOf_eq found ▸ named.streams stream

theorem move_named (named : state.Named)
    (room : state.queueSeq < u64Max) (source id destination : String) (fields : Fields)
    (maxlen : Option Nat) :
    ((state.counted.push destination (newEntry state fields) maxlen).writeStream source
      (removeEntry id ((state.counted.push destination (newEntry state fields)
        maxlen).streamOf source))).Named := by
  have pushed := pushed_named named room destination fields maxlen
  exact named_writeStream pushed (removeEntry_named (pushed.streams source) id)

/-- How a transfer ends: nothing changes, or a pending entry is moved. -/
inductive Transfer (source group entryId destination : String) (fields : Fields)
    (maxlen : Option Nat) (state : MemoryQueueState) :
    Result RuntimeQueueTransferOutcome × MemoryQueueState → Prop where
  | failed (failure : Failure) :
      Transfer source group entryId destination fields maxlen state (.error failure, state)
  | notPending :
      Transfer source group entryId destination fields maxlen state (.ok .notPending, state)
  | transferred (room : state.queueSeq < u64Max)
      (present : Present (state.streamOf source) entryId) (acked deleted : Nat) :
      Transfer source group entryId destination fields maxlen state
        (.ok (.transferred (streamId (state.queueSeq + 1)) acked deleted),
          (state.counted.push destination (newEntry state fields) maxlen).writeStream source
            (removeEntry entryId ((state.counted.push destination (newEntry state fields)
              maxlen).streamOf source)))

theorem transfer_run (source group entryId destination : String) (fields : Fields)
    (maxlen : Option Nat) (state : MemoryQueueState) :
    Transfer source group entryId destination fields maxlen state
      (queueTransferPendingToStreamWithMaxlen source group entryId destination fields maxlen
        state) := by
  unfold queueTransferPendingToStreamWithMaxlen
  cases validateRuntimeQueueTransfer source group entryId destination fields with
  | error failure => exact .failed failure
  | ok _ =>
    cases found : state.queues.get? source with
    | none => exact .failed _
    | some sourceState =>
      dsimp only
      cases grouped : sourceState.groups.get? group with
      | none => exact .failed _
      | some value =>
        dsimp only
        by_cases pending : value.pending.contains entryId
        · rw [if_neg (by simp [pending])]
          cases checked : checkedAdd state.queueSeq 1 with
          | none => exact .failed _
          | some sequence =>
            obtain ⟨room, rfl⟩ := (checkedAdd_eq_some _ _ _).mp checked
            refine .transferred room (.inr ⟨value, ?_, pending⟩) _ _
            rw [streamOf_eq found]
            exact (OrderedTable.mem_values _ _).mpr ⟨group, grouped⟩
        · rw [if_pos (by simp [pending])]
          exact .notPending

/-- How a redrive ends: no stream changes, or an entry of the source is moved. -/
inductive Redrive (source entryId destination : String) (fields : Fields) (maxlen : Option Nat)
    (state : MemoryQueueState) : RuntimeQueueRedriveOutcome × MemoryQueueState → Prop where
  | alreadyRedriven (destinationId : String)
      (markers : OrderedTable String MemoryRedriveMarker) :
      Redrive source entryId destination fields maxlen state
        (.alreadyRedriven destinationId, { state with queueRedriveMarkers := markers })
  | notFound (markers : OrderedTable String MemoryRedriveMarker) :
      Redrive source entryId destination fields maxlen state
        (.notFound, { state with queueRedriveMarkers := markers })
  | redriven (present : Present (state.streamOf source) entryId) (next : MemoryQueueState)
      (moved : state.queueSeq < u64Max → next.queueSeq = state.queueSeq + 1 ∧
        ∀ stream, next.streamOf stream =
          ((state.counted.push destination (newEntry state fields) maxlen).writeStream source
            (removeEntry entryId ((state.counted.push destination (newEntry state fields)
              maxlen).streamOf source))).streamOf stream) :
      Redrive source entryId destination fields maxlen state
        (.redriven (streamId (saturatingAdd state.queueSeq 1)), next)

theorem redrive_run (source entryId destination : String) (fields : Fields) (maxlen : Option Nat)
    (now : Nat) (state : MemoryQueueState) : Redrive source entryId destination fields maxlen state
      (queueRedriveStreamEntry source entryId destination fields maxlen now state) := by
  unfold queueRedriveStreamEntry
  dsimp only
  split
  · exact .alreadyRedriven _ _
  · split_ifs with missing
    · exact .notFound _
    · refine .redriven (.inl ?_) _ ?_
      · rw [Bool.not_eq_true', Bool.not_eq_false, any_eq_true] at missing
        obtain ⟨queued, member, same⟩ := missing
        exact ⟨queued, member, of_decide_eq_true same⟩
      · intro room
        rw [saturatingAdd_one room, advance_eq]
        · exact ⟨rfl, fun _ => rfl⟩
        · exact room

theorem transfer_kept (named : log.state.Named) (sound : Sound idNumber log.seen)
    (source group entryId destination : String) (fields : Fields) (maxlen : Option Nat) : Kept log
      (log.observe (.transferPendingToStream source group entryId destination fields maxlen)) := by
  have call := transfer_run source group entryId destination fields maxlen log.state
  unfold observe
  dsimp only
  generalize queueTransferPendingToStreamWithMaxlen source group entryId destination fields maxlen
    log.state = result at call ⊢
  cases call with
  | failed failure | notPending => exact ⟨named, .refl⟩
  | transferred room present acked deleted =>
    exact ⟨move_named named room source entryId destination fields maxlen,
      move_steps sound room present destination fields maxlen _⟩

theorem redrive_room {entryId destination now} (sound : Sound idNumber log.seen)
    (few : (log.observe
      (.redriveStreamEntry source entryId destination fields maxlen now)).issued < 2 ^ 64) :
    ∀ id, (queueRedriveStreamEntry source entryId destination fields maxlen now log.state).1 =
      .redriven id → log.state.queueSeq < u64Max := by
  intro id redriven
  unfold observe at few
  dsimp only at few
  generalize queueRedriveStreamEntry source entryId destination fields maxlen now log.state = result
    at few redriven
  obtain ⟨outcome, next⟩ := result
  obtain rfl := redriven
  apply room_of_few sound [_]
  rw [← append_assoc]
  exact few

theorem redrive_kept (named : log.state.Named) (sound : Sound idNumber log.seen)
    {entryId destination now}
    (few : (log.observe
      (.redriveStreamEntry source entryId destination fields maxlen now)).issued < 2 ^ 64) :
    Kept log (log.observe (.redriveStreamEntry source entryId destination fields maxlen now)) := by
  have call := redrive_run source entryId destination fields maxlen now log.state
  have room := redrive_room sound few
  unfold observe
  dsimp only
  generalize queueRedriveStreamEntry source entryId destination fields maxlen now log.state = result
    at call room ⊢
  cases call with
  | alreadyRedriven _ _ | notFound _ => exact ⟨⟨named.counter, named.streams⟩, .refl⟩
  | redriven present next moved =>
    have room := room _ rfl
    obtain ⟨counter, streams⟩ := moved room
    have whole := move_named named room source entryId destination fields maxlen
    constructor
    · exact ⟨counter.trans_le room, fun stream => streams stream ▸ whole.streams stream⟩
    · have view : next.view = ((log.state.counted.push destination (newEntry log.state fields)
          maxlen).writeStream source (removeEntry entryId ((log.state.counted.push destination
            (newEntry log.state fields) maxlen).streamOf source))).view :=
        view_congr counter streams
      dsimp only [seen]
      rw [view, saturatingAdd_one room]
      exact move_steps sound room present destination fields maxlen _

theorem observe_kept (named : log.state.Named) (sound : Sound idNumber log.seen) (call : QueueCall)
    (few : (log.observe call).issued < 2 ^ 64) : Kept log (log.observe call) := by
  cases call with
  | append stream fields maxlen => exact append_kept named sound few
  | ensureConsumerGroup stream group => exact ensureConsumerGroup_kept named stream group
  | read stream group consumer count now =>
    exact read_kept named sound stream group consumer count now
  | claimStalePage stream group consumer startId config now =>
    exact claimStalePage_kept named stream group consumer startId config now
  | ack stream group ids => exact ack_kept named stream group ids
  | delete stream ids => exact delete_kept named sound stream ids
  | transferPendingToStream source group entryId destination fields maxlen =>
    exact transfer_kept named sound source group entryId destination fields maxlen
  | redriveStreamEntry source entryId destination fields maxlen now =>
    exact redrive_kept named sound few

end QueueLog

end Aeris.Runtime
