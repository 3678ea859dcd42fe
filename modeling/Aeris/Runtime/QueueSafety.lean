import Aeris.Runtime.QueueCalls

/-! The queues over any sequence of calls, by any number of consumers. -/
namespace Aeris.Runtime

open RustStd Settlement GroupLog History MemoryQueueStream MemoryQueueState List Nat

namespace QueueLog

variable {log : QueueLog}

/-! ## Any sequence of calls -/

theorem observe_history (log : QueueLog) (call : QueueCall) :
    ∃ more, (log.observe call).history = log.history ++ more := by
  have still : ∃ more, log.history = log.history ++ more := ⟨[], (append_nil _).symm⟩
  cases call with
  | append | ack | delete => exact ⟨_, rfl⟩
  | ensureConsumerGroup => exact still
  | read | claimStalePage =>
    dsimp only [observe]
    split
    · exact ⟨_, rfl⟩
    · exact still
  | transferPendingToStream | redriveStreamEntry =>
    dsimp only [observe]
    split
    · exact ⟨_, append_assoc _ _ _⟩
    · exact still

theorem issued_le_run (calls : List QueueCall) : ∀ log : QueueLog,
    log.issued ≤ (log.run calls).issued := by
  induction calls with
  | nil => intro log; exact le_rfl
  | cons call rest ih =>
    intro log
    obtain ⟨more, grown⟩ := observe_history log call
    have first : log.issued ≤ (log.observe call).issued := by
      unfold issued
      rw [grown, numbers_append, length_append]
      exact le_add_right _ _
    exact first.trans (ih (log.observe call))

theorem run_kept (calls : List QueueCall) : ∀ {log : QueueLog}, log.state.Named →
    Sound idNumber log.seen → (log.run calls).issued < 2 ^ 64 →
      (log.run calls).state.Named ∧ Sound idNumber (log.run calls).seen := by
  induction calls with
  | nil => intro log named sound _; exact ⟨named, sound⟩
  | cons call rest ih =>
    intro log named sound few
    obtain ⟨nextNamed, steps⟩ := observe_kept named sound call
      ((issued_le_run rest (log.observe call)).trans_lt few)
    exact ih nextNamed (steps_sound sound steps) few

theorem start_named : start.state.Named where
  counter := zero_le _
  streams := fun _ => ⟨(fun _ member => by cases member), (fun _ _ found => by cases found)⟩

theorem start_sound : Sound idNumber start.seen where
  numbered := rfl
  known := fun _ _ member => by cases member
  sorted := fun _ => List.Pairwise.nil
  kept := fun _ _ _ member => by cases member
  pending := fun _ _ _ _ found => by cases found
  held := fun _ _ _ _ member => by cases member
  reached := fun _ _ _ _ member => by cases member
  passed := fun _ _ _ found => by cases found
  each := each_nil

/-! ## What can be claimed -/

variable {id : String}

theorem mem_staleIds {value : MemoryConsumerGroup} {pending}
    (named : value.Named) (found : value.pending.get? id = some pending) {minIdle now}
    (idle : minIdle ≤ now - pending.deliveredAt) :
    (pending.sequence, id) ∈ value.staleIds 0 minIdle now := by
  unfold MemoryConsumerGroup.staleIds
  rw [mem_insertionSort, mem_map]
  refine ⟨pending, ?_, ?_⟩
  · simp only [mem_filter, ge_iff_le, zero_le, decide_true, and_true, decide_eq_true_eq]
    exact ⟨(OrderedTable.mem_values _ _).mpr ⟨id, found⟩, idle⟩
  · rw [(named id pending found).1]

theorem length_staleIds_le (value : MemoryConsumerGroup) (start minIdle now : Nat) :
    (value.staleIds start minIdle now).length ≤ value.pending.size := by
  unfold MemoryConsumerGroup.staleIds
  rw [length_insertionSort, length_map]
  refine (length_filter_le _ _).trans ((length_filter_le _ _).trans ?_)
  exact (length_map _).le

theorem claim_finds {state : MemoryQueueState} {stream group value}
    {pending} (named : state.Named) (grouped : state.groupOf stream group = some value)
    (found : value.pending.get? id = some pending) (consumer : String) {config now}
    (idle : nanosOfMillis (max config.minIdleMs 1) ≤ now - pending.deliveredAt)
    (large : value.pending.size ≤ config.count) :
    ∃ page, (queueClaimStalePage stream group consumer "0-0" config now state).1 = .ok page ∧
      pending.entry ∈ page.entries := by
  rcases onGroup_cases stream group
    (fun _ groupState => claimPage consumer 0 now config groupState) state with
    ⟨absent, _⟩ | ⟨other, grouped', ran⟩
  · cases absent.symm.trans grouped
  · cases grouped'.symm.trans grouped
    refine ⟨(claimPage consumer 0 now config value).1, ?_, ?_⟩
    · unfold queueClaimStalePage
      rw [parse_start]
      dsimp only
      rw [ran]
    · have stale := mem_staleIds (named_groupOf named grouped) found idle
      have short := length_staleIds_le value 0 (nanosOfMillis (max config.minIdleMs 1)) now
      dsimp only [claimPage]
      rw [take_of_length_le (by omega), (foldl_claim consumer now _ value []).2,
        nil_append, mem_filterMap]
      exact ⟨_, stale, by rw [found]; rfl⟩

/-! ## What a move adds -/

/-- One entry with a new id, at the end of one stream, and none anywhere else. -/
structure AddsOne (before after : MemoryQueueState) (destination : String)
    (entry : RuntimeQueueEntry) : Prop where
  fresh : ∀ stream, ∀ queued ∈ (before.streamOf stream).entries, queued.entry.id ≠ entry.id
  added : ∃ older sequence, (after.streamOf destination).entries = older ++ [⟨sequence, entry⟩] ∧
    older.Sublist (before.streamOf destination).entries
  others : ∀ stream, stream ≠ destination →
    (after.streamOf stream).entries.Sublist (before.streamOf stream).entries

theorem trimEntries_concat {Entry} (maxlen : Option Nat) (entries : List Entry) (entry : Entry) :
    ∃ kept, trimEntries maxlen (entries ++ [entry]) = kept ++ [entry] ∧ kept.Sublist entries := by
  unfold trimEntries trimmedEntries
  split
  · exact ⟨entries, rfl, .refl _⟩
  · rename_i most positive
    have some_ : 0 < most := by
      obtain ⟨_, large⟩ := Option.filter_eq_some_iff.mp positive
      exact of_decide_eq_true large
    refine ⟨entries.drop ((entries ++ [entry]).length - most), ?_, drop_sublist _ _⟩
    rw [length_take, length_append, length_singleton, min_eq_left (by omega),
      drop_append_of_le_length (by omega)]

theorem fresh_id (sound : Sound idNumber log.seen) (stream : String)
    (room : log.state.queueSeq < u64Max) : ∀ queued ∈ (log.state.streamOf stream).entries,
      queued.entry.id ≠ streamId (log.state.queueSeq + 1) := by
  intro queued member same
  have appended := (sound.known stream (queued.entry.id, queued.entry.fields)
    (mem_map.mpr ⟨queued, member, rfl⟩)).1
  have bound := (sound.issued appended).2
  rw [same, idNumber_streamId room] at bound
  exact absurd bound (not_succ_le_self _)

variable {source destination : String} {fields : Fields} {maxlen : Option Nat}

theorem move_adds {pushed next} (sound : Sound idNumber log.seen)
    (room : log.state.queueSeq < u64Max) (present : Present (log.state.streamOf source) id)
    (push : log.state.counted.push destination (newEntry log.state fields) maxlen = pushed)
    (moved : ∀ stream, next.streamOf stream =
      (pushed.writeStream source (removeEntry id (pushed.streamOf source))).streamOf stream) :
    AddsOne log.state next destination ⟨streamId (log.state.queueSeq + 1), fields⟩ := by
  have other : streamId (log.state.queueSeq + 1) ≠ id := by
    rintro rfl
    obtain ⟨⟨body, known⟩, _⟩ := present_known sound present
    have bound := (sound.issued known).2
    rw [idNumber_streamId room] at bound
    exact absurd bound (not_succ_le_self _)
  have grown : ∀ stream, (pushed.streamOf stream).entries = if stream = destination then
        trimEntries maxlen
          ((log.state.streamOf destination).entries ++ [newEntry log.state fields])
      else (log.state.streamOf stream).entries := by
    intro stream
    rw [← push, MemoryQueueState.push, streamOf_writeStream]
    split_ifs <;> rfl
  have entries : ∀ stream, (next.streamOf stream).entries = if stream = source then
        (pushed.streamOf source).entries.filter (fun queued => queued.entry.id ≠ id)
      else (pushed.streamOf stream).entries := by
    intro stream
    rw [moved, streamOf_writeStream]
    split_ifs <;> rfl
  obtain ⟨kept, concat, sub⟩ := trimEntries_concat maxlen
    (log.state.streamOf destination).entries (newEntry log.state fields)
  constructor
  · intro stream
    exact fresh_id sound stream room
  · rw [entries]
    split_ifs with same
    · rw [← same, grown, if_pos rfl, concat, filter_append]
      refine ⟨kept.filter (fun queued => queued.entry.id ≠ id), log.state.queueSeq + 1, ?_,
        filter_sublist.trans sub⟩
      have stays : [newEntry log.state fields].filter (fun queued => queued.entry.id ≠ id) =
          [newEntry log.state fields] := by
        simp [newEntry, other]
      rw [stays]
      rfl
    · rw [grown, if_pos rfl]
      exact ⟨kept, log.state.queueSeq + 1, concat, sub⟩
  · intro stream different
    rw [entries]
    split_ifs with same
    · subst same
      rw [grown, if_neg different]
      exact filter_sublist
    · rw [grown, if_neg different]

theorem Transfer.adds {group entryId result}
    (call : Transfer source group entryId destination fields maxlen log.state result)
    (sound : Sound idNumber log.seen) :
    (∀ destinationId acked deleted, result.1 = .ok (.transferred destinationId acked deleted) →
      AddsOne log.state result.2 destination ⟨destinationId, fields⟩) ∧
    ((∀ destinationId acked deleted, result.1 ≠ .ok (.transferred destinationId acked deleted)) →
      ∀ stream, result.2.streamOf stream = log.state.streamOf stream) := by
  cases call with
  | failed failure | notPending => exact ⟨(fun _ _ _ success => by cases success), fun _ _ => rfl⟩
  | transferred room present acked deleted =>
    constructor
    · intro _ _ _ success
      cases success
      exact move_adds sound room present rfl (fun _ => rfl)
    · intro refused
      exact absurd rfl (refused _ _ _)

theorem Redrive.adds {entryId result}
    (call : Redrive source entryId destination fields maxlen log.state result)
    (sound : Sound idNumber log.seen)
    (room : ∀ destinationId, result.1 = .redriven destinationId → log.state.queueSeq < u64Max) :
    (∀ destinationId, result.1 = .redriven destinationId →
      AddsOne log.state result.2 destination ⟨destinationId, fields⟩) ∧
    ((∀ destinationId, result.1 ≠ .redriven destinationId) →
      ∀ stream, result.2.streamOf stream = log.state.streamOf stream) := by
  cases call with
  | alreadyRedriven _ _ | notFound _ => exact ⟨(fun _ success => by cases success), fun _ _ => rfl⟩
  | redriven present next moved =>
    have room := room _ rfl
    constructor
    · intro _ success
      cases success
      rw [saturatingAdd_one room]
      exact move_adds sound room present rfl (moved room).2
    · intro refused
      exact absurd rfl (refused _)

/-- Two entries are read, the first is acknowledged and the second is moved away. -/
def sampleQueueCalls : List QueueCall :=
  [.ensureConsumerGroup "usage" "workers", .append "usage" .empty none, .append "usage" .empty none,
    .append "usage" .empty (some 2), .read "usage" "workers" "a" 1 0,
    .read "usage" "workers" "b" 5 0, .ack "usage" "workers" ["2-0"],
    .redriveStreamEntry "usage" "3-0" "dead" .empty none 0]

def floodCall : QueueCall := .append "stream" .empty (some 1)

theorem flood_run (count : Nat) :
    (start.run (List.replicate count floodCall)).state.queueSeq = count % 2 ^ 64 ∧
      numbers idNumber (start.run (List.replicate count floodCall)).history =
        (List.range count).map (fun number => saturatingAdd (number % 2 ^ 64) 1) := by
  induction count with
  | zero => exact ⟨rfl, rfl⟩
  | succ count ih =>
    obtain ⟨counter, given⟩ := ih
    have split : start.run (List.replicate (count + 1) floodCall) =
        (start.run (List.replicate count floodCall)).observe floodCall := by
      rw [replicate_succ']
      exact foldl_append
    rw [split]
    generalize start.run (List.replicate count floodCall) = log at counter given
    dsimp only [floodCall, observe, queueAppend]
    constructor
    · change (log.state.queueSeq + 1) % 2 ^ 64 = _
      omega
    · have trimmed : ∀ ids : List String,
          numbers idNumber (ids.map (fun id => (.trimmed "stream" id : QueueEvent))) = [] := by
        intro ids
        induction ids with
        | nil => rfl
        | cons id rest ih => exact ih
      rw [numbers_append, given, range_succ, map_append]
      congr 1
      change idNumber (streamId (saturatingAdd log.state.queueSeq 1)) ::
        numbers idNumber (List.map _ _) = _
      have small : saturatingAdd log.state.queueSeq 1 ≤ u64Max := min_le_right _ _
      rw [trimmed, idNumber_streamId small, counter]
      rfl

end QueueLog

end Aeris.Runtime
