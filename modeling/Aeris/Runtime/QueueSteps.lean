import Aeris.Base.GroupLog
import Aeris.Runtime.Queue

/-! The queues as logs that are read by groups: each loop of a call, and so each call,
is a number of steps of such a log. -/
namespace Aeris.Runtime

open RustStd Settlement GroupLog MemoryQueueStream List Function
open MemoryConsumerGroup (claim deliver)
open OrderedTable (forall_insert get?_erase get?_insert mem_values)
open Function (update update_apply update_eq_self update_idem)

abbrev Fields := OrderedTable String String

inductive QueueRemoval where
  | deleted
  | transferred (destination destinationId : String)
  | redriven (destination destinationId : String)
  deriving DecidableEq

abbrev QueueEvent := Event String String String Fields QueueRemoval

def idNumber (id : String) : Nat :=
  match parseMemoryStreamSequence id with
  | .ok sequence => sequence
  | .error _ => 0

theorem splitOnce_streamId (sequence : Nat) :
    splitOnce '-' (streamId sequence) = some (toString sequence, "0") := by
  have digits : ∀ c ∈ (toString sequence).toList, decide (c ≠ '-') = true := by
    rintro c member
    apply decide_eq_true
    rintro rfl
    exact absurd (isDigit_of_mem_toString member) (by decide)
  unfold splitOnce streamId
  rw [String.toList_append, dropWhile_append_of_pos digits, takeWhile_append_of_pos digits]
  simp [Nat.repr_eq_ofList_toDigits]

theorem idNumber_streamId {sequence} (small : sequence ≤ u64Max) :
    idNumber (streamId sequence) = sequence := by
  unfold idNumber parseMemoryStreamSequence
  rw [splitOnce_streamId]
  dsimp only
  rw [parseU64_toString small]

/-! ## Ids and sequences -/

def MemoryQueuedEntry.Named (queued : MemoryQueuedEntry) : Prop :=
  queued.entry.id = streamId queued.sequence ∧ queued.sequence ≤ u64Max

def MemoryConsumerGroup.Named (group : MemoryConsumerGroup) : Prop :=
  ∀ id pending, group.pending.get? id = some pending →
    pending.entry.id = id ∧ id = streamId pending.sequence ∧ pending.sequence ≤ u64Max

structure MemoryQueueStream.Named (stream : MemoryQueueStream) : Prop where
  entries : ∀ queued ∈ stream.entries, queued.Named
  groups : ∀ name group, stream.groups.get? name = some group → group.Named

/-- Every id is that of its sequence. -/
structure MemoryQueueState.Named (state : MemoryQueueState) : Prop where
  counter : state.queueSeq ≤ u64Max
  streams : ∀ stream, (state.streamOf stream).Named

theorem MemoryQueuedEntry.Named.number {queued : MemoryQueuedEntry} (named : queued.Named) :
    idNumber queued.entry.id = queued.sequence := by
  rw [named.1]
  exact idNumber_streamId named.2

/-! ## The log of a state -/

namespace MemoryQueueState

variable {state : MemoryQueueState} {stream group : String}

def groupOf (state : MemoryQueueState) (stream group : String) : Option MemoryConsumerGroup :=
  (state.streamOf stream).groups.get? group

def writeGroup (state : MemoryQueueState) (stream group : String) (value : MemoryConsumerGroup) :
    MemoryQueueState :=
  state.writeStream stream { state.streamOf stream with
    groups := (state.streamOf stream).groups.insert group value }

def view (state : MemoryQueueState) : Log String String String Fields where
  issued := state.queueSeq
  entries := fun stream => (state.streamOf stream).entries.map
    (fun queued => (queued.entry.id, queued.entry.fields))
  cursor := fun place => (state.groupOf place.1 place.2).map
    MemoryConsumerGroup.lastDeliveredSequence
  pending := fun place id => (state.groupOf place.1 place.2).bind
    (fun group => (group.pending.get? id).map (fun pending => pending.entry.fields))

theorem view_congr {next : MemoryQueueState} (counter : next.queueSeq = state.queueSeq)
    (streams : ∀ stream, next.streamOf stream = state.streamOf stream) :
    next.view = state.view := by
  have groups : ∀ stream group, next.groupOf stream group = state.groupOf stream group := by
    intro stream group
    rw [groupOf, streams, groupOf]
  simp only [view, counter, streams, groups]

theorem streamOf_writeStream (state : MemoryQueueState) (stream other : String)
    (value : MemoryQueueStream) : (state.writeStream stream value).streamOf other =
      if other = stream then value else state.streamOf other := by
  unfold streamOf writeStream
  rw [get?_insert]
  split_ifs with same
  · rfl
  · rfl

theorem streamOf_eq {value} (found : state.queues.get? stream = some value) :
    state.streamOf stream = value := by
  rw [streamOf, found]
  rfl

theorem groupOf_writeGroup (state : MemoryQueueState) (stream group : String)
    (value : MemoryConsumerGroup) (other reader : String) :
    (state.writeGroup stream group value).groupOf other reader =
      if (other, reader) = (stream, group) then some value else state.groupOf other reader := by
  unfold groupOf writeGroup
  rw [streamOf_writeStream]
  by_cases sameStream : other = stream
  · subst sameStream
    rw [if_pos rfl, get?_insert]
    by_cases sameGroup : reader = group
    · subst sameGroup
      rw [if_pos rfl, if_pos rfl]
    · have different : (other, reader) ≠ (other, group) :=
        fun equal => sameGroup (congrArg Prod.snd equal)
      rw [if_neg sameGroup, if_neg different]
  · have different : (other, reader) ≠ (stream, group) :=
      fun equal => sameStream (congrArg Prod.fst equal)
    rw [if_neg sameStream, if_neg different]

theorem streamOf_writeGroup_entries (state : MemoryQueueState) (stream group : String)
    (value : MemoryConsumerGroup) (other : String) :
    ((state.writeGroup stream group value).streamOf other).entries =
      (state.streamOf other).entries := by
  unfold writeGroup
  rw [streamOf_writeStream]
  split_ifs with same
  · rw [same]
  · rfl

def heldFields (group : MemoryConsumerGroup) (id : String) : Option Fields :=
  (group.pending.get? id).map (fun pending => pending.entry.fields)

theorem view_writeGroup (state : MemoryQueueState) (stream group : String)
    (value : MemoryConsumerGroup) : (state.writeGroup stream group value).view =
      { state.view with
        cursor := update state.view.cursor (stream, group)
          (some value.lastDeliveredSequence)
        pending := update state.view.pending (stream, group) (heldFields value) } := by
  apply Log.ext
  · rfl
  · funext other
    exact congrArg (List.map _) (streamOf_writeGroup_entries state stream group value other)
  · funext place
    dsimp only [view]
    rw [groupOf_writeGroup, update_apply]
    split_ifs
    · rfl
    · rfl
  · funext place
    dsimp only [view]
    rw [update_apply]
    funext id
    rw [groupOf_writeGroup]
    split_ifs
    · rfl
    · rfl

section

variable {value : MemoryConsumerGroup} (found : state.groupOf stream group = some value)
include found

theorem view_cursor : state.view.cursor (stream, group) = some value.lastDeliveredSequence := by
  dsimp only [view]
  rw [found]
  rfl

theorem view_pending : state.view.pending (stream, group) = heldFields value := by
  funext id
  dsimp only [view]
  rw [found]
  rfl

theorem view_writeGroup_same {next}
    (cursor : next.lastDeliveredSequence = value.lastDeliveredSequence)
    (held : heldFields next = heldFields value) :
    (state.writeGroup stream group next).view = state.view := by
  rw [view_writeGroup, cursor, held, ← view_cursor found, ← view_pending found,
    update_eq_self, update_eq_self]

end

theorem view_writeGroup_twice (state : MemoryQueueState) (stream group : String)
    (first second : MemoryConsumerGroup) :
    ((state.writeGroup stream group first).writeGroup stream group second).view =
      (state.writeGroup stream group second).view := by
  rw [view_writeGroup, view_writeGroup, view_writeGroup]
  simp only [update_idem]

theorem named_writeStream {value} (named : state.Named)
    (valueNamed : value.Named) : (state.writeStream stream value).Named where
  counter := named.counter
  streams := by
    intro other
    rw [streamOf_writeStream]
    split_ifs
    · exact valueNamed
    · exact named.streams other

theorem named_writeGroup {value} (named : state.Named)
    (valueNamed : value.Named) : (state.writeGroup stream group value).Named := by
  apply named_writeStream named
  constructor
  · exact (named.streams stream).entries
  · exact forall_insert valueNamed (named.streams stream).groups

theorem named_groupOf {value} (named : state.Named)
    (found : state.groupOf stream group = some value) : value.Named :=
  (named.streams stream).groups group value found

/-! ## Reading -/

variable {queued : MemoryQueuedEntry}

theorem deliver_named {value : MemoryConsumerGroup}
    (consumer : String) (now : Nat) (named : value.Named) (queuedNamed : queued.Named) :
    (value.deliver consumer now queued).Named :=
  forall_insert ⟨rfl, queuedNamed⟩ named

theorem heldFields_deliver (consumer : String) (now : Nat) (value : MemoryConsumerGroup)
    (queued : MemoryQueuedEntry) : heldFields (value.deliver consumer now queued) =
      update (heldFields value) queued.entry.id (some queued.entry.fields) := by
  funext id
  dsimp only [heldFields, deliver]
  rw [get?_insert, update_apply]
  split_ifs
  · rfl
  · rfl

theorem filter_after {entries delivered rest : List MemoryQueuedEntry} {last}
    (sorted : entries.Pairwise (fun first second => first.sequence < second.sequence))
    (waiting : entries.filter (fun queued => queued.sequence > last) = queued ::
      delivered ++ rest) :
    entries.filter (fun other => other.sequence > queued.sequence) = delivered ++ rest := by
  have later : queued.sequence > last := by
    have member : queued ∈ entries.filter (fun queued => queued.sequence > last) :=
      waiting ▸ mem_cons_self
    exact of_decide_eq_true (mem_filter.mp member).2
  have tail : (queued :: (delivered ++ rest)).Pairwise
      (fun first second => first.sequence < second.sequence) := by
    rw [← cons_append, ← waiting]
    exact sorted.filter _
  have twice : entries.filter (fun other => other.sequence > queued.sequence) =
      (entries.filter (fun queued => queued.sequence > last)).filter
        (fun other => other.sequence > queued.sequence) := by
    rw [filter_filter]
    apply filter_congr
    intro other _
    rw [← Bool.decide_and]
    exact decide_eq_decide.mpr ⟨fun above => ⟨above, later.trans above⟩, And.left⟩
  rw [twice, waiting, cons_append, filter_cons_of_neg (by simp)]
  apply filter_eq_self.mpr
  intro other member
  exact decide_eq_true ((pairwise_cons.mp tail).1 other member)

theorem foldl_deliver_named (consumer : String) (now : Nat) (delivered : List MemoryQueuedEntry) :
    ∀ {value : MemoryConsumerGroup}, value.Named → (∀ queued ∈ delivered, queued.Named) →
      (delivered.foldl (deliver consumer now) value).Named := by
  induction delivered with
  | nil => intro value named _; exact named
  | cons queued rest ih =>
    intro value named all
    exact ih (deliver_named consumer now named (all queued mem_cons_self))
      (fun other member => all other (mem_cons_of_mem _ member))

theorem view_find? (named : state.Named) (stream : String) (last : Nat) :
    (state.view.entries stream).find? (fun entry => last < idNumber entry.1) =
      ((state.streamOf stream).entries.filter (fun queued => queued.sequence > last)).head?.map
        (fun queued => (queued.entry.id, queued.entry.fields)) := by
  dsimp only [view]
  rw [find?_map, ← head?_filter]
  congr 2
  apply filter_congr
  intro queued member
  simp only [comp_apply, ((named.streams stream).entries queued member).number, gt_iff_lt]

theorem deliver_steps (consumer : String) (now : Nat) (delivered : List MemoryQueuedEntry) :
    ∀ (state : MemoryQueueState) (value : MemoryConsumerGroup) (history : List QueueEvent)
      (rest : List MemoryQueuedEntry), state.Named → state.groupOf stream group = some value →
      (state.streamOf stream).entries.Pairwise
        (fun first second => first.sequence < second.sequence) →
      (state.streamOf stream).entries.filter
        (fun queued => queued.sequence > value.lastDeliveredSequence) = delivered ++ rest →
        Steps idNumber ⟨state.view, history⟩
          ⟨(state.writeGroup stream group (delivered.foldl (deliver consumer now) value)).view,
            history ++ delivered.map (fun queued =>
              .delivered stream group queued.entry.id queued.entry.fields)⟩ := by
  induction delivered with
  | nil =>
    intro state value history rest named found _ _
    rw [foldl_nil, view_writeGroup_same found rfl rfl, map_nil, append_nil]
  | cons queued more ih =>
    intro state value history rest named found sorted waiting
    have member : queued ∈ (state.streamOf stream).entries := by
      apply mem_of_mem_filter
      rw [waiting]
      exact mem_cons_self
    have queuedNamed := (named.streams stream).entries queued member
    have next := deliver_named consumer now (named_groupOf named found) queuedNamed
    have entries := streamOf_writeGroup_entries state stream group
      (value.deliver consumer now queued) stream
    have later := ih (state.writeGroup stream group (value.deliver consumer now queued))
      (value.deliver consumer now queued)
      (history ++ [.delivered stream group queued.entry.id queued.entry.fields]) rest
      (named_writeGroup named next) (by rw [groupOf_writeGroup, if_pos rfl])
      (by rw [entries]; exact sorted)
      (by rw [entries]; exact filter_after sorted waiting)
    rw [view_writeGroup_twice, append_assoc, singleton_append] at later
    have first := view_find? named stream value.lastDeliveredSequence
    rw [waiting] at first
    have step : Step idNumber ⟨state.view, history⟩ _ :=
      .deliver stream group value.lastDeliveredSequence _ (view_cursor found) first
    refine .head ?_ later
    rw [view_writeGroup, heldFields_deliver, ← view_pending found]
    rw [queuedNamed.number] at step
    exact step

/-! ## Claiming -/

/-- Groups that hold the same entries, whoever has them. -/
def SameEntries (first second : MemoryConsumerGroup) : Prop :=
  first.lastDeliveredSequence = second.lastDeliveredSequence ∧
    ∀ id, (first.pending.get? id).map (fun pending => (pending.sequence, pending.entry)) =
      (second.pending.get? id).map (fun pending => (pending.sequence, pending.entry))

variable {id : String}

theorem claim_some (consumer : String) (now : Nat) {value pending}
    (found : value.pending.get? id = some pending)
    (sequence : Nat) (claimed : List RuntimeQueueEntry) :
    ∃ next, claim consumer now (value, claimed) (sequence, id) =
        (next, claimed ++ [pending.entry]) ∧ SameEntries next value := by
  refine ⟨{ value with
    pending := value.pending.insert id { pending with consumer, deliveredAt := now } }, ?_, rfl, ?_⟩
  · dsimp only [claim]
    rw [found]
  · intro other
    rw [get?_insert]
    split_ifs with same
    · rw [same, found]
      rfl
    · rfl

theorem SameEntries.held {first second} (same : SameEntries first second) :
    heldFields first = heldFields second := by
  funext id
  have equal := congrArg (Option.map (fun pair : Nat × RuntimeQueueEntry => pair.2.fields))
    (same.2 id)
  rwa [Option.map_map, Option.map_map] at equal

theorem SameEntries.named {first second} (same : SameEntries first second)
    (named : second.Named) : first.Named := by
  intro id pending found
  have equal := same.2 id
  rw [found, Option.map_some, eq_comm, Option.map_eq_some_iff] at equal
  obtain ⟨other, present, pair⟩ := equal
  have whole := named id other present
  rw [(Prod.mk.inj pair).1, (Prod.mk.inj pair).2] at whole
  exact whole

theorem foldl_claim (consumer : String) (now : Nat) (items : List (Nat × String)) :
    ∀ (value : MemoryConsumerGroup) (claimed : List RuntimeQueueEntry),
      SameEntries (items.foldl (claim consumer now) (value, claimed)).1 value ∧
        (items.foldl (claim consumer now) (value, claimed)).2 = claimed ++
          items.filterMap (fun item =>
            (value.pending.get? item.2).map MemoryPendingQueueEntry.entry) := by
  induction items with
  | nil =>
    intro value claimed
    exact ⟨⟨rfl, fun _ => rfl⟩, by simp⟩
  | cons item rest ih =>
    intro value claimed
    obtain ⟨sequence, id⟩ := item
    rw [foldl_cons, filterMap_cons]
    cases found : value.pending.get? id with
    | none =>
      have idle : claim consumer now (value, claimed) (sequence, id) =
          (value, claimed) := by
        dsimp only [claim]
        rw [found]
      rw [idle]
      exact ih value claimed
    | some pending =>
      obtain ⟨next, changed, cursor, entries⟩ :=
        claim_some consumer now found sequence claimed
      rw [changed]
      obtain ⟨same, list⟩ := ih next (claimed ++ [pending.entry])
      refine ⟨⟨same.1.trans cursor, fun other => (same.2 other).trans (entries other)⟩, ?_⟩
      have lookups : (fun item : Nat × String =>
          (next.pending.get? item.2).map MemoryPendingQueueEntry.entry) = fun item =>
            (value.pending.get? item.2).map MemoryPendingQueueEntry.entry := by
        funext item
        have equal := congrArg (Option.map Prod.snd) (entries item.2)
        rwa [Option.map_map, Option.map_map] at equal
      rw [list, lookups]
      simp

theorem claimed_steps (entries : List RuntimeQueueEntry) :
    ∀ (seen : Seen String String String Fields QueueRemoval),
      (∀ entry ∈ entries, seen.log.pending (stream, group) entry.id = some entry.fields) →
        Steps idNumber seen ⟨seen.log, seen.history ++ entries.map
          (fun entry => .claimed stream group entry.id entry.fields)⟩ := by
  induction entries with
  | nil =>
    intro seen _
    rw [map_nil, append_nil]
  | cons entry rest ih =>
    intro seen held
    have first : Step idNumber seen _ :=
      .claim stream group entry.id entry.fields (held entry mem_cons_self)
    have later := ih ⟨seen.log, seen.history ++ [.claimed stream group entry.id entry.fields]⟩
      (fun other member => held other (mem_cons_of_mem _ member))
    rw [append_assoc, singleton_append] at later
    exact .head first later

theorem claim_steps (consumer : String) (now : Nat) (items : List (Nat × String))
    {value} (history : List QueueEvent) (named : state.Named)
    (found : state.groupOf stream group = some value) : Steps idNumber ⟨state.view, history⟩
      ⟨(state.writeGroup stream group (items.foldl (claim consumer now) (value, [])).1).view,
        history ++ (items.foldl (claim consumer now) (value, [])).2.map
          (fun entry => .claimed stream group entry.id entry.fields)⟩ := by
  obtain ⟨same, list⟩ := foldl_claim consumer now items value []
  rw [view_writeGroup_same found same.1 same.held]
  apply claimed_steps
  intro entry member
  rw [list, nil_append, mem_filterMap] at member
  obtain ⟨item, _, present⟩ := member
  obtain ⟨pending, stored, rfl⟩ := Option.map_eq_some_iff.mp present
  have id := (named_groupOf named found item.2 pending stored).1
  rw [view_pending found, id, heldFields, stored]
  rfl

/-! ## Acknowledging -/

def ackedIds (pending : OrderedTable String MemoryPendingQueueEntry) : List String → List String
  | [] => []
  | id :: rest =>
    if pending.contains id then id :: ackedIds (pending.erase id) rest else ackedIds pending rest

theorem erase_named {value : MemoryConsumerGroup} (named : value.Named) (id : String) :
    ({ value with pending := value.pending.erase id } : MemoryConsumerGroup).Named := by
  intro other pending found
  rw [get?_erase] at found
  split_ifs at found
  exact named other pending found

theorem heldFields_erase (value : MemoryConsumerGroup) (id : String) :
    heldFields { value with pending := value.pending.erase id } =
      update (heldFields value) id none := by
  funext other
  dsimp only [heldFields]
  rw [get?_erase, update_apply]
  split_ifs
  · rfl
  · rfl

theorem foldl_ack_named (ids : List String) : ∀ {value} (count : Nat),
    value.Named → (ids.foldl MemoryConsumerGroup.ack (value, count)).1.Named := by
  induction ids with
  | nil => intro value count named; exact named
  | cons id rest ih => intro value count named; exact ih _ (erase_named named id)

theorem ack_steps (ids : List String) : ∀ (state : MemoryQueueState) (value : MemoryConsumerGroup)
    (count : Nat) (history : List QueueEvent), state.groupOf stream group = some value →
      Steps idNumber ⟨state.view, history⟩
        ⟨(state.writeGroup stream group (ids.foldl MemoryConsumerGroup.ack (value, count)).1).view,
          history ++ (ackedIds value.pending ids).map (fun id => .acked stream group id)⟩ := by
  induction ids with
  | nil =>
    intro state value count history found
    rw [foldl_nil, view_writeGroup_same found rfl rfl, ackedIds, map_nil, append_nil]
  | cons id rest ih =>
    intro state value count history found
    rw [foldl_cons, ackedIds]
    cases present : value.pending.get? id with
    | none =>
      have missing : value.pending.contains id = false := by
        rw [OrderedTable.contains, present]
        rfl
      have idle : MemoryConsumerGroup.ack (value, count) id = (value, count) := by
        dsimp only [MemoryConsumerGroup.ack]
        rw [missing, OrderedTable.erase_absent _ present]
        rfl
      rw [idle, missing]
      exact ih state value count history found
    | some pending =>
      have has : value.pending.contains id = true := by
        rw [OrderedTable.contains, present]
        rfl
      rw [if_pos has]
      have held : state.view.pending (stream, group) id = some pending.entry.fields := by
        rw [view_pending found, heldFields, present]
        rfl
      have first : Step idNumber ⟨state.view, history⟩ _ :=
        .ack stream group id pending.entry.fields held
      have later := ih
        (state.writeGroup stream group { value with pending := value.pending.erase id })
        { value with pending := value.pending.erase id } (if value.pending.contains id
          then count + 1 else count) (history ++ [.acked stream group id])
        (by rw [groupOf_writeGroup, if_pos rfl])
      rw [view_writeGroup_twice, append_assoc, singleton_append] at later
      refine .head ?_ later
      have cursor := view_cursor found
      rw [view_writeGroup, heldFields_erase, ← view_pending found]
      rw [← cursor, update_eq_self]
      exact first

/-! ## Taking entries out -/

theorem removeEntry_groups (id : String) (value : MemoryQueueStream) (group : String) :
    (removeEntry id value).groups.get? group = (value.groups.get? group).map
      (fun group => { group with pending := group.pending.erase id }) := by
  dsimp only [removeEntry, removePendingFromAllGroups]
  rw [OrderedTable.get?_filterMap]
  cases value.groups.get? group with
  | none => rfl
  | some _ => rfl

theorem removeEntry_named {value} (named : value.Named) (id : String) :
    (removeEntry id value).Named where
  entries := fun queued member => named.entries queued (mem_of_mem_filter member)
  groups := by
    intro name group found
    rw [removeEntry_groups] at found
    obtain ⟨old, present, rfl⟩ := Option.map_eq_some_iff.mp found
    exact erase_named (named.groups name old present) id

theorem view_removeEntry (state : MemoryQueueState) (stream id : String) :
    (state.writeStream stream (removeEntry id (state.streamOf stream))).view =
      { state.view with
        entries := update state.view.entries stream
          ((state.view.entries stream).filter (fun entry => entry.1 ≠ id))
        pending := fun place => if place.1 = stream then
          update (state.view.pending place) id none else state.view.pending place } := by
  apply Log.ext
  · rfl
  · funext other
    dsimp only [view]
    rw [streamOf_writeStream, update_apply]
    split_ifs with same
    · rw [filter_map]
      rfl
    · rfl
  · funext place
    dsimp only [view, groupOf]
    rw [streamOf_writeStream]
    split_ifs with same
    · rw [removeEntry_groups, ← same, Option.map_map]
      rfl
    · rfl
  · funext place
    dsimp only [view, groupOf]
    split_ifs with same
    · funext other
      rw [streamOf_writeStream, if_pos same, removeEntry_groups, ← same, update_apply]
      cases (state.streamOf place.1).groups.get? place.2 with
      | none => simp
      | some value =>
        have erased := congrFun (heldFields_erase value id) other
        rw [update_apply] at erased
        exact erased
    · rw [streamOf_writeStream, if_neg same]

/-- The entry is in the stream or pending in one of its groups. -/
def Present (value : MemoryQueueStream) (id : String) : Prop :=
  (∃ queued ∈ value.entries, queued.entry.id = id) ∨
    ∃ group ∈ value.groups.values, (group.pending.get? id).isSome

instance (value : MemoryQueueStream) (id : String) : Decidable (Present value id) :=
  inferInstanceAs (Decidable (_ ∨ _))

theorem present_known {history : List QueueEvent} (sound : Sound idNumber ⟨state.view, history⟩)
    (present : Present (state.streamOf stream) id) :
    (∃ fields, .appended stream id fields ∈ history) ∧ ∀ why, .removed stream id why ∉ history := by
  rcases present with ⟨queued, member, rfl⟩ | ⟨value, member, has⟩
  · obtain ⟨appended, never⟩ := sound.known stream (queued.entry.id, queued.entry.fields)
      (mem_map.mpr ⟨queued, member, rfl⟩)
    exact ⟨⟨_, appended⟩, never⟩
  · obtain ⟨group, found⟩ := (mem_values _ _).mp member
    obtain ⟨pending, stored⟩ := Option.isSome_iff_exists.mp has
    have grouped : state.groupOf stream group = some value := found
    have held : state.view.pending (stream, group) id = some pending.entry.fields := by
      rw [view_pending grouped, heldFields, stored]
      rfl
    obtain ⟨delivered, open_⟩ := sound.pending stream group id _ held
    obtain ⟨before, after, same, appended, _⟩ := sound.each.mem delivered
    exact ⟨⟨_, same ▸ mem_append_left _ appended⟩, fun why removed => open_ (.inr ⟨why, removed⟩)⟩

theorem remove_step (state : MemoryQueueState) (stream : String) {history}
    (why : QueueRemoval) (known : ∃ fields, .appended stream id fields ∈ history)
    (once : ∀ why, .removed stream id why ∉ history) : Step idNumber ⟨state.view, history⟩
      ⟨(state.writeStream stream (removeEntry id (state.streamOf stream))).view,
        history ++ [.removed stream id why]⟩ := by
  rw [view_removeEntry]
  exact .remove stream id why known once

theorem view_removeEntry_absent (absent : ¬ Present (state.streamOf stream) id) :
    (state.writeStream stream (removeEntry id (state.streamOf stream))).view = state.view := by
  rw [view_removeEntry]
  have entries : (state.view.entries stream).filter (fun entry => entry.1 ≠ id) =
      state.view.entries stream := by
    apply filter_eq_self.mpr
    intro entry member
    obtain ⟨queued, inside, rfl⟩ := mem_map.mp member
    exact decide_eq_true (fun same => absent (.inl ⟨queued, inside, same⟩))
  have pending : (fun place : String × String => if place.1 = stream then
      update (state.view.pending place) id none else state.view.pending place) =
        state.view.pending := by
    funext place
    split_ifs with same
    · rw [update_eq_self_iff, eq_comm]
      dsimp only [view, groupOf]
      rw [same]
      cases found : (state.streamOf stream).groups.get? place.2 with
      | none => rfl
      | some value =>
        have missing : value.pending.get? id = none := by
          rw [← Option.not_isSome_iff_eq_none]
          intro has
          exact absent (.inr ⟨value, (mem_values _ _).mpr ⟨_, found⟩, has⟩)
        rw [Option.bind_some, missing]
        rfl
    · rfl
  rw [entries, pending, update_eq_self]

def deletedIds (value : MemoryQueueStream) : List String → List String
  | [] => []
  | id :: rest =>
    if Present value id then id :: deletedIds (removeEntry id value) rest
    else deletedIds (removeEntry id value) rest

theorem view_writeStream_twice (state : MemoryQueueState) (stream : String)
    (first second : MemoryQueueStream) :
    ((state.writeStream stream first).writeStream stream second).view =
      (state.writeStream stream second).view := by
  refine view_congr rfl ?_
  intro other
  rw [streamOf_writeStream, streamOf_writeStream, streamOf_writeStream]
  split_ifs
  · rfl
  · rfl

theorem view_writeStream_self (state : MemoryQueueState) (stream : String) :
    (state.writeStream stream (state.streamOf stream)).view = state.view := by
  refine view_congr rfl ?_
  intro other
  rw [streamOf_writeStream]
  split_ifs with same
  · rw [same]
  · rfl

theorem delete_steps (stream : String) (ids : List String) : ∀ (state : MemoryQueueState)
    (history : List QueueEvent), Sound idNumber ⟨state.view, history⟩ →
      Steps idNumber ⟨state.view, history⟩
        ⟨(state.writeStream stream
            (ids.foldl (fun value id => removeEntry id value) (state.streamOf stream))).view,
          history ++ (deletedIds (state.streamOf stream) ids).map
            (fun id => .removed stream id .deleted)⟩ := by
  induction ids with
  | nil =>
    intro state history _
    rw [foldl_nil, view_writeStream_self, deletedIds, map_nil, append_nil]
  | cons id rest ih =>
    intro state history sound
    have later := ih (state.writeStream stream (removeEntry id (state.streamOf stream)))
    rw [streamOf_writeStream, if_pos rfl] at later
    simp only [view_writeStream_twice] at later
    rw [foldl_cons, deletedIds]
    split_ifs with present
    · obtain ⟨known, once⟩ := present_known sound present
      have first := remove_step state stream .deleted known once
      have following := later _ (step_sound sound first)
      rw [append_assoc, singleton_append] at following
      exact .head first following
    · have same := view_removeEntry_absent present
      have following := later history (by rw [same]; exact sound)
      rw [same] at following
      exact following

/-! ## Appending -/

theorem trimmedEntries_map {Entry Other} (maxlen : Option Nat) (f : Entry → Other)
    (entries : List Entry) :
    trimmedEntries maxlen (entries.map f) = (trimmedEntries maxlen entries).map f := by
  unfold trimmedEntries
  split
  · rfl
  · rw [length_map, map_take]

theorem trimEntries_map {Entry Other} (maxlen : Option Nat) (f : Entry → Other)
    (entries : List Entry) :
    trimEntries maxlen (entries.map f) = (trimEntries maxlen entries).map f := by
  unfold trimEntries
  rw [trimmedEntries_map, length_map, map_drop]

theorem trimmed_append_trim {Entry} (maxlen : Option Nat) (entries : List Entry) :
    trimmedEntries maxlen entries ++ trimEntries maxlen entries = entries := by
  unfold trimEntries trimmedEntries
  split
  · rfl
  · rename_i most _
    rw [length_take, min_eq_left (Nat.sub_le _ _), take_append_drop]

/-- What happens when an entry is put at the end of a stream. -/
def pushEvents (state : MemoryQueueState) (stream id : String) (fields : Fields)
    (maxlen : Option Nat) : List QueueEvent :=
  .appended stream id fields :: (trimmedEntries maxlen
    ((state.streamOf stream).entries.map (fun queued => queued.entry.id) ++ [id])).map
      (fun id => .trimmed stream id)

def counted (state : MemoryQueueState) : MemoryQueueState :=
  { state with queueSeq := state.queueSeq + 1 }

theorem push_named (named : state.Named) (queuedNamed : queued.Named)
    (stream : String) (maxlen : Option Nat) : (state.push stream queued maxlen).Named := by
  apply named_writeStream named
  refine ⟨?_, (named.streams stream).groups⟩
  intro other member
  have inside := mem_of_mem_drop member
  rcases mem_append.mp inside with old | new
  · exact (named.streams stream).entries other old
  · cases mem_singleton.mp new
    exact queuedNamed

theorem view_push (state : MemoryQueueState) (stream : String) (queued : MemoryQueuedEntry)
    (maxlen : Option Nat) : (state.counted.push stream queued maxlen).view =
      { state.view with
        issued := state.view.issued + 1
        entries := update state.view.entries stream (trimEntries maxlen
          (state.view.entries stream ++ [(queued.entry.id, queued.entry.fields)])) } := by
  have streams : ∀ other, (state.counted.push stream queued maxlen).streamOf other =
      if other = stream then { state.streamOf stream with
        entries := trimEntries maxlen ((state.streamOf stream).entries ++ [queued]) }
      else state.streamOf other :=
    fun other => streamOf_writeStream state.counted stream other _
  apply Log.ext
  · rfl
  · funext other
    dsimp only [view]
    rw [streams, update_apply]
    split_ifs
    · have mapped := trimEntries_map maxlen
        (fun queued : MemoryQueuedEntry => (queued.entry.id, queued.entry.fields))
        ((state.streamOf stream).entries ++ [queued])
      rw [map_append] at mapped
      exact mapped.symm
    · rfl
  · funext place
    dsimp only [view, groupOf]
    rw [streams]
    split_ifs with same
    · rw [same]
    · rfl
  · funext place
    dsimp only [view, groupOf]
    rw [streams]
    split_ifs with same
    · rw [same]
    · rfl

theorem push_steps (room : state.queueSeq < u64Max) (stream : String) (fields : Fields)
    (maxlen : Option Nat) (history : List QueueEvent) : Steps idNumber ⟨state.view, history⟩
      ⟨(state.counted.push stream
          ⟨state.queueSeq + 1, ⟨streamId (state.queueSeq + 1), fields⟩⟩ maxlen).view,
        history ++ pushEvents state stream (streamId (state.queueSeq + 1)) fields maxlen⟩ := by
  have first : Step idNumber ⟨state.view, history⟩ _ :=
    .append stream (streamId (state.queueSeq + 1)) fields (idNumber_streamId room)
  have whole := trimmed_append_trim maxlen
    (state.view.entries stream ++ [(streamId (state.queueSeq + 1), fields)])
  have later : Steps idNumber _ _ := trim_steps stream _
    ⟨{ state.view with
        issued := state.view.issued + 1
        entries := update state.view.entries stream
          (state.view.entries stream ++ [(streamId (state.queueSeq + 1), fields)]) },
      history ++ [.appended stream (streamId (state.queueSeq + 1)) fields]⟩
    _ ((update_self _ _ _).trans whole.symm)
  -- the ids that are trimmed are the ids of the entries that are trimmed
  have ids : trimmedEntries maxlen ((state.streamOf stream).entries.map
      (·.entry.id) ++ [streamId (state.queueSeq + 1)]) =
        (trimmedEntries maxlen (state.view.entries stream ++
          [(streamId (state.queueSeq + 1), fields)])).map Prod.fst := by
    rw [← trimmedEntries_map, map_append]
    dsimp only [view]
    rw [map_map]
    rfl
  rw [view_push, pushEvents, ids]
  simp only [update_idem, append_assoc, singleton_append] at later
  simp only [map_map]
  exact .head first later

end MemoryQueueState

end Aeris.Runtime
