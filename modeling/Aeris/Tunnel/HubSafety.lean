import Aeris.Tunnel.Hub
import Aeris.Base.History

/-! Streams of the hub are kept apart as long as a connection never hands out a stream id that one
of its streams still uses. The id counter starts again at its end and does not look. -/
namespace Aeris.Tunnel.HubRouter

open ByteEncoding Relation List Nat
open HubRouter (commitStream fail insertStream record selectCandidate updateConn updateStream)

/-- Where a stream was opened: the connection and the stream id there. -/
def keyOf (hub : HubRouter) (stream : Nat) : Nat × Nat :=
  ((hub.streams stream).proxyConnId, (hub.streams stream).proxyStreamId)

def liveOn (hub : HubRouter) (conn : Nat) : Finset Nat :=
  hub.localStreams.filter (fun stream => (hub.keyOf stream).1 = conn)

/-- What each entry of the log may be in view of the entries before it: no stream is opened
twice, or where a live stream is; only a live stream is given anything, and only what came
for the place where it was opened; and a live stream is ended once. -/
def Proper (before : List HubEvent) : HubEvent → Prop
  | .opened stream conn streamId => (∀ conn streamId, .opened stream conn streamId ∉ before) ∧
      ∀ other, .opened other conn streamId ∈ before → ∃ result, .ended other result ∈ before
  | .head stream conn streamId | .body stream conn streamId _ =>
    .opened stream conn streamId ∈ before ∧ ∀ result, .ended stream result ∉ before
  | .ended stream _ => (∃ conn streamId, .opened stream conn streamId ∈ before) ∧
      ∀ result, .ended stream result ∉ before

structure Sound (hub : HubRouter) : Prop where
  older : ∀ stream ∈ hub.localStreams, stream < hub.nextLocalStreamId
  entries : ∀ key stream, hub.proxyToLocal.lookup key = some stream ↔
    stream ∈ hub.localStreams ∧ key = hub.keyOf stream
  counts : ∀ conn ∈ hub.registered, (hub.conns conn).streamCount = (hub.liveOn conn).card ∧
    (hub.conns conn).streamCount ≤ (hub.conns conn).maxStreams
  connIds : ∀ stream ∈ hub.localStreams, (hub.keyOf stream).1 < hub.nextConnId
  nodes : ∀ entry ∈ hub.nodeConns, entry.2 < hub.nextConnId
  known : ∀ conn ∈ hub.registered, conn < hub.nextConnId
  running : ∀ stream ∈ hub.localStreams, (hub.streams stream).stream.terminal = false
  opened : ∀ stream conn streamId, .opened stream conn streamId ∈ hub.log →
    stream < hub.nextLocalStreamId ∧ hub.keyOf stream = (conn, streamId)
  live : ∀ stream, stream ∈ hub.localStreams ↔
    (∃ conn streamId, .opened stream conn streamId ∈ hub.log) ∧
      ∀ result, .ended stream result ∉ hub.log
  history : History.Each Proper hub.log

theorem new_sound : Sound .new where
  older := by simp [new]
  entries := by simp [new]
  counts := by simp [new]
  connIds := by simp [new]
  nodes := by simp [new]
  known := by simp [new]
  running := by simp [new]
  opened := by simp [new]
  live := by simp [new]
  history := History.each_nil

variable {before after hub : HubRouter}

theorem Sound.distinct (sound : Sound hub) {first second} (left : first ∈ hub.localStreams)
    (right : second ∈ hub.localStreams) (same : hub.keyOf first = hub.keyOf second) :
    first = second := by
  have one := (sound.entries _ _).mpr ⟨left, rfl⟩
  have two := (sound.entries _ _).mpr ⟨right, rfl⟩
  rw [same, two] at one
  exact (Option.some.inj one).symm

/-! ## What a call can do -/

/-- Nothing happens that the tables, the counts or the log would show. Ids may be used up, and
what is under them is nobody's. -/
structure Unnoticed (before after : HubRouter) : Prop where
  localStreams : after.localStreams = before.localStreams
  proxyToLocal : ∀ key, after.proxyToLocal.lookup key = before.proxyToLocal.lookup key
  nextLocalStreamId : before.nextLocalStreamId ≤ after.nextLocalStreamId
  nextConnId : after.nextConnId = before.nextConnId
  registered : after.registered ⊆ before.registered
  nodeConns : after.nodeConns ⊆ before.nodeConns
  counts : ∀ conn ∈ after.registered,
    (after.conns conn).streamCount = (before.conns conn).streamCount ∧
      (after.conns conn).maxStreams = (before.conns conn).maxStreams
  keys : ∀ stream < before.nextLocalStreamId, after.keyOf stream = before.keyOf stream
  terminal : ∀ stream < before.nextLocalStreamId,
    (after.streams stream).stream.terminal = (before.streams stream).stream.terminal
  log : after.log = before.log

theorem Sound.unnoticed (sound : Sound before) (unnoticed : Unnoticed before after) :
    Sound after := by
  have keys (stream : Nat) (live : stream ∈ before.localStreams) :
      after.keyOf stream = before.keyOf stream := unnoticed.keys stream (sound.older stream live)
  have liveOn (conn : Nat) : after.liveOn conn = before.liveOn conn := by
    unfold liveOn
    rw [unnoticed.localStreams]
    exact Finset.filter_congr fun stream live => by rw [keys stream live]
  exact {
    older := by
      rw [unnoticed.localStreams]
      exact fun stream live => (sound.older stream live).trans_le unnoticed.nextLocalStreamId
    entries := by
      intro key stream
      rw [unnoticed.proxyToLocal, unnoticed.localStreams, sound.entries]
      exact and_congr_right fun live => by rw [keys stream live]
    counts := by
      intro conn member
      obtain ⟨count, most⟩ := unnoticed.counts conn member
      rw [count, most, liveOn]
      exact sound.counts conn (unnoticed.registered member)
    connIds := by
      rw [unnoticed.localStreams, unnoticed.nextConnId]
      intro stream live
      rw [keys stream live]
      exact sound.connIds stream live
    nodes := by
      rw [unnoticed.nextConnId]
      exact fun entry member => sound.nodes entry (unnoticed.nodeConns member)
    known := by
      rw [unnoticed.nextConnId]
      exact fun conn member => sound.known conn (unnoticed.registered member)
    running := by
      rw [unnoticed.localStreams]
      intro stream live
      rw [unnoticed.terminal stream (sound.older stream live)]
      exact sound.running stream live
    opened := by
      rw [unnoticed.log]
      intro stream conn streamId member
      obtain ⟨older, key⟩ := sound.opened _ _ _ member
      rw [unnoticed.keys stream older]
      exact ⟨older.trans_le unnoticed.nextLocalStreamId, key⟩
    live := by
      rw [unnoticed.log, unnoticed.localStreams]
      exact sound.live
    history := by
      rw [unnoticed.log]
      exact sound.history }

theorem Unnoticed.refl (hub : HubRouter) : Unnoticed hub hub :=
  ⟨rfl, fun _ => rfl, le_rfl, rfl, subset_rfl, List.Subset.refl _, fun _ _ => ⟨rfl, rfl⟩,
    fun _ _ => rfl, fun _ _ => rfl, rfl⟩

theorem Sound.given (sound : Sound hub) {stream conn streamId event}
    (found : hub.proxyToLocal.lookup (conn, streamId) = some stream)
    (kind : event = .head stream conn streamId ∨ ∃ payload, event =
      .body stream conn streamId payload) : Sound (hub.record event) := by
  obtain ⟨live, key⟩ := (sound.entries _ _).mp found
  obtain ⟨⟨otherConn, otherId, opened⟩, unended⟩ := (sound.live stream).mp live
  have same := (sound.opened _ _ _ opened).2
  rw [← key] at same
  obtain ⟨rfl, rfl⟩ := Prod.mk.inj same
  have proper : Proper hub.log event := by
    rcases kind with rfl | ⟨payload, rfl⟩ <;> exact ⟨opened, unended⟩
  have noOpen (other conn streamId : Nat) : event ≠ .opened other conn streamId := by
    rcases kind with rfl | ⟨payload, rfl⟩ <;> simp
  have noEnd (other : Nat) (result : Except String Unit) : event ≠ .ended other result := by
    rcases kind with rfl | ⟨payload, rfl⟩ <;> simp
  exact { sound with
    opened := by
      intro other conn streamId member
      rcases mem_append.mp member with earlier | last
      · exact sound.opened _ _ _ earlier
      · exact absurd (mem_singleton.mp last).symm (noOpen _ _ _)
    live := by
      intro other
      have opens (conn streamId : Nat) : .opened other conn streamId ∈ hub.log ++ [event] ↔
          .opened other conn streamId ∈ hub.log := by
        simp [(noOpen other conn streamId).symm]
      have ends (result : Except String Unit) : .ended other result ∈ hub.log ++ [event] ↔
          .ended other result ∈ hub.log := by
        simp [(noEnd other result).symm]
      simp only [record, opens, ends]
      exact sound.live other
    history := (History.each_snoc event).mpr ⟨sound.history, proper⟩ }

variable {stream : Nat} {conns : Nat → ProxyConn}

def detached (hub : HubRouter) (stream : Nat) (conns : Nat → ProxyConn) : HubRouter :=
  { hub with
    localStreams := hub.localStreams.erase stream
    proxyToLocal := hub.proxyToLocal.erase (hub.keyOf stream)
    conns }

def Released (hub : HubRouter) (stream : Nat) (conns : Nat → ProxyConn) : Prop :=
  ∀ conn ∈ hub.registered, (conns conn).streamCount = (hub.conns conn).streamCount -
      (if conn = (hub.keyOf stream).1 then 1 else 0) ∧
    (conns conn).maxStreams = (hub.conns conn).maxStreams

theorem detached_card (live : stream ∈ hub.localStreams) (conn : Nat) :
    ((hub.detached stream conns).liveOn conn).card =
      (hub.liveOn conn).card - (if conn = (hub.keyOf stream).1 then 1 else 0) := by
  have filtered : (hub.detached stream conns).liveOn conn = (hub.liveOn conn).erase stream :=
    Finset.filter_erase ..
  rw [filtered]
  split
  · next here =>
    rw [Finset.card_erase_of_mem]
    simp [liveOn, live, here]
  · next elsewhere =>
    rw [Finset.erase_eq_of_notMem, Nat.sub_zero]
    simp [liveOn, Ne.symm elsewhere]

theorem detached_entries (conns : Nat → ProxyConn) (sound : Sound hub)
    (live : stream ∈ hub.localStreams) (key : Nat × Nat) (other : Nat) :
    (hub.detached stream conns).proxyToLocal.lookup key = some other ↔
      other ∈ (hub.detached stream conns).localStreams ∧ key = hub.keyOf other := by
  rw [detached, Finset.mem_erase]
  by_cases same : key = hub.keyOf stream
  · rw [same, AList.lookup_erase]
    constructor
    · intro found
      cases found
    · rintro ⟨⟨different, isLive⟩, key⟩
      exact absurd (sound.distinct live isLive key).symm different
  · rw [AList.lookup_erase_ne same, sound.entries]
    constructor
    · rintro ⟨isLive, rfl⟩
      exact ⟨⟨fun equal => same (by rw [equal]), isLive⟩, rfl⟩
    · rintro ⟨⟨-, isLive⟩, key⟩
      exact ⟨isLive, key⟩

theorem stop_keyOf (hub : HubRouter) (stream : Nat) (error : String) (result : Except String Unit)
    (other : Nat) : (hub.stop stream error result).keyOf other = hub.keyOf other := by
  unfold stop
  split
  · rfl
  · by_cases same : other = stream
    · subst other
      simp only [keyOf, record, updateStream, Function.update_self, HubStream.stop]
      split <;> rfl
    · simp [keyOf, record, updateStream, same]

theorem Sound.stops (sound : Sound hub) (isLive : stream ∈ hub.localStreams)
    (released : Released hub stream conns) (error : String) (result : Except String Unit) :
    Sound ((hub.detached stream conns).stop stream error result) := by
  have running : ((hub.detached stream conns).streams stream).stream.terminal = false :=
    sound.running stream isLive
  have keys := stop_keyOf (hub.detached stream conns) stream error result
  rw [stop, running, if_neg Bool.false_ne_true] at keys ⊢
  exact {
    older := fun other member => sound.older other (Finset.mem_of_mem_erase member)
    entries := by
      intro key other
      rw [keys]
      exact detached_entries conns sound isLive key other
    counts := by
      intro conn member
      obtain ⟨count, most⟩ := released conn member
      obtain ⟨exactly, atMost⟩ := sound.counts conn member
      simp only [liveOn, keys]
      change (conns conn).streamCount = ((hub.detached stream conns).liveOn conn).card ∧
        (conns conn).streamCount ≤ (conns conn).maxStreams
      rw [count, most, detached_card isLive, exactly]
      exact ⟨rfl, by omega⟩
    connIds := by
      intro other member
      rw [keys]
      exact sound.connIds other (Finset.mem_of_mem_erase member)
    nodes := sound.nodes
    known := sound.known
    running := by
      intro other member
      obtain ⟨different, member⟩ := Finset.mem_erase.mp member
      simpa [record, updateStream, detached, different] using sound.running other member
    opened := by
      intro other conn streamId member
      rw [keys]
      exact sound.opened _ _ _ (by simpa [record, updateStream, detached] using member)
    live := by
      intro other
      change other ∈ hub.localStreams.erase stream ↔ (∃ conn streamId,
        .opened other conn streamId ∈ hub.log ++ [.ended stream result]) ∧
        ∀ result', .ended other result' ∉ hub.log ++ [.ended stream result]
      rw [Finset.mem_erase, sound.live]
      simp only [mem_append, mem_singleton, reduceCtorEq, or_false,
        HubEvent.ended.injEq, not_or]
      constructor
      · rintro ⟨different, opened, unended⟩
        exact ⟨opened, fun result => ⟨unended result, fun same => different same.1⟩⟩
      · rintro ⟨opened, unended⟩
        exact ⟨fun same => (unended result).2 ⟨same, rfl⟩, opened,
          fun result => (unended result).1⟩
    history := (History.each_snoc _).mpr ⟨sound.history, (sound.live stream).mp isLive⟩ }

theorem withConn_release (hub : HubRouter) (conn : Nat) :
    ∀ other ∈ hub.registered, ((hub.withConn conn .releaseStream).conns other).streamCount =
        (hub.conns other).streamCount - (if other = conn then 1 else 0) ∧
      ((hub.withConn conn .releaseStream).conns other).maxStreams =
        (hub.conns other).maxStreams := by
  intro other member
  unfold withConn
  split
  · by_cases same : other = conn
    · subst other
      simp [updateConn, ProxyConn.releaseStream]
    · simp [updateConn, same]
  · next absent =>
    have different : other ≠ conn := fun same => absent (same ▸ member)
    simp [different]

theorem withConn_eq (hub : HubRouter) (conn : Nat) (change : ProxyConn → ProxyConn) :
    hub.withConn conn change = { hub with conns := (hub.withConn conn change).conns } := by
  unfold withConn
  split <;> rfl

section Unnoticed

variable (hub : HubRouter) (conn : Nat) {change : ProxyConn → ProxyConn}
  (kept : ∀ conn, (change conn).streamCount = conn.streamCount ∧
    (change conn).maxStreams = conn.maxStreams)
include kept

theorem updateConn_unnoticed : Unnoticed hub (hub.updateConn conn change) := by
  refine { Unnoticed.refl hub with counts := fun other _ => ?_ }
  by_cases same : other = conn
  · subst other
    simp [updateConn, kept]
  · simp [updateConn, same]

theorem withConn_unnoticed : Unnoticed hub (hub.withConn conn change) := by
  unfold withConn
  split
  · exact updateConn_unnoticed hub conn kept
  · exact .refl hub

end Unnoticed

/-! ## The calls that end a stream -/

theorem Sound.handleStreamCleanup (sound : Sound hub) {conn streamId stream}
    (found : hub.proxyToLocal.lookup (conn, streamId) = some stream) :
    ∃ conns, hub.handleStreamCleanup conn streamId = (hub.detached stream conns, some stream) ∧
      stream ∈ hub.localStreams ∧ Released hub stream conns := by
  obtain ⟨live, key⟩ := (sound.entries _ _).mp found
  have counts := withConn_release (hub.detached stream hub.conns) conn
  rw [show conn = (hub.keyOf stream).1 from congrArg Prod.fst key] at counts
  have taken := withConn_eq (hub.detached stream hub.conns) (hub.keyOf stream).1 .releaseStream
  refine ⟨_, ?_, live, counts⟩
  change _ = (({ hub.detached stream hub.conns with conns := _ } : HubRouter), _)
  rw [← taken, ← key]
  simp [HubRouter.handleStreamCleanup, found, live, detached, ← key]

theorem Sound.cleanup (sound : Sound hub) (conn streamId : Nat) (error : String)
    (result : Except String Unit) : Sound (match hub.handleStreamCleanup conn streamId with
      | (hub, some stream) => hub.stop stream error result
      | (hub, none) => hub) := by
  cases found : hub.proxyToLocal.lookup (conn, streamId) with
  | none => simpa [HubRouter.handleStreamCleanup, found] using sound
  | some stream =>
    obtain ⟨conns, cleaned, live, released⟩ := sound.handleStreamCleanup found
    rw [cleaned]
    exact sound.stops live released _ _

theorem Sound.finishProxyStream (sound : Sound hub) (conn streamId : Nat) :
    Sound (hub.finishProxyStream conn streamId) :=
  sound.cleanup conn streamId _ _

theorem Sound.failProxyStream (sound : Sound hub) (conn : Nat) (error : String) (streamId : Nat) :
    Sound (hub.failProxyStream conn error streamId) :=
  sound.cleanup conn streamId _ _

theorem Sound.resetStreams (sound : Sound hub) (conn : Nat) (reason : String) (order : List Nat) :
    Sound (hub.resetStreams conn reason order) := by
  induction order generalizing hub with
  | nil => exact sound
  | cons streamId order ih => exact ih (sound.failProxyStream conn reason streamId)

theorem Released.requestClose (released : Released hub stream conns) (conn : Nat) :
    Released hub stream ((hub.detached stream conns).withConn conn .requestClose).conns := by
  have closes : Unnoticed _ ((hub.detached stream conns).withConn conn .requestClose) :=
    withConn_unnoticed _ conn fun _ => ⟨rfl, rfl⟩
  intro other member
  have same : other ∈ ((hub.detached stream conns).withConn conn .requestClose).registered := by
    rw [withConn_eq]
    exact member
  rw [(closes.counts other same).1, (closes.counts other same).2]
  exact released other member

theorem Sound.cancelLocalStream (sound : Sound hub) (stream : Nat) (reason : String)
    (sent : SendStatus) : Sound (hub.cancelLocalStream stream reason sent) := by
  unfold HubRouter.cancelLocalStream
  split
  · next live =>
    have counts := withConn_release (hub.detached stream hub.conns) (hub.keyOf stream).1
    have taken := withConn_eq (hub.detached stream hub.conns) (hub.keyOf stream).1 .releaseStream
    generalize ((hub.detached stream hub.conns).withConn _ _).conns = conns at counts taken
    have released : Released hub stream conns := counts
    change Sound (fail (if sent = .queued then
        (hub.detached stream hub.conns).withConn (hub.keyOf stream).1 _
      else ((hub.detached stream hub.conns).withConn (hub.keyOf stream).1 _).withConn _ _) _ _)
    rw [taken]
    split
    · exact sound.stops live released _ _
    · rw [withConn_eq]
      exact sound.stops live (released.requestClose _) _ _
  · exact sound

theorem Sound.disconnectStream (sound : Sound hub) {conn} (gone : conn ∉ hub.registered)
    (streamId : Nat) : Sound (hub.disconnectStream conn streamId) ∧
      conn ∉ (hub.disconnectStream conn streamId).registered := by
  unfold HubRouter.disconnectStream
  split
  · exact ⟨sound, gone⟩
  · next stream found =>
    obtain ⟨live, key⟩ := (sound.entries _ _).mp found
    have released : Released hub stream hub.conns := by
      intro other member
      have different : other ≠ (hub.keyOf stream).1 := by
        rw [← key]
        rintro rfl
        exact gone member
      simp [different]
    have stops := sound.stops live released "proxy disconnected" (.error "proxy disconnected")
    rw [detached, ← key] at stops
    simp only [live, if_true]
    refine ⟨stops, ?_⟩
    unfold fail stop
    split <;> exact gone

theorem Sound.disconnectStreams (sound : Sound hub) {conn} (gone : conn ∉ hub.registered)
    (order : List Nat) : Sound (order.foldl (HubRouter.disconnectStream conn) hub) := by
  induction order generalizing hub with
  | nil => exact sound
  | cons streamId order ih =>
    obtain ⟨after, still⟩ := sound.disconnectStream gone streamId
    exact ih after still

theorem Sound.unregisterProxy (sound : Sound hub) (conn : Nat) (nodeId : String)
    (order : List Nat) : Sound (hub.unregisterProxy conn nodeId order) := by
  refine Sound.disconnectStreams ?_ (Finset.notMem_erase conn hub.registered) order
  exact sound.unnoticed { Unnoticed.refl hub with
    registered := Finset.erase_subset _ _, nodeConns := filter_subset_self _
    counts := fun _ _ => ⟨rfl, rfl⟩ }

/-! ## The calls that start something -/

theorem Sound.registerProxy (sound : Sound hub) (nodeId : String) (maxStreams : Nat)
    (settings : SettingsPayload) : Sound (hub.registerProxy (.new nodeId maxStreams settings)) := by
  have none : hub.liveOn hub.nextConnId = ∅ := by
    refine Finset.filter_eq_empty_iff.mpr fun stream live same => ?_
    exact absurd (sound.connIds stream live) (by rw [same]; exact lt_irrefl _)
  exact { sound with
    counts := by
      intro conn member
      by_cases new : conn = hub.nextConnId
      · subst conn
        have empty : (hub.registerProxy (.new nodeId maxStreams settings)).liveOn hub.nextConnId =
            hub.liveOn hub.nextConnId := rfl
        rw [empty, none]
        simp [HubRouter.registerProxy, ProxyConn.new]
      · have old : conn ∈ hub.registered := by
          simpa [HubRouter.registerProxy, new] using member
        have same : (hub.registerProxy (.new nodeId maxStreams settings)).conns conn =
            hub.conns conn := by
          simp [HubRouter.registerProxy, new]
        rw [same]
        exact sound.counts conn old
    connIds := fun stream live => (sound.connIds stream live).trans (lt_succ_self _)
    nodes := by
      intro entry member
      rcases mem_append.mp member with old | new
      · exact (sound.nodes entry old).trans (lt_succ_self _)
      · rw [mem_singleton.mp new]
        exact lt_succ_self _
    known := by
      intro conn member
      rcases Finset.mem_insert.mp member with rfl | old
      · exact lt_succ_self _
      · exact (sound.known conn old).trans (lt_succ_self _) }

theorem allocStreamId_spec {conn after : ProxyConn} {streamId}
    (allocated : conn.allocStreamId = some (streamId, after)) :
    streamId = conn.nextStreamId ∧ after.streamCount = conn.streamCount + 1 ∧
      after.streamCount ≤ after.maxStreams ∧ after.maxStreams = conn.maxStreams := by
  unfold ProxyConn.allocStreamId at allocated
  split at allocated
  · cases allocated
  · next free =>
    cases allocated
    simp only [ge_iff_le, Bool.or_eq_true, decide_eq_true_eq, not_or, not_le] at free
    exact ⟨rfl, rfl, free.1, rfl⟩

theorem selectCandidate_spec {candidates conn streamId after}
    (selected : hub.selectCandidate candidates = some (conn, streamId, after)) :
    conn ∈ candidates ∧ (hub.conns conn).allocStreamId = some (streamId, after) := by
  induction candidates with
  | nil => cases selected
  | cons first rest ih =>
    unfold selectCandidate at selected
    split at selected
    · next allocated =>
      cases selected
      exact ⟨by simp, allocated⟩
    · obtain ⟨member, allocated⟩ := ih selected
      exact ⟨mem_cons_of_mem _ member, allocated⟩

/-- The condition on an open: the id that is handed out is free on its connection. -/
def FreeId (hub : HubRouter) : Action → Prop
  | .openStream _ candidates (.ok ()) _ => ∀ conn streamId after,
      hub.selectCandidate candidates = some (conn, streamId, after) →
        ∀ stream ∈ hub.localStreams, hub.keyOf stream ≠ (conn, streamId)
  | _ => True

section Open

variable {conn streamId : Nat} {after : ProxyConn}

def entered (hub : HubRouter) (conn streamId : Nat) (after : ProxyConn) : HubRouter :=
  (hub.updateConn conn fun _ => after).insertStream conn streamId

theorem entered_key {stream} (older : stream < hub.nextLocalStreamId) :
    (entered hub conn streamId after).keyOf stream = hub.keyOf stream := by
  simp [entered, keyOf, insertStream, updateConn, older.ne]

theorem entered_own_key :
    (entered hub conn streamId after).keyOf hub.nextLocalStreamId = (conn, streamId) := by
  simp [entered, keyOf, insertStream, updateConn, HubStream.new]

theorem entered_conns (other : Nat) : (entered hub conn streamId after).conns other =
    if other = conn then after else hub.conns other := by
  by_cases same : other = conn
  · subst other
    simp [entered, insertStream, updateConn]
  · simp [entered, insertStream, updateConn, same]

theorem entered_liveOn (sound : Sound hub) (other : Nat) :
    (entered hub conn streamId after).liveOn other =
      if other = conn then insert hub.nextLocalStreamId
        (hub.liveOn other) else hub.liveOn other := by
  have old : hub.localStreams.filter
      (fun stream => ((entered hub conn streamId after).keyOf stream).1 = other) =
        hub.liveOn other :=
    Finset.filter_congr fun stream live => by rw [entered_key (sound.older stream live)]
  have inserted : (entered hub conn streamId after).localStreams =
      insert hub.nextLocalStreamId hub.localStreams := rfl
  rw [liveOn, inserted, Finset.filter_insert, entered_own_key, old]
  by_cases same : other = conn
  · rw [if_pos same, if_pos same.symm]
  · rw [if_neg same, if_neg (Ne.symm same)]

theorem Sound.enters (sound : Sound hub) (known : conn < hub.nextConnId)
    (allocated : (hub.conns conn).allocStreamId = some (streamId, after))
    (free : ∀ stream ∈ hub.localStreams, hub.keyOf stream ≠ (conn, streamId)) :
    Sound ((entered hub conn streamId after).record
      (.opened hub.nextLocalStreamId conn streamId)) := by
  obtain ⟨-, count, atMost, most⟩ := allocStreamId_spec allocated
  have fresh : hub.nextLocalStreamId ∉ hub.localStreams :=
    fun live => absurd (sound.older _ live) (lt_irrefl _)
  have unopened (conn streamId : Nat) :
      .opened hub.nextLocalStreamId conn streamId ∉ hub.log :=
    fun member => absurd (sound.opened _ _ _ member).1 (lt_irrefl _)
  have unended (result : Except String Unit) : .ended hub.nextLocalStreamId result ∉ hub.log := by
    intro member
    obtain ⟨first, last, split, proper⟩ := sound.history.mem member
    obtain ⟨⟨conn, streamId, opened⟩, -⟩ := proper
    exact unopened conn streamId (by rw [split]; simp [opened])
  exact {
    older := by
      intro stream live
      rcases Finset.mem_insert.mp live with rfl | old
      · exact lt_succ_self _
      · exact (sound.older stream old).trans (lt_succ_self _)
    entries := by
      intro key stream
      change (hub.proxyToLocal.insert (conn, streamId) hub.nextLocalStreamId).lookup key = _ ↔
        stream ∈ insert hub.nextLocalStreamId hub.localStreams ∧
          key = (entered hub conn streamId after).keyOf stream
      rw [Finset.mem_insert]
      by_cases here : key = (conn, streamId)
      · subst here
        rw [AList.lookup_insert]
        constructor
        · intro found
          cases found
          exact ⟨.inl rfl, entered_own_key.symm⟩
        · rintro ⟨rfl | old, same⟩
          · rfl
          · rw [entered_key (sound.older stream old)] at same
            exact absurd same.symm (free stream old)
      · rw [AList.lookup_insert_ne here, sound.entries]
        constructor
        · rintro ⟨old, same⟩
          exact ⟨.inr old, by rw [entered_key (sound.older stream old), same]⟩
        · rintro ⟨rfl | old, same⟩
          · rw [entered_own_key] at same
            exact absurd same here
          · rw [entered_key (sound.older stream old)] at same
            exact ⟨old, same⟩
    counts := by
      intro other member
      change ((entered hub conn streamId after).conns other).streamCount =
          ((entered hub conn streamId after).liveOn other).card ∧
        ((entered hub conn streamId after).conns other).streamCount ≤
          ((entered hub conn streamId after).conns other).maxStreams
      rw [entered_conns, entered_liveOn sound]
      split
      · next same =>
        subst other
        have notIn : hub.nextLocalStreamId ∉ hub.liveOn conn :=
          fun member => fresh (Finset.mem_filter.mp member).1
        rw [Finset.card_insert_of_notMem notIn, count, (sound.counts conn member).1]
        exact ⟨rfl, by rw [← (sound.counts conn member).1, ← count]; exact atMost⟩
      · exact sound.counts other member
    connIds := by
      intro stream live
      change stream ∈ insert hub.nextLocalStreamId hub.localStreams at live
      change ((entered hub conn streamId after).keyOf stream).1 < hub.nextConnId
      rcases Finset.mem_insert.mp live with rfl | old
      · rw [entered_own_key]
        exact known
      · rw [entered_key (sound.older stream old)]
        exact sound.connIds stream old
    nodes := sound.nodes
    known := sound.known
    running := by
      intro stream live
      rcases Finset.mem_insert.mp live with rfl | old
      · simp [record, entered, insertStream, updateConn,
          HubStream.new, LocalStream.new]
      · have different := (sound.older stream old).ne
        simpa [record, entered, insertStream, updateConn,
          different] using sound.running stream old
    opened := by
      intro stream otherConn otherId member
      change stream < hub.nextLocalStreamId + 1 ∧
        (entered hub conn streamId after).keyOf stream = (otherConn, otherId)
      rcases mem_append.mp member with old | new
      · obtain ⟨older, key⟩ := sound.opened _ _ _ old
        exact ⟨older.trans (lt_succ_self _), by rw [entered_key older, key]⟩
      · cases mem_singleton.mp new
        exact ⟨lt_succ_self _, entered_own_key⟩
    live := by
      intro stream
      change stream ∈ insert hub.nextLocalStreamId hub.localStreams ↔ (∃ otherConn otherId,
        .opened stream otherConn otherId ∈
          hub.log ++ [.opened hub.nextLocalStreamId conn streamId]) ∧
        ∀ result, .ended stream result ∉ hub.log ++ [.opened hub.nextLocalStreamId conn streamId]
      rw [Finset.mem_insert, sound.live]
      simp only [mem_append, mem_singleton, reduceCtorEq, or_false]
      constructor
      · rintro (rfl | ⟨⟨otherConn, otherId, opened⟩, unended⟩)
        · exact ⟨⟨conn, streamId, .inr rfl⟩, unended⟩
        · exact ⟨⟨otherConn, otherId, .inl opened⟩, unended⟩
      · rintro ⟨⟨otherConn, otherId, opened | new⟩, unended⟩
        · exact .inr ⟨⟨otherConn, otherId, opened⟩, unended⟩
        · cases new
          exact .inl rfl
    history := by
      refine (History.each_snoc _).mpr ⟨sound.history, unopened, ?_⟩
      intro other opened
      by_contra alive
      have live := (sound.live other).mpr
        ⟨⟨_, _, opened⟩, fun result member => alive ⟨result, member⟩⟩
      exact free other live (sound.opened _ _ _ opened).2 }

theorem entered_cleanup (sound : Sound hub) :
    (entered hub conn streamId after).cleanupLocalStream hub.nextLocalStreamId =
      ({ entered hub conn streamId after with
          localStreams := hub.localStreams
          proxyToLocal := (hub.proxyToLocal.insert (conn, streamId) hub.nextLocalStreamId).erase
            (conn, streamId) }, true) := by
  have fresh : hub.nextLocalStreamId ∉ hub.localStreams :=
    fun live => absurd (sound.older _ live) (lt_irrefl _)
  have key := @entered_own_key hub conn streamId after
  simp only [keyOf, Prod.mk.injEq] at key
  simp only [cleanupLocalStream, key.1, key.2]
  simp [entered, insertStream, updateConn, Finset.erase_insert fresh]

theorem Sound.withdraws (sound : Sound hub)
    (allocated : (hub.conns conn).allocStreamId = some (streamId, after))
    (free : ∀ stream ∈ hub.localStreams, hub.keyOf stream ≠ (conn, streamId)) :
    Sound (((entered hub conn streamId after).cleanupLocalStream
      hub.nextLocalStreamId).1.updateConn conn .releaseStream) := by
  obtain ⟨-, count, -, most⟩ := allocStreamId_spec allocated
  have absent : hub.proxyToLocal.lookup (conn, streamId) = none := by
    cases found : hub.proxyToLocal.lookup (conn, streamId) with
    | none => rfl
    | some stream =>
      obtain ⟨live, key⟩ := (sound.entries _ _).mp found
      exact absurd key.symm (free stream live)
  rw [entered_cleanup sound]
  refine sound.unnoticed ⟨rfl, ?_, le_succ _, rfl, subset_rfl, List.Subset.refl _, ?_, ?_, ?_, rfl⟩
  · intro key
    change ((hub.proxyToLocal.insert (conn, streamId) hub.nextLocalStreamId).erase
      (conn, streamId)).lookup key = _
    by_cases here : key = (conn, streamId)
    · rw [here, AList.lookup_erase, absent]
    · rw [AList.lookup_erase_ne here, AList.lookup_insert_ne here]
  · intro other _
    by_cases same : other = conn
    · subst other
      simp [updateConn, entered_conns, ProxyConn.releaseStream, count, most]
    · simp [updateConn, same, entered_conns]
  · intro stream older
    exact entered_key older
  · intro stream older
    simp [updateConn, entered, insertStream, older.ne]

theorem Sound.openLocalStream (sound : Sound hub) {nodeId : String} {candidates}
    {encoded sent} (allowed : hub.Allowed (.openStream nodeId candidates encoded sent))
    (free : hub.FreeId (.openStream nodeId candidates encoded sent)) :
    Sound (hub.openLocalStream nodeId candidates encoded sent).1 := by
  unfold HubRouter.openLocalStream
  split
  · exact sound
  · split
    · exact sound
    · next conn streamId after selected =>
      obtain ⟨member, allocated⟩ := selectCandidate_spec selected
      have known := sound.nodes _ (allowed conn member).1
      cases encoded with
      | error message =>
        obtain ⟨-, count, -, most⟩ := allocStreamId_spec allocated
        refine sound.unnoticed { Unnoticed.refl hub with counts := fun other _ => ?_ }
        by_cases same : other = conn
        · subst other
          simp [updateConn, ProxyConn.releaseStream, count, most]
        · simp [updateConn, same]
      | ok _ =>
        have unused := free conn streamId after selected
        cases sent with
        | queued => exact sound.enters known allocated unused
        | closed | congested =>
          have withdrawn := sound.withdraws allocated unused
          rw [entered_cleanup sound] at withdrawn
          change Sound (commitStream (entered hub conn streamId after)
            hub.nextLocalStreamId conn streamId _).1
          rw [commitStream, entered_cleanup sound]
          exact withdrawn

end Open

/-! ## Frames and receivers -/

theorem updateStream_unnoticed {hub stream value}
    (conn : value.proxyConnId = (hub.streams stream).proxyConnId)
    (streamId : value.proxyStreamId = (hub.streams stream).proxyStreamId)
    (terminal : value.stream.terminal = (hub.streams stream).stream.terminal) :
    Unnoticed hub (hub.updateStream stream value) := by
  refine { Unnoticed.refl hub with keys := ?_, terminal := ?_ } <;> intro other _ <;>
    by_cases same : other = stream
  · subst other
    simp [keyOf, updateStream, conn, streamId]
  · simp [keyOf, updateStream, same]
  · subst other
    simpa [updateStream] using terminal
  · simp [updateStream, same]

theorem setResponseHeaders_kept (stream : HubStream) (head : ResponseMeta) :
    (stream.setResponseHeaders head).proxyConnId = stream.proxyConnId ∧
      (stream.setResponseHeaders head).proxyStreamId = stream.proxyStreamId ∧
      (stream.setResponseHeaders head).stream = stream.stream := by
  unfold HubStream.setResponseHeaders
  split <;> exact ⟨rfl, rfl, rfl⟩

theorem pushBodyChunk_terminal (stream : LocalStream) (payload : Bytes) :
    (stream.pushBodyChunk payload).1.terminal = stream.terminal := by
  unfold LocalStream.pushBodyChunk
  split <;> rfl

section

variable (sound : Sound hub)
include sound

theorem Sound.routeResponseHeaders (readers : PayloadReaders) (conn : Nat) (header : FrameHeader)
    (data : Bytes) : Sound (routeResponseHeaders readers hub conn header data) := by
  unfold HubRouter.routeResponseHeaders
  dsimp only
  split
  · exact sound
  · next stream found =>
    split
    · exact sound.failProxyStream _ _ _
    · split
      · exact sound.failProxyStream _ _ _
      · next head _ =>
        split
        · obtain ⟨sameConn, sameId, same⟩ := setResponseHeaders_kept (hub.streams stream) head
          have updated := sound.unnoticed (updateStream_unnoticed sameConn sameId (by rw [same]))
          exact updated.given found (.inl rfl)
        · exact sound

theorem Sound.routeResponseBody (readers : PayloadReaders) (conn : Nat) (header : FrameHeader)
    (data : Bytes) (sent : SendStatus) :
    Sound (routeResponseBody readers hub conn header data sent) := by
  unfold HubRouter.routeResponseBody
  dsimp only
  split
  · exact sound
  · next stream found =>
    split
    · exact sound.failProxyStream _ _ _
    · next payload _ =>
      split
      · have terminal := pushBodyChunk_terminal (hub.streams stream).stream payload
        split
        · next after pushed =>
          rw [pushed] at terminal
          have updated : Sound (hub.updateStream stream
              { hub.streams stream with stream := after }) :=
            sound.unnoticed (updateStream_unnoticed rfl rfl terminal)
          exact updated.given found (.inr ⟨payload, rfl⟩)
        · next after pushed =>
          rw [pushed] at terminal
          have updated : Sound (hub.updateStream stream
              { hub.streams stream with stream := after }) :=
            sound.unnoticed (updateStream_unnoticed rfl rfl terminal)
          exact updated.cancelLocalStream _ _ _
      · exact sound

theorem Sound.handleGoAway (readers : PayloadReaders) (conn : Nat) (header : FrameHeader)
    (data : Bytes) (order : List Nat) :
    Sound (handleGoAway readers hub conn header data order) := by
  have drains : Sound (hub.updateConn conn fun conn => { conn with draining := true }) :=
    sound.unnoticed (updateConn_unnoticed hub conn fun _ => ⟨rfl, rfl⟩)
  unfold HubRouter.handleGoAway
  split
  · dsimp only
    split
    · exact drains
    · exact drains.resetStreams _ _ _
  · exact sound

theorem Sound.handleSettings (readers : PayloadReaders) (localSettings : SettingsPayload)
    (conn : Nat) (header : FrameHeader) (data : Bytes) :
    Sound (handleSettings readers localSettings hub conn header data) := by
  refine sound.unnoticed (withConn_unnoticed hub conn fun conn => ?_)
  split
  · exact ⟨rfl, rfl⟩
  · split
    · exact ⟨rfl, rfl⟩
    · dsimp only
      split <;> exact ⟨rfl, rfl⟩

theorem Sound.handleProxyFrame (readers : PayloadReaders) (localSettings : SettingsPayload)
    (conn : Nat) (data : Bytes) (sent : SendStatus) (order : List Nat) :
    Sound (hub.handleProxyFrame readers localSettings conn data sent order) := by
  unfold HubRouter.handleProxyFrame
  split
  · split
    · split
      · exact sound.failProxyStream _ _ _
      · exact sound
    · split
      · exact sound.routeResponseHeaders ..
      · exact sound.routeResponseBody ..
      · exact sound.finishProxyStream ..
      · exact sound.failProxyStream ..
      · exact sound.failProxyStream ..
      · exact sound.handleGoAway ..
      · exact sound.handleSettings ..
      · exact sound.unnoticed (withConn_unnoticed hub conn fun _ => ⟨rfl, rfl⟩)
      · exact sound
  · exact sound

theorem Sound.receiverStep (stream : Nat) (body : ResponseBuffer) :
    Sound (hub.receiverStep stream body) :=
  sound.unnoticed (updateStream_unnoticed rfl rfl rfl)

end

variable {readers : PayloadReaders} {localSettings : SettingsPayload}

theorem Sound.act (sound : Sound hub) {action} (allowed : hub.Allowed action)
    (free : hub.FreeId action) : Sound (hub.act readers localSettings action) := by
  cases action with
  | register nodeId maxStreams settings => exact sound.registerProxy nodeId maxStreams settings
  | unregister conn nodeId order => exact sound.unregisterProxy conn nodeId order
  | openStream nodeId candidates encoded sent => exact sound.openLocalStream allowed free
  | cancel stream reason sent => exact sound.cancelLocalStream stream reason sent
  | frame conn data sent order =>
    exact sound.handleProxyFrame readers localSettings conn data sent order
  | drainDeadline conn reason order => exact sound.resetStreams conn _ order
  | close conn => exact sound.unnoticed (updateConn_unnoticed hub conn fun _ => ⟨rfl, rfl⟩)
  | recv stream =>
    simp only [HubRouter.act]
    split
    · exact sound.receiverStep stream _
    · exact sound
  | dropReceiver stream => exact sound.receiverStep stream _

/-! ## Runs -/

structure Separate (hub : HubRouter) : Prop where
  oneToOne : ∀ key stream, hub.proxyToLocal.lookup key = some stream ↔
    stream ∈ hub.localStreams ∧ key = hub.keyOf stream
  distinct : ∀ first ∈ hub.localStreams, ∀ second ∈ hub.localStreams,
    hub.keyOf first = hub.keyOf second → first = second
  counts : ∀ conn ∈ hub.registered, (hub.conns conn).streamCount = (hub.liveOn conn).card ∧
    (hub.conns conn).streamCount ≤ (hub.conns conn).maxStreams
  outcome : ∀ stream conn streamId, .opened stream conn streamId ∈ hub.log →
    hub.keyOf stream = (conn, streamId) ∧
      (stream ∉ hub.localStreams ↔ ∃ result, .ended stream result ∈ hub.log)
  history : History.Each Proper hub.log

theorem Sound.separate (sound : Sound hub) : Separate hub where
  oneToOne := sound.entries
  distinct := fun _ left _ right same => sound.distinct left right same
  counts := sound.counts
  outcome := by
    intro stream conn streamId opened
    refine ⟨(sound.opened _ _ _ opened).2, ?_⟩
    rw [sound.live]
    constructor
    · intro gone
      by_contra unended
      exact gone ⟨⟨conn, streamId, opened⟩, fun result member => unended ⟨result, member⟩⟩
    · rintro ⟨result, ended⟩ ⟨-, unended⟩
      exact unended result ended
  history := sound.history

/-- A call, made while the id it would hand out is free. -/
def FreeStep (readers : PayloadReaders) (localSettings : SettingsPayload)
    (before after : HubRouter) : Prop :=
  ∃ action, before.Allowed action ∧ before.FreeId action ∧
    after = before.act readers localSettings action

/-- A hub that reads no payloads, and the settings of its one connection. -/
def silentReaders : PayloadReaders :=
  ⟨fun _ _ _ => none, fun _ => none, fun _ => "stream error", fun _ => "stream reset",
    fun _ => none, fun _ => none⟩

def sampleSettings : SettingsPayload := ⟨65536, 16384, 30000⟩

/-- A connection is registered, a stream opened on it, and the stream cancelled. -/
def sampleRun : HubRouter :=
  ((new.act silentReaders sampleSettings (.register "node" 2 sampleSettings)).act
    silentReaders sampleSettings (.openStream "node" [1] (.ok ()) .queued)).act
    silentReaders sampleSettings (.cancel 1 "done" .queued)

section Wrapping

/-- Stream 1 is live under the id 2 of connection 1, which hands out `next` next. -/
structure Turning (next : Nat) (hub : HubRouter) : Prop where
  reaches : Reaches silentReaders sampleSettings hub
  conn : hub.conns 1 = ⟨"node", next, 1, 2, false, false, sampleSettings⟩
  nodes : hub.nodeConns = [("node", 1)]
  registered : hub.registered = {1}
  live : hub.localStreams = {1}
  key : hub.keyOf 1 = (1, 2)
  fresh : 1 < hub.nextLocalStreamId

def nextId (next : Nat) : Nat := if next ≥ 0xFFFFFFFE then 2 else next + 2

theorem Turning.opens {next} (turning : Turning next hub) : Reaches silentReaders sampleSettings
      ((entered hub 1 next ⟨"node", nextId next, 2, 2, false, false, sampleSettings⟩).record
        (.opened hub.nextLocalStreamId 1 next)) := by
  refine turning.reaches.tail ⟨.openStream "node" [1] (.ok ()) .queued, ?_, ?_⟩
  · intro conn member
    rw [mem_singleton.mp member, turning.nodes, turning.conn]
    exact ⟨by simp, rfl⟩
  · have selected : hub.selectCandidate [1] = some (1, next,
        ⟨"node", nextId next, 2, 2, false, false, sampleSettings⟩) := by
      simp [selectCandidate, turning.conn, ProxyConn.allocStreamId, ProxyConn.isAvailable, nextId]
    simp only [HubRouter.act, HubRouter.openLocalStream, selected, if_false, cons_ne_nil]
    rfl

theorem stop_frame (hub : HubRouter) (stream : Nat) (error : String) (result) :
    ∃ streams log, hub.stop stream error result = { hub with streams, log } := by
  unfold stop
  split <;> exact ⟨_, _, rfl⟩

theorem Turning.turns {next} (turning : Turning next hub) :
    ∃ after, Turning (nextId next) after := by
  let opened := (entered hub 1 next ⟨"node", nextId next, 2, 2, false, false, sampleSettings⟩).record
    (.opened hub.nextLocalStreamId 1 next)
  have reaches : Reaches silentReaders sampleSettings
      (opened.cancelLocalStream hub.nextLocalStreamId "done" .queued) :=
    turning.opens.tail ⟨.cancel hub.nextLocalStreamId "done" .queued, trivial, rfl⟩
  have live : opened.localStreams = {hub.nextLocalStreamId, 1} := by
    change insert hub.nextLocalStreamId hub.localStreams = _
    rw [turning.live]
  have key : opened.keyOf hub.nextLocalStreamId = (1, next) := entered_own_key
  have conns : opened.conns 1 = ⟨"node", nextId next, 2, 2, false, false, sampleSettings⟩ := by
    simp [opened, record, entered, insertStream, updateConn]
  let cut : HubRouter := updateConn
    { opened with
      localStreams := opened.localStreams.erase hub.nextLocalStreamId
      proxyToLocal := opened.proxyToLocal.erase (opened.keyOf hub.nextLocalStreamId) } 1 .releaseStream
  have cancelled : opened.cancelLocalStream hub.nextLocalStreamId "done" .queued =
      cut.stop hub.nextLocalStreamId "done" (.error "done") := by
    have registered : 1 ∈ opened.registered := by
      change 1 ∈ hub.registered
      simp [turning.registered]
    have member : hub.nextLocalStreamId ∈ opened.localStreams := by simp [live]
    have onOne : (opened.streams hub.nextLocalStreamId).proxyConnId = 1 := congrArg Prod.fst key
    simp only [HubRouter.cancelLocalStream, member, if_true, onOne, withConn, registered,
      fail, cut, keyOf]
  have keys := stop_keyOf cut hub.nextLocalStreamId "done" (.error "done") 1
  obtain ⟨streams, log, same⟩ := stop_frame cut hub.nextLocalStreamId "done" (.error "done")
  rw [cancelled] at reaches
  rw [same] at reaches keys
  refine ⟨_, reaches, ?_, turning.nodes, turning.registered, ?_, ?_, ?_⟩
  · simp [cut, updateConn, conns, ProxyConn.releaseStream]
  · change opened.localStreams.erase hub.nextLocalStreamId = {1}
    rw [live, Finset.erase_insert (by simpa using turning.fresh.ne')]
  · rw [keys]
    exact (entered_key turning.fresh).trans turning.key
  · exact turning.fresh.trans (lt_succ_self _)

theorem turning_start : ∃ hub, Turning 4 hub := by
  let registered := new.registerProxy (.new "node" 2 sampleSettings)
  have first : Reaches silentReaders sampleSettings registered :=
    .single ⟨.register "node" 2 sampleSettings, trivial, rfl⟩
  have second := first.tail ⟨.openStream "node" [1] (.ok ()) .queued, ?_, rfl⟩
  · exact ⟨_, second, rfl, rfl, rfl, rfl, rfl, by decide⟩
  · intro conn member
    rw [mem_singleton.mp member]
    exact ⟨by decide, rfl⟩

theorem turning_rounds (rounds : Nat) (within : 4 + 2 * rounds ≤ 0xFFFFFFFE) :
    ∃ hub, Turning (4 + 2 * rounds) hub := by
  induction rounds with
  | zero => exact turning_start
  | succ rounds ih =>
    obtain ⟨hub, turning⟩ := ih (by omega)
    have next : nextId (4 + 2 * rounds) = 4 + 2 * (rounds + 1) := by
      rw [nextId, if_neg (by omega)]
      omega
    rw [← next]
    exact turning.turns

end Wrapping

end Aeris.Tunnel.HubRouter
