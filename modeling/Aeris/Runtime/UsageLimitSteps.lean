import Aeris.Runtime.UsageLimits

/-! What each part of a usage-limit call does to the events that are recorded. An
event counts under a rule until its admission is a whole window old, so it is a
lease of that length; pruning drops leases that have ended and no others. -/
namespace Aeris.Runtime

open RustStd Settlement Lease List Option OrderedTable Nat

/-- What a rule key stands for, whoever uses it. -/
structure RuleShape where
  limit : Nat
  windowSeconds : Nat

abbrev Shapes := String → RuleShape

def Shapes.span (shapes : Shapes) (key : String) : Nat := (shapes key).windowSeconds * 1000

abbrev Entry := String × String

namespace MemoryUsageLimitState

def recorded (state : MemoryUsageLimitState) (entry : Entry) : Option Nat :=
  (state.windows.get? entry.1).bind (fun window => window.events.get? entry.2)

end MemoryUsageLimitState

/-- Admission times as leases that last for a window. -/
def leases (shapes : Shapes) (admissions : Entry → Option Nat) (entry : Entry) : Option Nat :=
  (admissions entry).map (fun timestamp => timestamp + shapes.span entry.1)

open MemoryUsageLimitState

variable {shapes : Shapes} {now : Nat}

/-! ## One window -/

/-- What is kept true of a window under a key with the given length and limit. -/
structure WindowSound (span limit now : Nat) (window : MemoryUsageLimitWindow) : Prop where
  windowMs : window.windowMs = span
  nonempty : window.events.size ≠ 0
  within : window.events.size ≤ limit
  recent : ∀ event timestamp, window.events.get? event = some timestamp →
    timestamp ≤ now ∧ timestamp + span ≤ window.expiresAtUnixMs
  small : window.expiresAtUnixMs ≤ maxRedisLuaExactInteger

variable {window : MemoryUsageLimitWindow}

variable {limit : Nat}

theorem WindowSound.later {span now later} (sound : WindowSound span limit now window)
    (order : now ≤ later) : WindowSound span limit later window where
  windowMs := sound.windowMs
  nonempty := sound.nonempty
  within := sound.within
  recent := by
    intro event timestamp found
    obtain ⟨past, lasts⟩ := sound.recent event timestamp found
    exact ⟨past.trans order, lasts⟩
  small := sound.small

/-- The window with fewer events, but some. -/
structure Shrunk (window kept : MemoryUsageLimitWindow) : Prop where
  windowMs : kept.windowMs = window.windowMs
  expires : kept.expiresAtUnixMs = window.expiresAtUnixMs
  nonempty : kept.events.size ≠ 0
  fewer : kept.events.size ≤ window.events.size
  events : ∀ event timestamp, kept.events.get? event = some timestamp →
    window.events.get? event = some timestamp

theorem Shrunk.sound {span now kept} (shrunk : Shrunk window kept)
    (sound : WindowSound span limit now window) : WindowSound span limit now kept where
  windowMs := shrunk.windowMs.trans sound.windowMs
  nonempty := shrunk.nonempty
  within := shrunk.fewer.trans sound.within
  recent := by
    intro event timestamp found
    rw [shrunk.expires]
    exact sound.recent event timestamp (shrunk.events event timestamp found)
  small := shrunk.expires.trans_le sound.small

def Fresh (span now : Nat) (window : MemoryUsageLimitWindow) : Prop :=
  ∀ event timestamp, window.events.get? event = some timestamp → now < timestamp + span

theorem pruneUsageLimitEvents_get? (events : OrderedTable String Nat) (now span : Nat)
    (event : String) : (pruneUsageLimitEvents events now span).get? event =
      (events.get? event).filter (fun timestamp => now < timestamp + span) := by
  unfold pruneUsageLimitEvents
  by_cases whole : span ≤ now
  · rw [if_pos whole, get?_retain]
    congr 1
    funext timestamp
    exact decide_eq_decide.mpr (by omega)
  · rw [if_neg whole]
    cases events.get? event with
    | none => rfl
    | some timestamp => rw [filter_some, if_pos (decide_eq_true (by omega))]

theorem pruneWindow_none {span now} (sound : WindowSound span limit now window)
    (gone : pruneWindow now window = none) :
    ∀ event timestamp, window.events.get? event = some timestamp → timestamp + span ≤ now := by
  intro event timestamp found
  unfold pruneWindow at gone
  by_cases expired : window.expiresAtUnixMs ≤ now
  · exact (sound.recent event timestamp found).2.trans expired
  · dsimp only at gone
    split_ifs at gone with none_
    by_contra alive
    have kept : (pruneUsageLimitEvents window.events now window.windowMs).get? event =
        some timestamp := by
      rw [pruneUsageLimitEvents_get?, sound.windowMs, found, filter_some,
        if_pos (decide_eq_true (by omega))]
    rw [get?_eq_some_iff, length_eq_zero_iff.mp none_] at kept
    cases kept

theorem pruneWindow_some {span now window kept}
    (sound : WindowSound span limit now window) (stays : pruneWindow now window = some kept) :
    Shrunk window kept ∧ Fresh span now kept ∧ ∀ event, kept.events.get? event =
      (window.events.get? event).filter (fun timestamp => now < timestamp + span) := by
  unfold pruneWindow at stays
  split_ifs at stays with expired
  dsimp only at stays
  split_ifs at stays with none_
  cases stays
  have events : ∀ event, (pruneUsageLimitEvents window.events now window.windowMs).get? event =
      (window.events.get? event).filter (fun timestamp => now < timestamp + span) := by
    intro event
    rw [pruneUsageLimitEvents_get?, sound.windowMs]
  have fewer : (pruneUsageLimitEvents window.events now window.windowMs).size ≤
      window.events.size := by
    unfold pruneUsageLimitEvents
    split
    · exact size_retain_le _ _
    · exact le_rfl
  refine ⟨⟨rfl, rfl, none_, fewer, ?_⟩, ?_, events⟩
  all_goals
    intro event timestamp found
    rw [events, filter_eq_some_iff] at found
  · exact found.1
  · exact of_decide_eq_true found.2

/-! ## The cached expiry -/

/-- The cached expiry is there and comes no later than the time. -/
def Bounds (next : Option Nat) (time : Nat) :
    Prop := ∃ earliest, next = some earliest ∧ earliest ≤ time

theorem updateEarliestExpiry_self (current : Option Nat) (candidate : Nat) :
    Bounds (updateEarliestExpiry current candidate) candidate := by
  cases current with
  | none => exact ⟨candidate, rfl, le_rfl⟩
  | some existing => exact ⟨min existing candidate, rfl, min_le_right _ _⟩

variable {time : Nat}

variable {current : Option Nat}

theorem updateEarliestExpiry_old (candidate : Nat) (bounds : Bounds current time) :
    Bounds (updateEarliestExpiry current candidate) time := by
  obtain ⟨earliest, rfl, order⟩ := bounds
  exact ⟨min earliest candidate, rfl, (min_le_left _ _).trans order⟩

theorem foldl_expiry_old (windowMs : Nat) (timestamps : List Nat) :
    ∀ {current}, Bounds current time →
      Bounds (timestamps.foldl (fun current timestamp =>
        updateEarliestExpiry current (saturatingAdd timestamp windowMs)) current) time := by
  induction timestamps with
  | nil => intro current bounds; exact bounds
  | cons timestamp rest ih =>
    intro current bounds
    exact ih (updateEarliestExpiry_old _ bounds)

theorem foldl_expiry_mem (windowMs : Nat) (timestamps : List Nat) :
    ∀ current, ∀ timestamp ∈ timestamps,
      Bounds (timestamps.foldl (fun current timestamp =>
        updateEarliestExpiry current (saturatingAdd timestamp windowMs)) current)
          (saturatingAdd timestamp windowMs) := by
  induction timestamps with
  | nil => intro current timestamp member; cases member
  | cons first rest ih =>
    intro current timestamp member
    rcases mem_cons.mp member with rfl | member
    · exact foldl_expiry_old windowMs rest (updateEarliestExpiry_self _ _)
    · exact ih _ timestamp member

/-- The cached expiry is a lower bound for a window and all of its events. -/
structure ExpiryBounded (next : Option Nat) (window : MemoryUsageLimitWindow) : Prop where
  whole : Bounds next window.expiresAtUnixMs
  events : ∀ event timestamp, window.events.get? event = some timestamp →
    Bounds next (saturatingAdd timestamp window.windowMs)

theorem updateWindowExpiry_old (window : MemoryUsageLimitWindow) (bounds : Bounds current time) :
    Bounds (updateWindowExpiry current window) time :=
  foldl_expiry_old _ _ (updateEarliestExpiry_old _ bounds)

theorem updateWindowExpiry_self (current : Option Nat) (window : MemoryUsageLimitWindow) :
    ExpiryBounded (updateWindowExpiry current window) window where
  whole := foldl_expiry_old _ _ (updateEarliestExpiry_self _ _)
  events := by
    intro event timestamp found
    exact foldl_expiry_mem _ _ _ timestamp ((mem_values _ _).mpr ⟨event, found⟩)

theorem ExpiryBounded.keep {next} (bounded : ExpiryBounded current window)
    (lower : ∀ time, Bounds current time → Bounds next time) : ExpiryBounded next window :=
  ⟨lower _ bounded.whole, fun event timestamp found =>
    lower _ (bounded.events event timestamp found)⟩

theorem Shrunk.bounded {next kept} (shrunk : Shrunk window kept)
    (bounded : ExpiryBounded next window) : ExpiryBounded next kept where
  whole := shrunk.expires ▸ bounded.whole
  events := by
    intro event timestamp found
    rw [shrunk.windowMs]
    exact bounded.events event timestamp (shrunk.events event timestamp found)

theorem foldl_windows_bounded (windows : List MemoryUsageLimitWindow) :
    ∀ current, (∀ time, Bounds current time → Bounds
      (windows.foldl updateWindowExpiry current) time) ∧
      ∀ window ∈ windows, ExpiryBounded (windows.foldl updateWindowExpiry current) window := by
  induction windows with
  | nil =>
    intro current
    refine ⟨fun _ bounds => bounds, ?_⟩
    intro window member
    cases member
  | cons first rest ih =>
    intro current
    obtain ⟨old, members⟩ := ih (updateWindowExpiry current first)
    constructor
    · intro time bounds
      exact old time (updateWindowExpiry_old first bounds)
    · intro window member
      rcases mem_cons.mp member with rfl | member
      · exact (updateWindowExpiry_self current window).keep old
      · exact members window member

/-! ## The whole state -/

structure StateSound (shapes : Shapes) (now : Nat) (state : MemoryUsageLimitState) : Prop where
  windows : ∀ key window, state.windows.get? key = some window →
    WindowSound (shapes.span key) (shapes key).limit now window
  counted : state.totalEvents = state.windows.total (fun window => window.events.size)
  expiry : ∀ key window, state.windows.get? key = some window →
    ExpiryBounded state.nextExpiryUnixMs window

variable {state : MemoryUsageLimitState}

theorem StateSound.later {later} (sound : StateSound shapes now state) (order : now ≤ later) :
    StateSound shapes later state where
  windows := fun key window found => (sound.windows key window found).later order
  counted := sound.counted
  expiry := sound.expiry

/-- Each window is as it was or shrunk, and the cached expiry came no later. -/
theorem StateSound.shrink {next} (sound : StateSound shapes now state)
    (stored : ∀ key kept, next.windows.get? key = some kept →
      ∃ window, state.windows.get? key = some window ∧ (kept = window ∨ Shrunk window kept))
    (counted : next.totalEvents = next.windows.total (fun window => window.events.size))
    (lower : ∀ time, Bounds state.nextExpiryUnixMs time → Bounds next.nextExpiryUnixMs time) :
    StateSound shapes now next where
  windows := by
    intro key kept found
    obtain ⟨window, present, rfl | shrunk⟩ := stored key kept found
    · exact sound.windows key _ present
    · exact shrunk.sound (sound.windows key window present)
  counted := counted
  expiry := by
    intro key kept found
    obtain ⟨window, present, rfl | shrunk⟩ := stored key kept found
    · exact (sound.expiry key _ present).keep lower
    · exact shrunk.bounded ((sound.expiry key window present).keep lower)

/-- What pruning does: nothing that counts is lost, and nothing is added. -/
structure Pruned (shapes : Shapes) (now : Nat) (state next : MemoryUsageLimitState) : Prop where
  agree : Agree now (leases shapes state.recorded) (leases shapes next.recorded)
  subset : ∀ entry timestamp, next.recorded entry = some timestamp →
    state.recorded entry = some timestamp
  fewerWindows : next.windows.size ≤ state.windows.size
  fewerEvents : next.totalEvents ≤ state.totalEvents

theorem Pruned.refl (state : MemoryUsageLimitState) : Pruned shapes now state state :=
  ⟨.refl now _, fun _ _ found => found, le_rfl, le_rfl⟩

theorem Pruned.trans {first second third}
    (left : Pruned shapes now first second) (right : Pruned shapes now second third) :
    Pruned shapes now first third :=
  ⟨left.agree.trans right.agree,
    fun entry timestamp found => left.subset entry timestamp (right.subset entry timestamp found),
    right.fewerWindows.trans left.fewerWindows, right.fewerEvents.trans left.fewerEvents⟩

theorem prune_recorded (shapes : Shapes) (now : Nat) (before after : Entry → Option Nat)
    (kept : ∀ entry, after entry = before entry ∨ after entry = (before entry).filter
      (fun timestamp => now < timestamp + shapes.span entry.1)) :
    Agree now (leases shapes before) (leases shapes after) ∧
      ∀ entry timestamp, after entry = some timestamp → before entry = some timestamp := by
  constructor
  · intro entry
    rcases kept entry with same | same
    · rw [leases, leases, same]
    · rw [leases, leases, same]
      cases before entry with
      | none => rfl
      | some timestamp =>
        by_cases alive : now < timestamp + shapes.span entry.1
        · simp [filter_some, alive]
        · simp [filter_some, alive, live]
  · intro entry timestamp found
    rcases kept entry with same | same
    · exact same ▸ found
    · rw [same, filter_eq_some_iff] at found
      exact found.1

/-! ## Pruning -/

theorem foldl_sizes (windows : List MemoryUsageLimitWindow) : ∀ start,
    windows.foldl (fun total window => total + window.events.size) start =
      start + (windows.map (·.events.size)).sum := by
  induction windows with
  | nil => intro start; rfl
  | cons window rest ih =>
    intro start
    rw [foldl_cons, ih, map_cons, sum_cons, add_assoc]

theorem pruneAll_get? (state : MemoryUsageLimitState) (now : Nat) (key : String) :
    (state.pruneAll now).windows.get? key = (state.windows.get? key).bind (pruneWindow now) :=
  get?_filterMap _ _ key

theorem total_pruned_le (now : Nat) (entries : List (String × MemoryUsageLimitWindow))
    (smaller : ∀ entry ∈ entries, ∀ kept, pruneWindow now entry.2 = some kept →
      kept.events.size ≤ entry.2.events.size) :
    ((entries.filterMap (fun entry => (pruneWindow now entry.2).map (entry.1, ·))).map
        (·.2.events.size)).sum ≤ (entries.map (·.2.events.size)).sum := by
  induction entries with
  | nil => exact le_rfl
  | cons entry rest ih =>
    have later := ih (fun other member => smaller other (mem_cons_of_mem _ member))
    cases found : pruneWindow now entry.2 with
    | none =>
      simp only [filterMap_cons, found, map_none, map_cons, sum_cons]
      omega
    | some kept =>
      have fewer := smaller entry mem_cons_self kept found
      simp only [filterMap_cons, found, map_some, map_cons, sum_cons]
      omega

theorem pruneAll_recorded (sound : StateSound shapes now state) (entry : Entry) :
    (state.pruneAll now).recorded entry = (state.recorded entry).filter
      (fun timestamp => now < timestamp + shapes.span entry.1) := by
  unfold recorded
  rw [pruneAll_get?]
  cases found : state.windows.get? entry.1 with
  | none => rfl
  | some window =>
    have whole := sound.windows entry.1 window found
    cases pruned : pruneWindow now window with
    | none =>
      rw [bind_some, pruned, bind_none, bind_some, eq_comm, filter_eq_none_iff]
      intro timestamp present
      have ended := pruneWindow_none whole pruned entry.2 timestamp present
      simp only [decide_eq_true_eq]
      omega
    | some kept =>
      rw [bind_some, pruned, bind_some, bind_some]
      exact (pruneWindow_some whole pruned).2.2 entry.2

theorem pruneAll_spec (sound : StateSound shapes now state) :
    StateSound shapes now (state.pruneAll now) ∧ Pruned shapes now state (state.pruneAll now) ∧
      ∀ key window, (state.pruneAll now).windows.get? key = some window →
        Fresh (shapes.span key) now window := by
  have stays : ∀ key kept, (state.pruneAll now).windows.get? key = some kept →
      ∃ window, state.windows.get? key = some window ∧ pruneWindow now window = some kept := by
    intro key kept found
    rw [pruneAll_get?] at found
    exact bind_eq_some_iff.mp found
  have counted : (state.pruneAll now).totalEvents =
      (state.pruneAll now).windows.total (·.events.size) := by
    change List.foldl _ 0 _ = _
    rw [foldl_sizes, zero_add]
    rfl
  obtain ⟨agree, subset⟩ := prune_recorded shapes now _ _
    (fun entry => .inr (pruneAll_recorded sound entry))
  refine ⟨⟨?_, counted, ?_⟩, ⟨agree, subset, ?_, ?_⟩, ?_⟩
  · intro key kept found
    obtain ⟨window, present, pruned⟩ := stays key kept found
    have whole := sound.windows key window present
    exact (pruneWindow_some whole pruned).1.sound whole
  · intro key kept found
    exact (foldl_windows_bounded (state.pruneAll now).windows.values none).2 kept
      ((mem_values _ _).mpr ⟨key, found⟩)
  · exact length_filterMap_le _ _
  · rw [counted, sound.counted]
    have fewer := total_pruned_le now state.windows.entries (by
      rintro ⟨key, window⟩ member kept pruned
      have present := (state.windows.get?_eq_some_iff key window).mpr member
      exact (pruneWindow_some (sound.windows key window present) pruned).1.fewer)
    simpa [OrderedTable.total, OrderedTable.values, pruneAll, OrderedTable.filterMap,
      Function.comp_def] using fewer
  · intro key kept found
    obtain ⟨window, present, pruned⟩ := stays key kept found
    exact (pruneWindow_some (sound.windows key window present) pruned).2.1

theorem amortizedPrune_spec (sound : StateSound shapes now state) :
    StateSound shapes now (state.amortizedPrune now) ∧
      Pruned shapes now state (state.amortizedPrune now) := by
  have reset : ∀ operations,
      StateSound shapes now { state with operationsSincePrune := operations } :=
    fun _ => ⟨sound.windows, sound.counted, sound.expiry⟩
  have same : ∀ operations,
      Pruned shapes now state { state with operationsSincePrune := operations } :=
    fun _ => ⟨.refl now _, fun _ _ found => found, le_rfl, le_rfl⟩
  unfold amortizedPrune
  dsimp only
  split_ifs with soon due
  · exact ⟨reset _, same _⟩
  · obtain ⟨pruned, shrunk, _⟩ := pruneAll_spec (reset 0)
    exact ⟨pruned, (same 0).trans shrunk⟩
  · exact ⟨reset _, same _⟩

theorem pruneRuleWindow_bounds {key windowMs} (time : Nat)
    (bounds : Bounds state.nextExpiryUnixMs time) :
    Bounds (state.pruneRuleWindow key now windowMs).nextExpiryUnixMs time := by
  unfold pruneRuleWindow
  split
  · exact bounds
  · dsimp only
    split
    · exact bounds
    · exact updateWindowExpiry_old _ bounds

section

variable {key : String} {next : MemoryUsageLimitState}
  (called : state.pruneRuleWindow key now (shapes.span key) = next)
  (sound : StateSound shapes now state)

include called sound

theorem pruneRuleWindow_cases (found : state.windows.get? key = some window) :
    (pruneWindow now window = none ∧ next.windows = state.windows.erase key ∧
      next.totalEvents = state.totalEvents - window.events.size) ∨
    ∃ kept, pruneWindow now window = some kept ∧ next.windows = state.windows.insert key kept ∧
      next.totalEvents = state.totalEvents - (window.events.size - kept.events.size) := by
  subst called
  have length := (sound.windows key window found).windowMs
  unfold pruneRuleWindow pruneWindow
  rw [found, length]
  dsimp only
  by_cases expired : window.expiresAtUnixMs ≤ now
  · rw [if_pos expired, if_pos expired]
    exact .inl ⟨rfl, rfl, rfl⟩
  · rw [if_neg expired, if_neg expired]
    by_cases none_ : (pruneUsageLimitEvents window.events now (shapes.span key)).size = 0
    · rw [if_pos none_, if_pos none_, none_]
      exact .inl ⟨rfl, rfl, rfl⟩
    · rw [if_neg none_, if_neg none_]
      exact .inr ⟨_, rfl, rfl, rfl⟩

theorem pruneRuleWindow_get? (other : String) : next.windows.get? other =
      if other = key then (state.windows.get? key).bind (pruneWindow now)
      else state.windows.get? other := by
  cases found : state.windows.get? key with
  | none =>
    unfold pruneRuleWindow at called
    rw [found] at called
    subst called
    by_cases same : other = key
    · rw [if_pos same, same]
      exact found
    · rw [if_neg same]
  | some window =>
    rcases pruneRuleWindow_cases called sound found with
      ⟨gone, windows, _⟩ | ⟨kept, stays, windows, _⟩
    · rw [windows, get?_erase, bind_some, gone]
    · rw [windows, get?_insert, bind_some, stays]

theorem pruneRuleWindow_sizes : next.totalEvents = next.windows.total (·.events.size) ∧
      next.windows.size ≤ state.windows.size ∧ next.totalEvents ≤ state.totalEvents := by
  cases found : state.windows.get? key with
  | none =>
    unfold pruneRuleWindow at called
    rw [found] at called
    subst called
    exact ⟨sound.counted, le_rfl, le_rfl⟩
  | some window =>
    have counted := sound.counted
    rcases pruneRuleWindow_cases called sound found with
      ⟨_, windows, total⟩ | ⟨kept, pruned, windows, total⟩
    · have erased := state.windows.total_erase key (·.events.size)
      have fewer := state.windows.size_erase key
      rw [found, elim_some] at erased fewer
      rw [windows, total]
      omega
    · have written := state.windows.total_insert key kept (·.events.size)
      have same := state.windows.size_insert key kept
      have fewer := (pruneWindow_some (sound.windows key window found) pruned).1.fewer
      rw [found, elim_some] at written same
      rw [windows, total]
      omega

theorem pruneRuleWindow_spec : StateSound shapes now next ∧ Pruned shapes now state next ∧
      (∀ window, next.windows.get? key = some window → Fresh (shapes.span key) now window) ∧
      ∀ other, other ≠ key → next.windows.get? other = state.windows.get? other := by
  have lookup := pruneRuleWindow_get? called sound
  have stays : ∀ kept, next.windows.get? key = some kept →
      ∃ window, state.windows.get? key = some window ∧ pruneWindow now window = some kept := by
    intro kept present
    rw [lookup key, if_pos rfl] at present
    exact bind_eq_some_iff.mp present
  obtain ⟨agree, subset⟩ := prune_recorded shapes now state.recorded next.recorded (by
      intro entry
      by_cases same : entry.1 = key
      · right
        rw [← pruneAll_recorded sound entry]
        unfold recorded
        rw [lookup, if_pos same, pruneAll_get?, same]
      · left
        unfold recorded
        rw [lookup, if_neg same])
  obtain ⟨counted, fewerWindows, fewerEvents⟩ := pruneRuleWindow_sizes called sound
  refine ⟨sound.shrink ?_ counted ?_, ⟨agree, subset, fewerWindows, fewerEvents⟩, ?_, ?_⟩
  · intro other kept found
    by_cases same : other = key
    · subst same
      obtain ⟨window, present, pruned⟩ := stays kept found
      exact ⟨window, present, .inr (pruneWindow_some (sound.windows _ window present) pruned).1⟩
    · rw [lookup, if_neg same] at found
      exact ⟨kept, found, .inl rfl⟩
  · subst called
    exact fun time => pruneRuleWindow_bounds time
  · intro kept found
    obtain ⟨window, present, pruned⟩ := stays kept found
    exact (pruneWindow_some (sound.windows key window present) pruned).2.1
  · intro other different
    rw [lookup, if_neg different]

end

/-! ## Rules -/

/-- A validated rule of a shape that belongs to its key. -/
structure RuleFits (shapes : Shapes) (now : Nat) (rule : UsageLimitRule) : Prop where
  limit : rule.limit = (shapes rule.key).limit
  window : rule.windowSeconds = (shapes rule.key).windowSeconds
  positive : 0 < rule.limit
  retention : rule.windowSeconds ≤ rule.retentionSeconds
  small : now + rule.retentionSeconds * 1000 ≤ maxRedisLuaExactInteger

theorem saturatingAdd_exact {left right} (small : left + right ≤ maxRedisLuaExactInteger) :
    saturatingAdd left right = left + right :=
  min_eq_left (small.trans (by decide))

variable {rule : UsageLimitRule}

theorem RuleFits.windowMs (fits : RuleFits shapes now rule) :
    saturatingMul rule.windowSeconds 1000 = shapes.span rule.key := by
  have small := fits.small
  have shorter := fits.retention
  have bound : maxRedisLuaExactInteger ≤ u64Max := by decide
  unfold saturatingMul Shapes.span
  rw [← fits.window]
  omega

theorem RuleFits.expiresAt (fits : RuleFits shapes now rule) :
    saturatingAdd now (saturatingMul rule.retentionSeconds 1000) =
      now + rule.retentionSeconds * 1000 := by
  have small := fits.small
  have bound : maxRedisLuaExactInteger ≤ u64Max := by decide
  have exact_ : saturatingMul rule.retentionSeconds 1000 = rule.retentionSeconds * 1000 :=
    min_eq_left (by omega)
  rw [exact_]
  exact saturatingAdd_exact small

theorem RuleFits.span_le (fits : RuleFits shapes now rule) :
    shapes.span rule.key ≤ rule.retentionSeconds * 1000 := by
  unfold Shapes.span
  rw [← fits.window]
  exact mul_le_mul_right 1000 fits.retention

/-- The rule has room for the event, or has it already. -/
def Admissible (shapes : Shapes) (event : String) (now : Nat) (state : MemoryUsageLimitState)
    (rule : UsageLimitRule) : Prop :=
  ∀ window, state.windows.get? rule.key = some window →
    Fresh (shapes.span rule.key) now window ∧
      (window.events.contains event ∨ window.events.size < rule.limit)

/-- A rule is used up by other events, and after the wait one of them is too old. -/
def UsedUp (shapes : Shapes) (event : String) (now : Nat) (rules : List UsageLimitRule)
    (state : MemoryUsageLimitState) (index limit retryAfter : Nat) : Prop :=
  ∃ rule window, rules[index]? = some rule ∧ limit = rule.limit ∧
    state.windows.get? rule.key = some window ∧ Fresh (shapes.span rule.key) now window ∧
    window.events.get? event = none ∧ rule.limit ≤ window.events.size ∧
    ∃ other timestamp, window.events.get? other = some timestamp ∧
      timestamp + shapes.span rule.key ≤ now + retryAfter * 1000

inductive Checked (shapes : Shapes) (event : String) (now first : Nat)
    (rules : List UsageLimitRule) (state : MemoryUsageLimitState) :
    Option UsageLimitCheck × MemoryUsageLimitState → Prop where
  | passed (next : MemoryUsageLimitState) (sound : StateSound shapes now next)
      (pruned : Pruned shapes now state next)
      (admissible : ∀ rule ∈ rules, Admissible shapes event now next rule)
      (others : ∀ key, key ∉ rules.map UsageLimitRule.key →
        next.windows.get? key = state.windows.get? key) :
      Checked shapes event now first rules state (none, next)
  | rejected (next : MemoryUsageLimitState) (sound : StateSound shapes now next)
      (pruned : Pruned shapes now state next) (index : Nat) {limit retryAfter : Nat}
      (used : UsedUp shapes event now rules next index limit retryAfter) :
      Checked shapes event now first rules state
        (some (.rejected (first + index) limit retryAfter), next)

theorem retryAfter_soon {span} (sound : WindowSound span limit now window) :
    ∃ other timestamp, window.events.get? other = some timestamp ∧
      timestamp + span ≤ now + (saturatingAdd
        (saturatingAdd (window.events.values.min?.getD now) span - now) 999 / 1000) * 1000 := by
  have some_ : window.events.values ≠ [] := by
    intro none_
    apply sound.nonempty
    have empty := congrArg List.length none_
    simpa [OrderedTable.values, OrderedTable.size] using empty
  cases least : window.events.values.min? with
  | none => exact absurd (min?_eq_none_iff.mp least) some_
  | some earliest =>
    obtain ⟨other, found⟩ := (window.events.mem_values earliest).mp (min?_mem least)
    have lasts := (sound.recent other earliest found).2
    have small := sound.small
    have sum : saturatingAdd earliest span = earliest + span :=
      saturatingAdd_exact (lasts.trans small)
    refine ⟨other, earliest, found, ?_⟩
    have bound : maxRedisLuaExactInteger + 999 ≤ u64Max := by decide
    rw [getD_some, sum]
    unfold saturatingAdd
    omega

theorem checkRules_run (event : String) (rules : List UsageLimitRule) :
    ∀ (first : Nat) (state : MemoryUsageLimitState), StateSound shapes now state →
      (∀ rule ∈ rules, RuleFits shapes now rule) → (rules.map UsageLimitRule.key).Nodup →
      Checked shapes event now first rules state (checkRules event now first rules state) := by
  induction rules with
  | nil =>
    intro first state sound _ _
    exact .passed state sound (.refl state) (fun _ member => by cases member) (fun _ _ => rfl)
  | cons rule rest ih =>
    intro first state sound fits distinct
    obtain ⟨unused, distinct⟩ := nodup_cons.mp distinct
    have own := fits rule mem_cons_self
    rw [checkRules, own.windowMs]
    generalize called : state.pruneRuleWindow rule.key now (shapes.span rule.key) = after
    obtain ⟨prunedSound, pruned, fresh, others⟩ := pruneRuleWindow_spec called sound
    -- when this rule passes, the rest decides, and leaves this rule's window alone
    have onward : Admissible shapes event now after rule →
        Checked shapes event now first (rule :: rest) state
          (checkRules event now (first + 1) rest after) := by
      intro admissible
      have later := ih (first + 1) after prunedSound
        (fun other member => fits other (mem_cons_of_mem _ member)) distinct
      generalize checkRules event now (first + 1) rest after = result at later ⊢
      cases later with
      | passed next nextSound shrunk rest_ untouched =>
        apply Checked.passed next nextSound (pruned.trans shrunk)
        · intro other member
          rcases mem_cons.mp member with rfl | member
          · intro window found
            rw [untouched _ unused] at found
            exact admissible window found
          · exact rest_ other member
        · intro key missing
          rw [map_cons, mem_cons, not_or] at missing
          rw [untouched key missing.2, others key missing.1]
      | rejected next nextSound shrunk index used =>
        rw [add_right_comm, add_assoc]
        exact .rejected next nextSound (pruned.trans shrunk) (index + 1) used
    cases found : after.windows.get? rule.key with
    | none =>
      apply onward
      intro window present
      cases found.symm.trans present
    | some window =>
      dsimp only
      by_cases present : window.events.contains event
      · rw [if_pos present]
        apply onward
        intro other again
        cases found.symm.trans again
        exact ⟨fresh window found, .inl present⟩
      · rw [if_neg present]
        by_cases full : window.events.size ≥ rule.limit
        · rw [if_pos full]
          have absent := (contains_eq_false _ _).mp
            (Bool.eq_false_of_not_eq_true present)
          exact .rejected after prunedSound pruned 0 ⟨rule, window, rfl, rfl, found,
            fresh window found, absent, full,
            retryAfter_soon (prunedSound.windows rule.key window found)⟩
        · rw [if_neg full]
          apply onward
          intro other again
          cases found.symm.trans again
          exact ⟨fresh window found, .inr (Nat.lt_of_not_le full)⟩

end Aeris.Runtime
