import Aeris.Runtime.UsageLimitSteps

/-! What a whole call does to the recorded events: a check either prunes only, or
records its event under every rule; a release forgets its event. -/
namespace Aeris.Runtime

open RustStd Settlement Lease MemoryUsageLimitState List Option Nat OrderedTable
open OrderedTable (forall_insert get?_erase get?_insert mem_values)

variable {shapes : Shapes} {now : Nat} {state : MemoryUsageLimitState}

/-! ## Capacity -/

/-- Everything that is recorded still counts. -/
def AllFresh (shapes : Shapes) (now : Nat) (state : MemoryUsageLimitState) : Prop :=
  ∀ key window, state.windows.get? key = some window → Fresh (shapes.span key) now window

theorem allFresh_of_early (sound : StateSound shapes now state)
    (early : ¬ state.nextExpiryUnixMs.any (fun expiresAt => expiresAt ≤ now)) :
    AllFresh shapes now state := by
  intro key window found event timestamp present
  have whole := sound.windows key window found
  obtain ⟨earliest, cached, order⟩ := (sound.expiry key window found).events event timestamp present
  have lasts := (whole.recent event timestamp present).2
  rw [whole.windowMs, saturatingAdd_exact (lasts.trans whole.small)] at order
  simp only [cached, any_some, decide_eq_true_eq] at early
  omega

variable {rule : UsageLimitRule} {event : String}

theorem admissible_pruneAll
    (sound : StateSound shapes now state) (admissible : Admissible shapes event now state rule) :
    Admissible shapes event now (state.pruneAll now) rule := by
  intro kept found
  have fresh := (pruneAll_spec sound).2.2 rule.key kept found
  rw [pruneAll_get?] at found
  obtain ⟨window, present, pruned⟩ := bind_eq_some_iff.mp found
  obtain ⟨alive, room⟩ := admissible window present
  obtain ⟨shrunk, _, events⟩ := pruneWindow_some (sound.windows rule.key window present) pruned
  refine ⟨fresh, ?_⟩
  rcases room with has | room
  · left
    obtain ⟨timestamp, recorded⟩ := isSome_iff_exists.mp has
    rw [OrderedTable.contains, events, recorded, filter_some,
      if_pos (decide_eq_true (alive event timestamp recorded))]
    rfl
  · exact .inr (shrunk.fewer.trans_lt room)

theorem reclaimCapacity_spec (config : MemoryRuntimeStateConfig) {input}
    (sound : StateSound shapes input.nowUnixMs state)
    (admissible : ∀ rule ∈ input.rules, Admissible shapes input.eventId input.nowUnixMs state rule) :
    StateSound shapes input.nowUnixMs (state.reclaimCapacity config input) ∧
      Pruned shapes input.nowUnixMs state (state.reclaimCapacity config input) ∧
      (∀ rule ∈ input.rules, Admissible shapes input.eventId input.nowUnixMs
        (state.reclaimCapacity config input) rule) ∧
      ((state.reclaimCapacity config input).exceedsCapacity config
          ((state.reclaimCapacity config input).additionsFor input) →
        AllFresh shapes input.nowUnixMs (state.reclaimCapacity config input)) := by
  unfold reclaimCapacity
  split_ifs with pressed
  · obtain ⟨prunedSound, pruned, fresh⟩ := pruneAll_spec sound
    exact ⟨prunedSound, pruned, fun rule member => admissible_pruneAll sound
      (admissible rule member), fun _ => fresh⟩
  · refine ⟨sound, .refl state, admissible, ?_⟩
    intro exceeded
    exact allFresh_of_early sound (fun due => pressed ⟨exceeded, due⟩)

/-! ## Recording an event -/

theorem additionsFor_eq (input : UsageLimitInput) : state.additionsFor input =
      ((input.rules.map (fun rule => (state.additionFor input.eventId rule).1)).sum,
        (input.rules.map (fun rule => (state.additionFor input.eventId rule).2)).sum) := by
  have general : ∀ (rules : List UsageLimitRule) (start : Nat × Nat),
      rules.foldl (fun additions rule =>
        (additions.1 + (state.additionFor input.eventId rule).1,
          additions.2 + (state.additionFor input.eventId rule).2)) start =
      (start.1 + (rules.map (fun rule => (state.additionFor input.eventId rule).1)).sum,
        start.2 + (rules.map (fun rule => (state.additionFor input.eventId rule).2)).sum) := by
    intro rules
    induction rules with
    | nil => intro start; rfl
    | cons rule rest ih =>
      intro start
      rw [foldl_cons, ih]
      simp only [map_cons, sum_cons, add_assoc]
  have whole := general input.rules (0, 0)
  simp only [zero_add] at whole
  exact whole

theorem eventsOf_get? (key event : String) :
    (state.eventsOf key).get? event = state.recorded (key, event) := by
  unfold eventsOf recorded
  cases state.windows.get? key with
  | none => rfl
  | some window => rfl

/-- The window under a rule key once the event is recorded in it. -/
def consumedWindow (state : MemoryUsageLimitState) (event : String) (now : Nat)
    (rule : UsageLimitRule) : MemoryUsageLimitWindow where
  windowMs := saturatingMul rule.windowSeconds 1000
  expiresAtUnixMs := saturatingAdd now (saturatingMul rule.retentionSeconds 1000)
  events := if !(state.eventsOf rule.key).contains event then
    (state.eventsOf rule.key).insert event now else state.eventsOf rule.key

theorem consumeRule_windows (event : String) (rule : UsageLimitRule) :
    (state.consumeRule event now rule).windows =
      state.windows.insert rule.key (consumedWindow state event now rule) := rfl

theorem consumeRule_bounds {time} (bounds : Bounds state.nextExpiryUnixMs time) :
    Bounds (state.consumeRule event now rule).nextExpiryUnixMs time := by
  unfold consumeRule
  dsimp only
  split
  · exact updateEarliestExpiry_old _ (updateEarliestExpiry_old _ bounds)
  · exact updateEarliestExpiry_old _ bounds

theorem consumedWindow_get? (state : MemoryUsageLimitState) (now : Nat) (event other : String)
    (rule : UsageLimitRule) : (consumedWindow state event now rule).events.get? other =
      if other = event then some ((state.recorded (rule.key, event)).getD now)
      else state.recorded (rule.key, other) := by
  unfold consumedWindow
  cases found : state.recorded (rule.key, event) with
  | some timestamp =>
    have has : (state.eventsOf rule.key).contains event := by
      rw [OrderedTable.contains, eventsOf_get?, found]
      rfl
    rw [has]
    change (state.eventsOf rule.key).get? other = _
    rw [eventsOf_get?]
    split_ifs with same
    · rw [same, found, getD_some]
    · rfl
  | none =>
    have missing : (state.eventsOf rule.key).contains event = false := by
      rw [OrderedTable.contains, eventsOf_get?, found]
      rfl
    rw [missing]
    change ((state.eventsOf rule.key).insert event now).get? other = _
    rw [get?_insert, eventsOf_get?, getD_none]

theorem consumeRule_recorded (event : String) (rule : UsageLimitRule) (entry : Entry) :
    (state.consumeRule event now rule).recorded entry =
      if entry = (rule.key, event) then some ((state.recorded entry).getD now)
      else state.recorded entry := by
  obtain ⟨key, other⟩ := entry
  change ((state.consumeRule event now rule).windows.get? key).bind
    (fun window => window.events.get? other) = _
  rw [consumeRule_windows, get?_insert]
  by_cases sameKey : key = rule.key
  · subst sameKey
    rw [if_pos rfl, bind_some, consumedWindow_get?]
    by_cases same : other = event
    · subst same
      rw [if_pos rfl, if_pos rfl]
    · have different : (rule.key, other) ≠ (rule.key, event) :=
        fun equal => same (congrArg Prod.snd equal)
      rw [if_neg same, if_neg different]
  · have different : (key, other) ≠ (rule.key, event) :=
      fun equal => sameKey (congrArg Prod.fst equal)
    rw [if_neg sameKey, if_neg different]
    rfl

theorem consumeRule_sizes (state : MemoryUsageLimitState) (now : Nat) (event : String)
    (rule : UsageLimitRule) : (state.consumeRule event now rule).windows.size =
        state.windows.size + (state.additionFor event rule).1 ∧
      (state.consumeRule event now rule).totalEvents =
        state.totalEvents + (state.additionFor event rule).2 ∧
      (consumedWindow state event now rule).events.size =
        (state.eventsOf rule.key).size + (state.additionFor event rule).2 := by
  have grown := state.windows.size_insert rule.key (consumedWindow state event now rule)
  unfold additionFor
  cases found : state.windows.get? rule.key with
  | none =>
    have empty : state.eventsOf rule.key = .empty := by simp [eventsOf, found]
    rw [found, elim_none] at grown
    refine ⟨grown, ?_, ?_⟩
    · unfold consumeRule
      rw [empty]
      rfl
    · unfold consumedWindow
      rw [empty]
      rfl
  | some window =>
    have events : state.eventsOf rule.key = window.events := by simp [eventsOf, found]
    rw [found, elim_some] at grown
    unfold consumeRule consumedWindow at *
    rw [events] at grown ⊢
    dsimp only at grown ⊢
    cases has : window.events.contains event with
    | true =>
      rw [has] at grown
      exact ⟨Nat.succ.inj grown, rfl, rfl⟩
    | false =>
      rw [has] at grown
      refine ⟨Nat.succ.inj grown, rfl, ?_⟩
      have more := window.events.size_insert event now
      rw [(contains_eq_false _ _).mp has, elim_none] at more
      exact more

theorem consumedWindow_sound (sound : StateSound shapes now state) (fits : RuleFits shapes now rule)
    (admissible : Admissible shapes event now state rule) :
    WindowSound (shapes.span rule.key) (shapes rule.key).limit now
      (consumedWindow state event now rule) := by
  have own := consumedWindow_get? state now event event rule
  rw [if_pos rfl] at own
  constructor
  · exact fits.windowMs
  · intro none_
    rw [get?_eq_some_iff, length_eq_zero_iff.mp none_] at own
    cases own
  · rw [(consumeRule_sizes state now event rule).2.2, ← fits.limit]
    unfold additionFor eventsOf
    cases found : state.windows.get? rule.key with
    | none => exact fits.positive
    | some window =>
      have within := (sound.windows rule.key window found).within
      rw [← fits.limit] at within
      dsimp only [map_some, getD_some]
      split_ifs with has
      · exact within
      · exact (admissible window found).2.resolve_left has
  · intro other timestamp found
    have expires : (consumedWindow state event now rule).expiresAtUnixMs =
        now + rule.retentionSeconds * 1000 := fits.expiresAt
    have longer := fits.span_le
    have past : timestamp ≤ now := by
      have old : ∀ place time, state.recorded (rule.key, place) = some time → time ≤ now := by
        intro place time recorded
        obtain ⟨window, present, stored⟩ := bind_eq_some_iff.mp recorded
        exact ((sound.windows rule.key window present).recent place time stored).1
      rw [consumedWindow_get?] at found
      split_ifs at found with same
      · cases known : state.recorded (rule.key, event) with
        | none => rw [known] at found; cases found; exact le_rfl
        | some time => rw [known] at found; cases found; exact old event time known
      · exact old other timestamp found
    omega
  · exact fits.expiresAt.trans_le fits.small

theorem consumeRule_sound (sound : StateSound shapes now state) (fits : RuleFits shapes now rule)
    (admissible : Admissible shapes event now state rule) :
    StateSound shapes now (state.consumeRule event now rule) := by
  have whole := consumedWindow_sound sound fits admissible
  constructor
  · exact forall_insert whole sound.windows
  · have written := state.windows.total_insert rule.key (consumedWindow state event now rule)
      (·.events.size)
    have sizes := consumeRule_sizes state now event rule
    have before : (state.windows.get? rule.key).elim 0 (·.events.size) =
        (state.eventsOf rule.key).size := by
      unfold eventsOf
      cases state.windows.get? rule.key with
      | none => rfl
      | some window => rfl
    have counted := sound.counted
    rw [consumeRule_windows]
    omega
  · rw [consumeRule_windows]
    refine forall_insert ?_ fun key window found =>
      (sound.expiry key window found).keep (fun time => consumeRule_bounds)
    · constructor
      · unfold consumeRule
        dsimp only
        split
        · exact updateEarliestExpiry_old _ (updateEarliestExpiry_self _ _)
        · exact updateEarliestExpiry_self _ _
      · intro other timestamp present
        -- a time that was recorded before has its bound, a new one is added to it
        have old : state.recorded (rule.key, other) = some timestamp →
            Bounds (state.consumeRule event now rule).nextExpiryUnixMs
              (saturatingAdd timestamp (saturatingMul rule.windowSeconds 1000)) := by
          intro recorded
          obtain ⟨window, known, stored⟩ := bind_eq_some_iff.mp recorded
          have bounds := (sound.expiry rule.key window known).events other timestamp stored
          rw [(sound.windows rule.key window known).windowMs, ← fits.windowMs] at bounds
          exact consumeRule_bounds bounds
        rw [consumedWindow_get?] at present
        split_ifs at present with same
        · subst same
          cases known : state.recorded (rule.key, other) with
          | some time =>
            rw [known] at present
            cases present
            exact old known
          | none =>
            rw [known] at present
            cases present
            have missing : (state.eventsOf rule.key).contains other = false := by
              rw [OrderedTable.contains, eventsOf_get?, known]
              rfl
            unfold consumeRule
            rw [missing]
            exact updateEarliestExpiry_self _ _
        · exact old present

theorem consumeRule_other {event key} (different : key ≠ rule.key) :
    (state.consumeRule event now rule).windows.get? key = state.windows.get? key := by
  rw [consumeRule_windows, get?_insert, if_neg different]

/-- An admissible event is recorded under all of its rules at once. -/
structure Consumed (shapes : Shapes) (event : String) (now : Nat) (rules : List UsageLimitRule)
    (state next : MemoryUsageLimitState) : Prop where
  sound : StateSound shapes now next
  recorded : ∀ entry, next.recorded entry =
    if entry.2 = event ∧ entry.1 ∈ rules.map UsageLimitRule.key then
      some ((state.recorded entry).getD now)
    else state.recorded entry
  windows : next.windows.size = state.windows.size +
    (rules.map (fun rule => (state.additionFor event rule).1)).sum
  events : next.totalEvents = state.totalEvents +
    (rules.map (fun rule => (state.additionFor event rule).2)).sum
  keys : ∀ key, (next.windows.get? key).isSome ↔
    (state.windows.get? key).isSome ∨ key ∈ rules.map UsageLimitRule.key

theorem consume_run (event : String) (rules : List UsageLimitRule) :
    ∀ state, StateSound shapes now state → (∀ rule ∈ rules, RuleFits shapes now rule) →
      (rules.map UsageLimitRule.key).Nodup →
      (∀ rule ∈ rules, Admissible shapes event now state rule) →
        Consumed shapes event now rules state (rules.foldl (consumeRule event now) state) := by
  induction rules with
  | nil =>
    intro state sound _ _ _
    exact ⟨sound, fun _ => by simp, rfl, rfl, fun _ => by simp⟩
  | cons rule rest ih =>
    intro state sound fits distinct admissible
    obtain ⟨unused, distinct⟩ := nodup_cons.mp distinct
    have own := fits rule mem_cons_self
    have apart : ∀ other ∈ rest, other.key ≠ rule.key := by
      rintro other member same
      exact unused (same ▸ mem_map_of_mem member)
    have consumed := consumeRule_sound sound own (admissible rule mem_cons_self)
    have later := ih (state.consumeRule event now rule) consumed
      (fun other member => fits other (mem_cons_of_mem _ member)) distinct (by
        intro other member window found
        rw [consumeRule_other (apart other member)] at found
        exact admissible other (mem_cons_of_mem _ member) window found)
    have additions : ∀ other ∈ rest,
        (state.consumeRule event now rule).additionFor event other =
          state.additionFor event other := by
      intro other member
      rw [additionFor, consumeRule_other (apart other member), additionFor]
    obtain ⟨windows, events, _⟩ := consumeRule_sizes state now event rule
    rw [foldl_cons]
    constructor
    · exact later.sound
    · intro entry
      rw [later.recorded, consumeRule_recorded]
      obtain ⟨key, other⟩ := entry
      by_cases same : other = event
      · by_cases first : key = rule.key
        · have fresh : ¬ key ∈ rest.map UsageLimitRule.key := first ▸ unused
          simp [same, first, first ▸ fresh]
        · simp [same, first]
      · simp [same]
    · rw [later.windows, windows, map_congr_left (fun other member =>
        congrArg Prod.fst (additions other member)), map_cons, sum_cons, add_assoc]
    · rw [later.events, events, map_congr_left (fun other member =>
        congrArg Prod.snd (additions other member)), map_cons, sum_cons, add_assoc]
    · intro key
      rw [later.keys, consumeRule_windows, get?_insert, map_cons, mem_cons]
      by_cases first : key = rule.key
      · simp [first]
      · simp [first]

/-! ## Forgetting an event -/

theorem releaseRule_windows (event : String) (rule : UsageLimitRule) (key : String) :
    (state.releaseRule event rule).windows.get? key =
      if key = rule.key then (state.windows.get? rule.key).bind (fun window =>
        if (window.events.erase event).size = 0 then none
        else some { window with events := window.events.erase event })
      else state.windows.get? key := by
  unfold releaseRule
  cases found : state.windows.get? rule.key with
  | none =>
    by_cases same : key = rule.key
    · rw [if_pos same, same]
      exact found
    · rw [if_neg same]
  | some window =>
    dsimp only [bind_some]
    by_cases last : (window.events.erase event).size = 0
    · rw [if_pos last, if_pos last, get?_erase]
    · rw [if_neg last, if_neg last, get?_insert]

theorem releaseRule_recorded (event : String) (rule : UsageLimitRule) (entry : Entry) :
    (state.releaseRule event rule).recorded entry =
      if entry = (rule.key, event) then none else state.recorded entry := by
  obtain ⟨key, other⟩ := entry
  change ((state.releaseRule event rule).windows.get? key).bind
    (fun window => window.events.get? other) = _
  rw [releaseRule_windows]
  by_cases sameKey : key = rule.key
  · subst sameKey
    rw [if_pos rfl]
    unfold recorded
    cases state.windows.get? rule.key with
    | none => simp
    | some window =>
      have erased := window.events.get?_erase event other
      have inner : ((if (window.events.erase event).size = 0 then none
          else some { window with events := window.events.erase event }).bind
            (fun window => window.events.get? other)) =
          (window.events.erase event).get? other := by
        split_ifs with last
        · rw [bind_none, eq_comm, get?_eq_none_iff, length_eq_zero_iff.mp last]
          simp
        · rfl
      rw [bind_some, inner, erased]
      by_cases same : other = event
      · simp [same]
      · simp [same]
  · have different : (key, other) ≠ (rule.key, event) :=
      fun equal => sameKey (congrArg Prod.fst equal)
    rw [if_neg sameKey, if_neg different]
    rfl

theorem releaseRule_sizes (event : String) (rule : UsageLimitRule)
    (counted : state.totalEvents = state.windows.total (·.events.size)) :
    (state.releaseRule event rule).totalEvents =
        (state.releaseRule event rule).windows.total (·.events.size) ∧
      (state.releaseRule event rule).windows.size ≤ state.windows.size ∧
      (state.releaseRule event rule).totalEvents ≤ state.totalEvents := by
  unfold releaseRule
  cases found : state.windows.get? rule.key with
  | none => exact ⟨counted, le_rfl, le_rfl⟩
  | some window =>
    dsimp only
    have fewer := window.events.size_erase event
    have erased := state.windows.total_erase rule.key (·.events.size)
    have smaller := state.windows.size_erase rule.key
    have written := state.windows.total_insert rule.key
      { window with events := window.events.erase event } (·.events.size)
    have same := state.windows.size_insert rule.key
      { window with events := window.events.erase event }
    rw [found, elim_some] at erased smaller written same
    dsimp only at written
    cases has : window.events.get? event with
    | none =>
      have missing : window.events.contains event = false := by
        rw [OrderedTable.contains, has]
        rfl
      rw [has, elim_none] at fewer
      rw [missing, if_neg Bool.false_ne_true]
      split_ifs with last <;> omega
    | some timestamp =>
      have present : window.events.contains event = true := by
        rw [OrderedTable.contains, has]
        rfl
      rw [has, elim_some] at fewer
      split_ifs with last <;> omega

theorem releaseRule_sound (sound : StateSound shapes now state) :
    StateSound shapes now (state.releaseRule event rule) := by
  refine sound.shrink ?_ (releaseRule_sizes event rule sound.counted).1 ?_
  · intro key kept found
    rw [releaseRule_windows] at found
    split_ifs at found with same
    · obtain ⟨window, present, rest⟩ := bind_eq_some_iff.mp found
      split_ifs at rest with last
      cases rest
      have fewer := window.events.size_erase event
      refine ⟨window, same ▸ present, .inr ⟨rfl, rfl, last, by dsimp only; omega, ?_⟩⟩
      intro other timestamp still
      rw [get?_erase] at still
      split_ifs at still
      exact still
    · exact ⟨kept, found, .inl rfl⟩
  · intro time bounds
    unfold releaseRule
    split <;> exact bounds

/-- A released event is recorded under none of the rules. -/
structure Forgotten (shapes : Shapes) (event : String) (now : Nat) (rules : List UsageLimitRule)
    (state next : MemoryUsageLimitState) : Prop where
  sound : StateSound shapes now next
  recorded : ∀ entry, next.recorded entry =
    if entry.2 = event ∧ entry.1 ∈ rules.map UsageLimitRule.key then none
    else state.recorded entry
  fewerWindows : next.windows.size ≤ state.windows.size
  fewerEvents : next.totalEvents ≤ state.totalEvents

theorem release_run (event : String) (rules : List UsageLimitRule) :
    ∀ state, StateSound shapes now state →
      Forgotten shapes event now rules state (rules.foldl (releaseRule event) state) := by
  induction rules with
  | nil =>
    intro state sound
    exact ⟨sound, fun _ => by simp, le_rfl, le_rfl⟩
  | cons rule rest ih =>
    intro state sound
    have later := ih (state.releaseRule event rule) (releaseRule_sound sound)
    obtain ⟨_, windows, events⟩ := releaseRule_sizes event rule sound.counted
    rw [foldl_cons]
    constructor
    · exact later.sound
    · intro entry
      rw [later.recorded, releaseRule_recorded]
      obtain ⟨key, other⟩ := entry
      by_cases same : other = event
      · by_cases first : key = rule.key
        · simp [same, first]
        · simp [same, first]
      · simp [same]
    · exact later.fewerWindows.trans windows
    · exact later.fewerEvents.trans events

theorem min?_bounds {times : List Nat} {time} (member : time ∈ times) : Bounds times.min? time := by
  cases least : times.min? with
  | none =>
    rw [min?_eq_none_iff.mp least] at member
    cases member
  | some earliest => exact ⟨earliest, rfl, (min?_eq_some_iff.mp least).2 time member⟩

theorem releaseUsageLimits_spec (input : UsageLimitReleaseInput)
    (sound : StateSound shapes now state) :
    Forgotten shapes input.eventId now input.rules state (state.releaseUsageLimits input) := by
  have forgotten := release_run input.eventId input.rules state sound
  refine ⟨⟨forgotten.sound.windows, forgotten.sound.counted, ?_⟩, forgotten.recorded,
    forgotten.fewerWindows, forgotten.fewerEvents⟩
  intro key window found
  have member : window ∈ (input.rules.foldl (releaseRule input.eventId) state).windows.values :=
    (mem_values _ _).mpr ⟨key, found⟩
  constructor
  · apply min?_bounds
    exact mem_flatMap.mpr ⟨window, member, mem_cons_self⟩
  · intro event timestamp present
    apply min?_bounds
    have listed := (window.events.mem_values timestamp).mpr ⟨event, present⟩
    exact mem_flatMap.mpr ⟨window, member, mem_cons_of_mem _ (mem_map.mpr ⟨timestamp, listed, rfl⟩)⟩

/-! ## A check as a whole -/

inductive Consumption (shapes : Shapes) (config : MemoryRuntimeStateConfig)
    (input : UsageLimitInput) (state : MemoryUsageLimitState) :
    Result UsageLimitCheck × MemoryUsageLimitState → Prop where
  | rejected (next : MemoryUsageLimitState) (sound : StateSound shapes input.nowUnixMs next)
      (pruned : Pruned shapes input.nowUnixMs state next) {index limit retryAfter : Nat}
      (used : UsedUp shapes input.eventId input.nowUnixMs input.rules next index limit retryAfter) :
      Consumption shapes config input state (.ok (.rejected index limit retryAfter), next)
  | refused (next : MemoryUsageLimitState) (failure : Failure)
      (sound : StateSound shapes input.nowUnixMs next)
      (pruned : Pruned shapes input.nowUnixMs state next)
      (admissible : ∀ rule ∈ input.rules, Admissible shapes input.eventId input.nowUnixMs next rule)
      (fresh : AllFresh shapes input.nowUnixMs next)
      (exceeded : next.exceedsCapacity config (next.additionsFor input)) :
      Consumption shapes config input state (.error failure, next)
  | allowed (middle next : MemoryUsageLimitState)
      (pruned : Pruned shapes input.nowUnixMs state middle)
      (admissible : ∀ rule ∈ input.rules,
        Admissible shapes input.eventId input.nowUnixMs middle rule)
      (room : ¬ middle.exceedsCapacity config (middle.additionsFor input))
      (consumed : Consumed shapes input.eventId input.nowUnixMs input.rules middle next) :
      Consumption shapes config input state (.ok .allowed, next)

theorem checkAndConsumeUsageLimits_run (config : MemoryRuntimeStateConfig) {input}
    (sound : StateSound shapes input.nowUnixMs state)
    (fits : ∀ rule ∈ input.rules, RuleFits shapes input.nowUnixMs rule)
    (distinct : (input.rules.map UsageLimitRule.key).Nodup) :
    Consumption shapes config input state (checkAndConsumeUsageLimits config input state) := by
  obtain ⟨amortizedSound, amortized⟩ := amortizedPrune_spec sound
  have checked := checkRules_run input.eventId input.rules 0 _ amortizedSound fits distinct
  unfold checkAndConsumeUsageLimits
  dsimp only
  generalize checkRules input.eventId input.nowUnixMs 0 input.rules
    (state.amortizedPrune input.nowUnixMs) = result at checked ⊢
  cases checked with
  | rejected next nextSound pruned index used =>
    rw [zero_add]
    exact .rejected next nextSound (amortized.trans pruned) used
  | passed middle middleSound pruned admissible others =>
    obtain ⟨reclaimedSound, reclaimed, stillAdmissible, fresh⟩ :=
      reclaimCapacity_spec config middleSound admissible
    have whole := (amortized.trans pruned).trans reclaimed
    dsimp only
    generalize middle.reclaimCapacity config input = after
      at reclaimedSound stillAdmissible fresh whole ⊢
    by_cases exceeded : after.exceedsCapacity config (after.additionsFor input)
    · rw [if_pos exceeded]
      exact .refused after _ reclaimedSound whole stillAdmissible (fresh exceeded) exceeded
    · rw [if_neg exceeded]
      exact .allowed after _ whole stillAdmissible exceeded
        (consume_run input.eventId input.rules after reclaimedSound fits distinct stillAdmissible)

/-! ## Validated input -/

theorem validateRules_ok {numbers} (rules : List UsageLimitRule) :
    ∀ {index previous expected}, validateRules numbers index previous expected rules = .ok () →
      (∀ rule ∈ rules, rule.key ∉ previous ∧ ∃ place, numbers place rule = .ok ()) ∧
        (rules.map UsageLimitRule.key).Nodup := by
  induction rules with
  | nil =>
    intro index previous expected _
    exact ⟨(fun _ member => by cases member), nodup_nil⟩
  | cons rule rest ih =>
    intro index previous expected valid
    obtain ⟨_, named, valid⟩ := bind_ok valid
    obtain ⟨tag, keyed, valid⟩ := bind_ok valid
    obtain ⟨checked, distinct⟩ := ih valid
    have numbered := (refuse_ok named).2
    have fresh := (refuse_ok keyed).1
    constructor
    · intro other member
      rcases mem_cons.mp member with rfl | member
      · exact ⟨fresh, index, numbered⟩
      · obtain ⟨absent, place, passed⟩ := checked other member
        exact ⟨fun known => absent (mem_append_left _ known), place, passed⟩
    · apply nodup_cons.mpr
      refine ⟨?_, distinct⟩
      intro again
      obtain ⟨other, member, same⟩ := mem_map.mp again
      apply (checked other member).1
      rw [same]
      exact mem_append_right _ mem_cons_self

theorem validateRuleNumbers_ok {nowUnixMs index}
    (valid : validateRuleNumbers nowUnixMs index rule = .ok ()) :
    0 < rule.limit ∧ nowUnixMs + rule.retentionSeconds * 1000 ≤ maxRedisLuaExactInteger := by
  obtain ⟨positive, valid⟩ := refuse_ok valid
  obtain ⟨_, valid⟩ := refuse_ok valid
  obtain ⟨_, valid⟩ := refuse_ok valid
  obtain ⟨_, valid⟩ := refuse_ok valid
  obtain ⟨_, valid⟩ := refuse_ok valid
  obtain ⟨_, valid⟩ := refuse_ok valid
  obtain ⟨_, valid⟩ := refuse_ok valid
  obtain ⟨_, valid⟩ := refuse_ok valid
  obtain ⟨_, valid⟩ := refuse_ok valid
  exact ⟨pos_of_ne_zero positive, not_lt.mp (refuse_ok valid).1⟩

/-- Each rule key is used with one limit and one window, and kept for a window at least. -/
def Conforms (shapes : Shapes) (input : UsageLimitInput) : Prop :=
  ∀ rule ∈ input.rules, rule.limit = (shapes rule.key).limit ∧
    rule.windowSeconds = (shapes rule.key).windowSeconds ∧
    rule.windowSeconds ≤ rule.retentionSeconds

theorem validateUsageLimitInput_ok {input} (conforms : Conforms shapes input)
    (valid : validateUsageLimitInput input = .ok ()) :
    (∀ rule ∈ input.rules, RuleFits shapes input.nowUnixMs rule) ∧
      (input.rules.map UsageLimitRule.key).Nodup := by
  obtain ⟨_, valid⟩ := refuse_ok valid
  obtain ⟨_, valid⟩ := refuse_ok valid
  obtain ⟨checked, distinct⟩ := validateRules_ok input.rules valid
  refine ⟨?_, distinct⟩
  intro rule member
  obtain ⟨_, place, numbers⟩ := checked rule member
  obtain ⟨positive, small⟩ := validateRuleNumbers_ok numbers
  obtain ⟨limit, window, retention⟩ := conforms rule member
  exact ⟨limit, window, positive, retention, small⟩

end Aeris.Runtime
