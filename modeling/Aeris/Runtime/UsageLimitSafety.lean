import Aeris.Runtime.UsageLimitCalls

/-! Usage limits over any sequence of calls. What the callers were told is kept in
a ledger beside the state: a check that allowed an event admitted it under each of
its rules, a release takes the admission back. Allowing an event that still counts
is a replay of its admission, not a new one. -/
namespace Aeris.Runtime

open RustStd Settlement Lease MemoryUsageLimitState List Option Nat

/-- A state, and when each event was admitted under each rule key. -/
structure UsageLedger where
  state : MemoryUsageLimitState
  admissions : Entry → Option Nat

namespace UsageLedger

def start : UsageLedger := ⟨.default, fun _ => none⟩

/-- The entries of an event under its rules. -/
abbrev Names (rules : List UsageLimitRule) (event : String) (entry : Entry) : Prop :=
  entry.2 = event ∧ entry.1 ∈ rules.map UsageLimitRule.key

/-- The event is admitted now, unless an admission of it still counts. -/
def admitEvent (shapes : Shapes) (input : UsageLimitInput) (admissions : Entry → Option Nat)
    (entry : Entry) : Option Nat :=
  if Names input.rules input.eventId entry then
    some (((admissions entry).filter (fun timestamp =>
      input.nowUnixMs < timestamp + shapes.span entry.1)).getD input.nowUnixMs)
  else admissions entry

def forget (input : UsageLimitReleaseInput) (admissions : Entry → Option Nat) (entry : Entry) :
    Option Nat :=
  if Names input.rules input.eventId entry then none else admissions entry

def observe (shapes : Shapes) (config : MemoryRuntimeStateConfig) (seen : UsageLedger) :
    UsageLimitCall → UsageLedger
  | .checkAndConsume input =>
    match runtimeCheckAndConsume config input seen.state with
    | (.ok .allowed, state) => ⟨state, admitEvent shapes input seen.admissions⟩
    | (_, state) => ⟨state, seen.admissions⟩
  | .release input =>
    match runtimeRelease input seen.state with
    | (.ok _, state) => ⟨state, forget input seen.admissions⟩
    | (.error _, state) => ⟨state, seen.admissions⟩

def run (shapes : Shapes) (config : MemoryRuntimeStateConfig) (seen : UsageLedger)
    (calls : List UsageLimitCall) : UsageLedger :=
  calls.foldl (observe shapes config) seen

/-- The events with an admission under the key that is less than a window old. -/
def counting (shapes : Shapes) (seen : UsageLedger) (now : Nat) (key : String) : Set String :=
  {event | ∃ timestamp, seen.admissions (key, event) = some timestamp ∧
    timestamp ≤ now ∧ now < timestamp + shapes.span key}

/-! ## What is kept true -/

structure Consistent (shapes : Shapes) (config : MemoryRuntimeStateConfig) (now : Nat)
    (seen : UsageLedger) : Prop where
  sound : StateSound shapes now seen.state
  agree : Agree now (leases shapes seen.admissions) (leases shapes seen.state.recorded)
  past : ∀ entry timestamp, seen.admissions entry = some timestamp → timestamp ≤ now
  windows : seen.state.windows.size ≤ config.maxUsageLimitWindows
  events : seen.state.totalEvents ≤ config.maxUsageLimitEvents

variable {shapes : Shapes} {config : MemoryRuntimeStateConfig} {now : Nat} {seen : UsageLedger}

theorem Consistent.later {later} (consistent : Consistent shapes config now seen)
    (order : now ≤ later) : Consistent shapes config later seen where
  sound := consistent.sound.later order
  agree := consistent.agree.later order
  past := fun entry timestamp found => (consistent.past entry timestamp found).trans order
  windows := consistent.windows
  events := consistent.events

theorem start_consistent (shapes : Shapes) (config : MemoryRuntimeStateConfig) (now : Nat) :
    Consistent shapes config now start where
  sound := ⟨(fun _ _ found => by cases found), rfl, (fun _ _ found => by cases found)⟩
  agree := fun _ => rfl
  past := fun _ _ found => by cases found
  windows := zero_le _
  events := zero_le _

theorem live_leases (admissions : Entry → Option Nat) (entry : Entry) :
    live now (leases shapes admissions entry) = ((admissions entry).filter
      (fun timestamp => now < timestamp + shapes.span entry.1)).map
        (fun timestamp => timestamp + shapes.span entry.1) := by
  unfold live leases
  cases admissions entry with
  | none => rfl
  | some timestamp =>
    rw [map_some, filter_some, filter_some]
    split_ifs <;> rfl

theorem filter_eq_of_agree {first second}
    (agree : Agree now (leases shapes first) (leases shapes second)) (entry : Entry) :
    (first entry).filter (fun timestamp => now < timestamp + shapes.span entry.1) =
      (second entry).filter (fun timestamp => now < timestamp + shapes.span entry.1) := by
  have equal := agree entry
  rw [live_leases, live_leases] at equal
  exact map_injective (fun _ _ sum => add_right_cancel sum) equal

theorem Consistent.mem_counting (consistent : Consistent shapes config now seen)
    (key event : String) : event ∈ counting shapes seen now key ↔ ∃ timestamp,
      seen.state.recorded (key, event) = some timestamp ∧ now < timestamp + shapes.span key := by
  have same := filter_eq_of_agree consistent.agree (key, event)
  constructor
  · rintro ⟨timestamp, admitted, _, counts⟩
    refine ⟨timestamp, ?_⟩
    rw [admitted, filter_some, if_pos (decide_eq_true counts), eq_comm, filter_eq_some_iff] at same
    exact ⟨same.1, counts⟩
  · rintro ⟨timestamp, recorded, counts⟩
    rw [recorded, filter_some, if_pos (decide_eq_true counts), filter_eq_some_iff] at same
    exact ⟨timestamp, same.1, consistent.past _ _ same.1, counts⟩

theorem Consistent.within (consistent : Consistent shapes config now seen) (key : String) :
    (counting shapes seen now key).Finite ∧
      (counting shapes seen now key).ncard ≤ (shapes key).limit := by
  cases found : seen.state.windows.get? key with
  | none =>
    have empty : counting shapes seen now key = ∅ := by
      ext event
      rw [consistent.mem_counting]
      simp [recorded, found]
    rw [empty]
    exact ⟨Set.finite_empty, by simp⟩
  | some window =>
    have inside : counting shapes seen now key ⊆ {event | (window.events.get? event).isSome} := by
      intro event counts
      obtain ⟨timestamp, recorded, _⟩ := (consistent.mem_counting key event).mp counts
      rw [MemoryUsageLimitState.recorded, found, bind_some] at recorded
      exact isSome_iff_exists.mpr ⟨timestamp, recorded⟩
    refine ⟨window.events.finite_keys.subset inside, ?_⟩
    calc (counting shapes seen now key).ncard
        ≤ {event | (window.events.get? event).isSome}.ncard :=
          Set.ncard_le_ncard inside window.events.finite_keys
      _ = window.events.size := window.events.ncard_keys
      _ ≤ (shapes key).limit := (consistent.sound.windows key window found).within

/-! ## One call -/

inductive CheckEnd (shapes : Shapes) (config : MemoryRuntimeStateConfig)
    (input : UsageLimitInput) (state : MemoryUsageLimitState) :
    Result UsageLimitCheck × MemoryUsageLimitState → Prop where
  | nothing (none_ : input.rules = []) : CheckEnd shapes config input state (.ok .allowed, state)
  | invalid (failure : Failure) (refused : validateUsageLimitInput input = .error failure) :
      CheckEnd shapes config input state (.error failure, state)
  | checked (fits : ∀ rule ∈ input.rules, RuleFits shapes input.nowUnixMs rule)
      (distinct : (input.rules.map UsageLimitRule.key).Nodup)
      (result : Result UsageLimitCheck × MemoryUsageLimitState)
      (consumption : Consumption shapes config input state result) :
      CheckEnd shapes config input state result

theorem runtimeCheckAndConsume_run (config : MemoryRuntimeStateConfig) {input state}
    (sound : StateSound shapes input.nowUnixMs state) (conforms : Conforms shapes input) :
    CheckEnd shapes config input state (runtimeCheckAndConsume config input state) := by
  unfold runtimeCheckAndConsume
  by_cases none_ : input.rules.isEmpty
  · rw [if_pos none_]
    exact .nothing (isEmpty_iff.mp none_)
  · rw [if_neg none_]
    cases valid : validateUsageLimitInput input with
    | error failure => exact .invalid failure valid
    | ok _ =>
      obtain ⟨fits, distinct⟩ := validateUsageLimitInput_ok conforms valid
      exact .checked fits distinct _
        (checkAndConsumeUsageLimits_run config sound fits distinct)

theorem admitEvent_agree {input middle next admissions}
    (agree : Agree input.nowUnixMs (leases shapes admissions) (leases shapes middle.recorded))
    (admissible : ∀ rule ∈ input.rules, Admissible shapes input.eventId input.nowUnixMs middle rule)
    (consumed : Consumed shapes input.eventId input.nowUnixMs input.rules middle next) :
    Agree input.nowUnixMs (leases shapes (admitEvent shapes input admissions))
      (leases shapes next.recorded) := by
  intro entry
  have same := filter_eq_of_agree agree entry
  rw [leases, leases, consumed.recorded, admitEvent]
  by_cases named : Names input.rules input.eventId entry
  · obtain ⟨rule, member, key⟩ := mem_map.mp named.2
    have fresh : (middle.recorded entry).filter (fun timestamp =>
        input.nowUnixMs < timestamp + shapes.span entry.1) = middle.recorded entry := by
      cases recorded : middle.recorded entry with
      | none => rfl
      | some timestamp =>
        obtain ⟨window, found, stored⟩ := bind_eq_some_iff.mp recorded
        rw [← key] at found ⊢
        have counts := (admissible rule member window found).1 _ timestamp stored
        rw [filter_some, if_pos (decide_eq_true counts)]
    rw [if_pos named, if_pos named, same, fresh]
  · rw [if_neg named, if_neg named]
    exact agree entry

theorem admitEvent_past {input admissions}
    (past : ∀ entry timestamp, admissions entry = some timestamp → timestamp ≤ input.nowUnixMs)
    (entry : Entry) (timestamp : Nat) (found : admitEvent shapes input admissions entry =
      some timestamp) : timestamp ≤ input.nowUnixMs := by
  unfold admitEvent at found
  split_ifs at found
  · cases known : (admissions entry).filter (fun timestamp =>
        input.nowUnixMs < timestamp + shapes.span entry.1) with
    | none =>
      rw [known] at found
      cases found
      exact le_rfl
    | some old =>
      rw [known] at found
      cases found
      exact past entry _ (filter_eq_some_iff.mp known).1
  · exact past entry timestamp found

theorem Consistent.prune {next}
    (consistent : Consistent shapes config now seen) (sound : StateSound shapes now next)
    (pruned : Pruned shapes now seen.state next) :
    Consistent shapes config now ⟨next, seen.admissions⟩ where
  sound := sound
  agree := consistent.agree.trans pruned.agree
  past := consistent.past
  windows := pruned.fewerWindows.trans consistent.windows
  events := pruned.fewerEvents.trans consistent.events

theorem exceedsCapacity_iff {input state next}
    (consumed : Consumed shapes input.eventId input.nowUnixMs input.rules state next) :
    state.exceedsCapacity config (state.additionsFor input) ↔
      config.maxUsageLimitWindows < next.windows.size ∨
        config.maxUsageLimitEvents < next.totalEvents := by
  rw [exceedsCapacity, additionsFor_eq, consumed.windows, consumed.events]
  simp

theorem check_consistent {input} (consistent : Consistent shapes config input.nowUnixMs seen)
    (conforms : Conforms shapes input) : Consistent shapes config input.nowUnixMs
      (observe shapes config seen (.checkAndConsume input)) := by
  have call := runtimeCheckAndConsume_run config consistent.sound conforms
  unfold observe
  dsimp only
  generalize runtimeCheckAndConsume config input seen.state = result at call ⊢
  cases call with
  | nothing none_ =>
    have same : admitEvent shapes input seen.admissions = seen.admissions := by
      funext entry
      simp [admitEvent, Names, none_]
    rw [same]
    exact consistent
  | invalid failure _ => exact consistent
  | checked fits distinct result consumption =>
    cases consumption with
    | rejected next sound pruned _ | refused next failure sound pruned _ _ _ =>
      exact consistent.prune sound pruned
    | allowed middle next pruned admissible room consumed =>
      rw [exceedsCapacity_iff consumed, not_or, not_lt, not_lt] at room
      exact ⟨consumed.sound, admitEvent_agree (consistent.agree.trans pruned.agree) admissible
        consumed, admitEvent_past consistent.past, room.1, room.2⟩

theorem release_consistent (input : UsageLimitReleaseInput)
    (consistent : Consistent shapes config now seen) :
    Consistent shapes config now (observe shapes config seen (.release input)) := by
  unfold observe runtimeRelease
  dsimp only
  by_cases none_ : input.rules.isEmpty
  · have same : forget input seen.admissions = seen.admissions := by
      funext entry
      simp [forget, Names, isEmpty_iff.mp none_]
    rw [if_pos none_, same]
    exact consistent
  · rw [if_neg none_]
    cases validateUsageLimitReleaseInput input with
    | error failure => exact consistent
    | ok _ =>
      have forgotten := releaseUsageLimits_spec input consistent.sound
      refine ⟨forgotten.sound, ?_, ?_, forgotten.fewerWindows.trans consistent.windows,
        forgotten.fewerEvents.trans consistent.events⟩
      · intro entry
        dsimp only [leases, forget]
        rw [forgotten.recorded]
        split_ifs
        · rfl
        · exact consistent.agree entry
      · intro entry timestamp found
        dsimp only [forget] at found
        split_ifs at found
        exact consistent.past entry timestamp found

/-! ## Any sequence of calls -/

def times (calls : List UsageLimitCall) : List Nat :=
  calls.filterMap (fun call => match call with
    | .checkAndConsume input => some input.nowUnixMs
    | .release _ => none)

/-- The calls use each rule key alike, and their times do not go back. -/
structure Orderly (shapes : Shapes) (calls : List UsageLimitCall) : Prop where
  conforms : ∀ input, .checkAndConsume input ∈ calls → Conforms shapes input
  ordered : (times calls).Pairwise (· ≤ ·)

theorem run_consistent (calls : List UsageLimitCall) : ∀ {seen now later},
    Consistent shapes config now seen → Orderly shapes calls →
      (∀ time ∈ times calls, now ≤ time) → now ≤ later → (∀ time ∈ times calls, time ≤ later) →
        Consistent shapes config later (run shapes config seen calls) := by
  induction calls with
  | nil =>
    intro seen now later consistent _ _ order _
    exact consistent.later order
  | cons call rest ih =>
    intro seen now later consistent orderly after order before
    have conforms := fun input member => orderly.conforms input (mem_cons_of_mem _ member)
    cases call with
    | checkAndConsume input =>
      have ordered := pairwise_cons.mp orderly.ordered
      have first := after input.nowUnixMs mem_cons_self
      exact ih (check_consistent (consistent.later first) (orderly.conforms input mem_cons_self))
        ⟨conforms, ordered.2⟩ ordered.1 (before _ mem_cons_self)
        (fun time member => before time (mem_cons_of_mem _ member))
    | release input =>
      exact ih (release_consistent input consistent) ⟨conforms, orderly.ordered⟩ after order
        before

/-! ## What a check answers -/

/-- The windows that are needed for what counts and for the event of the call. -/
def neededWindows (shapes : Shapes) (seen : UsageLedger) (input : UsageLimitInput) : Set String :=
  {key | (counting shapes seen input.nowUnixMs key).Nonempty ∨
    key ∈ input.rules.map UsageLimitRule.key}

/-- The events that count, and those the call would add. -/
def neededEvents (shapes : Shapes) (seen : UsageLedger) (input : UsageLimitInput) : Set Entry :=
  {entry | entry.2 ∈ counting shapes seen input.nowUnixMs entry.1 ∨
    Names input.rules input.eventId entry}

variable {input : UsageLimitInput}

theorem check_unrecorded (consistent : Consistent shapes config input.nowUnixMs seen)
    (conforms : Conforms shapes input)
    (denied : (runtimeCheckAndConsume config input seen.state).1 ≠ .ok .allowed) (entry : Entry)
    (timestamp : Nat) (recorded :
      (runtimeCheckAndConsume config input seen.state).2.recorded entry =
      some timestamp) : seen.state.recorded entry = some timestamp := by
  have call := runtimeCheckAndConsume_run config consistent.sound conforms
  generalize runtimeCheckAndConsume config input seen.state = result at call denied recorded
  cases call with
  | nothing _ | invalid _ _ => exact recorded
  | checked fits distinct result consumption =>
    cases consumption with
    | rejected next sound pruned _ | refused next failure sound pruned _ _ _ =>
      exact pruned.subset entry timestamp recorded
    | allowed _ _ _ _ _ _ => exact absurd rfl denied

theorem Consistent.counting_eq (consistent : Consistent shapes config now seen) {key}
    {window} (found : seen.state.windows.get? key = some window)
    (fresh : Fresh (shapes.span key) now window) :
    counting shapes seen now key = {event | (window.events.get? event).isSome} := by
  ext event
  rw [consistent.mem_counting, MemoryUsageLimitState.recorded, found, bind_some,
    Set.mem_ofPred_eq, isSome_iff_exists]
  constructor
  · rintro ⟨timestamp, stored, _⟩
    exact ⟨timestamp, stored⟩
  · rintro ⟨timestamp, stored⟩
    exact ⟨timestamp, stored, fresh event timestamp stored⟩

section

variable (consistent : Consistent shapes config input.nowUnixMs seen)
include consistent

theorem check_rejected (conforms : Conforms shapes input) {index limit retryAfter}
    (rejected : (runtimeCheckAndConsume config input seen.state).1 =
      .ok (.rejected index limit retryAfter)) :
    ∃ rule, input.rules[index]? = some rule ∧ limit = rule.limit ∧
      (counting shapes seen input.nowUnixMs rule.key).ncard = rule.limit ∧
      input.eventId ∉ counting shapes seen input.nowUnixMs rule.key ∧
      ∃ other ∈ counting shapes seen input.nowUnixMs rule.key,
        ∀ later, input.nowUnixMs + retryAfter * 1000 ≤ later →
          other ∉ counting shapes seen later rule.key := by
  have call := runtimeCheckAndConsume_run config consistent.sound conforms
  generalize runtimeCheckAndConsume config input seen.state = result at call rejected
  cases call with
  | nothing _ | invalid _ _ => cases rejected
  | checked fits distinct result consumption =>
    cases consumption with
    | refused _ _ _ _ _ _ _ | allowed _ _ _ _ _ _ => cases rejected
    | rejected next sound pruned used =>
      cases rejected
      obtain ⟨rule, window, listed, exactly, found, fresh, absent, full, other, timestamp, stored,
        ends⟩ := used
      have after := consistent.prune sound pruned
      have same := after.counting_eq found fresh
      have own := fits rule (mem_of_getElem? listed)
      have exact_ : window.events.size = rule.limit :=
        le_antisymm (own.limit ▸ (sound.windows rule.key window found).within) full
      change counting shapes seen input.nowUnixMs rule.key = _ at same
      have recorded : next.recorded (rule.key, other) = some timestamp := by
        rw [MemoryUsageLimitState.recorded, found]
        exact stored
      refine ⟨rule, listed, exactly, ?_, ?_, other, ?_, ?_⟩
      · rw [same, window.events.ncard_keys, exact_]
      · simp [same, absent]
      · simp [same, stored]
      · rintro later order still
        have order' : input.nowUnixMs ≤ later := le_trans (le_add_right _ _) order
        obtain ⟨again, known, counts⟩ :=
          ((after.later order').mem_counting rule.key other).mp still
        cases known.symm.trans recorded
        omega

section

variable {full : MemoryUsageLimitState} (fresh : AllFresh shapes input.nowUnixMs seen.state)
  (consumed : Consumed shapes input.eventId input.nowUnixMs input.rules seen.state full)
include fresh consumed

theorem Consistent.size_consumed : full.windows.size = (neededWindows shapes seen input).ncard := by
  rw [← full.windows.ncard_keys]
  congr 1
  ext key
  rw [Set.mem_ofPred_eq, consumed.keys]
  apply or_congr_left
  constructor
  · intro present
    obtain ⟨window, found⟩ := isSome_iff_exists.mp present
    obtain ⟨event, timestamp, stored⟩ :=
      OrderedTable.exists_of_size_ne_zero (consistent.sound.windows key window found).nonempty
    rw [consistent.counting_eq found (fresh key window found)]
    exact ⟨event, by simp [stored]⟩
  · rintro ⟨event, counts⟩
    obtain ⟨timestamp, recorded, _⟩ := (consistent.mem_counting key event).mp counts
    obtain ⟨window, found, _⟩ := bind_eq_some_iff.mp recorded
    exact isSome_iff_exists.mpr ⟨window, found⟩

theorem Consistent.totalEvents_consumed :
    full.totalEvents = (neededEvents shapes seen input).ncard := by
  rw [consumed.sound.counted, ← full.windows.ncard_pairs]
  congr 1
  ext entry
  change (full.recorded entry).isSome ↔
    entry.2 ∈ counting shapes seen input.nowUnixMs entry.1 ∨ Names input.rules input.eventId entry
  rw [consumed.recorded, consistent.mem_counting]
  split_ifs with named
  · exact iff_of_true rfl (.inr named)
  · rw [isSome_iff_exists, or_iff_left named]
    constructor
    · rintro ⟨timestamp, recorded⟩
      obtain ⟨window, found, stored⟩ := bind_eq_some_iff.mp recorded
      exact ⟨timestamp, recorded, fresh entry.1 window found _ _ stored⟩
    · rintro ⟨timestamp, recorded, _⟩
      exact ⟨timestamp, recorded⟩

end

theorem check_refused (conforms : Conforms shapes input)
    (valid : validateUsageLimitInput input = .ok ()) {failure}
    (refused : (runtimeCheckAndConsume config input seen.state).1 = .error failure) :
    config.maxUsageLimitWindows < (neededWindows shapes seen input).ncard ∨
      config.maxUsageLimitEvents < (neededEvents shapes seen input).ncard := by
  have call := runtimeCheckAndConsume_run config consistent.sound conforms
  generalize runtimeCheckAndConsume config input seen.state = result at call refused
  cases call with
  | nothing _ => cases refused
  | invalid _ bad => cases valid.symm.trans bad
  | checked fits distinct result consumption =>
    cases consumption with
    | rejected _ _ _ _ | allowed _ _ _ _ _ _ => cases refused
    | refused next _ sound pruned admissible fresh exceeded =>
      have after := consistent.prune sound pruned
      -- the call, had it been let through
      have consumed := consume_run input.eventId input.rules next sound fits distinct admissible
      rw [exceedsCapacity_iff consumed, after.size_consumed fresh consumed,
        after.totalEvents_consumed fresh consumed] at exceeded
      exact exceeded

/-- After the wait it was told, and with no admission under the rule in between, a
call is not rejected by that rule again. -/
theorem retry_not_rejected {after later index limit retryAfter} (conforms : Conforms shapes input)
    (rejected : (runtimeCheckAndConsume config input seen.state).1 =
      .ok (.rejected index limit retryAfter)) (waited : input.nowUnixMs + retryAfter * 1000 ≤ later)
    (consistentAfter : Consistent shapes config later after)
    (quiet : ∀ rule, input.rules[index]? = some rule → ∀ event timestamp, after.admissions
      (rule.key, event) = some timestamp → seen.admissions (rule.key, event) = some timestamp)
    (again wait : Nat) :
    (runtimeCheckAndConsume config { input with nowUnixMs := later } after.state).1 ≠
      .ok (.rejected index again wait) := by
  intro rejectedAgain
  obtain ⟨rule, listed, _, full, _, other, present, ended⟩ :=
    check_rejected consistent conforms rejected
  have conformsAgain : Conforms shapes { input with nowUnixMs := later } := conforms
  obtain ⟨same, listedAgain, _, fullAgain, _⟩ :=
    check_rejected consistentAfter conformsAgain rejectedAgain
  cases listed.symm.trans listedAgain
  dsimp only at fullAgain
  -- what counts later counted before, and the event that was about to end is missing
  have fewer : counting shapes after later rule.key ⊂
      counting shapes seen input.nowUnixMs rule.key := by
    have inside : ∀ event ∈ counting shapes after later rule.key,
        event ∈ counting shapes seen later rule.key := by
      rintro event ⟨timestamp, admitted, past, counts⟩
      exact ⟨timestamp, quiet rule listed event timestamp admitted, past, counts⟩
    constructor
    · intro event counts
      obtain ⟨timestamp, admitted, _, lasts⟩ := inside event counts
      exact ⟨timestamp, admitted, consistent.past _ _ admitted, by omega⟩
    · intro all
      exact ended later waited (inside other (all present))
  have drop := Set.ncard_lt_ncard fewer (consistent.within rule.key).1
  omega

end

structure FairCheck (shapes : Shapes) (config : MemoryRuntimeStateConfig) (seen : UsageLedger)
    (input : UsageLimitInput) : Prop where
  /-- A check that does not allow its event records nothing. -/
  unrecorded : (runtimeCheckAndConsume config input seen.state).1 ≠ .ok .allowed →
    ∀ entry timestamp,
      (runtimeCheckAndConsume config input seen.state).2.recorded entry = some timestamp →
        seen.state.recorded entry = some timestamp
  /-- A rule rejects only when it is used up by other events. -/
  full : ∀ index limit retryAfter, (runtimeCheckAndConsume config input seen.state).1 =
    .ok (.rejected index limit retryAfter) →
      ∃ rule, input.rules[index]? = some rule ∧ limit = rule.limit ∧
        (counting shapes seen input.nowUnixMs rule.key).ncard = rule.limit ∧
        input.eventId ∉ counting shapes seen input.nowUnixMs rule.key
  /-- After the wait, and without other admissions under the rule, it does not reject. -/
  retry : ∀ index limit retryAfter, (runtimeCheckAndConsume config input seen.state).1 =
    .ok (.rejected index limit retryAfter) →
      ∀ others later, input.nowUnixMs + retryAfter * 1000 ≤ later →
        Orderly shapes (.checkAndConsume input :: others ++
          [.checkAndConsume { input with nowUnixMs := later }]) →
        (∀ rule, input.rules[index]? = some rule → ∀ event timestamp,
          (run shapes config seen (.checkAndConsume input :: others)).admissions
            (rule.key, event) = some timestamp →
              seen.admissions (rule.key, event) = some timestamp) →
        ∀ again wait, (runtimeCheckAndConsume config { input with nowUnixMs := later }
          (run shapes config seen (.checkAndConsume input :: others)).state).1 ≠
            .ok (.rejected index again wait)
  /-- Capacity is refused only when what counts leaves no room for the event. -/
  capacity : validateUsageLimitInput input = .ok () → ∀ failure,
    (runtimeCheckAndConsume config input seen.state).1 = .error failure →
      config.maxUsageLimitWindows < (neededWindows shapes seen input).ncard ∨
        config.maxUsageLimitEvents < (neededEvents shapes seen input).ncard

theorem times_append (first second : List UsageLimitCall) :
    times (first ++ second) = times first ++ times second :=
  filterMap_append

theorem Orderly.left {first second}
    (orderly : Orderly shapes (first ++ second)) : Orderly shapes first where
  conforms := fun input member => orderly.conforms input (mem_append_left _ member)
  ordered := by
    have ordered := orderly.ordered
    rw [times_append] at ordered
    exact (pairwise_append.mp ordered).1

theorem Orderly.last {calls} (orderly : Orderly shapes (calls ++ [.checkAndConsume input])) :
    Conforms shapes input ∧ ∀ time ∈ times calls, time ≤ input.nowUnixMs := by
  have ordered := orderly.ordered
  rw [times_append] at ordered
  refine ⟨orderly.conforms input (by simp), ?_⟩
  intro time member
  exact (pairwise_append.mp ordered).2.2 time member _ mem_cons_self

theorem fairCheck_of_consistent (consistent : Consistent shapes config input.nowUnixMs seen)
    (conforms : Conforms shapes input) : FairCheck shapes config seen input where
  unrecorded := check_unrecorded consistent conforms
  full := by
    intro index limit retryAfter rejected
    obtain ⟨rule, listed, limit, full, absent, _⟩ := check_rejected consistent conforms rejected
    exact ⟨rule, listed, limit, full, absent⟩
  retry := by
    intro index limit retryAfter rejected others later waited orderly quiet
    have ordered := (pairwise_cons.mp orderly.left.ordered).1
    obtain ⟨_, before⟩ := orderly.last
    have after := run_consistent (.checkAndConsume input :: others) consistent orderly.left (by
        intro time member
        rcases mem_cons.mp member with rfl | member
        · exact le_rfl
        · exact ordered time member)
      (le_trans (le_add_right _ _) waited) before
    exact retry_not_rejected consistent conforms rejected waited after quiet
  capacity := fun valid _ refused => check_refused consistent conforms valid refused

/-- Usage limits over any sequence of calls that use each rule key alike, at times
that do not go back: no key has more events that count than its limit, the counts
are exact and within the configured maxima, and every further check is fair. -/
theorem usage_limits_never_oversell (shapes : Shapes) (config : MemoryRuntimeStateConfig)
    (calls : List UsageLimitCall) (orderly : Orderly shapes calls) :
    (∀ now, (∀ time ∈ times calls, time ≤ now) → ∀ key,
      (counting shapes (run shapes config start calls) now key).Finite ∧
        (counting shapes (run shapes config start calls) now key).ncard ≤ (shapes key).limit) ∧
    (run shapes config start calls).state.totalEvents =
      (run shapes config start calls).state.windows.total (·.events.size) ∧
    (run shapes config start calls).state.windows.size ≤ config.maxUsageLimitWindows ∧
    (run shapes config start calls).state.totalEvents ≤ config.maxUsageLimitEvents ∧
    ∀ input, Orderly shapes (calls ++ [.checkAndConsume input]) →
      FairCheck shapes config (run shapes config start calls) input := by
  have reached : ∀ now, (∀ time ∈ times calls, time ≤ now) →
      Consistent shapes config now (run shapes config start calls) := fun now before =>
    run_consistent calls (start_consistent shapes config 0) orderly (fun _ _ => zero_le _)
      (zero_le now) before
  have last := reached ((times calls).foldr max 0) (fun time member =>
    le_max_of_le' 0 member le_rfl)
  refine ⟨fun now before => (reached now before).within, last.sound.counted, last.windows,
    last.events, ?_⟩
  intro input next
  obtain ⟨conforms, before⟩ := next.last
  exact fairCheck_of_consistent (reached _ before) conforms

def sampleRule : UsageLimitRule := ⟨"\x7buser\x7d:minute", 1, 60, 60⟩

def sampleCheck (event : String) (now : Nat) : UsageLimitInput := ⟨[sampleRule], event, now⟩

theorem usage_limits_never_oversell_sample :
    (runtimeCheckAndConsume ⟨4, 4⟩ (sampleCheck "second" 2500)
      (run (fun _ => ⟨1, 60⟩) ⟨4, 4⟩ start [.checkAndConsume (sampleCheck "first" 1000)]).state).1 =
        .ok (.rejected 0 1 59) ∧
    (counting (fun _ => ⟨1, 60⟩)
      (run (fun _ => ⟨1, 60⟩) ⟨4, 4⟩ start [.checkAndConsume (sampleCheck "first" 1000)])
      2500 sampleRule.key).ncard = 1 := by
  have conforms : ∀ event now, Conforms (fun _ => ⟨1, 60⟩) (sampleCheck event now) := by
    simp [Conforms, sampleCheck, sampleRule]
  have rejected : (runtimeCheckAndConsume ⟨4, 4⟩ (sampleCheck "second" 2500)
      (run (fun _ => ⟨1, 60⟩) ⟨4, 4⟩ start [.checkAndConsume (sampleCheck "first" 1000)]).state).1 =
        .ok (.rejected 0 1 59) := by decide +kernel
  obtain ⟨_, _, _, _, fair⟩ := usage_limits_never_oversell (fun _ => ⟨1, 60⟩) ⟨4, 4⟩
    [.checkAndConsume (sampleCheck "first" 1000)]
    ⟨by simp [conforms], by simp [times]⟩
  obtain ⟨rule, listed, _, full, _⟩ := (fair (sampleCheck "second" 2500)
    ⟨by simp [conforms], by simp [times, sampleCheck]⟩).full _ _ _ rejected
  cases listed
  exact ⟨rejected, full⟩

end UsageLedger

end Aeris.Runtime
