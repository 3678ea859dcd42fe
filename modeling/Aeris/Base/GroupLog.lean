import Aeris.Base.History
import Mathlib.Logic.Function.Basic
import Mathlib.Logic.Relation

/-! Logs that are read by groups. Entries are numbered when they are appended and may
leave a log at any time. A group reads a log in the order of the numbers and keeps
what it has read until it acknowledges it or the entry is taken away; how entries
are named is left open, as long as a name determines its number. -/
namespace Aeris.GroupLog

open History List
open Function (update update_apply update_of_ne update_self)

variable {Name Group Id Body Reason : Type}

@[ext]
structure Log (Name Group Id Body : Type) where
  issued : Nat
  entries : Name → List (Id × Body)
  cursor : Name × Group → Option Nat
  pending : Name × Group → Id → Option Body

inductive Event (Name Group Id Body Reason : Type) where
  | appended (name : Name) (id : Id) (body : Body)
  | trimmed (name : Name) (id : Id)
  | delivered (name : Name) (group : Group) (id : Id) (body : Body)
  | claimed (name : Name) (group : Group) (id : Id) (body : Body)
  | acked (name : Name) (group : Group) (id : Id)
  | removed (name : Name) (id : Id) (why : Reason)
  deriving DecidableEq

structure Seen (Name Group Id Body Reason : Type) where
  log : Log Name Group Id Body
  history : List (Event Name Group Id Body Reason)

def Left (name : Name) (id : Id) (history : List (Event Name Group Id Body Reason)) : Prop :=
  .trimmed name id ∈ history ∨ ∃ why, .removed name id why ∈ history

def Closed (name : Name) (group : Group) (id : Id)
    (history : List (Event Name Group Id Body Reason)) : Prop :=
  .acked name group id ∈ history ∨ ∃ why, .removed name id why ∈ history

/-- What holds of an event in view of the events before it. -/
def Good (number : Id → Nat) (before : List (Event Name Group Id Body Reason)) :
    Event Name Group Id Body Reason → Prop
  | .appended _ id _ =>
    ∀ name other body, .appended name other body ∈ before → number other < number id
  | .trimmed _ _ => True
  | .delivered name group id body =>
    .appended name id body ∈ before ∧
    (∀ other content, .delivered name group other content ∈ before → number other < number id) ∧
    (∀ other content, .appended name other content ∈ before → number other < number id →
      .delivered name group other content ∈ before ∨ Left name other before) ∧
    ¬ Closed name group id before
  | .claimed name group id body =>
    .delivered name group id body ∈ before ∧ ¬ Closed name group id before
  | .acked name group id => ∃ body, .delivered name group id body ∈ before
  | .removed name id _ =>
    (∃ body, .appended name id body ∈ before) ∧ ∀ why, .removed name id why ∉ before

def numbers (number : Id → Nat) (history : List (Event Name Group Id Body Reason)) : List Nat :=
  history.filterMap (fun event => match event with
    | .appended _ id _ => some (number id)
    | _ => none)

structure Sound (number : Id → Nat) (seen : Seen Name Group Id Body Reason) : Prop where
  numbered : numbers number seen.history = (List.range seen.log.issued).map (· + 1)
  known : ∀ name entry, entry ∈ seen.log.entries name →
    .appended name entry.1 entry.2 ∈ seen.history ∧
      ∀ why, .removed name entry.1 why ∉ seen.history
  sorted : ∀ name,
    (seen.log.entries name).Pairwise (fun first second => number first.1 < number second.1)
  kept : ∀ name id body, .appended name id body ∈ seen.history →
    (id, body) ∈ seen.log.entries name ∨ Left name id seen.history
  pending : ∀ name group id body, seen.log.pending (name, group) id = some body →
    .delivered name group id body ∈ seen.history ∧ ¬ Closed name group id seen.history
  held : ∀ name group id body, .delivered name group id body ∈ seen.history →
    Closed name group id seen.history ∨ seen.log.pending (name, group) id = some body
  reached : ∀ name group id body, .delivered name group id body ∈ seen.history →
    ∃ last, seen.log.cursor (name, group) = some last ∧ number id ≤ last
  passed : ∀ name group last, seen.log.cursor (name, group) = some last →
    last ≤ seen.log.issued ∧ ∀ id body, .appended name id body ∈ seen.history →
      number id ≤ last →
        .delivered name group id body ∈ seen.history ∨ Left name id seen.history
  each : Each (Good number) seen.history

variable {number : Id → Nat} {seen next : Seen Name Group Id Body Reason}

theorem numbers_append (number : Id → Nat) (first second : List (Event Name Group Id Body Reason)) :
    numbers number (first ++ second) = numbers number first ++ numbers number second :=
  filterMap_append

theorem mem_numbers (number : Id → Nat) (history : List (Event Name Group Id Body Reason))
    (value : Nat) : value ∈ numbers number history ↔
      ∃ name id body, .appended name id body ∈ history ∧ number id = value := by
  simp only [numbers, mem_filterMap]
  constructor
  · rintro ⟨event, member, same⟩
    cases event with
    | appended name id body => exact ⟨name, id, body, member, Option.some.inj same⟩
    | trimmed | delivered | claimed | acked | removed => cases same
  · rintro ⟨name, id, body, member, same⟩
    exact ⟨.appended name id body, member, congrArg some same⟩

variable {name : Name} {id : Id} {body : Body}

theorem Sound.issued (sound : Sound number seen)
    (appended : .appended name id body ∈ seen.history) :
    0 < number id ∧ number id ≤ seen.log.issued := by
  have member := (mem_numbers number seen.history (number id)).mpr
    ⟨name, id, body, appended, rfl⟩
  rw [sound.numbered, mem_map] at member
  obtain ⟨index, inside, same⟩ := member
  have bound := mem_range.mp inside
  omega

theorem Sound.unique (sound : Sound number seen) {other} {second : Id} {content}
    (left : .appended name id body ∈ seen.history)
    (right : .appended other second content ∈ seen.history) (same : number id = number second) :
    name = other ∧ id = second ∧ body = content := by
  rcases sound.each.trichotomy left right with equal | ⟨_, earlier, good⟩ | ⟨_, earlier, good⟩
  · cases equal
    exact ⟨rfl, rfl, rfl⟩
  · exact absurd (good _ _ _ earlier) (by omega)
  · exact absurd (good _ _ _ earlier) (by omega)

variable {group : Group}

theorem Sound.next_entry (sound : Sound number seen) {last entry}
    (reached : seen.log.cursor (name, group) = some last)
    (waiting : (seen.log.entries name).find? (fun entry => last < number entry.1) = some entry) :
    entry ∈ seen.log.entries name ∧ last < number entry.1 ∧
      ∀ id body, .appended name id body ∈ seen.history → number id < number entry.1 →
        .delivered name group id body ∈ seen.history ∨ Left name id seen.history := by
  obtain ⟨later, first, rest, split, before⟩ := List.find?_eq_some_iff_append.mp waiting
  have later : last < number entry.1 := of_decide_eq_true later
  refine ⟨mem_of_find?_eq_some waiting, later, ?_⟩
  intro id body appended smaller
  by_cases old : number id ≤ last
  · exact (sound.passed name group last reached).2 id body appended old
  · rcases sound.kept name id body appended with present | left
    · -- an entry in the log after the cursor and before the first such entry
      exfalso
      have sorted := sound.sorted name
      rw [split, pairwise_append] at sorted
      rw [split] at present
      rcases mem_append.mp present with inside | inside
      · exact absurd (before _ inside) (by simp; omega)
      · rcases mem_cons.mp inside with rfl | inside
        · exact lt_irrefl _ smaller
        · have order := (pairwise_cons.mp sorted.2.1).1 _ inside
          exact absurd order (by simp only; omega)
    · exact .inr left

theorem left_snoc (history : List (Event Name Group Id Body Reason)) (name : Name) (id : Id)
    (event : Event Name Group Id Body Reason) : Left name id (history ++ [event]) ↔
      Left name id history ∨ event = .trimmed name id ∨ ∃ why, event = .removed name id why := by
  simp only [Left, mem_append, mem_singleton, exists_or, eq_comm]
  tauto

theorem closed_snoc (history : List (Event Name Group Id Body Reason)) (name : Name)
    (group : Group) (id : Id) (event : Event Name Group Id Body Reason) :
    Closed name group id (history ++ [event]) ↔ Closed name group id history ∨
      event = .acked name group id ∨ ∃ why, event = .removed name id why := by
  simp only [Closed, mem_append, mem_singleton, exists_or, eq_comm]
  tauto

section Quiet

variable (sound : Sound number seen) {event : Event Name Group Id Body Reason}
  (quiet : ∀ name id body, event ≠ .appended name id body)
include sound quiet

theorem Sound.numbered_snoc :
    numbers number (seen.history ++ [event]) = (List.range seen.log.issued).map (· + 1) := by
  rw [numbers_append, sound.numbered]
  cases event with
  | appended name id body => exact absurd rfl (quiet name id body)
  | trimmed | delivered | claimed | acked | removed => exact append_nil _

theorem Sound.passed_snoc (name : Name) (group : Group) (last : Nat)
    (reached : seen.log.cursor (name, group) = some last) :
    last ≤ seen.log.issued ∧ ∀ id body, .appended name id body ∈ seen.history ++ [event] →
      number id ≤ last → .delivered name group id body ∈ seen.history ++ [event] ∨
        Left name id (seen.history ++ [event]) := by
  obtain ⟨bound, skipped⟩ := sound.passed name group last reached
  refine ⟨bound, fun id body appended small => ?_⟩
  rcases mem_append.mp appended with old | new
  · rw [left_snoc]
    exact (skipped id body old small).imp (mem_append_left _) .inl
  · exact absurd (mem_singleton.mp new).symm (quiet name id body)

end Quiet

/-! ## Steps -/

section Steps

variable [DecidableEq Name] [DecidableEq Group] [DecidableEq Id]

inductive Step (number : Id → Nat) (seen : Seen Name Group Id Body Reason) :
    Seen Name Group Id Body Reason → Prop where
  | append (name : Name) (id : Id) (body : Body)
      (next : number id = seen.log.issued + 1) :
      Step number seen
        ⟨{ seen.log with
            issued := seen.log.issued + 1
            entries := update seen.log.entries name
              (seen.log.entries name ++ [(id, body)]) }, seen.history ++ [.appended name id body]⟩
  | trim (name : Name) (oldest : Id × Body) (rest : List (Id × Body))
      (first : seen.log.entries name = oldest :: rest) :
      Step number seen
        ⟨{ seen.log with entries := update seen.log.entries name rest },
          seen.history ++ [.trimmed name oldest.1]⟩
  | deliver (name : Name) (group : Group) (last : Nat) (entry : Id × Body)
      (reached : seen.log.cursor (name, group) = some last)
      (waiting : (seen.log.entries name).find? (fun entry => last < number entry.1) = some entry) :
      Step number seen
        ⟨{ seen.log with
            cursor := update seen.log.cursor (name, group) (some (number entry.1))
            pending := update seen.log.pending (name, group)
              (update (seen.log.pending (name, group)) entry.1 (some entry.2)) },
          seen.history ++ [.delivered name group entry.1 entry.2]⟩
  | claim (name : Name) (group : Group) (id : Id) (body : Body)
      (held : seen.log.pending (name, group) id = some body) :
      Step number seen ⟨seen.log, seen.history ++ [.claimed name group id body]⟩
  | ack (name : Name) (group : Group) (id : Id) (body : Body)
      (held : seen.log.pending (name, group) id = some body) :
      Step number seen
        ⟨{ seen.log with
            pending := update seen.log.pending (name, group)
              (update (seen.log.pending (name, group)) id none) },
          seen.history ++ [.acked name group id]⟩
  | remove (name : Name) (id : Id) (why : Reason)
      (known : ∃ body, .appended name id body ∈ seen.history)
      (once : ∀ why, .removed name id why ∉ seen.history) :
      Step number seen
        ⟨{ seen.log with
            entries := update seen.log.entries name
              ((seen.log.entries name).filter (fun entry => entry.1 ≠ id))
            pending := fun place => if place.1 = name then
              update (seen.log.pending place) id none else seen.log.pending place },
          seen.history ++ [.removed name id why]⟩
  | create (name : Name) (group : Group)
      (fresh : seen.log.cursor (name, group) = none) :
      Step number seen
        ⟨{ seen.log with cursor := update seen.log.cursor (name, group) (some 0) }, seen.history⟩

variable {number : Id → Nat} {seen next : Seen Name Group Id Body Reason}

omit [DecidableEq Group] [DecidableEq Id] in
theorem append_sound (sound : Sound number seen) (following : number id = seen.log.issued + 1) :
    Sound number
      ⟨{ seen.log with
          issued := seen.log.issued + 1
          entries := update seen.log.entries name
            (seen.log.entries name ++ [(id, body)]) },
        seen.history ++ [.appended name id body]⟩ where
  numbered := by
    rw [numbers, filterMap_append, range_succ, map_append]
    change numbers number seen.history ++ [number id] = _
    rw [sound.numbered, following]
    rfl
  known := by
    intro other entry member
    by_cases same : other = name
    · subst same
      dsimp only at member
      rw [update_self, mem_append, mem_singleton] at member
      rcases member with member | rfl
      · simpa using (sound.known other entry member).imp_left .inl
      · refine ⟨by simp, ?_⟩
        intro why removed
        simp only [mem_append, mem_singleton, reduceCtorEq, or_false] at removed
        obtain ⟨_, _, split, ⟨content, known⟩, _⟩ := sound.each.mem removed
        have bound := (sound.issued (split ▸ mem_append_left _ known)).2
        omega
    · dsimp only at member
      rw [update_of_ne same] at member
      simpa using (sound.known other entry member).imp_left .inl
  sorted := by
    intro other
    by_cases same : other = name
    · subst same
      dsimp only
      rw [update_self, pairwise_append]
      refine ⟨sound.sorted other, pairwise_singleton _ _, ?_⟩
      intro entry member fresh new
      cases mem_singleton.mp new
      have bound := (sound.issued (sound.known other entry member).1).2
      dsimp only
      omega
    · dsimp only
      rw [update_of_ne same]
      exact sound.sorted other
  kept := by
    intro other second content appended
    rw [left_snoc]
    by_cases same : other = name
    · subst same
      dsimp only
      rw [update_self]
      rcases mem_append.mp appended with old | new
      · rcases sound.kept other second content old with present | left
        · exact .inl (mem_append_left _ present)
        · exact .inr (.inl left)
      · cases mem_singleton.mp new
        exact .inl (by simp)
    · dsimp only
      rw [update_of_ne same]
      rcases mem_append.mp appended with old | new
      · exact (sound.kept other second content old).imp_right .inl
      · cases mem_singleton.mp new
        exact absurd rfl same
  pending := by simpa [closed_snoc] using sound.pending
  held := by simpa [closed_snoc] using sound.held
  reached := by simpa using sound.reached
  passed := by
    intro other group last at_
    obtain ⟨bound, skipped⟩ := sound.passed other group last at_
    refine ⟨Nat.le_succ_of_le bound, ?_⟩
    intro second content appended small
    rcases mem_append.mp appended with old | new
    · simpa [left_snoc] using skipped second content old small
    · cases mem_singleton.mp new
      omega
  each := by
    rw [each_snoc]
    refine ⟨sound.each, ?_⟩
    intro other second content appended
    have bound := (sound.issued appended).2
    omega

omit [DecidableEq Group] [DecidableEq Id] in
theorem trim_sound (sound : Sound number seen) {oldest : Id × Body} {rest : List (Id × Body)}
    (first : seen.log.entries name = oldest :: rest) : Sound number
      ⟨{ seen.log with entries := update seen.log.entries name rest },
        seen.history ++ [.trimmed name oldest.1]⟩ where
  numbered := sound.numbered_snoc (by simp)
  known := by
    intro other entry member
    dsimp only at member
    rw [update_apply] at member
    have present : entry ∈ seen.log.entries other := by
      split_ifs at member with same
      · rw [same, first]
        exact mem_cons_of_mem _ member
      · exact member
    simpa using sound.known other entry present
  sorted := by
    intro other
    dsimp only
    rw [update_apply]
    split_ifs with same
    · exact (pairwise_cons.mp (first ▸ sound.sorted name)).2
    · exact sound.sorted other
  kept := by
    intro other second content appended
    rw [left_snoc]
    dsimp only
    rw [update_apply]
    rcases sound.kept other second content (by simpa using appended) with present | left
    · split_ifs with same
      · subst same
        rw [first] at present
        rcases mem_cons.mp present with rfl | present
        · exact .inr (.inr (.inl rfl))
        · exact .inl present
      · exact .inl present
    · exact .inr (.inl left)
  pending := by simpa [closed_snoc] using sound.pending
  held := by simpa [closed_snoc] using sound.held
  reached := by simpa using sound.reached
  passed := sound.passed_snoc (by simp)
  each := (each_snoc _).mpr ⟨sound.each, trivial⟩

theorem deliver_sound (sound : Sound number seen) {last entry}
    (reached : seen.log.cursor (name, group) = some last)
    (waiting : (seen.log.entries name).find? (fun entry => last < number entry.1) = some entry) :
    Sound number
      ⟨{ seen.log with
          cursor := update seen.log.cursor (name, group) (some (number entry.1))
          pending := update seen.log.pending (name, group)
            (update (seen.log.pending (name, group)) entry.1 (some entry.2)) },
        seen.history ++ [.delivered name group entry.1 entry.2]⟩ := by
  obtain ⟨present, later, skipped⟩ := sound.next_entry reached waiting
  obtain ⟨appended, never⟩ := sound.known name entry present
  -- what the group has received has a smaller number
  have smaller : ∀ id body, .delivered name group id body ∈ seen.history →
      number id < number entry.1 := by
    intro id body delivered
    obtain ⟨reachedLast, same, bound⟩ := sound.reached name group id body delivered
    cases reached.symm.trans same
    omega
  have open_ : ¬ Closed name group entry.1 seen.history := by
    rintro (acked | ⟨why, removed⟩)
    · obtain ⟨before, after, same, body, delivered⟩ := sound.each.mem acked
      exact lt_irrefl _ (smaller _ _ (same ▸ mem_append_left _ delivered))
    · exact never why removed
  constructor
  · exact sound.numbered_snoc (by simp)
  · simpa using sound.known
  · exact sound.sorted
  · simpa [left_snoc] using sound.kept
  · intro other reader second content found
    rw [closed_snoc]
    dsimp only at found
    rw [update_apply] at found
    split_ifs at found with place
    · cases place
      rw [update_apply] at found
      split_ifs at found with same
      · subst same
        cases found
        exact ⟨by simp, by simpa using open_⟩
      · simpa using (sound.pending name group second content found).imp_left .inl
    · simpa using (sound.pending other reader second content found).imp_left .inl
  · intro other reader second content delivered
    rw [closed_snoc]
    dsimp only
    rw [update_apply]
    rcases mem_append.mp delivered with old | new
    · rcases sound.held other reader second content old with closed | held
      · exact .inl (.inl closed)
      · refine .inr ?_
        split_ifs with place
        · cases place
          rw [update_of_ne]
          · exact held
          · rintro rfl
            exact lt_irrefl _ (smaller _ _ old)
        · exact held
    · cases mem_singleton.mp new
      rw [if_pos rfl, update_self]
      exact .inr rfl
  · intro other reader second content delivered
    dsimp only
    rw [update_apply]
    rcases mem_append.mp delivered with old | new
    · split_ifs with place
      · cases place
        exact ⟨_, rfl, (smaller _ _ old).le⟩
      · exact sound.reached other reader second content old
    · cases mem_singleton.mp new
      exact ⟨_, if_pos rfl, le_rfl⟩
  · intro other reader until_ at_
    simp only [left_snoc, mem_append, mem_singleton, reduceCtorEq, exists_false, or_false]
    dsimp only at at_
    rw [update_apply] at at_
    split_ifs at at_ with place
    · cases place
      cases at_
      refine ⟨(sound.issued appended).2, ?_⟩
      intro second content known small
      rcases small.lt_or_eq with less | equal
      · exact (skipped second content known less).imp_left .inl
      · obtain ⟨_, rfl, rfl⟩ := sound.unique known appended equal
        exact .inl (.inr rfl)
    · obtain ⟨bound, old⟩ := sound.passed other reader until_ at_
      exact ⟨bound, fun second content known small =>
        (old second content known small).imp_left .inl⟩
  · exact (each_snoc _).mpr ⟨sound.each, appended, smaller, skipped, open_⟩

omit [DecidableEq Name] [DecidableEq Group] [DecidableEq Id] in
theorem claim_sound (sound : Sound number seen)
    (held : seen.log.pending (name, group) id = some body) :
    Sound number ⟨seen.log, seen.history ++ [.claimed name group id body]⟩ where
  numbered := sound.numbered_snoc (by simp)
  known := by simpa using sound.known
  sorted := sound.sorted
  kept := by simpa [left_snoc] using sound.kept
  pending := by simpa [closed_snoc] using sound.pending
  held := by simpa [closed_snoc] using sound.held
  reached := by simpa using sound.reached
  passed := by simpa [left_snoc] using sound.passed
  each := (each_snoc _).mpr ⟨sound.each, sound.pending name group id body held⟩

theorem ack_sound (sound : Sound number seen)
    (held : seen.log.pending (name, group) id = some body) : Sound number
      ⟨{ seen.log with
          pending := update seen.log.pending (name, group)
            (update (seen.log.pending (name, group)) id none) },
        seen.history ++ [.acked name group id]⟩ where
  numbered := sound.numbered_snoc (by simp)
  known := by simpa using sound.known
  sorted := sound.sorted
  kept := by simpa [left_snoc] using sound.kept
  pending := by
    intro other reader second content found
    rw [closed_snoc]
    dsimp only at found
    rw [update_apply] at found
    have still : seen.log.pending (other, reader) second = some content ∧
        ¬ ((other, reader) = (name, group) ∧ second = id) := by
      split_ifs at found with place
      · rw [update_apply] at found
        split_ifs at found with same
        exact ⟨place ▸ found, fun both => same both.2⟩
      · exact ⟨found, fun both => place both.1⟩
    obtain ⟨delivered, open_⟩ := sound.pending other reader second content still.1
    refine ⟨mem_append_left _ delivered, ?_⟩
    rintro (closed | same | ⟨why, same⟩)
    · exact open_ closed
    · cases same
      exact still.2 ⟨rfl, rfl⟩
    · cases same
  held := by
    intro other reader second content delivered
    rw [closed_snoc]
    dsimp only
    rw [update_apply]
    rcases sound.held other reader second content (by simpa using delivered) with closed | held
    · exact .inl (.inl closed)
    · split_ifs with place
      · cases place
        rw [update_apply]
        split_ifs with same
        · exact .inl (.inr (.inl (same ▸ rfl)))
        · exact .inr held
      · exact .inr held
  reached := by simpa using sound.reached
  passed := by simpa [left_snoc] using sound.passed
  each := (each_snoc _).mpr ⟨sound.each, body, (sound.pending name group id body held).1⟩

omit [DecidableEq Group] in
theorem remove_sound (sound : Sound number seen) {why : Reason}
    (known : ∃ body, .appended name id body ∈ seen.history)
    (once : ∀ why, .removed name id why ∉ seen.history) : Sound number
      ⟨{ seen.log with
          entries := update seen.log.entries name
            ((seen.log.entries name).filter (fun entry => entry.1 ≠ id))
          pending := fun place => if place.1 = name then
            update (seen.log.pending place) id none else seen.log.pending place },
        seen.history ++ [.removed name id why]⟩ where
  numbered := sound.numbered_snoc (by simp)
  known := by
    intro other entry member
    dsimp only at member
    rw [update_apply] at member
    have still : entry ∈ seen.log.entries other ∧ ¬ (other = name ∧ entry.1 = id) := by
      split_ifs at member with same
      · obtain ⟨present, different⟩ := mem_filter.mp member
        exact ⟨same ▸ present, fun both => of_decide_eq_true different both.2⟩
      · exact ⟨member, fun both => same both.1⟩
    obtain ⟨appended, never⟩ := sound.known other entry still.1
    refine ⟨mem_append_left _ appended, ?_⟩
    intro reason removed
    rcases mem_append.mp removed with old | new
    · exact never reason old
    · cases mem_singleton.mp new
      exact still.2 ⟨rfl, rfl⟩
  sorted := by
    intro other
    dsimp only
    rw [update_apply]
    split_ifs with same
    · exact (sound.sorted name).filter _
    · exact sound.sorted other
  kept := by
    intro other second content appended
    rw [left_snoc]
    dsimp only
    rw [update_apply]
    rcases sound.kept other second content (by simpa using appended) with present | left
    · split_ifs with same
      · subst same
        by_cases gone : second = id
        · exact .inr (.inr (.inr ⟨why, gone ▸ rfl⟩))
        · exact .inl (mem_filter.mpr ⟨present, decide_eq_true gone⟩)
      · exact .inl present
    · exact .inr (.inl left)
  pending := by
    intro other reader second content found
    have still : seen.log.pending (other, reader) second = some content ∧
        ¬ (other = name ∧ second = id) := by
      dsimp only at found
      split_ifs at found with same
      · rw [update_apply] at found
        split_ifs at found with gone
        exact ⟨found, fun both => gone both.2⟩
      · exact ⟨found, fun both => same both.1⟩
    obtain ⟨delivered, open_⟩ := sound.pending other reader second content still.1
    rw [closed_snoc]
    refine ⟨mem_append_left _ delivered, ?_⟩
    rintro (closed | same | ⟨reason, same⟩)
    · exact open_ closed
    · cases same
    · cases same
      exact still.2 ⟨rfl, rfl⟩
  held := by
    intro other reader second content delivered
    rw [closed_snoc]
    dsimp only
    rcases sound.held other reader second content (by simpa using delivered) with closed | held
    · exact .inl (.inl closed)
    · split_ifs with same
      · rw [update_apply]
        split_ifs with gone
        · exact .inl (.inr (.inr ⟨why, by rw [same, gone]⟩))
        · exact .inr held
      · exact .inr held
  reached := by simpa using sound.reached
  passed := sound.passed_snoc (by simp)
  each := (each_snoc _).mpr ⟨sound.each, known, once⟩

omit [DecidableEq Id] in
theorem create_sound (sound : Sound number seen) (fresh : seen.log.cursor (name, group) = none) :
    Sound number
      ⟨{ seen.log with cursor := update seen.log.cursor (name, group) (some 0) },
        seen.history⟩ where
  numbered := sound.numbered
  known := sound.known
  sorted := sound.sorted
  kept := sound.kept
  pending := sound.pending
  held := sound.held
  reached := by
    intro other reader second content delivered
    obtain ⟨last, found, bound⟩ := sound.reached other reader second content delivered
    refine ⟨last, ?_, bound⟩
    dsimp only
    rw [update_of_ne]
    · exact found
    · rintro same
      cases (same ▸ found).symm.trans fresh
  passed := by
    intro other reader last at_
    dsimp only at at_
    rw [update_apply] at at_
    split_ifs at at_ with place
    · cases at_
      refine ⟨Nat.zero_le _, ?_⟩
      intro second content appended small
      have positive := (sound.issued appended).1
      omega
    · exact sound.passed other reader last at_
  each := sound.each

theorem step_sound (sound : Sound number seen) (step : Step number seen next) :
    Sound number next := by
  cases step with
  | append _ _ _ following => exact append_sound sound following
  | trim _ _ _ first => exact trim_sound sound first
  | deliver _ _ _ _ reached waiting => exact deliver_sound sound reached waiting
  | claim _ _ _ _ held => exact claim_sound sound held
  | ack _ _ _ _ held => exact ack_sound sound held
  | remove _ _ _ known once => exact remove_sound sound known once
  | create _ _ fresh => exact create_sound sound fresh

abbrev Steps (number : Id → Nat) : Seen Name Group Id Body Reason →
    Seen Name Group Id Body Reason → Prop :=
  Relation.ReflTransGen (Step number)

theorem trim_steps (name : Name) (dropped : List (Id × Body)) :
    ∀ (seen : Seen Name Group Id Body Reason) (kept : List (Id × Body)),
      seen.log.entries name = dropped ++ kept → Steps number seen
          ⟨{ seen.log with entries := update seen.log.entries name kept },
            seen.history ++ dropped.map (fun entry => .trimmed name entry.1)⟩ := by
  induction dropped with
  | nil =>
    intro seen kept whole
    have same : update seen.log.entries name kept = seen.log.entries :=
      Function.update_eq_self_iff.mpr whole.symm
    rw [same, map_nil, append_nil]
  | cons oldest rest ih =>
    intro seen kept whole
    have later := ih ⟨{ seen.log with
      entries := update seen.log.entries name (rest ++ kept) },
        seen.history ++ [.trimmed name oldest.1]⟩ kept (update_self _ _ _)
    simp only [Function.update_idem, append_assoc, singleton_append] at later
    exact .head (.trim name oldest (rest ++ kept) whole) later

theorem steps_sound (sound : Sound number seen) (steps : Steps number seen next) :
    Sound number next := by
  induction steps with
  | refl => exact sound
  | tail _ step ih => exact step_sound ih step

end Steps

end Aeris.GroupLog
