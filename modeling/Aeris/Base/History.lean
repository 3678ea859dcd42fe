import Mathlib.Data.List.Basic
import Mathlib.Tactic

/-! Histories: lists of events in the order in which they happened, and properties
that each event has in view of the events before it. -/
namespace Aeris.History

open List

variable {Event : Type*}

/-- Whenever an event happened, the property held of it and of the events before it. -/
def Each (Good : List Event → Event → Prop) (history : List Event) : Prop :=
  ∀ before event after, history = before ++ event :: after → Good before event

variable {Good : List Event → Event → Prop} {history : List Event}

theorem each_nil : Each Good [] := by
  intro before event after same
  cases before <;> cases same

theorem each_snoc (event : Event) :
    Each Good (history ++ [event]) ↔ Each Good history ∧ Good history event := by
  constructor
  · intro each
    constructor
    · intro before earlier after same
      exact each before earlier (after ++ [event]) (by rw [same]; simp)
    · exact each history event [] rfl
  · rintro ⟨each, last⟩ before other after same
    -- the split is at the last event or before it
    rcases eq_nil_or_concat after with rfl | ⟨rest, final, rfl⟩
    · have equal := append_inj' same rfl
      rw [← equal.1, ← cons.inj equal.2 |>.1]
      exact last
    · have equal : history ++ [event] = (before ++ other :: rest) ++ [final] := by
        simpa using same
      exact each before other rest (append_inj' equal rfl).1

theorem each_cons (event : Event) : Each Good (event :: history) ↔
      Good [] event ∧ Each (fun before later => Good (event :: before) later) history := by
  constructor
  · intro each
    exact ⟨each [] event history rfl, fun before later after same =>
      each (event :: before) later after (by rw [same]; rfl)⟩
  · rintro ⟨first, each⟩ before other after same
    cases before with
    | nil =>
      obtain ⟨rfl, -⟩ := cons.inj same
      exact first
    | cons earlier before =>
      obtain ⟨rfl, rest⟩ := cons.inj same
      exact each before other after rest

theorem each_append (start : List Event) : Each Good (start ++ history) ↔
      Each Good start ∧ Each (fun before later => Good (start ++ before) later) history := by
  induction start generalizing Good with
  | nil => simp [each_nil]
  | cons event start ih => simp only [cons_append, each_cons, ih, and_assoc]

theorem each_of_forall (good : ∀ event ∈ history, ∀ before, Good before event) :
    Each Good history := by
  intro before event after same
  exact good event (by simp [same]) before

theorem Each.mem (each : Each Good history) {event} (member : event ∈ history) :
    ∃ before after, history = before ++ event :: after ∧ Good before event := by
  obtain ⟨before, after, same⟩ := append_of_mem member
  exact ⟨before, after, same, each before event after same⟩

theorem Each.trichotomy (each : Each Good history) {first second}
    (left : first ∈ history) (right : second ∈ history) :
    first = second ∨ (∃ before, first ∈ before ∧ Good before second) ∨
      ∃ before, second ∈ before ∧ Good before first := by
  obtain ⟨before, after, rfl, good⟩ := each.mem left
  rcases mem_append.mp right with earlier | rest
  · exact .inr (.inr ⟨before, earlier, good⟩)
  · rcases mem_cons.mp rest with rfl | later
    · exact .inl rfl
    · obtain ⟨middle, tail, rfl⟩ := append_of_mem later
      refine .inr (.inl ⟨before ++ first :: middle, by simp, ?_⟩)
      exact each (before ++ first :: middle) second tail (by simp)

end Aeris.History
