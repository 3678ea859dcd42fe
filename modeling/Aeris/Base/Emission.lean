import Mathlib.Data.List.Basic
import Mathlib.Tactic

/-! Handlers that emit events, and a reader that follows what they emit. A reader gives up
at the first event that makes no sense to it. `Leads` is the triple of a handler: from a
state and a reader that belong together it comes to a state and a reader that do. -/
namespace Aeris.Emission

variable {State Event View : Type*}

abbrev Handler (State Event : Type*) := State → List Event × State

def Handler.andThen (first second : Handler State Event) : Handler State Event := fun state =>
  ((first state).1 ++ (second (first state).2).1, (second (first state).2).2)

def follow (advance : View → Event → Option View) (view : View) (events : List Event) :
    Option View :=
  events.foldlM advance view

section

variable {advance : View → Event → Option View}

@[simp]
theorem follow_nil (view : View) : follow advance view [] = some view := rfl

theorem follow_cons (view : View) (event : Event) (events : List Event) :
    follow advance view (event :: events) =
      (advance view event).bind fun next => follow advance next events := by
  rfl

theorem follow_append (view : View) (first second : List Event) :
    follow advance view (first ++ second) =
      (follow advance view first).bind fun next => follow advance next second := by
  rw [follow, List.foldlM_append]
  rfl

variable (advance)

def Leads (before after : State → View → Prop) (handler : Handler State Event) : Prop :=
  ∀ state view, before state view →
    ∃ next, follow advance view (handler state).1 = some next ∧ after (handler state).2 next

variable {advance} {before middle after : State → View → Prop} {first second : Handler State Event}

theorem Leads.andThen (left : Leads advance before middle first)
    (right : Leads advance middle after second) :
    Leads advance before after (first.andThen second) := by
  intro state view start
  obtain ⟨next, follows, holds⟩ := left state view start
  obtain ⟨last, goesOn, ends⟩ := right _ next holds
  refine ⟨last, ?_, ends⟩
  rw [Handler.andThen, follow_append, follows, Option.bind_some, goesOn]

end

end Aeris.Emission
