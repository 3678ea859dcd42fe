import Mathlib.Logic.Relation
import Mathlib.Tactic

/-! Transition systems: what one step keeps holds in every state a run reaches, and a
system whose steps use up a measure comes to a state where it is done. -/
namespace Aeris.Transition

open Relation

variable {State : Type*} {step : State → State → Prop}

theorem invariant {Keeps : State → Prop}
    (kept : ∀ before after, Keeps before → step before after → Keeps after)
    {start state} (run : ReflTransGen step start state) (first : Keeps start) : Keeps state := by
  induction run with
  | refl => exact first
  | tail _ last ih => exact kept _ _ ih last

/-- A system that can go on until it is done, and cannot go on for ever, gets done. -/
theorem gets_done (Keeps Done : State → Prop) (measure : State → Nat)
    (kept : ∀ before after, Keeps before → step before after → Keeps after)
    (decreases : ∀ before after, Keeps before → step before after → measure after < measure before)
    (goesOn : ∀ state, Keeps state → ¬ Done state → ∃ next, step state next)
    {state} (first : Keeps state) : ∃ last, ReflTransGen step state last ∧ Done last := by
  induction size : measure state using Nat.strong_induction_on generalizing state with
  | _ size ih =>
    by_cases done : Done state
    · exact ⟨state, .refl, done⟩
    · obtain ⟨next, taken⟩ := goesOn state first done
      have smaller := decreases _ _ first taken
      obtain ⟨last, rest, done⟩ := ih _ (size ▸ smaller) (kept _ _ first taken) rfl
      exact ⟨last, .head taken rest, done⟩

end Aeris.Transition
