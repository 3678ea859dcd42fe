import Mathlib.Order.Basic

/-! A quota of limited capacity. What is admitted counts until it is released; a
record that is removed while it counts goes on counting as retired. When nothing
is admitted after the first removal, the capacity is never exceeded. -/
namespace Aeris.Quota

structure Load where
  active : Nat
  retired : Nat

def Within (limit : Nat) (load : Load) : Prop :=
  load.active + load.retired ≤ limit

inductive Step (limit : Nat) (before after : Load) : Prop where
  | shrink (fewer : after.active ≤ before.active) (same : after.retired = before.retired)
  | grant (nothing : before.retired = 0) (same : after.retired = 0) (room : after.active ≤ limit)
  | retire (amount : Nat) (moved : after.active + amount ≤ before.active)
      (counted : after.retired = before.retired + amount)

theorem step_within {limit before after} (step : Step limit before after)
    (within : Within limit before) : Within limit after := by
  unfold Within at within ⊢
  cases step with
  | shrink fewer same => omega
  | grant nothing same room => omega
  | retire amount moved counted => omega

/-- A run stays within the limit when every event is a step of its load. What
makes it one may depend on the events to come. -/
theorem run_within {State Event limit} (next : State → Event → State)
    (load : State → Load) (invariant : State → List Event → Prop)
    (kept : ∀ state event rest, invariant state (event :: rest) →
      invariant (next state event) rest ∧ Step limit (load state) (load (next state event)))
    (events : List Event) : ∀ state, invariant state events → Within limit (load state) →
      invariant (events.foldl next state) [] ∧ Within limit (load (events.foldl next state)) := by
  induction events with
  | nil => intro state holds within; exact ⟨holds, within⟩
  | cons event rest ih =>
    intro state holds within
    obtain ⟨still, step⟩ := kept state event rest holds
    exact ih (next state event) still (step_within step within)

end Aeris.Quota
