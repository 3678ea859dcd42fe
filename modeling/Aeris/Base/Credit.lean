import Mathlib.Data.List.Basic
import Mathlib.Tactic

/-! Credit for bytes that are sent in pieces: an amount that is spent whole or not at all
and filled up again, and the pieces a sequence is cut into. -/
namespace Aeris.Credit

open List

/-- What is left of a credit, or `none` while it does not suffice. Nothing costs nothing. -/
def spend (available amount : Nat) : Option Nat :=
  if amount = 0 then some available
  else if available ≥ amount then some (available - amount)
  else none

/-- A credit filled up, in 64 bits. -/
def refill (available amount : Nat) : Nat :=
  if amount = 0 then available else min (available + amount) (2 ^ 64 - 1)

theorem spend_eq_some (available amount left : Nat) :
    spend available amount = some left ↔ left + amount = available := by
  unfold spend
  split
  · simp only [Option.some.injEq]
    omega
  · split <;> simp <;> omega

theorem spend_isSome (available amount : Nat) :
    (spend available amount).isSome ↔ amount ≤ available := by
  unfold spend
  split
  · simp
    omega
  · split <;> simp <;> omega

theorem refill_eq {available amount} (small : available + amount < 2 ^ 64) :
    refill available amount = available + amount := by
  unfold refill
  split <;> omega

variable {α : Type*}

/-- Pieces of `size` items from the start, the last one as long as it comes. -/
def slices (size : Nat) (items : List α) : List (List α) :=
  if items.isEmpty ∨ size = 0 then []
  else items.take size :: slices size (items.drop size)
termination_by items.length
decreasing_by
  rename_i more
  have := length_pos_iff.mpr (mt isEmpty_iff.mpr (not_or.mp more).1)
  have := (not_or.mp more).2
  simp only [length_drop]
  omega

theorem slices_flatten {size} (positive : 0 < size) (items : List α) :
    (slices size items).flatten = items := by
  fun_induction slices size items with
  | case1 items last => simp_all [positive.ne']
  | case2 items more ih => rw [flatten_cons, ih, take_append_drop]

theorem slices_length_le (size : Nat) (items : List α) :
    ∀ slice ∈ slices size items, slice.length ≤ size := by
  fun_induction slices size items with
  | case1 => simp
  | case2 items more ih =>
    rintro slice member
    rcases mem_cons.mp member with rfl | later
    · simp
    · exact ih slice later

theorem slices_ne_nil (size : Nat) (items : List α) : ∀ slice ∈ slices size items, slice ≠ [] := by
  fun_induction slices size items with
  | case1 => simp
  | case2 items more ih =>
    rintro slice member
    rcases mem_cons.mp member with rfl | later
    · intro none
      rcases take_eq_nil_iff.mp none with empty | empty
      · exact more (.inr empty)
      · exact more (.inl (isEmpty_iff.mpr empty))
    · exact ih slice later

end Aeris.Credit
