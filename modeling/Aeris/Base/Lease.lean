import Mathlib.Data.Option.Basic
import Mathlib.Logic.Function.Basic
import Mathlib.Tactic

/-! Leases that end by themselves. A ledger says for each holder until when its
last grant lasts; what has ended may stay in a ledger or be gone from it. Two
ledgers agree at an instant when they have the same leases that have not ended,
and then they agree ever after. -/
namespace Aeris.Lease

open Option

variable {Holder : Type*}

/-- A lease as it stands at an instant: one that has ended is none. -/
def live (now : Nat) (lease : Option Nat) : Option Nat :=
  lease.filter (fun expiresAt => now < expiresAt)

def Holds (ledger : Holder → Option Nat) (now : Nat) (holder : Holder) : Prop :=
  ∃ expiresAt, ledger holder = some expiresAt ∧ now < expiresAt

def Agree (now : Nat) (first second : Holder → Option Nat) : Prop :=
  ∀ holder, live now (first holder) = live now (second holder)

@[simp]
theorem live_none (now : Nat) : live now none = none := rfl

theorem live_eq_some (now : Nat) (lease : Option Nat) (expiresAt : Nat) :
    live now lease = some expiresAt ↔ lease = some expiresAt ∧ now < expiresAt := by
  simp [live, filter_eq_some_iff]

theorem live_eq_none (now : Nat) (lease : Option Nat) :
    live now lease = none ↔ ∀ expiresAt, lease = some expiresAt → expiresAt ≤ now := by
  simp [live, filter_eq_none_iff]

theorem live_live {now later} (order : now ≤ later) (lease : Option Nat) :
    live later (live now lease) = live later lease := by
  cases lease with
  | none => rfl
  | some expiresAt =>
    by_cases ended : now < expiresAt
    · simp [live, filter_some, ended]
    · have over_ : ¬ later < expiresAt := by omega
      simp [live, filter_some, ended, over_]

theorem holds_iff (ledger : Holder → Option Nat) (now : Nat) (holder : Holder) :
    Holds ledger now holder ↔ (live now (ledger holder)).isSome := by
  rw [isSome_iff_exists]
  exact exists_congr fun expiresAt => (live_eq_some now _ expiresAt).symm

theorem Agree.refl (now : Nat) (ledger : Holder → Option Nat) : Agree now ledger ledger :=
  fun _ => rfl

variable {now : Nat}

variable {first second : Holder → Option Nat}

theorem Agree.trans {third} (left : Agree now first second)
    (right : Agree now second third) : Agree now first third :=
  fun holder => (left holder).trans (right holder)

theorem Agree.later {now later} (agree : Agree now first second) (order : now ≤ later) :
    Agree later first second := by
  intro holder
  rw [← live_live order, ← live_live order (second holder), agree holder]

theorem Agree.holds (agree : Agree now first second) (holder : Holder) :
    Holds first now holder ↔ Holds second now holder := by
  rw [holds_iff, holds_iff, agree holder]

theorem Agree.update [DecidableEq Holder] (agree : Agree now first second) (holder : Holder)
    (lease : Option Nat) :
    Agree now (Function.update first holder lease) (Function.update second holder lease) := by
  intro other
  by_cases same : other = holder
  · subst same; simp
  · rw [Function.update_of_ne same, Function.update_of_ne same]
    exact agree other

end Aeris.Lease
