import Mathlib.Tactic

/-! Calls that pass a row of checks and stop at the first one that fails. A call that
went through passed them all, and a call whose checks all pass goes through. -/
namespace Aeris.Checked

variable {Stop α β : Type}

def require (condition : Prop) [Decidable condition] (stop : Stop) : Except Stop Unit :=
  if condition then .ok () else .error stop

def expect (found : Option α) (stop : Stop) : Except Stop α :=
  match found with
  | some value => .ok value
  | none => .error stop

theorem bind_ok_iff {first : Except Stop α} {rest} {value : β} :
    (first >>= rest) = .ok value ↔ ∃ middle, first = .ok middle ∧ rest middle = .ok value := by
  cases first with
  | error stop | ok middle => simp [bind, Except.bind]

theorem require_ok_iff {condition} [Decidable condition] {stop : Stop} {value} :
    require condition stop = .ok value ↔ condition := by
  by_cases holds : condition <;> simp [require, holds]

theorem expect_ok_iff {found} {stop : Stop} {value : α} :
    expect found stop = .ok value ↔ found = some value := by
  cases found <;> simp [expect]

theorem mapError_ok_iff {Other} {result : Except Stop α} {convert : Stop → Other}
    {value : α} : result.mapError convert = .ok value ↔ result = .ok value := by
  cases result <;> simp [Except.mapError]

end Aeris.Checked
