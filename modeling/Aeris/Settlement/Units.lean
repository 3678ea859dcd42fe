import Mathlib.Algebra.Order.Floor.Ring
import Mathlib.Data.Rat.Floor
import Aeris.Base.RustStd

/-! Money. The ledger counts whole units of 1e-8 USD; wallets store an `f64`
amount of USD. An amount here is the exact number that the shortest decimal text
of the `f64` denotes, and sums are exact: the rounding of binary fractions is
the one thing left out. -/
namespace Aeris.Settlement

open RustStd

/-- A `DataLayerError` with its message, or the panic of a failed `expect`. -/
inductive Failure where
  | invalidInput (message : String)
  | unexpectedValue (message : String)
  | panic (message : String)
  deriving DecidableEq, Repr

abbrev Result := Except Failure

def invalid {α : Type} (message : String) : Result α := .error (.invalidInput message)

/-- The loop of a validator: it stops at the first failure. -/
def forEach {Item : Type} (check : Nat → Item → Result Unit) : Nat → List Item → Result Unit
  | _, [] => .ok ()
  | index, item :: rest => do
      check index item
      forEach check (index + 1) rest

theorem bind_ok {α β} {first : Result α} {rest} {value : β}
    (success : (first >>= rest) = .ok value) :
    ∃ middle, first = .ok middle ∧ rest middle = .ok value := by
  cases first with
  | error failure => cases success
  | ok middle => exact ⟨middle, rfl, success⟩

theorem check_ok {β} {check : Result Unit} {rest} {value : β}
    (success : (check >>= rest) = .ok value) : rest () = .ok value := by
  obtain ⟨_, _, later⟩ := bind_ok success
  exact later

theorem refuse_ok {α condition} [Decidable condition] {message rest} {value : α}
    (success : (if condition then invalid message else rest) = .ok value) :
    ¬ condition ∧ rest = .ok value := by
  split_ifs at success with refused
  · cases success
  · exact ⟨refused, success⟩

/-- The computation fails with nothing on the list. -/
def Spares {α : Type} (listed : List Failure) (result : Result α) : Prop :=
  ∀ failure ∈ listed, result ≠ .error failure

section Spares

variable {α β : Type} {listed : List Failure}

theorem Spares.ok (value : α) : Spares listed (.ok value) := fun _ _ => nofun

theorem Spares.error {failure} (other : failure ∉ listed) :
    Spares listed (.error failure : Result α) := by
  rintro _ member ⟨⟩
  exact other member

theorem Spares.bind {first} {rest : α → Result β} (start : Spares listed first)
    (onward : ∀ middle, first = .ok middle → Spares listed (rest middle)) :
    Spares listed (first >>= rest) := by
  cases first with
  | error failure => exact .error fun member => start failure member rfl
  | ok middle => exact onward middle rfl

theorem Spares.refuse {condition} [Decidable condition] {message}
    {rest : Result α} (other : .invalidInput message ∉ listed)
    (onward : ¬ condition → Spares listed rest) :
    Spares listed (if condition then invalid message else rest) := by
  split_ifs with refused
  · exact .error other
  · exact onward refused

theorem Spares.forEach {Item check} {items : List Item}
    (each : ∀ item ∈ items, ∀ index, Spares listed (check index item)) (start : Nat) :
    Spares listed (forEach check start items) := by
  induction items generalizing start with
  | nil => exact .ok ()
  | cons head rest ih =>
    obtain ⟨first, each⟩ := List.forall_mem_cons.mp each
    exact .bind (first start) fun _ _ => ih each (start + 1)

end Spares

theorem forEach_ok {Item} (check : Nat → Item → Result Unit) (items : List Item) :
    ∀ start, forEach check start items = .ok () →
      ∀ item ∈ items, ∃ index, check index item = .ok () := by
  induction items with
  | nil => intro start _ item member; cases member
  | cons head rest ih =>
    intro start success item member
    obtain ⟨_, first, later⟩ := bind_ok success
    rcases List.mem_cons.mp member with rfl | member
    · exact ⟨start, first⟩
    · exact ih (start + 1) later item member

inductive Usd where
  | finite (value : ℚ)
  | infinite (negative : Bool)
  | nan
  deriving DecidableEq

namespace Usd

def isFinite : Usd → Bool
  | .finite _ => true
  | _ => false

/-- `usd < 0.0`. -/
def isNegative : Usd → Bool
  | .finite value => value < 0
  | .infinite negative => negative
  | .nan => false

/-- `usd >= 0.0`. A NaN is neither below zero nor at least zero. -/
def isNonnegative : Usd → Bool
  | .finite value => 0 ≤ value
  | .infinite negative => !negative
  | .nan => false

/-- `usd.max(0.0)`, which takes the zero for a NaN. -/
def maxZero : Usd → Usd
  | .finite value => .finite (max value 0)
  | .infinite false => .infinite false
  | .infinite true | .nan => .finite 0

def add : Usd → Usd → Usd
  | .finite left, .finite right => .finite (left + right)
  | .nan, _ | _, .nan => .nan
  | .infinite left, .infinite right => if left = right then .infinite left else .nan
  | .infinite negative, .finite _ | .finite _, .infinite negative => .infinite negative

instance : Add Usd := ⟨add⟩

def zero : Usd := .finite 0

end Usd

def requestFundsUnitsPerUsd : Nat := 100000000

def maxRequestFundsUnits : Nat := 2 ^ 52 - 1

def requestFundsUnits (usd : Usd) (roundUp : Bool) : Result Nat :=
  match usd with
  | .finite value =>
    if value < 0 then
      invalid "request funds amount is not a finite supported nonnegative amount"
    else
      let scaled := value * requestFundsUnitsPerUsd
      let units := if roundUp then ⌈scaled⌉.toNat else ⌊scaled⌋.toNat
      if units ≤ maxRequestFundsUnits then .ok units
      else invalid "request funds amount exceeds supported range"
  | _ => invalid "request funds amount is not a finite supported nonnegative amount"

def requestFundsAvailableUnits (usd : Usd) : Result Nat := requestFundsUnits usd false

def requestFundsAuthorizedUnits (usd : Usd) : Result Nat := requestFundsUnits usd true

def requestFundsUsd (units : Nat) : Usd := .finite (units / requestFundsUnitsPerUsd)

/-- The whole units in an amount, with no limit: what an account owns. -/
def Usd.wholeUnits : Usd → Nat
  | .finite value => ⌊value * requestFundsUnitsPerUsd⌋.toNat
  | _ => 0

theorem scaled_units (units : Nat) :
    ((units : ℚ) / requestFundsUnitsPerUsd) * requestFundsUnitsPerUsd = (units : ℤ) := by
  have positive : (requestFundsUnitsPerUsd : ℚ) ≠ 0 := by norm_num [requestFundsUnitsPerUsd]
  rw [div_mul_cancel₀ _ positive, Int.cast_natCast]

@[simp]
theorem wholeUnits_requestFundsUsd (units : Nat) : (requestFundsUsd units).wholeUnits = units := by
  simp only [requestFundsUsd, Usd.wholeUnits, scaled_units, Int.floor_intCast, Int.toNat_natCast]

theorem requestFundsUnits_usd (units : Nat) (roundUp : Bool) :
    requestFundsUnits (requestFundsUsd units) roundUp =
      if units ≤ maxRequestFundsUnits then .ok units
      else invalid "request funds amount exceeds supported range" := by
  have nonnegative : ¬ ((units : ℚ) / requestFundsUnitsPerUsd < 0) := by rw [not_lt]; positivity
  cases roundUp <;> simp [requestFundsUnits, requestFundsUsd, nonnegative, scaled_units]

theorem requestFundsAvailableUnits_usd {units} (supported : units ≤ maxRequestFundsUnits) :
    requestFundsAvailableUnits (requestFundsUsd units) = .ok units := by
  rw [requestFundsAvailableUnits, requestFundsUnits_usd, if_pos supported]

theorem requestFundsAuthorizedUnits_usd (units actual : Nat)
    (read : requestFundsAuthorizedUnits (requestFundsUsd units) = .ok actual) : actual = units := by
  rw [requestFundsAuthorizedUnits, requestFundsUnits_usd] at read
  split_ifs at read
  · exact (Except.ok.inj read).symm
  · cases read

theorem requestFundsUnits_bounded {usd roundUp units}
    (read : requestFundsUnits usd roundUp = .ok units) : units ≤ maxRequestFundsUnits := by
  unfold requestFundsUnits invalid at read
  split at read
  · dsimp only at read
    split_ifs at read with negative up fits fits
    · exact Except.ok.inj read ▸ fits
    · exact Except.ok.inj read ▸ fits
  · exact absurd read (by simp)

theorem requestFundsAvailableUnits_whole {usd units}
    (read : requestFundsAvailableUnits usd = .ok units) : usd.wholeUnits = units := by
  unfold requestFundsAvailableUnits requestFundsUnits invalid at read
  split at read
  · simp only [Bool.false_eq_true, if_false] at read
    split_ifs at read with negative fits
    exact Except.ok.inj read
  · exact absurd read (by simp)

end Aeris.Settlement
