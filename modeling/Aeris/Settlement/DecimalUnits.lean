import Mathlib.Algebra.Order.Floor.Semifield
import Aeris.Settlement.Units

/-! Units from the text of an amount. The source prints the `f64` and reads the decimal numeral back
digit by digit in 128 bits, so that an amount of eight decimals is not off by one. -/
namespace Aeris.Settlement

open RustStd List Nat Int

/-! ## The reader -/

def u128Max : Nat := 2 ^ 128 - 1

def checkedU128 (value : Nat) : Option Nat := if value ≤ u128Max then some value else none

structure DigitScan where
  digits : Nat
  places : Nat
  fractional : Bool
  deriving DecidableEq, Repr

/-- One character of the mantissa. A sign is left only on a negative zero. -/
def DigitScan.read (scan : DigitScan) (character : Char) : Option DigitScan :=
  if character = '.' then some { scan with fractional := true }
  else if character = '-' then some scan
  else do
    let tens ← checkedU128 (10 * scan.digits)
    let digits ← checkedU128 (tens + (character.toNat - '0'.toNat))
    return { scan with
      digits := digits
      places := if scan.fractional then scan.places + 1 else scan.places }

/-- `10_u128.checked_pow`. -/
def checkedPowOfTen (exponent : Nat) : Option Nat := checkedU128 (10 ^ exponent)

def shiftedUnits (digits : Nat) (shift : Int) (roundUp : Bool) : Option Nat :=
  if 0 ≤ shift then checkedU128 (digits * (checkedPowOfTen shift.toNat).getD u128Max)
  else
    match checkedPowOfTen (-shift).toNat with
    | some divisor => some (digits / divisor + if roundUp ∧ ¬ divisor ∣ digits then 1 else 0)
    | none => some (if roundUp ∧ digits ≠ 0 then 1 else 0)

/-- `str::parse::<i32>`. -/
def parseI32 (text : List Char) : Option Int :=
  let negative := text.head? = some '-'
  let digits := if negative ∨ text.head? = some '+' then text.tail else text
  let value := Nat.ofDigitChars 10 digits 0
  if digits = [] ∨ ¬ digits.all Char.isDigit then none
  else if negative then if value ≤ i32Max + 1 then some (-value) else none
  else if value ≤ i32Max then some value else none

def exceedsRange {α : Type} : Result α := invalid "request funds amount exceeds supported range"

/-- The part of `request_funds_units` that reads the text. -/
def requestFundsUnitsOfText (text : List Char) (roundUp : Bool) : Result Nat :=
  let mantissa := text.takeWhile (· ≠ 'e')
  let exponent :=
    match text.dropWhile (· ≠ 'e') with
    | [] => some 0
    | _ :: digits => parseI32 digits
  match exponent with
  | none => .error (.panic "finite f64 display has a valid exponent")
  | some exponent =>
    match mantissa.foldlM DigitScan.read ⟨0, 0, false⟩ with
    | none => exceedsRange
    | some scan =>
      match (shiftedUnits scan.digits (exponent - scan.places + 8) roundUp).filter
          (· ≤ maxRequestFundsUnits) with
      | some units => .ok units
      | none => exceedsRange

/-! ## Numerals -/

/-- A decimal numeral: sign, digits, decimals, and an exponent with its sign. -/
structure Numeral where
  negative : Bool
  whole : List Char
  fraction : List Char
  exponent : Option (Bool × List Char)
  deriving DecidableEq, Repr

namespace Numeral

section

variable (numeral : Numeral)

def digits : Nat := Nat.ofDigitChars 10 (numeral.whole ++ numeral.fraction) 0

def power : Int :=
  match numeral.exponent with
  | none => 0
  | some (true, digits) => -(Nat.ofDigitChars 10 digits 0)
  | some (false, digits) => Nat.ofDigitChars 10 digits 0

/-- How many decimals the numeral has once its exponent is applied. -/
def decimals : Int := numeral.fraction.length - numeral.power

def magnitude : ℚ := numeral.digits * (10 : ℚ) ^ (-numeral.decimals)

def value : ℚ :=
  if numeral.negative then -numeral.magnitude else numeral.magnitude

def mantissaText : List Char :=
  (if numeral.negative then ['-'] else []) ++ numeral.whole ++
    if numeral.fraction = [] then [] else '.' :: numeral.fraction

def text : List Char :=
  numeral.mantissaText ++
    match numeral.exponent with
    | none => []
    | some (true, digits) => 'e' :: '-' :: digits
    | some (false, digits) => 'e' :: digits

end

end Numeral

/-- What printing a finite `f64` can give: at most seventeen significant digits, zeros after
them only in a whole number, and an exponent of the format. -/
structure DisplayNumeral extends Numeral where
  wholeDigits : ∀ c ∈ whole, c.isDigit
  fractionDigits : ∀ c ∈ fraction, c.isDigit
  exponentDigits : ∀ shown ∈ exponent, shown.2 ≠ [] ∧ ∀ c ∈ shown.2, c.isDigit
  inFormat : toNumeral.power.natAbs ≤ 324
  significant : ∃ significand zeros, toNumeral.digits = significand * 10 ^ zeros ∧
    significand < 10 ^ 17 ∧ (0 < zeros → fraction = [] ∧ 0 ≤ toNumeral.power)

/-- `request_funds_units` of an amount that is printed so. -/
def requestFundsUnitsOfDisplay (shown : DisplayNumeral) (roundUp : Bool) : Result Nat :=
  if shown.value < 0 then
    invalid "request funds amount is not a finite supported nonnegative amount"
  else requestFundsUnitsOfText shown.text roundUp

/-! ## The scan -/

theorem ofDigitChars_grows (digits : List Char) : ∀ value,
    value ≤ Nat.ofDigitChars 10 digits value := by
  induction digits with
  | nil => intro value; exact le_refl value
  | cons c rest ih =>
    intro value
    rw [ofDigitChars_cons]
    have further := ih (10 * value + (c.toNat - '0'.toNat))
    omega

theorem isDigit_plain {c} (digit : c.isDigit) : c ≠ '.' ∧ c ≠ '-' ∧ c ≠ 'e' ∧ c ≠ '+' := by
  refine ⟨?_, ?_, ?_, ?_⟩ <;>
  · rintro rfl
    exact absurd digit (by decide)

theorem DigitScan.read_digits (digits : List Char) : ∀ scan : DigitScan,
    scan.digits ≤ u128Max → (∀ c ∈ digits, c.isDigit) → digits.foldlM DigitScan.read scan =
      (checkedU128 (Nat.ofDigitChars 10 digits scan.digits)).map fun value =>
        ⟨value, if scan.fractional then scan.places + digits.length else scan.places,
          scan.fractional⟩ := by
  induction digits with
  | nil =>
    intro scan small _
    simp [checkedU128, ofDigitChars_nil, small]
  | cons c rest ih =>
    intro scan small digit
    obtain ⟨noPoint, noSign, -, -⟩ := isDigit_plain (digit c mem_cons_self)
    have later := fun d member => digit d (mem_cons_of_mem c member)
    rw [foldlM_cons, ofDigitChars_cons]
    simp only [DigitScan.read, noPoint, noSign, if_false]
    have grows := ofDigitChars_grows rest (10 * scan.digits + (c.toNat - '0'.toNat))
    by_cases fits : 10 * scan.digits + (c.toNat - '0'.toNat) ≤ u128Max
    · have tens : 10 * scan.digits ≤ u128Max := by omega
      have next := ih ⟨10 * scan.digits + (c.toNat - '0'.toNat),
        if scan.fractional then scan.places + 1 else scan.places, scan.fractional⟩ fits later
      simp only [checkedU128, tens, fits, if_true, bind, Option.bind_some, pure] at next ⊢
      rw [next]
      congr 1
      funext value
      cases scan.fractional
      · rfl
      · simp only [if_true, length_cons, DigitScan.mk.injEq, and_true, true_and]
        omega
    · -- too large here, so too large at the end
      have overflow : ¬ Nat.ofDigitChars 10 rest (10 * scan.digits + (c.toNat - '0'.toNat)) ≤
          u128Max := by omega
      simp only [checkedU128, overflow, if_false, Option.map_none, bind]
      by_cases tens : 10 * scan.digits ≤ u128Max
      · simp only [tens, if_true, Option.bind_some, fits, if_false, Option.bind_none]
      · simp only [tens, if_false, Option.bind_none]

theorem DigitScan.read_mantissa (shown : DisplayNumeral) :
    shown.mantissaText.foldlM DigitScan.read ⟨0, 0, false⟩ =
      (checkedU128 shown.digits).map fun value =>
        ⟨value, shown.fraction.length, decide (shown.fraction ≠ [])⟩ := by
  have start : (if shown.negative then ['-'] else []).foldlM DigitScan.read ⟨0, 0, false⟩ =
      some ⟨0, 0, false⟩ := by
    cases shown.negative <;> rfl
  have whole := read_digits shown.whole ⟨0, 0, false⟩ (zero_le _) shown.wholeDigits
  rw [Numeral.mantissaText, Numeral.digits, foldlM_append, foldlM_append, start]
  simp only [bind, Option.bind_some, whole]
  rw [ofDigitChars_append]
  by_cases none : shown.fraction = []
  · simp only [none, if_true, ofDigitChars_nil]
    cases checkedU128 (Nat.ofDigitChars 10 shown.whole 0) <;> rfl
  · have grows := ofDigitChars_grows shown.fraction (Nat.ofDigitChars 10 shown.whole 0)
    simp only [none, if_false, foldlM_cons]
    by_cases fits : Nat.ofDigitChars 10 shown.whole 0 ≤ u128Max
    · have fraction := read_digits shown.fraction
        ⟨Nat.ofDigitChars 10 shown.whole 0, 0, true⟩ fits shown.fractionDigits
      simp only [checkedU128, fits, if_true, Option.map_some, Option.bind_some, DigitScan.read,
        bind, Bool.false_eq_true, if_false, zero_add] at fraction ⊢
      simp [fraction, none]
    · have overflow : ¬ Nat.ofDigitChars 10 shown.fraction (Nat.ofDigitChars 10 shown.whole 0) ≤
          u128Max := by omega
      simp only [checkedU128, fits, overflow, if_false, Option.map_none, Option.bind_none]

/-! ## The exponent -/

theorem parseI32_digits (negative : Bool) {digits} (some_ : digits ≠ [])
    (all : ∀ c ∈ digits, c.isDigit) (small : Nat.ofDigitChars 10 digits 0 ≤ i32Max) :
    parseI32 (if negative then '-' :: digits else digits) =
      some (if negative then -(Nat.ofDigitChars 10 digits 0 : Int)
        else (Nat.ofDigitChars 10 digits 0 : Int)) := by
  have isDigits : digits.all Char.isDigit = true := all_eq_true.mpr all
  cases negative with
  | true =>
    simp only [if_true, parseI32, head?_cons, tail_cons, true_or, some_, isDigits]
    simp [Nat.le_succ_of_le small]
  | false =>
    obtain ⟨c, rest, rfl⟩ := exists_cons_of_ne_nil some_
    obtain ⟨-, noMinus, -, noPlus⟩ := isDigit_plain (all c mem_cons_self)
    simp only [Bool.false_eq_true, if_false, parseI32, head?_cons, Option.some.injEq, noMinus,
      noPlus, or_self, isDigits]
    simp [small]

namespace DisplayNumeral

variable (shown : DisplayNumeral)

theorem mantissa_noExponent : ∀ c ∈ shown.mantissaText, c ≠ 'e' := by
  intro c member
  rw [Numeral.mantissaText, mem_append, mem_append] at member
  rcases member with (sign | whole) | fraction
  · cases negative : shown.negative <;> simp [negative] at sign
    simp [sign]
  · exact (isDigit_plain (shown.wholeDigits c whole)).2.2.1
  · by_cases none : shown.fraction = []
    · simp [none] at fraction
    · rcases mem_cons.mp (by simpa [none] using fraction) with rfl | digit
      · decide
      · exact (isDigit_plain (shown.fractionDigits c digit)).2.2.1

theorem takeWhile_text : shown.text.takeWhile (· ≠ 'e') = shown.mantissaText := by
  rw [Numeral.text, takeWhile_append_of_pos (by simpa using shown.mantissa_noExponent)]
  rcases shown.exponent with _ | ⟨_ | _, digits⟩ <;> simp

theorem exponent_text :
    (match shown.text.dropWhile (· ≠ 'e') with
      | [] => some 0
      | _ :: digits => parseI32 digits) = some shown.power := by
  rw [Numeral.text, dropWhile_append_of_pos (by simpa using shown.mantissa_noExponent)]
  have digits := shown.exponentDigits
  have range := shown.inFormat
  rw [Numeral.power] at range ⊢
  generalize shown.exponent = exponent at digits range ⊢
  rcases exponent with _ | ⟨_ | _, text⟩
  · rfl
  · obtain ⟨some_, all⟩ := digits _ rfl
    have small : Nat.ofDigitChars 10 text 0 ≤ i32Max := by
      exact range.trans (by decide)
    simpa using parseI32_digits false some_ all small
  · obtain ⟨some_, all⟩ := digits _ rfl
    have small : Nat.ofDigitChars 10 text 0 ≤ i32Max := by
      simp only [natAbs_neg, natAbs_natCast] at range
      exact range.trans (by decide)
    simpa using parseI32_digits true some_ all small

end DisplayNumeral

/-! ## Rounding -/

def supported (units : Nat) :
    Option Nat := if units ≤ maxRequestFundsUnits then some units else none

theorem max_small : maxRequestFundsUnits ≤ u128Max := by decide

theorem filter_checked (units : Nat) :
    (checkedU128 units).filter (· ≤ maxRequestFundsUnits) = supported units := by
  have small := max_small
  unfold checkedU128 supported
  by_cases fits : units ≤ u128Max
  · simp [fits, Option.filter_some]
  · have large : ¬ units ≤ maxRequestFundsUnits := by omega
    simp [fits, large]

theorem shifted_left (digits power : Nat) :
    (checkedU128 (digits * (checkedPowOfTen power).getD u128Max)).filter
      (· ≤ maxRequestFundsUnits) = supported (digits * 10 ^ power) := by
  rw [filter_checked]
  by_cases fits : 10 ^ power ≤ u128Max
  · simp [checkedPowOfTen, checkedU128, fits]
  · simp only [checkedPowOfTen, checkedU128, fits, if_false, Option.getD_none]
    rcases Nat.eq_zero_or_pos digits with rfl | positive
    · simp
    · -- both products are too large
      have small : maxRequestFundsUnits < u128Max := by decide
      have one : u128Max ≤ digits * u128Max := Nat.le_mul_of_pos_left _ positive
      have other : 10 ^ power ≤ digits * 10 ^ power := Nat.le_mul_of_pos_left _ positive
      rw [supported, supported, if_neg (by omega), if_neg (by omega)]

theorem floor_div_pow (digits power : Nat) :
    ⌊(digits : ℚ) / (10 : ℚ) ^ power⌋.toNat = digits / 10 ^ power := by
  have cast : (10 : ℚ) ^ power = ((10 ^ power : Nat) : ℚ) := by push_cast; rfl
  rw [cast, floor_toNat, floor_div_eq_div]

theorem ceil_div_pow (digits power : Nat) : ⌈(digits : ℚ) / (10 : ℚ) ^ power⌉.toNat =
      digits / 10 ^ power + if 10 ^ power ∣ digits then 0 else 1 := by
  have positive : 0 < 10 ^ power := Nat.pow_pos (by decide)
  have cast : (10 : ℚ) ^ power = ((10 ^ power : Nat) : ℚ) := by push_cast; rfl
  rw [cast]
  generalize 10 ^ power = divisor at positive
  have cast_pos : (0 : ℚ) < divisor := by exact_mod_cast positive
  by_cases divides : divisor ∣ digits
  · obtain ⟨whole, rfl⟩ := divides
    rw [if_pos (Nat.dvd_mul_right _ _), Nat.mul_div_cancel_left _ positive, Nat.cast_mul,
      mul_div_cancel_left₀ _ cast_pos.ne', Int.ceil_natCast, Int.toNat_natCast, Nat.add_zero]
  · have split := div_add_mod' digits divisor
    have below : digits / divisor * divisor < digits := by omega
    have above : digits ≤ (digits / divisor + 1) * divisor := by
      have less := mod_lt digits positive
      rw [add_mul]
      omega
    have ceil : ⌈(digits : ℚ) / divisor⌉ = ((digits / divisor + 1 : Nat) : ℤ) := by
      rw [Int.ceil_eq_iff]
      constructor
      · rw [lt_div_iff₀ cast_pos]
        push_cast
        rw [add_sub_cancel_right]
        exact_mod_cast below
      · rw [div_le_iff₀ cast_pos]
        exact_mod_cast above
    rw [if_neg divides, ceil, toNat_natCast]

theorem shifted_right {digits} (fits : digits ≤ u128Max) (power : Nat) (roundUp : Bool) :
    (match checkedPowOfTen power with
      | some divisor => some (digits / divisor + if roundUp ∧ ¬ divisor ∣ digits then 1 else 0)
      | none => some (if roundUp ∧ digits ≠ 0 then 1 else 0)) =
      some (digits / 10 ^ power + if roundUp ∧ ¬ 10 ^ power ∣ digits then 1 else 0) := by
  by_cases powerFits : 10 ^ power ≤ u128Max
  · simp [checkedPowOfTen, checkedU128, powerFits]
  · have less : digits < 10 ^ power := by omega
    have divides : 10 ^ power ∣ digits ↔ digits = 0 :=
      ⟨fun divides => eq_zero_of_dvd_of_lt divides less, fun zero => zero ▸ dvd_zero _⟩
    simp [checkedPowOfTen, checkedU128, powerFits, div_eq_of_lt less, divides]

def roundedUnits (exact : ℚ) (roundUp : Bool) : Nat :=
  if roundUp then ⌈exact⌉.toNat else ⌊exact⌋.toNat

theorem roundedUnits_whole (units : Nat) (roundUp : Bool) : roundedUnits units roundUp = units := by
  cases roundUp <;> simp [roundedUnits]

theorem shiftedUnits_rounds {digits} (fits : digits ≤ u128Max) (shift : Int)
    (roundUp : Bool) : (shiftedUnits digits shift roundUp).filter (· ≤ maxRequestFundsUnits) =
      supported (roundedUnits (digits * (10 : ℚ) ^ shift) roundUp) := by
  unfold shiftedUnits
  by_cases left : 0 ≤ shift
  · obtain ⟨power, rfl⟩ := eq_ofNat_of_zero_le left
    have whole : (digits : ℚ) * (10 : ℚ) ^ (power : ℤ) = ((digits * 10 ^ power : Nat) : ℚ) := by
      push_cast [zpow_natCast]
      rfl
    rw [if_pos left, whole, roundedUnits_whole, toNat_natCast]
    exact shifted_left digits power
  · obtain ⟨power, negated⟩ := eq_ofNat_of_zero_le (a := -shift) (by omega)
    have quotient : (digits : ℚ) * (10 : ℚ) ^ shift = digits / (10 : ℚ) ^ power := by
      rw [show shift = -(power : ℤ) by omega, zpow_neg, zpow_natCast, div_eq_mul_inv]
    rw [if_neg left, negated, toNat_natCast, shifted_right fits, quotient, roundedUnits,
      floor_div_pow, ceil_div_pow]
    cases roundUp <;> by_cases divides : 10 ^ power ∣ digits <;>
      simp [divides, supported, Option.filter_some]

namespace DisplayNumeral

variable (shown : DisplayNumeral)

theorem value_magnitude (nonnegative : 0 ≤ shown.value) : shown.value = shown.magnitude := by
  have positive : 0 ≤ shown.magnitude :=
    mul_nonneg (Nat.cast_nonneg _) (zpow_nonneg (by norm_num) _)
  unfold Numeral.value at nonnegative ⊢
  split_ifs at nonnegative ⊢
  · linarith
  · rfl

theorem scaled_eq (nonnegative : 0 ≤ shown.value) : shown.value * requestFundsUnitsPerUsd =
      shown.digits * (10 : ℚ) ^ (shown.power - shown.fraction.length + 8) := by
  have units : (requestFundsUnitsPerUsd : ℚ) = (10 : ℚ) ^ (8 : ℤ) := by
    norm_num [requestFundsUnitsPerUsd]
  rw [shown.value_magnitude nonnegative, Numeral.magnitude, units, mul_assoc,
    ← zpow_add₀ (by norm_num), Numeral.decimals]
  congr 2
  omega

theorem overflow_large (overflow : ¬ shown.digits ≤ u128Max) (roundUp : Bool) :
    maxRequestFundsUnits < roundedUnits
      (shown.digits * (10 : ℚ) ^ (shown.power - shown.fraction.length + 8)) roundUp := by
  obtain ⟨significand, zeros, split, small, whole⟩ := shown.significant
  have some_ : 0 < zeros := by
    rcases Nat.eq_zero_or_pos zeros with rfl | positive
    · have bound : (10 : Nat) ^ 17 ≤ u128Max := by decide
      omega
    · exact positive
  obtain ⟨noFraction, notSmaller⟩ := whole some_
  obtain ⟨power, same⟩ := eq_ofNat_of_zero_le notSmaller
  have exact_ : (shown.digits : ℚ) * (10 : ℚ) ^ (shown.power - shown.fraction.length + 8) =
      ((shown.digits * 10 ^ (power + 8) : Nat) : ℚ) := by
    rw [noFraction, same, length_nil]
    push_cast
    rw [sub_zero, ← zpow_natCast]
    push_cast
    rfl
  rw [exact_, roundedUnits_whole]
  have bound := max_small
  have grows : shown.digits ≤ shown.digits * 10 ^ (power + 8) :=
    Nat.le_mul_of_pos_right _ (Nat.pow_pos (by decide))
  omega

end DisplayNumeral

theorem requestFundsUnitsOfDisplay_exact (shown : DisplayNumeral) (roundUp : Bool) :
    requestFundsUnitsOfDisplay shown roundUp = requestFundsUnits (.finite shown.value) roundUp := by
  unfold requestFundsUnitsOfDisplay requestFundsUnits
  by_cases negative : shown.value < 0
  · simp only [negative, if_true]
  simp only [negative, if_false]
  have nonnegative : 0 ≤ shown.value := not_lt.mp negative
  rw [shown.scaled_eq nonnegative, requestFundsUnitsOfText, shown.takeWhile_text]
  simp only [shown.exponent_text, DigitScan.read_mantissa]
  change _ = if roundedUnits _ roundUp ≤ maxRequestFundsUnits then Except.ok
    (roundedUnits _ roundUp)
    else _
  by_cases fits : shown.digits ≤ u128Max
  · simp only [checkedU128, fits, if_true, Option.map_some, shiftedUnits_rounds fits, supported]
    split_ifs <;> rfl
  · simp only [checkedU128, fits, if_false, Option.map_none]
    rw [if_neg (not_le.mpr (shown.overflow_large fits roundUp))]
    rfl

theorem requestFundsUnits_ok {value roundUp units}
    (read : requestFundsUnits (.finite value) roundUp = .ok units) :
    0 ≤ value ∧ units = roundedUnits (value * requestFundsUnitsPerUsd) roundUp := by
  unfold requestFundsUnits at read
  obtain ⟨nonnegative, read⟩ := refuse_ok read
  refine ⟨not_lt.mp nonnegative, ?_⟩
  change (if roundedUnits _ roundUp ≤ maxRequestFundsUnits then .ok (roundedUnits _ roundUp)
    else invalid _) = _ at read
  split_ifs at read
  · exact (Except.ok.inj read).symm
  · cases read

theorem rounded_close (exact : ℚ) : roundedUnits exact false ≤ roundedUnits exact true ∧
      roundedUnits exact true ≤ roundedUnits exact false + 1 := by
  have order := Int.floor_le_ceil exact
  have close := Int.ceil_le_floor_add_one exact
  simp only [roundedUnits, Bool.false_eq_true, if_false, if_true]
  omega

theorem DisplayNumeral.scaled_whole (shown : DisplayNumeral) (nonnegative : 0 ≤ shown.value)
    (few : shown.decimals ≤ 8) : ∃ units : Nat, shown.value * requestFundsUnitsPerUsd = units := by
  obtain ⟨power, same⟩ := Int.eq_ofNat_of_zero_le (a := 8 - shown.decimals) (by omega)
  refine ⟨shown.digits * 10 ^ power, ?_⟩
  rw [Numeral.decimals] at same
  rw [shown.scaled_eq nonnegative, show shown.power - shown.fraction.length + 8 = power by omega]
  push_cast [zpow_natCast]
  rfl

/-- An amount is printed and read back as its exact units: rounded down when available, up
when authorized, and refused beyond the supported range. -/
theorem printed_amount_rounds (shown : DisplayNumeral) (nonnegative : 0 ≤ shown.value) :
    (requestFundsUnitsOfDisplay shown false =
      if ⌊shown.value * 10 ^ 8⌋ ≤ 2 ^ 52 - 1 then .ok ⌊shown.value * 10 ^ 8⌋.toNat
      else exceedsRange) ∧
    (requestFundsUnitsOfDisplay shown true =
      if ⌈shown.value * 10 ^ 8⌉ ≤ 2 ^ 52 - 1 then .ok ⌈shown.value * 10 ^ 8⌉.toNat
      else exceedsRange) ∧
    (∀ available authorized, requestFundsUnitsOfDisplay shown false = .ok available →
      requestFundsUnitsOfDisplay shown true = .ok authorized →
        available ≤ authorized ∧ authorized ≤ available + 1) ∧
    (shown.decimals ≤ 8 → ∀ roundUp units, requestFundsUnitsOfDisplay shown roundUp = .ok units →
      (units : ℚ) = shown.value * 10 ^ 8) := by
  have scale : (requestFundsUnitsPerUsd : ℚ) = 10 ^ 8 := by norm_num [requestFundsUnitsPerUsd]
  have limit : ∀ units : ℤ, units.toNat ≤ maxRequestFundsUnits ↔ units ≤ 2 ^ 52 - 1 := by
    intro units
    norm_num [maxRequestFundsUnits]
  have notNegative : ¬ shown.value < 0 := not_lt.mpr nonnegative
  simp only [requestFundsUnitsOfDisplay_exact]
  refine ⟨?_, ?_, ?_, ?_⟩
  · simp only [requestFundsUnits, notNegative, Bool.false_eq_true, if_false, scale, limit]
    rfl
  · simp only [requestFundsUnits, notNegative, if_false, if_true, scale, limit]
    rfl
  · intro available authorized down up
    obtain ⟨-, rfl⟩ := requestFundsUnits_ok down
    obtain ⟨-, rfl⟩ := requestFundsUnits_ok up
    exact rounded_close _
  · intro few roundUp units read
    obtain ⟨-, rfl⟩ := requestFundsUnits_ok read
    obtain ⟨whole, same⟩ := shown.scaled_whole nonnegative few
    rw [same, roundedUnits_whole, ← same, scale]

/-- `0.125`, as it is printed. -/
def eighth : DisplayNumeral where
  negative := false
  whole := ['0']
  fraction := ['1', '2', '5']
  exponent := none
  wholeDigits := all_eq_true.mp rfl
  fractionDigits := all_eq_true.mp rfl
  exponentDigits := nofun
  inFormat := by decide
  significant := ⟨125, 0, by decide, by decide, nofun⟩

theorem eighth_rounds : requestFundsUnitsOfDisplay eighth false = .ok 12500000 ∧
      requestFundsUnitsOfDisplay eighth true = .ok 12500000 := by
  have value : eighth.value = 1 / 8 := by decide +kernel
  have rounds := printed_amount_rounds eighth (by rw [value]; norm_num)
  rw [value] at rounds
  norm_num at rounds
  exact ⟨rounds.1, rounds.2.1⟩

end Aeris.Settlement
