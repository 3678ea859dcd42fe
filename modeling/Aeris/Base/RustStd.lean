import Mathlib.Tactic

/-! The few behaviours of Rust's integer and string types that the modelled
code relies on. Numbers are naturals; the width appears only where the source
asks for it (`checked_add`, a comparison with `i64::MAX`). -/
namespace Aeris.RustStd

open List Nat

def u64Max : Nat := 2 ^ 64 - 1

def i64Max : Nat := 2 ^ 63 - 1

def i32Max : Nat := 2 ^ 31 - 1

/-- `u64::checked_add`, and `usize::checked_add` on a 64-bit target. -/
def checkedAdd (left right : Nat) : Option Nat :=
  if left + right ≤ u64Max then some (left + right) else none

theorem checkedAdd_eq_some (left right total : Nat) :
    checkedAdd left right = some total ↔ left + right ≤ u64Max ∧ total = left + right := by
  unfold checkedAdd
  split <;> simp_all [eq_comm]

/-- `u64::checked_mul`, and `usize::checked_mul` on a 64-bit target. -/
def checkedMul (left right : Nat) : Option Nat :=
  if left * right ≤ u64Max then some (left * right) else none

theorem checkedMul_eq_some (left right total : Nat) :
    checkedMul left right = some total ↔ left * right ≤ u64Max ∧ total = left * right := by
  unfold checkedMul
  split <;> simp_all [eq_comm]

/-- `u64::saturating_add`, and `usize::saturating_add` on a 64-bit target. -/
def saturatingAdd (left right : Nat) : Nat := min (left + right) u64Max

/-- `u64::saturating_mul`. -/
def saturatingMul (left right : Nat) : Nat := min (left * right) u64Max

/-- The Unicode `White_Space` property, which `char::is_whitespace` and
`str::trim` use. -/
def isWhitespace (c : Char) : Bool :=
  let code := c.toNat
  (0x9 ≤ code && code ≤ 0xd) || code == 0x20 || code == 0x85 || code == 0xa0 ||
    code == 0x1680 || (0x2000 ≤ code && code ≤ 0x200a) || code == 0x2028 ||
    code == 0x2029 || code == 0x202f || code == 0x205f || code == 0x3000

/-- `str::trim`. -/
def trim (value : String) : String :=
  String.ofList (((value.toList.dropWhile isWhitespace).reverse.dropWhile isWhitespace).reverse)

/-- `value.trim().is_empty()`. -/
def isBlank (value : String) : Bool := value.toList.all isWhitespace

/-- `str::as_bytes`, and byte string literals. -/
def asBytes (value : String) : List UInt8 := value.toUTF8.data.toList

theorem asBytes_injective : Function.Injective asBytes := fun _ _ same =>
  String.toByteArray_inj.mp (ByteArray.ext (Array.toList_inj.mp same))

/-- `str::len`: the number of UTF-8 bytes. -/
def byteLen (value : String) : Nat := value.utf8ByteSize

/-- `str::split_once` at a character. -/
def splitOnce (separator : Char) (text : String) : Option (String × String) :=
  match text.toList.dropWhile (fun c => c ≠ separator) with
  | [] => none
  | _ :: right =>
    some (String.ofList (text.toList.takeWhile (fun c => c ≠ separator)), String.ofList right)

/-- `str::contains` of a text. -/
def contains (text part : String) : Bool := decide (part.toList <:+: text.toList)

/-! ## Bytes as text -/

def isContinuation (byte : UInt8) : Bool := 0x80 ≤ byte && byte ≤ 0xbf

/-- What may follow the first byte of a character of three or four bytes. -/
def secondByteFits (first second : UInt8) : Bool :=
  if first = 0xe0 then 0xa0 ≤ second && second ≤ 0xbf
  else if first = 0xed then 0x80 ≤ second && second ≤ 0x9f
  else if first = 0xf0 then 0x90 ≤ second && second ≤ 0xbf
  else if first = 0xf4 then 0x80 ≤ second && second ≤ 0x8f
  else isContinuation second

def replacementCharacter : Char := Char.ofNat 0xfffd

/-- How many bytes a character has that starts with this byte. -/
def utf8Width (first : UInt8) : Nat :=
  if first < 0x80 then 1
  else if 0xc2 ≤ first && first ≤ 0xdf then 2
  else if 0xe0 ≤ first && first ≤ 0xef then 3
  else if 0xf0 ≤ first && first ≤ 0xf4 then 4
  else 0

/-- `String::from_utf8_lossy`: the longest start of a character that does not go on as
one becomes one replacement character. -/
def fromUtf8LossyChars : List UInt8 → List Char
  | [] => []
  | first :: rest =>
    match utf8Width first, rest with
    | 1, rest => Char.ofNat first.toNat :: fromUtf8LossyChars rest
    | 2, second :: rest =>
      if isContinuation second then
        Char.ofNat ((first.toNat - 0xc0) * 64 + (second.toNat - 0x80)) ::
          fromUtf8LossyChars rest
      else replacementCharacter :: fromUtf8LossyChars (second :: rest)
    | 3, second :: third :: rest =>
      if !secondByteFits first second then
        replacementCharacter :: fromUtf8LossyChars (second :: third :: rest)
      else if !isContinuation third then
        replacementCharacter :: fromUtf8LossyChars (third :: rest)
      else
        Char.ofNat (((first.toNat - 0xe0) * 64 + (second.toNat - 0x80)) * 64 +
          (third.toNat - 0x80)) :: fromUtf8LossyChars rest
    | 3, [second] =>
      if secondByteFits first second then [replacementCharacter]
      else replacementCharacter :: fromUtf8LossyChars [second]
    | 4, second :: third :: fourth :: rest =>
      if !secondByteFits first second then
        replacementCharacter :: fromUtf8LossyChars (second :: third :: fourth :: rest)
      else if !isContinuation third then
        replacementCharacter :: fromUtf8LossyChars (third :: fourth :: rest)
      else if !isContinuation fourth then
        replacementCharacter :: fromUtf8LossyChars (fourth :: rest)
      else
        Char.ofNat ((((first.toNat - 0xf0) * 64 + (second.toNat - 0x80)) * 64 +
          (third.toNat - 0x80)) * 64 + (fourth.toNat - 0x80)) :: fromUtf8LossyChars rest
    | 4, [second, third] =>
      if !secondByteFits first second then
        replacementCharacter :: fromUtf8LossyChars [second, third]
      else if !isContinuation third then
        replacementCharacter :: fromUtf8LossyChars [third]
      else [replacementCharacter]
    | 4, [second] =>
      if secondByteFits first second then [replacementCharacter]
      else replacementCharacter :: fromUtf8LossyChars [second]
    | _, rest => replacementCharacter :: fromUtf8LossyChars rest

def fromUtf8Lossy (bytes : List UInt8) : String := String.ofList (fromUtf8LossyChars bytes)

example : fromUtf8Lossy [0x61, 0xe4, 0xbd, 0xa0, 0xf0, 0x9f, 0x62, 0xff] = "a你\ufffdb\ufffd" := by
  decide +kernel

/-! ## Numbers in text -/

inductive ParseIntError where
  | empty
  | invalidDigit
  | posOverflow
  deriving DecidableEq, Repr

def ParseIntError.message : ParseIntError → String
  | .empty => "cannot parse integer from empty string"
  | .invalidDigit => "invalid digit found in string"
  | .posOverflow => "number too large to fit in target type"

def parseU64Digits : Nat → List Char → Except ParseIntError Nat
  | value, [] => .ok value
  | value, c :: rest =>
    if !c.isDigit then .error .invalidDigit
    else if 10 * value + (c.toNat - '0'.toNat) > u64Max then .error .posOverflow
    else parseU64Digits (10 * value + (c.toNat - '0'.toNat)) rest

/-- `str::parse::<u64>`: a leading plus sign is accepted. -/
def parseU64 (text : String) : Except ParseIntError Nat :=
  match text.toList with
  | [] => .error .empty
  | ['+'] => .error .invalidDigit
  | '+' :: digits => parseU64Digits 0 digits
  | digits => parseU64Digits 0 digits

theorem parseU64Digits_ok (digits : List Char) : ∀ value, (∀ c ∈ digits, c.isDigit) →
    Nat.ofDigitChars 10 digits value ≤ u64Max →
      parseU64Digits value digits = .ok (Nat.ofDigitChars 10 digits value) := by
  induction digits with
  | nil => intro value _ _; rfl
  | cons c rest ih =>
    intro value digit small
    rw [ofDigitChars_cons] at small ⊢
    -- reading more digits does not make a number smaller
    have grows : 10 * value + (c.toNat - '0'.toNat) ≤ u64Max := by
      rw [ofDigitChars_eq_ofDigitChars_zero] at small
      have power : 1 ≤ 10 ^ rest.length := one_le_pow _ _ (by decide)
      nlinarith
    rw [parseU64Digits, if_neg (by simp [digit c mem_cons_self]), if_neg (by omega)]
    exact ih _ (fun d member => digit d (mem_cons_of_mem _ member)) small

theorem isDigit_of_mem_toString {value : Nat} {c} (member : c ∈ (toString value).toList) :
    c.isDigit := by
  rw [toString_eq_repr, toList_repr] at member
  exact isDigit_of_mem_toDigits (by decide) (by decide) member

theorem parseU64_toString {value : Nat} (small : value ≤ u64Max) :
    parseU64 (toString value) = .ok value := by
  have digits : (toString value).toList = Nat.toDigits 10 value := by
    rw [toString_eq_repr, toList_repr]
  have all : ∀ c ∈ Nat.toDigits 10 value, c.isDigit :=
    fun c member => isDigit_of_mem_toString (digits ▸ member)
  have read := parseU64Digits_ok _ 0 all (by rw [ofDigitChars_ten_toDigits]; exact small)
  rw [ofDigitChars_ten_toDigits] at read
  unfold parseU64
  rw [digits]
  have some_ : Nat.toDigits 10 value ≠ [] := by simp
  generalize Nat.toDigits 10 value = text at *
  match text with
  | [] => exact absurd rfl some_
  | c :: rest =>
    have sign : c ≠ '+' := by
      rintro rfl
      exact absurd (all '+' mem_cons_self) (by decide)
    split
    · contradiction
    · rename_i same
      exact absurd (cons.inj same).1 sign
    · rename_i same
      exact absurd (cons.inj same).1 sign
    · exact read

theorem pairwise_range_succ {R count}
    (pairs : (List.range count).Pairwise R) (first : Nat) (inside : first + 1 < count) :
    R first (first + 1) := by
  have adjacent := pairwise_iff_getElem.mp pairs first (first + 1)
    (by rw [length_range]; omega) (by rwa [length_range]) (by omega)
  rwa [getElem_range, getElem_range] at adjacent

/-! Setting, testing and clearing the bits of a mask in a flag byte. -/

theorem setMask_and (flags mask : UInt8) : (flags &&& ~~~mask ||| mask) &&& mask = mask := by
  apply UInt8.eq_of_toBitVec_eq
  ext bit inside
  simp only [UInt8.toBitVec_and, UInt8.toBitVec_or, UInt8.toBitVec_not, BitVec.getElem_and,
    BitVec.getElem_or, BitVec.getElem_not]
  cases flags.toBitVec[bit] <;> cases mask.toBitVec[bit] <;> rfl

theorem setMask_clear (flags mask : UInt8) :
    (flags &&& ~~~mask ||| mask) &&& ~~~mask = flags &&& ~~~mask := by
  apply UInt8.eq_of_toBitVec_eq
  ext bit inside
  simp only [UInt8.toBitVec_and, UInt8.toBitVec_or, UInt8.toBitVec_not, BitVec.getElem_and,
    BitVec.getElem_or, BitVec.getElem_not]
  cases flags.toBitVec[bit] <;> cases mask.toBitVec[bit] <;> rfl

theorem clear_unset {flags mask : UInt8} (unset : flags &&& mask = 0) :
    flags &&& ~~~mask = flags := by
  apply UInt8.eq_of_toBitVec_eq
  ext bit inside
  have zero := congrArg (fun byte : UInt8 => byte.toBitVec[bit]) unset
  simp only [UInt8.toBitVec_and, UInt8.toBitVec_not, BitVec.getElem_and, BitVec.getElem_not,
    UInt8.toBitVec_zero] at zero ⊢
  cases flag : flags.toBitVec[bit] <;> cases masked : mask.toBitVec[bit] <;> simp_all

end Aeris.RustStd
