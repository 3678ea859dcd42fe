import Mathlib.Data.List.Basic
import Mathlib.Tactic

/-! Fixed-width big-endian numbers and length-prefixed fields as byte lists.
Both are prefix codes: a concatenation that starts with one of them can be
split in only one way. The lemmas below peel one component at a time from the
two sides of an equation between byte strings. -/
namespace Aeris.ByteEncoding

open List Nat

abbrev Bytes := List UInt8

/-- `to_be_bytes` of a `width`-byte unsigned number. A value that does not fit
is cut to its low bytes, as a narrowing cast does. -/
def beBytes : Nat → Nat → Bytes
  | 0, _ => []
  | width + 1, value => beBytes width (value / 256) ++ [UInt8.ofNat value]

/-- `from_be_bytes`. -/
def ofBeBytes (bytes : Bytes) : Nat :=
  bytes.foldl (fun value byte => value * 256 + byte.toNat) 0

@[simp] theorem length_beBytes (width value : Nat) : (beBytes width value).length = width := by
  induction width generalizing value with
  | zero => rfl
  | succ width ih => simp [beBytes, ih]

theorem ofBeBytes_append (bytes : Bytes) (byte : UInt8) :
    ofBeBytes (bytes ++ [byte]) = ofBeBytes bytes * 256 + byte.toNat := by
  simp [ofBeBytes]

theorem ofBeBytes_beBytes (width value : Nat) :
    ofBeBytes (beBytes width value) = value % 256 ^ width := by
  induction width generalizing value with
  | zero => simp [beBytes, ofBeBytes, mod_one]
  | succ width ih =>
    have low : (UInt8.ofNat value).toNat = value % 256 := by simp
    rw [beBytes, ofBeBytes_append, ih, low, pow_succ, mul_comm (256 ^ width), mod_mul]
    omega

theorem ofBeBytes_lt (bytes : Bytes) : ofBeBytes bytes < 256 ^ bytes.length := by
  induction bytes using List.reverseRecOn with
  | nil => simp [ofBeBytes]
  | append_singleton bytes byte ih =>
    have small := byte.toNat_lt
    rw [ofBeBytes_append, length_append, length_singleton, pow_succ]
    omega

theorem beBytes_ofBeBytes (bytes : Bytes) : beBytes bytes.length (ofBeBytes bytes) = bytes := by
  induction bytes using List.reverseRecOn with
  | nil => rfl
  | append_singleton bytes byte ih =>
    have small := byte.toNat_lt
    have high : (ofBeBytes bytes * 256 + byte.toNat) / 256 = ofBeBytes bytes := by omega
    have low : UInt8.ofNat (ofBeBytes bytes * 256 + byte.toNat) = byte := by
      simp
    rw [ofBeBytes_append, length_append, length_singleton, beBytes, high, low, ih]

theorem beBytes_injective {width left right} (leftFits : left < 256 ^ width)
    (rightFits : right < 256 ^ width) (same : beBytes width left = beBytes width right) :
    left = right := by
  have read := congrArg ofBeBytes same
  rwa [ofBeBytes_beBytes, ofBeBytes_beBytes, mod_eq_of_lt leftFits, mod_eq_of_lt rightFits] at read

/-- An encoding that can be read off the front of any string in one way. -/
def PrefixCode {α : Type} (encode : α → Bytes) : Prop :=
  ∀ left right leftTail rightTail, encode left ++ leftTail = encode right ++ rightTail →
    left = right ∧ leftTail = rightTail

theorem PrefixCode.injective {α} {encode : α → Bytes} (code : PrefixCode encode) :
    Function.Injective encode := by
  intro left right same
  exact (code left right [] [] (by simpa using same)).1

theorem PrefixCode.of_width {α} (encode : α → Bytes) (width : Nat)
    (fixed : ∀ value, (encode value).length = width) (injective : Function.Injective encode) :
    PrefixCode encode := by
  intro left right leftTail rightTail same
  obtain ⟨front, tail⟩ := append_inj same (by rw [fixed, fixed])
  exact ⟨injective front, tail⟩

theorem prefixCode_beBytes_u64 : PrefixCode fun value : UInt64 => beBytes 8 value.toNat := by
  apply PrefixCode.of_width _ 8 (fun _ => length_beBytes 8 _)
  intro left right same
  have leftFits := left.toNat_lt
  have rightFits := right.toNat_lt
  exact UInt64.toNat_inj.mp (beBytes_injective (by omega) (by omega) same)

theorem prefixCode_singleton : PrefixCode fun byte : UInt8 => [byte] := by
  intro left right leftTail rightTail same
  simpa using same

/-- A string or byte slice of a 64-bit target: its length is a `usize`. -/
structure Slice where
  bytes : Bytes
  fits : bytes.length < 2 ^ 64
deriving DecidableEq

theorem Slice.ext {left right : Slice} (same : left.bytes = right.bytes) : left = right := by
  cases left
  cases right
  simpa using same

/-- A length in eight big-endian bytes, then the bytes themselves. -/
def lengthPrefixed (value : Slice) : Bytes :=
  beBytes 8 value.bytes.length ++ value.bytes

theorem prefixCode_lengthPrefixed : PrefixCode lengthPrefixed := by
  intro left right leftTail rightTail same
  simp only [lengthPrefixed, append_assoc] at same
  obtain ⟨lengths, rest⟩ := append_inj same (by simp)
  have leftFits := left.fits
  have rightFits := right.fits
  have sameLength := beBytes_injective (by omega) (by omega) lengths
  obtain ⟨bytes, tail⟩ := append_inj rest sameLength
  exact ⟨Slice.ext bytes, tail⟩

end Aeris.ByteEncoding
