import Aeris.Base.Json

/-! JSON text: the compact form that a serializer writes and a reader for it, which
also skips blanks and reads every escape. The reader keeps the fields of an object in
the order of the text. What is written is read back. -/
namespace Aeris.JsonText

open List

/-! ## Writing -/

def hexDigit (value : Nat) : Char :=
  if value < 10 then Char.ofNat (48 + value) else Char.ofNat (87 + value)

def escape (c : Char) : List Char :=
  if c = '"' then ['\\', '"']
  else if c = '\\' then ['\\', '\\']
  else if c = '\n' then ['\\', 'n']
  else if c = '\r' then ['\\', 'r']
  else if c = '\t' then ['\\', 't']
  else if c.toNat = 8 then ['\\', 'b']
  else if c.toNat = 12 then ['\\', 'f']
  else if c.toNat < 0x20 then
    ['\\', 'u', '0', '0', hexDigit (c.toNat / 16), hexDigit (c.toNat % 16)]
  else [c]

def writeString (text : String) : List Char := '"' :: (text.toList.flatMap escape ++ ['"'])

mutual

def write : Json → List Char
  | .null => ['n', 'u', 'l', 'l']
  | .bool true => ['t', 'r', 'u', 'e']
  | .bool false => ['f', 'a', 'l', 's', 'e']
  | .number text => text.toList
  | .string text => writeString text
  | .array [] => ['[', ']']
  | .array (item :: rest) => '[' :: (write item ++ writeItems rest)
  | .object [] => ['{', '}']
  | .object ((key, value) :: rest) =>
    '{' :: (writeString key ++ ':' :: (write value ++ writeFields rest))

/-- The later items of an array, up to its closing bracket. -/
def writeItems : List Json → List Char
  | [] => [']']
  | item :: rest => ',' :: (write item ++ writeItems rest)

def writeFields : List (String × Json) → List Char
  | [] => ['}']
  | (key, value) :: rest => ',' :: (writeString key ++ ':' :: (write value ++ writeFields rest))

end

/-! ## Reading -/

def isBlank (c : Char) : Bool := c = ' ' || c = '\n' || c = '\r' || c = '\t'

def skip (text : List Char) : List Char := text.dropWhile isBlank

def hexValue (c : Char) : Option Nat :=
  if '0' ≤ c ∧ c ≤ '9' then some (c.toNat - 48)
  else if 'a' ≤ c ∧ c ≤ 'f' then some (c.toNat - 87)
  else if 'A' ≤ c ∧ c ≤ 'F' then some (c.toNat - 55)
  else none

def hexValues : List Char → Option Nat
  | [a, b, c, d] =>
    (hexValue a).bind fun a => (hexValue b).bind fun b => (hexValue c).bind fun c =>
      (hexValue d).map fun d => ((a * 16 + b) * 16 + c) * 16 + d
  | _ => none

def isHighSurrogate (code : Nat) : Bool := 0xd800 ≤ code && code < 0xdc00

def isLowSurrogate (code : Nat) : Bool := 0xdc00 ≤ code && code < 0xe000

abbrev Read (A : Type) := Option (A × List Char)

def push (c : Char) (read : Read (List Char)) : Read (List Char) :=
  read.map fun (text, rest) => (c :: text, rest)

/-- The rest of a string after its opening quote. -/
def readString : List Char → Read (List Char)
  | '"' :: rest => some ([], rest)
  | '\\' :: '"' :: rest => push '"' (readString rest)
  | '\\' :: '\\' :: rest => push '\\' (readString rest)
  | '\\' :: '/' :: rest => push '/' (readString rest)
  | '\\' :: 'n' :: rest => push '\n' (readString rest)
  | '\\' :: 'r' :: rest => push '\r' (readString rest)
  | '\\' :: 't' :: rest => push '\t' (readString rest)
  | '\\' :: 'b' :: rest => push (Char.ofNat 8) (readString rest)
  | '\\' :: 'f' :: rest => push (Char.ofNat 12) (readString rest)
  | '\\' :: 'u' :: a :: b :: c :: d :: rest =>
    (hexValues [a, b, c, d]).bind fun code =>
      if isLowSurrogate code then none
      else if isHighSurrogate code then
        match rest with
        | '\\' :: 'u' :: a :: b :: c :: d :: rest =>
          (hexValues [a, b, c, d]).bind fun low =>
            if isLowSurrogate low then
              push (Char.ofNat (0x10000 + (code - 0xd800) * 0x400 + (low - 0xdc00)))
                (readString rest)
            else none
        | _ => none
      else push (Char.ofNat code) (readString rest)
  | '\\' :: _ => none
  | c :: rest => if c.toNat < 0x20 then none else push c (readString rest)
  | [] => none

def isNumberChar (c : Char) : Bool :=
  c.isDigit || c = '-' || c = '+' || c = '.' || c = 'e' || c = 'E'

def readNumber (text : List Char) : Read Json :=
  if (text.takeWhile isNumberChar).isEmpty then none
  else some (.number (String.ofList (text.takeWhile isNumberChar)), text.dropWhile isNumberChar)

mutual

/-- One value; the number bounds the nesting and the length of what is read. -/
def readValue : Nat → List Char → Read Json
  | 0, _ => none
  | fuel + 1, text =>
    match skip text with
    | 'n' :: 'u' :: 'l' :: 'l' :: rest => some (.null, rest)
    | 't' :: 'r' :: 'u' :: 'e' :: rest => some (.bool true, rest)
    | 'f' :: 'a' :: 'l' :: 's' :: 'e' :: rest => some (.bool false, rest)
    | '"' :: rest => (readString rest).map fun (text, rest) => (.string (String.ofList text), rest)
    | '[' :: rest =>
      match skip rest with
      | ']' :: rest => some (.array [], rest)
      | rest =>
        (readValue fuel rest).bind fun (item, rest) =>
          (readItems fuel rest).map fun (items, rest) => (.array (item :: items), rest)
    | '{' :: rest =>
      match skip rest with
      | '}' :: rest => some (.object [], rest)
      | rest =>
        (readField fuel rest).bind fun (field, rest) =>
          (readFields fuel rest).map fun (fields, rest) => (.object (field :: fields), rest)
    | text => readNumber text

def readItems : Nat → List Char → Read (List Json)
  | 0, _ => none
  | fuel + 1, text =>
    match skip text with
    | ']' :: rest => some ([], rest)
    | ',' :: rest =>
      (readValue fuel rest).bind fun (item, rest) =>
        (readItems fuel rest).map fun (items, rest) => (item :: items, rest)
    | _ => none

def readField : Nat → List Char → Read (String × Json)
  | 0, _ => none
  | fuel + 1, text =>
    match skip text with
    | '"' :: rest =>
      (readString rest).bind fun (key, rest) =>
        match skip rest with
        | ':' :: rest =>
          (readValue fuel rest).map fun (value, rest) => ((String.ofList key, value), rest)
        | _ => none
    | _ => none

def readFields : Nat → List Char → Read (List (String × Json))
  | 0, _ => none
  | fuel + 1, text =>
    match skip text with
    | '}' :: rest => some ([], rest)
    | ',' :: rest =>
      (readField fuel rest).bind fun (field, rest) =>
        (readFields fuel rest).map fun (fields, rest) => (field :: fields, rest)
    | _ => none

end

/-- A whole text: one value, with nothing but blanks after it. -/
def read (text : List Char) : Option Json :=
  match readValue (2 * text.length + 2) text with
  | some (value, rest) => if (skip rest).isEmpty then some value else none
  | none => none

/-! ## Strings are read back -/

theorem hexValue_hexDigit {value} (small : value < 16) :
    hexValue (hexDigit value) = some value := by
  have all : (List.range 16).all (fun value => hexValue (hexDigit value) = some value) := by decide
  simpa using List.all_eq_true.mp all value (List.mem_range.mpr small)

theorem readString_escape (c : Char) (rest : List Char) :
    readString (escape c ++ rest) = push c (readString rest) := by
  unfold escape
  split_ifs with quote backslash newline return_ tab backspace feed control
  · subst quote; rfl
  · subst backslash; rfl
  · subst newline; rfl
  · subst return_; rfl
  · subst tab; rfl
  · rw [← Char.ofNat_toNat c, backspace]; rfl
  · rw [← Char.ofNat_toNat c, feed]; rfl
  · have high : hexValue (hexDigit (c.toNat / 16)) = some (c.toNat / 16) :=
      hexValue_hexDigit (by omega)
    have low : hexValue (hexDigit (c.toNat % 16)) = some (c.toNat % 16) :=
      hexValue_hexDigit (by omega)
    have zero : hexValue '0' = some 0 := by decide
    have code : ((0 * 16 + 0) * 16 + c.toNat / 16) * 16 + c.toNat % 16 = c.toNat := by omega
    simp only [List.cons_append, List.nil_append, readString, hexValues, high, low, zero,
      Option.bind_some, Option.map_some, code]
    have plain : isLowSurrogate c.toNat = false ∧ isHighSurrogate c.toNat = false := by
      simp only [isLowSurrogate, isHighSurrogate, Bool.and_eq_false_iff, decide_eq_false_iff_not]
      omega
    simp [plain]
  · rw [readString.eq_def]
    split <;> simp_all

theorem readString_write (text rest : List Char) :
    readString (text.flatMap escape ++ '"' :: rest) = some (text, rest) := by
  induction text with
  | nil => rfl
  | cons c text ih => rw [flatMap_cons, append_assoc, readString_escape, ih]; rfl

theorem readString_writeString (text : String) (rest : List Char) :
    ∃ body, writeString text ++ rest = '"' :: body ∧ readString body = some (text.toList, rest) :=
  ⟨text.toList.flatMap escape ++ '"' :: rest, by simp [writeString],
    readString_write text.toList rest⟩

/-! ## Values are read back -/

mutual

/-- Every number inside is the text of one. -/
def Readable : Json → Prop
  | .number text => text.toList ≠ [] ∧ ∀ c ∈ text.toList, isNumberChar c
  | .array items => ReadableItems items
  | .object fields => ReadableFields fields
  | _ => True

def ReadableItems : List Json → Prop
  | [] => True
  | item :: rest => Readable item ∧ ReadableItems rest

def ReadableFields : List (String × Json) → Prop
  | [] => True
  | (_, value) :: rest => Readable value ∧ ReadableFields rest

end

mutual

/-- How deep the reader has to go for a value. -/
def cost : Json → Nat
  | .array (item :: rest) => 1 + cost item + costItems rest
  | .object ((_, value) :: rest) => 2 + cost value + costFields rest
  | _ => 1

def costItems : List Json → Nat
  | [] => 1
  | item :: rest => 1 + cost item + costItems rest

def costFields : List (String × Json) → Nat
  | [] => 1
  | (_, value) :: rest => 2 + cost value + costFields rest

end

/-- A number that stands before this text ends there. -/
def Stops (rest : List Char) : Prop := ∀ c ∈ rest.head?, isNumberChar c = false

theorem stops_items (items : List Json) (rest : List Char) : Stops (writeItems items ++ rest) := by
  cases items <;> simp [Stops, writeItems, isNumberChar]

theorem stops_fields (fields : List (String × Json)) (rest : List Char) :
    Stops (writeFields fields ++ rest) := by
  cases fields <;> simp [Stops, writeFields, isNumberChar]

theorem readNumber_write {text} (some_ : text ≠ [])
    (digits : ∀ c ∈ text, isNumberChar c) {rest} (stops : Stops rest) :
    readNumber (text ++ rest) = some (.number (String.ofList text), rest) := by
  have taken : (text ++ rest).takeWhile isNumberChar = text ∧
      (text ++ rest).dropWhile isNumberChar = rest := by
    rw [takeWhile_append_of_pos digits, dropWhile_append_of_pos digits]
    cases rest with
    | nil => simp
    | cons c rest => simp [stops c rfl]
  simp [readNumber, taken, some_]

/-- No value starts with a blank or with a bracket that closes. -/
def Opens (text : List Char) : Prop :=
  ∃ c rest, text = c :: rest ∧ isBlank c = false ∧ c ≠ ']' ∧ c ≠ '}'

theorem Opens.skip {text} (opens : Opens text) : skip text = text := by
  obtain ⟨c, rest, rfl, solid, -⟩ := opens
  exact dropWhile_cons_of_neg (by simp [solid])

theorem numberChar_opens {c} (digit : isNumberChar c) :
    isBlank c = false ∧ c ∉ ['n', 't', 'f', '"', '[', '{', ']', '}'] := by
  constructor
  · by_contra blank
    simp only [isBlank, Bool.not_eq_false, Bool.or_eq_true, decide_eq_true_eq] at blank
    rcases blank with ((rfl | rfl) | rfl) | rfl <;> exact absurd digit (by decide)
  · intro member
    simp only [List.mem_cons, List.not_mem_nil, or_false] at member
    rcases member with rfl | rfl | rfl | rfl | rfl | rfl | rfl | rfl <;>
      exact absurd digit (by decide)

theorem opens_write {value} (readable : Readable value) (rest : List Char) :
    Opens (write value ++ rest) := by
  cases value with
  | null => exact ⟨'n', _, rfl, by decide⟩
  | bool flag => cases flag <;> exact ⟨_, _, rfl, by decide⟩
  | number text =>
    obtain ⟨some_, digits⟩ := readable
    obtain ⟨c, later, split⟩ := List.exists_cons_of_ne_nil some_
    have first := numberChar_opens (digits c (by simp [split]))
    simp only [List.mem_cons, List.not_mem_nil, or_false, not_or] at first
    exact ⟨c, later ++ rest, by simp [write, split], first.1, first.2.2.2.2.2.2.2⟩
  | string text => exact ⟨'"', _, rfl, by decide⟩
  | array items => cases items <;> exact ⟨'[', _, rfl, by decide⟩
  | object fields =>
    cases fields with
    | nil | cons field later => exact ⟨'{', _, rfl, by decide⟩

theorem readValue_number {text} (some_ : text ≠ [])
    (digits : ∀ c ∈ text, isNumberChar c) {rest} (stops : Stops rest) (fuel : Nat) :
    readValue (fuel + 1) (text ++ rest) = some (.number (String.ofList text), rest) := by
  obtain ⟨c, later, rfl⟩ := exists_cons_of_ne_nil some_
  have first := numberChar_opens (digits c (by simp))
  have solid : skip (c :: later ++ rest) = c :: later ++ rest :=
    dropWhile_cons_of_neg (by simp [first.1])
  have number := readNumber_write some_ digits stops
  rw [readValue, solid]
  split
  · simp_all
  · simp_all
  · simp_all
  · simp_all
  · simp_all
  · simp_all
  · exact number

theorem readValue_array {text} (opens : Opens text) (fuel : Nat) :
    readValue (fuel + 1) ('[' :: text) = (readValue fuel text).bind fun (item, rest) =>
      (readItems fuel rest).map fun (items, rest) => (.array (item :: items), rest) := by
  have solid := opens.skip
  obtain ⟨c, rest, rfl, -, notEnd, -⟩ := opens
  rw [readValue, show skip ('[' :: c :: rest) = '[' :: c :: rest from rfl]
  simp only [solid]
  split
  · simp_all
  · rfl

theorem readValue_object {text} (opens : Opens text) (fuel : Nat) :
    readValue (fuel + 1) ('{' :: text) = (readField fuel text).bind fun (field, rest) =>
      (readFields fuel rest).map fun (fields, rest) => (.object (field :: fields), rest) := by
  have solid := opens.skip
  obtain ⟨c, rest, rfl, -, -, notEnd⟩ := opens
  rw [readValue, show skip ('{' :: c :: rest) = '{' :: c :: rest from rfl]
  simp only [solid]
  split
  · simp_all
  · rfl

theorem opens_writeString (text : String) (rest : List Char) : Opens (writeString text ++ rest) :=
  ⟨'"', _, rfl, by decide⟩

theorem cost_pos (value : Json) : 0 < cost value := by
  unfold cost
  split <;> omega

mutual

theorem readValue_write : ∀ (value : Json) (fuel : Nat) (rest : List Char), Readable value →
    cost value ≤ fuel → Stops rest → readValue fuel (write value ++ rest) = some (value, rest)
  | value, 0, _, _, enough, _ => absurd (cost_pos value) (by omega)
  | .null, fuel + 1, rest, _, _, _ => by simp [write, readValue, skip, isBlank]
  | .bool true, fuel + 1, rest, _, _, _ => by simp [write, readValue, skip, isBlank]
  | .bool false, fuel + 1, rest, _, _, _ => by simp [write, readValue, skip, isBlank]
  | .number text, fuel + 1, rest, readable, _, stops => by
      rw [write, readValue_number readable.1 readable.2 stops, String.ofList_toList]
  | .string text, fuel + 1, rest, _, _, _ => by
      obtain ⟨body, split, back⟩ := readString_writeString text rest
      simp [write, split, readValue, skip, isBlank, back]
  | .array [], fuel + 1, rest, _, _, _ => by simp [write, readValue, skip, isBlank]
  | .array (item :: items), fuel + 1, rest, readable, enough, _ => by
      simp only [cost] at enough
      have first := readValue_write item fuel (writeItems items ++ rest) readable.1 (by omega)
        (stops_items items rest)
      have later := readItems_write items fuel rest readable.2 (by omega)
      simp only [write, cons_append, append_assoc]
      rw [readValue_array (opens_write readable.1 _), first]
      simp [later]
  | .object [], fuel + 1, rest, _, _, _ => by simp [write, readValue, skip, isBlank]
  | .object ((key, value) :: fields), fuel + 1, rest, readable, enough, _ => by
      simp only [cost] at enough
      have first := readField_write key value fuel (writeFields fields ++ rest) readable.1
        (by omega) (stops_fields fields rest)
      have later := readFields_write fields fuel rest readable.2 (by omega)
      simp only [write, cons_append, append_assoc]
      rw [readValue_object (opens_writeString key _), first]
      simp [later]

theorem readItems_write : ∀ (items : List Json) (fuel : Nat) (rest : List Char),
    ReadableItems items → costItems items ≤ fuel →
      readItems fuel (writeItems items ++ rest) = some (items, rest)
  | items, 0, _, _, enough => by cases items <;> simp [costItems] at enough
  | [], fuel + 1, rest, _, _ => by simp [writeItems, readItems, skip, isBlank]
  | item :: items, fuel + 1, rest, readable, enough => by
      simp only [costItems] at enough
      have first := readValue_write item fuel (writeItems items ++ rest) readable.1 (by omega)
        (stops_items items rest)
      have later := readItems_write items fuel rest readable.2 (by omega)
      simp [writeItems, readItems, skip, isBlank, first, later]

theorem readField_write : ∀ (key : String) (value : Json) (fuel : Nat) (rest : List Char),
    Readable value → cost value + 1 ≤ fuel → Stops rest →
      readField fuel (writeString key ++ ':' :: (write value ++ rest)) = some ((key, value), rest)
  | _, _, 0, _, _, enough, _ => by omega
  | key, value, fuel + 1, rest, readable, enough, stops => by
      have inner := readValue_write value fuel rest readable (by omega) stops
      obtain ⟨body, split, back⟩ := readString_writeString key (':' :: (write value ++ rest))
      simp [split, readField, skip, isBlank, back, inner]

theorem readFields_write : ∀ (fields : List (String × Json)) (fuel : Nat) (rest : List Char),
    ReadableFields fields → costFields fields ≤ fuel →
      readFields fuel (writeFields fields ++ rest) = some (fields, rest)
  | fields, 0, _, _, enough => by
      cases fields with
      | nil | cons field later => simp [costFields] at enough
  | [], fuel + 1, rest, _, _ => by simp [writeFields, readFields, skip, isBlank]
  | (key, value) :: fields, fuel + 1, rest, readable, enough => by
      simp only [costFields] at enough
      have first := readField_write key value fuel (writeFields fields ++ rest) readable.1
        (by omega) (stops_fields fields rest)
      have later := readFields_write fields fuel rest readable.2 (by omega)
      simp [writeFields, readFields, skip, isBlank, first, later]

end

mutual

theorem cost_le : ∀ value : Json, cost value ≤ 2 * (write value).length + 1
  | .null | .number _ | .string _ | .array [] | .object [] | .bool flag => by simp [cost]
  | .array (item :: items) => by
      have first := cost_le item
      have later := costItems_le items
      simp only [cost, write, length_cons, length_append]
      omega
  | .object ((key, value) :: fields) => by
      have first := cost_le value
      have later := costFields_le fields
      simp only [cost, write, length_cons, length_append]
      omega

theorem costItems_le : ∀ items : List Json, costItems items ≤ 2 * (writeItems items).length
  | [] => by simp [costItems, writeItems]
  | item :: items => by
      have first := cost_le item
      have later := costItems_le items
      simp only [costItems, writeItems, length_cons, length_append]
      omega

theorem costFields_le : ∀ fields : List (String × Json),
    costFields fields ≤ 2 * (writeFields fields).length
  | [] => by simp [costFields, writeFields]
  | (key, value) :: fields => by
      have first := cost_le value
      have later := costFields_le fields
      simp only [costFields, writeFields, length_cons, length_append]
      omega

end

theorem read_write {value} (readable : Readable value) : read (write value) = some value := by
  have back := readValue_write value (2 * (write value).length + 2) [] readable
    ((cost_le value).trans (by omega)) (by simp [Stops])
  rw [append_nil] at back
  simp [read, back, skip]

end Aeris.JsonText
