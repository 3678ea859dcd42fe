import Aeris.Base.OrderedTable
import Aeris.Base.RustStd

/-! JSON values as `serde_json::Value` holds them. A number is its shortest
decimal text. The fields of an object stand in key order, each key once, so
that the order-insensitive equality of the source is equality here. -/
namespace Aeris

open List

inductive Json where
  | null
  | bool (value : Bool)
  | number (text : String)
  | string (text : String)
  | array (items : List Json)
  | object (fields : List (String × Json))

namespace Json

mutual

def decEq : (left right : Json) → Decidable (left = right)
  | .null, .null => isTrue rfl
  | .bool a, .bool b => decidable_of_iff (a = b) (by simp)
  | .number a, .number b => decidable_of_iff (a = b) (by simp)
  | .string a, .string b => decidable_of_iff (a = b) (by simp)
  | .array a, .array b =>
    match decEqItems a b with
    | isTrue same => isTrue (by rw [same])
    | isFalse different => isFalse (by simpa using different)
  | .object a, .object b =>
    match decEqFields a b with
    | isTrue same => isTrue (by rw [same])
    | isFalse different => isFalse (by simpa using different)
  | .null, .bool _ | .null, .number _ | .null, .string _ | .null, .array _ | .null, .object _
  | .bool _, .null | .bool _, .number _ | .bool _, .string _ | .bool _, .array _
  | .bool _, .object _ | .number _, .null | .number _, .bool _ | .number _, .string _
  | .number _, .array _ | .number _, .object _ | .string _, .null | .string _, .bool _
  | .string _, .number _ | .string _, .array _ | .string _, .object _ | .array _, .null
  | .array _, .bool _ | .array _, .number _ | .array _, .string _ | .array _, .object _
  | .object _, .null | .object _, .bool _ | .object _, .number _ | .object _, .string _
  | .object _, .array _ => isFalse (by simp)

def decEqItems : (left right : List Json) → Decidable (left = right)
  | [], [] => isTrue rfl
  | [], _ :: _ | _ :: _, [] => isFalse (by simp)
  | a :: as, b :: bs =>
    match decEq a b, decEqItems as bs with
    | isTrue first, isTrue rest => isTrue (by rw [first, rest])
    | isFalse different, _ => isFalse (by simp [different])
    | _, isFalse different => isFalse (by simp [different])

def decEqFields : (left right : List (String × Json)) → Decidable (left = right)
  | [], [] => isTrue rfl
  | [], _ :: _ | _ :: _, [] => isFalse (by simp)
  | (key, a) :: as, (other, b) :: bs =>
    match decEq a b, decEqFields as bs with
    | isTrue first, isTrue rest => decidable_of_iff (key = other) (by simp [first, rest])
    | isFalse different, _ => isFalse (by simp [different])
    | _, isFalse different => isFalse (by simp [different])

end

instance : DecidableEq Json := decEq

instance : Inhabited Json := ⟨.null⟩

def isObject : Json → Bool
  | .object _ => true
  | _ => false

def asBool : Json → Option Bool
  | .bool value => some value
  | _ => none

/-- `Value::get` with a key: nothing but an object has fields. -/
def get? (key : String) : Json → Option Json
  | .object fields => (fields.find? (fun field => field.1 = key)).map Prod.snd
  | _ => none

/-- `Map::insert` of a field, at its place in the key order. -/
def insertField (key : String) (value : Json) (fields : List (String × Json)) :
    List (String × Json) :=
  fields.filter (fun field => field.1 < key) ++
    (key, value) :: fields.filter (fun field => key < field.1)

/-- `Map::remove` of a field. -/
def removeField (key : String) (fields : List (String × Json)) : List (String × Json) :=
  fields.filter (fun field => field.1 ≠ key)

theorem find?_filter_keep {p q} (keeps : ∀ field, q field → p field)
    (fields : List (String × Json)) : (fields.filter p).find? q = fields.find? q := by
  rw [find?_filter]
  congr 1
  funext field
  cases hit : q field with
  | false => simp
  | true => simp [keeps field hit]

theorem find?_filter_drop {p q} (drops : ∀ field, q field → ¬ p field)
    (fields : List (String × Json)) : (fields.filter p).find? q = none := by
  rw [find?_eq_none]
  intro field member hit
  exact drops field hit (mem_filter.mp member).2

theorem get?_insertField (key other : String) (value : Json) (fields : List (String × Json)) :
    get? other (.object (insertField key value fields)) =
      if other = key then some value else get? other (.object fields) := by
  simp only [get?, insertField, find?_append, find?_cons]
  -- all fields of one name stand on the same side of the new field
  rcases lt_trichotomy other key with low | rfl | high
  · rw [find?_filter_keep (by simp_all), find?_filter_drop (p := fun field => key < field.1)]
    · simp [ne_of_lt low, ne_of_gt low]
    · intro field hit
      rw [decide_eq_true_iff, of_decide_eq_true hit]
      exact lt_asymm low
  · rw [find?_filter_drop]
    · simp
    · intro field hit
      simp [of_decide_eq_true hit]
  · rw [find?_filter_drop, find?_filter_keep]
    · simp [ne_of_lt high, ne_of_gt high]
    · intro field hit
      simpa [of_decide_eq_true hit] using high
    · intro field hit
      rw [decide_eq_true_iff, of_decide_eq_true hit]
      exact lt_asymm high

theorem get?_removeField (key other : String) (fields : List (String × Json)) :
    get? other (.object (removeField key fields)) =
      if other = key then none else get? other (.object fields) := by
  simp only [get?, removeField]
  split_ifs with same
  · rw [find?_filter_drop]
    · rfl
    · intro field hit
      simp [of_decide_eq_true hit, same]
  · rw [find?_filter_keep]
    intro field hit
    simpa [of_decide_eq_true hit] using same

/-- The fields of every object inside the value stand in key order, each key once. -/
inductive Ordered : Json → Prop where
  | null : Ordered .null
  | bool (value : Bool) : Ordered (.bool value)
  | number (text : String) : Ordered (.number text)
  | string (text : String) : Ordered (.string text)
  | array (items : List Json) (inner : ∀ item ∈ items, Ordered item) : Ordered (.array items)
  | object (fields : List (String × Json))
      (sorted : fields.Pairwise (fun before after => before.1 < after.1))
      (inner : ∀ field ∈ fields, Ordered field.2) : Ordered (.object fields)

theorem Ordered.get? {value child key} (ordered : Ordered value)
    (found : value.get? key = some child) : Ordered child := by
  cases ordered with
  | object fields sorted inner =>
    rw [Json.get?, Option.map_eq_some_iff] at found
    obtain ⟨field, found, rfl⟩ := found
    exact inner field (mem_of_find?_eq_some found)
  | _ => cases found

variable {fields : List (String × Json)}

theorem Ordered.insertField {value} (key : String)
    (ordered : Ordered (.object fields)) (new : Ordered value) :
    Ordered (.object (insertField key value fields)) := by
  cases ordered with
  | object fields sorted inner =>
    refine .object _ ((⟨fields, sorted⟩ : OrderedTable String Json).insert key value).sorted ?_
    intro field member
    rcases mem_append.mp member with low | later
    · exact inner field (mem_of_mem_filter low)
    · rcases mem_cons.mp later with rfl | high
      · exact new
      · exact inner field (mem_of_mem_filter high)

theorem Ordered.removeField (key : String)
    (ordered : Ordered (.object fields)) : Ordered (.object (removeField key fields)) := by
  cases ordered with
  | object fields sorted inner =>
    exact .object _ (sorted.filter _)
      (fun field member => inner field (mem_of_mem_filter member))

theorem Ordered.insertField_present {key value}
    (ordered : Ordered (.object fields)) (found : (Json.object fields).get? key = some value) :
    Json.insertField key value fields = fields := by
  cases ordered with
  | object fields sorted inner =>
    have table := OrderedTable.insert_present (⟨fields, sorted⟩ : OrderedTable String Json) found
    exact congrArg OrderedTable.entries table

/-- The bytes that one character takes inside a JSON string. -/
def charLen (c : Char) : Nat :=
  if c = '"' ∨ c = '\\' ∨ c.toNat ∈ [8, 9, 10, 12, 13] then 2
  else if c.toNat < 0x20 then 6
  else c.utf8Size

def stringLen (text : String) : Nat := 2 + (text.toList.map charLen).sum

mutual

/-- The length in bytes of the compact text, `value.to_string().len()`. -/
def textLen : Json → Nat
  | .null => 4
  | .bool value => if value then 4 else 5
  | .number text => RustStd.byteLen text
  | .string text => stringLen text
  | .array items => 2 + itemsLen items
  | .object fields => 2 + fieldsLen fields

def itemsLen : List Json → Nat
  | [] => 0
  | [item] => textLen item
  | item :: rest => textLen item + 1 + itemsLen rest

def fieldsLen : List (String × Json) → Nat
  | [] => 0
  | [(key, value)] => stringLen key + 1 + textLen value
  | (key, value) :: rest => stringLen key + 1 + textLen value + 1 + fieldsLen rest

end

example : textLen (.object [("a", .array [.null, .bool true]), ("b", .string "x\n")]) = 27 := by
  decide

end Json

end Aeris
