import Mathlib.Algebra.BigOperators.Group.List.Lemmas
import Mathlib.Algebra.Order.BigOperators.Group.List
import Mathlib.Data.String.Basic
import Mathlib.Tactic

/-! Finite maps with ordered keys, kept as the list of their entries in key
order. Iteration order is part of the type, so a scan for the first match, a
bounded sweep and a fold over all the values mean what they mean over a B-tree.
The sum of a quantity over the values follows every write. -/
namespace Aeris

open List Option

structure OrderedTable (Key Value : Type) [LinearOrder Key] where
  entries : List (Key × Value)
  sorted : entries.Pairwise (fun before after => before.1 < after.1)

namespace OrderedTable

variable {Key Value Other : Type} [LinearOrder Key]

@[ext]
theorem ext {left right : OrderedTable Key Value} (same : left.entries = right.entries) :
    left = right := by
  cases left; cases right; simpa using same

instance [DecidableEq Value] : DecidableEq (OrderedTable Key Value) :=
  fun left right => decidable_of_iff (left.entries = right.entries)
    ⟨OrderedTable.ext, congrArg entries⟩

def empty : OrderedTable Key Value := ⟨[], List.Pairwise.nil⟩

instance : Inhabited (OrderedTable Key Value) := ⟨empty⟩

section

variable (table : OrderedTable Key Value)
include table

def get? (key : Key) : Option Value :=
  (table.entries.find? (fun entry => entry.1 = key)).map Prod.snd

def contains (key : Key) : Bool :=
  (table.get? key).isSome

def values : List Value := table.entries.map Prod.snd

def keys : List Key := table.entries.map Prod.fst

def below (key : Key) : List (Key × Value) :=
  table.entries.filter (fun entry => entry.1 < key)

def above (key : Key) : List (Key × Value) :=
  table.entries.filter (fun entry => key < entry.1)

theorem mem_below (key : Key) (entry : Key × Value) :
    entry ∈ table.below key ↔ entry ∈ table.entries ∧ entry.1 < key := by
  simp [below]

theorem mem_above (key : Key) (entry : Key × Value) :
    entry ∈ table.above key ↔ entry ∈ table.entries ∧ key < entry.1 := by
  simp [above]

def erase (key : Key) : OrderedTable Key Value where
  entries := table.below key ++ table.above key
  sorted := by
    rw [pairwise_append]
    refine ⟨table.sorted.filter _, table.sorted.filter _, ?_⟩
    intro before first after second
    exact ((table.mem_below key before).mp first).2.trans
      ((table.mem_above key after).mp second).2

def insert (key : Key) (value : Value) : OrderedTable Key Value where
  entries := table.below key ++ (key, value) :: table.above key
  sorted := by
    rw [pairwise_append, pairwise_cons]
    refine ⟨table.sorted.filter _, ⟨?_, table.sorted.filter _⟩, ?_⟩
    · intro after second
      exact ((table.mem_above key after).mp second).2
    · intro before first after second
      have low := ((table.mem_below key before).mp first).2
      rcases mem_cons.mp second with rfl | second
      · exact low
      · exact low.trans ((table.mem_above key after).mp second).2

end

instance : Std.Irrefl (fun before after : Key × Value => before.1 < after.1) :=
  ⟨fun entry => lt_irrefl entry.1⟩

instance : Std.Antisymm (fun before after : Key × Value => before.1 < after.1) :=
  ⟨fun _ _ lower higher => absurd lower (lt_asymm higher)⟩

theorem entry_unique (table : OrderedTable Key Value) {first second}
    (left : first ∈ table.entries) (right : second ∈ table.entries)
    (same : first.1 = second.1) : first = second := by
  by_contra different
  have symmetric : Std.Symm (fun before after : Key × Value => before.1 ≠ after.1) :=
    ⟨fun _ _ distinct => distinct.symm⟩
  have distinct : table.entries.Pairwise (fun before after => before.1 ≠ after.1) :=
    table.sorted.imp (fun before => ne_of_lt before)
  exact distinct.forall left right different same

@[grind =]
theorem get?_eq_some_iff (table : OrderedTable Key Value) (key : Key) (value : Value) :
    table.get? key = some value ↔ (key, value) ∈ table.entries := by
  constructor
  · intro found
    obtain ⟨⟨stored, held⟩, hit, rfl⟩ := map_eq_some_iff.mp found
    have same : stored = key := by simpa using find?_some hit
    exact same ▸ mem_of_find?_eq_some hit
  · intro present
    cases hit : table.entries.find? (fun entry => entry.1 = key) with
    | none => simpa using find?_eq_none.mp hit _ present
    | some entry =>
      have same : entry.1 = key := by simpa using find?_some hit
      have equal := table.entry_unique (mem_of_find?_eq_some hit) present same
      simp [get?, hit, equal]

section

variable (table : OrderedTable Key Value)
include table

theorem get?_eq_none_iff (key : Key) :
    table.get? key = none ↔ ∀ entry ∈ table.entries, entry.1 ≠ key := by
  simp [get?]

theorem contains_eq_false (key : Key) : table.contains key = false ↔ table.get? key = none := by
  simp [contains]

theorem mem_values (value : Value) : value ∈ table.values ↔ ∃ key, table.get? key = some value := by
  constructor
  · intro present
    obtain ⟨⟨key, held⟩, member, rfl⟩ := mem_map.mp present
    exact ⟨key, (table.get?_eq_some_iff key held).mpr member⟩
  · rintro ⟨key, found⟩
    exact mem_map.mpr ⟨_, (table.get?_eq_some_iff key value).mp found, rfl⟩

theorem mem_erase (key : Key) (entry : Key × Value) :
    entry ∈ (table.erase key).entries ↔ entry ∈ table.entries ∧ entry.1 ≠ key := by
  simp only [erase, mem_append, mem_below, mem_above]
  rw [← and_or_left, lt_or_lt_iff_ne]

theorem mem_insert (key : Key) (value : Value) (entry : Key × Value) :
    entry ∈ (table.insert key value).entries ↔
      entry = (key, value) ∨ (entry ∈ table.entries ∧ entry.1 ≠ key) := by
  have others := table.mem_erase key entry
  simp only [erase, mem_append] at others
  simp only [insert, mem_append, mem_cons, ← others]
  tauto

end

theorem ext_get? {left right : OrderedTable Key Value}
    (same : ∀ key, left.get? key = right.get? key) : left = right := by
  apply OrderedTable.ext
  apply left.sorted.eq_of_mem_iff right.sorted
  rintro ⟨key, value⟩
  rw [← get?_eq_some_iff, ← get?_eq_some_iff, same key]

/-! ## Reading after a write -/

@[simp]
theorem get?_empty (key : Key) : (empty : OrderedTable Key Value).get? key = none := rfl

@[simp]
theorem get?_insert_self (table : OrderedTable Key Value) (key : Key) (value : Value) :
    (table.insert key value).get? key = some value := by
  rw [get?_eq_some_iff, mem_insert]
  exact .inl rfl

theorem get?_insert_of_ne (table : OrderedTable Key Value) {key other} (value : Value)
    (different : other ≠ key) : (table.insert key value).get? other = table.get? other := by
  apply Option.ext
  intro found
  rw [get?_eq_some_iff, get?_eq_some_iff, mem_insert]
  simp [different]

theorem get?_insert (table : OrderedTable Key Value) (key other : Key) (value : Value) :
    (table.insert key value).get? other = if other = key then some value else table.get? other := by
  by_cases same : other = key
  · subst same; simp
  · simp [same, table.get?_insert_of_ne value same]

theorem forall_insert {table : OrderedTable Key Value} {key value}
    {P : Key → Value → Prop} (new : P key value)
    (old : ∀ other stored, table.get? other = some stored → P other stored) (other : Key)
    (stored : Value) (found : (table.insert key value).get? other = some stored) :
    P other stored := by
  rw [get?_insert] at found
  split_ifs at found with same
  · cases found
    exact same ▸ new
  · exact old other stored found

theorem get?_erase (table : OrderedTable Key Value) (key other : Key) :
    (table.erase key).get? other = if other = key then none else table.get? other := by
  apply Option.ext
  intro found
  by_cases same : other = key
  · simp [get?_eq_some_iff, mem_erase, same]
  · simp [get?_eq_some_iff, mem_erase, same]

variable {key : Key}

theorem insert_present (table : OrderedTable Key Value) {value : Value}
    (found : table.get? key = some value) : table.insert key value = table := by
  apply ext_get?
  intro other
  rw [get?_insert]
  split_ifs with same
  · rw [same, found]
  · rfl

theorem erase_absent (table : OrderedTable Key Value)
    (missing : table.get? key = none) : table.erase key = table := by
  apply ext_get?
  intro other
  rw [get?_erase]
  split_ifs with same
  · rw [same, missing]
  · rfl

/-! ## Quantities summed over the values -/

def total (table : OrderedTable Key Value) (amount : Value → Nat) : Nat :=
  (table.values.map amount).sum

section

variable (table : OrderedTable Key Value)
include table

theorem total_erase (key : Key) (amount : Value → Nat) :
    (table.erase key).total amount + (table.get? key).elim 0 amount = table.total amount := by
  cases found : table.get? key with
  | none => simp [table.erase_absent found]
  | some value =>
    rw [← congrArg (fun table => table.total amount) (table.insert_present found)]
    simp only [total, values, erase, insert, map_append, map_cons, sum_append, sum_cons, elim_some]
    omega

theorem total_insert (key : Key) (value : Value) (amount : Value → Nat) :
    (table.insert key value).total amount + (table.get? key).elim 0 amount =
      table.total amount + amount value := by
  rw [← table.total_erase key amount]
  simp only [total, values, erase, insert, map_append, map_cons, sum_append, sum_cons]
  omega

theorem total_insert_fresh (value : Value) (amount : Value → Nat)
    (missing : table.get? key = none) :
    (table.insert key value).total amount = table.total amount + amount value := by
  simpa [missing] using table.total_insert key value amount

theorem le_total {value} (amount : Value → Nat) (found : table.get? key = some value) :
    amount value ≤ table.total amount := by
  have split := table.total_erase key amount
  simp only [found, elim_some] at split
  omega

theorem total_congr {first second} (same : ∀ value ∈ table.values, first value = second value) :
    table.total first = table.total second :=
  congrArg List.sum (map_congr_left same)

theorem total_mono {first second} (smaller : ∀ value ∈ table.values, first value ≤ second value) :
    table.total first ≤ table.total second :=
  sum_le_sum smaller

end

/-! ## Entries that are kept -/

section

variable (table : OrderedTable Key Value)
include table

def retain (keep : Key → Value → Bool) : OrderedTable Key Value where
  entries := table.entries.filter (fun entry => keep entry.1 entry.2)
  sorted := table.sorted.filter _

theorem get?_retain (keep : Key → Value → Bool) (key : Key) :
    (table.retain keep).get? key = (table.get? key).filter (keep key) := by
  apply Option.ext
  intro value
  rw [get?_eq_some_iff, filter_eq_some_iff, get?_eq_some_iff]
  exact mem_filter

/-- The values are rewritten, and some entries dropped, in one pass. -/
def filterMap (rewrite : Key → Value → Option Value) : OrderedTable Key Value where
  entries := table.entries.filterMap (fun entry => (rewrite entry.1 entry.2).map (entry.1, ·))
  sorted := by
    apply List.Pairwise.filterMap _ _ table.sorted
    rintro ⟨first, _⟩ ⟨second, _⟩ order left leftMember right rightMember
    obtain ⟨_, _, rfl⟩ := map_eq_some_iff.mp leftMember
    obtain ⟨_, _, rfl⟩ := map_eq_some_iff.mp rightMember
    exact order

theorem get?_filterMap (rewrite : Key → Value → Option Value) (key : Key) :
    (table.filterMap rewrite).get? key = (table.get? key).bind (rewrite key) := by
  apply Option.ext
  intro value
  rw [get?_eq_some_iff, bind_eq_some_iff]
  constructor
  · intro member
    obtain ⟨⟨place, old⟩, listed, kept⟩ := mem_filterMap.mp member
    obtain ⟨next, same, pair⟩ := map_eq_some_iff.mp kept
    cases pair
    exact ⟨old, (table.get?_eq_some_iff _ old).mpr listed, same⟩
  · rintro ⟨old, found, same⟩
    apply mem_filterMap.mpr
    exact ⟨(key, old), (table.get?_eq_some_iff key old).mp found, by simp [same]⟩

def size : Nat := table.entries.length

theorem size_eq_total : table.size = table.total (fun _ => 1) := by
  simp [size, total, values, Function.comp_def]

theorem size_retain_le (keep : Key → Value → Bool) : (table.retain keep).size ≤ table.size :=
  length_filter_le _ _

theorem size_insert (key : Key) (value : Value) :
    (table.insert key value).size + (table.get? key).elim 0 (fun _ => 1) = table.size + 1 := by
  rw [size_eq_total, size_eq_total]
  exact table.total_insert key value _

theorem size_erase (key : Key) :
    (table.erase key).size + (table.get? key).elim 0 (fun _ => 1) = table.size := by
  rw [size_eq_total, size_eq_total]
  exact table.total_erase key _

end

theorem exists_of_size_ne_zero {table : OrderedTable Key Value} (nonempty : table.size ≠ 0) :
    ∃ key value, table.get? key = some value := by
  obtain ⟨⟨key, value⟩, member⟩ := exists_mem_of_length_pos (Nat.pos_of_ne_zero nonempty)
  exact ⟨key, value, (table.get?_eq_some_iff key value).mpr member⟩

section

variable (table : OrderedTable Key Value)
include table

theorem nodup_keys : table.keys.Nodup := by
  have increasing : table.keys.Pairwise (· < ·) := pairwise_map.mpr table.sorted
  exact increasing.imp (·.ne)

theorem mem_keys (key : Key) : key ∈ table.keys ↔ (table.get? key).isSome := by
  rw [isSome_iff_exists]
  constructor
  · intro member
    obtain ⟨⟨place, value⟩, listed, rfl⟩ := mem_map.mp member
    exact ⟨value, (table.get?_eq_some_iff place value).mpr listed⟩
  · rintro ⟨value, found⟩
    exact mem_map.mpr ⟨(key, value), (table.get?_eq_some_iff key value).mp found, rfl⟩

theorem coe_keys : {key | (table.get? key).isSome} = (table.keys.toFinset : Set Key) := by
  ext key
  simp [mem_keys]

theorem finite_keys : {key | (table.get? key).isSome}.Finite := by
  rw [coe_keys]
  exact table.keys.toFinset.finite_toSet

theorem ncard_keys : {key | (table.get? key).isSome}.ncard = table.size := by
  rw [coe_keys, Set.ncard_coe_finset, toFinset_card_of_nodup table.nodup_keys]
  simp [keys, size]

end

/-- The pairs of a key and an inner key, over tables inside the values. -/
def pairs {Inner Content : Type} [LinearOrder Inner] (table : OrderedTable Key Value)
    (inside : Value → OrderedTable Inner Content) : List (Key × Inner) :=
  table.entries.flatMap (fun entry => (inside entry.2).keys.map (fun place => (entry.1, place)))

variable {Inner Content : Type} [LinearOrder Inner] (table : OrderedTable Key Value)
  (inside : Value → OrderedTable Inner Content)

theorem mem_pairs (pair : Key × Inner) : pair ∈ table.pairs inside ↔
      ((table.get? pair.1).bind (fun value => (inside value).get? pair.2)).isSome := by
  obtain ⟨key, place⟩ := pair
  simp only [pairs, List.mem_flatMap, List.mem_map, Prod.mk.injEq]
  constructor
  · rintro ⟨⟨other, value⟩, listed, content, member, rfl, rfl⟩
    rw [(table.get?_eq_some_iff other value).mpr listed, Option.bind_some]
    exact ((inside value).mem_keys content).mp member
  · intro present
    cases found : table.get? key with
    | none => simp [found] at present
    | some value =>
      rw [found, bind_some] at present
      exact ⟨(key, value), (table.get?_eq_some_iff key value).mp found, place,
        ((inside value).mem_keys place).mpr present, rfl, rfl⟩

theorem nodup_pairs : (table.pairs inside).Nodup := by
  rw [pairs, List.nodup_flatMap]
  constructor
  · intro entry _
    exact (inside entry.2).nodup_keys.map (fun _ _ same => congrArg Prod.snd same)
  · apply table.sorted.imp
    intro first second order pair left right
    obtain ⟨_, _, rfl⟩ := mem_map.mp left
    obtain ⟨_, _, same⟩ := mem_map.mp right
    exact absurd (congrArg Prod.fst same) order.ne'

theorem ncard_pairs : {pair : Key × Inner |
      ((table.get? pair.1).bind (fun value => (inside value).get? pair.2)).isSome}.ncard =
        table.total (fun value => (inside value).size) := by
  have same : {pair : Key × Inner |
      ((table.get? pair.1).bind (fun value => (inside value).get? pair.2)).isSome} =
        ((table.pairs inside).toFinset : Set (Key × Inner)) := by
    ext pair
    simp [mem_pairs]
  rw [same, Set.ncard_coe_finset, toFinset_card_of_nodup (table.nodup_pairs inside)]
  simp [pairs, total, values, keys, size, Function.comp_def, length_flatMap]

/-! ## The values in key order, around one key -/

theorem values_around {old}
    (found : table.get? key = some old) : ∃ pre post, table.values = pre ++ old :: post ∧
      (∀ value, (table.insert key value).values = pre ++ value :: post) ∧
      ∀ other ∈ pre ++ post, ∃ place, place ≠ key ∧ table.get? place = some other := by
  have written : ∀ value, (table.insert key value).values =
      (table.below key).map Prod.snd ++ value :: (table.above key).map Prod.snd := by
    intro value
    simp [values, insert]
  refine ⟨_, _, ?_, written, ?_⟩
  · rw [← written old, table.insert_present found]
  · intro other member
    rw [← map_append] at member
    obtain ⟨⟨place, held⟩, listed, rfl⟩ := mem_map.mp member
    obtain ⟨present, different⟩ := (table.mem_erase key _).mp listed
    exact ⟨place, different, (table.get?_eq_some_iff place held).mpr present⟩

theorem values_around_absent (missing : table.get? key = none) :
    ∃ pre post, table.values = pre ++ post ∧
      ∀ value, (table.insert key value).values = pre ++ value :: post := by
  refine ⟨(table.below key).map Prod.snd, (table.above key).map Prod.snd, ?_, ?_⟩
  · rw [← congrArg values (table.erase_absent missing)]
    simp [values, erase]
  · intro value
    simp [values, insert]

theorem filter_insert (key : Key) (value : Value)
    (select : Value → Bool) (skipped : select value = false)
    (before : ∀ old, table.get? key = some old → select old = false) :
    (table.insert key value).values.filter select = table.values.filter select := by
  cases found : table.get? key with
  | none =>
    obtain ⟨pre, post, whole, written⟩ := table.values_around_absent found
    simp [whole, written value, skipped]
  | some old =>
    obtain ⟨pre, post, whole, written, _⟩ := table.values_around found
    simp [whole, written value, skipped, before old found]

end OrderedTable

end Aeris
