import Mathlib.Tactic

/-! Inserts into a table with a unique key. A row whose key is taken is silently left out
(`ON CONFLICT DO NOTHING`), and a row without a key meets no other (a partial index). -/
namespace Aeris.UniqueInsert

open List

variable {Row Key : Type*} [DecidableEq Key] (key : Row → Option Key)

def taken (table : List Row) (row : Row) : Bool :=
  (key row).any fun own => table.any fun other => key other = some own

def insert (table : List Row) (row : Row) : List Row :=
  if taken key table row then table else table ++ [row]

def kept : List Row → List Row → List Row
  | _, [] => []
  | table, row :: rest =>
    if taken key table row then kept table rest else row :: kept (table ++ [row]) rest

def Apart (first second : Row) : Prop := ∀ own, key first = some own → key second ≠ some own

variable {key}

theorem foldl_insert (rows : List Row) : ∀ table,
    rows.foldl (insert key) table = table ++ kept key table rows := by
  induction rows with
  | nil => intro table; simp [kept]
  | cons row rest ih =>
    intro table
    rw [foldl_cons, ih, insert, kept]
    split_ifs with conflict
    · rfl
    · rw [append_assoc]; rfl

theorem kept_sublist (rows : List Row) : ∀ table, (kept key table rows).Sublist rows := by
  induction rows with
  | nil => intro table; exact List.Sublist.refl _
  | cons row rest ih =>
    intro table
    rw [kept]
    split_ifs
    · exact (ih table).cons row
    · exact (ih _).cons_cons row

theorem taken_append (table others : List Row) (row : Row) :
    taken key (table ++ others) row = (taken key table row || taken key others row) := by
  unfold taken
  cases key row <;> simp

theorem taken_single (first row : Row) : taken key [first] row = false ↔ Apart key first row := by
  unfold taken Apart
  cases own : key row with
  | none => simp
  | some value =>
    simp only [Option.any_some, any_cons, any_nil, Bool.or_false, decide_eq_false_iff_not]
    constructor
    · intro different other same again
      exact different (same.trans again.symm)
    · intro apart same
      exact apart value same rfl

/-- Every row gets in exactly when its key is free and no two of them have the same. -/
theorem kept_eq_iff (rows : List Row) : ∀ table, kept key table rows = rows ↔
    rows.Pairwise (Apart key) ∧ ∀ row ∈ rows, taken key table row = false := by
  induction rows with
  | nil => intro table; simp [kept]
  | cons row rest ih =>
    intro table
    rw [kept]
    split_ifs with conflict
    · -- a row was left out, so the list got shorter
      constructor
      · intro same
        have part : (kept key table rest).Sublist rest := kept_sublist rest table
        have shorter := part.length_le
        rw [same, length_cons] at shorter
        omega
      · rintro ⟨-, free⟩
        rw [free row mem_cons_self] at conflict
        cases conflict
    · rw [cons.injEq, ih, pairwise_cons]
      simp only [true_and, taken_append, Bool.or_eq_false_iff, taken_single, forall_mem_cons,
        eq_false_of_ne_true conflict]
      constructor
      · rintro ⟨apart, free⟩
        exact ⟨⟨fun other member => (free other member).2, apart⟩,
          fun other member => (free other member).1⟩
      · rintro ⟨⟨first, apart⟩, free⟩
        exact ⟨apart, fun other member => ⟨free other member, first other member⟩⟩

/-- With positive weights, nothing is missing from the total only if no row is missing. -/
theorem kept_sum {weight : Row → ℤ} {rows} (positive : ∀ row ∈ rows, 0 < weight row) :
    ∀ table, ((kept key table rows).map weight).sum ≤ (rows.map weight).sum ∧
      ((rows.map weight).sum = ((kept key table rows).map weight).sum ↔ kept key table rows =
        rows) := by
  induction rows with
  | nil => intro table; simp [kept]
  | cons row rest ih =>
    intro table
    obtain ⟨first, later⟩ := forall_mem_cons.mp positive
    rw [kept]
    split_ifs with conflict
    · have less := (ih later table).1
      refine ⟨by rw [map_cons, sum_cons]; omega, fun same => ?_, fun same => by rw [same]⟩
      rw [map_cons, sum_cons] at same
      omega
    · obtain ⟨less, all⟩ := ih later (table ++ [row])
      simp only [map_cons, sum_cons, cons.injEq, true_and, ← all]
      omega

end Aeris.UniqueInsert
