import Aeris.Base.ByteEncoding

/-! The masking of one text: of the detected spans those that do not overlap are selected,
longer ones first, and each is replaced by a sentinel. Positions are byte positions on
character boundaries. A sentinel comes from a keyed hash; that the search for a free one
ends is taken for granted. -/
namespace Aeris.Privacy
open List
open ByteEncoding (Bytes)

structure Candidate where
  ruleLabel : String
  start : Nat
  stop : Nat
  value : Bytes
  priority : Nat
  deriving DecidableEq, Repr

namespace Candidate

def len (candidate : Candidate) : Nat := candidate.stop - candidate.start

def Covers (candidate : Candidate) (index : Nat) : Prop :=
  candidate.start ≤ index ∧ index < candidate.stop

def indices (candidate : Candidate) : List Nat := List.range' candidate.start candidate.len

/-- The order of the first sort: length downwards, then priority, then start. -/
def before (left right : Candidate) : Bool :=
  right.len < left.len || (right.len == left.len && (left.priority < right.priority ||
    (left.priority == right.priority && left.start ≤ right.start)))

end Candidate

def selectFree : List Nat → List Candidate → List Candidate
  | _, [] => []
  | occupied, candidate :: rest =>
    if candidate.indices.any (occupied.contains ·) then selectFree occupied rest
    else candidate :: selectFree (candidate.indices ++ occupied) rest

def selectNonOverlapping (candidates : List Candidate) : List Candidate :=
  (selectFree [] (candidates.mergeSort Candidate.before)).mergeSort (·.start ≤ ·.start)

/-- A part of the redacted text: copied from the input, or a sentinel in place of a match. -/
inductive Piece where
  | copied (start stop : Nat)
  | masked (candidate : Candidate) (sentinel : Bytes)
  deriving DecidableEq

section Redact

variable {Session : Type} (sentinelForCandidate : Session → Candidate → Bytes × Session)

/-- The loop of `redact_text_internal`; `none` is the panic of a slice that ends before it
starts or after the end of the text. -/
def redactFrom (length : Nat) : Nat → Session → List Candidate → Option (List Piece)
  | cursor, _, [] => if cursor ≤ length then some [.copied cursor length] else none
  | cursor, session, candidate :: rest =>
    if cursor ≤ candidate.start ∧ candidate.start ≤ length then
      let made := sentinelForCandidate session candidate
      (redactFrom length candidate.stop made.2 rest).map fun pieces =>
        .copied cursor candidate.start :: .masked candidate made.1 :: pieces
    else none

def redactTextInternal (session : Session) (input : Bytes) (candidates : List Candidate) :
    Option (List Piece) :=
  redactFrom sentinelForCandidate input.length 0 session (selectNonOverlapping candidates)

/-- The text is redacted without a panic, the selected spans are disjoint and in order, and
what is copied belongs to no candidate. -/
def Masks (session : Session) (input : Bytes) (candidates : List Candidate) : Prop :=
  (selectNonOverlapping candidates).Pairwise (·.stop ≤ ·.start) ∧
    (∀ candidate ∈ candidates, ∀ index, candidate.Covers index →
      ∃ chosen ∈ selectNonOverlapping candidates, chosen.Covers index) ∧
    ∃ pieces, redactTextInternal sentinelForCandidate session input candidates = some pieces ∧
      ∀ start stop, .copied start stop ∈ pieces → ∀ index, start ≤ index → index < stop →
        ∀ candidate ∈ candidates, ¬ candidate.Covers index

end Redact

/-! ## The selection -/

variable {candidate : Candidate}

theorem mem_indices {index} : index ∈ candidate.indices ↔ candidate.Covers index := by
  simp only [Candidate.indices, mem_range'_1, Candidate.Covers, Candidate.len]
  omega

theorem selectFree_sublist (occupied : List Nat) (candidates : List Candidate) :
    (selectFree occupied candidates).Sublist candidates := by
  fun_induction selectFree occupied candidates with
  | case1 => exact .slnil
  | case2 occupied candidate rest taken ih => exact ih.cons _
  | case3 occupied candidate rest free ih => exact ih.cons_cons _

/-- Nothing that is selected shares a byte with what was occupied, or with anything else. -/
theorem selectFree_disjoint (occupied : List Nat) (candidates : List Candidate) :
    (∀ chosen ∈ selectFree occupied candidates, ∀ index ∈ occupied, ¬ chosen.Covers index) ∧
      (selectFree occupied candidates).Pairwise fun left right =>
        ∀ index, left.Covers index → ¬ right.Covers index := by
  fun_induction selectFree occupied candidates with
  | case1 => exact ⟨nofun, .nil⟩
  | case2 occupied candidate rest taken ih => exact ih
  | case3 occupied candidate rest free ih =>
    obtain ⟨clear, apart⟩ := ih
    simp only [mem_append, mem_indices] at clear
    refine ⟨forall_mem_cons.mpr ⟨?_, ?_⟩, pairwise_cons.mpr ⟨?_, apart⟩⟩
    · intro index taken covers
      exact free (any_eq_true.mpr ⟨index, mem_indices.mpr covers, by simpa using taken⟩)
    · exact fun chosen listed index taken => clear chosen listed index (.inr taken)
    · exact fun chosen listed index covers => clear chosen listed index (.inl covers)

/-- What is not selected shares a byte with something that is and is not shorter. -/
theorem selectFree_covers (occupied : List Nat) {candidates}
    (longest : candidates.Pairwise fun left right => right.len ≤ left.len) :
    ∀ candidate ∈ candidates, candidate ∈ selectFree occupied candidates ∨
      ∃ index, candidate.Covers index ∧ (index ∈ occupied ∨
        ∃ chosen ∈ selectFree occupied candidates,
          chosen.Covers index ∧ candidate.len ≤ chosen.len) := by
  fun_induction selectFree occupied candidates with
  | case1 => nofun
  | case2 occupied first rest taken ih =>
    obtain ⟨index, covers, held⟩ := any_eq_true.mp taken
    refine forall_mem_cons.mpr
      ⟨.inr ⟨index, mem_indices.mp covers, .inl ?_⟩, ih (pairwise_cons.mp longest).2⟩
    simpa using held
  | case3 occupied first rest free ih =>
    obtain ⟨longer, longest⟩ := pairwise_cons.mp longest
    refine forall_mem_cons.mpr ⟨.inl (by simp), fun candidate listed => ?_⟩
    rcases ih longest candidate listed with
      chosen | ⟨index, covers, taken | ⟨chosen, member, shared⟩⟩
    · exact .inl (mem_cons_of_mem _ chosen)
    · rcases mem_append.mp taken with taken | taken
      · exact .inr ⟨index, covers, .inr ⟨first, by simp, mem_indices.mp taken,
          longer candidate listed⟩⟩
      · exact .inr ⟨index, covers, .inl taken⟩
    · exact .inr ⟨index, covers, .inr ⟨chosen, mem_cons_of_mem _ member, shared⟩⟩

theorem sorted_longest (candidates : List Candidate) :
    (candidates.mergeSort Candidate.before).Pairwise fun left right => right.len ≤ left.len := by
  refine (pairwise_mergeSort ?_ ?_ candidates).imp ?_ <;>
    simp [Candidate.before] <;> omega

theorem mem_select {candidates} : candidate ∈ selectNonOverlapping candidates ↔
      candidate ∈ selectFree [] (candidates.mergeSort Candidate.before) :=
  (mergeSort_perm _ _).mem_iff

theorem select_subset {candidates chosen}
    (selected : chosen ∈ selectNonOverlapping candidates) : chosen ∈ candidates :=
  (mergeSort_perm _ _).mem_iff.mp ((selectFree_sublist _ _).subset (mem_select.mp selected))

/-- Candidates that overlap only when one is inside the other, and no empty one in a span. -/
def Nested (candidates : List Candidate) : Prop :=
  ∀ inner ∈ candidates, ∀ outer ∈ candidates, outer.Covers inner.start →
    inner.start < inner.stop ∧ (inner.start = outer.start ∨ inner.stop ≤ outer.stop)

/-- An empty candidate is selected and comes after the span that it lies in. -/
theorem select_empty {outer inner} (inside : outer.Covers inner.start)
    (empty : ¬ inner.start < inner.stop) :
    selectNonOverlapping [outer, inner] = [outer, inner] := by
  have none : inner.len = 0 := by
    unfold Candidate.len
    omega
  have some : 0 < outer.len := by
    unfold Candidate.len
    have := inside.1
    have := inside.2
    omega
  have sorted : [outer, inner].mergeSort Candidate.before = [outer, inner] :=
    mergeSort_of_pairwise (by simp [Candidate.before, none, some])
  have free : selectFree [] [outer, inner] = [outer, inner] := by
    simp [selectFree, Candidate.indices, none]
  rw [selectNonOverlapping, sorted, free]
  exact mergeSort_of_pairwise (by simpa using inside.1)

section Nested

variable {candidates : List Candidate} (nested : Nested candidates)
include nested

theorem select_ordered : (selectNonOverlapping candidates).Pairwise (·.stop ≤ ·.start) := by
  have starts : (selectNonOverlapping candidates).Pairwise (·.start ≤ ·.start) := by
    refine (pairwise_mergeSort ?_ ?_ _).imp (fun sorted => of_decide_eq_true sorted)
    · simp only [decide_eq_true_eq]
      omega
    · simp only [Bool.or_eq_true, decide_eq_true_eq]
      omega
  have apart : (selectNonOverlapping candidates).Pairwise fun left right =>
      ∀ index, left.Covers index → ¬ right.Covers index :=
    (mergeSort_perm _ _).symm.pairwise (selectFree_disjoint _ _).2
      fun apart index left right => apart index right left
  refine (starts.and apart).imp_of_mem fun {left right} first second both => ?_
  -- the later span would start in the earlier one, so it is not empty and they share a byte
  by_contra late
  have inside : left.Covers right.start := ⟨both.1, by omega⟩
  have filled := (nested right (select_subset second) left (select_subset first) inside).1
  exact both.2 _ inside ⟨le_rfl, filled⟩

theorem select_covers (listed : candidate ∈ candidates) {index} (covers : candidate.Covers index) :
    ∃ chosen ∈ selectNonOverlapping candidates, chosen.Covers index := by
  rcases selectFree_covers [] (sorted_longest candidates) candidate
      ((mergeSort_perm _ _).mem_iff.mpr listed) with
    chosen | ⟨shared, mine, taken | ⟨chosen, member, its, longer⟩⟩
  · exact ⟨candidate, mem_select.mpr chosen, covers⟩
  · cases taken
  · have other := select_subset (mem_select.mpr member)
    refine ⟨chosen, mem_select.mpr member, ?_⟩
    have inner := nested candidate listed chosen other
    have outer := nested chosen other candidate listed
    unfold Candidate.Covers Candidate.len at *
    by_cases first : chosen.start ≤ candidate.start
    · omega
    · omega

end Nested

section Redacted

variable {Session : Type} (sentinelForCandidate : Session → Candidate → Bytes × Session)

theorem redactFrom_ok {length selected}
    (bounds : ∀ chosen ∈ selected, chosen.start ≤ chosen.stop ∧ chosen.stop ≤ length)
    (ordered : selected.Pairwise (·.stop ≤ ·.start)) (session : Session) (cursor : Nat)
    (within : cursor ≤ length) (front : ∀ chosen ∈ selected, cursor ≤ chosen.start) :
    ∃ pieces, redactFrom sentinelForCandidate length cursor session selected = some pieces ∧
      ∀ start stop, .copied start stop ∈ pieces → cursor ≤ start ∧ ∀ index, start ≤ index →
        index < stop → ∀ chosen ∈ selected, ¬ chosen.Covers index := by
  induction selected generalizing session cursor with
  | nil =>
    refine ⟨_, if_pos within, fun start stop copied => ?_⟩
    cases mem_singleton.mp copied
    exact ⟨le_rfl, fun _ _ _ _ => nofun⟩
  | cons first rest ih =>
    obtain ⟨⟨proper, ends⟩, bounds⟩ := forall_mem_cons.mp bounds
    obtain ⟨behind, ordered⟩ := pairwise_cons.mp ordered
    obtain ⟨reached, -⟩ := forall_mem_cons.mp front
    obtain ⟨pieces, redacted, copies⟩ :=
      ih bounds ordered (sentinelForCandidate session first).2 first.stop ends behind
    refine ⟨.copied cursor first.start :: .masked first (sentinelForCandidate session first).1 ::
      pieces, ?_, fun start stop copied => ?_⟩
    · rw [redactFrom, if_pos ⟨reached, proper.trans ends⟩]
      simp only [redacted, Option.map_some]
    simp only [mem_cons, Piece.copied.injEq, reduceCtorEq, false_or] at copied
    rcases copied with ⟨rfl, rfl⟩ | copied
    · refine ⟨le_rfl, fun index _ short => forall_mem_cons.mpr ⟨?_, ?_⟩⟩
      · exact fun covers => absurd covers.1 (by omega)
      · intro chosen listed covers
        have := behind chosen listed
        exact absurd covers.1 (by omega)
    · obtain ⟨after, outside⟩ := copies start stop copied
      refine ⟨by omega, fun index low high => forall_mem_cons.mpr ⟨?_, ?_⟩⟩
      · exact fun covers => absurd covers.2 (by omega)
      · exact outside index low high

end Redacted

def span (start stop : Nat) : Candidate := ⟨"rule", start, stop, [], 0⟩

def hidden (count : Nat) (_ : Candidate) : Bytes × Nat := ([], count + 1)

end Aeris.Privacy
