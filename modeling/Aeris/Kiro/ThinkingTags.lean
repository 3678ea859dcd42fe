import Aeris.Base.RustStd
import Mathlib.Data.List.Infix

/-! Tags in the answer text: where a thinking part starts and ends. A tag next to a quote
character is talk about the tag and no tag. Text is a list of characters; a position in
the source counts bytes and always stands between two characters, so here it counts
characters. -/
namespace Aeris.Kiro
open RustStd List Nat

abbrev Text := List Char

/-- `str::len`. -/
def byteLength (text : Text) : Nat := (text.map Char.utf8Size).sum

/-- `text.trim().is_empty()`. -/
def isBlankText (text : Text) : Bool := text.all isWhitespace

def KIRO_MAX_THINKING_BUFFER : Nat := 1024 * 1024

def KIRO_QUOTE_CHARS : Text := "`\"'\\#!@$%^&*()-_=+[]\x7b\x7d;:<>,.?/".toList

/-- Whether there is a quote character at a place; there is none outside the text. -/
def isKiroQuoteChar (place : Option Char) : Bool :=
  match place with
  | some c => KIRO_QUOTE_CHARS.contains c
  | none => false

def startTag : Text := "<thinking>".toList

def endTag : Text := "</thinking>".toList

/-! ## Keeping the end of a buffer -/

/-- `floor_char_boundary`: how many characters lie before the last boundary up to an index. -/
def floorCharBoundary : Text → Nat → Nat
  | [], _ => 0
  | c :: rest, index =>
    if c.utf8Size ≤ index then floorCharBoundary rest (index - c.utf8Size) + 1 else 0

def splitPreservingTrailingBytes (buffer : Text) (trailingBytes : Nat) : Option (Text × Text) :=
  if byteLength buffer ≤ trailingBytes then none
  else
    let split := floorCharBoundary buffer (byteLength buffer - trailingBytes)
    if split = 0 then none else some (buffer.take split, buffer.drop split)

@[simp] theorem byteLength_nil : byteLength [] = 0 := rfl

@[simp] theorem byteLength_cons (c : Char) (text : Text) :
    byteLength (c :: text) = c.utf8Size + byteLength text := by
  simp [byteLength]

@[simp] theorem byteLength_append (left right : Text) :
    byteLength (left ++ right) = byteLength left + byteLength right := by
  simp [byteLength]

theorem byteLength_le_of_suffix {part text} (isPart : part <:+ text) :
    byteLength part ≤ byteLength text := by
  obtain ⟨front, rfl⟩ := isPart
  rw [byteLength_append]
  omega

theorem byteLength_le_of_starts {part text} (isPart : part <+: text) :
    byteLength part ≤ byteLength text := by
  obtain ⟨back, rfl⟩ := isPart
  rw [byteLength_append]
  omega

theorem length_le_byteLength (text : Text) : text.length ≤ byteLength text := by
  induction text with
  | nil => exact le_refl 0
  | cons c text ih =>
    have positive := c.utf8Size_pos
    rw [length_cons, byteLength_cons]
    omega

theorem floorCharBoundary_last (text : Text) : ∀ index,
    byteLength (text.take (floorCharBoundary text index)) ≤ index ∧
      ∀ c rest, text.drop (floorCharBoundary text index) = c :: rest →
        index < byteLength (text.take (floorCharBoundary text index)) + c.utf8Size := by
  induction text with
  | nil =>
    intro index
    exact ⟨zero_le _, fun c rest none => by cases none⟩
  | cons first text ih =>
    intro index
    rw [floorCharBoundary]
    split
    · rename_i fits
      have later := ih (index - first.utf8Size)
      rw [take_succ_cons, byteLength_cons, drop_succ_cons]
      refine ⟨by omega, fun c rest next => ?_⟩
      have := later.2 c rest next
      omega
    · rename_i large
      refine ⟨zero_le _, fun c rest next => ?_⟩
      cases next
      omega

def kept (trailingBytes : Nat) (buffer : Text) : Text :=
  ((splitPreservingTrailingBytes buffer trailingBytes).map Prod.snd).getD buffer

def flushed (trailingBytes : Nat) (buffer : Text) : Text :=
  ((splitPreservingTrailingBytes buffer trailingBytes).map Prod.fst).getD []

theorem flushed_append_kept (trailingBytes : Nat) (buffer : Text) :
    flushed trailingBytes buffer ++ kept trailingBytes buffer = buffer := by
  unfold flushed kept splitPreservingTrailingBytes
  split
  · rfl
  · dsimp only
    split
    · rfl
    · exact take_append_drop _ _

/-- The shortest end of a text with so many bytes, or all of it. -/
structure IsKept (trailingBytes : Nat) (text part : Text) : Prop where
  ends : part <:+ text
  enough : trailingBytes ≤ byteLength part ∨ part = text
  short : ∀ c rest, part = c :: rest → byteLength rest < trailingBytes

theorem kept_isKept (trailingBytes : Nat) (buffer : Text) :
    IsKept trailingBytes buffer (kept trailingBytes buffer) := by
  have last := floorCharBoundary_last buffer (byteLength buffer - trailingBytes)
  have total : byteLength (buffer.take
    (floorCharBoundary buffer (byteLength buffer - trailingBytes))) +
      byteLength (buffer.drop (floorCharBoundary buffer (byteLength buffer - trailingBytes))) =
        byteLength buffer := by
    rw [← byteLength_append, take_append_drop]
  unfold kept splitPreservingTrailingBytes
  split
  · rename_i small
    refine ⟨suffix_rfl, .inr rfl, fun c rest whole => ?_⟩
    have size := c.utf8Size_pos
    have whole : buffer = c :: rest := whole
    rw [whole, byteLength_cons] at small
    omega
  · rename_i large
    dsimp only
    split
    · rename_i none
      refine ⟨suffix_rfl, .inr rfl, fun c rest whole => ?_⟩
      have whole : buffer = c :: rest := whole
      have := last.2 c rest (by rw [none]; exact whole)
      rw [none, whole, take_zero, byteLength_nil, byteLength_cons] at this
      omega
    · refine ⟨drop_suffix _ _, .inl ?_, fun c rest next => ?_⟩
      · change _ ≤ byteLength (buffer.drop _)
        omega
      · have next : buffer.drop _ = c :: rest := next
        have := last.2 c rest next
        rw [next, byteLength_cons] at total
        omega

namespace IsKept
variable {trailingBytes : Nat} {text part : Text}

theorem longer (isKept : IsKept trailingBytes text part) {front back}
    (split : text = front ++ back) (fewer : byteLength back < trailingBytes)
    (more : front ≠ []) : back.length < part.length := by
  by_contra notLonger
  have inside : part <:+ back :=
    suffix_of_suffix_length_le isKept.ends ⟨front, split.symm⟩ (not_lt.mp notLonger)
  rcases isKept.enough with enough | whole
  · have := byteLength_le_of_suffix inside
    omega
  · have := inside.length_le
    rw [whole, split, length_append] at this
    exact more (length_eq_zero_iff.mp (by omega))

theorem shorter (isKept : IsKept trailingBytes text part) {front back}
    (split : text = front ++ back) (enough : trailingBytes ≤ byteLength back) :
    part.length ≤ back.length := by
  by_contra notShorter
  cases part with
  | nil => exact notShorter (zero_le _)
  | cons c rest =>
    have inside : back <:+ rest := by
      refine suffix_of_suffix_length_le ⟨front, split.symm⟩
        (List.IsSuffix.trans (suffix_cons c rest) isKept.ends) ?_
      rw [length_cons] at notShorter
      omega
    have := byteLength_le_of_suffix inside
    have := isKept.short c rest rfl
    omega

theorem unique {other} (first : IsKept trailingBytes text part)
    (second : IsKept trailingBytes text other) : part = other := by
  have bound : ∀ {left right : Text}, IsKept trailingBytes text left →
      IsKept trailingBytes text right → left.length ≤ right.length := by
    intro left right one two
    rcases two.enough with enough | whole
    · obtain ⟨front, split⟩ := two.ends
      exact one.shorter split.symm enough
    · rw [whole]
      exact one.ends.length_le
  have length := le_antisymm (bound first second) (bound second first)
  exact (suffix_of_suffix_length_le first.ends second.ends length.le).eq_of_length length

end IsKept

theorem kept_append_of_suffix {trailingBytes text part}
    (keeps : kept trailingBytes text <:+ part) (isPart : part <:+ text) (more : Text) :
    kept trailingBytes (part ++ more) = kept trailingBytes (text ++ more) := by
  have inner := kept_isKept trailingBytes text
  have outer := kept_isKept trailingBytes (part ++ more)
  refine IsKept.unique ⟨?_, ?_, outer.short⟩ (kept_isKept trailingBytes (text ++ more))
  · obtain ⟨front, split⟩ := isPart
    refine outer.ends.trans ⟨front, ?_⟩
    rw [← append_assoc, split]
  · rcases outer.enough with enough | whole
    · exact .inl enough
    · rcases inner.enough with enough | all
      · left
        have := byteLength_le_of_suffix keeps
        rw [whole, byteLength_append]
        omega
      · right
        rw [all] at keeps
        rw [whole, isPart.eq_of_length (le_antisymm isPart.length_le keeps.length_le)]

/-! ## Finding a tag -/

inductive TagVerdict where
  | here
  | goOn
  | giveUp
  deriving DecidableEq, Repr

/-- The search loop of the three functions below: the occurrences are judged from left to
right by the character before them and the text after them. -/
def findTag (tag : Text) (judge : Option Char → Text → TagVerdict) : Option Char → Text → Option Nat
  | _, [] => none
  | before, c :: rest =>
    let later := (findTag tag judge (some c) rest).map (· + 1)
    if tag.isPrefixOf (c :: rest) then
      match judge before ((c :: rest).drop tag.length) with
      | .here => some 0
      | .goOn => later
      | .giveUp => none
    else later

def isQuoted (before : Option Char) (after : Text) : Bool :=
  isKiroQuoteChar before || isKiroQuoteChar after.head?

def judgeStartTag (before : Option Char) (after : Text) : TagVerdict :=
  if isQuoted before after then .goOn else .here

def findKiroRealThinkingStartTag (buffer : Text) : Option Nat :=
  findTag startTag judgeStartTag none buffer

def judgeEndTag (before : Option Char) (after : Text) : TagVerdict :=
  if isQuoted before after then .goOn
  else if byteLength after < 2 then .giveUp
  else if ['\n', '\n'].isPrefixOf after then .here
  else .goOn

def findKiroRealThinkingEndTag (buffer : Text) : Option Nat :=
  findTag endTag judgeEndTag none buffer

def judgeEndTagAtBufferEnd (before : Option Char) (after : Text) : TagVerdict :=
  if isQuoted before after then .goOn
  else if isBlankText after then .here
  else .goOn

def findKiroRealThinkingEndTagAtBufferEnd (buffer : Text) : Option Nat :=
  findTag endTag judgeEndTagAtBufferEnd none buffer

def IsFirst (property : Nat → Prop) : Option Nat → Prop
  | none => ∀ i, ¬ property i
  | some i => property i ∧ ∀ j < i, ¬ property j

theorem IsFirst.unique {property left right}
    (leftFirst : IsFirst property left) (rightFirst : IsFirst property right) : left = right := by
  cases left with
  | none =>
    cases right with
    | none => rfl
    | some j => exact absurd rightFirst.1 (leftFirst j)
  | some i =>
    cases right with
    | none => exact absurd leftFirst.1 (rightFirst i)
    | some j =>
      have notBefore : ¬ i < j := fun before => rightFirst.2 i before leftFirst.1
      have notAfter : ¬ j < i := fun before => leftFirst.2 j before rightFirst.1
      rw [le_antisymm (not_lt.mp notAfter) (not_lt.mp notBefore)]

theorem IsFirst.shift {inner outer found offset}
    (first : IsFirst inner found) (same : ∀ i, outer (offset + i) ↔ inner i)
    (inside : ∀ i, outer i → offset ≤ i) : IsFirst outer (found.map (offset + ·)) := by
  cases found with
  | none =>
    intro i here
    obtain ⟨j, rfl⟩ := Nat.exists_eq_add_of_le (inside i here)
    exact first j ((same j).mp here)
  | some q =>
    refine ⟨(same q).mpr first.1, fun i before here => ?_⟩
    obtain ⟨j, rfl⟩ := Nat.exists_eq_add_of_le (inside i here)
    exact first.2 j (lt_of_add_lt_add_left before) ((same j).mp here)

/-- The character before a position, given the one before the text. -/
def charBefore (before : Option Char) (text : Text) : Nat → Option Char
  | 0 => before
  | i + 1 => text[i]?

/-- An occurrence of the tag that is found good. -/
def TagAt (tag : Text) (judge : Option Char → Text → TagVerdict) (before : Option Char)
    (text : Text) (i : Nat) : Prop :=
  tag <+: text.drop i ∧ judge (charBefore before text i) (text.drop (i + tag.length)) = .here

section FindTag
variable {tag : Text} {judge : Option Char → Text → TagVerdict}

theorem tagAt_cons_succ (before : Option Char) (c : Char) (rest : Text) (i : Nat) :
    TagAt tag judge before (c :: rest) (i + 1) ↔ TagAt tag judge (some c) rest i := by
  have same : charBefore before (c :: rest) (i + 1) = charBefore (some c) rest i := by
    cases i <;> rfl
  rw [TagAt, TagAt, same, drop_succ_cons, add_right_comm, drop_succ_cons]

theorem isFirst_cons {before c rest found} (later : IsFirst (TagAt tag judge (some c) rest) found)
    (notHere : ¬ TagAt tag judge before (c :: rest) 0) :
    IsFirst (TagAt tag judge before (c :: rest)) (found.map (· + 1)) := by
  cases found with
  | none =>
    intro i
    cases i with
    | zero => exact notHere
    | succ i => exact fun here => later i ((tagAt_cons_succ before c rest i).mp here)
  | some found =>
    refine ⟨(tagAt_cons_succ before c rest found).mpr later.1, fun j before' => ?_⟩
    cases j with
    | zero => exact notHere
    | succ j =>
      exact fun here => later.2 j (lt_of_succ_lt_succ before')
        ((tagAt_cons_succ before c rest j).mp here)

/-- The loop finds the first good occurrence, if no occurrence follows one at which it
gives up. -/
theorem findTag_first (nonempty : tag ≠ [])
    (settled : ∀ before text, judge before text = .giveUp → ∀ i, ¬ tag <+: text.drop i)
    (single : ∀ text i, tag <+: text → 0 < i → i < tag.length → ¬ tag <+: text.drop i)
    (text : Text) : ∀ before, IsFirst (TagAt tag judge before text)
      (findTag tag judge before text) := by
  induction text with
  | nil =>
    rintro before i ⟨here, _⟩
    rw [drop_nil] at here
    exact nonempty (prefix_nil.mp here)
  | cons c rest ih =>
    intro before
    rw [findTag]
    split
    · rename_i starts
      have starts := isPrefixOf_iff_prefix.mp starts
      split
      · rename_i verdict
        exact ⟨⟨starts, by rw [zero_add]; exact verdict⟩, fun j none => absurd none (not_lt_zero j)⟩
      · rename_i verdict
        refine isFirst_cons (ih (some c)) ?_
        rintro ⟨_, here⟩
        rw [zero_add] at here
        exact absurd (verdict.symm.trans here) (by decide)
      · rename_i verdict
        rintro i ⟨again, here⟩
        rcases lt_or_ge i tag.length with near | far
        · rcases Nat.eq_zero_or_pos i with rfl | positive
          · rw [zero_add] at here
            exact absurd (verdict.symm.trans here) (by decide)
          · exact single _ i starts positive near again
        · refine settled _ _ verdict (i - tag.length) ?_
          rwa [drop_drop, Nat.add_sub_cancel' far]
    · rename_i none
      refine isFirst_cons (ih (some c)) ?_
      rintro ⟨here, _⟩
      exact none (List.isPrefixOf_iff_prefix.mpr here)

end FindTag

/-! ## Occurrences in a longer text -/

section Occurrences
variable {tag text more : Text} {i : Nat}

theorem occurs_append (here : tag <+: text.drop i) : tag <+: (text ++ more).drop i := by
  rw [drop_append]
  exact here.trans (prefix_append _ _)

theorem occurs_of_append (here : tag <+: (text ++ more).drop i)
    (inside : i + tag.length ≤ text.length) : tag <+: text.drop i := by
  rw [drop_append_of_le_length (by omega)] at here
  refine prefix_of_prefix_length_le here (prefix_append _ _) ?_
  rw [length_drop]
  omega

theorem occurs_length (here : tag <+: text.drop i) (nonempty : tag ≠ []) :
    i + tag.length ≤ text.length := by
  have := here.length_le
  have := length_pos_iff.mpr nonempty
  rw [length_drop] at *
  omega

theorem occurs_getElem? (here : tag <+: text.drop i) {k} (inside : k < tag.length) :
    text[i + k]? = tag[k]? := by
  obtain ⟨back, split⟩ := here
  rw [← getElem?_drop, ← split, getElem?_append_left inside]

theorem charBefore_append (inside : i ≤ text.length) :
    charBefore none (text ++ more) i = charBefore none text i := by
  cases i with
  | zero => rfl
  | succ i => exact getElem?_append_left inside

theorem charBefore_drop (front : Text) (j : Nat) (positive : 0 < j) :
    charBefore none text j = charBefore none (front ++ text) (front.length + j) := by
  cases j with
  | zero => cases positive
  | succ j =>
    change text[j]? = (front ++ text)[front.length + j]?
    rw [getElem?_append_right (by omega)]
    congr 1
    omega

theorem occurs_drop (front : Text) (j : Nat) :
    (front ++ text).drop (front.length + j) = text.drop j := by
  rw [drop_append, drop_eq_nil_of_le (by omega), nil_append]
  congr 1
  omega

end Occurrences

/-! ## The tags themselves -/

variable {i : Nat}

theorem single_of_head {head} {rest text : Text} (once : head ∉ rest)
    (first : head :: rest <+: text) (positive : 0 < i) (near : i < (head :: rest).length) :
    ¬ head :: rest <+: text.drop i := by
  intro again
  have letter : text[0 + i]? = (head :: rest)[i]? := occurs_getElem? first near
  have begins : text[i + 0]? = some head := occurs_getElem? again (zero_lt_succ _)
  obtain ⟨j, rfl⟩ := exists_eq_succ_of_ne_zero positive.ne'
  rw [zero_add] at letter
  rw [add_zero, letter] at begins
  exact once (mem_of_getElem? begins)

theorem startTag_single {text} (first : startTag <+: text) (positive : 0 < i)
    (near : i < startTag.length) : ¬ startTag <+: text.drop i :=
  single_of_head (by decide : '<' ∉ "thinking>".toList) first positive near

theorem endTag_single {text} (first : endTag <+: text) (positive : 0 < i)
    (near : i < endTag.length) : ¬ endTag <+: text.drop i :=
  single_of_head (by decide : '<' ∉ "/thinking>".toList) first positive near

theorem startTag_apart {text : Text} {i j} (first : startTag <+: text.drop i)
    (second : startTag <+: text.drop j) (before : i < j) : i + startTag.length ≤ j := by
  by_contra near
  have again : startTag <+: (text.drop i).drop (j - i) := by
    rwa [drop_drop, Nat.add_sub_cancel' before.le]
  exact startTag_single first (by omega) (by omega) again

/-- A start tag with no quote character on either side. -/
def RealStart (text : Text) (i : Nat) : Prop :=
  startTag <+: text.drop i ∧ isKiroQuoteChar (charBefore none text i) = false ∧
    isKiroQuoteChar text[i + startTag.length]? = false

/-- An end tag with no quote character before it and an empty line after it. -/
def RealEnd (text : Text) (i : Nat) : Prop :=
  endTag <+: text.drop i ∧ isKiroQuoteChar (charBefore none text i) = false ∧
    ['\n', '\n'] <+: text.drop (i + endTag.length)

theorem judgeStartTag_here (before : Option Char) (after : Text) :
    judgeStartTag before after = .here ↔
      isKiroQuoteChar before = false ∧ isKiroQuoteChar after.head? = false := by
  cases left : isKiroQuoteChar before <;> cases right : isKiroQuoteChar after.head? <;>
    simp [judgeStartTag, isQuoted, left, right]

theorem judgeEndTag_here (before : Option Char) (after : Text) : judgeEndTag before after = .here ↔
      isKiroQuoteChar before = false ∧ ['\n', '\n'] <+: after := by
  constructor
  · intro here
    unfold judgeEndTag at here
    repeat' split at here
    all_goals cases here
    rename_i unquoted _ follows
    rw [isQuoted, Bool.or_eq_true, not_or] at unquoted
    exact ⟨Bool.eq_false_iff.mpr unquoted.1, isPrefixOf_iff_prefix.mp follows⟩
  · rintro ⟨unquoted, rest, rfl⟩
    have newline : isKiroQuoteChar (some '\n') = false := by decide
    have long : 1 < Char.utf8Size '\n' + (Char.utf8Size '\n' + byteLength rest) := by
      have size : Char.utf8Size '\n' = 1 := by decide
      omega
    simpa [judgeEndTag, isQuoted, unquoted, newline] using long

theorem startTagAt_first (text : Text) : IsFirst (TagAt startTag judgeStartTag none text)
      (findTag startTag judgeStartTag none text) := by
  refine findTag_first (by decide) ?_ (fun _ _ => startTag_single) text none
  intro before after givesUp
  unfold judgeStartTag at givesUp
  split at givesUp <;> cases givesUp

theorem endTagAt_first (text : Text) :
    IsFirst (TagAt endTag judgeEndTag none text) (findTag endTag judgeEndTag none text) := by
  refine findTag_first (by decide) ?_ (fun _ _ => endTag_single) text none
  intro before after givesUp i again
  -- The loop gives up with less text left than a tag needs.
  have room : byteLength endTag ≤ byteLength after :=
    (byteLength_le_of_starts again).trans (byteLength_le_of_suffix (drop_suffix i after))
  have eleven : byteLength endTag = 11 := by decide
  unfold judgeEndTag at givesUp
  repeat' split at givesUp
  all_goals cases givesUp
  omega

theorem judgeEndTagAtBufferEnd_settled (before : Option Char) (after : Text)
    (givesUp : judgeEndTagAtBufferEnd before after = .giveUp) (i : Nat) :
    ¬ endTag <+: after.drop i := by
  unfold judgeEndTagAtBufferEnd at givesUp
  repeat' split at givesUp
  all_goals cases givesUp

theorem findKiroRealThinkingStartTag_first (text : Text) :
    IsFirst (RealStart text) (findKiroRealThinkingStartTag text) := by
  have same : RealStart text = TagAt startTag judgeStartTag none text := by
    funext i
    rw [TagAt, judgeStartTag_here, head?_drop]
    rfl
  rw [same]
  exact startTagAt_first text

theorem startTag_room {q} (found : findKiroRealThinkingStartTag text = some q) :
    q + startTag.length ≤ text.length := by
  have first := findKiroRealThinkingStartTag_first text
  rw [found] at first
  exact occurs_length first.1.1 (by decide)

theorem findKiroRealThinkingEndTag_first (text : Text) :
    IsFirst (RealEnd text) (findKiroRealThinkingEndTag text) := by
  have same : RealEnd text = TagAt endTag judgeEndTag none text := by
    funext i
    rw [TagAt, judgeEndTag_here]
    rfl
  rw [same]
  exact endTagAt_first text

end Aeris.Kiro
