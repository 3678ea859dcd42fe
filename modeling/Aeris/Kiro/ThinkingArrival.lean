import Aeris.Kiro.ThinkingSeparation

/-! The way to the start tag. Until it is found, text goes out as answer except for its
end, and blank text waits for what follows it. Blank text right before the tag is dropped,
but only as much of it as is still there: a cut can have let text go from before it. -/
namespace Aeris.Kiro

open List Nat

theorem isBlankText_append (left right : Text) :
    isBlankText (left ++ right) = (isBlankText left && isBlankText right) :=
  all_append

/-! ## Blank text before the tag -/

theorem quote_of_blank {c} (blank : RustStd.isWhitespace c = true) :
    isKiroQuoteChar (some c) = false := by
  have none : KIRO_QUOTE_CHARS.all (fun quote => !RustStd.isWhitespace quote) = true := by decide
  rw [isKiroQuoteChar, Bool.eq_false_iff]
  intro quote
  have ink := all_eq_true.mp none c (contains_iff_mem.mp quote)
  rw [blank] at ink
  cases ink

theorem quote_of_blank_text {text} (blank : isBlankText text = true) (i : Nat) :
    isKiroQuoteChar text[i]? = false := by
  cases here : text[i]? with
  | none => rfl
  | some c => exact quote_of_blank (all_eq_true.mp blank c (mem_of_getElem? here))

variable {held : Text}

theorem startTag_not_in_blank {text i} (blank : isBlankText held = true)
    (inside : i < held.length) : ¬ startTag <+: (held ++ text).drop i := by
  intro here
  have angle : (held ++ text)[i + 0]? = some '<' := occurs_getElem? here (by decide)
  rw [add_zero, getElem?_append_left inside] at angle
  have white := all_eq_true.mp blank '<' (mem_of_getElem? angle)
  exact absurd white (by decide)

theorem realStart_blank_append (blank : isBlankText held = true) (text : Text) (j : Nat) :
    RealStart (held ++ text) (held.length + j) ↔ RealStart text j := by
  have context : isKiroQuoteChar (charBefore none (held ++ text) (held.length + j)) =
      isKiroQuoteChar (charBefore none text j) := by
    rcases Nat.eq_zero_or_pos j with rfl | positive
    · rw [add_zero, charBefore_append (le_refl _)]
      generalize held.length = n
      cases n with
      | zero => rfl
      | succ n => exact quote_of_blank_text blank n
    · rw [← charBefore_drop held j positive]
  have after : (held ++ text)[held.length + j + startTag.length]? = text[j + startTag.length]? := by
    rw [getElem?_append_right (by omega)]
    congr 1
    omega
  rw [RealStart, RealStart, occurs_drop, context, after]

theorem findStartTag_blank_append (blank : isBlankText held = true) (text : Text) :
    findKiroRealThinkingStartTag (held ++ text) =
      (findKiroRealThinkingStartTag text).map (held.length + ·) := by
  have first := findKiroRealThinkingStartTag_first text
  refine (findKiroRealThinkingStartTag_first _).unique
    (first.shift (realStart_blank_append blank text) fun i here => ?_)
  exact Nat.le_of_not_lt fun inside => startTag_not_in_blank blank inside here.1

/-! ## The state while seeking -/

/-- After some text was fed: what went out, and what waits. -/
structure Sought (fed answer buffer : Text) : Prop where
  parts : fed = answer ++ buffer
  waits : ∃ held, buffer = held ++ kept startTag.length fed ∧ isBlankText held = true
  begun : answer = [] ∨ isBlankText answer = false

theorem sought_nil : Sought [] [] [] := ⟨rfl, ⟨[], rfl, rfl⟩, .inl rfl⟩

namespace Sought
variable {fed answer buffer : Text} (sought : Sought fed answer buffer)
include sought

theorem kept_append (piece : Text) :
    kept startTag.length (buffer ++ piece) = kept startTag.length (fed ++ piece) := by
  obtain ⟨held, split, _⟩ := sought.waits
  exact kept_append_of_suffix ⟨held, split.symm⟩ ⟨answer, sought.parts.symm⟩ piece

theorem find (piece : Text) :
    (findKiroRealThinkingStartTag (buffer ++ piece)).map (answer.length + ·) =
      seen startTag judgeStartTag fed piece := by
  obtain ⟨held, split, blank⟩ := sought.waits
  have place : gone startTag.length fed = answer.length + held.length := by
    have length := congrArg List.length sought.parts
    rw [split, length_append, length_append] at length
    rw [gone]
    omega
  rw [seen, split, append_assoc, findStartTag_blank_append blank, Option.map_map, place]
  congr 1
  funext j
  exact (add_assoc _ _ _).symm

theorem hold {piece} (blank : isBlankText (flushed startTag.length (buffer ++ piece)) =
    true) : Sought (fed ++ piece) answer (buffer ++ piece) where
  parts := by rw [sought.parts, append_assoc]
  waits := by
    refine ⟨flushed startTag.length (buffer ++ piece), ?_, blank⟩
    rw [← sought.kept_append, flushed_append_kept]
  begun := sought.begun

theorem flush {piece} (text : isBlankText (flushed startTag.length (buffer ++ piece)) = false) :
    Sought (fed ++ piece) (answer ++ flushed startTag.length (buffer ++ piece))
      (kept startTag.length (buffer ++ piece)) where
  parts := by rw [append_assoc, flushed_append_kept, sought.parts, append_assoc]
  waits := ⟨[], sought.kept_append piece, rfl⟩
  begun := by
    right
    rw [isBlankText_append, text, Bool.and_false]

theorem take_up_to {piece q}
    (found : findKiroRealThinkingStartTag (buffer ++ piece) = some q) (pieces : List Text) :
    (fed ++ (piece :: pieces).flatten).take (answer.length + q) =
      answer ++ (buffer ++ piece).take q := by
  have room := startTag_room found
  have inside : q ≤ (buffer ++ piece).length := by omega
  rw [sought.parts, flatten_cons, append_assoc, ← append_assoc buffer,
    take_length_add_append, take_append_of_le_length inside]

end Sought

/-- The way from a state to the start tag: where it is in the whole text, the answer text
before it, the rest of the piece it is found with, and the pieces after that one. -/
inductive Arrives : (fed answer buffer : Text) → List Text → Nat → (before rest : Text) →
    List Text → Prop
  | now {fed answer buffer piece pieces q} :
      findKiroRealThinkingStartTag (buffer ++ piece) = some q →
      Arrives fed answer buffer (piece :: pieces) (answer.length + q)
        (answer ++ if isBlankText ((buffer ++ piece).take q) then [] else (buffer ++ piece).take q)
        ((buffer ++ piece).drop (q + startTag.length)) pieces
  | hold {fed answer buffer piece before rest pieces later p} :
      findKiroRealThinkingStartTag (buffer ++ piece) = none →
      isBlankText (flushed startTag.length (buffer ++ piece)) = true →
      Arrives (fed ++ piece) answer (buffer ++ piece) pieces p before rest later →
      Arrives fed answer buffer (piece :: pieces) p before rest later
  | flush {fed answer buffer piece before rest pieces later p} :
      findKiroRealThinkingStartTag (buffer ++ piece) = none →
      isBlankText (flushed startTag.length (buffer ++ piece)) = false →
      Arrives (fed ++ piece) (answer ++ flushed startTag.length (buffer ++ piece))
        (kept startTag.length (buffer ++ piece)) pieces p before rest later →
      Arrives fed answer buffer (piece :: pieces) p before rest later

theorem seeking_separate (pieces : List Text) : ∀ {fed answer buffer}, Sought fed answer buffer →
      (scan startTag judgeStartTag fed pieces = none ∧
        (⟨answer, []⟩ : Separated) ++ (Phase.seeking buffer).separate pieces =
          ⟨fed ++ pieces.flatten, []⟩) ∨
      ∃ p before rest later, scan startTag judgeStartTag fed pieces = some p ∧
        Arrives fed answer buffer pieces p before rest later ∧
        (⟨answer, []⟩ : Separated) ++ (Phase.seeking buffer).separate pieces =
          ⟨before, []⟩ ++ readAll rest later := by
  induction pieces with
  | nil =>
    intro fed answer buffer sought
    left
    refine ⟨rfl, ?_⟩
    rw [flatten_nil, append_nil, sought.parts]
    rfl
  | cons piece pieces ih =>
    intro fed answer buffer sought
    have find := sought.find piece
    rw [scan, ← find, Phase.separate, Phase.feed, seekText]
    cases found : findKiroRealThinkingStartTag (buffer ++ piece) with
    | some q =>
      right
      refine ⟨_, _, _, _, rfl, .now found, ?_⟩
      rw [readAll, Separated.append_assoc, ← Separated.append_assoc]
      rfl
    | none =>
      rw [flatten_cons, ← append_assoc]
      by_cases blank : isBlankText (flushed startTag.length (buffer ++ piece)) = true
      · rw [if_pos blank]
        rcases ih (sought.hold blank) with all | ⟨p, before, rest, later, scanned, run, texts⟩
        · exact .inl all
        · exact .inr ⟨p, before, rest, later, scanned, .hold found blank run, texts⟩
      · rw [if_neg blank, ← Separated.append_assoc]
        have text := Bool.eq_false_iff.mpr blank
        rcases ih (sought.flush text) with all | ⟨p, before, rest, later, scanned, run, texts⟩
        · exact .inl all
        · exact .inr ⟨p, before, rest, later, scanned, .flush found text run, texts⟩

/-! ## What is known on arrival -/

theorem length_kept_le (trailingBytes : Nat) (text : Text) :
    (kept trailingBytes text).length ≤ trailingBytes := by
  have isKept := kept_isKept trailingBytes text
  cases part : kept trailingBytes text with
  | nil => exact zero_le _
  | cons c rest =>
    have short := isKept.short c rest part
    have := length_le_byteLength rest
    rw [length_cons]
    omega

section Arrival
variable {fed answer buffer before rest : Text} {pieces later : List Text} {p : Nat}

section

variable (run : Arrives fed answer buffer pieces p before rest later)
include run

theorem Arrives.piece (sought : Sought fed answer buffer) :
    ∃ earlier piece, pieces = earlier ++ piece :: later ∧
      rest = (fed ++ earlier.flatten ++ piece).drop (p + startTag.length) ∧
      (fed ++ earlier.flatten).length ≤ p + startTag.length ∧
      p + startTag.length ≤ (fed ++ earlier.flatten ++ piece).length ∧
      startTag <+: (fed ++ earlier.flatten ++ piece).drop p := by
  induction run with
  | @now fed answer buffer piece pieces q found =>
    have first := findKiroRealThinkingStartTag_first (buffer ++ piece)
    rw [found] at first
    have whole : fed ++ piece = answer ++ (buffer ++ piece) := by
      rw [sought.parts, append_assoc]
    have there : gone startTag.length fed ≤ answer.length + q := by
      have scanned : scan startTag judgeStartTag fed [piece] = some (answer.length + q) := by
        rw [scan, ← sought.find piece, found]
        rfl
      exact gone_le_of_scan _ scanned
    have few := length_kept_le startTag.length fed
    refine ⟨[], piece, rfl, ?_, ?_, ?_, ?_⟩
    · rw [flatten_nil, append_nil, whole, add_assoc, occurs_drop]
    · rw [flatten_nil, append_nil]
      rw [gone] at there
      omega
    · have room := occurs_length first.1.1 (by decide)
      rw [flatten_nil, append_nil, whole, length_append]
      omega
    · rw [flatten_nil, append_nil, whole, occurs_drop]
      exact first.1.1
  | hold _ blank _ ih =>
    obtain ⟨earlier, piece, split, facts⟩ := ih (sought.hold blank)
    refine ⟨_ :: earlier, piece, by rw [split]; rfl, ?_⟩
    rwa [flatten_cons, ← append_assoc]
  | flush _ text _ ih =>
    obtain ⟨earlier, piece, split, facts⟩ := ih (sought.flush text)
    refine ⟨_ :: earlier, piece, by rw [split]; rfl, ?_⟩
    rwa [flatten_cons, ← append_assoc]

theorem Arrives.scanned (sought : Sought fed answer buffer) :
    scan startTag judgeStartTag fed pieces = some p := by
  induction run with
  | now found =>
    rw [scan, ← sought.find, found]
    rfl
  | hold found blank _ ih =>
    rw [scan, ← sought.find, found]
    exact ih (sought.hold blank)
  | flush found text _ ih =>
    rw [scan, ← sought.find, found]
    exact ih (sought.flush text)

theorem Arrives.before_eq (sought : Sought fed answer buffer) :
    ∃ f ≤ p, before = (fed ++ pieces.flatten).take f ∧
      isBlankText (((fed ++ pieces.flatten).take p).drop f) = true := by
  induction run with
  | @now fed answer buffer piece pieces q found =>
    have upTo := sought.take_up_to found pieces
    by_cases blank : isBlankText ((buffer ++ piece).take q) = true
    · refine ⟨answer.length, le_add_right _ _, ?_, ?_⟩
      · rw [if_pos blank, append_nil, sought.parts, append_assoc, take_left]
      · rw [upTo, drop_left, blank]
    · refine ⟨answer.length + q, le_refl _, ?_, ?_⟩
      · rw [if_neg blank, upTo]
      · rw [drop_take_self]
        rfl
  | hold _ blank _ ih =>
    rw [flatten_cons, ← append_assoc]
    exact ih (sought.hold blank)
  | flush _ text _ ih =>
    rw [flatten_cons, ← append_assoc]
    exact ih (sought.flush text)

end

/-! ## Blank text that is lost -/

/-- The answer text before the tag, as it is when nothing of it went out before. -/
def answerBefore (text : Text) (p : Nat) : Text :=
  if isBlankText (text.take p) then [] else text.take p

/-- A cut that does not lose text: what goes out with it is blank, or what stays before the
tag is not. -/
def KeepsBlank (text : Text) (p : Nat) (fed _next : Text) : Prop :=
  isBlankText (flushed startTag.length fed) = false →
    (flushed startTag.length fed).length < p →
      isBlankText ((text.take p).drop (flushed startTag.length fed).length) = false

/-- With this much out, the answer text before the tag will be whole. -/
def Whole (text : Text) (p : Nat) (answer : Text) : Prop :=
  answer = [] ∨ answer.length = p ∨ isBlankText ((text.take p).drop answer.length) = false

theorem drop_take_split {front middle back : Text} {p} (inside : (front ++ middle).length ≤
    p) : ((front ++ middle ++ back).take p).drop front.length =
      middle ++ ((front ++ middle ++ back).take p).drop (front ++ middle).length := by
  obtain ⟨k, rfl⟩ := Nat.exists_eq_add_of_le inside
  rw [take_length_add_append, drop_left, append_assoc, drop_left]

theorem Sought.flushed_eq (sought : Sought fed answer buffer) :
    ∃ held, isBlankText held = true ∧ flushed startTag.length fed = answer ++ held := by
  obtain ⟨held, split, blank⟩ := sought.waits
  refine ⟨held, blank, (append_left_inj (kept startTag.length fed)).mp ?_⟩
  rw [flushed_append_kept, append_assoc, ← split]
  exact sought.parts

theorem Sought.keepsBlank (sought : Sought fed answer buffer) {more : Text}
    (whole : Whole (fed ++ more) p answer) (next : Text) : KeepsBlank (fed ++ more) p fed next := by
  obtain ⟨held, blank, out⟩ := sought.flushed_eq
  intro text inside
  rw [out] at text inside ⊢
  have begun : isBlankText answer = false := by
    rw [isBlankText_append, blank, Bool.and_true] at text
    exact text
  have split : fed = answer ++ held ++ kept startTag.length fed := by
    rw [← out, flushed_append_kept]
  rcases whole with none | all | text
  · rw [none] at begun
    cases begun
  · rw [length_append] at inside
    omega
  · rw [split, append_assoc, drop_take_split inside.le, isBlankText_append, blank,
      Bool.true_and] at text
    rw [split, append_assoc]
    exact text

theorem keepsBlank_beyond {text} (fed : Text) (beyond : p + startTag.length ≤ fed.length)
    (next : Text) : KeepsBlank text p fed next := by
  intro _ inside
  have few := length_kept_le startTag.length fed
  have total := congrArg List.length (flushed_append_kept startTag.length fed)
  rw [length_append] at total
  omega

theorem Sought.whole_now (sought : Sought fed answer buffer) {piece q}
    (found : findKiroRealThinkingStartTag (buffer ++ piece) = some q) (pieces : List Text) :
    (answer ++ if isBlankText ((buffer ++ piece).take q) then [] else (buffer ++ piece).take q) =
        answerBefore (fed ++ (piece :: pieces).flatten) (answer.length + q) ↔
      Whole (fed ++ (piece :: pieces).flatten) (answer.length + q) answer := by
  have room := startTag_room found
  rw [answerBefore, Whole, sought.take_up_to found pieces, drop_left]
  rcases sought.begun with none | begun
  · subst none
    exact ⟨fun _ => .inl rfl, fun _ => rfl⟩
  · have held : answer ≠ [] := by
      rintro rfl
      cases begun
    rw [isBlankText_append, begun, Bool.false_and, if_neg Bool.false_ne_true, append_right_inj]
    cases blank : isBlankText ((buffer ++ piece).take q) with
    | false => exact ⟨fun _ => .inr (.inr rfl), fun _ => rfl⟩
    | true =>
      rw [if_pos rfl]
      constructor
      · intro none
        have length := congrArg List.length none
        rw [length_take, length_nil] at length
        exact .inr (.inl (by omega))
      · rintro (none | zero | text)
        · exact absurd none held
        · rw [show q = 0 by omega, take_zero]
        · cases text

theorem Arrives.cons (run : Arrives fed answer buffer pieces p before rest later) :
    ∃ next more, pieces = next :: more := by
  cases run <;> exact ⟨_, _, rfl⟩

theorem Sought.whole_flush (sought : Sought fed answer buffer) {piece : Text} (more : Text)
    (text : isBlankText (flushed startTag.length (buffer ++ piece)) = false)
    (inside : gone startTag.length (fed ++ piece) ≤ p) (next : Text) :
    Whole (fed ++ piece ++ more) p answer ∧
      (KeepsBlank (fed ++ piece ++ more) p (fed ++ piece) next →
        Whole (fed ++ piece ++ more) p (answer ++ flushed startTag.length (buffer ++ piece))) := by
  have parts := (sought.flush text).parts
  have begun : isBlankText (answer ++ flushed startTag.length (buffer ++ piece)) = false := by
    rw [isBlankText_append, text, Bool.and_false]
  have out : flushed startTag.length (fed ++ piece) =
      answer ++ flushed startTag.length (buffer ++ piece) := by
    refine (append_left_inj (kept startTag.length (fed ++ piece))).mp ?_
    rw [flushed_append_kept, ← sought.kept_append]
    exact parts
  have upTo : (answer ++ flushed startTag.length (buffer ++ piece)).length ≤ p := by
    have total := congrArg List.length (flushed_append_kept startTag.length (fed ++ piece))
    rw [length_append] at total
    rw [← out]
    rw [gone] at inside
    omega
  constructor
  · right; right
    rw [parts, append_assoc, drop_take_split upTo, isBlankText_append, text, Bool.false_and]
  · intro keeps
    rw [KeepsBlank, out] at keeps
    rcases lt_or_eq_of_le upTo with less | equal
    · exact .inr (.inr (keeps begun less))
    · exact .inr (.inl equal)

theorem Arrives.whole_iff (run : Arrives fed answer buffer pieces p before rest later)
    (sought : Sought fed answer buffer) : before = answerBefore (fed ++ pieces.flatten) p ↔
      Whole (fed ++ pieces.flatten) p answer ∧
        AllCuts (KeepsBlank (fed ++ pieces.flatten) p) fed pieces := by
  induction run with
  | @now fed answer buffer piece pieces q found =>
    rw [sought.whole_now found pieces]
    refine ⟨fun whole => ⟨whole, ?_⟩, And.left⟩
    rw [allCuts_cons]
    refine ⟨sought.keepsBlank whole piece, fun earlier next after _ => ?_⟩
    refine keepsBlank_beyond _ ?_ next
    have room := startTag_room found
    rw [length_append] at room
    rw [sought.parts]
    simp only [length_append]
    omega
  | hold _ blank run ih =>
    rw [flatten_cons, ← append_assoc, ih (sought.hold blank), allCuts_cons]
    constructor
    · rintro ⟨whole, later⟩
      rw [append_assoc] at whole ⊢
      exact ⟨whole, sought.keepsBlank whole _, by rwa [← append_assoc]⟩
    · rintro ⟨whole, _, later⟩
      exact ⟨whole, later⟩
  | @flush fed answer buffer piece before rest pieces later p _ text run ih =>
    rw [flatten_cons, ← append_assoc, ih (sought.flush text), allCuts_cons]
    have inside := gone_le_of_scan _ (run.scanned (sought.flush text))
    constructor
    · rintro ⟨_, keeps⟩
      have whole := (sought.whole_flush pieces.flatten text inside []).1
      rw [append_assoc] at whole ⊢
      exact ⟨whole, sought.keepsBlank whole _, by rwa [← append_assoc]⟩
    · rintro ⟨_, _, keeps⟩
      obtain ⟨next, more, rfl⟩ := run.cons
      have first := ((allCuts_cons _ _ _ _).mp keeps).1
      exact ⟨(sought.whole_flush _ text inside next).2 first, keeps⟩

end Arrival

end Aeris.Kiro
