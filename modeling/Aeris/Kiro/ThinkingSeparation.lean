import Aeris.Kiro.ThinkingCuts

/-! Taking thinking text and answer text apart, as far as the texts go: which part of what came in
goes out as thinking, which as answer, and what waits in the buffer. -/
namespace Aeris.Kiro

open List

@[ext]
structure Separated where
  answer : Text
  thinking : Text
  deriving DecidableEq, Repr

namespace Separated

instance : Append Separated :=
  ⟨fun first second => ⟨first.answer ++ second.answer, first.thinking ++ second.thinking⟩⟩

@[simp] theorem answer_append (first second : Separated) :
    (first ++ second).answer = first.answer ++ second.answer := rfl

@[simp] theorem thinking_append (first second : Separated) :
    (first ++ second).thinking = first.thinking ++ second.thinking := rfl

theorem append_assoc (first second third : Separated) :
    first ++ second ++ third = first ++ (second ++ third) := by
  ext1 <;> simp

end Separated

/-- Where in the text the separation is, with the text that is held back. -/
inductive Phase where
  | seeking (buffer : Text)
  | reading (strip : Bool) (buffer : Text)
  | done
  deriving DecidableEq, Repr

def stripNewline : Text → Text
  | '\n' :: rest => rest
  | text => text

/-- The thinking text goes on; the newline after the start tag is left out. -/
def readText (strip : Bool) (buffer : Text) : Separated × Phase :=
  let text := if strip then stripNewline buffer else buffer
  match findKiroRealThinkingEndTag text with
  | some endPos => (⟨text.drop (endPos + endTag.length), text.take endPos⟩, .done)
  | none =>
    (⟨[], flushed endTag.length text⟩, .reading (strip && buffer.isEmpty) (kept endTag.length text))

def seekText (buffer : Text) : Separated × Phase :=
  match findKiroRealThinkingStartTag buffer with
  | some startPos =>
    let before := buffer.take startPos
    let after := readText true (buffer.drop (startPos + startTag.length))
    (⟨if isBlankText before then [] else before, []⟩ ++ after.1, after.2)
  | none =>
    if isBlankText (flushed startTag.length buffer) then (⟨[], []⟩, .seeking buffer)
    else (⟨flushed startTag.length buffer, []⟩, .seeking (kept startTag.length buffer))

namespace Phase

def feed : Phase → Text → Separated × Phase
  | .seeking buffer, text => seekText (buffer ++ text)
  | .reading strip buffer, text => readText strip (buffer ++ text)
  | .done, text => (⟨text, []⟩, .done)

def finish : Phase → Separated
  | .seeking buffer => ⟨buffer, []⟩
  | .reading _ buffer =>
    match findKiroRealThinkingEndTagAtBufferEnd buffer with
    | some endPos => ⟨buffer.drop (endPos + endTag.length), buffer.take endPos⟩
    | none => ⟨[], buffer⟩
  | .done => ⟨[], []⟩

/-- The texts that come out when the pieces are fed and then it ends. -/
def separate : Phase → List Text → Separated
  | phase, [] => phase.finish
  | phase, piece :: pieces => (phase.feed piece).1 ++ separate (phase.feed piece).2 pieces

end Phase

/-! ## What is held back -/

def Phase.buffer : Phase → Text
  | .seeking buffer => buffer
  | .reading _ buffer => buffer
  | .done => []

theorem stripNewline_suffix (text : Text) : stripNewline text <:+ text := by
  unfold stripNewline
  split
  · exact suffix_cons _ _
  · exact suffix_refl _

theorem readText_buffer (strip : Bool) (text : Text) : (readText strip text).2.buffer <:+ text := by
  have stripped : (if strip then stripNewline text else text) <:+ text := by
    split
    · exact stripNewline_suffix text
    · exact suffix_refl _
  unfold readText
  dsimp only
  split
  · exact nil_suffix
  · exact (kept_isKept _ _).ends.trans stripped

theorem seekText_buffer (text : Text) : (seekText text).2.buffer <:+ text := by
  unfold seekText
  split
  · exact (readText_buffer _ _).trans (drop_suffix _ _)
  · split
    · exact suffix_refl _
    · exact (kept_isKept _ _).ends

theorem Phase.feed_buffer (phase : Phase) (text : Text) :
    (phase.feed text).2.buffer <:+ phase.buffer ++ text := by
  cases phase with
  | seeking buffer => exact seekText_buffer _
  | reading strip buffer => exact readText_buffer _ _
  | done => exact nil_suffix

/-! ## Inside the thinking text -/

/-- The texts when the thinking text ends at a place of what follows the start tag. With no
such place, an end tag at the very end is still taken off. -/
def endedAt (text : Text) : Option Nat → Separated
  | some endPos => ⟨text.drop (endPos + endTag.length), text.take endPos⟩
  | none => if endTag <:+ text then ⟨[], text.take (text.length - endTag.length)⟩ else ⟨[], text⟩

theorem done_separate (pieces : List Text) : Phase.done.separate pieces = ⟨pieces.flatten, []⟩ := by
  induction pieces with
  | nil => rfl
  | cons piece pieces ih =>
    rw [Phase.separate, Phase.feed, ih]
    rfl

theorem find_at_end_kept (text : Text) :
    findKiroRealThinkingEndTagAtBufferEnd (kept endTag.length text) =
      if endTag <:+ text then some 0 else none := by
  split
  · rename_i ends
    rw [kept_of_ends endTag_ascii ends]
    decide
  · rename_i open_
    have first := findTag_first (by decide : endTag ≠ []) judgeEndTagAtBufferEnd_settled
      (fun _ _ => endTag_single) (kept endTag.length text) none
    refine first.unique fun i here => open_ ?_
    rw [← kept_eq_of_occurs endTag_ascii (by decide) here.1]
    exact (kept_isKept _ _).ends

theorem take_gone (trailingBytes : Nat) (text : Text) :
    text.take (gone trailingBytes text) ++ kept trailingBytes text = text := by
  obtain ⟨front, length, split⟩ := gone_append_kept trailingBytes text
  have taken : text.take (gone trailingBytes text) = front := by
    rw [← length]
    nth_rewrite 1 [split]
    exact take_left
  rw [taken, ← split]

theorem length_take_gone (trailingBytes : Nat) (text : Text) :
    (text.take (gone trailingBytes text)).length = gone trailingBytes text := by
  rw [length_take]
  exact Nat.min_eq_left (Nat.sub_le _ _)

theorem kept_kept_append (trailingBytes : Nat) (text piece : Text) :
    kept trailingBytes (kept trailingBytes text ++ piece) = kept trailingBytes (text ++ piece) :=
  kept_append_of_suffix (suffix_refl _) (kept_isKept _ _).ends piece

theorem take_gone_append (trailingBytes : Nat) (text piece : Text) :
    text.take (gone trailingBytes text) ++ flushed trailingBytes
      (kept trailingBytes text ++ piece) =
      (text ++ piece).take (gone trailingBytes (text ++ piece)) := by
  have whole := take_gone trailingBytes (text ++ piece)
  have parts := flushed_append_kept trailingBytes (kept trailingBytes text ++ piece)
  rw [kept_kept_append] at parts
  refine (append_left_inj (kept trailingBytes (text ++ piece))).mp ?_
  rw [whole, List.append_assoc, parts, ← List.append_assoc, take_gone]

theorem reading_separate (pieces : List Text) : ∀ text : Text,
    (⟨[], text.take (gone endTag.length text)⟩ : Separated) ++
        (Phase.reading false (kept endTag.length text)).separate pieces =
      endedAt (text ++ pieces.flatten) (scan endTag judgeEndTag text pieces) := by
  induction pieces with
  | nil =>
    intro text
    rw [Phase.separate, Phase.finish, find_at_end_kept, flatten_nil, append_nil, scan, endedAt]
    by_cases ends : endTag <:+ text
    · rw [if_pos ends, if_pos ends, kept_of_ends endTag_ascii ends, gone_of_ends endTag_ascii ends]
      exact Separated.ext rfl (append_nil _)
    · rw [if_neg ends, if_neg ends]
      exact Separated.ext rfl (take_gone _ _)
  | cons piece pieces ih =>
    intro text
    have split := take_gone endTag.length text
    rw [Phase.separate, Phase.feed, readText, scan, seen, flatten_cons]
    cases found : findTag endTag judgeEndTag none (kept endTag.length text ++ piece) with
    | some q =>
      have room : q + endTag.length ≤ (kept endTag.length text ++ piece).length := by
        have first := endTagAt_first (kept endTag.length text ++ piece)
        rw [found] at first
        exact occurs_length first.1.1 (by decide)
      have whole : text ++ (piece ++ pieces.flatten) = text.take (gone endTag.length text) ++
          ((kept endTag.length text ++ piece) ++ pieces.flatten) := by
        rw [List.append_assoc, ← List.append_assoc (text.take _), split]
      simp only [Bool.false_eq_true, if_false, findKiroRealThinkingEndTag, found,
        Option.map_some, endedAt, done_separate]
      rw [whole]
      have length := length_take_gone endTag.length text
      generalize text.take (gone endTag.length text) = front at length ⊢
      rw [← length]
      ext1
      · rw [Nat.add_assoc, occurs_drop, drop_append_of_le_length room]
        rfl
      · have inside : q ≤ (kept endTag.length text ++ piece).length := by omega
        rw [take_length_add_append, take_append_of_le_length inside]
        exact congrArg (front ++ ·) (append_nil _)
    | none =>
      have later := ih (text ++ piece)
      rw [← take_gone_append, List.append_assoc] at later
      simp only [Bool.false_eq_true, if_false, findKiroRealThinkingEndTag, found,
        Option.map_none, kept_kept_append, Bool.false_and]
      rw [← later, ← Separated.append_assoc]
      rfl

/-! ## The newline after the start tag -/

/-- The pieces without the newline they start with. -/
def stripHead : List Text → List Text
  | [] => []
  | [] :: pieces => [] :: stripHead pieces
  | piece :: pieces => stripNewline piece :: pieces

theorem stripNewline_append {text} (held : text ≠ []) (more : Text) :
    stripNewline (text ++ more) = stripNewline text ++ more := by
  cases text with
  | nil => exact absurd rfl held
  | cons c rest =>
    by_cases newline : c = '\n'
    · subst newline
      rfl
    · simp [stripNewline, newline]

theorem stripHead_cons {piece} (held : piece ≠ []) (pieces : List Text) :
    stripHead (piece :: pieces) = stripNewline piece :: pieces := by
  cases piece with
  | nil => exact absurd rfl held
  | cons c rest => rfl

theorem flatten_stripHead (pieces : List Text) :
    (stripHead pieces).flatten = stripNewline pieces.flatten := by
  induction pieces with
  | nil => rfl
  | cons piece pieces ih =>
    by_cases empty : piece = []
    · subst empty
      rw [stripHead, flatten_cons, flatten_cons, ih, nil_append, nil_append]
    · rw [stripHead_cons empty, flatten_cons, flatten_cons, stripNewline_append empty]

theorem readText_strip {text} (held : text ≠ []) :
    readText true text = readText false (stripNewline text) := by
  cases text with
  | nil => exact absurd rfl held
  | cons c rest => rfl

/-- What comes out from the start of the thinking text on. -/
def readAll (rest : Text) (later : List Text) : Separated :=
  (readText true rest).1 ++ (readText true rest).2.separate later

theorem readText_separate (text : Text) (pieces : List Text) :
    (readText false text).1 ++ (readText false text).2.separate pieces =
      endedAt (text ++ pieces.flatten) (scan endTag judgeEndTag [] (text :: pieces)) :=
  reading_separate (text :: pieces) []

theorem scan_nil_cons (pieces : List Text) :
    scan endTag judgeEndTag [] ([] :: pieces) = scan endTag judgeEndTag [] pieces := rfl

theorem readAll_eq (rest : Text) (later : List Text) (nonempty : ∀ piece ∈ later, piece ≠ []) :
    readAll rest later = endedAt (stripNewline (rest ++ later.flatten))
        (scan endTag judgeEndTag [] (stripHead (rest :: later))) := by
  rw [← flatten_cons, ← flatten_stripHead]
  by_cases held : rest = []
  · subst held
    cases later with
    | nil => decide
    | cons piece later =>
      -- The newline is still to come.
      have some := nonempty piece mem_cons_self
      have later_eq := readText_separate (stripNewline piece) later
      rw [← readText_strip some] at later_eq
      rw [stripHead, stripHead_cons some, scan_nil_cons]
      exact later_eq
  · rw [readAll, readText_strip held, readText_separate, stripHead_cons held]
    rfl

theorem endCutsClean_nil (next : Text) : EndCutsClean [] next := by
  refine fun _ => ⟨fun ends => ?_, fun ends => ?_⟩
  · exact absurd ends (by decide)
  · exact absurd ends (by decide)

theorem allCuts_strip_of_held {good fed} (held : fed ≠ [])
    (pieces : List Text) : AllCuts good (stripNewline fed) pieces ↔
      AllCuts (fun fed next => good (stripNewline fed) next) fed pieces := by
  have same : ∀ more, stripNewline (fed ++ more) = stripNewline fed ++ more :=
    fun more => stripNewline_append held more
  simp only [AllCuts, same]

theorem allCuts_strip (rest : Text) (later : List Text) (nonempty : ∀ piece ∈ later, piece ≠ []) :
    AllCuts EndCutsClean [] (stripHead (rest :: later)) ↔
      AllCuts (fun fed next => EndCutsClean (stripNewline fed) next) rest later := by
  by_cases held : rest = []
  · subst held
    cases later with
    | nil =>
      rw [stripHead, stripHead, allCuts_cons]
      exact ⟨fun _ => allCuts_nil _ _, fun _ => ⟨endCutsClean_nil [], allCuts_nil _ _⟩⟩
    | cons piece later =>
      have some := nonempty piece mem_cons_self
      rw [stripHead, stripHead_cons some, allCuts_cons, allCuts_cons, allCuts_cons,
        and_iff_right (endCutsClean_nil []), nil_append, nil_append, allCuts_strip_of_held some]
      exact and_congr ⟨fun _ => endCutsClean_nil _, fun _ => endCutsClean_nil _⟩ Iff.rfl
  · rw [stripHead_cons held, allCuts_cons, and_iff_right (endCutsClean_nil _), nil_append,
      allCuts_strip_of_held held]

end Aeris.Kiro
