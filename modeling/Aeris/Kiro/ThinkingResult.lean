import Aeris.Kiro.ThinkingArrival

/-! The texts that come out over pieces and over the whole text at once: they are the same
exactly if every cut is clean. -/
namespace Aeris.Kiro

open List Nat

/-! ## The whole text at once -/

/-- The thinking text that starts behind a tag, as far as it is in. -/
def thoughts (text : Text) (p : Nat) : Text := stripNewline (text.drop (p + startTag.length))

def separatedWhole (text : Text) : Separated :=
  match findKiroRealThinkingStartTag text with
  | none => ⟨text, []⟩
  | some p =>
    ⟨answerBefore text p, []⟩ ++
      endedAt (thoughts text p) (findKiroRealThinkingEndTag (thoughts text p))

theorem separatedWhole_none {text} (none : findKiroRealThinkingStartTag text = none) :
    separatedWhole text = ⟨text, []⟩ := by
  rw [separatedWhole, none]

variable {p : Nat}

theorem separatedWhole_some {text} (found : findKiroRealThinkingStartTag text = some p) :
    separatedWhole text = ⟨answerBefore text p, []⟩ ++
      endedAt (thoughts text p) (findKiroRealThinkingEndTag (thoughts text p)) := by
  rw [separatedWhole, found]

theorem scan_single (tag : Text) (judge : Option Char → Text → TagVerdict) (text : Text) :
    scan tag judge [] [text] = findTag tag judge none text := by
  have zero : gone tag.length [] = 0 := Nat.zero_sub _
  have none : kept tag.length [] = [] := suffix_nil.mp (kept_isKept tag.length []).ends
  rw [scan, seen, zero, none, nil_append]
  cases findTag tag judge Option.none text with
  | none => rfl
  | some p => exact congrArg some (zero_add p)

theorem readAll_single (rest : Text) : readAll rest [] =
      endedAt (stripNewline rest) (findKiroRealThinkingEndTag (stripNewline rest)) := by
  have head : stripHead [rest] = [stripNewline rest] := by cases rest <;> rfl
  rw [readAll_eq rest [] (by simp), head, scan_single, flatten_nil, append_nil]
  rfl

theorem separate_whole (text : Text) :
    (Phase.seeking []).separate [text] = separatedWhole text := by
  rcases seeking_separate [text] sought_nil with ⟨none, texts⟩ |
    ⟨p, before, rest, later, found, run, texts⟩
  · rw [scan_single] at none
    rw [separatedWhole_none none]
    rw [flatten_singleton] at texts
    exact texts
  · rw [scan_single] at found
    rw [separatedWhole_some found]
    cases run with
    | @now _ _ _ _ _ q here =>
      rw [readAll_single] at texts
      rw [show ([] : Text).length + q = q from zero_add q]
      exact texts
    | hold _ _ run | flush _ _ run => cases run

/-! ## Cuts after the start tag -/

theorem allCuts_append (good : Text → Text → Prop) (first second : List Text) : ∀ fed : Text,
    AllCuts good fed (first ++ second) ↔
      AllCuts good fed first ∧ AllCuts good (fed ++ first.flatten) second := by
  induction first with
  | nil =>
    intro fed
    rw [flatten_nil, append_nil, nil_append]
    exact (and_iff_right (allCuts_nil _ _)).symm
  | cons piece first ih =>
    intro fed
    rw [cons_append, allCuts_cons, allCuts_cons, ih, flatten_cons, ← append_assoc, and_assoc]

/-- The cut is clean once the start tag at a place is in. -/
def EndingClean (p : Nat) (fed next : Text) : Prop :=
  p + startTag.length ≤ fed.length → EndCutsClean (thoughts fed p) next

theorem endingClean_before {earlier} (piece : Text)
    (upTo : earlier.flatten.length ≤ p + startTag.length) :
    AllCuts (EndingClean p) [] (earlier ++ [piece]) := by
  intro front next back split inside
  have part : front <+: earlier := by
    refine prefix_of_prefix_length_le ⟨next :: back, split.symm⟩ (prefix_append _ _) ?_
    have length := congrArg List.length split
    simp only [length_append, length_cons, length_nil] at length
    omega
  obtain ⟨more, rfl⟩ := part
  rw [nil_append] at inside ⊢
  rw [flatten_append, length_append] at upTo
  rw [thoughts, drop_eq_nil_of_le (by omega)]
  exact endCutsClean_nil next

theorem allCuts_ending {pieces earlier later piece rest}
    (split : pieces = earlier ++ piece :: later)
    (after : rest = (earlier.flatten ++ piece).drop (p + startTag.length))
    (upTo : earlier.flatten.length ≤ p + startTag.length)
    (inside : p + startTag.length ≤ (earlier.flatten ++ piece).length) :
    AllCuts (EndingClean p) [] pieces ↔
      AllCuts (fun fed next => EndCutsClean (stripNewline fed) next) rest later := by
  have regroup : earlier ++ piece :: later = (earlier ++ [piece]) ++ later := by simp
  have fed : [] ++ (earlier ++ [piece]).flatten = earlier.flatten ++ piece := by simp
  rw [split, regroup, allCuts_append, and_iff_right (endingClean_before piece upTo), fed]
  have same : ∀ more, thoughts (earlier.flatten ++ piece ++ more) p =
    stripNewline (rest ++ more) := by
    intro more
    rw [thoughts, drop_append_of_le_length inside, ← after]
  have reached : ∀ more : Text,
      p + startTag.length ≤ (earlier.flatten ++ piece ++ more).length := by
    intro more
    rw [length_append]
    omega
  simp only [AllCuts, EndingClean, same, reached, forall_const]

/-! ## Where the thinking text can end -/

/-- At a place for the end there is an end tag with an empty line behind it. -/
def HasLine (text : Text) (found : Option Nat) : Prop :=
  ∀ i, found = some i → endMark <+: text.drop i

theorem hasLine_find (text : Text) : HasLine text (findKiroRealThinkingEndTag text) := by
  intro i found
  have first := findKiroRealThinkingEndTag_first text
  rw [found] at first
  exact ((realEnd_iff _ _).mp first.1).1

theorem hasLine_scan (pieces : List Text) : ∀ fed : Text,
    HasLine (fed ++ pieces.flatten) (scan endTag judgeEndTag fed pieces) := by
  induction pieces with
  | nil =>
    intro fed i found
    cases found
  | cons next pieces ih =>
    intro fed i found
    rw [flatten_cons, ← append_assoc]
    rw [scan] at found
    have first := seen_first endTagAt_first fed next
    cases now : seen endTag judgeEndTag fed next with
    | none =>
      rw [now] at found
      exact ih (fed ++ next) i found
    | some j =>
      rw [now] at found first
      cases found
      have line := ((judgeEndTag_here _ _).mp first.1.2.2).2
      exact occurs_append ((endMark_iff _ _).mpr ⟨first.1.2.1, line⟩)

theorem length_endedAt {text found} (line : HasLine text found) :
    (∃ i, found = some i ∧ i + endTag.length + 2 ≤ text.length ∧
        (endedAt text found).thinking.length = i ∧
        (endedAt text found).answer.length + i + endTag.length = text.length) ∨
      (found = none ∧ (endedAt text found).answer = [] ∧
        ((endedAt text found).thinking.length = text.length ∨
          (endedAt text found).thinking.length + endTag.length = text.length)) := by
  cases found with
  | some i =>
    left
    have room : i + endTag.length + 2 ≤ text.length := by
      have := occurs_length (line i rfl) (by decide)
      exact this
    refine ⟨i, rfl, room, ?_, ?_⟩
    · rw [endedAt, length_take]
      omega
    · rw [endedAt, length_drop]
      omega
  | none =>
    right
    rw [endedAt]
    split
    · rename_i ends
      have := ends.length_le
      refine ⟨rfl, rfl, .inr ?_⟩
      rw [length_take]
      omega
    · exact ⟨rfl, rfl, .inl rfl⟩

theorem endedAt_thinking_injective {text first second}
    (firstLine : HasLine text first) (secondLine : HasLine text second)
    (same : (endedAt text first).thinking = (endedAt text second).thinking) : first = second := by
  have length := congrArg List.length same
  rcases length_endedAt firstLine with ⟨i, one, room, think, _⟩ | ⟨one, _, think⟩ <;>
    rcases length_endedAt secondLine with ⟨j, two, room', think', _⟩ | ⟨two, _, think'⟩
  · rw [one, two, show i = j by omega]
  · omega
  · omega
  · rw [one, two]

/-! ## A start tag that is found too early -/

theorem length_stripNewline (text : Text) :
    (stripNewline text).length ≤ text.length ∧ text.length ≤ (stripNewline text).length + 1 := by
  unfold stripNewline
  split <;> simp

theorem answerBefore_of_occurs {text p q} (occurs : startTag <+: text.drop p)
    (before : p < q) : answerBefore text q = text.take q := by
  have angle : text[p + 0]? = some '<' := occurs_getElem? occurs (by decide)
  have member : '<' ∈ text.take q := by
    refine mem_of_getElem? (i := p) ?_
    rw [getElem?_take_of_lt before]
    exact angle
  rw [answerBefore, if_neg]
  intro blank
  exact absurd (all_eq_true.mp blank '<' member) (by decide)

theorem thoughts_of_quoted {text p f} (occurs : startTag <+: text.drop p)
    (notReal : ¬ RealStart text p) (before : f < p)
    (blank : isBlankText ((text.take p).drop f) = true) :
    thoughts text p = text.drop (p + startTag.length) := by
  have context : isKiroQuoteChar (charBefore none text p) = false := by
    obtain ⟨k, rfl⟩ := Nat.exists_eq_add_of_lt before
    have last : charBefore none text (f + k + 1) = ((text.take (f + k + 1)).drop f)[k]? := by
      rw [getElem?_drop, getElem?_take_of_lt (lt_succ_self _)]
      rfl
    rw [last]
    exact quote_of_blank_text blank k
  have after : isKiroQuoteChar text[p + startTag.length]? = true := by
    by_contra plain
    exact notReal ⟨occurs, context, Bool.eq_false_iff.mpr plain⟩
  rw [← head?_drop] at after
  rw [thoughts]
  cases behind : text.drop (p + startTag.length) with
  | nil => rfl
  | cons c rest =>
    rw [behind] at after
    have different : c ≠ '\n' := by
      rintro rfl
      have plain : isKiroQuoteChar (some '\n') = false := by decide
      exact Bool.false_ne_true (plain.symm.trans after)
    simp [stripNewline, different]

section Early
variable {text : Text} {p q f : Nat} {found : Option Nat}

theorem length_thoughts (text : Text) (p : Nat) :
    (thoughts text p).length ≤ text.length - (p + startTag.length) ∧
      text.length - (p + startTag.length) ≤ (thoughts text p).length + 1 := by
  have bound := length_stripNewline (text.drop (p + startTag.length))
  rwa [length_drop] at bound

theorem take_split (text : Text) (upTo : f ≤ q) :
    text.take f ++ (text.take q).drop f = text.take q := by
  have front : (text.take q).take f = text.take f := by rw [take_take, min_eq_left upTo]
  rw [← front, take_append_drop]

theorem answer_goes_on {tail tail'} (upTo : f ≤ q)
    (same : text.take f ++ tail = text.take q ++ tail') : tail = (text.take q).drop f ++ tail' := by
  rw [← take_split text upTo, append_assoc] at same
  exact append_cancel_left same

theorem early_tag_in_answer {tail} (occurs : startTag <+: text.drop p) (upTo : f ≤ p)
    (later : p < q) (line : HasLine (thoughts text p) found)
    (goesOn : (endedAt (thoughts text p) found).answer = (text.take q).drop f ++ tail) :
    ∃ i, found = some i ∧ f + 2 ≤ p := by
  have room := occurs_length occurs (by decide)
  have angle : (endedAt (thoughts text p) found).answer[p - f]? = some '<' := by
    have here : text[p + 0]? = some '<' := occurs_getElem? occurs (by decide)
    have ten : startTag.length = 10 := by decide
    rw [goesOn, List.getElem?_append_left, List.getElem?_drop, Nat.add_sub_cancel' upTo,
      getElem?_take_of_lt later]
    · exact here
    · rw [length_drop, length_take]
      omega
  cases found with
  | none =>
    have none : (endedAt (thoughts text p) none).answer = [] := by
      rw [endedAt]
      split <;> rfl
    rw [none] at angle
    cases angle
  | some i =>
    obtain ⟨rest, lines⟩ := ((endMark_iff _ _).mp (line i rfl)).2
    have answer : (endedAt (thoughts text p) (some i)).answer = ['\n', '\n'] ++ rest := lines.symm
    rw [answer] at angle
    refine ⟨i, rfl, ?_⟩
    by_contra few
    have short : p - f < 2 := by omega
    interval_cases gap : p - f <;> cases angle

theorem early_differs (occurs : startTag <+: text.drop p) (early : ∀ j ≤ p, ¬ RealStart text j)
    (upTo : f ≤ p) (blank : isBlankText ((text.take p).drop f) = true)
    (line : HasLine (thoughts text p) found) :
    (⟨text.take f, []⟩ : Separated) ++ endedAt (thoughts text p) found ≠ separatedWhole text := by
  intro same
  have room := occurs_length occurs (by decide)
  have bound := length_thoughts text p
  have taken : (text.take f).length = f := by
    rw [length_take]
    omega
  have ten : startTag.length = 10 := by decide
  have ends := length_endedAt line
  cases whole : findKiroRealThinkingStartTag text with
  | none =>
    -- Then all is answer, and here the tag is missing from it.
    rw [separatedWhole_none whole] at same
    have total := congrArg (·.answer.length) same
    simp only [Separated.answer_append, length_append, taken] at total
    rcases ends with ⟨i, _, inside, _, answer⟩ | ⟨_, answer, _⟩
    · omega
    · rw [answer, length_nil] at total
      omega
  | some q =>
    rw [separatedWhole_some whole] at same
    have first := findKiroRealThinkingStartTag_first text
    rw [whole] at first
    have later : p < q := by
      by_contra notLater
      exact early q (not_lt.mp notLater) first.1
    have boundQ := length_thoughts text q
    rw [answerBefore_of_occurs occurs later] at same
    have goesOn := answer_goes_on (by omega) (congrArg Separated.answer same)
    obtain ⟨i, ended, dropped⟩ := early_tag_in_answer occurs upTo later line goesOn
    -- No newline was left out behind the early tag, so the lengths do not fit.
    have behind := congrArg List.length
      (thoughts_of_quoted occurs (early p (le_refl p)) (by omega) blank)
    have answers := congrArg List.length goesOn
    rw [length_append, length_drop, length_take] at answers
    have thinking := congrArg (·.thinking.length) same
    simp only [Separated.thinking_append, nil_append] at thinking
    rcases ends with ⟨j, other, inside, think, answer⟩ | ⟨none, _⟩
    · rcases length_endedAt (hasLine_find (thoughts text q)) with
        ⟨k, _, insideQ, thinkQ, answerQ⟩ | ⟨_, answerQ, thinkQ⟩
      · omega
      · omega
    · rw [none] at ended
      cases ended

end Early

/-! ## All cuts -/

/-- A cut of a text that does not show in the result. Behind a start tag it has quote
characters on both sides of the tag or on none; it lets no text go that only blank text
separates from the start tag; inside the thinking text it does not stand between a quoted
end tag and an empty line, nor in the empty line behind an end tag. -/
structure CleanCut (text fed next : Text) : Prop where
  start : StartCutsClean fed next
  blank : ∀ p, findKiroRealThinkingStartTag text = some p → KeepsBlank text p fed next
  ending : ∀ p, findKiroRealThinkingStartTag text = some p → EndingClean p fed next

theorem allCuts_clean_iff (text fed : Text) (pieces : List Text) :
    AllCuts (CleanCut text) fed pieces ↔ AllCuts StartCutsClean fed pieces ∧
        ∀ p, findKiroRealThinkingStartTag text = some p →
          AllCuts (KeepsBlank text p) fed pieces ∧ AllCuts (EndingClean p) fed pieces := by
  constructor
  · intro clean
    exact ⟨fun before next after split => (clean before next after split).start,
      fun p found => ⟨fun before next after split => (clean before next after split).blank p found,
        fun before next after split => (clean before next after split).ending p found⟩⟩
  · rintro ⟨start, rest⟩ before next after split
    exact ⟨start before next after split, fun p found => (rest p found).1 before next after split,
      fun p found => (rest p found).2 before next after split⟩

theorem Arrives.occurs {pieces later before rest}
    (run : Arrives [] [] [] pieces p before rest later) : startTag <+: pieces.flatten.drop p := by
  obtain ⟨earlier, piece, split, _, _, _, here⟩ := run.piece sought_nil
  rw [split, flatten_append, flatten_cons, ← append_assoc]
  exact occurs_append here

section OnArrival
variable {pieces later : List Text} {before rest : Text} {p : Nat}
  (nonempty : ∀ piece ∈ pieces, piece ≠ []) (run : Arrives [] [] [] pieces p before rest later)
include nonempty run

theorem Arrives.ended : ∃ found, readAll rest later = endedAt (thoughts pieces.flatten p) found ∧
      HasLine (thoughts pieces.flatten p) found ∧
      (found = findKiroRealThinkingEndTag (thoughts pieces.flatten p) ↔
        AllCuts (EndingClean p) [] pieces) := by
  obtain ⟨earlier, piece, split, after, upTo, inside, _⟩ := run.piece sought_nil
  rw [nil_append] at after upTo inside
  have nonemptyLater : ∀ piece ∈ later, piece ≠ [] := by
    intro other member
    refine nonempty other ?_
    rw [split]
    simp [member]
  have behind : (stripHead (rest :: later)).flatten = thoughts pieces.flatten p := by
    rw [flatten_stripHead, flatten_cons, thoughts, split, flatten_append,
      flatten_cons, ← append_assoc, drop_append_of_le_length inside, ← after]
  have line := hasLine_scan (stripHead (rest :: later)) []
  have ending := scan_end_iff (stripHead (rest :: later)) [] rfl
  rw [nil_append, behind] at line ending
  rw [allCuts_strip rest later nonemptyLater, ← allCuts_ending split after upTo inside] at ending
  refine ⟨_, ?_, line, ending⟩
  rw [readAll_eq rest later nonemptyLater, ← flatten_cons, ← flatten_stripHead, behind]

/-- What comes out on arrival at the place of the start tag is what comes out of the whole
text, if and only if no cut before or after it shows. -/
theorem Arrives.texts_iff (found : findKiroRealThinkingStartTag pieces.flatten = some p) :
    (⟨before, []⟩ : Separated) ++ readAll rest later = separatedWhole pieces.flatten ↔
      AllCuts (KeepsBlank pieces.flatten p) [] pieces ∧ AllCuts (EndingClean p) [] pieces := by
  obtain ⟨ended, texts, line, ending⟩ := run.ended nonempty
  have nothing : Whole pieces.flatten p [] := .inl rfl
  have whole := run.whole_iff sought_nil
  rw [nil_append, and_iff_right nothing] at whole
  rw [separatedWhole_some found, texts, ← whole, ← ending]
  constructor
  · intro same
    have thinking := congrArg Separated.thinking same
    have place := endedAt_thinking_injective line (hasLine_find _) thinking
    rw [place] at same
    exact ⟨append_cancel_right (congrArg Separated.answer same), place⟩
  · rintro ⟨answer, place⟩
    rw [answer, place]

theorem Arrives.early (occurs : startTag <+: pieces.flatten.drop p)
    (early : ∀ j ≤ p, ¬ RealStart pieces.flatten j) :
    (⟨before, []⟩ : Separated) ++ readAll rest later ≠ separatedWhole pieces.flatten := by
  obtain ⟨ended, texts, line, _⟩ := run.ended nonempty
  obtain ⟨f, upTo, answer, blank⟩ := run.before_eq sought_nil
  rw [texts, answer]
  exact early_differs occurs early upTo blank line

end OnArrival

theorem separate_eq_whole_iff (pieces : List Text) (nonempty : ∀ piece ∈ pieces, piece ≠ []) :
    (Phase.seeking []).separate pieces = separatedWhole pieces.flatten ↔
      AllCuts (CleanCut pieces.flatten) [] pieces := by
  have cuts := scan_start pieces [] nonempty rfl
  rw [nil_append] at cuts
  rw [allCuts_clean_iff]
  rcases seeking_separate pieces sought_nil with
    ⟨none, texts⟩ | ⟨p, before, rest, later, found, run, texts⟩
  · have texts : (Phase.seeking []).separate pieces = ⟨pieces.flatten, []⟩ := texts
    by_cases clean : AllCuts StartCutsClean [] pieces
    · have nowhere := (cuts.1 clean).symm.trans none
      rw [texts, separatedWhole_none nowhere, nowhere]
      exact ⟨fun _ => ⟨clean, fun p found => by cases found⟩, fun _ => rfl⟩
    · obtain ⟨p, found, _⟩ := cuts.2 clean
      rw [none] at found
      cases found
  · have texts : (Phase.seeking []).separate pieces = ⟨before, []⟩ ++ readAll rest later := texts
    rw [texts]
    by_cases clean : AllCuts StartCutsClean [] pieces
    · have here := (cuts.1 clean).symm.trans found
      rw [run.texts_iff nonempty here, and_iff_right clean, here]
      constructor
      · rintro rest q same
        cases same
        exact rest
      · exact fun all => all p rfl
    · refine ⟨fun same => ?_, fun all => absurd all.1 clean⟩
      obtain ⟨q, again, occurs, early⟩ := cuts.2 clean
      cases found.symm.trans again
      exact absurd same (run.early nonempty occurs early)

/-! ## What accounts for the text -/

/-- The two texts and what was left out make up a text: two tags, blank text before the
first and a newline behind it. Without a start tag, all is answer. -/
inductive Accounts (text : Text) (texts : Separated) : Prop
  | plain : texts = ⟨text, []⟩ → Accounts text texts
  | tagged (before blank newline closing after : Text) :
      text = before ++ blank ++ startTag ++ newline ++ texts.thinking ++ closing ++ after →
      texts.answer = before ++ after → isBlankText blank = true →
      (newline = [] ∨ newline = ['\n']) →
      (closing = endTag ∨ closing = [] ∧ after = []) → Accounts text texts

theorem stripNewline_parts (text : Text) :
    ∃ newline, text = newline ++ stripNewline text ∧ (newline = [] ∨ newline = ['\n']) := by
  unfold stripNewline
  split
  · exact ⟨['\n'], rfl, .inr rfl⟩
  · exact ⟨[], rfl, .inl rfl⟩

theorem endedAt_parts {text found} (line : HasLine text found) :
    ∃ closing, text = (endedAt text found).thinking ++ closing ++ (endedAt text found).answer ∧
      (closing = endTag ∨ closing = [] ∧ (endedAt text found).answer = []) := by
  cases found with
  | some i =>
    refine ⟨endTag, ?_, .inl rfl⟩
    obtain ⟨back, split⟩ := ((endMark_iff _ _).mp (line i rfl)).1
    have behind : text.drop (i + endTag.length) = back := by
      rw [← drop_drop, ← split, drop_left]
    rw [endedAt, behind, append_assoc, split, take_append_drop]
  | none =>
    rw [endedAt]
    split
    · rename_i ends
      obtain ⟨front, split⟩ := ends
      refine ⟨endTag, ?_, .inl rfl⟩
      rw [← split, length_append, Nat.add_sub_cancel, take_left, append_nil]
    · exact ⟨[], by simp, .inr ⟨rfl, rfl⟩⟩

theorem separate_accounts (pieces : List Text) (nonempty : ∀ piece ∈ pieces, piece ≠ []) :
    Accounts pieces.flatten ((Phase.seeking []).separate pieces) := by
  rcases seeking_separate pieces sought_nil with
    ⟨_, texts⟩ | ⟨p, before, rest, later, _, run, texts⟩
  · exact .plain texts
  · have texts : (Phase.seeking []).separate pieces = ⟨before, []⟩ ++ readAll rest later := texts
    obtain ⟨ended, thinking, line, _⟩ := run.ended nonempty
    obtain ⟨f, upTo, answer, blank⟩ := run.before_eq sought_nil
    obtain ⟨closing, parts, closes⟩ := endedAt_parts line
    obtain ⟨newline, behind, strips⟩ :=
      stripNewline_parts (pieces.flatten.drop (p + startTag.length))
    obtain ⟨back, tag⟩ := run.occurs
    have rest : pieces.flatten.drop (p + startTag.length) = back := by
      rw [← drop_drop, ← tag, drop_left]
    have inside : back = newline ++ thoughts pieces.flatten p := by
      rw [thoughts, ← rest]
      exact behind
    rw [texts, thinking, answer]
    refine .tagged _ _ newline closing _ ?_ rfl blank strips closes
    generalize endedAt (thoughts pieces.flatten p) ended = ending at parts ⊢
    calc pieces.flatten = pieces.flatten.take p ++ (startTag ++ back) := by
          rw [tag, take_append_drop]
      _ = pieces.flatten.take f ++ (pieces.flatten.take p).drop f ++
            (startTag ++ (newline ++ (ending.thinking ++ closing ++ ending.answer))) := by
          rw [take_split _ upTo, ← parts, ← inside]
      _ = _ := by simp

end Aeris.Kiro
