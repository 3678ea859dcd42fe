import Aeris.Kiro.ThinkingTags

/-! Tags in a text that comes in pieces. Between two pieces only the end of the text is
kept, as many bytes as the tag has. That is enough for a tag that is cut in two, but not
for what the search looks at around a tag: a cut right after a tag, or one byte later,
can change what is found. The cuts that do are named here exactly. -/
namespace Aeris.Kiro

open List Nat

/-! ## Cuts -/

/-- Something holds at every cut: of the text fed before it and the piece fed after it. -/
def AllCuts (good : Text → Text → Prop) (fed : Text) (pieces : List Text) : Prop :=
  ∀ before next after, pieces = before ++ next :: after → good (fed ++ before.flatten) next

theorem allCuts_nil (good : Text → Text → Prop) (fed : Text) : AllCuts good fed [] := by
  intro before next after split
  cases before <;> cases split

theorem allCuts_cons (good : Text → Text → Prop) (fed next : Text) (pieces : List Text) :
    AllCuts good fed (next :: pieces) ↔ good fed next ∧ AllCuts good (fed ++ next) pieces := by
  constructor
  · intro all
    refine ⟨by simpa using all [] next pieces rfl, fun before piece after split => ?_⟩
    have := all (next :: before) piece after (by rw [split]; rfl)
    rwa [flatten_cons, ← append_assoc] at this
  · rintro ⟨first, later⟩ before piece after split
    cases before with
    | nil =>
      cases split
      simpa using first
    | cons head before =>
      cases split
      rw [flatten_cons, ← append_assoc]
      exact later before piece after rfl

/-! ## The search over pieces -/

variable {fed next : Text}

section Scan
variable (tag : Text) (judge : Option Char → Text → TagVerdict)

def gone (trailingBytes : Nat) (fed : Text) : Nat :=
  fed.length - (kept trailingBytes fed).length

/-- Where the tag is found, in the whole text, when a piece comes after the text fed. -/
def seen (fed next : Text) : Option Nat :=
  (findTag tag judge none (kept tag.length fed ++ next)).map (gone tag.length fed + ·)

/-- Where the tag is found when the pieces come one after the other. -/
def scan : Text → List Text → Option Nat
  | _, [] => none
  | fed, next :: pieces =>
    match seen tag judge fed next with
    | some i => some i
    | none => scan (fed ++ next) pieces

/-- What the search accepts: at the first place that is still there it sees nothing before. -/
def SeenAt (fed next : Text) (i : Nat) : Prop :=
  gone tag.length fed ≤ i ∧ tag <+: (fed ++ next).drop i ∧
    judge (if i = gone tag.length fed then none else charBefore none (fed ++ next) i)
      ((fed ++ next).drop (i + tag.length)) = .here

variable {tag judge}

theorem gone_append_kept (trailingBytes : Nat) (fed : Text) :
    ∃ front : Text, front.length = gone trailingBytes fed ∧
      fed = front ++ kept trailingBytes fed := by
  obtain ⟨front, split⟩ := (kept_isKept trailingBytes fed).ends
  refine ⟨front, ?_, split.symm⟩
  rw [gone]
  nth_rewrite 1 [← split]
  rw [length_append]
  omega

theorem seenAt_iff (fed next : Text) (j : Nat) :
    SeenAt tag judge fed next (gone tag.length fed + j) ↔
      TagAt tag judge none (kept tag.length fed ++ next) j := by
  obtain ⟨front, length, split⟩ := gone_append_kept tag.length fed
  have whole : fed ++ next = front ++ (kept tag.length fed ++ next) := by
    rw [← append_assoc, ← split]
  rw [SeenAt, TagAt, whole, ← length, occurs_drop, add_assoc, occurs_drop]
  have context : (if front.length + j = front.length then none
      else charBefore none (front ++ (kept tag.length fed ++ next)) (front.length + j)) =
        charBefore none (kept tag.length fed ++ next) j := by
    rcases Nat.eq_zero_or_pos j with rfl | positive
    · simp [charBefore]
    · rw [if_neg (by omega), ← charBefore_drop front j positive]
  rw [context]
  exact and_iff_right (le_add_right _ _)

theorem seen_first
    (finds : ∀ text, IsFirst (TagAt tag judge none text) (findTag tag judge none text))
    (fed next : Text) : IsFirst (SeenAt tag judge fed next) (seen tag judge fed next) :=
  (finds _).shift (seenAt_iff fed next) fun _ here => here.1

theorem seen_eq {real found}
    (finds : ∀ text, IsFirst (TagAt tag judge none text) (findTag tag judge none text))
    (same : ∀ i, SeenAt tag judge fed next i ↔ real i) (first : IsFirst real found) :
    seen tag judge fed next = found := by
  have seenFirst := seen_first finds fed next
  rw [funext fun i => propext (same i)] at seenFirst
  exact seenFirst.unique first

theorem gone_le_append (trailingBytes : Nat) (fed more : Text) :
    gone trailingBytes fed ≤ gone trailingBytes (fed ++ more) := by
  have same := kept_append_of_suffix (suffix_refl (kept trailingBytes fed))
    (kept_isKept trailingBytes fed).ends more
  have short := (kept_isKept trailingBytes (kept trailingBytes fed ++ more)).ends.length_le
  rw [same, length_append] at short
  rw [gone, gone, length_append]
  omega

theorem gone_le_of_scan (pieces : List Text) : ∀ {fed i},
    scan tag judge fed pieces = some i → gone tag.length fed ≤ i := by
  induction pieces with
  | nil =>
    intro fed i found
    cases found
  | cons next pieces ih =>
    intro fed i found
    rw [scan] at found
    cases now : seen tag judge fed next with
    | some j =>
      rw [now] at found
      cases found
      rw [seen, Option.map_eq_some_iff] at now
      obtain ⟨k, _, rfl⟩ := now
      exact le_add_right _ _
    | none =>
      rw [now] at found
      exact (gone_le_append _ _ _).trans (ih found)

end Scan

/-! ## What is kept at a cut in a tag -/

theorem ascii_of_all {tag : Text} (all : tag.all (fun c => c.utf8Size == 1) = true) :
    ∀ c ∈ tag, c.utf8Size = 1 :=
  fun c member => eq_of_beq (all_eq_true.mp all c member)

section Kept
variable {tag : Text} (ascii : ∀ c ∈ tag, c.utf8Size = 1)
include ascii

theorem byteLength_of_starts {part} (isPart : part <+: tag) : byteLength part = part.length := by
  have sizes : part.map Char.utf8Size = List.replicate part.length 1 := by
    refine eq_replicate_iff.mpr ⟨length_map _, fun size member => ?_⟩
    obtain ⟨c, here, rfl⟩ := mem_map.mp member
    exact ascii c (isPart.subset here)
  rw [byteLength, sizes, sum_replicate, smul_eq_mul, mul_one]

theorem kept_of_ends (ends : tag <:+ fed) : kept tag.length fed = tag := by
  have size := byteLength_of_starts ascii (prefix_refl tag)
  refine (kept_isKept tag.length fed).unique ⟨ends, .inl size.ge, fun c rest whole => ?_⟩
  have positive := c.utf8Size_pos
  rw [whole, byteLength_cons] at size
  rw [whole]
  omega

theorem gone_of_cut {front part} (isPart : part <+: tag) (cut : part.length < tag.length) :
    gone tag.length (front ++ part) ≤ front.length ∧
      (front ≠ [] → gone tag.length (front ++ part) < front.length) := by
  have isKept := kept_isKept tag.length (front ++ part)
  have fewer : byteLength part < tag.length := by rwa [byteLength_of_starts ascii isPart]
  rw [gone, length_append]
  by_cases none : front = []
  · subst none
    rw [nil_append] at isKept ⊢
    rcases isKept.enough with enough | whole
    · have := byteLength_le_of_suffix isKept.ends
      omega
    · rw [whole]
      simp
  · have := isKept.longer rfl fewer none
    have := length_pos_iff.mpr none
    exact ⟨by omega, fun _ => by omega⟩

theorem kept_eq_of_occurs {i} (nonempty : tag ≠ [])
    (here : tag <+: (kept tag.length fed).drop i) : kept tag.length fed = tag := by
  have isKept := kept_isKept tag.length fed
  have size := byteLength_of_starts ascii (prefix_refl tag)
  generalize kept tag.length fed = part at here isKept ⊢
  cases part with
  | nil =>
    rw [drop_nil] at here
    exact absurd (prefix_nil.mp here) nonempty
  | cons c rest =>
    have short := isKept.short c rest rfl
    cases i with
    | succ i =>
      have room := (byteLength_le_of_starts here).trans
        (byteLength_le_of_suffix (drop_suffix i rest))
      omega
    | zero =>
      obtain ⟨more, split⟩ := here
      rw [drop_zero] at split
      have total : byteLength tag + byteLength more = c.utf8Size + byteLength rest := by
        rw [← byteLength_append, split, byteLength_cons]
      have first : c.utf8Size = 1 := by
        cases tag with
        | nil => exact absurd rfl nonempty
        | cons d tail =>
          cases split
          exact ascii _ mem_cons_self
      have none : more = [] := length_eq_zero_iff.mp
        (le_zero.mp ((length_le_byteLength more).trans (by omega)))
      rw [← split, none, append_nil]

theorem ends_of_kept_starts (nonempty : tag ≠ []) (let_go : 0 < gone tag.length fed)
    (starts : tag <+: kept tag.length fed ++ next) : tag <:+ fed := by
  have isKept := kept_isKept tag.length fed
  have enough : tag.length ≤ byteLength (kept tag.length fed) := by
    rcases isKept.enough with enough | whole
    · exact enough
    · rw [gone, whole] at let_go
      omega
  have same : kept tag.length fed = tag := by
    rcases le_total (kept tag.length fed).length tag.length with short | long
    · have part : kept tag.length fed <+: tag :=
        prefix_of_prefix_length_le (prefix_append _ _) starts short
      rw [byteLength_of_starts ascii part] at enough
      exact part.eq_of_length (le_antisymm short enough)
    · exact kept_eq_of_occurs ascii (i := 0) nonempty
        (prefix_of_prefix_length_le starts (prefix_append _ _) long)
  rw [← same]
  exact isKept.ends

end Kept

/-! ## Cuts near an end tag -/

theorem endTag_ascii : ∀ c ∈ endTag, c.utf8Size = 1 :=
  ascii_of_all (by decide)

/-- An end tag with the empty line that makes it one. -/
def endMark : Text := endTag ++ ['\n', '\n']

theorem endMark_iff (text : Text) (i : Nat) : endMark <+: text.drop i ↔
      endTag <+: text.drop i ∧ ['\n', '\n'] <+: text.drop (i + endTag.length) := by
  rw [← drop_drop]
  constructor
  · rintro ⟨back, split⟩
    rw [← split, endMark, append_assoc]
    exact ⟨prefix_append _ _, by rw [drop_left]; exact prefix_append _ _⟩
  · rintro ⟨⟨back, split⟩, follows⟩
    rw [← split, drop_left] at follows
    rw [← split, endMark]
    exact prefix_append_right_inj _ |>.mpr follows

theorem realEnd_iff (text : Text) (i : Nat) : RealEnd text i ↔
      endMark <+: text.drop i ∧ isKiroQuoteChar (charBefore none text i) = false := by
  rw [endMark_iff, RealEnd]
  tauto

variable {i : Nat}

variable {text : Text}

theorem realEnd_append (here : RealEnd text i) (more : Text) : RealEnd (text ++ more) i := by
  rw [realEnd_iff] at here ⊢
  have inside := occurs_length here.1 (by decide)
  exact ⟨occurs_append here.1, by rw [charBefore_append (by omega)]; exact here.2⟩

variable {more : Text}

theorem realEnd_of_append (here : RealEnd (text ++ more) i)
    (inside : i + endMark.length ≤ text.length) : RealEnd text i := by
  rw [realEnd_iff] at here ⊢
  refine ⟨occurs_of_append here.1 inside, ?_⟩
  rw [charBefore_append (by omega)] at here
  exact here.2

/-- A cut that does not change where the thinking part ends: it does not stand between a
quoted end tag and an empty line, nor in the empty line behind an end tag. -/
structure CleanEndCut (fed next : Text) : Prop where
  quoted : endTag <:+ fed →
    isKiroQuoteChar (charBefore none fed (fed.length - endTag.length)) = true →
      ¬ ['\n', '\n'] <+: next
  broken : endTag ++ ['\n'] <:+ fed →
    isKiroQuoteChar (charBefore none fed (fed.length - (endTag.length + 1))) = false →
      ¬ ['\n'] <+: next

theorem suffix_of_cut {mark i k} (here : mark <+: (fed ++ next).drop i)
    (cut : i + k = fed.length) (inside : k ≤ mark.length) :
    fed = fed.take i ++ mark.take k ∧ mark.drop k <+: next := by
  rw [drop_append_of_le_length (by omega)] at here
  have length : (fed.drop i).length = k := by
    rw [length_drop]
    omega
  obtain ⟨back, split⟩ := here
  have front : fed.drop i = mark.take k := by
    have := congrArg (List.take k) split
    rwa [take_append_of_le_length inside, take_left' length, eq_comm] at this
  have rest : mark.drop k ++ back = next := by
    have := congrArg (List.drop k) split
    rwa [drop_append_of_le_length inside, drop_left' length] at this
  exact ⟨by rw [← front, take_append_drop], ⟨back, rest⟩⟩

theorem drop_gone (trailingBytes : Nat) (fed next : Text) :
    (fed ++ next).drop (gone trailingBytes fed) = kept trailingBytes fed ++ next := by
  obtain ⟨front, length, split⟩ := gone_append_kept trailingBytes fed
  have rest : (front ++ (kept trailingBytes fed ++ next)).drop (front.length + 0) =
      (kept trailingBytes fed ++ next).drop 0 := occurs_drop front 0
  rwa [← append_assoc, ← split, length, add_zero, drop_zero] at rest

theorem gone_of_ends {tag} (ascii : ∀ c ∈ tag, c.utf8Size = 1) (ends : tag <:+ fed) :
    gone tag.length fed = fed.length - tag.length := by
  rw [gone, kept_of_ends ascii ends]

theorem occurs_at_cut {tag} (ends : tag <:+ fed) :
    tag <+: (fed ++ next).drop (fed.length - tag.length) := by
  obtain ⟨front, rfl⟩ := ends
  rw [length_append, Nat.add_sub_cancel, append_assoc, drop_left]
  exact prefix_append _ _

theorem seenAt_end_iff (none : ∀ i, ¬ RealEnd fed i) (clean : CleanEndCut fed next) (i : Nat) :
    SeenAt endTag judgeEndTag fed next i ↔ RealEnd (fed ++ next) i := by
  rw [SeenAt, judgeEndTag_here]
  constructor
  · rintro ⟨_, tag, context, line⟩
    refine ⟨tag, ?_, line⟩
    by_cases front : i = gone endTag.length fed
    · subst front
      rcases Nat.eq_zero_or_pos (gone endTag.length fed) with zero | positive
      · rw [zero]
        rfl
      · -- The tag is all that is kept, so what was before it could not be seen.
        have ends : endTag <:+ fed :=
          ends_of_kept_starts endTag_ascii (by decide) positive (by rwa [drop_gone] at tag)
        have room := ends.length_le
        rw [gone_of_ends endTag_ascii ends] at line ⊢
        rw [Nat.sub_add_cancel room, drop_left] at line
        rw [charBefore_append (sub_le _ _)]
        exact Bool.eq_false_iff.mpr fun quote => clean.quoted ends quote line
    · rwa [if_neg front] at context
  · intro here
    have late : fed.length < i + endMark.length := by
      by_contra inside
      exact none i (realEnd_of_append here (not_lt.mp inside))
    have mark := ((realEnd_iff _ _).mp here).1
    have there : gone endTag.length fed ≤ i := by
      rcases le_total fed.length i with beyond | within
      · exact (sub_le _ _).trans beyond
      · obtain ⟨k, cut⟩ := Nat.exists_eq_add_of_le within
        have short : k < endMark.length := by omega
        obtain ⟨split, follows⟩ := suffix_of_cut mark cut.symm short.le
        have length : (fed.take i).length = i := by
          rw [length_take]
          omega
        rcases lt_trichotomy k endTag.length with inTag | behind | inLine
        · have part : endMark.take k <+: endTag := by
            rw [endMark, take_append_of_le_length inTag.le]
            exact take_prefix _ _
          have bound : gone endTag.length (fed.take i ++ endMark.take k) ≤ (fed.take i).length :=
            (gone_of_cut endTag_ascii part (by rw [length_take]; omega)).1
          rwa [← split, length] at bound
        · have ends : endTag <:+ fed := by
            refine ⟨fed.take i, ?_⟩
            rw [behind, endMark, take_left] at split
            exact split.symm
          rw [gone_of_ends endTag_ascii ends]
          omega
        · -- One newline is in, and the start of the tag is gone.
          have one : k = endTag.length + 1 := by
            have : endMark.length = endTag.length + 2 := rfl
            omega
          rw [one] at split follows
          have ends : endTag ++ ['\n'] <:+ fed := ⟨fed.take i, split.symm⟩
          have unquoted := here.2.1
          rw [charBefore_append within, show i = fed.length - (endTag.length + 1) by omega]
            at unquoted
          exact absurd follows (clean.broken ends unquoted)
    refine ⟨there, here.1, ?_, here.2.2⟩
    split
    · rfl
    · exact here.2.1

theorem seen_end (none : findKiroRealThinkingEndTag fed = none) (clean : CleanEndCut fed next) :
    seen endTag judgeEndTag fed next = findKiroRealThinkingEndTag (fed ++ next) := by
  have nowhere := findKiroRealThinkingEndTag_first fed
  rw [none] at nowhere
  exact seen_eq endTagAt_first (seenAt_end_iff nowhere clean) (findKiroRealThinkingEndTag_first _)

theorem findEndTag_append (found : findKiroRealThinkingEndTag text = some i) (more : Text) :
    findKiroRealThinkingEndTag (text ++ more) = some i := by
  have first := findKiroRealThinkingEndTag_first text
  rw [found] at first
  refine (findKiroRealThinkingEndTag_first _).unique
    ⟨realEnd_append first.1 more, fun j before here => ?_⟩
  have room := occurs_length ((realEnd_iff _ _).mp first.1).1 (by decide)
  exact first.2 j before (realEnd_of_append here (by omega))

/-- While no end tag is in, the cut is clean. -/
def EndCutsClean (fed next : Text) : Prop :=
  findKiroRealThinkingEndTag fed = none → CleanEndCut fed next

theorem endCutsClean_of_found (found : findKiroRealThinkingEndTag text = some i)
    (pieces : List Text) : AllCuts EndCutsClean text pieces := by
  intro before next after _ none
  rw [findEndTag_append found] at none
  cases none

theorem seen_quoted_end (ends : endTag <:+ fed) (line : ['\n', '\n'] <+: next) :
    seen endTag judgeEndTag fed next = some (fed.length - endTag.length) := by
  have place := gone_of_ends endTag_ascii ends
  refine (seen_first endTagAt_first fed next).unique
    ⟨⟨place.le, occurs_at_cut ends, ?_⟩, fun j before here => ?_⟩
  · rw [if_pos place.symm, judgeEndTag_here, Nat.sub_add_cancel ends.length_le, drop_left]
    exact ⟨rfl, line⟩
  · have := here.1
    omega

theorem realEnd_of_broken (ends : endTag ++ ['\n'] <:+ fed)
    (unquoted : isKiroQuoteChar (charBefore none fed (fed.length - (endTag.length + 1))) = false)
    (line : ['\n'] <+: next) : RealEnd (fed ++ next) (fed.length - (endTag.length + 1)) := by
  rw [realEnd_iff, charBefore_append (sub_le _ _)]
  refine ⟨?_, unquoted⟩
  obtain ⟨front, rfl⟩ := ends
  obtain ⟨rest, rfl⟩ := line
  have place : (front ++ (endTag ++ ['\n'])).length - (endTag.length + 1) = front.length := by simp
  exact ⟨rest, by simp [endMark]⟩

theorem gone_of_broken (ends : endTag ++ ['\n'] <:+ fed) :
    fed.length - (endTag.length + 1) < gone endTag.length fed := by
  obtain ⟨front, rfl⟩ := ends
  have enough : endTag.length ≤ byteLength ("/thinking>".toList ++ ['\n']) := by decide
  have short := (kept_isKept endTag.length (front ++ (endTag ++ ['\n']))).shorter
    (by rw [show endTag = ['<'] ++ "/thinking>".toList from rfl, append_assoc, ← append_assoc])
    enough
  have length : ("/thinking>".toList ++ ['\n']).length = endTag.length := by decide
  rw [gone, length_append, length_append, length_singleton]
  omega

theorem scan_end_ne {pieces} (none : findKiroRealThinkingEndTag fed = none)
    (unclean : ¬ CleanEndCut fed next) : scan endTag judgeEndTag fed (next :: pieces) ≠
      findKiroRealThinkingEndTag (fed ++ (next :: pieces).flatten) := by
  intro same
  rw [flatten_cons, ← append_assoc] at same
  have whole := findKiroRealThinkingEndTag_first (fed ++ next ++ pieces.flatten)
  by_cases quoted : endTag <:+ fed ∧
      isKiroQuoteChar (charBefore Option.none fed (fed.length - endTag.length)) = true ∧
        ['\n', '\n'] <+: next
  · -- The quoted tag is found, because the quote is gone.
    obtain ⟨ends, quote, line⟩ := quoted
    have now := seen_quoted_end ends line
    rw [scan, now] at same
    rw [← same, append_assoc] at whole
    have unquoted := whole.1.2.1
    rw [charBefore_append (sub_le _ _), quote] at unquoted
    cases unquoted
  · obtain ⟨ends, unquoted, line⟩ : endTag ++ ['\n'] <:+ fed ∧
        isKiroQuoteChar (charBefore Option.none fed (fed.length - (endTag.length + 1))) = false ∧
          ['\n'] <+: next := by
      by_contra no
      exact unclean ⟨fun a b c => quoted ⟨a, b, c⟩, fun a b c => no ⟨a, b, c⟩⟩
    -- The tag is missed, because its first character is gone.
    have here := realEnd_of_broken ends unquoted line
    have first : findKiroRealThinkingEndTag (fed ++ next ++ pieces.flatten) =
        some (fed.length - (endTag.length + 1)) := by
      refine whole.unique ⟨realEnd_append here _, fun j before earlier => ?_⟩
      have nowhere := findKiroRealThinkingEndTag_first fed
      rw [none] at nowhere
      rw [append_assoc] at earlier
      have : endMark.length = endTag.length + 2 := rfl
      exact nowhere j (realEnd_of_append earlier (by omega))
    rw [first] at same
    have bound := gone_le_of_scan _ same
    have lost := gone_of_broken ends
    omega

/-- The search over pieces ends where the search over the whole text does, if and only if
all cuts are clean. -/
theorem scan_end_iff (pieces : List Text) : ∀ fed : Text, findKiroRealThinkingEndTag fed = none →
      (scan endTag judgeEndTag fed pieces = findKiroRealThinkingEndTag (fed ++ pieces.flatten) ↔
        AllCuts EndCutsClean fed pieces) := by
  induction pieces with
  | nil =>
    intro fed none
    rw [flatten_nil, append_nil, none]
    exact ⟨fun _ => allCuts_nil _ _, fun _ => rfl⟩
  | cons next pieces ih =>
    intro fed none
    rw [allCuts_cons]
    by_cases clean : CleanEndCut fed next
    · have step := seen_end none clean
      rw [scan, step, flatten_cons, ← append_assoc]
      cases found : findKiroRealThinkingEndTag (fed ++ next) with
      | some i =>
        rw [findEndTag_append found]
        exact ⟨fun _ => ⟨fun _ => clean, endCutsClean_of_found found pieces⟩, fun _ => rfl⟩
      | none =>
        rw [← ih (fed ++ next) found]
        exact (and_iff_right fun _ => clean).symm
    · constructor
      · intro same
        exact absurd same (scan_end_ne none clean)
      · rintro ⟨first, _⟩
        exact absurd (first none) clean

/-! ## Cuts near a start tag -/

theorem startTag_ascii : ∀ c ∈ startTag, c.utf8Size = 1 :=
  ascii_of_all (by decide)

theorem realStart_of_append (here : RealStart (text ++ more) i)
    (inside : i + startTag.length < text.length) : RealStart text i := by
  refine ⟨occurs_of_append here.1 inside.le, ?_, ?_⟩
  · have := here.2.1
    rwa [charBefore_append (by omega)] at this
  · have := here.2.2
    rwa [getElem?_append_left inside] at this

theorem realStart_append (here : RealStart text i) (inside : i + startTag.length < text.length)
    (more : Text) : RealStart (text ++ more) i := by
  refine ⟨occurs_append here.1, ?_, ?_⟩
  · rw [charBefore_append (by omega)]
    exact here.2.1
  · rw [getElem?_append_left inside]
    exact here.2.2

theorem realStart_at_end (ends : startTag <:+ text)
    (unquoted : isKiroQuoteChar (charBefore none text (text.length - startTag.length)) = false) :
    RealStart text (text.length - startTag.length) := by
  refine ⟨?_, unquoted, ?_⟩
  · obtain ⟨front, rfl⟩ := ends
    rw [length_append, Nat.add_sub_cancel, drop_left]
  · rw [Nat.sub_add_cancel ends.length_le, List.getElem?_eq_none (Nat.le_refl _)]
    rfl

theorem getElem?_at_cut (fed next : Text) : (fed ++ next)[fed.length]? = next.head? := by
  rw [List.getElem?_append_right (Nat.le_refl _), Nat.sub_self, List.head?_eq_getElem?]

/-- A cut that does not change where the thinking part starts: behind a start tag, there
is a quote character on both sides of the tag or on none. -/
def CleanStartCut (fed next : Text) : Prop :=
  startTag <:+ fed →
    isKiroQuoteChar (charBefore none fed (fed.length - startTag.length)) =
      isKiroQuoteChar next.head?

theorem seenAt_start_iff (none : ∀ i, ¬ RealStart fed i) (clean : CleanStartCut fed next)
    (i : Nat) : SeenAt startTag judgeStartTag fed next i ↔ RealStart (fed ++ next) i := by
  rw [SeenAt, judgeStartTag_here, head?_drop]
  constructor
  · rintro ⟨_, tag, context, after⟩
    refine ⟨tag, ?_, after⟩
    by_cases front : i = gone startTag.length fed
    · subst front
      rcases Nat.eq_zero_or_pos (gone startTag.length fed) with zero | positive
      · rw [zero]
        rfl
      · have ends : startTag <:+ fed :=
          ends_of_kept_starts startTag_ascii (by decide) positive (by rwa [drop_gone] at tag)
        rw [gone_of_ends startTag_ascii ends] at after ⊢
        rw [Nat.sub_add_cancel ends.length_le, getElem?_at_cut] at after
        rw [charBefore_append (sub_le _ _), clean ends, after]
    · rwa [if_neg front] at context
  · intro here
    have late : fed.length < i + startTag.length := by
      rcases lt_trichotomy (i + startTag.length) fed.length with inside | atEnd | late
      · exact absurd (realStart_of_append here inside) (none i)
      · have ends : startTag <:+ fed := by
          have tag := occurs_of_append here.1 atEnd.le
          rw [tag.eq_of_length (by rw [length_drop]; omega)]
          exact drop_suffix _ _
        have place : i = fed.length - startTag.length := by omega
        have unquoted := here.2.1
        rw [charBefore_append (by omega), place] at unquoted
        exact absurd (realStart_at_end ends unquoted) (none _)
      · exact late
    have there : gone startTag.length fed ≤ i := by
      rcases le_total fed.length i with beyond | within
      · exact (sub_le _ _).trans beyond
      · obtain ⟨k, cut⟩ := Nat.exists_eq_add_of_le within
        obtain ⟨split, _⟩ := suffix_of_cut here.1 cut.symm (by omega)
        have length : (fed.take i).length = i := by
          rw [length_take]
          omega
        have bound : gone startTag.length (fed.take i ++ startTag.take k) ≤ (fed.take i).length :=
          (gone_of_cut startTag_ascii (List.take_prefix _ _) (by rw [length_take]; omega)).1
        rwa [← split, length] at bound
    refine ⟨there, here.1, ?_, here.2.2⟩
    split
    · rfl
    · exact here.2.1

theorem seen_start (none : findKiroRealThinkingStartTag fed = none)
    (clean : CleanStartCut fed next) :
    seen startTag judgeStartTag fed next = findKiroRealThinkingStartTag (fed ++ next) := by
  have nowhere := findKiroRealThinkingStartTag_first fed
  rw [none] at nowhere
  exact seen_eq startTagAt_first (seenAt_start_iff nowhere clean) (findKiroRealThinkingStartTag_first _)

theorem findStartTag_append (found : findKiroRealThinkingStartTag text = some i)
    (inside : i + startTag.length < text.length) (more : Text) :
    findKiroRealThinkingStartTag (text ++ more) = some i := by
  have first := findKiroRealThinkingStartTag_first text
  rw [found] at first
  refine (findKiroRealThinkingStartTag_first _).unique
    ⟨realStart_append first.1 inside more, fun j before here => ?_⟩
  exact first.2 j before (realStart_of_append here (by omega))

/-- While no start tag is in, or only at the end of the text, the cut is clean. -/
def StartCutsClean (fed next : Text) : Prop :=
  (∀ i, findKiroRealThinkingStartTag fed = some i → i + startTag.length = fed.length) →
    CleanStartCut fed next

theorem startCutsClean_of_found (found : findKiroRealThinkingStartTag text = some i)
    (inside : i + startTag.length < text.length) (pieces : List Text) :
    AllCuts StartCutsClean text pieces := by
  intro before next after _ guard
  have := guard i (findStartTag_append found inside _)
  rw [length_append] at this
  omega

/-- The search finds a start tag before any that is one. -/
def EarlyStart (text : Text) (found : Option Nat) : Prop :=
  ∃ p, found = some p ∧ startTag <+: text.drop p ∧ ∀ j ≤ p, ¬ RealStart text j

theorem no_earlier_start {p j} (occurs : startTag <+: (text ++ more).drop p)
    (atEnd : p + startTag.length = text.length) (nowhere : ∀ j < p, ¬ RealStart text j)
    (before : j < p) : ¬ RealStart (text ++ more) j := by
  intro here
  have apart := startTag_apart here.1 occurs before
  exact nowhere j before (realStart_of_append here (by omega))

theorem earlyStart_of_quoted {pieces} (none : findKiroRealThinkingStartTag fed = none)
    (unclean : ¬ CleanStartCut fed next) : EarlyStart (fed ++ (next :: pieces).flatten)
      (scan startTag judgeStartTag fed (next :: pieces)) := by
  have nowhere := findKiroRealThinkingStartTag_first fed
  rw [none] at nowhere
  rw [CleanStartCut, Classical.not_imp] at unclean
  obtain ⟨ends, differ⟩ := unclean
  have quoted : isKiroQuoteChar (charBefore Option.none fed (fed.length - startTag.length)) =
    true := by
    by_contra unquoted
    exact nowhere _ (realStart_at_end ends (Bool.eq_false_iff.mpr unquoted))
  have after : isKiroQuoteChar next.head? = false := by
    rw [quoted] at differ
    exact Bool.eq_false_iff.mpr (Ne.symm differ)
  have place := gone_of_ends startTag_ascii ends
  have now : seen startTag judgeStartTag fed next = some (fed.length - startTag.length) := by
    refine (seen_first startTagAt_first fed next).unique
      ⟨⟨place.le, occurs_at_cut ends, ?_⟩, fun j before here => ?_⟩
    · rw [if_pos place.symm, judgeStartTag_here, head?_drop,
        Nat.sub_add_cancel ends.length_le, getElem?_at_cut]
      exact ⟨rfl, after⟩
    · have := here.1
      omega
  refine ⟨fed.length - startTag.length, by rw [scan, now], occurs_at_cut ends, fun j upTo => ?_⟩
  rcases lt_or_eq_of_le upTo with before | rfl
  · exact no_earlier_start (occurs_at_cut ends) (Nat.sub_add_cancel ends.length_le)
      (fun j _ => nowhere j) before
  · intro here
    have unquoted := here.2.1
    rw [charBefore_append (sub_le _ _), quoted] at unquoted
    cases unquoted

theorem start_at_end {p} (pieces : List Text) (held : next ≠ [])
    (found : findKiroRealThinkingStartTag text = some p)
    (atEnd : p + startTag.length = text.length) :
    (AllCuts StartCutsClean text (next :: pieces) →
        findKiroRealThinkingStartTag (text ++ (next :: pieces).flatten) = some p) ∧
      (¬ AllCuts StartCutsClean text (next :: pieces) →
        EarlyStart (text ++ (next :: pieces).flatten) (some p)) := by
  have first := findKiroRealThinkingStartTag_first text
  rw [found] at first
  have place : text.length - startTag.length = p := by omega
  have ends : startTag <:+ text := by
    rw [first.1.1.eq_of_length (by rw [length_drop]; omega)]
    exact drop_suffix _ _
  have occurs : ∀ more, startTag <+: (text ++ more).drop p := fun more => occurs_append first.1.1
  have guard : ∀ i, findKiroRealThinkingStartTag text = some i →
      i + startTag.length = text.length := by
    intro i same
    cases found.symm.trans same
    exact atEnd
  rw [allCuts_cons, flatten_cons, ← append_assoc]
  cases quote : isKiroQuoteChar next.head? with
  | false =>
    have now : findKiroRealThinkingStartTag (text ++ next) = some p := by
      refine (findKiroRealThinkingStartTag_first _).unique
        ⟨⟨occurs _, ?_, ?_⟩, fun j before => no_earlier_start (occurs _) atEnd first.2 before⟩
      · rw [charBefore_append (by omega)]
        exact first.1.2.1
      · rw [atEnd, getElem?_at_cut, quote]
    have inside : p + startTag.length < (text ++ next).length := by
      have := length_pos_iff.mpr held
      rw [length_append]
      omega
    have clean : CleanStartCut text next := by
      intro _
      rw [place, quote, first.1.2.1]
    constructor
    · exact fun _ => findStartTag_append now inside _
    · exact fun no => absurd ⟨fun _ => clean, startCutsClean_of_found now inside pieces⟩ no
  | true =>
    constructor
    · rintro ⟨clean, _⟩
      have same := clean guard ends
      rw [place, first.1.2.1, quote] at same
      cases same
    · intro _
      rw [append_assoc]
      refine ⟨p, rfl, occurs _, fun j upTo => ?_⟩
      rcases lt_or_eq_of_le upTo with before | rfl
      · exact no_earlier_start (occurs _) atEnd first.2 before
      · intro here
        have plain := here.2.2
        rw [atEnd, getElem?_at_cut, head?_append_of_ne_nil _ held, quote] at plain
        cases plain

theorem scan_start (pieces : List Text) : ∀ fed : Text, (∀ piece ∈ pieces, piece ≠ []) →
    findKiroRealThinkingStartTag fed = none →
      (AllCuts StartCutsClean fed pieces → scan startTag judgeStartTag fed pieces =
          findKiroRealThinkingStartTag (fed ++ pieces.flatten)) ∧
      (¬ AllCuts StartCutsClean fed pieces →
        EarlyStart (fed ++ pieces.flatten) (scan startTag judgeStartTag fed pieces)) := by
  induction pieces with
  | nil =>
    intro fed _ none
    rw [flatten_nil, append_nil, none]
    exact ⟨fun _ => rfl, fun unclean => absurd (allCuts_nil _ _) unclean⟩
  | cons next pieces ih =>
    intro fed nonempty none
    by_cases clean : CleanStartCut fed next
    · have step := seen_start none clean
      have cleanNow : StartCutsClean fed next := fun _ => clean
      rw [allCuts_cons, and_iff_right cleanNow, scan, step, flatten_cons, ← append_assoc]
      cases found : findKiroRealThinkingStartTag (fed ++ next) with
      | none => exact ih (fed ++ next) (fun piece member => nonempty piece (.tail _ member)) found
      | some p =>
        have first := findKiroRealThinkingStartTag_first (fed ++ next)
        rw [found] at first
        rcases lt_or_eq_of_le (occurs_length first.1.1 (by decide)) with inside | atEnd
        · have all := startCutsClean_of_found found inside pieces
          exact ⟨fun _ => (findStartTag_append found inside _).symm, fun no => absurd all no⟩
        · cases pieces with
          | nil =>
            rw [flatten_nil, append_nil, found]
            exact ⟨fun _ => rfl, fun no => absurd (allCuts_nil _ _) no⟩
          | cons later pieces =>
            have cut := start_at_end pieces (nonempty later (by simp)) found atEnd
            exact ⟨fun all => (cut.1 all).symm, cut.2⟩
    · constructor
      · intro all
        have guard : ∀ i, findKiroRealThinkingStartTag fed = some i →
            i + startTag.length = fed.length := by
          intro i found
          cases none.symm.trans found
        exact absurd (((allCuts_cons _ _ _ _).mp all).1 guard) clean
      · exact fun _ => earlyStart_of_quoted none clean

end Aeris.Kiro
