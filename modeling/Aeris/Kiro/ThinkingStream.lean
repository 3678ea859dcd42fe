import Aeris.Kiro.ClaudeStream
import Aeris.Kiro.ThinkingResult

/-! The texts in the events that the adapter emits. Blocks come and go around them, but
which text is thinking and which is answer is decided as on the bare texts. -/
namespace Aeris.Kiro

open List

def ClaudeEvent.texts : ClaudeEvent → Separated
  | .contentBlockDelta _ (.text text) => ⟨text, []⟩
  | .contentBlockDelta _ (.thinking thinking) => ⟨[], thinking⟩
  | _ => ⟨[], []⟩

/-- All answer text and all thinking text in a list of events. -/
def textsOf : List ClaudeEvent → Separated
  | [] => ⟨[], []⟩
  | event :: events => event.texts ++ textsOf events

@[simp] theorem Separated.nil_append (texts : Separated) :
    (⟨[], []⟩ : Separated) ++ texts = texts :=
  rfl

@[simp] theorem Separated.append_nil (texts : Separated) : texts ++
    (⟨[], []⟩ : Separated) = texts := by
  ext1 <;> simp

@[simp] theorem Separated.mk_append (answer thinking answer' thinking' : Text) :
    (⟨answer, thinking⟩ : Separated) ++ (⟨answer', thinking'⟩ : Separated) =
      ⟨answer ++ answer', thinking ++ thinking'⟩ := rfl

@[simp] theorem textsOf_append (first second : List ClaudeEvent) :
    textsOf (first ++ second) = textsOf first ++ textsOf second := by
  induction first with
  | nil => rfl
  | cons event first ih => rw [cons_append, textsOf, textsOf, ih, Separated.append_assoc]

namespace KiroClaudeStreamState

/-! ## Handlers that leave the text alone -/

/-- What the separation of the texts reads and writes. -/
structure TextView where
  thinkingEnabled : Bool
  thinkingBuffer : Text
  inThinkingBlock : Bool
  thinkingExtracted : Bool
  stripThinkingLeadingNewline : Bool
  lastContent : Text

def view (state : KiroClaudeStreamState) : TextView where
  thinkingEnabled := state.thinkingEnabled
  thinkingBuffer := state.thinkingBuffer
  inThinkingBlock := state.inThinkingBlock
  thinkingExtracted := state.thinkingExtracted
  stripThinkingLeadingNewline := state.stripThinkingLeadingNewline
  lastContent := state.lastContent

/-- A handler that emits these texts and moves nothing in the buffer. -/
structure Emits (handler : Handler) (texts : Separated) : Prop where
  texts : ∀ state, textsOf (handler state).1 = texts
  view : ∀ state, (handler state).2.view = state.view

theorem Emits.andThen {first second left right} (one : Emits first left)
    (two : Emits second right) : Emits (first.andThen second) (left ++ right) where
  texts := fun state => by rw [Handler.andThen, textsOf_append, one.texts, two.texts]
  view := fun state => (two.view _).trans (one.view _)

theorem update_id_emits : Emits (update id) ⟨[], []⟩ := ⟨fun _ => rfl, fun _ => rfl⟩

theorem ensureTextBlockOpen_emits : Emits ensureTextBlockOpen ⟨[], []⟩ := by
  constructor <;> intro state <;> unfold ensureTextBlockOpen <;> split <;> rfl

theorem ensureThinkingBlockOpen_emits : Emits ensureThinkingBlockOpen ⟨[], []⟩ := by
  constructor <;> intro state <;> unfold ensureThinkingBlockOpen <;> split <;> rfl

theorem closeBlock_emits (idx : Nat) : Emits (closeBlock idx) ⟨[], []⟩ := by
  constructor <;> intro state <;> unfold closeBlock <;> split <;> rfl

theorem emitTextDelta_emits (text : Text) : Emits (emitTextDelta text) ⟨text, []⟩ := by
  have emits : Emits (ensureTextBlockOpen.andThen fun state =>
      ([.contentBlockDelta (state.textBlockIndex.getD 0) (.text text)], state)) ⟨text, []⟩ :=
    ensureTextBlockOpen_emits.andThen
      (show Emits _ ⟨text, []⟩ from ⟨fun _ => Separated.append_nil _, fun _ => rfl⟩)
  constructor <;> intro state <;> unfold emitTextDelta <;> split
  · rename_i empty
    rw [isEmpty_iff.mp empty]
    rfl
  · exact emits.texts state
  · rfl
  · exact emits.view state

theorem emitThinkingDelta_emits (thinking : Text) :
    Emits (emitThinkingDelta thinking) ⟨[], thinking⟩ := by
  have emits : Emits (ensureThinkingBlockOpen.andThen fun state =>
      ([.contentBlockDelta (state.thinkingBlockIndex.getD 0) (.thinking thinking)], state))
        ⟨[], thinking⟩ :=
    ensureThinkingBlockOpen_emits.andThen
      (show Emits _ ⟨[], thinking⟩ from ⟨fun _ => Separated.append_nil _, fun _ => rfl⟩)
  constructor <;> intro state <;> unfold emitThinkingDelta <;> split
  · rename_i empty
    rw [isEmpty_iff.mp empty]
    rfl
  · exact emits.texts state
  · rfl
  · exact emits.view state

theorem closeThinkingBlock_emits : Emits closeThinkingBlock ⟨[], []⟩ := by
  have emits : ∀ idx, Emits (Handler.andThen
      (fun state => ([.contentBlockDelta idx (.thinking [])], state)) (closeBlock idx))
        ⟨[], []⟩ := by
    intro idx
    exact (show Emits _ ⟨[], []⟩ from ⟨fun _ => rfl, fun _ => rfl⟩).andThen (closeBlock_emits idx)
  constructor <;> intro state <;> unfold closeThinkingBlock <;> split
  · rfl
  · exact (emits _).texts state
  · rfl
  · exact (emits _).view state

theorem closeAll_emits (indices : List Nat) : Emits (closeAll indices) ⟨[], []⟩ := by
  induction indices with
  | nil => exact update_id_emits
  | cons idx rest ih => exact (closeBlock_emits idx).andThen ih

/-! ## The phase of a state -/

/-- The phase of the separation that a state is in. -/
inductive Shows : TextView → Phase → Prop
  | seeking {view} : view.inThinkingBlock = false →
      view.thinkingExtracted = false → Shows view (.seeking view.thinkingBuffer)
  | reading {view} : view.inThinkingBlock = true →
      Shows view (.reading view.stripThinkingLeadingNewline view.thinkingBuffer)
  | done {view : TextView} : view.inThinkingBlock = false →
      view.thinkingExtracted = true → view.thinkingBuffer = [] → Shows view .done

variable {phase : Phase}

theorem Shows.buffer {view} (shows : Shows view phase) : view.thinkingBuffer = phase.buffer := by
  cases shows with
  | seeking _ _ => rfl
  | reading _ => rfl
  | done _ _ empty => exact empty

/-- A handler's result: the texts it emits and the phase it leads to. -/
structure Leads (view : TextView) (result : List ClaudeEvent × KiroClaudeStreamState)
    (step : Separated × Phase) : Prop where
  texts : textsOf result.1 = step.1
  shows : Shows result.2.view step.2
  enabled : result.2.thinkingEnabled = view.thinkingEnabled
  content : result.2.lastContent = view.lastContent

variable {state : KiroClaudeStreamState}

theorem Emits.leads {first second texts step}
    (emits : Emits first texts) {base} (same : state.view = base)
    (leads : ∀ next : KiroClaudeStreamState, next.view = base → Leads base (second next) step) :
    Leads base (first.andThen second state) (texts ++ step.1, step.2) := by
  have later := leads (first state).2 ((emits.view state).trans same)
  refine ⟨?_, later.shows, later.enabled, later.content⟩
  rw [Handler.andThen, textsOf_append, emits.texts, later.texts]

theorem Emits.leads_keeping {handler texts} (emits : Emits handler texts)
    (state : KiroClaudeStreamState) {remaining}
    (shows : Shows { state.view with thinkingBuffer := remaining } phase) :
    Leads state.view
      (handler.andThen (update fun state => { state with thinkingBuffer := remaining }) state)
      (texts, phase) := by
  have same := emits.view state
  have view : (handler.andThen (update fun state => { state with thinkingBuffer := remaining })
      state).2.view = { state.view with thinkingBuffer := remaining } := by
    rw [← same]
    rfl
  refine ⟨?_, view ▸ shows, congrArg TextView.thinkingEnabled same,
    congrArg TextView.lastContent same⟩
  rw [Handler.andThen, textsOf_append, emits.texts]
  exact Separated.append_nil texts

theorem flushAnswer_leads (outside : state.inThinkingBlock = false)
    (extracted : state.thinkingExtracted = true) :
    Leads state.view (flushAnswer state) (⟨state.thinkingBuffer, []⟩, .done) := by
  unfold flushAnswer
  split
  · rename_i empty
    have empty := isEmpty_iff.mp empty
    rw [empty]
    exact ⟨rfl, .done outside extracted empty, rfl, rfl⟩
  · have emits := emitTextDelta_emits state.thinkingBuffer
    have view := emits.view { state with thinkingBuffer := [] }
    refine ⟨emits.texts _, ?_, congrArg TextView.thinkingEnabled view,
      congrArg TextView.lastContent view⟩
    rw [view]
    exact .done outside extracted rfl

theorem stripLeadingNewline_view (state : KiroClaudeStreamState) :
    (stripLeadingNewline state).2.view =
      { state.view with
        thinkingBuffer :=
          if state.stripThinkingLeadingNewline then stripNewline state.thinkingBuffer
          else state.thinkingBuffer
        stripThinkingLeadingNewline :=
          state.stripThinkingLeadingNewline && state.thinkingBuffer.isEmpty } := by
  simp only [stripLeadingNewline, update]
  cases strip : state.stripThinkingLeadingNewline with
  | false => simp [view, strip]
  | true =>
    cases buffer : state.thinkingBuffer with
    | nil => simp [view, strip, buffer, stripNewline]
    | cons c rest =>
      by_cases newline : c = '\n'
      · subst newline
        simp [view, stripNewline]
      · simp [view, stripNewline, newline, buffer]

theorem endThinking_leads (state : KiroClaudeStreamState) (thinking remaining : Text) :
    Leads state.view
      ((emitThinkingDelta thinking).andThen
        (closeThinkingBlock.andThen ((update (leaveThinking remaining)).andThen flushAnswer)) state)
      (⟨remaining, thinking⟩, .done) := by
  have last : ∀ next : KiroClaudeStreamState, next.view = state.view →
      Leads state.view ((update (leaveThinking remaining)).andThen flushAnswer next)
        (⟨remaining, []⟩, .done) := by
    intro next same
    have leads : Leads _ (flushAnswer (leaveThinking remaining next)) _ := flushAnswer_leads rfl rfl
    have enabled : next.thinkingEnabled = _ := congrArg TextView.thinkingEnabled same
    have content : next.lastContent = _ := congrArg TextView.lastContent same
    exact ⟨leads.texts, leads.shows, leads.enabled.trans enabled, leads.content.trans content⟩
  have leads := (emitThinkingDelta_emits thinking).leads rfl fun next same =>
    closeThinkingBlock_emits.leads same last
  simpa using leads

theorem readThinking_leads (inside : state.inThinkingBlock = true) :
    Leads state.view (readThinking state)
      (readText state.stripThinkingLeadingNewline state.thinkingBuffer) := by
  have stripped := stripLeadingNewline_view state
  rw [readThinking, Handler.andThen, show (stripLeadingNewline state).1 = [] from rfl,
    List.nil_append, readText]
  generalize (stripLeadingNewline state).2 = start at stripped ⊢
  have buffer : start.thinkingBuffer = _ := congrArg TextView.thinkingBuffer stripped
  have strip : start.stripThinkingLeadingNewline = _ :=
    congrArg TextView.stripThinkingLeadingNewline stripped
  have enabled : start.thinkingEnabled = _ := congrArg TextView.thinkingEnabled stripped
  have content : start.lastContent = _ := congrArg TextView.lastContent stripped
  have within : start.inThinkingBlock = true :=
    (congrArg TextView.inThinkingBlock stripped).trans inside
  dsimp only at buffer
  rw [← buffer]
  cases found : findKiroRealThinkingEndTag start.thinkingBuffer with
  | some endPos =>
    have leads := endThinking_leads start (start.thinkingBuffer.take endPos)
      (start.thinkingBuffer.drop (endPos + endTag.length))
    exact ⟨leads.texts, leads.shows, leads.enabled.trans enabled, leads.content.trans content⟩
  | none =>
    dsimp only at strip ⊢
    rw [← strip, flushed, kept]
    cases splitPreservingTrailingBytes start.thinkingBuffer endTag.length with
    | none => exact ⟨rfl, .reading within, enabled, content⟩
    | some parts =>
      have shows : Shows { start.view with thinkingBuffer := parts.2 }
          (.reading start.stripThinkingLeadingNewline parts.2) := .reading within
      have leads := (emitThinkingDelta_emits parts.1).leads_keeping start shows
      exact ⟨leads.texts, leads.shows, leads.enabled.trans enabled, leads.content.trans content⟩

theorem enterThinking_leads (state : KiroClaudeStreamState) (remaining : Text) : Leads state.view
      ((update (enterThinking remaining)).andThen
        (ensureThinkingBlockOpen.andThen readThinking) state) (readText true remaining) := by
  have read : ∀ next : KiroClaudeStreamState,
      next.view = (enterThinking remaining state).view →
        Leads (enterThinking remaining state).view (readThinking next)
          (readText true remaining) := by
    intro next same
    have inside : next.inThinkingBlock = true := congrArg TextView.inThinkingBlock same
    have strip : next.stripThinkingLeadingNewline = true :=
      congrArg TextView.stripThinkingLeadingNewline same
    have buffer : next.thinkingBuffer = remaining := congrArg TextView.thinkingBuffer same
    have leads := readThinking_leads inside
    rwa [strip, buffer, same] at leads
  have leads := ensureThinkingBlockOpen_emits.leads rfl read
  exact ⟨leads.texts, leads.shows, leads.enabled, leads.content⟩

theorem seekThinking_leads
    (outside : state.inThinkingBlock = false) (open_ : state.thinkingExtracted = false) :
    Leads state.view (seekThinking state) (seekText state.thinkingBuffer) := by
  rw [seekThinking, seekText]
  cases found : findKiroRealThinkingStartTag state.thinkingBuffer with
  | some startPos =>
    dsimp only
    generalize state.thinkingBuffer.take startPos = before
    have emits : Emits (if isBlankText before then update id else emitTextDelta before)
        ⟨if isBlankText before then [] else before, []⟩ := by
      split
      · exact update_id_emits
      · exact emitTextDelta_emits before
    refine emits.leads rfl fun next same => ?_
    rw [← same]
    exact enterThinking_leads next _
  | none =>
    rw [flushed, kept]
    cases splitPreservingTrailingBytes state.thinkingBuffer startTag.length with
    | none => exact ⟨rfl, .seeking outside open_, rfl, rfl⟩
    | some parts =>
      dsimp only [Option.map_some, Option.getD_some]
      split
      · exact ⟨rfl, .seeking outside open_, rfl, rfl⟩
      · have shows : Shows { state.view with thinkingBuffer := parts.2 } (.seeking parts.2) :=
          .seeking outside open_
        exact (emitTextDelta_emits parts.1).leads_keeping state shows

theorem separateThinking_leads {base} (shows : Shows base phase) {text}
    (same : state.view = { base with thinkingBuffer := base.thinkingBuffer ++ text }) :
    Leads state.view (separateThinking state) (phase.feed text) := by
  have inside : state.inThinkingBlock = base.inThinkingBlock :=
    congrArg TextView.inThinkingBlock same
  have extracted : state.thinkingExtracted = base.thinkingExtracted :=
    congrArg TextView.thinkingExtracted same
  have buffer : state.thinkingBuffer = base.thinkingBuffer ++ text :=
    congrArg TextView.thinkingBuffer same
  have strip : state.stripThinkingLeadingNewline = base.stripThinkingLeadingNewline :=
    congrArg TextView.stripThinkingLeadingNewline same
  cases shows with
  | seeking outside notYet =>
    rw [outside] at inside
    rw [notYet] at extracted
    simp only [separateThinking, inside, extracted, Bool.not_false, Bool.and_self, if_true]
    rw [Phase.feed, ← buffer]
    exact seekThinking_leads inside extracted
  | reading within =>
    rw [within] at inside
    simp only [separateThinking, inside, Bool.not_true, Bool.false_and, Bool.false_eq_true,
      if_false, if_true]
    rw [Phase.feed, ← buffer, ← strip]
    exact readThinking_leads inside
  | done outside over_ empty =>
    rw [outside] at inside
    rw [over_] at extracted
    rw [empty, List.nil_append] at buffer
    simp only [separateThinking, inside, extracted, Bool.not_true, Bool.and_false,
      Bool.false_eq_true, if_false]
    rw [Phase.feed, ← buffer]
    exact flushAnswer_leads inside extracted

theorem processAssistantResponse_eq {content}
    (enabled : state.thinkingEnabled = true) (held : content ≠ [])
    (fresh : content ≠ state.lastContent)
    (fits : byteLength (state.thinkingBuffer ++ content) ≤ KIRO_MAX_THINKING_BUFFER) :
    processAssistantResponse content state = separateThinking
        { state with
          lastContent := content
          outputTokens := state.outputTokens + estimateKiroTokens content
          thinkingBuffer := state.thinkingBuffer ++ content } := by
  have known : ¬ (content.isEmpty || content == state.lastContent) = true := by simp [held, fresh]
  have off : ¬ (!state.thinkingEnabled) = true := by simp [enabled]
  rw [processAssistantResponse, if_neg known]
  rw [if_neg off, if_neg (Nat.not_lt.mpr fits)]

section

variable (shows : Shows state.view phase) (enabled : state.thinkingEnabled = true)
include shows enabled

theorem processAssistantResponse_leads {content} (held : content ≠ [])
    (fresh : content ≠ state.lastContent)
    (fits : byteLength (state.thinkingBuffer ++ content) ≤ KIRO_MAX_THINKING_BUFFER) :
    Leads { state.view with lastContent := content } (processAssistantResponse content state)
      (phase.feed content) := by
  have counted : Shows { state.view with lastContent := content } phase := by
    cases shows with
    | seeking outside notYet => exact .seeking outside notYet
    | reading within => exact .reading within
    | done outside extracted empty => exact .done outside extracted empty
  have step : ∀ next : KiroClaudeStreamState,
      next.view = { state.view with
        lastContent := content
        thinkingBuffer := state.thinkingBuffer ++ content } →
      Leads { state.view with lastContent := content } (separateThinking next)
        (phase.feed content) := by
    intro next same
    have leads := separateThinking_leads counted same
    have on : next.thinkingEnabled = state.thinkingEnabled :=
      congrArg TextView.thinkingEnabled same
    have last : next.lastContent = content := congrArg TextView.lastContent same
    exact ⟨leads.texts, leads.shows, leads.enabled.trans on, leads.content.trans last⟩
  rw [processAssistantResponse_eq enabled held fresh fits]
  exact step _ rfl

theorem flushAtEnd_texts : textsOf (flushAtEnd state).1 = phase.finish := by
  have flush : ∀ (handler : Handler) (texts : Separated), Emits handler texts →
      textsOf (handler.andThen (update (leaveThinking [])) state).1 = texts := by
    intro handler texts emits
    rw [Handler.andThen, textsOf_append, emits.texts]
    exact Separated.append_nil texts
  by_cases empty : state.thinkingBuffer = []
  · have nothing : (flushAtEnd state).1 = [] := by
      simp [flushAtEnd, empty]
    rw [nothing]
    cases shows with
    | seeking _ _ | reading _ =>
      have empty : state.view.thinkingBuffer = [] := empty
      rw [empty]
      rfl
    | done _ _ _ => rfl
  · have held : (state.thinkingEnabled && !state.thinkingBuffer.isEmpty) = true := by
      simp [enabled, empty]
    rw [flushAtEnd, if_pos held]
    cases shows with
    | seeking outside _ =>
      have outside : state.inThinkingBlock = false := outside
      rw [outside, if_neg Bool.false_ne_true]
      exact flush _ _ (emitTextDelta_emits _)
    | reading within =>
      have within : state.inThinkingBlock = true := within
      rw [within, if_pos rfl, Phase.finish,
        show state.view.thinkingBuffer = state.thinkingBuffer from rfl]
      cases findKiroRealThinkingEndTagAtBufferEnd state.thinkingBuffer with
      | some endPos =>
        refine flush _ _ ?_
        have emits := (emitThinkingDelta_emits (state.thinkingBuffer.take endPos)).andThen
          (closeThinkingBlock_emits.andThen
            (emitTextDelta_emits (state.thinkingBuffer.drop (endPos + endTag.length))))
        simpa using emits
      | none =>
        refine flush _ _ ?_
        have emits := (emitThinkingDelta_emits state.thinkingBuffer).andThen
          closeThinkingBlock_emits
        simpa using emits
    | done _ _ none => exact absurd none empty

theorem finalize_texts : textsOf (finalize state).1 = phase.finish := by
  have closes : ∀ state : KiroClaudeStreamState, textsOf (closeOpenBlocks state).1 = ⟨[], []⟩ :=
    fun state => (closeAll_emits state.openBlocks.keys.reverse).texts state
  rw [finalize, Handler.andThen, Handler.andThen, textsOf_append, textsOf_append,
    flushAtEnd_texts shows enabled, closes]
  exact Separated.append_nil _

end

/-! ## Runs -/

/-- The contents come in one after the other, and then the stream ends. -/
def respondAll : List Text → Handler
  | [] => finalize
  | content :: contents => (processAssistantResponse content).andThen (respondAll contents)

/-- No content is empty or the same as the one before it, which would be passed over. -/
def Distinct : Text → List Text → Prop
  | _, [] => True
  | last, content :: contents => content ≠ [] ∧ content ≠ last ∧ Distinct content contents

theorem respondAll_texts (contents : List Text) : ∀ {state phase},
    Shows state.view phase → state.thinkingEnabled = true → Distinct state.lastContent contents →
    byteLength (state.thinkingBuffer ++ contents.flatten) ≤ KIRO_MAX_THINKING_BUFFER →
      textsOf (respondAll contents state).1 = phase.separate contents := by
  induction contents with
  | nil =>
    intro state phase shows enabled _ _
    exact finalize_texts shows enabled
  | cons content contents ih =>
    intro state phase shows enabled distinct fits
    have room : byteLength (state.thinkingBuffer ++ content) ≤ KIRO_MAX_THINKING_BUFFER := by
      rw [flatten_cons, ← append_assoc, byteLength_append] at fits
      omega
    have leads := processAssistantResponse_leads shows enabled distinct.1 distinct.2.1 room
    rw [respondAll, Handler.andThen, textsOf_append, leads.texts, Phase.separate]
    rw [ih leads.shows (leads.enabled.trans enabled)]
    · rw [leads.content]
      exact distinct.2.2
    · have held := byteLength_le_of_suffix (phase.feed_buffer content)
      rw [flatten_cons] at fits
      simp only [byteLength_append] at held fits ⊢
      have before : byteLength state.thinkingBuffer = _ := congrArg byteLength shows.buffer
      have after : byteLength (processAssistantResponse content state).2.thinkingBuffer = _ :=
        congrArg byteLength leads.shows.buffer
      omega

/-- The texts of a whole stream with thinking enabled. -/
def responseTexts (model messageId : String) (tokens : Nat)
    (cacheUsage : Option KiroStreamCacheUsage) (contents : List Text) : Separated :=
  textsOf (generateInitial.andThen (respondAll contents)
    (new model messageId true tokens cacheUsage)).1

section Response
variable (model messageId : String) (tokens : Nat) (cacheUsage : Option KiroStreamCacheUsage)

theorem responseTexts_eq {contents} (distinct : Distinct [] contents)
    (fits : byteLength contents.flatten ≤ KIRO_MAX_THINKING_BUFFER) :
    responseTexts model messageId tokens cacheUsage contents =
      (Phase.seeking []).separate contents := by
  have texts : textsOf (respondAll contents (new model messageId true tokens cacheUsage)).1 =
      (Phase.seeking []).separate contents :=
    respondAll_texts contents (.seeking rfl rfl) rfl distinct fits
  rw [← texts]
  rfl

theorem Distinct.nonempty {contents} : ∀ {last}, Distinct last contents →
    ∀ content ∈ contents, content ≠ [] := by
  induction contents with
  | nil =>
    intro last _ content none
    cases none
  | cons first contents ih =>
    rintro last ⟨held, _, rest⟩ content member
    rcases mem_cons.mp member with rfl | later
    · exact held
    · exact ih rest content later

theorem responseTexts_whole {text} (fits : byteLength text ≤ KIRO_MAX_THINKING_BUFFER) :
    responseTexts model messageId tokens cacheUsage [text] = separatedWhole text := by
  by_cases held : text = []
  · subst held
    rfl
  · have flat : byteLength [text].flatten ≤ KIRO_MAX_THINKING_BUFFER := by
      rwa [flatten_singleton]
    have distinct : Distinct [] [text] := ⟨held, held, trivial⟩
    rw [responseTexts_eq model messageId tokens cacheUsage distinct flat, separate_whole]

/-- Two ways to cut a text give the same answer text and the same thinking text if all
their cuts are clean, and only then what the whole text gives at once. However it is cut,
the texts and what was left out account for all of it. -/
theorem thinking_separation_cuts (contents : List Text) (distinct : Distinct [] contents)
    (fits : byteLength contents.flatten ≤ KIRO_MAX_THINKING_BUFFER) :
    (∀ others, Distinct [] others → others.flatten = contents.flatten →
        AllCuts (CleanCut contents.flatten) [] contents →
        AllCuts (CleanCut others.flatten) [] others →
          responseTexts model messageId tokens cacheUsage contents =
            responseTexts model messageId tokens cacheUsage others) ∧
      (responseTexts model messageId tokens cacheUsage contents =
          responseTexts model messageId tokens cacheUsage [contents.flatten] ↔
        AllCuts (CleanCut contents.flatten) [] contents) ∧
      Accounts contents.flatten (responseTexts model messageId tokens cacheUsage contents) := by
  have texts := responseTexts_eq model messageId tokens cacheUsage distinct fits
  have exact_ := separate_eq_whole_iff contents distinct.nonempty
  refine ⟨fun others distinct' same clean clean' => ?_, ?_, ?_⟩
  · have fits' : byteLength others.flatten ≤ KIRO_MAX_THINKING_BUFFER := by rwa [same]
    rw [texts, responseTexts_eq model messageId tokens cacheUsage distinct' fits', exact_.mpr clean,
      (separate_eq_whole_iff others distinct'.nonempty).mpr clean', same]
  · rw [texts, responseTexts_whole model messageId tokens cacheUsage fits]
    exact exact_
  · rw [texts]
    exact separate_accounts contents distinct.nonempty

end Response

/-- Cuts inside the tags and behind them that do not show. -/
theorem thinking_separation_cuts_sample :
    AllCuts (CleanCut "<thinking>\nhm</thinking>\n\nyes".toList) []
        ["<think".toList, "ing>\nhm</thi".toList, "nking>\n\nye".toList, "s".toList] ∧
      responseTexts "claude" "msg" 0 none
          ["<think".toList, "ing>\nhm</thi".toList, "nking>\n\nye".toList, "s".toList] =
        ⟨"\n\nyes".toList, "hm".toList⟩ := by
  refine ⟨?_, by decide +kernel⟩
  refine (thinking_separation_cuts "claude" "msg" 0 none
    ["<think".toList, "ing>\nhm</thi".toList, "nking>\n\nye".toList, "s".toList] ?_ ?_).2.1.mp ?_
  · exact ⟨by decide, by decide, by decide, by decide, by decide, by decide, by decide, by decide,
      trivial⟩
  · decide
  · decide +kernel

/-- A cut in the empty line behind the end tag: the whole answer becomes thinking text. -/
theorem cut_in_empty_line_loses_end_tag : responseTexts "claude" "msg" 0 none
        ["<thinking>a</thinking>\n".toList, "\nb".toList] = ⟨[], "a</thinking>\n\nb".toList⟩ ∧
      responseTexts "claude" "msg" 0 none ["<thinking>a</thinking>\n\nb".toList] =
        ⟨"\n\nb".toList, "a".toList⟩ := by
  constructor <;> decide +kernel

end KiroClaudeStreamState

end Aeris.Kiro
