import Aeris.Base.History
import Aeris.Formats.ClaudeEmitter

/-! The Claude stream that the emitter writes. A reader that puts the message together
follows it to the end exactly when every argument frame finds the block of its tool call
open: a block that was closed is started a second time under its old index. -/
namespace Aeris.Formats

open Emission BlockStream List Option OrderedTable Except

def ContentBlock.fits : ContentBlock → BlockDelta → Bool
  | .text _, .text _ => true
  | .text _, .citations _ => true
  | .thinking, .thinking _ => true
  | .thinking, .signature _ => true
  | .toolUse _ _, .inputJson _ => true
  | _, _ => false

def ClaudeEvent.mark : ClaudeEvent → Mark ContentBlock BlockDelta
  | .messageStart _ _ => .head
  | .contentBlockStart index block => .start index block
  | .contentBlockDelta index delta => .delta index delta
  | .contentBlockStop index _ => .stop index
  | .messageDelta _ _ => .tail
  | .messageStop => .last

abbrev ClaudeReader := Reader ContentBlock BlockDelta

abbrev ClaudeBlock := Block ContentBlock BlockDelta

def readEvent (reader : ClaudeReader) (event : ClaudeEvent) : Option ClaudeReader :=
  advance ContentBlock.fits reader event.mark

def BlockDelta.json : BlockDelta → String
  | .inputJson partialJson => partialJson
  | _ => ""

/-- The input of a tool call as a client puts it together. -/
def jsonOf (deltas : List BlockDelta) : String := String.join (deltas.map BlockDelta.json)

theorem join_snoc (texts : List String) (text : String) :
    String.join (texts ++ [text]) = String.join texts ++ text := by
  simp [String.join, foldl_append]

theorem jsonOf_append (deltas more : List BlockDelta) :
    jsonOf (deltas ++ more) = jsonOf deltas ++ jsonOf more := by
  induction more using List.reverseRecOn with
  | nil => simp [jsonOf, String.join]
  | append_singleton more delta ih =>
    rw [← append_assoc, jsonOf, map_append, map_singleton, join_snoc, ← jsonOf, ih,
      jsonOf, jsonOf, jsonOf, map_append, map_singleton, join_snoc, String.append_assoc]

/-! ## The frames -/

def CanonicalStreamEvent.announces (index : Nat) : CanonicalStreamEvent → Bool
  | .toolCallStart other _ _ => other = index
  | _ => false

def CanonicalStreamEvent.isFinish : CanonicalStreamEvent → Bool
  | .finish _ _ => true
  | _ => false

/-- One start for every tool call, before its argument frames. -/
def Announced (before : List CanonicalStreamEvent) : CanonicalStreamEvent → Prop
  | .toolCallStart index _ _ => ∀ earlier ∈ before, ¬ earlier.announces index
  | .toolCallArgumentsDelta index _ => ∃ earlier ∈ before, earlier.announces index
  | _ => True

def argumentPiece (index : Nat) : CanonicalStreamEvent → String
  | .toolCallArgumentsDelta other arguments => if other = index then arguments else ""
  | _ => ""

def argumentsOf (index : Nat) (events : List CanonicalStreamEvent) : String :=
  String.join (events.map (argumentPiece index))

theorem argumentsOf_snoc (index : Nat) (events : List CanonicalStreamEvent)
    (event : CanonicalStreamEvent) : argumentsOf index (events ++ [event]) =
      argumentsOf index events ++ argumentPiece index event := by
  rw [argumentsOf, argumentsOf, map_append, map_singleton, join_snoc]

/-- The tool call that the frames so far write to, if they write to one. -/
def focusStep (focus : Option Nat) : CanonicalStreamEvent → Option Nat
  | .toolCallStart index _ _ => some index
  | .toolCallArgumentsDelta index arguments => if arguments = "" then focus else some index
  | .textDelta _ | .reasoningDelta _ | .reasoningSignature _ | .reasoningSummaryDone
  | .contentPart _ | .toolResultDelta _ _ _ _ => none
  | .imageGenerationCall _ item =>
    if (contentPartFromOpenaiImageGenerationItem item).isSome then none else focus
  | .citations citations =>
    if (canonicalCitationsToClaudeCitations citations).isEmpty then focus else none
  | .start | .openAiResponsesOutputItem _ _ _ | .toolCallSignature _ _ | .unknownEvent _
  | .finish _ _ => focus

def focus (events : List CanonicalStreamEvent) : Option Nat := events.foldl focusStep none

def CanonicalStreamEvent.begins : CanonicalStreamEvent → Bool
  | .start | .textDelta _ | .reasoningDelta _ | .reasoningSignature _ | .contentPart _
  | .toolCallStart _ _ _ | .toolResultDelta _ _ _ _ | .finish _ _ => true
  | .imageGenerationCall _ item => (contentPartFromOpenaiImageGenerationItem item).isSome
  | .toolCallArgumentsDelta _ arguments => arguments ≠ ""
  | .citations _ | .reasoningSummaryDone | .openAiResponsesOutputItem _ _ _
  | .toolCallSignature _ _ | .unknownEvent _ => false

/-- The frame finds the stream where it belongs. -/
def Placed (before : List CanonicalStreamEvent) : CanonicalStreamEvent → Prop
  | .toolCallArgumentsDelta index arguments => arguments = "" ∨ focus before = some index
  | .citations citations =>
    canonicalCitationsToClaudeCitations citations = [] ∨ ∃ earlier ∈ before, earlier.begins
  | .openAiResponsesOutputItem _ _ _ => False
  | _ => True

namespace ClaudeClientEmitter

/-! ## The state and the reader -/

/-- The open block is the one that the reader is in. -/
def Names (state : ClaudeClientEmitter) (closed : List ClaudeBlock) (block : ContentBlock) :
    ClaudeOpenBlock → Prop
  | .text index => index = closed.length ∧ ∃ text, block = .text text
  | .thinking index => index = closed.length ∧ block = .thinking
  | .tool toolIndex index => index = closed.length ∧
      state.toolBlockIndices.get? toolIndex = some index ∧ ∃ id name, block = .toolUse id name

def Agrees (state : ClaudeClientEmitter) (closed : List ClaudeBlock) : Option ClaudeBlock → Prop
  | none => state.openBlock = none ∧ state.nextBlockIndex = closed.length
  | some (block, _) => state.nextBlockIndex = closed.length + 1 ∧
      ∃ opened, state.openBlock = some opened ∧ Names state closed block opened

abbrev ToolTable := OrderedTable Nat ClaudeClientToolState

def Entered (tools : ToolTable) (index : Nat) (callId name : String) : Prop :=
  ∃ buffered, tools.get? index = some ⟨callId, name, buffered⟩

/-- What is known of a tool call: its block, and in it the arguments so far. -/
structure Called (state : ClaudeClientEmitter) (blocks : List ClaudeBlock) (index : Nat)
    (callId name arguments : String) : Prop where
  tool : Entered state.toolStates index callId name
  block : ∃ blockIndex pieces, state.toolBlockIndices.get? index = some blockIndex ∧
    blocks[blockIndex]? = some (.toolUse callId name, pieces) ∧
    (name ≠ "Read" → jsonOf pieces = arguments)

/-- The tool calls of the frames so far, and no others, have a block, each its own. -/
structure Calls (events : List CanonicalStreamEvent) (state : ClaudeClientEmitter)
    (blocks : List ClaudeBlock) : Prop where
  called : ∀ index callId name, .toolCallStart index callId name ∈ events →
    Called state blocks index callId name (argumentsOf index events)
  onlyThese : ∀ index, state.toolBlockIndices.get? index ≠ none →
    ∃ event ∈ events, event.announces index
  silent : ∀ index, (∀ event ∈ events, ¬ event.announces index) → argumentsOf index events = ""
  apart : ∀ left right blockIndex, state.toolBlockIndices.get? left = some blockIndex →
    state.toolBlockIndices.get? right = some blockIndex → left = right

/-- The emitter and the reader are both in the message. -/
structure Reading (events : List CanonicalStreamEvent) (state : ClaudeClientEmitter)
    (closed : List ClaudeBlock) (current : Option ClaudeBlock) : Prop where
  running : state.started = true
  unfinished : state.finished = false
  agrees : Agrees state closed current
  calls : Calls events state (closed ++ current.toList)

/-- In the message, after these frames, in a state with this property. -/
def InMessage (events : List CanonicalStreamEvent) (Where : ClaudeClientEmitter → Prop)
    (state : ClaudeClientEmitter) (reader : ClaudeReader) : Prop :=
  ∃ closed current, reader = .reading closed current ∧ Reading events state closed current ∧
    Where state

structure Waiting (events : List CanonicalStreamEvent) (state : ClaudeClientEmitter)
    (reader : ClaudeReader) : Prop where
  reader : reader = .waiting
  idle : state.started = false
  unfinished : state.finished = false
  fresh : state.openBlock = none ∧ state.nextBlockIndex = 0
  calls : Calls events state []

/-- A property of the state before the message opens, or in it. -/
def Ready (events : List CanonicalStreamEvent) (Where : ClaudeClientEmitter → Prop)
    (state : ClaudeClientEmitter) (reader : ClaudeReader) : Prop :=
  (Waiting events state reader ∧ Where state) ∨ InMessage events Where state reader

def Closed (state : ClaudeClientEmitter) : Prop := state.openBlock = none

def InText (state : ClaudeClientEmitter) : Prop := ∃ index, state.openBlock = some (.text index)

def InThinking (state : ClaudeClientEmitter) : Prop :=
  ∃ index, state.openBlock = some (.thinking index)

def InTool (toolIndex : Nat) (state : ClaudeClientEmitter) : Prop :=
  ∃ index, state.openBlock = some (.tool toolIndex index)

/-- A tool call that was entered and has no block. -/
def Pending (toolIndex : Nat) (callId name : String) (state : ClaudeClientEmitter) : Prop :=
  Entered state.toolStates toolIndex callId name ∧ state.toolBlockIndices.get? toolIndex = none

variable {events later : List CanonicalStreamEvent} {state next : ClaudeClientEmitter}
  {blocks grown closed : List ClaudeBlock} {current : Option ClaudeBlock}

/-! ## Tool calls -/

/-- No tool call is announced, and none has arguments that was not. -/
structure Continues (events later : List CanonicalStreamEvent) : Prop where
  starts : ∀ index callId name, .toolCallStart index callId name ∈ later →
    .toolCallStart index callId name ∈ events
  still : ∀ event ∈ events, event ∈ later
  quiet : ∀ index, (∀ event ∈ events, ¬ event.announces index) →
    argumentsOf index later = argumentsOf index events

theorem Continues.refl : Continues events events :=
  ⟨fun _ _ _ member => member, fun _ member => member, fun _ _ => rfl⟩

theorem Calls.carry (calls : Calls events state blocks) (goesOn : Continues events later)
    (indices : next.toolBlockIndices = state.toolBlockIndices)
    (each : ∀ index callId name, .toolCallStart index callId name ∈ events →
      Called state blocks index callId name (argumentsOf index events) →
      Called next grown index callId name (argumentsOf index later)) : Calls later next grown where
  called := by
    intro index callId name member
    have start := goesOn.starts index callId name member
    exact each index callId name start (calls.called index callId name start)
  onlyThese := by
    intro index present
    rw [indices] at present
    obtain ⟨event, member, announces⟩ := calls.onlyThese index present
    exact ⟨event, goesOn.still event member, announces⟩
  silent := by
    intro index unannounced
    have none := fun event member => unannounced event (goesOn.still event member)
    rw [goesOn.quiet index none, calls.silent index none]
  apart := by
    rw [indices]
    exact calls.apart

variable {blockIndex : Nat}

theorem getElem?_grown {block} (more : List ClaudeBlock)
    (found : blocks[blockIndex]? = some block) : (blocks ++ more)[blockIndex]? = some block := by
  obtain ⟨small, -⟩ := List.getElem?_eq_some_iff.mp found
  rw [getElem?_append_left small, found]

theorem Calls.grow (calls : Calls events state blocks) (more : List ClaudeBlock)
    (indices : next.toolBlockIndices = state.toolBlockIndices)
    (tools : next.toolStates = state.toolStates) : Calls events next (blocks ++ more) := by
  refine calls.carry .refl indices ?_
  rintro index callId name - ⟨tool, blockIndex, pieces, found, block, json⟩
  exact ⟨tools ▸ tool, blockIndex, pieces, indices ▸ found, getElem?_grown more block, json⟩

theorem Calls.same (calls : Calls events state blocks)
    (indices : next.toolBlockIndices = state.toolBlockIndices)
    (tools : next.toolStates = state.toolStates) : Calls events next blocks := by
  simpa using calls.grow [] indices tools

/-- The frame is no part of a tool call. -/
def Neutral (event : CanonicalStreamEvent) : Prop :=
  ∀ index, event.announces index = false ∧ argumentPiece index event = ""

variable {event : CanonicalStreamEvent}

theorem Calls.neutral (calls : Calls events state blocks)
    (neutral : Neutral event) : Calls (events ++ [event]) state blocks := by
  have arguments : ∀ index, argumentsOf index (events ++ [event]) = argumentsOf index events := by
    intro index
    rw [argumentsOf_snoc, (neutral index).2, String.append_empty]
  refine calls.carry ⟨?_, fun _ member => mem_append_left _ member,
    fun index _ => arguments index⟩ rfl ?_
  · intro index callId name member
    rcases mem_append.mp member with earlier | last
    · exact earlier
    · have announces := (neutral index).1
      rw [← mem_singleton.mp last] at announces
      simp [CanonicalStreamEvent.announces] at announces
  · intro index callId name _ called
    rw [arguments]
    exact called

variable {block : ContentBlock}

theorem Calls.deltas {pieces} (deltas : List BlockDelta)
    (calls : Calls events state (closed ++ [(block, pieces)])) (goesOn : Continues events later)
    (indices : next.toolBlockIndices = state.toolBlockIndices)
    (tools : ∀ index callId name, Entered state.toolStates index callId name →
      Entered next.toolStates index callId name)
    (others : ∀ index, state.toolBlockIndices.get? index ≠ some closed.length →
      argumentsOf index later = argumentsOf index events)
    (this : ∀ index callId name, .toolCallStart index callId name ∈ events →
      state.toolBlockIndices.get? index = some closed.length → block = .toolUse callId name →
      name ≠ "Read" → argumentsOf index later = argumentsOf index events ++ jsonOf deltas) :
    Calls later next (closed ++ [(block, pieces ++ deltas)]) := by
  refine calls.carry goesOn indices ?_
  rintro index callId name start ⟨tool, blockIndex, inside, found, present, json⟩
  refine ⟨tools index callId name tool, ?_⟩
  by_cases here : blockIndex = closed.length
  · subst here
    rw [getElem?_append_right (le_refl _), Nat.sub_self] at present
    obtain ⟨rfl, rfl⟩ := Prod.mk.inj (some.inj present)
    refine ⟨closed.length, pieces ++ deltas, indices ▸ found, by simp, fun named => ?_⟩
    rw [jsonOf_append, json named, this index callId name start found rfl named]
  · have small : blockIndex < closed.length := by
      obtain ⟨inBounds, -⟩ := List.getElem?_eq_some_iff.mp present
      rw [length_append, length_singleton] at inBounds
      omega
    rw [getElem?_append_left small] at present
    refine ⟨blockIndex, inside, indices ▸ found, ?_, fun named => ?_⟩
    · rw [getElem?_append_left small, present]
    · rw [json named, others index]
      rw [found]
      simpa using here

/-! ## What the reader makes of the events -/

theorem read_start (closed : List ClaudeBlock) (block : ContentBlock) :
    follow readEvent (.reading closed none) [.contentBlockStart closed.length block] =
      some (.reading closed (some (block, []))) := by
  simp [follow_cons, readEvent, ClaudeEvent.mark, advance]

theorem read_stop (closed : List ClaudeBlock) (block : ClaudeBlock) (canonicalIndex : Option Nat) :
    follow readEvent (.reading closed (some block))
      [.contentBlockStop closed.length canonicalIndex] =
      some (.reading (closed ++ [block]) none) := by
  simp [follow_cons, readEvent, ClaudeEvent.mark, advance]

theorem read_deltas (closed : List ClaudeBlock) (deltas : List BlockDelta)
    (fits : ∀ delta ∈ deltas, block.fits delta) : ∀ pieces,
    follow readEvent (.reading closed (some (block, pieces)))
      (deltas.map (.contentBlockDelta closed.length)) =
        some (.reading closed (some (block, pieces ++ deltas))) := by
  induction deltas with
  | nil => simp
  | cons delta rest ih =>
    intro pieces
    have this := fits delta mem_cons_self
    rw [map_cons, follow_cons]
    simp only [readEvent, ClaudeEvent.mark, advance, this, and_self, if_true, bind_some]
    rw [ih (fun other member => fits other (mem_cons_of_mem _ member))]
    simp

/-! ## Handlers -/

variable {Where : ClaudeClientEmitter → Prop}

theorem InMessage.within {Before reader}
    (inside : InMessage events Before state reader) (holds : Where state) :
    InMessage events Where state reader := by
  obtain ⟨closed, current, rfl, reading, -⟩ := inside
  exact ⟨closed, current, rfl, reading, holds⟩

theorem Reading.started (reading : Reading events state closed current) :
    ensureStarted state = ([], state) := by
  simp only [ensureStarted, reading.running, if_true]

theorem ensureStarted_leads (keeps : ∀ state, Where state → Where { state with started := true }) :
    Leads readEvent (Ready events Where) (InMessage events Where) ensureStarted := by
  rintro state reader (⟨⟨rfl, idle, unfinished, ⟨fresh, zero⟩, calls⟩, holds⟩ |
    ⟨closed, current, rfl, reading, holds⟩)
  · refine ⟨.reading [] none, by simp [ensureStarted, idle, follow_cons, readEvent,
      ClaudeEvent.mark, advance], [], none, rfl, ?_, ?_⟩
    · simp only [ensureStarted, idle, Bool.false_eq_true, if_false]
      exact ⟨rfl, unfinished, ⟨fresh, zero⟩, calls.same rfl rfl⟩
    · simp only [ensureStarted, idle, Bool.false_eq_true, if_false]
      exact keeps state holds
  · rw [reading.started]
    exact ⟨_, rfl, closed, current, rfl, reading, holds⟩

theorem Reading.inBlock {opened} (reading : Reading events state closed current)
    (isOpen : state.openBlock = some opened) : ∃ block pieces, current = some (block, pieces) ∧
      state.nextBlockIndex = closed.length + 1 ∧ Names state closed block opened := by
  have agrees := reading.agrees
  cases current with
  | none =>
    rw [Agrees, isOpen] at agrees
    cases agrees.1
  | some block =>
    obtain ⟨block, pieces⟩ := block
    obtain ⟨next, other, same, names⟩ := agrees
    obtain rfl : other = opened := some.inj (same.symm.trans isOpen)
    exact ⟨block, pieces, rfl, next, names⟩

theorem Reading.nothing (reading : Reading events state closed current)
    (isClosed : state.openBlock = none) :
    current = none ∧ state.nextBlockIndex = closed.length := by
  have agrees := reading.agrees
  cases current with
  | none => exact ⟨rfl, agrees.2⟩
  | some block => simp [Agrees, isClosed] at agrees

theorem Reading.callsClosed (reading : Reading events state closed none) :
    Calls events state closed := by
  simpa using reading.calls

def index : ClaudeOpenBlock → Nat
  | .text index | .thinking index | .tool _ index => index

theorem Names.index_eq {opened}
    (names : Names state closed block opened) : index opened = closed.length := by
  cases opened <;> exact names.1

theorem stopBlock_leads (opened : ClaudeOpenBlock) :
    Leads readEvent (InMessage events fun state => state.openBlock = some opened)
      (InMessage events Closed) (stopBlock (index opened)) := by
  rintro state reader ⟨closed, current, rfl, reading, isOpen⟩
  obtain ⟨block, pieces, rfl, next, names⟩ := reading.inBlock isOpen
  rw [names.index_eq]
  refine ⟨_, read_stop closed (block, pieces) none, closed ++ [(block, pieces)], none, rfl,
    ⟨reading.running, reading.unfinished, ⟨rfl, ?_⟩, ?_⟩, rfl⟩
  · simp [stopBlock, next]
  · rw [toList_none, append_nil]
    exact reading.calls.same rfl rfl

variable {toolIndex : Nat}

variable {tool : ClaudeClientToolState}

theorem tools_insert {tools written}
    (entered : tools.get? toolIndex = some tool) (sameId : written.callId = tool.callId)
    (sameName : written.name = tool.name) (index : Nat) (callId name : String)
    (known : Entered tools index callId name) :
    Entered (tools.insert toolIndex written) index callId name := by
  obtain ⟨buffered, found⟩ := known
  rw [Entered, get?_insert]
  split_ifs with same
  · rw [same, entered] at found
    obtain rfl := some.inj found
    cases sameId
    cases sameName
    exact ⟨_, rfl⟩
  · exact ⟨buffered, found⟩

theorem Calls.owner (calls : Calls events state blocks) {toolIndex index}
    {callId name} (entered : state.toolStates.get? toolIndex = some tool)
    (mine : state.toolBlockIndices.get? toolIndex = some blockIndex)
    (start : .toolCallStart index callId name ∈ events)
    (found : state.toolBlockIndices.get? index = some blockIndex) :
    index = toolIndex ∧ name = tool.name := by
  obtain rfl := calls.apart index toolIndex blockIndex found mine
  obtain ⟨buffered, known⟩ := (calls.called index callId name start).tool
  rw [entered] at known
  exact ⟨rfl, (congrArg ClaudeClientToolState.name (some.inj known)).symm⟩

theorem flushArguments_leads {toolIndex} : Leads readEvent
      (InMessage events fun state => state.openBlock = some (.tool toolIndex blockIndex))
      (InMessage events fun state => state.openBlock = some (.tool toolIndex blockIndex))
      (flushArguments toolIndex blockIndex) := by
  rintro state reader ⟨closed, current, rfl, reading, isOpen⟩
  obtain ⟨block, pieces, rfl, next, rfl, mine, id, name, rfl⟩ := reading.inBlock isOpen
  unfold flushArguments
  split
  case h_1 => exact ⟨_, rfl, closed, _, rfl, reading, isOpen⟩
  case h_2 tool entered =>
    dsimp only
    split
    case isFalse => exact ⟨_, rfl, closed, _, rfl, reading, isOpen⟩
    case isTrue held =>
      generalize removeEmptyPagesFromToolArguments tool.name tool.bufferedArguments = arguments
      let deltas : List BlockDelta := if arguments ≠ "" then [.inputJson arguments] else []
      have emitted : (if arguments ≠ "" then
          [ClaudeEvent.contentBlockDelta closed.length (.inputJson arguments)] else []) =
            deltas.map (.contentBlockDelta closed.length) := by
        simp only [deltas]
        split_ifs <;> rfl
      have fits : ∀ delta ∈ deltas, (ContentBlock.toolUse id name).fits delta := by
        intro delta member
        simp only [deltas] at member
        split_ifs at member
        · rw [mem_singleton.mp member]
          rfl
        · cases member
      have calls : Calls events { state with
          toolStates := state.toolStates.insert toolIndex { tool with bufferedArguments := "" } }
          (closed ++ [(.toolUse id name, pieces ++ deltas)]) :=
        reading.calls.deltas deltas .refl rfl (tools_insert entered rfl rfl) (fun _ _ => rfl)
          -- the block is that of a `Read` call, whose input is not counted
          (fun index callId name start found _ named =>
            absurd ((reading.calls.owner entered mine start found).2.trans held.1) named)
      rw [emitted]
      exact ⟨_, read_deltas closed deltas fits pieces, closed, _, rfl, ⟨reading.running,
        reading.unfinished, ⟨next, _, isOpen, rfl, mine, id, name, rfl⟩, calls⟩, isOpen⟩

theorem closeOpenBlock_closes :
    Leads readEvent (InMessage events fun _ => True) (InMessage events Closed) closeOpenBlock := by
  rintro state reader ⟨closed, current, rfl, reading, -⟩
  cases isOpen : state.openBlock with
  | none =>
    obtain ⟨rfl, -⟩ := reading.nothing isOpen
    simp only [closeOpenBlock, isOpen]
    exact ⟨_, rfl, closed, none, rfl, reading, isOpen⟩
  | some opened =>
    have here : InMessage events (fun state => state.openBlock = some opened) state
        (.reading closed current) := ⟨closed, current, rfl, reading, isOpen⟩
    cases opened with
    | text blockIndex =>
      simp only [closeOpenBlock, isOpen]
      exact stopBlock_leads (.text blockIndex) state _ here
    | thinking blockIndex =>
      simp only [closeOpenBlock, isOpen]
      exact stopBlock_leads (.thinking blockIndex) state _ here
    | tool toolIndex blockIndex =>
      simp only [closeOpenBlock, isOpen]
      exact flushArguments_leads.andThen (stopBlock_leads (.tool toolIndex blockIndex)) state _
        here

theorem closeOpenBlock_leads (keeps : ∀ state, Where state → Where (closeOpenBlock state).2) :
    Leads readEvent (InMessage events Where)
      (InMessage events fun state => Closed state ∧ Where state) closeOpenBlock := by
  rintro state reader ⟨closed, current, rfl, reading, holds⟩
  obtain ⟨reader, follows, rest, last, rfl, after, isClosed⟩ :=
    closeOpenBlock_closes state _ ⟨closed, current, rfl, reading, trivial⟩
  exact ⟨_, follows, rest, last, rfl, after, isClosed, keeps state holds⟩

theorem startBlock_leads (block : ContentBlock) (opened : Nat → ClaudeOpenBlock)
    (named : ∀ state closed, Names state closed block (opened closed.length)) :
    Leads readEvent (InMessage events Closed)
      (InMessage events fun state => ∃ index, state.openBlock = some (opened index))
      (startBlock block opened) := by
  rintro state reader ⟨closed, current, rfl, reading, isClosed⟩
  obtain ⟨rfl, next⟩ := reading.nothing isClosed
  simp only [startBlock, next]
  refine ⟨_, read_start closed block, closed, some (block, []), rfl, ⟨reading.running,
    reading.unfinished, ⟨rfl, _, rfl, named _ closed⟩, ?_⟩, _, rfl⟩
  exact reading.callsClosed.grow [(block, [])] rfl rfl

theorem ensureTextBlock_leads :
    Leads readEvent (InMessage events fun _ => True) (InMessage events InText) ensureTextBlock := by
  intro state reader here
  unfold ensureTextBlock
  split
  case h_1 index isOpen => exact ⟨_, rfl, here.within ⟨index, isOpen⟩⟩
  case h_2 =>
    exact closeOpenBlock_closes.andThen
      (startBlock_leads (.text "") .text fun _ _ => ⟨rfl, "", rfl⟩) state reader here

theorem ensureThinkingBlock_leads :
    Leads readEvent (InMessage events fun _ => True) (InMessage events InThinking)
      ensureThinkingBlock := by
  intro state reader here
  unfold ensureThinkingBlock
  split
  case h_1 index isOpen => exact ⟨_, rfl, here.within ⟨index, isOpen⟩⟩
  case h_2 =>
    exact closeOpenBlock_closes.andThen
      (startBlock_leads .thinking .thinking fun _ _ => ⟨rfl, rfl⟩) state reader here

theorem wholeBlock_leads (block : ContentBlock) (canonicalIndex : Option Nat) :
    Leads readEvent (InMessage events Closed) (InMessage events Closed)
      (wholeBlock block canonicalIndex) := by
  rintro state reader ⟨closed, current, rfl, reading, isClosed⟩
  obtain ⟨rfl, next⟩ := reading.nothing isClosed
  refine ⟨.reading (closed ++ [(block, [])]) none, ?_, closed ++ [(block, [])], none, rfl,
    ⟨reading.running, reading.unfinished, ⟨isClosed, by simp [wholeBlock, next]⟩, ?_⟩, isClosed⟩
  · rw [wholeBlock, next, ← singleton_append, follow_append, read_start, bind_some, read_stop]
  · rw [toList_none, append_nil]
    exact reading.callsClosed.grow [(block, [])] rfl rfl

theorem emitDeltas_leads {opened : Nat → ClaudeOpenBlock} {kind}
    {deltas} (read : ∀ place, kind (opened place) = some place)
    (placed : ∀ place, index (opened place) = place)
    (plain : ∀ state closed block place, Names state closed block (opened place) →
      (∀ id name, block ≠ .toolUse id name) ∧ ∀ delta ∈ deltas, block.fits delta) : Leads readEvent
      (InMessage events fun state => ∃ place, state.openBlock = some (opened place))
      (InMessage events fun state => ∃ place, state.openBlock = some (opened place))
      (emitDeltas kind deltas) := by
  rintro state reader ⟨closed, current, rfl, reading, place, isOpen⟩
  obtain ⟨block, pieces, rfl, next, names⟩ := reading.inBlock isOpen
  obtain ⟨noTool, fits⟩ := plain _ _ _ _ names
  obtain rfl : place = closed.length := (placed place).symm.trans names.index_eq
  have calls : Calls events state (closed ++ [(block, pieces ++ deltas)]) :=
    reading.calls.deltas deltas .refl rfl (fun _ _ _ known => known) (fun _ _ => rfl)
      (fun _ callId name _ _ tool _ => absurd tool (noTool callId name))
  simp only [emitDeltas, isOpen, bind_some, read]
  exact ⟨_, read_deltas closed deltas fits pieces, closed, _, rfl,
    ⟨reading.running, reading.unfinished, ⟨next, _, isOpen, names⟩, calls⟩, _, isOpen⟩

theorem textDeltas_leads {deltas : List BlockDelta}
    (fits : ∀ delta ∈ deltas, ∀ text, (ContentBlock.text text).fits delta) :
    Leads readEvent (InMessage events InText) (InMessage events InText)
      (emitDeltas textIndex deltas) := by
  refine emitDeltas_leads (fun _ => rfl) (fun _ => rfl) ?_
  rintro _ _ block _ ⟨-, text, rfl⟩
  exact ⟨fun id name => by simp, fun delta member => fits delta member text⟩

theorem thinkingDeltas_leads {deltas : List BlockDelta}
    (fits : ∀ delta ∈ deltas, ContentBlock.thinking.fits delta) :
    Leads readEvent (InMessage events InThinking) (InMessage events InThinking)
      (emitDeltas thinkingIndex deltas) := by
  refine emitDeltas_leads (fun _ => rfl) (fun _ => rfl) ?_
  rintro _ _ block _ ⟨-, rfl⟩
  exact ⟨fun id name => by simp, fits⟩

/-! ## Tool calls -/

def Unannounced (events : List CanonicalStreamEvent) (toolIndex : Nat) : Prop :=
  ∀ event ∈ events, ¬ event.announces toolIndex

theorem Calls.noBlock (calls : Calls events state blocks)
    (unannounced : Unannounced events toolIndex) :
    state.toolBlockIndices.get? toolIndex = none := by
  by_contra present
  obtain ⟨event, member, announces⟩ := calls.onlyThese toolIndex present
  exact unannounced event member announces

theorem announced_start (announced : ∃ event ∈ events, event.announces toolIndex) :
    ∃ callId name, .toolCallStart toolIndex callId name ∈ events := by
  obtain ⟨event, member, announces⟩ := announced
  cases event with
  | toolCallStart index callId name =>
    obtain rfl : index = toolIndex := of_decide_eq_true announces
    exact ⟨callId, name, member⟩
  | _ => simp [CanonicalStreamEvent.announces] at announces

theorem Calls.inBounds (calls : Calls events state blocks) {toolIndex}
    (found : state.toolBlockIndices.get? toolIndex = some blockIndex) :
    blockIndex < blocks.length := by
  obtain ⟨callId, name, start⟩ := announced_start (calls.onlyThese toolIndex (by simp [found]))
  obtain ⟨-, other, pieces, known, present, -⟩ := calls.called toolIndex callId name start
  obtain rfl : other = blockIndex := some.inj (known.symm.trans found)
  exact (List.getElem?_eq_some_iff.mp present).1

theorem startToolCall_leads (callId name : String) (unannounced : Unannounced events toolIndex) :
    Leads readEvent (InMessage events fun _ => True)
      (InMessage events (Pending toolIndex callId name)) (startToolCall toolIndex callId name) := by
  rintro state reader ⟨closed, current, rfl, reading, -⟩
  refine ⟨_, rfl, closed, current, rfl, ⟨reading.running, reading.unfinished, ?_, ?_⟩, ?_⟩
  · exact reading.agrees
  · refine reading.calls.carry .refl rfl ?_
    rintro index callId name start ⟨⟨buffered, known⟩, block⟩
    have other : index ≠ toolIndex := by
      rintro rfl
      exact unannounced _ start (by simp [CanonicalStreamEvent.announces])
    exact ⟨⟨buffered, (get?_insert_of_ne _ _ other).trans known⟩, block⟩
  · exact ⟨⟨_, get?_insert_self _ _ _⟩, reading.calls.noBlock unannounced⟩

theorem closeOpenBlock_pending {callId name}
    (state : ClaudeClientEmitter) (pending : Pending toolIndex callId name state) :
    Pending toolIndex callId name (closeOpenBlock state).2 := by
  unfold closeOpenBlock
  split
  case h_1 => exact pending
  case h_2 => exact pending
  case h_3 => exact pending
  case h_4 other blockIndex isOpen =>
    simp only [Handler.andThen, stopBlock, flushArguments]
    split
    case h_1 => exact pending
    case h_2 tool entered =>
      split
      case isTrue => exact ⟨tools_insert entered (by rfl) (by rfl) _ _ _ pending.1, pending.2⟩
      case isFalse => exact pending

theorem openToolBlock_leads (callId name : String) (unannounced : Unannounced events toolIndex) :
    Leads readEvent
      (InMessage events fun state => Closed state ∧ Pending toolIndex callId name state)
      (InMessage (events ++ [.toolCallStart toolIndex callId name]) (InTool toolIndex))
      (openToolBlock toolIndex callId name) := by
  rintro state reader ⟨closed, current, rfl, reading, isClosed, ⟨entered, noBlock⟩⟩
  obtain ⟨rfl, next⟩ := reading.nothing isClosed
  have calls := reading.callsClosed
  simp only [openToolBlock, noBlock, next]
  refine ⟨_, read_start closed (.toolUse callId name), closed, some (.toolUse callId name, []), rfl,
    ⟨reading.running, reading.unfinished, ⟨rfl, _, rfl, rfl, ?_, callId, name, rfl⟩, ?_⟩, _, rfl⟩
  · exact get?_insert_self _ _ _
  have arguments : ∀ index, argumentsOf index (events ++ [.toolCallStart toolIndex callId name]) =
      argumentsOf index events := by
    intro index
    rw [argumentsOf_snoc]
    exact String.append_empty
  constructor
  case called =>
    intro index id title member
    rw [arguments]
    rcases mem_append.mp member with earlier | last
    · obtain ⟨tool, blockIndex, pieces, found, block, json⟩ := calls.called index id title earlier
      have other : index ≠ toolIndex := by
        rintro rfl
        rw [noBlock] at found
        cases found
      exact ⟨tool, blockIndex, pieces, (get?_insert_of_ne _ _ other).trans found,
        getElem?_grown _ block, json⟩
    · simp only [mem_singleton, CanonicalStreamEvent.toolCallStart.injEq] at last
      obtain ⟨rfl, rfl, rfl⟩ := last
      refine ⟨entered, closed.length, [], get?_insert_self _ _ _, by simp, fun _ => ?_⟩
      rw [calls.silent index unannounced]
      rfl
  case onlyThese =>
    intro index present
    by_cases same : index = toolIndex
    · exact ⟨_, mem_append_right _ (mem_singleton_self _),
        by simp [CanonicalStreamEvent.announces, same]⟩
    · change (state.toolBlockIndices.insert toolIndex closed.length).get? index ≠ none at present
      rw [get?_insert_of_ne _ _ same] at present
      obtain ⟨event, member, announces⟩ := calls.onlyThese index present
      exact ⟨event, mem_append_left _ member, announces⟩
  case silent =>
    intro index none
    rw [arguments]
    exact calls.silent index fun event member => none event (mem_append_left _ member)
  case apart =>
    -- the new index is past the end, so no other call has it
    have fresh : ∀ index blockIndex, index ≠ toolIndex →
        (state.toolBlockIndices.insert toolIndex closed.length).get? index = some blockIndex →
        state.toolBlockIndices.get? index = some blockIndex ∧ blockIndex ≠ closed.length := by
      intro index blockIndex other found
      rw [get?_insert_of_ne _ _ other] at found
      exact ⟨found, (calls.inBounds found).ne⟩
    have own : ∀ blockIndex,
        (state.toolBlockIndices.insert toolIndex closed.length).get? toolIndex = some blockIndex →
        closed.length = blockIndex := by
      intro blockIndex found
      exact some.inj ((get?_insert_self _ _ _).symm.trans found)
    intro left right blockIndex atLeft atRight
    by_cases isLeft : left = toolIndex <;> by_cases isRight : right = toolIndex
    · exact isLeft.trans isRight.symm
    · subst isLeft
      exact absurd (own _ atLeft).symm (fresh right _ isRight atRight).2
    · subst isRight
      exact absurd (own _ atRight).symm (fresh left _ isLeft atLeft).2
    · exact calls.apart _ _ _ (fresh left _ isLeft atLeft).1 (fresh right _ isRight atRight).1

variable {reader : ClaudeReader}

theorem InMessage.neutral (neutral : Neutral event) (inside : InMessage events Where state reader) :
    InMessage (events ++ [event]) Where state reader := by
  obtain ⟨closed, current, rfl, reading, holds⟩ := inside
  exact ⟨closed, current, rfl,
    ⟨reading.running, reading.unfinished, reading.agrees, reading.calls.neutral neutral⟩, holds⟩

theorem Waiting.neutral (neutral : Neutral event) (waiting : Waiting events state reader) :
    Waiting (events ++ [event]) state reader :=
  ⟨waiting.reader, waiting.idle, waiting.unfinished, waiting.fresh, waiting.calls.neutral neutral⟩

def focusOf : Option ClaudeOpenBlock → Option Nat
  | some (.tool toolIndex _) => some toolIndex
  | _ => none

theorem focusOf_tool {opened} (focused : focusOf opened = some toolIndex) :
    ∃ blockIndex, opened = some (.tool toolIndex blockIndex) := by
  unfold focusOf at focused
  split at focused
  case h_1 other blockIndex =>
    obtain rfl := some.inj focused
    exact ⟨blockIndex, rfl⟩
  case h_2 => cases focused

theorem isOpenTool_elsewhere {opened} (elsewhere : focusOf opened ≠ some toolIndex) :
    isOpenTool toolIndex opened = false := by
  unfold isOpenTool
  split
  case h_1 other blockIndex =>
    refine decide_eq_false ?_
    rintro rfl
    exact elsewhere rfl
  case h_2 => rfl

theorem toolStart_leads (callId name : String) (unannounced : Unannounced events toolIndex) :
    Leads readEvent (Ready events fun _ => True)
      (InMessage (events ++ [.toolCallStart toolIndex callId name]) (InTool toolIndex))
      (ensureStarted.andThen ((startToolCall toolIndex callId name).andThen
        (ensureToolBlock toolIndex callId name))) := by
  refine (ensureStarted_leads fun _ _ => trivial).andThen
    ((startToolCall_leads callId name unannounced).andThen ?_)
  intro state reader inside
  have closes := (closeOpenBlock_leads closeOpenBlock_pending).andThen
    (openToolBlock_leads callId name unannounced)
  obtain ⟨closed, current, rfl, reading, pending⟩ := inside
  have notOpen : isOpenTool toolIndex state.openBlock = false := by
    refine isOpenTool_elsewhere fun here => ?_
    obtain ⟨blockIndex, isOpen⟩ := focusOf_tool here
    obtain ⟨-, -, -, -, -, mine, -⟩ := reading.inBlock isOpen
    exact absurd (mine.symm.trans pending.2) (by simp)
  simp only [ensureToolBlock, notOpen, Bool.false_eq_true, if_false]
  exact closes state _ ⟨closed, current, rfl, reading, pending⟩

theorem enterTool_known (entered : state.toolStates.get? toolIndex = some tool) :
    enterTool toolIndex state = (tool, state) := by
  simp only [enterTool, entered, getD_some, insert_present _ entered]

theorem Reading.arguments {toolIndex arguments pieces}
    (deltas : List BlockDelta) (reading : Reading events state closed (some (block, pieces)))
    (isOpen : state.openBlock = some (.tool toolIndex blockIndex))
    (announced : ∃ event ∈ events, event.announces toolIndex)
    (same : next = { state with toolStates := next.toolStates })
    (tools : ∀ index callId name, Entered state.toolStates index callId name →
      Entered next.toolStates index callId name)
    (written : ∀ callId name, .toolCallStart toolIndex callId name ∈ events → name ≠ "Read" →
      jsonOf deltas = arguments) :
    Reading (events ++ [.toolCallArgumentsDelta toolIndex arguments]) next closed
      (some (block, pieces ++ deltas)) := by
  obtain ⟨_, _, found, following, names⟩ := reading.inBlock isOpen
  obtain ⟨rfl, rfl⟩ := Prod.mk.inj (some.inj found)
  obtain ⟨rfl, mine, isTool⟩ := names
  have piece : ∀ index, argumentsOf index
    (events ++ [.toolCallArgumentsDelta toolIndex arguments]) =
      argumentsOf index events ++ if toolIndex = index then arguments else "" :=
    fun index => argumentsOf_snoc index events _
  have others : ∀ index, index ≠ toolIndex →
      argumentsOf index (events ++ [.toolCallArgumentsDelta toolIndex arguments]) =
        argumentsOf index events := by
    intro index other
    rw [piece, if_neg (Ne.symm other), String.append_empty]
  have sameIndices : next.toolBlockIndices = state.toolBlockIndices := by rw [same]
  refine ⟨by rw [same]; exact reading.running, by rw [same]; exact reading.unfinished, ?_, ?_⟩
  · rw [same]
    exact ⟨following, _, isOpen, rfl, mine, isTool⟩
  · refine reading.calls.deltas deltas ⟨?_, fun _ member => mem_append_left _ member, ?_⟩
      sameIndices tools ?_ ?_
    · intro index callId name member
      simpa using member
    · intro index unannounced
      refine others index ?_
      rintro rfl
      obtain ⟨event, member, announces⟩ := announced
      exact unannounced event member announces
    · intro index elsewhere
      refine others index ?_
      rintro rfl
      exact elsewhere mine
    · intro index callId name start found _ named
      obtain rfl := reading.calls.apart _ _ _ found mine
      rw [piece, if_pos rfl, written callId name start named]

theorem emitArguments_leads {arguments} (nonempty : arguments ≠ "")
    (announced : ∃ event ∈ events, event.announces toolIndex) :
    Leads readEvent (InMessage events (InTool toolIndex))
      (InMessage (events ++ [.toolCallArgumentsDelta toolIndex arguments]) (InTool toolIndex))
      (emitArguments toolIndex arguments) := by
  rintro state reader ⟨closed, current, rfl, reading, blockIndex, isOpen⟩
  obtain ⟨block, pieces, rfl, -, names⟩ := reading.inBlock isOpen
  obtain ⟨rfl, -, id, title, rfl⟩ := names
  obtain ⟨callId, name, start⟩ := announced_start announced
  obtain ⟨buffered, entered⟩ := (reading.calls.called toolIndex callId name start).tool
  have sameName : ∀ otherId other, .toolCallStart toolIndex otherId other ∈ events →
      other = name := by
    intro otherId other member
    obtain ⟨_, known⟩ := (reading.calls.called toolIndex otherId other member).tool
    exact (ClaudeClientToolState.mk.inj (some.inj (known.symm.trans entered))).2.1
  have skipBlock : ∀ callId name, ensureToolBlock toolIndex callId name state = ([], state) := by
    intro callId name
    simp [ensureToolBlock, isOpenTool, isOpen]
  simp only [emitArguments, enterTool_known entered, nonempty, if_false, Handler.andThen, reading.started,
    skipBlock, nil_append]
  by_cases isRead : name = "Read"
  · -- the arguments wait in the state, and the reader sees nothing
    subst isRead
    have tools : ∀ index callId name, Entered state.toolStates index callId name →
        Entered (bufferArguments toolIndex arguments state).2.toolStates index callId name := by
      simp only [bufferArguments, entered, getD_some]
      exact tools_insert entered (by rfl) (by rfl)
    have after : Reading (events ++ [.toolCallArgumentsDelta toolIndex arguments])
        (bufferArguments toolIndex arguments state).2 closed
        (some (.toolUse id title, pieces ++ [])) :=
      reading.arguments [] isOpen announced rfl tools fun otherId other member named =>
        absurd (sameName otherId other member) named
    exact ⟨_, rfl, closed, _, rfl, by simpa using after, _, isOpen⟩
  · have notRead : (if name = "" then "unknown" else name) ≠ "Read" := by
      split_ifs
      · decide
      · exact isRead
    have after : Reading (events ++ [.toolCallArgumentsDelta toolIndex arguments]) state closed
        (some (.toolUse id title, pieces ++ [.inputJson arguments])) :=
      reading.arguments [.inputJson arguments] isOpen announced rfl (fun _ _ _ known => known)
        fun _ _ _ _ => by simp [jsonOf, String.join, BlockDelta.json]
    have fits : ∀ delta ∈ [BlockDelta.inputJson arguments],
        (ContentBlock.toolUse id title).fits delta := by
      simp [ContentBlock.fits]
    simp only [notRead, if_false, emitDeltas, isOpen, bind_some, toolBlockIndex]
    exact ⟨_, read_deltas closed _ fits pieces, closed, _, rfl, after, _, isOpen⟩

/-! ## One frame -/

theorem focus_snoc (event : CanonicalStreamEvent) :
    focus (events ++ [event]) = focusStep (focus events) event := by
  rw [focus, foldl_append]
  rfl

/-- Where emitter and reader stand after these frames. -/
structure Tied (events : List CanonicalStreamEvent) (state : ClaudeClientEmitter)
    (reader : ClaudeReader) : Prop where
  focused : focus events = focusOf state.openBlock
  stands : (Waiting events state reader ∧ ∀ event ∈ events, ¬ event.begins) ∨
    (InMessage events (fun _ => True) state reader ∧ ∃ event ∈ events, event.begins)

/-- The frame is emitted, and the reader follows. -/
def Goes (events : List CanonicalStreamEvent) (event : CanonicalStreamEvent)
    (state : ClaudeClientEmitter) (reader : ClaudeReader) : Prop :=
  ∃ emitted next after, emitEvent event state = .ok (emitted, next) ∧
    follow readEvent reader emitted = some after ∧ Tied (events ++ [event]) next after

section Frame

variable {reader : ClaudeReader} {event : CanonicalStreamEvent}

theorem Tied.ready (tied : Tied events state reader) : Ready events (fun _ => True) state reader :=
  tied.stands.imp (fun waiting => ⟨waiting.1, trivial⟩) And.left

variable {Where : ClaudeClientEmitter → Prop} {handler : Handler}

theorem goes_of_leads {Before}
    (leads : Leads readEvent Before (InMessage (events ++ [event]) Where) handler)
    (before : Before state reader) (emits : emitEvent event state = .ok (handler state))
    (begun : ∃ earlier ∈ events ++ [event], earlier.begins)
    (focused : ∀ state, Where state → focusStep (focus events) event = focusOf state.openBlock) :
    Goes events event state reader := by
  obtain ⟨after, follows, closed, current, rfl, reading, holds⟩ := leads state reader before
  refine ⟨_, _, _, emits, follows, ?_, .inr ⟨⟨closed, current, rfl, reading, trivial⟩, begun⟩⟩
  rw [focus_snoc]
  exact focused _ holds

theorem Tied.quiet (tied : Tied events state reader) (neutral : Neutral event)
    (emits : emitEvent event state = .ok ([], state))
    (stays : focusStep (focus events) event = focus events) (begins : ¬ event.begins) :
    Goes events event state reader := by
  refine ⟨_, _, reader, emits, rfl, ?_, ?_⟩
  · rw [focus_snoc, stays]
    exact tied.focused
  · refine tied.stands.imp ?_ ?_
    · rintro ⟨waiting, none⟩
      refine ⟨waiting.neutral neutral, fun earlier member => ?_⟩
      rcases mem_append.mp member with old | last
      · exact none earlier old
      · rw [mem_singleton.mp last]
        exact begins
    · rintro ⟨inside, earlier, member, begins⟩
      exact ⟨inside.neutral neutral, earlier, mem_append_left _ member, begins⟩

theorem leads_neutral {Before} (neutral : Neutral event)
    (leads : Leads readEvent Before (InMessage events Where) handler) :
    Leads readEvent Before (InMessage (events ++ [event]) Where) handler := by
  intro state reader before
  obtain ⟨after, follows, inside⟩ := leads state reader before
  exact ⟨after, follows, inside.neutral neutral⟩

theorem Tied.opens (tied : Tied events state reader) (neutral : Neutral event)
    (leads : Leads readEvent (Ready events fun _ => True) (InMessage events Where) handler)
    (emits : emitEvent event state = .ok (handler state)) (begins : event.begins)
    (focused : ∀ state, Where state → focusStep (focus events) event = focusOf state.openBlock) :
    Goes events event state reader :=
  goes_of_leads (leads_neutral neutral leads) tied.ready emits
    ⟨event, mem_append_right _ (mem_singleton_self _), begins⟩ focused

theorem InText.focus (inText : InText state) : none = focusOf state.openBlock := by
  obtain ⟨index, isOpen⟩ := inText
  rw [isOpen]
  rfl

theorem InThinking.focus (inThinking : InThinking state) : none = focusOf state.openBlock := by
  obtain ⟨index, isOpen⟩ := inThinking
  rw [isOpen]
  rfl

theorem Closed.focus (isClosed : Closed state) : none = focusOf state.openBlock := by
  rw [isClosed]
  rfl

theorem started_leads : Leads readEvent (Ready events fun _ => True)
    (InMessage events fun _ => True) ensureStarted :=
  ensureStarted_leads fun _ _ => trivial

theorem emitContentPart_leads (part : CanonicalContentPart) :
    Leads readEvent (Ready events fun _ => True) (InMessage events Closed) (emitContentPart part) :=
  started_leads.andThen (closeOpenBlock_closes.andThen (wholeBlock_leads _ _))

theorem Tied.calls (tied : Tied events state reader) : ∃ blocks, Calls events state blocks := by
  rcases tied.stands with ⟨waiting, -⟩ | ⟨⟨closed, current, -, reading, -⟩, -⟩
  · exact ⟨[], waiting.calls⟩
  · exact ⟨_, reading.calls⟩

variable {toolIndex : Nat}

theorem Tied.inMessage (tied : Tied events state reader)
    (announced : ∃ event ∈ events, event.announces toolIndex) :
    InMessage events (fun _ => True) state reader ∧ ∃ event ∈ events, event.begins := by
  rcases tied.stands with ⟨-, none⟩ | inside
  · obtain ⟨callId, name, start⟩ := announced_start announced
    exact absurd rfl (none _ start)
  · exact inside

theorem Tied.entered (tied : Tied events state reader)
    (announced : ∃ event ∈ events, event.announces toolIndex) :
    ∃ tool, state.toolStates.get? toolIndex = some tool := by
  obtain ⟨blocks, calls⟩ := tied.calls
  obtain ⟨callId, name, start⟩ := announced_start announced
  obtain ⟨buffered, entered⟩ := (calls.called toolIndex callId name start).tool
  exact ⟨_, entered⟩

section

variable (tied : Tied events state reader)
include tied

theorem Tied.arguments {arguments} (announced : ∃ event ∈ events, event.announces toolIndex)
    (placed : arguments = "" ∨ focus events = some toolIndex) :
    Goes events (.toolCallArgumentsDelta toolIndex arguments) state reader := by
  by_cases silent : arguments = ""
  · subst silent
    obtain ⟨tool, entered⟩ := tied.entered announced
    exact tied.quiet (fun _ => ⟨rfl, by simp [argumentPiece]⟩)
      (by simp [emitEvent, emitArguments, enterTool_known entered]) (by simp [focusStep])
      (by simp [CanonicalStreamEvent.begins])
  · have focused : focus events = some toolIndex := placed.resolve_left silent
    have isOpen : InTool toolIndex state := focusOf_tool (tied.focused.symm.trans focused)
    obtain ⟨⟨closed, current, rfl, reading, -⟩, earlier, member, begins⟩ := tied.inMessage announced
    refine goes_of_leads (emitArguments_leads silent announced)
      ⟨closed, current, rfl, reading, isOpen⟩ rfl
      ⟨earlier, mem_append_left _ member, begins⟩ ?_
    rintro after ⟨blockIndex, stillOpen⟩
    rw [stillOpen, focusStep, if_neg silent]
    rfl

theorem Tied.citations {citations}
    (placed : canonicalCitationsToClaudeCitations citations = [] ∨
      ∃ earlier ∈ events, earlier.begins) : Goes events (.citations citations) state reader := by
  by_cases nothing : canonicalCitationsToClaudeCitations citations = []
  · exact tied.quiet (fun _ => ⟨rfl, rfl⟩) (by simp [emitEvent, emitCitations, nothing])
      (by simp [focusStep, nothing]) (by simp [CanonicalStreamEvent.begins])
  · obtain ⟨earlier, member, begins⟩ := placed.resolve_left nothing
    rcases tied.stands with ⟨-, none⟩ | ⟨inside, -⟩
    · exact absurd begins (none earlier member)
    have fits : ∀ delta ∈ (canonicalCitationsToClaudeCitations citations).map BlockDelta.citations,
        ∀ text, (ContentBlock.text text).fits delta := by
      intro delta isOne text
      obtain ⟨citation, -, rfl⟩ := mem_map.mp isOne
      rfl
    refine goes_of_leads (leads_neutral (fun _ => ⟨rfl, rfl⟩)
      (ensureTextBlock_leads.andThen (textDeltas_leads fits))) inside
      (by simp [emitEvent, emitCitations, nothing])
      ⟨earlier, mem_append_left _ member, begins⟩ ?_
    intro after inText
    rw [focusStep, if_neg (by simpa using nothing)]
    exact inText.focus

theorem Tied.summaryDone : Goes events .reasoningSummaryDone state reader := by
  rcases tied.stands with ⟨waiting, -⟩ | ⟨inside, earlier, member, begins⟩
  · refine tied.quiet (fun _ => ⟨rfl, rfl⟩)
      (by simp [emitEvent, closeOpenBlock, waiting.fresh.1]) ?_
      (by simp [CanonicalStreamEvent.begins])
    rw [tied.focused, waiting.fresh.1]
    rfl
  · exact goes_of_leads (leads_neutral (fun _ => ⟨rfl, rfl⟩) closeOpenBlock_closes) inside rfl
      ⟨earlier, mem_append_left _ member, begins⟩ fun _ => Closed.focus

theorem Tied.step (more : ¬ event.isFinish) (announced : Announced events event)
    (placed : Placed events event) : Goes events event state reader := by
  cases event with
  | start =>
    have keeps : Leads readEvent (Ready events fun other => other.openBlock = state.openBlock)
        (InMessage events fun other => other.openBlock = state.openBlock) ensureStarted :=
      ensureStarted_leads fun _ same => same
    have ready : Ready events (fun other => other.openBlock = state.openBlock) state reader := by
      rcases tied.stands with ⟨waiting, -⟩ | ⟨⟨closed, current, rfl, reading, -⟩, -⟩
      · exact .inl ⟨waiting, rfl⟩
      · exact .inr ⟨closed, current, rfl, reading, rfl⟩
    refine goes_of_leads (leads_neutral (fun _ => ⟨rfl, rfl⟩) keeps) ready rfl
      ⟨.start, by simp, rfl⟩ fun other same => ?_
    rw [same]
    exact tied.focused
  | textDelta text =>
    exact tied.opens (fun _ => ⟨rfl, rfl⟩)
      (started_leads.andThen (ensureTextBlock_leads.andThen
        (textDeltas_leads (by simp [ContentBlock.fits])))) rfl rfl fun _ => InText.focus
  | reasoningDelta text | reasoningSignature signature =>
    exact tied.opens (fun _ => ⟨rfl, rfl⟩)
      (started_leads.andThen (ensureThinkingBlock_leads.andThen
        (thinkingDeltas_leads (by simp [ContentBlock.fits])))) rfl rfl fun _ => InThinking.focus
  | contentPart part =>
    exact tied.opens (fun _ => ⟨rfl, rfl⟩) (emitContentPart_leads part) rfl rfl
      fun _ => Closed.focus
  | toolResultDelta index toolUseId name content =>
    exact tied.opens (fun _ => ⟨rfl, rfl⟩)
      (started_leads.andThen (closeOpenBlock_closes.andThen (wholeBlock_leads _ _))) rfl rfl
      fun _ => Closed.focus
  | imageGenerationCall index item =>
    cases part : contentPartFromOpenaiImageGenerationItem item with
    | none =>
      exact tied.quiet (fun _ => ⟨rfl, rfl⟩) (by simp [emitEvent, part])
        (by simp [focusStep, part]) (by simp [CanonicalStreamEvent.begins, part])
    | some part' =>
      refine tied.opens (fun _ => ⟨rfl, rfl⟩) (emitContentPart_leads part')
        (by simp [emitEvent, part]) (by simp [CanonicalStreamEvent.begins, part]) ?_
      intro after isClosed
      simp only [focusStep, part, isSome_some, if_true]
      exact isClosed.focus
  | openAiResponsesOutputItem outputIndex item rawEvent => exact placed.elim
  | toolCallStart index callId name =>
    refine goes_of_leads (toolStart_leads callId name announced) tied.ready rfl
      ⟨_, mem_append_right _ (mem_singleton_self _), rfl⟩ ?_
    rintro after ⟨blockIndex, isOpen⟩
    rw [isOpen]
    rfl
  | toolCallSignature index signature | unknownEvent payload =>
    exact tied.quiet (fun _ => ⟨rfl, rfl⟩) rfl rfl (by simp [CanonicalStreamEvent.begins])
  | toolCallArgumentsDelta index arguments => exact tied.arguments announced placed
  | citations citations => exact tied.citations placed
  | finish reason usage => exact absurd rfl more
  | reasoningSummaryDone => exact tied.summaryDone

theorem Tied.strayArguments {arguments}
    (announced : ∃ event ∈ events, event.announces toolIndex) (nonempty : arguments ≠ "")
    (elsewhere : focus events ≠ some toolIndex) :
    follow readEvent reader (emitArguments toolIndex arguments state).1 = none := by
  obtain ⟨tool, entered⟩ := tied.entered announced
  obtain ⟨⟨closed, current, rfl, reading, -⟩, -⟩ := tied.inMessage announced
  obtain ⟨callId, name, start⟩ := announced_start announced
  have notOpen := isOpenTool_elsewhere (tied.focused ▸ elsewhere)
  obtain ⟨_, follows, rest, last, rfl, after, isClosed⟩ :=
    closeOpenBlock_closes state _ ⟨closed, current, rfl, reading, trivial⟩
  obtain ⟨rfl, -⟩ := after.nothing isClosed
  obtain ⟨-, blockIndex, pieces, found, -⟩ := after.calls.called toolIndex callId name start
  have used := after.callsClosed.inBounds found
  simp only [emitArguments, enterTool_known entered, nonempty, if_false, Handler.andThen, reading.started,
    ensureToolBlock, notOpen, Bool.false_eq_true, openToolBlock, found, nil_append,
    follow_append, follows, bind_some, follow_cons, readEvent, ClaudeEvent.mark,
    advance, used.ne, if_false, bind_none]

theorem Tied.earlyCitations {citations}
    (something : canonicalCitationsToClaudeCitations citations ≠ [])
    (early : ¬ ∃ earlier ∈ events, earlier.begins) :
    follow readEvent reader (emitCitations citations state).1 = none := by
  rcases tied.stands with ⟨waiting, -⟩ | ⟨-, begun⟩
  · simp [emitCitations, something, ensureTextBlock, closeOpenBlock, waiting.fresh.1,
      Handler.andThen,
      startBlock, follow_cons, readEvent, ClaudeEvent.mark, waiting.reader, advance]
  · exact absurd begun early

theorem Tied.misplaced (announced : Announced events event) (misplaced : ¬ Placed events event)
    {emitted} (emits : emitEvent event state = .ok (emitted, next)) :
    follow readEvent reader emitted = none := by
  cases event with
  | toolCallArgumentsDelta index arguments =>
    obtain ⟨nonempty, elsewhere⟩ := not_or.mp misplaced
    obtain rfl : (emitArguments index arguments state).1 = emitted :=
      congrArg Prod.fst (ok.inj emits)
    exact tied.strayArguments announced nonempty elsewhere
  | citations citations =>
    obtain ⟨something, early⟩ := not_or.mp misplaced
    obtain rfl : (emitCitations citations state).1 = emitted :=
      congrArg Prod.fst (ok.inj emits)
    exact tied.earlyCitations something early
  | openAiResponsesOutputItem outputIndex item rawEvent => cases emits
  | _ => exact absurd trivial misplaced

end

end Frame

/-! ## Whole streams -/

/-- The message of these frames was read to its end, and every tool call has its input. -/
def Delivered (events : List CanonicalStreamEvent) (state : ClaudeClientEmitter)
    (reader : ClaudeReader) : Prop :=
  ∃ content, reader = .done content ∧ ∀ index callId name,
    .toolCallStart index callId name ∈ events → name ≠ "Read" →
      ∃ blockIndex pieces, state.toolBlockIndices.get? index = some blockIndex ∧
        content[blockIndex]? = some (.toolUse callId name, pieces) ∧
        jsonOf pieces = argumentsOf index events

/-- The rest of the frames brings the reader to the end of the message. -/
def Completes (events : List CanonicalStreamEvent) (frames : List CanonicalStreamFrame)
    (state : ClaudeClientEmitter) (reader : ClaudeReader) : Prop :=
  ∃ emitted next after, emitAll frames state = .ok (emitted, next) ∧
    follow readEvent reader emitted = some after ∧ Delivered events next after

theorem completes_cons (frame : CanonicalStreamFrame) (rest : List CanonicalStreamFrame)
    (reader : ClaudeReader) : Completes events (frame :: rest) state reader ↔
      ∃ emitted next after, emit frame state = .ok (emitted, next) ∧
        follow readEvent reader emitted = some after ∧ Completes events rest next after := by
  constructor
  · rintro ⟨emitted, last, final, emits, follows, delivered⟩
    rw [emitAll] at emits
    cases first : emit frame state with
    | error error =>
      rw [first] at emits
      cases emits
    | ok pair =>
      obtain ⟨here, next⟩ := pair
      rw [first] at emits
      cases later : emitAll rest next with
      | error error => simp [later, bind, Except.bind] at emits
      | ok pair =>
        obtain ⟨there, end'⟩ := pair
        simp only [later, bind, Except.bind, pure, Except.pure, ok.injEq, Prod.mk.injEq] at emits
        obtain ⟨rfl, rfl⟩ := emits
        rw [follow_append] at follows
        obtain ⟨after, goes, goesOn⟩ := bind_eq_some_iff.mp follows
        exact ⟨here, next, after, rfl, goes, there, _, final, later, goesOn, delivered⟩
  · rintro ⟨here, next, after, first, goes, there, last, final, later, goesOn, delivered⟩
    refine ⟨here ++ there, last, final, ?_, ?_, delivered⟩
    · simp only [emitAll, first, later, bind, Except.bind, pure, Except.pure]
    · rw [follow_append, goes, bind_some, goesOn]

theorem Tied.identity (frame : CanonicalStreamFrame)
    (tied : Tied events state reader) : Tied events (updateIdentity frame state) reader := by
  refine ⟨tied.focused, tied.stands.imp ?_ ?_⟩
  · rintro ⟨waiting, none⟩
    exact ⟨⟨waiting.reader, waiting.idle, waiting.unfinished, waiting.fresh,
      waiting.calls.same rfl rfl⟩, none⟩
  · rintro ⟨⟨closed, current, rfl, reading, -⟩, begun⟩
    refine ⟨⟨closed, current, rfl, ⟨reading.running, reading.unfinished, ?_,
      reading.calls.same rfl rfl⟩, trivial⟩, begun⟩
    cases current with
    | none => exact reading.agrees
    | some block =>
      obtain ⟨next, opened, isOpen, names⟩ := reading.agrees
      refine ⟨next, opened, isOpen, ?_⟩
      cases opened <;> exact names

theorem endMessage_leads (reason : Option String) (usage : Option CanonicalUsage) :
    Leads readEvent (InMessage events Closed) (Delivered events) (endMessage reason usage) := by
  rintro state reader ⟨closed, current, rfl, reading, isClosed⟩
  obtain ⟨rfl, -⟩ := reading.nothing isClosed
  refine ⟨.done closed, by simp [endMessage, follow_cons, readEvent, ClaudeEvent.mark, advance],
    closed, rfl, fun index callId name start named => ?_⟩
  obtain ⟨-, blockIndex, pieces, found, block, json⟩ :=
    reading.callsClosed.called index callId name start
  exact ⟨blockIndex, pieces, found, block, json named⟩

theorem Tied.finish {frame} (tied : Tied events state reader) (last : frame.event.isFinish) :
    Completes (events ++ [frame.event]) [frame] state reader := by
  rw [completes_cons]
  have ready := (tied.identity frame).ready
  have open' : (updateIdentity frame state).finished = false := by
    rcases ready with ⟨waiting, _⟩ | ⟨_, _, _, reading, _⟩
    · exact waiting.unfinished
    · exact reading.unfinished
  cases same : frame.event with
  | finish reason usage =>
    obtain ⟨after, follows, content, rfl, delivered⟩ := started_leads.andThen
      (closeOpenBlock_closes.andThen (endMessage_leads reason usage)) _ _ ready
    have emits : emit frame state = .ok ((ensureStarted.andThen (closeOpenBlock.andThen
        (endMessage reason usage))) (updateIdentity frame state)) := by
      simp only [emit, same, emitEvent, emitFinish, open', Bool.false_eq_true, if_false]
    refine ⟨_, _, .done content, emits, follows, [], _, .done content, rfl, rfl, content, rfl, ?_⟩
    intro index callId name member named
    have start : .toolCallStart index callId name ∈ events := by simpa using member
    rw [argumentsOf_snoc]
    rw [show argumentPiece index (.finish reason usage) = "" from rfl, String.append_empty]
    exact delivered index callId name start named
  | _ => simp [same, CanonicalStreamEvent.isFinish] at last

def eventsOf (frames : List CanonicalStreamFrame) : List CanonicalStreamEvent :=
  frames.map CanonicalStreamFrame.event

/-- From any point of a stream: the rest completes the message exactly when each of its frames
finds the stream where it belongs. -/
theorem Tied.run {last} (ends : last.event.isFinish)
    (rest : List CanonicalStreamFrame) : ∀ {events state reader}, Tied events state reader →
    (∀ frame ∈ rest, ¬ frame.event.isFinish) →
    History.Each Announced (events ++ eventsOf rest) → History.Each Placed events →
    (Completes (events ++ eventsOf (rest ++ [last])) (rest ++ [last]) state reader ↔
      History.Each Placed (events ++ eventsOf rest)) := by
  induction rest with
  | nil =>
    intro events state reader tied _ _ placed
    exact iff_of_true (tied.finish ends) (by simpa [eventsOf] using placed)
  | cons frame rest ih =>
    intro events state reader tied more announced placed
    have identified := tied.identity frame
    have first : Announced events frame.event := announced events _ _ rfl
    rw [cons_append, completes_cons]
    by_cases here : Placed events frame.event
    · obtain ⟨emitted, next, after, emits, follows, goes⟩ :=
        identified.step (more frame mem_cons_self) first here
      simp only [eventsOf, map_cons] at announced ⊢
      rw [append_cons] at announced ⊢
      rw [append_cons events _ (rest.map _)]
      have goesOn := ih goes (fun other member => more other (mem_cons_of_mem _ member))
        announced ((History.each_snoc _).mpr ⟨placed, here⟩)
      rw [← eventsOf, ← eventsOf, ← goesOn]
      constructor
      · rintro ⟨others, end', view, same, reads, completes⟩
        obtain ⟨rfl, rfl⟩ := Prod.mk.inj (ok.inj (same.symm.trans emits))
        obtain rfl := some.inj (reads.symm.trans follows)
        exact completes
      · intro completes
        exact ⟨emitted, next, after, emits, follows, completes⟩
    · refine iff_of_false ?_ fun each => here (each events _ _ rfl)
      rintro ⟨emitted, next, after, emits, follows, -⟩
      rw [identified.misplaced first here emits] at follows
      cases follows

theorem tied_new : Tied [] new .waiting where
  focused := rfl
  stands := by
    refine .inl ⟨⟨rfl, rfl, rfl, ⟨rfl, rfl⟩, ?_⟩, by simp⟩
    exact ⟨by simp, fun index present => absurd rfl present, fun _ _ => rfl,
      fun _ _ _ found => by cases found⟩

/-- A stream of frames is a message to the client exactly when each argument frame finds the
block of its tool call open, citations come after the start of the message, and no frame
carries an item of another format. -/
theorem stream_completes_iff (body : List CanonicalStreamFrame) (last : CanonicalStreamFrame)
    (ends : last.event.isFinish) (more : ∀ frame ∈ body, ¬ frame.event.isFinish)
    (announced : History.Each Announced (eventsOf body)) :
    Completes (eventsOf (body ++ [last])) (body ++ [last]) new .waiting ↔
      History.Each Placed (eventsOf body) :=
  tied_new.run ends body more announced History.each_nil

/-! Two tool calls at once. The arguments of the first come when the second has been
announced, as a provider that streams parallel calls may send them. -/

def frameOf (event : CanonicalStreamEvent) : CanonicalStreamFrame := ⟨"msg_1", "model", event⟩

def weatherCalls : List CanonicalStreamFrame :=
  [.start, .textDelta "Looking", .toolCallStart 0 "call_a" "weather",
    .toolCallArgumentsDelta 0 "\x7b\"city\":", .toolCallArgumentsDelta 0 "\"Rome\"\x7d",
    .toolCallStart 1 "call_b" "weather", .toolCallArgumentsDelta 1 "\x7b\x7d"].map frameOf

def crossedCalls : List CanonicalStreamFrame :=
  [.toolCallStart 0 "call_a" "weather", .toolCallStart 1 "call_b" "weather",
    .toolCallArgumentsDelta 0 "\x7b\x7d"].map frameOf

def finishFrame : CanonicalStreamFrame := frameOf (.finish (some "tool_calls") none)

theorem weather_calls_complete :
    Completes (eventsOf (weatherCalls ++ [finishFrame])) (weatherCalls ++ [finishFrame]) new
      .waiting := by
  have announced : History.Each Announced (eventsOf weatherCalls) := by
    simp [eventsOf, weatherCalls, frameOf, History.each_cons, History.each_nil, Announced,
      CanonicalStreamEvent.announces]
  have placed : History.Each Placed (eventsOf weatherCalls) := by
    simp [eventsOf, weatherCalls, frameOf, History.each_cons, History.each_nil, Placed, focus,
      focusStep]
  exact (stream_completes_iff weatherCalls finishFrame rfl (by decide) announced).mpr placed

/-- The first tool call gets a second block start under its old index. -/
theorem crossed_calls_break_off : (∀ frame ∈ crossedCalls, ¬ frame.event.isFinish) ∧
      History.Each Announced (eventsOf crossedCalls) ∧
      ¬ Completes (eventsOf (crossedCalls ++ [finishFrame])) (crossedCalls ++ [finishFrame]) new
        .waiting := by
  refine ⟨by decide, ?_, ?_⟩
  · simp [eventsOf, crossedCalls, frameOf, History.each_cons, History.each_nil, Announced,
      CanonicalStreamEvent.announces]
  · rintro ⟨emitted, next, after, emits, follows, -⟩
    have stuck : ((emitAll (crossedCalls ++ [finishFrame]) new).toOption.bind fun written =>
        follow readEvent .waiting written.1).isNone = true := by
      decide +kernel
    rw [emits] at stuck
    simp [Except.toOption, follows] at stuck

end ClaudeClientEmitter

end Aeris.Formats
