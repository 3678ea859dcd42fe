import Aeris.Base.Json
import Aeris.Kiro.Decoder
import Aeris.Kiro.ThinkingTags

/-! The adapter that turns Kiro events into a Claude message stream: content blocks are
opened, filled and closed as text, thinking and tool use come in, and a final message
closes what is open. A handler takes the state and gives back the events it emits and the
state after them. -/
namespace Aeris.Kiro
open RustStd

/-! ## Events -/

inductive BlockKind where
  | text
  | thinking
  | toolUse
  deriving DecidableEq, Repr

/-- The `content_block` of a block start. -/
inductive ContentBlock where
  | text
  | thinking
  | toolUse (id name : String)
  deriving DecidableEq, Repr

def ContentBlock.kind : ContentBlock → BlockKind
  | .text => .text
  | .thinking => .thinking
  | .toolUse _ _ => .toolUse

inductive BlockDelta where
  | text (text : Text)
  | thinking (thinking : Text)
  | inputJson (partialJson : Text)
  deriving DecidableEq, Repr

def BlockDelta.kind : BlockDelta → BlockKind
  | .text _ => .text
  | .thinking _ => .thinking
  | .inputJson _ => .toolUse

structure KiroStreamCacheUsage where
  cacheCreationInputTokens : Nat
  cacheReadInputTokens : Nat
  deriving DecidableEq, Repr

/-- The `usage` object; the cache fields are there only together. -/
structure UsagePayload where
  inputTokens : Nat
  outputTokens : Nat
  cache : Option KiroStreamCacheUsage
  deriving DecidableEq, Repr

inductive ClaudeEvent where
  | messageStart (id model : String) (usage : UsagePayload)
  | contentBlockStart (index : Nat) (block : ContentBlock)
  | contentBlockDelta (index : Nat) (delta : BlockDelta)
  | contentBlockStop (index : Nat)
  | messageDelta (stopReason : String) (usage : UsagePayload)
  | messageStop
  | error (errorType message : String)
  deriving DecidableEq, Repr

def KiroStreamCacheUsage.hasCacheTokens (usage : KiroStreamCacheUsage) : Bool :=
  usage.cacheCreationInputTokens > 0 || usage.cacheReadInputTokens > 0

def buildKiroUsagePayload (inputTokens outputTokens : Nat)
    (cacheUsage : Option KiroStreamCacheUsage) : UsagePayload :=
  match cacheUsage.filter KiroStreamCacheUsage.hasCacheTokens with
  | some usage =>
    ⟨inputTokens - usage.cacheCreationInputTokens - usage.cacheReadInputTokens, outputTokens,
      some usage⟩
  | none => ⟨inputTokens, outputTokens, none⟩

def estimateKiroTokens (text : Text) : Nat :=
  if text.isEmpty then 0
  else
    let chinese := text.countP fun c => 0x4e00 ≤ c.toNat && c.toNat ≤ 0x9fff
    let other := text.length - chinese
    max ((chinese * 2 + 2) / 3 + (other + 3) / 4) 1

/-! ## State -/

structure KiroClaudeStreamState where
  model : String
  thinkingEnabled : Bool
  estimatedInputTokens : Nat
  cacheUsage : Option KiroStreamCacheUsage
  messageId : String
  outputTokens : Nat
  contextInputTokens : Option Nat
  nextBlockIndex : Nat
  openBlocks : OrderedTable Nat BlockKind
  textBlockIndex : Option Nat
  thinkingBlockIndex : Option Nat
  toolBlockIndices : OrderedTable String Nat
  thinkingBuffer : Text
  inThinkingBlock : Bool
  thinkingExtracted : Bool
  stripThinkingLeadingNewline : Bool
  hasToolUse : Bool
  stopReasonOverride : Option String
  hadError : Bool
  lastContent : Text

namespace KiroClaudeStreamState

/-- A new state; the arguments are what `new` reads from the report context. -/
def new (model messageId : String) (thinkingEnabled : Bool) (estimatedInputTokens : Nat)
    (cacheUsage : Option KiroStreamCacheUsage) : KiroClaudeStreamState where
  model
  thinkingEnabled
  estimatedInputTokens
  cacheUsage
  messageId
  outputTokens := 0
  contextInputTokens := none
  nextBlockIndex := 0
  openBlocks := .empty
  textBlockIndex := none
  thinkingBlockIndex := none
  toolBlockIndices := .empty
  thinkingBuffer := []
  inThinkingBlock := false
  thinkingExtracted := false
  stripThinkingLeadingNewline := false
  hasToolUse := false
  stopReasonOverride := none
  hadError := false
  lastContent := []

/-- A handler: the events it emits and the state after it. -/
abbrev Handler := KiroClaudeStreamState → List ClaudeEvent × KiroClaudeStreamState

def update (write : KiroClaudeStreamState → KiroClaudeStreamState) : Handler :=
  fun state => ([], write state)

def Handler.andThen (first second : Handler) : Handler := fun state =>
  ((first state).1 ++ (second (first state).2).1, (second (first state).2).2)

/-! ## Blocks -/

/-- A new block that becomes the open one of its kind. -/
def openBlock (block : ContentBlock)
    (record : Nat → KiroClaudeStreamState → KiroClaudeStreamState) : Handler := fun state =>
  ([.contentBlockStart state.nextBlockIndex block], record state.nextBlockIndex
      { state with
        nextBlockIndex := state.nextBlockIndex + 1
        openBlocks := state.openBlocks.insert state.nextBlockIndex block.kind })

def isOpen (state : KiroClaudeStreamState) (index : Option Nat) (kind : BlockKind) : Bool :=
  match index with
  | some idx => decide (state.openBlocks.get? idx = some kind)
  | none => false

def ensureTextBlockOpen : Handler := fun state =>
  if state.isOpen state.textBlockIndex .text then ([], state)
  else openBlock .text (fun idx state => { state with textBlockIndex := some idx }) state

def ensureThinkingBlockOpen : Handler := fun state =>
  if state.isOpen state.thinkingBlockIndex .thinking then ([], state)
  else openBlock .thinking (fun idx state => { state with thinkingBlockIndex := some idx }) state

def closeBlock (idx : Nat) : Handler := fun state =>
  if state.openBlocks.contains idx then
    ([.contentBlockStop idx], { state with openBlocks := state.openBlocks.erase idx })
  else ([], state)

def emitTextDelta (text : Text) : Handler := fun state =>
  if text.isEmpty then ([], state)
  else
    ensureTextBlockOpen.andThen
      (fun state => ([.contentBlockDelta (state.textBlockIndex.getD 0) (.text text)], state)) state

def emitThinkingDelta (thinking : Text) : Handler := fun state =>
  if thinking.isEmpty then ([], state)
  else
    ensureThinkingBlockOpen.andThen
      (fun state =>
        ([.contentBlockDelta (state.thinkingBlockIndex.getD 0) (.thinking thinking)], state)) state

def closeThinkingBlock : Handler := fun state =>
  match state.thinkingBlockIndex with
  | none => ([], state)
  | some idx =>
    Handler.andThen (fun state => ([.contentBlockDelta idx (.thinking [])], state))
      (closeBlock idx) state

/-! ## Assistant text -/

/-- The last branch of the loop: what is left of the buffer is answer text. -/
def flushAnswer : Handler := fun state =>
  if state.thinkingBuffer.isEmpty then ([], state)
  else emitTextDelta state.thinkingBuffer { state with thinkingBuffer := [] }

def stripLeadingNewline : Handler := update fun state =>
  if state.stripThinkingLeadingNewline then
    match state.thinkingBuffer with
    | '\n' :: rest => { state with thinkingBuffer := rest, stripThinkingLeadingNewline := false }
    | _ :: _ => { state with stripThinkingLeadingNewline := false }
    | [] => state
  else state

/-- The thinking block is over; the text stays in the buffer. -/
def leaveThinking (remaining : Text) (state : KiroClaudeStreamState) : KiroClaudeStreamState :=
  { state with
    inThinkingBlock := false
    thinkingExtracted := true
    thinkingBuffer := remaining }

/-- The branch of the loop inside a thinking block. -/
def readThinking : Handler :=
  stripLeadingNewline.andThen fun state =>
    match findKiroRealThinkingEndTag state.thinkingBuffer with
    | some endPos =>
      (emitThinkingDelta (state.thinkingBuffer.take endPos)).andThen
        (closeThinkingBlock.andThen
          ((update (leaveThinking (state.thinkingBuffer.drop (endPos + endTag.length)))).andThen
            flushAnswer)) state
    | none =>
      match splitPreservingTrailingBytes state.thinkingBuffer endTag.length with
      | some (safe, remaining) =>
        (emitThinkingDelta safe).andThen
          (update fun state => { state with thinkingBuffer := remaining }) state
      | none => ([], state)

/-- A thinking block begins with what is behind the start tag. -/
def enterThinking (remaining : Text) (state : KiroClaudeStreamState) : KiroClaudeStreamState :=
  { state with
    inThinkingBlock := true
    stripThinkingLeadingNewline := true
    thinkingBuffer := remaining }

/-- The branch of the loop that looks for the start of a thinking block. -/
def seekThinking : Handler := fun state =>
  match findKiroRealThinkingStartTag state.thinkingBuffer with
  | some startPos =>
    let before := state.thinkingBuffer.take startPos
    Handler.andThen (if isBlankText before then update id else emitTextDelta before)
      ((update (enterThinking (state.thinkingBuffer.drop (startPos + startTag.length)))).andThen
        (ensureThinkingBlockOpen.andThen readThinking)) state
  | none =>
    match splitPreservingTrailingBytes state.thinkingBuffer startTag.length with
    | some (safe, remaining) =>
      if isBlankText safe then ([], state)
      else
        (emitTextDelta safe).andThen
          (update fun state => { state with thinkingBuffer := remaining }) state
    | none => ([], state)

/-- The loop of `process_assistant_response`. Its branches come in this order and each at
most once: a start tag leads into the thinking block and an end tag out of it. -/
def separateThinking : Handler := fun state =>
  if !state.inThinkingBlock && !state.thinkingExtracted then seekThinking state
  else if state.inThinkingBlock then readThinking state
  else flushAnswer state

def processAssistantResponse (content : Text) : Handler := fun state =>
  if content.isEmpty || content == state.lastContent then ([], state)
  else
    let state :=
      { state with
        lastContent := content
        outputTokens := state.outputTokens + estimateKiroTokens content }
    if !state.thinkingEnabled then emitTextDelta content state
    else
      let overflow := state.thinkingBuffer ++ content
      if byteLength overflow > KIRO_MAX_THINKING_BUFFER then
        let state := { state with thinkingBuffer := [] }
        if state.inThinkingBlock then
          (emitThinkingDelta overflow).andThen
            (closeThinkingBlock.andThen (update (leaveThinking []))) state
        else emitTextDelta overflow state
      else separateThinking { state with thinkingBuffer := overflow }

/-! ## Tool use -/

/-- What is still in the thinking buffer goes out before a tool use. -/
def flushBeforeToolUse : Handler := fun state =>
  if state.thinkingEnabled && state.inThinkingBlock && !state.thinkingBuffer.isEmpty then
    match findKiroRealThinkingEndTagAtBufferEnd state.thinkingBuffer with
    | some endPos =>
      (emitThinkingDelta (state.thinkingBuffer.take endPos)).andThen
        (closeThinkingBlock.andThen
          ((update (leaveThinking [])).andThen
            (emitTextDelta (state.thinkingBuffer.drop (endPos + endTag.length))))) state
    | none =>
      (emitThinkingDelta state.thinkingBuffer).andThen
        (closeThinkingBlock.andThen (update (leaveThinking []))) state
  else ([], state)

def flushUndecided : Handler := fun state =>
  if state.thinkingEnabled && !state.inThinkingBlock && !state.thinkingExtracted &&
      !state.thinkingBuffer.isEmpty then
    emitTextDelta state.thinkingBuffer { state with thinkingBuffer := [] }
  else ([], state)

def closeTextBlock : Handler := fun state =>
  match state.textBlockIndex with
  | some idx => closeBlock idx { state with textBlockIndex := none }
  | none => ([], state)

/-- The index of the tool's block: the one it had before, or the next one. -/
def toolBlockIndex (toolUseId : String) (state : KiroClaudeStreamState) :
    Nat × KiroClaudeStreamState :=
  match state.toolBlockIndices.get? toolUseId with
  | some blockIndex => (blockIndex, state)
  | none =>
    (state.nextBlockIndex,
      { state with
        nextBlockIndex := state.nextBlockIndex + 1
        toolBlockIndices := state.toolBlockIndices.insert toolUseId state.nextBlockIndex })

def openToolBlock (blockIndex : Nat) (toolUseId name : String) : Handler := fun state =>
  if state.openBlocks.contains blockIndex then ([], state)
  else
    ([.contentBlockStart blockIndex (.toolUse toolUseId name)],
      { state with openBlocks := state.openBlocks.insert blockIndex .toolUse })

def emitToolInput (blockIndex : Nat) (inputJson : Text) : Handler := fun state =>
  if inputJson.isEmpty then ([], state)
  else
    ([.contentBlockDelta blockIndex (.inputJson inputJson)],
      { state with outputTokens := state.outputTokens + estimateKiroTokens inputJson })

def processToolUse (name toolUseId : String) (inputJson : Text) (stop : Bool) : Handler :=
  fun state =>
    if toolUseId.isEmpty then ([], state)
    else
      Handler.andThen (update fun state => { state with hasToolUse := true })
        (flushBeforeToolUse.andThen
          (flushUndecided.andThen
            (closeTextBlock.andThen fun state =>
              let (blockIndex, state) := toolBlockIndex toolUseId state
              (openToolBlock blockIndex toolUseId name).andThen
                ((emitToolInput blockIndex inputJson).andThen
                  (if stop then closeBlock blockIndex else update id)) state))) state

/-! ## Errors and the end -/

def emitStreamError (errorType message : String) : Handler := fun state =>
  if state.hadError then ([], state)
  else ([.error errorType message], { state with hadError := true })

def generateInitial : Handler := fun state =>
  Handler.andThen
    (fun state =>
      ([.messageStart state.messageId state.model
        (buildKiroUsagePayload state.estimatedInputTokens 1 state.cacheUsage)], state))
    (if state.thinkingEnabled then update id else ensureTextBlockOpen) state

def closeAll : List Nat → Handler
  | [] => update id
  | idx :: rest => (closeBlock idx).andThen (closeAll rest)

/-- The open blocks are closed from the highest index down. -/
def closeOpenBlocks : Handler := fun state => closeAll state.openBlocks.keys.reverse state

def finalMessage : Handler := fun state =>
  let stopReason := state.stopReasonOverride.getD (if state.hasToolUse then "tool_use" else "end_turn")
  let inputTokens :=
    if state.estimatedInputTokens > 0 then state.estimatedInputTokens
    else state.contextInputTokens.getD 0
  ([.messageDelta stopReason
      (buildKiroUsagePayload inputTokens state.outputTokens state.cacheUsage), .messageStop], state)

/-- What is still in the thinking buffer goes out at the end. -/
def flushAtEnd : Handler := fun state =>
  if state.thinkingEnabled && !state.thinkingBuffer.isEmpty then
    Handler.andThen
      (if state.inThinkingBlock then
        match findKiroRealThinkingEndTagAtBufferEnd state.thinkingBuffer with
        | some endPos =>
          (emitThinkingDelta (state.thinkingBuffer.take endPos)).andThen
            (closeThinkingBlock.andThen
              (emitTextDelta (state.thinkingBuffer.drop (endPos + endTag.length))))
        | none => (emitThinkingDelta state.thinkingBuffer).andThen closeThinkingBlock
      else emitTextDelta state.thinkingBuffer)
      (update (leaveThinking [])) state
  else ([], state)

def finalize : Handler := flushAtEnd.andThen (closeOpenBlocks.andThen finalMessage)

end KiroClaudeStreamState

end Aeris.Kiro
