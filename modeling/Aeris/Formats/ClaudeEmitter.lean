import Aeris.Base.BlockStream
import Aeris.Base.JsonText
import Aeris.Formats.Canonical

/-! The emitter of Claude message streams. It keeps at most one content block open, closes
it when a frame belongs elsewhere, and remembers the block of every tool call. A handler
gives back the events it emits and the state after them. -/
namespace Aeris.Formats

open RustStd Emission BlockStream

/-! ## Events -/

inductive BlockSource where
  | base64 (mediaType data : String)
  | url (url : String)
  deriving DecidableEq, Repr

/-- The `content_block` of a block start. -/
inductive ContentBlock where
  | text (text : String)
  | thinking
  | toolUse (id name : String)
  | toolResult (toolUseId : String) (name : Option String) (content : String)
  | image (source : BlockSource)
  | document (source : BlockSource)
  deriving DecidableEq, Repr

inductive BlockDelta where
  | text (text : String)
  | thinking (thinking : String)
  | signature (signature : String)
  | inputJson (partialJson : String)
  | citations (citation : Json)
  deriving DecidableEq

structure ClaudeUsage where
  inputTokens : Nat
  outputTokens : Nat
  cacheReadInputTokens : Option Nat
  cacheCreationInputTokens : Option Nat
  cacheCreation : Option (Nat × Nat)
  deriving DecidableEq, Repr

inductive ClaudeEvent where
  | messageStart (id model : String)
  | contentBlockStart (index : Nat) (block : ContentBlock)
  | contentBlockDelta (index : Nat) (delta : BlockDelta)
  | contentBlockStop (index : Nat) (canonicalIndex : Option Nat)
  | messageDelta (stopReason : String) (usage : ClaudeUsage)
  | messageStop
  deriving DecidableEq

def cacheCreationTokensForUsage (usage : CanonicalUsage) : Nat :=
  if usage.cacheCreationTokens > 0 then usage.cacheCreationTokens
  else saturatingAdd usage.cacheCreationEphemeral5mTokens usage.cacheCreationEphemeral1hTokens

def cacheInputTokensForUsage (usage : CanonicalUsage) : Nat :=
  saturatingAdd usage.cacheReadTokens (cacheCreationTokensForUsage usage)

def claudeInputTokensFromUsage (usage : CanonicalUsage) : Nat :=
  if usage.inputTokensIncludeCache then usage.inputTokens - cacheInputTokensForUsage usage
  else usage.inputTokens

def claudeUsageFromUsage (usage : CanonicalUsage) : ClaudeUsage where
  inputTokens := claudeInputTokensFromUsage usage
  outputTokens := usage.outputTokens
  cacheReadInputTokens := if usage.cacheReadTokens > 0 then some usage.cacheReadTokens else none
  cacheCreationInputTokens :=
    if cacheCreationTokensForUsage usage > 0 then some (cacheCreationTokensForUsage usage) else none
  cacheCreation :=
    if usage.cacheCreationEphemeral5mTokens > 0 ∨ usage.cacheCreationEphemeral1hTokens > 0 then
      some (usage.cacheCreationEphemeral5mTokens, usage.cacheCreationEphemeral1hTokens)
    else none

def mapOpenaiFinishReasonToClaude (value : Option String) : String :=
  if value = some "length" then "max_tokens"
  else if value = some "tool_calls" ∨ value = some "function_call" then "tool_use"
  else if value = some "content_filter" then "content_filtered"
  else "end_turn"

def canonicalCitationToClaudeCitation (citation : Json) : Option Json := do
  let url ← textField "url" citation
  let fields := [("type", .string "web_search_result_location"), ("url", .string url)] ++
    ((textField "title" citation).map fun title => ("title", Json.string title)).toList ++
    ((textField "cited_text" citation).map fun text => ("cited_text", Json.string text)).toList
  return .object (fields.foldl (fun object field => Json.insertField field.1 field.2 object) [])

def canonicalCitationsToClaudeCitations (citations : List Json) : List Json :=
  citations.filterMap canonicalCitationToClaudeCitation

/-- `data:<media type>;base64,<data>`. -/
def parseDataUrl (value : String) : Option (String × String) := do
  guard (startsWith "data:" value)
  let (meta', data) ← splitOnce ',' (String.ofList (value.toList.drop 5))
  guard (";base64".toList.isSuffixOf meta'.toList)
  let mediaType := String.ofList (meta'.toList.take (meta'.toList.length - 7))
  guard (!RustStd.isBlank mediaType && !RustStd.isBlank data)
  return (mediaType, data)

def contentBlockOfPart : CanonicalContentPart → ContentBlock
  | .imageUrl url =>
    match parseDataUrl url with
    | some (mediaType, data) => .image (.base64 mediaType data)
    | none => .image (.url url)
  | .file (some fileData) _ _ _ =>
    match parseDataUrl fileData with
    | some (mediaType, data) => .document (.base64 mediaType data)
    | none => .text "[File]"
  | .file none (some reference) _ _ => .document (.url reference)
  | .file none none _ _ => .text "[File]"
  | .audio data format => .document (.base64 ("audio/" ++ format) data)

def removeEmptyPagesFromToolArguments (toolName arguments : String) : String :=
  if toolName ≠ "Read" then arguments
  else
    match JsonText.read arguments.toList with
    | some (.object fields) =>
      if Json.get? "pages" (.object fields) = some (.string "") then
        String.ofList (JsonText.write (.object (Json.removeField "pages" fields)))
      else arguments
    | _ => arguments

/-! ## State -/

inductive ClaudeOpenBlock where
  | text (blockIndex : Nat)
  | thinking (blockIndex : Nat)
  | tool (toolIndex blockIndex : Nat)
  deriving DecidableEq, Repr

structure ClaudeClientToolState where
  callId : String
  name : String
  bufferedArguments : String
  deriving DecidableEq, Repr

def ClaudeClientToolState.default : ClaudeClientToolState := ⟨"", "", ""⟩

structure ClaudeClientEmitter where
  messageId : Option String
  model : Option String
  started : Bool
  finished : Bool
  nextBlockIndex : Nat
  openBlock : Option ClaudeOpenBlock
  toolBlockIndices : OrderedTable Nat Nat
  toolStates : OrderedTable Nat ClaudeClientToolState
  deriving DecidableEq

namespace ClaudeClientEmitter

def new : ClaudeClientEmitter := ⟨none, none, false, false, 0, none, .empty, .empty⟩

abbrev Handler := Emission.Handler ClaudeClientEmitter ClaudeEvent

def updateIdentity (frame : CanonicalStreamFrame) (state : ClaudeClientEmitter) :
    ClaudeClientEmitter :=
  { state with messageId := some frame.id, model := some frame.model }

def ensureStarted : Handler := fun state =>
  if state.started then ([], state)
  else ([.messageStart (state.messageId.getD "msg-local-stream") (state.model.getD "unknown")],
    { state with started := true })

/-! ## Blocks -/

/-- The arguments of a `Read` call are held back until its block closes. -/
def flushArguments (toolIndex blockIndex : Nat) : Handler := fun state =>
  match state.toolStates.get? toolIndex with
  | none => ([], state)
  | some tool =>
    if tool.name = "Read" ∧ tool.bufferedArguments ≠ "" then
      let arguments := removeEmptyPagesFromToolArguments tool.name tool.bufferedArguments
      (if arguments ≠ "" then [.contentBlockDelta blockIndex (.inputJson arguments)] else [],
        { state with
          toolStates := state.toolStates.insert toolIndex { tool with bufferedArguments := "" } })
    else ([], state)

def stopBlock (blockIndex : Nat) : Handler := fun state =>
  ([.contentBlockStop blockIndex none], { state with openBlock := none })

def closeOpenBlock : Handler := fun state =>
  match state.openBlock with
  | none => ([], state)
  | some (.text blockIndex) => stopBlock blockIndex state
  | some (.thinking blockIndex) => stopBlock blockIndex state
  | some (.tool toolIndex blockIndex) =>
    ((flushArguments toolIndex blockIndex).andThen (stopBlock blockIndex)) state

def startBlock (block : ContentBlock) (opened : Nat → ClaudeOpenBlock) : Handler := fun state =>
  ([.contentBlockStart state.nextBlockIndex block],
    { state with
      nextBlockIndex := state.nextBlockIndex + 1
      openBlock := some (opened state.nextBlockIndex) })

def ensureTextBlock : Handler := fun state =>
  match state.openBlock with
  | some (.text _) => ([], state)
  | _ => (closeOpenBlock.andThen (startBlock (.text "") .text)) state

def ensureThinkingBlock : Handler := fun state =>
  match state.openBlock with
  | some (.thinking _) => ([], state)
  | _ => (closeOpenBlock.andThen (startBlock .thinking .thinking)) state

/-- A tool call that has a block opens it again, under the same index. -/
def openToolBlock (toolIndex : Nat) (callId name : String) : Handler := fun state =>
  match state.toolBlockIndices.get? toolIndex with
  | some blockIndex =>
    ([.contentBlockStart blockIndex (.toolUse callId name)],
      { state with openBlock := some (.tool toolIndex blockIndex) })
  | none =>
    ([.contentBlockStart state.nextBlockIndex (.toolUse callId name)],
      { state with
        nextBlockIndex := state.nextBlockIndex + 1
        toolBlockIndices := state.toolBlockIndices.insert toolIndex state.nextBlockIndex
        openBlock := some (.tool toolIndex state.nextBlockIndex) })

def isOpenTool (toolIndex : Nat) : Option ClaudeOpenBlock → Bool
  | some (.tool current _) => current = toolIndex
  | _ => false

def ensureToolBlock (toolIndex : Nat) (callId name : String) : Handler := fun state =>
  if isOpenTool toolIndex state.openBlock then ([], state)
  else (closeOpenBlock.andThen (openToolBlock toolIndex callId name)) state

def wholeBlock (block : ContentBlock) (canonicalIndex : Option Nat) : Handler := fun state =>
  ([.contentBlockStart state.nextBlockIndex block,
      .contentBlockStop state.nextBlockIndex canonicalIndex],
    { state with nextBlockIndex := state.nextBlockIndex + 1 })

def emitToolResultBlock (index : Nat) (toolUseId : String) (name : Option String)
    (content : String) : Handler :=
  ensureStarted.andThen (closeOpenBlock.andThen
    (wholeBlock (.toolResult toolUseId (name.filter fun text => !RustStd.isBlank text) content)
      (some index)))

def emitContentPart (part : CanonicalContentPart) : Handler :=
  ensureStarted.andThen (closeOpenBlock.andThen (wholeBlock (contentBlockOfPart part) none))

/-! ## Frames -/

def textIndex : ClaudeOpenBlock → Option Nat
  | .text blockIndex => some blockIndex
  | _ => none

def thinkingIndex : ClaudeOpenBlock → Option Nat
  | .thinking blockIndex => some blockIndex
  | _ => none

def toolBlockIndex : ClaudeOpenBlock → Option Nat
  | .tool _ blockIndex => some blockIndex
  | _ => none

/-- Deltas of the open block, if it is of the right kind. -/
def emitDeltas (kind : ClaudeOpenBlock → Option Nat) (deltas : List BlockDelta) : Handler :=
  fun state =>
    match state.openBlock.bind kind with
    | some blockIndex => (deltas.map (.contentBlockDelta blockIndex), state)
    | none => ([], state)

def startToolCall (index : Nat) (callId name : String) : Handler := fun state =>
  let tool := (state.toolStates.get? index).getD .default
  ([], { state with
    toolStates := state.toolStates.insert index { tool with callId := callId, name := name } })

/-- `entry(index).or_default()`. -/
def enterTool (index : Nat) (state : ClaudeClientEmitter) :
    ClaudeClientToolState × ClaudeClientEmitter :=
  let tool := (state.toolStates.get? index).getD .default
  (tool, { state with toolStates := state.toolStates.insert index tool })

def bufferArguments (index : Nat) (arguments : String) : Handler := fun state =>
  let tool := (state.toolStates.get? index).getD .default
  ([], { state with
    toolStates := state.toolStates.insert index
      { tool with bufferedArguments := tool.bufferedArguments ++ arguments } })

def emitArguments (index : Nat) (arguments : String) : Handler := fun state =>
  let (tool, state) := enterTool index state
  let callId := if tool.callId = "" then "tool_" ++ toString index else tool.callId
  let name := if tool.name = "" then "unknown" else tool.name
  if arguments = "" then ([], state)
  else
    (ensureStarted.andThen ((ensureToolBlock index callId name).andThen
      (if name = "Read" then bufferArguments index arguments
      else emitDeltas toolBlockIndex [.inputJson arguments]))) state

def emitCitations (citations : List Json) : Handler := fun state =>
  let rendered := canonicalCitationsToClaudeCitations citations
  if rendered.isEmpty then ([], state)
  else (ensureTextBlock.andThen (emitDeltas textIndex (rendered.map .citations))) state

def endMessage (finishReason : Option String) (usage : Option CanonicalUsage) : Handler :=
  fun state =>
    ([.messageDelta (mapOpenaiFinishReasonToClaude finishReason)
        (claudeUsageFromUsage (usage.getD .default)), .messageStop],
      { state with finished := true })

def emitFinish (finishReason : Option String) (usage : Option CanonicalUsage) : Handler :=
  fun state =>
    if state.finished then ([], state)
    else (ensureStarted.andThen (closeOpenBlock.andThen (endMessage finishReason usage))) state

def responsesItemError : String :=
  "OpenAI Responses output items cannot be converted losslessly to Claude Messages"

def emitEvent : CanonicalStreamEvent → ClaudeClientEmitter →
    Except String (List ClaudeEvent × ClaudeClientEmitter)
  | .start, state => .ok (ensureStarted state)
  | .textDelta text, state =>
    .ok ((ensureStarted.andThen
      (ensureTextBlock.andThen (emitDeltas textIndex [.text text]))) state)
  | .reasoningDelta text, state =>
    .ok ((ensureStarted.andThen (ensureThinkingBlock.andThen
      (emitDeltas thinkingIndex [.thinking text]))) state)
  | .reasoningSignature signature, state =>
    .ok ((ensureStarted.andThen (ensureThinkingBlock.andThen
      (emitDeltas thinkingIndex [.signature signature]))) state)
  | .contentPart part, state => .ok (emitContentPart part state)
  | .imageGenerationCall _ item, state =>
    match contentPartFromOpenaiImageGenerationItem item with
    | none => .ok ([], state)
    | some part => .ok (emitContentPart part state)
  | .openAiResponsesOutputItem _ _ _, _ => .error responsesItemError
  | .toolCallStart index callId name, state =>
    .ok ((ensureStarted.andThen ((startToolCall index callId name).andThen
      (ensureToolBlock index callId name))) state)
  | .toolCallSignature _ _, state => .ok ([], state)
  | .toolCallArgumentsDelta index arguments, state => .ok (emitArguments index arguments state)
  | .toolResultDelta index toolUseId name content, state =>
    .ok (emitToolResultBlock index toolUseId name content state)
  | .citations citations, state => .ok (emitCitations citations state)
  | .unknownEvent _, state => .ok ([], state)
  | .finish finishReason usage, state => .ok (emitFinish finishReason usage state)
  | .reasoningSummaryDone, state => .ok (closeOpenBlock state)

def emit (frame : CanonicalStreamFrame) (state : ClaudeClientEmitter) :
    Except String (List ClaudeEvent × ClaudeClientEmitter) :=
  emitEvent frame.event (updateIdentity frame state)

/-- The frames of a stream in turn; an error ends it. -/
def emitAll : List CanonicalStreamFrame → ClaudeClientEmitter →
    Except String (List ClaudeEvent × ClaudeClientEmitter)
  | [], state => .ok ([], state)
  | frame :: rest, state => do
      let (events, state) ← emit frame state
      let (later, state) ← emitAll rest state
      return (events ++ later, state)

end ClaudeClientEmitter

end Aeris.Formats
