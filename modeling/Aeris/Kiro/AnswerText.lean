import Aeris.Kiro.DecoderChunks
import Aeris.Kiro.ThinkingStream

/-! The adapter from the bytes of the event stream to the events it emits: each piece is decoded,
each frame is handled by its headers. -/
namespace Aeris.Kiro
open ByteEncoding List

/-- What is read from payloads: the JSON value of the bytes, the compact text of a value,
and the tokens of a context usage percentage. -/
structure PayloadReader where
  fromSlice : Bytes → Option Json
  toText : Json → Text
  contextInputTokens : Json → Option Nat

def PayloadReader.payload (reader : PayloadReader) (frame : AwsEventFrame) : Json :=
  if frame.payload.isEmpty then .object []
  else (reader.fromSlice frame.payload).getD (.object [])

def textField (key : String) (payload : Json) : Option String :=
  match payload.get? key with
  | some (.string text) => some text
  | _ => none

namespace KiroClaudeStreamState

section Frames
variable (reader : PayloadReader)

def toolInput (payload : Json) : Text :=
  match payload.get? "input" with
  | none | some .null => []
  | some (.string text) => text.toList
  | some other => reader.toText other

def processEventFrame (frame : AwsEventFrame) : Handler := fun state =>
  let payload := reader.payload frame
  let eventType := frame.headers.eventType.getD ""
  if eventType = "assistantResponseEvent" then
    match textField "content" payload with
    | some content => processAssistantResponse content.toList state
    | none => ([], state)
  else if eventType = "toolUseEvent" then
    if payload.isObject then
      -- A `toolUseId` that is no text does not fall back on the other key.
      let idKey := if (payload.get? "toolUseId").isSome then "toolUseId" else "tool_use_id"
      processToolUse ((textField "name" payload).getD "") ((textField idKey payload).getD "")
        (toolInput reader payload) (((payload.get? "stop").bind Json.asBool).getD false) state
    else ([], state)
  else if eventType = "contextUsageEvent" then
    match (payload.get? "contextUsagePercentage").bind reader.contextInputTokens with
    | some tokens => ([], { state with contextInputTokens := some tokens })
    | none => ([], state)
  else ([], state)

def processExceptionFrame (frame : AwsEventFrame) : Handler := fun state =>
  let exceptionType := frame.headers.exceptionType.getD "UnknownException"
  if exceptionType = "ContentLengthExceededException" then
    ([], { state with stopReasonOverride := some "max_tokens" })
  else emitStreamError "upstream_exception" exceptionType state

def processErrorFrame (frame : AwsEventFrame) : Handler :=
  emitStreamError "upstream_error" (frame.headers.errorCode.getD "UnknownError")

def processFrame (frame : AwsEventFrame) : Handler := fun state =>
  let messageType := frame.headers.messageType.getD "event"
  if messageType = "event" then processEventFrame reader frame state
  else if messageType = "exception" then processExceptionFrame frame state
  else if messageType = "error" then processErrorFrame frame state
  else ([], state)

def processFrames : List AwsEventFrame → Handler
  | [] => update id
  | frame :: frames => (processFrame reader frame).andThen (processFrames frames)

end Frames

end KiroClaudeStreamState

open KiroClaudeStreamState

structure KiroToClaudeCliStreamState where
  decoder : EventStreamDecoder
  state : KiroClaudeStreamState
  started : Bool

namespace KiroToClaudeCliStreamState
variable (reader : PayloadReader)

def pushChunk (chunk : Bytes) (adapter : KiroToClaudeCliStreamState) :
    List ClaudeEvent × KiroToClaudeCliStreamState :=
  let received := adapter.decoder.receive chunk
  let handled := Handler.andThen (if adapter.started then update id else generateInitial)
    (match received.1 with
      | .ok frames => processFrames reader frames
      | .error err => emitStreamError "upstream_stream_error" err) adapter.state
  (handled.1, ⟨received.2, handled.2, true⟩)

def pushAll : List Bytes → KiroToClaudeCliStreamState → List ClaudeEvent
  | [], _ => []
  | chunk :: chunks, adapter =>
    (pushChunk reader chunk adapter).1 ++ pushAll chunks (pushChunk reader chunk adapter).2

end KiroToClaudeCliStreamState

/-! ## The text that goes out -/

/-- The `content` of an `assistantResponseEvent` frame. -/
def answerContent (reader : PayloadReader) (frame : AwsEventFrame) : Option Text :=
  if frame.headers.messageType.getD "event" = "event" ∧
      frame.headers.eventType.getD "" = "assistantResponseEvent" then
    (textField "content" (reader.payload frame)).map String.toList
  else none

/-- The contents of the answer in the frames that are decoded from the pieces. -/
def answerContents (reader : PayloadReader) (decoder : EventStreamDecoder) (chunks : List Bytes) :
    List Text :=
  (EventStreamDecoder.handedOut (decoder.receiveAll chunks)).filterMap (answerContent reader)

/-- What is left of the contents when one that repeats the last is passed over. -/
def forwarded : Text → List Text → Text
  | _, [] => []
  | last, content :: contents =>
    if content = [] ∨ content = last then forwarded last contents
    else content ++ forwarded content contents

theorem forwarded_length (contents : List Text) : ∀ last : Text,
    (forwarded last contents).length ≤ contents.flatten.length := by
  induction contents with
  | nil => exact fun _ => Nat.le_refl 0
  | cons content contents ih =>
    intro last
    rw [forwarded, flatten_cons, length_append]
    split
    · exact (ih last).trans (Nat.le_add_left _ _)
    · rw [length_append]
      exact Nat.add_le_add_left (ih content) _

/-- What is passed over is not empty, so the text that goes out is too short. -/
theorem forwarded_eq_iff (contents : List Text) : ∀ last : Text,
    forwarded last contents = contents.flatten ↔ Distinct last (contents.filter (· ≠ [])) := by
  induction contents with
  | nil => exact fun _ => ⟨fun _ => trivial, fun _ => rfl⟩
  | cons content contents ih =>
    intro last
    rw [forwarded, flatten_cons]
    by_cases empty : content = []
    · simp only [empty, true_or, if_true, nil_append]
      exact ih last
    · rw [filter_cons_of_pos (by simpa using empty), Distinct]
      by_cases same : content = last
      · subst same
        refine ⟨fun whole => ?_, fun distinct => absurd rfl distinct.2.1⟩
        rw [if_pos (Or.inr rfl)] at whole
        have short := forwarded_length contents content
        rw [whole, length_append] at short
        have := length_pos_iff.mpr empty
        omega
      · rw [if_neg (not_or.mpr ⟨empty, same⟩), append_cancel_left_eq, ih content]
        exact ⟨fun rest => ⟨empty, same, rest⟩, fun distinct => distinct.2.2⟩

namespace KiroClaudeStreamState
variable {state : KiroClaudeStreamState} {reader : PayloadReader}

/-- With thinking disabled, the contents come in and what is left of them goes out, whatever
comes later. -/
structure Forwards (state : KiroClaudeStreamState) (contents : List Text)
    (result : List ClaudeEvent × KiroClaudeStreamState) : Prop where
  texts : ∀ later, textsOf result.1 ++ ⟨forwarded result.2.lastContent later, []⟩ =
    (⟨forwarded state.lastContent (contents ++ later), []⟩ : Separated)
  disabled : result.2.thinkingEnabled = false

theorem Forwards.andThen {first second : Handler} {contents more}
    (one : Forwards state contents (first state))
    (two : Forwards (first state).2 more (second (first state).2)) :
    Forwards state (contents ++ more) (first.andThen second state) where
  texts := fun later => by
    rw [Handler.andThen, textsOf_append, Separated.append_assoc, two.texts, one.texts, append_assoc]
  disabled := two.disabled

theorem forwards_nothing (disabled : state.thinkingEnabled = false)
    {result} (texts : textsOf result.1 = ⟨[], []⟩)
    (view : result.2.view = state.view) : Forwards state [] result where
  texts := fun later => by
    rw [texts, show result.2.lastContent = _ from congrArg TextView.lastContent view]
    rfl
  disabled := (congrArg TextView.thinkingEnabled view).trans disabled

theorem processToolUse_forwards (disabled : state.thinkingEnabled = false)
    (name toolUseId : String) (inputJson : Text) (stop : Bool) :
    Forwards state [] (processToolUse name toolUseId inputJson stop state) := by
  have closes : Emits closeTextBlock ⟨[], []⟩ := by
    constructor <;> intro state <;> unfold closeTextBlock <;> split
    · exact (closeBlock_emits _).texts _
    · rfl
    · exact (closeBlock_emits _).view _
    · rfl
  have opens : ∀ index, Emits (openToolBlock index toolUseId name) ⟨[], []⟩ := by
    intro index
    constructor <;> intro state <;> unfold openToolBlock <;> split <;> rfl
  have inputs : ∀ index, Emits (emitToolInput index inputJson) ⟨[], []⟩ := by
    intro index
    constructor <;> intro state <;> unfold emitToolInput <;> split <;> rfl
  have ends : ∀ index, Emits (if stop then closeBlock index else update id) ⟨[], []⟩ := by
    intro index
    split
    · exact closeBlock_emits index
    · exact update_id_emits
  have block := fun index => (opens index).andThen ((inputs index).andThen (ends index))
  unfold processToolUse
  split
  · exact forwards_nothing disabled rfl rfl
  · -- Without thinking nothing is held back that would go out before the tool use.
    have held : flushBeforeToolUse { state with hasToolUse := true } =
        ([], { state with hasToolUse := true }) := by
      simp [flushBeforeToolUse, disabled]
    have undecided : flushUndecided { state with hasToolUse := true } =
        ([], { state with hasToolUse := true }) := by
      simp [flushUndecided, disabled]
    have index : ∀ state, (toolBlockIndex toolUseId state).2.view = state.view := by
      intro state
      unfold toolBlockIndex
      split <;> rfl
    simp only [Handler.andThen, update, held, undecided, nil_append]
    refine forwards_nothing disabled ?_ ?_
    · rw [textsOf_append, closes.texts]
      exact (block _).texts _
    · exact ((block _).view _).trans ((index _).trans (closes.view _))

theorem processAssistantResponse_forwards (disabled : state.thinkingEnabled = false)
    (content : Text) : Forwards state [content] (processAssistantResponse content state) := by
  unfold processAssistantResponse
  by_cases passed : content = [] ∨ content = state.lastContent
  · rw [if_pos (by simpa using passed)]
    refine ⟨fun later => ?_, disabled⟩
    rw [singleton_append, forwarded, if_pos passed]
    rfl
  · rw [if_neg (by simpa using passed)]
    simp only [disabled, Bool.not_false, if_true]
    have emits := emitTextDelta_emits content
    refine ⟨fun later => ?_, congrArg TextView.thinkingEnabled (emits.view _)⟩
    rw [emits.texts, singleton_append, forwarded, if_neg passed]
    exact congrArg (fun last => (⟨content ++ forwarded last later, []⟩ : Separated))
      (congrArg TextView.lastContent (emits.view _))

theorem emitStreamError_emits (errorType message : String) :
    Emits (emitStreamError errorType message) ⟨[], []⟩ := by
  constructor <;> intro state <;> unfold emitStreamError <;> split <;> rfl

theorem processFrame_forwards (disabled : state.thinkingEnabled = false) (frame : AwsEventFrame) :
    Forwards state (answerContent reader frame).toList (processFrame reader frame state) := by
  have silent : Forwards state [] ([], state) := forwards_nothing disabled rfl rfl
  have errors : ∀ errorType message, Forwards state [] (emitStreamError errorType message state) :=
    fun errorType message => forwards_nothing disabled
      ((emitStreamError_emits errorType message).texts state)
      ((emitStreamError_emits errorType message).view state)
  unfold processFrame answerContent
  by_cases event : frame.headers.messageType.getD "event" = "event"
  · simp only [event, if_true, true_and, processEventFrame]
    split
    · cases textField "content" (reader.payload frame) with
      | some content => exact processAssistantResponse_forwards disabled content.toList
      | none => exact silent
    · split
      · split
        · exact processToolUse_forwards disabled _ _ _ _
        · exact silent
      · split
        · split
          · exact forwards_nothing disabled rfl rfl
          · exact silent
        · exact silent
  · simp only [event, if_false, false_and, processExceptionFrame]
    split
    · split
      · exact forwards_nothing disabled rfl rfl
      · exact errors _ _
    · split
      · exact errors _ _
      · exact silent

theorem processFrames_forwards (frames : List AwsEventFrame) :
    ∀ {state}, state.thinkingEnabled = false →
      Forwards state (frames.filterMap (answerContent reader))
        (processFrames reader frames state) := by
  induction frames with
  | nil => exact fun disabled => forwards_nothing disabled rfl rfl
  | cons frame frames ih =>
    intro state disabled
    have first : Forwards state _ (processFrame reader frame state) :=
      processFrame_forwards disabled frame
    have both := first.andThen (ih first.disabled)
    cases found : answerContent reader frame <;> simpa [found, processFrames] using both

end KiroClaudeStreamState

namespace KiroToClaudeCliStreamState
open EventStreamDecoder
variable {reader : PayloadReader}

theorem pushAll_texts (chunks : List Bytes) : ∀ {adapter}, adapter.state.thinkingEnabled = false →
      textsOf (pushAll reader chunks adapter) =
        ⟨forwarded adapter.state.lastContent (answerContents reader adapter.decoder chunks), []⟩ := by
  induction chunks with
  | nil => exact fun _ => rfl
  | cons chunk chunks ih =>
    intro adapter disabled
    have starts : Forwards adapter.state []
        ((if adapter.started then update id else generateInitial) adapter.state) := by
      split
      · exact forwards_nothing disabled rfl rfl
      · have opens := ensureTextBlockOpen_emits
        simp only [generateInitial, disabled]
        exact forwards_nothing disabled ((textsOf_append _ _).trans (opens.texts _)) (opens.view _)
    have handles : Forwards adapter.state
        (((adapter.decoder.receive chunk).1.toOption.getD []).filterMap (answerContent reader))
        ((pushChunk reader chunk adapter).1, (pushChunk reader chunk adapter).2.state) := by
      refine starts.andThen ?_
      cases (adapter.decoder.receive chunk).1 with
      | ok frames => exact processFrames_forwards frames starts.disabled
      | error err =>
        have emits := emitStreamError_emits "upstream_stream_error" err
        exact forwards_nothing starts.disabled (emits.texts _) (emits.view _)
    have pieces : answerContents reader adapter.decoder (chunk :: chunks) = _ ++
        answerContents reader (pushChunk reader chunk adapter).2.decoder chunks :=
      filterMap_append
    rw [pushAll, textsOf_append, ih handles.disabled, pieces]
    exact handles.texts _

/-- With thinking disabled, all answer text goes out exactly if, of the contents that are
not empty, none is the same as the one before it. -/
theorem answer_text_forwarded_iff (reader : PayloadReader) (model messageId : String)
    (tokens : Nat) (cacheUsage : Option KiroStreamCacheUsage) (chunks : List Bytes) :
    (textsOf (pushAll reader chunks
        ⟨EventStreamDecoder.new, .new model messageId false tokens cacheUsage, false⟩)).answer =
        (answerContents reader EventStreamDecoder.new chunks).flatten ↔
      Distinct [] ((answerContents reader EventStreamDecoder.new chunks).filter (· ≠ [])) := by
  rw [pushAll_texts chunks rfl]
  exact forwarded_eq_iff _ []

/-- A frame with the content `ha`. -/
def contentFrameBytes : Bytes :=
  [0, 0, 0, 69, 0, 0, 0, 37, 190, 53, 220, 23, 11] ++ RustStd.asBytes ":event-type" ++ [7, 0, 22] ++
    RustStd.asBytes "assistantResponseEvent" ++ RustStd.asBytes "\x7b\"content\":\"ha\"\x7d" ++
    [69, 11, 78, 28]

def contentReader : PayloadReader where
  fromSlice := fun bytes =>
    if bytes = RustStd.asBytes "\x7b\"content\":\"ha\"\x7d" then
      some (.object [("content", .string "ha")])
    else none
  toText := fun _ => []
  contextInputTokens := fun _ => none

/-- The model answers `ha` twice and the second one is lost. -/
theorem repeated_content_dropped :
    answerContents contentReader EventStreamDecoder.new [contentFrameBytes, contentFrameBytes] =
        ["ha".toList, "ha".toList] ∧
      (textsOf (pushAll contentReader [contentFrameBytes, contentFrameBytes]
        ⟨EventStreamDecoder.new, .new "m" "msg" false 0 none, false⟩)).answer = "ha".toList := by
  decide +kernel

end KiroToClaudeCliStreamState

end Aeris.Kiro
