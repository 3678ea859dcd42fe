import Aeris.Base.Json

/-! Canonical stream frames: what the parsers of the upstream formats produce and the
emitters of the client formats consume. -/
namespace Aeris.Formats

open RustStd

structure CanonicalUsage where
  inputTokens : Nat
  inputTokensIncludeCache : Bool
  outputTokens : Nat
  totalTokens : Nat
  cacheCreationTokens : Nat
  cacheCreationEphemeral5mTokens : Nat
  cacheCreationEphemeral1hTokens : Nat
  cacheReadTokens : Nat
  reasoningTokens : Nat
  deriving DecidableEq, Repr

def CanonicalUsage.default : CanonicalUsage := ⟨0, false, 0, 0, 0, 0, 0, 0, 0⟩

inductive CanonicalContentPart where
  | imageUrl (url : String)
  | file (fileData reference mimeType filename : Option String)
  | audio (data format : String)
  deriving DecidableEq, Repr

inductive CanonicalStreamEvent where
  | start
  | textDelta (text : String)
  | reasoningDelta (text : String)
  | reasoningSummaryDone
  | reasoningSignature (signature : String)
  | contentPart (part : CanonicalContentPart)
  | imageGenerationCall (index : Nat) (item : Json)
  | openAiResponsesOutputItem (outputIndex : Option Nat) (item rawEvent : Json)
  | toolCallStart (index : Nat) (callId name : String)
  | toolCallSignature (index : Nat) (signature : String)
  | toolCallArgumentsDelta (index : Nat) (arguments : String)
  | toolResultDelta (index : Nat) (toolUseId : String) (name : Option String) (content : String)
  | citations (citations : List Json)
  | unknownEvent (payload : Json)
  | finish (finishReason : Option String) (usage : Option CanonicalUsage)
  deriving DecidableEq

structure CanonicalStreamFrame where
  id : String
  model : String
  event : CanonicalStreamEvent
  deriving DecidableEq

/-! ## Readers of JSON fields -/

def asStr : Json → Option String
  | .string text => some text
  | _ => none

/-- A text field without the blanks around it, if anything is left. -/
def textField (key : String) (value : Json) : Option String :=
  ((((value.get? key).bind asStr).map trim).filter (fun text => !text.isEmpty))

def startsWith (start text : String) : Bool := start.toList.isPrefixOf text.toList

def asciiLowercase (text : String) : String := String.ofList (text.toList.map Char.toLower)

def openaiImageOutputFormatToMimeType (outputFormat : String) : String :=
  let name := asciiLowercase (trim outputFormat)
  if name = "jpeg" ∨ name = "jpg" then "image/jpeg"
  else if name = "webp" then "image/webp"
  else if name = "gif" then "image/gif"
  else "image/png"

def contentPartFromOpenaiImageGenerationItem (item : Json) : Option CanonicalContentPart :=
  match textField "result" item with
  | some result =>
    if startsWith "data:image/" result || startsWith "http://" result ||
        startsWith "https://" result then some (.imageUrl result)
    else
      let mimeType := ((textField "mime_type" item).or
        (((item.get? "output_format").bind asStr).map
          openaiImageOutputFormatToMimeType)).getD "image/png"
      some (.imageUrl ("data:" ++ mimeType ++ ";base64," ++ result))
  | none => (textField "url" item).map .imageUrl

end Aeris.Formats
