import Aeris.Base.JsonText
import Aeris.Runtime.Queue

/-! Dead letters of the usage queue: the size that is reserved before an entry is
encoded, the encoding under that bound, and how the payload is read back. -/
namespace Aeris.Usage

open RustStd Aeris.Runtime

inductive DataLayerError where
  | invalidConfiguration (message : String)
  | invalidInput (message : String)
  | postgres (message : String)
  | redis (message : String)
  | sql (message : String)
  /-- A driver error with the database's error code, if it has one. -/
  | sqlx (message : String) (code : Option String)
  | timedOut (message : String)
  | unexpectedValue (message : String)
  deriving DecidableEq, Repr

namespace DataLayerError

/-- `to_string`. -/
def text : DataLayerError → String
  | invalidConfiguration message => "invalid configuration: " ++ message
  | invalidInput message => "invalid input: " ++ message
  | postgres message => "postgres error: " ++ message
  | redis message => "redis error: " ++ message
  | sql message => "sql error: " ++ message
  | sqlx message _ => "sqlx error: " ++ message
  | timedOut message => "operation timed out: " ++ message
  | unexpectedValue message => "unexpected database value: " ++ message

def isForeignKeyViolation : DataLayerError → Bool
  | sqlx _ code => code = some "23503"
  | postgres message | sql message =>
    contains message "SQLSTATE 23503" || contains message "violates foreign key constraint"
  | _ => false

end DataLayerError

def databaseErrorIsKnownPermanent (message : String) : Bool :=
  contains message "SQLSTATE 23503" || contains message "violates foreign key constraint"

def usageEventRecordErrorIsPermanent : DataLayerError → Bool
  | .invalidConfiguration _ | .invalidInput _ | .unexpectedValue _ => true
  | .postgres message | .sql message => databaseErrorIsKnownPermanent message
  | .redis _ | .timedOut _ => false
  | .sqlx message code => (DataLayerError.sqlx message code).isForeignKeyViolation

/-! ## The size of an encoding -/

structure EncodingSize where
  json : Nat
  total : Nat
  deriving DecidableEq, Repr

def emptyEnvelopeBytes : Nat := 38

def checkedEncodingSize (raw fieldCount : Nat) : Option EncodingSize :=
  (checkedMul raw 6).bind fun strings =>
    (checkedMul fieldCount 6).bind fun marks =>
      (checkedAdd strings marks).bind fun inner =>
        (checkedAdd inner emptyEnvelopeBytes).bind fun json =>
          (checkedAdd raw json).map fun total => ⟨json, total⟩

def rawFieldBytes : Nat → List (String × String) → Option Nat
  | raw, [] => some raw
  | raw, (key, value) :: rest =>
    (checkedAdd raw (byteLen key)).bind fun raw =>
      (checkedAdd raw (byteLen value)).bind fun raw => rawFieldBytes raw rest

def encodingSize (entry : RuntimeQueueEntry) (error : String) : Option EncodingSize :=
  (checkedAdd (byteLen entry.id) (byteLen error)).bind fun raw =>
    (rawFieldBytes raw entry.fields.entries).bind fun raw =>
      checkedEncodingSize raw entry.fields.size

/-! ## The payload -/

/-- `DeadLetterPayload`, its fields in the order of the struct. -/
def deadLetterPayload (entry : RuntimeQueueEntry) (error : String) : Json :=
  .object [("entry_id", .string entry.id),
    ("fields", .object (entry.fields.entries.map fun field => (field.1, .string field.2))),
    ("error", .string error)]

def deadLetterText (entry : RuntimeQueueEntry) (error : String) : String :=
  String.ofList (JsonText.write (deadLetterPayload entry error))

def deadLetterFields (entry : RuntimeQueueEntry) (error : String) : OrderedTable String String :=
  OrderedTable.empty.insert "payload" (deadLetterText entry error)

structure DeadLetter where
  entryId : String
  fields : List (String × String)
  error : String
  deriving DecidableEq, Repr

def asText : Json → Option String
  | .string text => some text
  | _ => none

def textFields : List (String × Json) → Option (List (String × String))
  | [] => some []
  | (key, value) :: rest =>
    (asText value).bind fun value => (textFields rest).map fun rest => (key, value) :: rest

/-- What a stored dead letter says: the payload, read as JSON. -/
def readDeadLetter (fields : OrderedTable String String) : Option DeadLetter :=
  (fields.get? "payload").bind fun payload =>
    (JsonText.read payload.toList).bind fun value =>
      ((value.get? "entry_id").bind asText).bind fun entryId =>
        ((value.get? "error").bind asText).bind fun error =>
          match value.get? "fields" with
          | some (.object inner) => (textFields inner).map fun inner => ⟨entryId, inner, error⟩
          | _ => none

theorem textFields_strings (fields : List (String × String)) :
    textFields (fields.map fun field => (field.1, .string field.2)) = some fields := by
  induction fields with
  | nil => rfl
  | cons field rest ih => simp [textFields, asText, ih]

theorem readable_strings (fields : List (String × String)) :
    JsonText.ReadableFields (fields.map fun field => (field.1, .string field.2)) := by
  induction fields with
  | nil => exact trivial
  | cons field rest ih => exact ⟨trivial, ih⟩

theorem readDeadLetter_deadLetterFields (entry : RuntimeQueueEntry) (error : String) :
    readDeadLetter (deadLetterFields entry error) =
      some ⟨entry.id, entry.fields.entries, error⟩ := by
  have readable : JsonText.Readable (deadLetterPayload entry error) :=
    ⟨trivial, readable_strings entry.fields.entries, trivial, trivial⟩
  have back := JsonText.read_write readable
  rw [readDeadLetter, deadLetterFields, OrderedTable.get?_insert_self, Option.bind_some,
    deadLetterText, String.toList_ofList, back]
  simp [deadLetterPayload, Json.get?, asText, textFields_strings]

end Aeris.Usage
