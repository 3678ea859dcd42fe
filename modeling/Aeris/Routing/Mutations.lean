import Aeris.Base.Json

/-! Routing mutations: JSON patches of the request body and patches of its
headers, with the checks that guard them. A patch writes in place, so every
function here returns the value it leaves behind together with its result. -/
namespace Aeris.Routing

open RustStd

inductive MutationError where
  | invalidJsonPointer (path : String)
  | reservedJsonPath (path : String)
  | missingTarget (pointer : String)
  | invalidParent (pointer : String)
  | reservedHeader (name : String)
  | invalidHeaderName (name : String)
  deriving DecidableEq, Repr

def MutationError.message : MutationError → String
  | .invalidJsonPointer path => "json patch path must be an absolute JSON pointer: " ++ path
  | .reservedJsonPath path => "json patch cannot target reserved path: " ++ path
  | .missingTarget pointer => "json patch target does not exist: " ++ pointer
  | .invalidParent pointer => "json patch parent is not an object: " ++ pointer
  | .reservedHeader name => "header patch targets reserved header: " ++ name
  | .invalidHeaderName name => "header patch has invalid header name: " ++ name

inductive RoutingJsonPatchOperation where
  | add (path : String) (value : Json)
  | replace (path : String) (value : Json)
  | remove (path : String)
  deriving DecidableEq

def RoutingJsonPatchOperation.path : RoutingJsonPatchOperation → String
  | .add path _ | .replace path _ | .remove path => path

inductive RoutingHeaderPatch where
  | set (name value : String)
  | remove (name : String)
  deriving DecidableEq, Repr

def RoutingHeaderPatch.name : RoutingHeaderPatch → String
  | .set name _ | .remove name => name

structure MutationPlan where
  bodyPatch : List RoutingJsonPatchOperation
  headerPatch : List RoutingHeaderPatch

/-! ## The request body -/

def validateJsonPointer (path : String) : Except MutationError Unit :=
  if path.toList.head? = some '/' then .ok () else .error (.invalidJsonPointer path)

def isReservedJsonPath (path : String) : Bool :=
  path ∈ ["/authorization", "/api_key", "/provider_secret", "/upstream_url",
    "/upstream_base_url", "/auth"]

def validateJsonPatchOperations : List RoutingJsonPatchOperation → Except MutationError Unit
  | [] => .ok ()
  | operation :: rest =>
    match validateJsonPointer operation.path with
    | .error error => .error error
    | .ok () =>
      if isReservedJsonPath operation.path then .error (.reservedJsonPath operation.path)
      else validateJsonPatchOperations rest

/-- `str::replace` of two characters by one, from left to right. -/
def replacePair (first second new : Char) : List Char → List Char
  | a :: b :: rest =>
    if a = first ∧ b = second then new :: replacePair first second new rest
    else a :: replacePair first second new (b :: rest)
  | short => short

/-- Leading slashes, doubled slashes and a slash at the end leave no token behind. -/
def pointerTokens (pointer : String) : List String :=
  (((pointer.toList.dropWhile (· = '/')).splitOn '/').filter (fun part => !part.isEmpty)).map
    (fun part => String.ofList (replacePair '~' '0' '~' (replacePair '~' '1' '/' part)))

example : pointerTokens "//auth/" = ["auth"] ∧ pointerTokens "/" = [] ∧
    pointerTokens "/a~1b/~01" = ["a/b", "~1"] := by
  decide +kernel

abbrev Edited := Json × Except MutationError Unit

/-- The walk of `descend_mut` to the place where `edit` then writes. On the way a null
becomes an object with one empty object inside. -/
def descendMut (pointer : String) (edit : Json → Edited) : List String → Json → Edited
  | [], current => edit current
  | token :: rest, .object fields =>
    match Json.get? token (.object fields) with
    | none => (.object fields, .error (.missingTarget pointer))
    | some child =>
      (.object (Json.insertField token (descendMut pointer edit rest child).1 fields),
        (descendMut pointer edit rest child).2)
  | token :: rest, .null =>
    (.object [(token, (descendMut pointer edit rest (.object [])).1)],
      (descendMut pointer edit rest (.object [])).2)
  | _ :: _, current => (current, .error (.invalidParent pointer))

def insertLeaf (pointer leaf : String) (value : Json) (allowCreate : Bool) : Json → Edited
  | .object fields =>
    if !allowCreate && (Json.get? leaf (.object fields)).isNone then
      (.object fields, .error (.missingTarget pointer))
    else (.object (Json.insertField leaf value fields), .ok ())
  | parent => (parent, .error (.invalidParent pointer))

def removeLeaf (pointer leaf : String) : Json → Edited
  | .object fields =>
    match Json.get? leaf (.object fields) with
    | none => (.object fields, .error (.missingTarget pointer))
    | some _ => (.object (Json.removeField leaf fields), .ok ())
  | parent => (parent, .error (.invalidParent pointer))

def setJsonPointer (root : Json) (pointer : String) (value : Json) (allowCreate : Bool) : Edited :=
  match (pointerTokens pointer).getLast? with
  | none => (value, .ok ())
  | some leaf =>
    descendMut pointer (insertLeaf pointer leaf value allowCreate)
      (pointerTokens pointer).dropLast root

def removeJsonPointer (root : Json) (pointer : String) : Edited :=
  match (pointerTokens pointer).getLast? with
  | none => (.null, .ok ())
  | some leaf => descendMut pointer (removeLeaf pointer leaf) (pointerTokens pointer).dropLast root

def applyJsonPatchOperation (body : Json) : RoutingJsonPatchOperation → Edited
  | .add path value => setJsonPointer body path value true
  | .replace path value => setJsonPointer body path value false
  | .remove path => removeJsonPointer body path

def applyInOrder (body : Json) : List RoutingJsonPatchOperation → Edited
  | [] => (body, .ok ())
  | operation :: rest =>
    match applyJsonPatchOperation body operation with
    | (body, .ok ()) => applyInOrder body rest
    | (body, .error error) => (body, .error error)

def applyJsonPatchOperations (body : Json) (operations : List RoutingJsonPatchOperation) : Edited :=
  match validateJsonPatchOperations operations with
  | .error error => (body, .error error)
  | .ok () => applyInOrder body operations

/-! ## The headers -/

def reservedHeaders : List String :=
  ["authorization", "proxy-authorization", "x-api-key", "api-key", "x-goog-api-key", "cookie",
    "cookie2", "set-cookie"]

def aetherInternalHeaderStart : String := "x-aether-"

def toAsciiLowercase (text : String) : String := String.ofList (text.toList.map Char.toLower)

def startsWith (start text : String) : Bool := start.toList.isPrefixOf text.toList

def isReservedHeader (name : String) : Bool :=
  name ∈ reservedHeaders || startsWith aetherInternalHeaderStart name

def validateHeaderItem (item : RoutingHeaderPatch) : Except MutationError Unit :=
  let name := toAsciiLowercase (trim item.name)
  if name.isEmpty || name.toList.any (fun c => !(c.isAlphanum || c = '-')) then
    .error (.invalidHeaderName item.name)
  else if isReservedHeader name then .error (.reservedHeader item.name)
  else .ok ()

def validateHeaderPatch : List RoutingHeaderPatch → Except MutationError Unit
  | [] => .ok ()
  | item :: rest =>
    match validateHeaderItem item with
    | .error error => .error error
    | .ok () => validateHeaderPatch rest

/-- The characters that may stand in a header name (the `http` crate's table). -/
def isHeaderNameChar (c : Char) : Bool :=
  c.isAlphanum || c ∈ "!#$%&'*+-.^_`|~".toList

/-- `HeaderName::from_bytes`: names are compared without case, so a name is kept in lower
case. Nothing is trimmed. -/
def headerNameFromBytes (name : String) : Option String :=
  if name.isEmpty || byteLen name > 65535 || !name.toList.all isHeaderNameChar then none
  else some (toAsciiLowercase name)

/-- `HeaderValue::from_str`: visible ASCII, blanks and tabs. -/
def headerValueFromStr (value : String) : Option String :=
  if value.toList.all (fun c => (32 ≤ c.toNat && c.toNat < 127) || c = '\t') then some value
  else none

/-- The values of every header name, names in lower case. -/
abbrev HeaderMap := List (String × String)

def HeaderMap.getAll (headers : HeaderMap) (name : String) : List String :=
  (headers.filter (fun header => header.1 = name)).map Prod.snd

def HeaderMap.remove (headers : HeaderMap) (name : String) : HeaderMap :=
  headers.filter (fun header => header.1 ≠ name)

def HeaderMap.insert (headers : HeaderMap) (name value : String) : HeaderMap :=
  headers.remove name ++ [(name, value)]

def applyHeaderItem (headers : HeaderMap) :
    RoutingHeaderPatch → HeaderMap × Except MutationError Unit
  | .set name value =>
    match headerNameFromBytes name with
    | none => (headers, .error (.invalidHeaderName name))
    | some headerName =>
      match headerValueFromStr value with
      | none => (headers, .error (.invalidHeaderName headerName))
      | some headerValue => (headers.insert headerName headerValue, .ok ())
  | .remove name =>
    match headerNameFromBytes name with
    | none => (headers, .error (.invalidHeaderName name))
    | some headerName => (headers.remove headerName, .ok ())

def applyHeadersInOrder (headers : HeaderMap) :
    List RoutingHeaderPatch → HeaderMap × Except MutationError Unit
  | [] => (headers, .ok ())
  | item :: rest =>
    match applyHeaderItem headers item with
    | (headers, .ok ()) => applyHeadersInOrder headers rest
    | (headers, .error error) => (headers, .error error)

def applyHeaderPatch (headers : HeaderMap) (patch : List RoutingHeaderPatch) :
    HeaderMap × Except MutationError Unit :=
  match validateHeaderPatch patch with
  | .error error => (headers, .error error)
  | .ok () => applyHeadersInOrder headers patch

/-! ## The plan -/

inductive GatewayError where
  | client (status : Nat) (message : String)
  deriving DecidableEq, Repr

def invalidRoutingMutation : GatewayError := .client 400 "invalid routing mutation"

def applyRoutingMutationPlan (body : Json) (headers : HeaderMap) (plan : MutationPlan) :
    Json × HeaderMap × Except GatewayError Unit :=
  match applyJsonPatchOperations body plan.bodyPatch with
  | (body, .error _) => (body, headers, .error invalidRoutingMutation)
  | (body, .ok ()) =>
    match applyHeaderPatch headers plan.headerPatch with
    | (headers, .error _) => (body, headers, .error invalidRoutingMutation)
    | (headers, .ok ()) => (body, headers, .ok ())

end Aeris.Routing
