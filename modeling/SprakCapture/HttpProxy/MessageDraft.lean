import SprakCapture.Data.Bytes

/-!
# Drafts of messages

A suspended message is shown as a draft, and it goes on with the draft that comes back. A draft
is checked before it is accepted: as a request or as a response, since each of them has fields
that the other does not have.
-/

namespace SprakCapture.HttpProxy

open Data

/-- The parts of a URI that its parser tells apart. -/
structure Uri where
  scheme : Option (List Char)
  authority : Option (List Char)
  path : List Char
  query : Option (List Char)
deriving DecidableEq

/-- What the libraries for HTTP messages and base64 make of a text. -/
structure HttpLibrary where
  isMethod : String → Bool
  parseUri : String → Option Uri
  headerName : String → Option String
  isHeaderValue : String → Bool
  decodeBase64 : String → Option Bytes

structure HeaderField where
  name : String
  value : String
deriving DecidableEq

structure EditableHttpMessage where
  method : Option String
  url : Option String
  statusCode : Option UInt16
  reason : Option String
  headers : List HeaderField
  bodyBase64 : String
deriving DecidableEq

inductive MessageDraftError where
  | tooManyHeaders
  | invalidHeaderName
  | invalidHeaderValue
  | invalidBodyBase64
  | bodyTooLarge
  | invalidRequestMethod
  | invalidRequestUrl
  | invalidResponseStatus
  | unsupportedReason
deriving DecidableEq

def maximumEditableBodyBytes : Nat := 8 * 1024 * 1024

def maximumEditableBodyCharacters : Nat := (maximumEditableBodyBytes + 2) / 3 * 4

def maximumEditableHeaders : Nat := 256

def maximumEditableMethodCharacters : Nat := 32

def maximumEditableUrlCharacters : Nat := 8192

variable (http : HttpLibrary)

def nonEmpty (value : Option String) : Bool := value.any fun text => !text.isEmpty

def headerMap (fields : List HeaderField) : Except MessageDraftError (List (String × String)) :=
  if maximumEditableHeaders < fields.length then .error .tooManyHeaders
  else
    fields.mapM fun field =>
      match http.headerName field.name with
      | none => .error .invalidHeaderName
      | some name =>
        if http.isHeaderValue field.value then .ok (name, field.value)
        else .error .invalidHeaderValue

def decodeBody (encoded : String) : Except MessageDraftError Bytes :=
  if maximumEditableBodyCharacters < encoded.utf8ByteSize then .error .bodyTooLarge
  else
    match http.decodeBase64 encoded with
    | none => .error .invalidBodyBase64
    | some body => if maximumEditableBodyBytes < body.length then .error .bodyTooLarge else .ok body

/-- A URL goes to a server over HTTP or HTTPS. -/
def parseAbsoluteUri (value : String) : Except MessageDraftError Uri :=
  match http.parseUri value with
  | none => .error .invalidRequestUrl
  | some uri =>
    if (uri.scheme ≠ some "http".toList ∧ uri.scheme ≠ some "https".toList) ∨
        uri.authority = none ∨ uri.path.head? ≠ some '/' then
      .error .invalidRequestUrl
    else .ok uri

/-- The checks that requests and responses have in common. -/
def validateSharedDraft (draft : EditableHttpMessage) : Except MessageDraftError Unit := do
  let _ ← headerMap http draft.headers
  let _ ← decodeBody http draft.bodyBase64

def validateRequestDraft (draft : EditableHttpMessage) : Except MessageDraftError Unit := do
  if draft.statusCode.isSome ∨ nonEmpty draft.reason then throw .invalidRequestUrl
  if let some method := draft.method then
    if maximumEditableMethodCharacters < method.utf8ByteSize then throw .invalidRequestMethod
    if !http.isMethod method then throw .invalidRequestMethod
  if let some url := draft.url then
    if maximumEditableUrlCharacters < url.utf8ByteSize then throw .invalidRequestUrl
    let _ ← parseAbsoluteUri http url
  validateSharedDraft http draft

def validateResponseDraft (draft : EditableHttpMessage) : Except MessageDraftError Unit := do
  if draft.method.isSome ∨ draft.url.isSome then throw .invalidResponseStatus
  if let some statusCode := draft.statusCode then
    if statusCode < 100 ∨ 1000 ≤ statusCode then throw .invalidResponseStatus
  if nonEmpty draft.reason then throw .unsupportedReason
  validateSharedDraft http draft

/-- The stages of a message at which it can be suspended. -/
inductive BreakpointPhase where
  | request
  | response
deriving DecidableEq

/-- The check of a draft that is to replace a message in a phase. -/
def validateDraft : BreakpointPhase → EditableHttpMessage → Except MessageDraftError Unit
  | .request => validateRequestDraft http
  | .response => validateResponseDraft http

end SprakCapture.HttpProxy
