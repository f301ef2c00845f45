import SprakCapture.Data.Fields
import SprakCapture.HttpProxy.RequestTarget

/-!
# Headers of forwarded messages

`removeHopByHopHeaders` takes the fields away that are meant for one connection, and
`synchronizeBodyLength` writes the length of a body that was read as a whole. The names of fields
are in lower case.
-/

namespace SprakCapture.HttpProxy

open Data

abbrev HeaderMap := Fields (List Char) (List Char)

def contentLengthName : List Char := "content-length".toList
def transferEncodingName : List Char := "transfer-encoding".toList
def connectionName : List Char := "connection".toList
def contentTypeName : List Char := "content-type".toList
def hostName : List Char := "host".toList

/-- The fields that are removed from every message. -/
def hopByHopNames : List (List Char) :=
  [connectionName, "keep-alive".toList, "proxy-authenticate".toList,
    "proxy-authorization".toList, "te".toList, "trailer".toList, transferEncodingName,
    "upgrade".toList, "proxy-connection".toList]

/-- The fields that a message declares as those of its connection. `headerName` is the parser of
field names. -/
def declaredNames (headerName : List Char → Option (List Char)) (headers : HeaderMap) :
    List (List Char) :=
  (((headers.getAll connectionName).filterMap headerText).flatMap (·.splitOn ',')).filterMap
    fun name => headerName (Text.trim name)

def removeHopByHopHeaders (headerName : List Char → Option (List Char)) (headers : HeaderMap) :
    HeaderMap :=
  (headers.removeAll (declaredNames headerName headers)).removeAll hopByHopNames

/-- The decimal text of a length. -/
def decimalText (length : Nat) : List Char := (Nat.repr length).toList

def synchronizeBodyLength (headers : HeaderMap) (bodyLength : Nat) : HeaderMap :=
  ((headers.remove contentLengthName).remove transferEncodingName).insert contentLengthName
    (decimalText bodyLength)

/-- A single `text/event-stream`, with parameters or without. -/
def isEventStream (headers : HeaderMap) : Bool :=
  match headers.getAll contentTypeName with
  | [value] =>
    match headerText value with
    | none => false
    | some text =>
      match text.splitOn ';' with
      | [] => false
      | mediaType :: _ => eqIgnoreAsciiCase (Text.trim mediaType) "text/event-stream".toList
  | _ => false

/-- A single length that can be read. -/
def declaredResponseBodyLength (headers : HeaderMap) : Option Nat :=
  match headers.getAll contentLengthName with
  | [value] => (headerText value).bind fun text => Text.parseUnsigned (2 ^ 64) (Text.trim text)
  | _ => none

/-! ### What is left of the fields -/

variable (headerName : List Char → Option (List Char)) (headers : HeaderMap) (bodyLength : Nat)
  (name : List Char)

@[simp] theorem getAll_synchronizeBodyLength :
    (synchronizeBodyLength headers bodyLength).getAll name =
      if name = contentLengthName then [decimalText bodyLength]
      else if name = transferEncodingName then [] else headers.getAll name := by
  rw [synchronizeBodyLength, Fields.getAll_insert]
  simp_all

theorem declaredNames_synchronizeBodyLength :
    declaredNames headerName (synchronizeBodyLength headers bodyLength) =
      declaredNames headerName headers := by
  have same : (synchronizeBodyLength headers bodyLength).getAll connectionName =
      headers.getAll connectionName := by
    rw [getAll_synchronizeBodyLength, if_neg (by decide), if_neg (by decide)]
  rw [declaredNames, same, declaredNames]

@[simp] theorem getAll_removeHopByHopHeaders :
    (removeHopByHopHeaders headerName headers).getAll name =
      if name ∈ hopByHopNames ∨ name ∈ declaredNames headerName headers then []
      else headers.getAll name := by
  rw [removeHopByHopHeaders, Fields.getAll_removeAll, Fields.getAll_removeAll]
  grind

-- The names are texts, which are slow to unfold; the lemmas above say what is needed.
attribute [irreducible] removeHopByHopHeaders synchronizeBodyLength

end SprakCapture.HttpProxy
