import SprakCapture.Data.Utf8
import SprakCapture.HttpProxy.RequestTarget

/-!
# What a tunnel carries

The beginning of what a client sends through a tunnel tells whether the tunnel carries HTTP, TLS
or something else. The bytes are looked at where they are and not taken from the connection, so
a tunnel that is not inspected loses nothing. An index or a slice outside of the bytes is the
fault `outOfBounds`.
-/

namespace SprakCapture.Control

open Data HttpProxy Location

/-- What to do with a tunnel, and the host that it names if its route does not depend on that. -/
inductive TunnelClassification where
  | raw
  | rawTls (logicalHost : Option (List Char))
  | http (logicalHost : Option (List Char))
  | https (logicalHost : Option (List Char))
  | needMoreBytes
deriving DecidableEq

/-- The host that the beginning of a connection names. -/
inductive HostExtraction where
  | needMoreBytes
  | absent
  | host (name : List Char)
deriving DecidableEq

/-- The method at the beginning of a request, by its length. -/
inductive HttpMethodScan where
  | complete (length : Nat)
  | needMoreBytes
  | invalid
deriving DecidableEq

def maximumMethodBytes : Nat := 32

/-! ### TLS -/

/-- A 16-bit length in network order, if there are two bytes for it. -/
def readU16 (bytes : Bytes) (offset : Nat) : Outcome Empty (Option Nat) :=
  if offset + 2 ≤ bytes.length then do
    let pair ← slice bytes offset (offset + 2)
    let high ← byteAt pair 0
    let low ← byteAt pair 1
    return some (u16FromBe high low).toNat
  else return none

/-- The host of the text of a server name. -/
def serverName (uris : UriLibrary) (name : Bytes) : HostExtraction :=
  match Utf8.decode name with
  | none => .absent
  | some host => if uris.isAuthority host then .host (uris.host host) else .absent

/-- The loop over the entries of a server name extension. -/
def serverNameEntries (uris : UriLibrary) (extension : Bytes) :
    Nat → Nat → Outcome Empty HostExtraction
  | 0, _ => .error .diverged
  | turns + 1, cursor =>
    if cursor < extension.length then
      match extension[cursor]? with
      | none => return .absent
      | some nameType => do
          let some nameLength ← readU16 extension (cursor + 1) | return .absent
          let nameEnd := cursor + 3 + nameLength
          if extension.length < nameEnd then return .absent
          if nameType = 0 then
            return serverName uris (← slice extension (cursor + 3) nameEnd)
          serverNameEntries uris extension turns nameEnd
    else return .absent

/-- The first host name of a server name extension. -/
def extractServerNameExtension (uris : UriLibrary) (extension : Bytes) :
    Outcome Empty HostExtraction := do
  let some listLength ← readU16 extension 0 | return .absent
  if listLength + 2 ≠ extension.length then return .absent
  serverNameEntries uris extension (extension.length + 1) 2

/-- The loop over the extensions of a ClientHello. -/
def helloExtensions (uris : UriLibrary) (hello : Bytes) (extensionsEnd : Nat) :
    Nat → Nat → Outcome Empty HostExtraction
  | 0, _ => .error .diverged
  | turns + 1, cursor =>
    if cursor < extensionsEnd then do
      let some extensionType ← readU16 hello cursor | return .absent
      let some extensionLength ← readU16 hello (cursor + 2) | return .absent
      let extensionEnd := cursor + 4 + extensionLength
      if extensionsEnd < extensionEnd then return .absent
      if extensionType = 0 then
        extractServerNameExtension uris (← slice hello (cursor + 4) extensionEnd)
      else helloExtensions uris hello extensionsEnd turns extensionEnd
    else return .absent

/-- The server name of a ClientHello. -/
def helloServerName (uris : UriLibrary) (hello : Bytes) : Outcome Empty HostExtraction := do
  if hello.length < 35 then return .absent
  let cursor := 35 + (← byteAt hello 34).toNat
  let some cipherLength ← readU16 hello cursor | return .absent
  let cursor := cursor + 2 + cipherLength
  let some compressionLength := hello[cursor]? | return .absent
  let cursor := cursor + 1 + compressionLength.toNat
  let some extensionsLength ← readU16 hello cursor | return .absent
  let extensionsEnd := cursor + 2 + extensionsLength
  if hello.length < extensionsEnd then return .absent
  helloExtensions uris hello extensionsEnd (hello.length + 1) (cursor + 2)

/-- The server name of a whole handshake record. -/
def recordServerName (uris : UriLibrary) (record : Bytes) : Outcome Empty HostExtraction := do
  if record.length < 4 then return .absent
  if (← byteAt record 0) ≠ 0x01 then return .absent
  let high ← byteAt record 1
  let middle ← byteAt record 2
  let low ← byteAt record 3
  let handshakeLength := high.toNat * 65536 + middle.toNat * 256 + low.toNat
  if record.length < handshakeLength + 4 then return .absent
  helloServerName uris (← slice record 4 (4 + handshakeLength))

/-- A minor version of TLS from 1.0 to 1.3. -/
def isTlsMinor (byte : UInt8) : Bool := 1 ≤ byte && byte ≤ 4

/-- The server name of the ClientHello that is the first record of a connection. -/
def extractTlsServerName (uris : UriLibrary) (probeCapacityBytes : Nat) (arrived : Bytes) :
    Outcome Empty HostExtraction := do
  if arrived.length < 5 then return .needMoreBytes
  let first ← byteAt arrived 0
  let major ← byteAt arrived 1
  let minor ← byteAt arrived 2
  if first ≠ 0x16 ∨ major ≠ 0x03 ∨ !isTlsMinor minor then return .absent
  let recordLength ← u16At arrived 3
  let recordEnd := 5 + recordLength.toNat
  if probeCapacityBytes < recordEnd then return .absent
  if arrived.length < recordEnd then return .needMoreBytes
  recordServerName uris (← slice arrived 5 recordEnd)

/-! ### HTTP -/

/-- A byte of the tokens of HTTP. -/
def isHttpTokenByte (byte : UInt8) : Bool :=
  (48 ≤ byte && byte ≤ 57) || (65 ≤ byte && byte ≤ 90) || (97 ≤ byte && byte ≤ 122) ||
    (Utf8.encode "!#$%&'*+-.^_`|~".toList).contains byte

/-- The scan behind a number of bytes. -/
def scanHttpMethodFrom : Nat → Bytes → HttpMethodScan
  | _, [] => .needMoreBytes
  | index, byte :: bytes =>
    if byte = 32 then if index = 0 then .invalid else .complete index
    else if maximumMethodBytes ≤ index ∨ !isHttpTokenByte byte then .invalid
    else scanHttpMethodFrom (index + 1) bytes

/-- A token that a space ends. -/
def scanHttpMethod (arrived : Bytes) : HttpMethodScan := scanHttpMethodFrom 0 arrived

/-- The empty line behind the headers. -/
def headerTerminator : Bytes := [13, 10, 13, 10]

/-- Where the headers end, with the empty line. -/
def findHeaderEnd : Bytes → Option Nat
  | [] => none
  | byte :: bytes =>
    if headerTerminator.isPrefixOf (byte :: bytes) then some 4
    else (findHeaderEnd bytes).map (· + 1)

/-- The lines between line breaks of HTTP. -/
def splitCrLf : List Char → List (List Char)
  | [] => [[]]
  | '\r' :: '\n' :: text => [] :: splitCrLf text
  | char :: text => (splitCrLf text).modifyHead (char :: ·)

/-- What stands before and behind the first colon. -/
def splitAtColon (line : List Char) : Option (List Char × List Char) :=
  match line.dropWhile (· != ':') with
  | [] => none
  | _ :: value => some (line.takeWhile (· != ':'), value)

/-- The value of a line that is a Host header. -/
def hostValue (line : List Char) : Option (List Char) := do
  let (name, value) ← splitAtColon line
  if eqIgnoreAsciiCase name "host".toList then some (Text.trim value) else none

def authorityPort (uris : UriLibrary) (authority : List Char) : UInt16 :=
  (uris.portU16 authority).getD 80

def authoritiesEquivalent (uris : UriLibrary) (left right : List Char) : Bool :=
  eqIgnoreAsciiCase (uris.host left) (uris.host right) &&
    authorityPort uris left == authorityPort uris right

/-- Without opening brackets at the beginning and closing brackets at the end. -/
def withoutBrackets (host : List Char) : List Char :=
  Text.trimEndWith (· == ']') (host.dropWhile (· == '['))

def authorityMatchesTarget (uris : UriLibrary) (authority targetHost : List Char)
    (targetPort : UInt16) : Bool :=
  eqIgnoreAsciiCase (uris.host authority) (withoutBrackets targetHost) &&
    authorityPort uris authority == targetPort

/-- The beginning of a request target in absolute form. -/
def absoluteStart : List Char := "http://".toList

/-- The authority of a request target; `none` when the target is not one of plain HTTP. -/
def requestAuthority (uris : UriLibrary) (requestTarget : List Char) :
    Option (Option (List Char)) :=
  if absoluteStart.isPrefixOf requestTarget then
    match uris.parseUri requestTarget with
    | none => none
    | some uri =>
      match uri.authority with
      | none => none
      | some authority => if uri.scheme = some "http".toList then some (some authority) else none
  else if requestTarget.head? = some '/' then some none
  else none

/-- The authority of the only Host header; HTTP/1.0 can do without. -/
def hostAuthority (uris : UriLibrary) (httpVersion : List Char) (lines : List (List Char)) :
    Option (Option (List Char)) :=
  match lines.filterMap hostValue with
  | [] => if httpVersion = "HTTP/1.0".toList then some none else none
  | [value] => if uris.isAuthority value then some (some value) else none
  | _ :: _ :: _ => none

/-- The authorities of a head in the request target and in the Host header. -/
def headAuthorities (uris : UriLibrary) (headerText : List Char) :
    Option (Option (List Char) × Option (List Char)) :=
  match splitCrLf headerText with
  | [] => none
  | requestLine :: lines =>
    match Text.splitAsciiWhitespace requestLine with
    | [_, requestTarget, httpVersion] =>
      if httpVersion ≠ "HTTP/1.0".toList ∧ httpVersion ≠ "HTTP/1.1".toList then none
      else do
        let inTarget ← requestAuthority uris requestTarget
        let inHost ← hostAuthority uris httpVersion lines
        some (inTarget, inHost)
    | _ => none

/-- Where a tunnel goes. `routePinned` says that the names in it do not change its route. -/
structure TunnelTarget where
  host : List Char
  port : UInt16
  routePinned : Bool

/-- The request target and the Host header name different endpoints. -/
def authoritiesConflict (uris : UriLibrary) : Option (List Char) → Option (List Char) → Bool
  | some requested, some host => !authoritiesEquivalent uris requested host
  | _, _ => false

/-- The classification of a tunnel by a whole head. -/
def classifyHttpHead (uris : UriLibrary) (target : TunnelTarget) (headerText : List Char) :
    TunnelClassification :=
  match headAuthorities uris headerText with
  | none => .raw
  | some (inTarget, inHost) =>
    if authoritiesConflict uris inTarget inHost then .raw
    else
      match inHost <|> inTarget with
      | none => .http none
      | some authority =>
        if authorityPort uris authority ≠ target.port then .raw
        else if !target.routePinned ∧
            !authorityMatchesTarget uris authority target.host target.port then .raw
        else .http (if target.routePinned then some (uris.host authority) else none)

/-- What a client of HTTP/2 sends first. -/
def http2Preface : Bytes := Utf8.encode "PRI * HTTP/2.0\r\n\r\nSM\r\n\r\n".toList

def classifyHttpPrefix (uris : UriLibrary) (target : TunnelTarget) (probeCapacityBytes : Nat)
    (arrived : Bytes) : Outcome Empty TunnelClassification := do
  let comparedLength := min arrived.length http2Preface.length
  if (← slice arrived 0 comparedLength) = (← slice http2Preface 0 comparedLength) then
    return if http2Preface.length ≤ arrived.length then .http none else .needMoreBytes
  match scanHttpMethod arrived with
  | .needMoreBytes => return .needMoreBytes
  | .invalid => return .raw
  | .complete _ =>
    match findHeaderEnd arrived with
    | none => return if arrived.length = probeCapacityBytes then .raw else .needMoreBytes
    | some headerEnd =>
      match Utf8.decode (← slice arrived 0 headerEnd) with
      | none => return .raw
      | some headerText => return classifyHttpHead uris target headerText

/-! ### Classification -/

/-- The location that the rules for TLS are asked about. -/
def tlsLocation (host : List Char) (port : UInt16) : ResolvedLocation where
  protocol := "https".toList
  host
  port
  path := []
  query := []
  display :=
    "https://".toList ++ (if host.contains ':' then '[' :: host ++ [']'] else host) ++
      ':' :: Nat.toDigits 10 port.toNat

/-- The classification of a ClientHello. -/
def classifyHello (target : TunnelTarget) (shouldIntercept : ResolvedLocation → Bool)
    (logicalHost : Option (List Char)) : TunnelClassification :=
  if shouldIntercept (tlsLocation (logicalHost.getD target.host) target.port) then
    .https logicalHost
  else .rawTls logicalHost

def classifyTlsPrefix (uris : UriLibrary) (target : TunnelTarget)
    (shouldIntercept : ResolvedLocation → Bool) (probeCapacityBytes : Nat) (arrived : Bytes) :
    Outcome Empty TunnelClassification := do
  if arrived.head? ≠ some 0x16 then return .raw
  if arrived.length < 3 then return .needMoreBytes
  let major ← byteAt arrived 1
  let minor ← byteAt arrived 2
  if major ≠ 0x03 ∨ !isTlsMinor minor then return .raw
  if arrived.length < 5 then return .needMoreBytes
  let recordLength ← u16At arrived 3
  if recordLength = 0 then return .raw
  if arrived.length < 6 then return .needMoreBytes
  if (← byteAt arrived 5) ≠ 0x01 then return .raw
  if !target.routePinned then return classifyHello target shouldIntercept none
  match ← extractTlsServerName uris probeCapacityBytes arrived with
  | .needMoreBytes => return .needMoreBytes
  | .host name => return classifyHello target shouldIntercept (some name)
  | .absent => return classifyHello target shouldIntercept none

/-- The classification of the bytes that have arrived. -/
def classifyClientPrefix (uris : UriLibrary) (target : TunnelTarget)
    (shouldIntercept : ResolvedLocation → Bool) (probeCapacityBytes : Nat) (arrived : Bytes) :
    Outcome Empty TunnelClassification := do
  let httpClassification ← classifyHttpPrefix uris target probeCapacityBytes arrived
  if httpClassification ≠ .raw then return httpClassification
  classifyTlsPrefix uris target shouldIntercept probeCapacityBytes arrived

/-! ### The task that classifies -/

/-- What the task that classifies a tunnel waits for. -/
inductive TunnelWake where
  | cancelled
  /-- The time for the classification is over. -/
  | deadline
  /-- The server speaks, so the client does not have to speak first. -/
  | remoteReadable
  /-- The client has sent the bytes so far; none at all when it has closed the connection. -/
  | clientReadable (sent : Bytes)

/-- The error of a task that was cancelled. -/
inductive TunnelInterrupted where
  | interrupted
deriving DecidableEq

/-- Classify a tunnel as its connections become readable. At the end of the list the task still
waits for more bytes. -/
def classifyTunnel (uris : UriLibrary) (target : TunnelTarget)
    (shouldIntercept : ResolvedLocation → Bool) (probeCapacityBytes : Nat) :
    List TunnelWake → Outcome TunnelInterrupted TunnelClassification
  | [] => return .needMoreBytes
  | .cancelled :: _ => .raise .interrupted
  | .deadline :: _ => return .raw
  | .remoteReadable :: _ => return .raw
  | .clientReadable sent :: wakes => do
      let probe := sent.take probeCapacityBytes
      if probe.isEmpty then return .raw
      let classification ← (classifyClientPrefix uris target shouldIntercept probeCapacityBytes
        probe).mapError Empty.elim
      if classification = .needMoreBytes then
        classifyTunnel uris target shouldIntercept probeCapacityBytes wakes
      else return classification

/-- The task wakes up after each piece of what a client sends. -/
def arrivals : Bytes → List Bytes → List TunnelWake
  | _, [] => []
  | sent, piece :: pieces => .clientReadable (sent ++ piece) :: arrivals (sent ++ piece) pieces

end SprakCapture.Control
