import SprakCapture.HttpProxy.MessageDraft
import SprakCapture.Location.Matcher

/-!
# Targets of requests

A request that the proxy forwards needs an absolute URI, a Host header and the location that
rules are matched with. They are made of the URI of the request and its Host header, or of the
URI that a tool has put in their place.
-/

namespace SprakCapture.HttpProxy

open Data Location

/-- What the library for HTTP makes of texts. An authority is kept as its text. -/
structure UriLibrary where
  parseUri : List Char → Option Uri
  isAuthority : List Char → Bool
  host : List Char → List Char
  portU16 : List Char → Option UInt16
  isHeaderValue : List Char → Bool

/-- The text of a URI. -/
def Uri.display (uri : Uri) : List Char :=
  let start := match uri.scheme with
    | some scheme => scheme ++ "://".toList
    | none => []
  let query := match uri.query with
    | some query => '?' :: query
    | none => []
  start ++ uri.authority.getD [] ++ uri.path ++ query

/-- The failures of requests that their targets lead to. -/
inductive RequestFailure where
  | invalidRequest
  | unsupportedScheme
deriving DecidableEq

/-- Where a request goes, and the location that it is recorded with. -/
structure HttpTarget where
  upstreamUri : Uri
  hostHeader : List Char
  location : ResolvedLocation
deriving DecidableEq

/-- A request as it is read from a connection. The names of its headers are in lower case. -/
structure Request where
  uri : Uri
  headers : List (List Char × List Char)
deriving DecidableEq

/-- The first value of a header. -/
def Request.header (request : Request) (name : List Char) : Option (List Char) :=
  (request.headers.find? (·.1 = name)).map Prod.snd

/-- `HeaderValue::to_str`: the value if it consists of visible ASCII characters, spaces and
tabulators. -/
def headerText (value : List Char) : Option (List Char) :=
  if value.all (fun char => (32 ≤ char.toNat && char.toNat < 127) || char == '\t') then some value
  else none

def eqIgnoreAsciiCase (left right : List Char) : Bool :=
  Text.toAsciiLowercase left == Text.toAsciiLowercase right

variable (uris : UriLibrary)

/-- An authority without the port that its scheme stands for, with an IPv6 address in brackets. -/
def canonicalAuthority (host : List Char) (port defaultPort : UInt16) :
    Except RequestFailure (List Char) :=
  let authorityHost :=
    if host.contains ':' ∧ host.head? ≠ some '[' then '[' :: host ++ [']'] else host
  let value :=
    if port = defaultPort then authorityHost
    else authorityHost ++ ':' :: Nat.toDigits 10 port.toNat
  if uris.isAuthority value then .ok value else .error .invalidRequest

def canonicalHostHeader (host : List Char) (port defaultPort : UInt16) :
    Except RequestFailure (List Char) := do
  let authority ← canonicalAuthority uris host port defaultPort
  if uris.isHeaderValue authority then return authority else throw .invalidRequest

/-- The URI of a request in origin form, with the authority of its Host header. -/
def buildAbsoluteUri (request : Request) : Except RequestFailure Uri :=
  if request.uri.path.head? ≠ some '/' then .error .invalidRequest
  else
    match (request.header "host".toList).bind headerText with
    | none => .error .invalidRequest
    | some authority =>
      if uris.isAuthority authority then
        .ok { request.uri with scheme := some "http".toList, authority := some authority }
      else .error .invalidRequest

/-- The target that the authority, the path and the query of a URI name. -/
def targetOf (scheme : List Char) (defaultPort : UInt16) (uri : Uri) :
    Except RequestFailure HttpTarget :=
  match uri.authority with
  | none => .error .invalidRequest
  | some authority => do
      let host := uris.host authority
      if host.isEmpty then throw .invalidRequest
      let port := (uris.portU16 authority).getD defaultPort
      let canonical ← canonicalAuthority uris host port defaultPort
      let upstreamUri : Uri := { uri with scheme := some scheme, authority := some canonical }
      let hostHeader ← canonicalHostHeader uris host port defaultPort
      if uri.path.head? ≠ some '/' then throw .invalidRequest
      return {
        upstreamUri
        hostHeader
        location := {
          protocol := scheme
          host
          port
          path := uri.path
          query := uri.query.getD []
          display := upstreamUri.display } }

/-- The absolute URI of a request. -/
def absoluteUri (request : Request) : Except RequestFailure Uri :=
  if request.uri.scheme.isSome then .ok request.uri else buildAbsoluteUri uris request

/-- The target of a request that a client sent in clear text. -/
def parseHttpTarget (request : Request) : Except RequestFailure HttpTarget := do
  let upstreamUri ← absoluteUri uris request
  if upstreamUri.scheme ≠ some "http".toList then throw .unsupportedScheme
  targetOf uris "http".toList 80 upstreamUri

/-- The target of a request whose URI a tool may have replaced. -/
def parsePipelineTarget (uri : Uri) : Except RequestFailure HttpTarget :=
  match uri.scheme with
  | none => .error .invalidRequest
  | some scheme =>
    if scheme = "http".toList then targetOf uris scheme 80 uri
    else if scheme = "https".toList then targetOf uris scheme 443 uri
    else .error .unsupportedScheme

/-! ### What the library is relied on for -/

/-- What the handlers of requests rely on: the host of an authority is an authority itself, with a
port and without, and the parts of a parsed URI are what they are taken for. -/
structure UriLibrary.Lawful : Prop where
  host_isAuthority : ∀ authority, uris.isAuthority authority → uris.host authority ≠ [] →
    uris.isAuthority (uris.host authority)
  host_port_isAuthority : ∀ authority (port : UInt16), uris.isAuthority authority →
    uris.host authority ≠ [] →
      uris.isAuthority (uris.host authority ++ ':' :: Nat.toDigits 10 port.toNat)
  host_brackets : ∀ authority, uris.isAuthority authority →
    (uris.host authority).contains ':' → (uris.host authority).head? = some '['
  isHeaderValue : ∀ authority, uris.isAuthority authority → uris.isHeaderValue authority
  authority_of_uri : ∀ text uri authority, uris.parseUri text = some uri →
    uri.authority = some authority → uris.isAuthority authority
  path_of_absolute : ∀ text uri, uris.parseUri text = some uri → uri.scheme = some "http".toList →
    uri.path.head? = some '/'
  origin : ∀ text uri, text.head? = some '/' → uris.parseUri text = some uri →
    uri.scheme = none ∧ uri.path.head? = some '/'

variable {uris} {authority : List Char}

theorem canonicalAuthority_total (lawful : uris.Lawful) (isAuthority : uris.isAuthority authority)
    (named : uris.host authority ≠ []) (port defaultPort : UInt16) :
    ∃ canonical, canonicalAuthority uris (uris.host authority) port defaultPort = .ok canonical ∧
      uris.isAuthority canonical := by
  have unbracketed : ¬((uris.host authority).contains ':' ∧
      (uris.host authority).head? ≠ some '[') :=
    fun colon => colon.2 (lawful.host_brackets authority isAuthority colon.1)
  rw [canonicalAuthority]
  split
  · have valid := lawful.host_isAuthority authority isAuthority named
    exact ⟨_, if_pos valid, valid⟩
  · have valid := lawful.host_port_isAuthority authority port isAuthority named
    exact ⟨_, if_pos valid, valid⟩

/-- A URI with an authority that names a host, and with a path, has a target. -/
theorem targetOf_total (lawful : uris.Lawful) {uri : Uri} (isSome : uri.authority = some authority)
    (isAuthority : uris.isAuthority authority) (named : uris.host authority ≠ [])
    (path : uri.path.head? = some '/') (scheme : List Char) (defaultPort : UInt16) :
    ∃ target, targetOf uris scheme defaultPort uri = .ok target := by
  obtain ⟨canonical, isCanonical, valid⟩ := canonicalAuthority_total lawful isAuthority named
    ((uris.portU16 authority).getD defaultPort) defaultPort
  have nonempty : (uris.host authority).isEmpty = false := by simpa using named
  simp only [targetOf, isSome, nonempty, canonicalHostHeader, isCanonical, Checked.ok_bind,
    lawful.isHeaderValue canonical valid, path]
  exact ⟨_, rfl⟩

theorem targetOf_eq_ok {uri : Uri} {scheme : List Char} {defaultPort : UInt16}
    {target : HttpTarget} (done : targetOf uris scheme defaultPort uri = .ok target) :
    ∃ authority canonical, uri.authority = some authority ∧ uris.host authority ≠ [] ∧
      target.location.host = uris.host authority ∧
      target.location.port = (uris.portU16 authority).getD defaultPort ∧
      canonicalAuthority uris (uris.host authority) ((uris.portU16 authority).getD defaultPort)
        defaultPort = .ok canonical ∧
      target.upstreamUri.authority = some canonical ∧
      target.upstreamUri.scheme = some scheme := by
  rw [targetOf] at done
  cases isSome : uri.authority with
  | none =>
    rw [isSome] at done
    cases done
  | some authority =>
    simp only [isSome] at done
    split at done
    · cases done
    rename_i named
    obtain ⟨canonical, made, done⟩ := Checked.bind_eq_ok.mp done
    obtain ⟨_, _, done⟩ := Checked.bind_eq_ok.mp done
    split at done
    · cases done
    cases done
    exact ⟨authority, canonical, rfl, by simpa using named, rfl, rfl, made, rfl, rfl⟩

theorem parseHttpTarget_of_uri {request : Request} {uri : Uri}
    (isUri : absoluteUri uris request = .ok uri) (scheme : uri.scheme = some "http".toList) :
    parseHttpTarget uris request = targetOf uris "http".toList 80 uri := by
  rw [parseHttpTarget, isUri, Checked.ok_bind, if_neg (not_not.mpr scheme)]

theorem eq_of_headerText {value text : List Char} (isText : headerText value = some text) :
    text = value := by
  grind [headerText]

/-- A request without an absolute URI has the authority that its Host header is. -/
theorem absoluteUri_origin {request : Request} (scheme : request.uri.scheme = none)
    (path : request.uri.path.head? = some '/') :
    absoluteUri uris request = match (request.header "host".toList).bind headerText with
      | none => .error .invalidRequest
      | some authority =>
        if uris.isAuthority authority then
          .ok { request.uri with scheme := some "http".toList, authority := some authority }
        else .error .invalidRequest := by
  rw [absoluteUri, scheme, buildAbsoluteUri, if_neg (not_not.mpr path)]
  rfl

end SprakCapture.HttpProxy
