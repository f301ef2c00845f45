import SprakCapture.Data.IpText

/-!
# Location patterns

A rule names the messages that it is for by a pattern of protocol, host, ports, path and query.
A message carries the location that was resolved for it.
-/

namespace SprakCapture.Location

open Data

inductive LocationError where
  | invalidProtocol
  | invalidHost
  | invalidPort
  | invalidPath
  | invalidCandidate
deriving DecidableEq

/-- The locations of a rule; an empty text stands for every value. -/
structure LocationPattern where
  protocol : List Char
  host : List Char
  port : List Char
  path : List Char
  query : Option (List Char)
deriving DecidableEq

/-- The location that a message was resolved to. -/
structure ResolvedLocation where
  protocol : List Char
  host : List Char
  port : UInt16
  path : List Char
  query : List Char
  display : List Char
deriving DecidableEq

structure LocationMatchOptions where
  caseSensitiveHost : Bool
  normalizePath : Bool

def LocationMatchOptions.default : LocationMatchOptions where
  caseSensitiveHost := false
  normalizePath := true

/-! ### Wildcards -/

/-- Where a pattern stops to follow a candidate: at the end of the candidate, at a star, or at a
character that differs. -/
inductive Walk where
  | ended (pattern : List Char)
  | star (pattern candidate : List Char)
  | miss
deriving DecidableEq

/-- Follow a candidate through equal characters and question marks. -/
def walk : List Char → List Char → Walk
  | pattern, [] => .ended pattern
  | [], _ :: _ => .miss
  | expected :: pattern, char :: candidate =>
    if expected = '?' ∨ expected = char then walk pattern candidate
    else if expected = '*' then .star pattern (char :: candidate)
    else .miss

/-- What is left of the pattern at the end of the candidate consists of stars. -/
def onlyStars (pattern : List Char) : Bool := pattern.all (· == '*')

/-- Try the pattern behind the latest star at each later place of the candidate. A star that is
reached takes the place of the latest one. -/
def retry (next : List Char → List Char → Bool) (pattern : List Char) : List Char → Bool
  | [] => onlyStars pattern
  | char :: candidate =>
    match walk pattern (char :: candidate) with
    | .ended rest => onlyStars rest
    | .star rest remaining => next rest remaining
    | .miss => retry next pattern candidate

/-- Match behind a star, where the pattern has at most the given number of characters. -/
def matchBehindStar : Nat → List Char → List Char → Bool
  | 0 => fun pattern _ => pattern.isEmpty
  | characters + 1 => retry (matchBehindStar characters)

/-- `*` stands for any text and `?` for one character; a star that meets a star of the candidate
is taken for that character. -/
def wildcardMatches (pattern candidate : List Char) : Bool :=
  match walk pattern candidate with
  | .ended rest => onlyStars rest
  | .star rest remaining => matchBehindStar rest.length rest remaining
  | .miss => false

def hasWildcard (text : List Char) : Bool := text.contains '*' || text.contains '?'

/-! ### Validation -/

def protocols : List String :=
  ["*", "http", "https", "ws", "wss", "socks", "tcp", "tls", "udp"]

def validateProtocol (protocol : List Char) : Except LocationError Unit :=
  if protocol.isEmpty ∨ String.ofList (Text.toAsciiLowercase protocol) ∈ protocols then .ok ()
  else .error .invalidProtocol

def stripIpv6Brackets (host : List Char) : List Char :=
  if host.head? = some '[' ∧ host.tail.getLast? = some ']' then host.tail.dropLast else host

/-- A question mark that is followed by an assignment or a separator. -/
def containsQuerySyntax (host : List Char) : Bool :=
  let suffix := (host.dropWhile (· != '?')).drop 1
  suffix.contains '=' || suffix.contains '&'

def validateHost (host : List Char) : Except LocationError Unit := do
  if host.isEmpty ∨ host = ['*'] then return ()
  if host.any Text.isWhitespace ∨ host.contains '/' ∨ host.contains '#' ∨
      containsQuerySyntax host then
    throw .invalidHost
  let hasOpeningBracket := host.head? = some '['
  let hasClosingBracket := host.getLast? = some ']'
  if ¬ (hasOpeningBracket ↔ hasClosingBracket) then throw .invalidHost
  let normalizedHost := stripIpv6Brackets host
  if normalizedHost.isEmpty then throw .invalidHost
  if hasOpeningBracket ∧ ¬ IpText.isIpv6Text normalizedHost then throw .invalidHost
  if normalizedHost.contains ':' ∧ (IpText.IpAddr.parse normalizedHost).isNone then
    throw .invalidHost

def validatePath (path : List Char) : Except LocationError Unit :=
  if path.isEmpty ∨ path = ['*'] ∨ path.head? = some '/' then .ok () else .error .invalidPath

def parsePort (value : List Char) : Except LocationError UInt16 :=
  match Text.parseUnsigned (2 ^ 16) (Text.trim value) with
  | some port => if port = 0 then .error .invalidPort else .ok (UInt16.ofNat port)
  | none => .error .invalidPort

/-- One port or a closed range of ports. -/
def parsePortSegment (segment : List Char) : Except LocationError (UInt16 × UInt16) := do
  let segment := Text.trim segment
  if segment.isEmpty then throw .invalidPort
  match segment.splitOn '-' with
  | [] => throw .invalidPort
  | [bound] =>
    let start ← parsePort bound
    return (start, start)
  | first :: second :: others =>
    let start ← parsePort first
    let stop ← parsePort second
    if !others.isEmpty ∨ stop < start then throw .invalidPort
    return (start, stop)

/-- The ranges of an expression; none of them stands for every port. -/
def parsePortRanges (portExpression : List Char) : Except LocationError (List (UInt16 × UInt16)) :=
  let trimmedExpression := Text.trim portExpression
  if trimmedExpression.isEmpty ∨ trimmedExpression = ['*'] then .ok []
  else (trimmedExpression.splitOn ',').mapM parsePortSegment

def validateLocationPattern (pattern : LocationPattern) : Except LocationError Unit := do
  validateProtocol pattern.protocol
  validateHost pattern.host
  let _ ← parsePortRanges pattern.port
  validatePath pattern.path

def validateCandidate (candidate : ResolvedLocation) : Except LocationError Unit :=
  if candidate.protocol.isEmpty ∨ candidate.host.isEmpty ∨ candidate.port = 0 ∨
      (!candidate.path.isEmpty ∧ candidate.path.head? ≠ some '/') ∨
      candidate.protocol = ['*'] ∨ (validateProtocol candidate.protocol).isOk = false ∨
      (validateHost candidate.host).isOk = false ∨ hasWildcard candidate.host then
    .error .invalidCandidate
  else .ok ()

/-! ### Matching -/

def matchesProtocol (pattern candidate : List Char) : Bool :=
  pattern.isEmpty || pattern == ['*'] ||
    Text.toAsciiLowercase pattern == Text.toAsciiLowercase candidate

/-- `toLowercase` is `str::to_lowercase`, which follows the tables of Unicode. -/
def matchesHost (toLowercase : List Char → List Char) (pattern candidate : List Char)
    (caseSensitive : Bool) : Bool :=
  if pattern.isEmpty ∨ pattern = ['*'] then true
  else
    let pattern := stripIpv6Brackets pattern
    let candidate := stripIpv6Brackets candidate
    if caseSensitive then wildcardMatches pattern candidate
    else wildcardMatches (toLowercase pattern) (toLowercase candidate)

def matchesPort (portExpression : List Char) (candidate : UInt16) : Except LocationError Bool := do
  let ranges ← parsePortRanges portExpression
  return ranges.isEmpty || ranges.any fun range => range.1 ≤ candidate && candidate ≤ range.2

/-- Without the slashes at its end, except for the root. -/
def normalizedPath (path : List Char) (normalize : Bool) : List Char :=
  if !normalize ∨ path = ['/'] then path
  else
    let normalized := Text.trimEndWith (· == '/') path
    if normalized.isEmpty then ['/'] else normalized

def matchesPath (pattern candidate : List Char) (normalizePath : Bool) : Bool :=
  if pattern.isEmpty ∨ pattern = ['*'] then true
  else
    let pattern := normalizedPath pattern normalizePath
    let candidate := normalizedPath candidate normalizePath
    if hasWildcard pattern then wildcardMatches pattern candidate
    else candidate == pattern || (pattern ++ ['/']).isPrefixOf candidate

def matchesQuery (pattern : Option (List Char)) (candidate : List Char) : Bool :=
  match pattern with
  | none => true
  | some pattern =>
    if pattern.isEmpty ∨ pattern = ['*'] then true
    else if hasWildcard pattern then wildcardMatches pattern candidate
    else candidate.tails.any pattern.isPrefixOf

def locationMatches (toLowercase : List Char → List Char) (pattern : LocationPattern)
    (candidate : ResolvedLocation) (options : LocationMatchOptions) :
    Except LocationError Bool := do
  validateLocationPattern pattern
  validateCandidate candidate
  if !matchesProtocol pattern.protocol candidate.protocol then return false
  if !matchesHost toLowercase pattern.host candidate.host options.caseSensitiveHost then
    return false
  if !(← matchesPort pattern.port candidate.port) then return false
  if !matchesPath pattern.path candidate.path options.normalizePath then return false
  return matchesQuery pattern.query candidate.query

end SprakCapture.Location
