import SprakCapture.Data.Text
import SprakCapture.Data.Wildcards
import SprakCapture.Plugins.DataPlane
import SprakCapture.ProcessCapture.UdpSettlement

/-!
# Packet filters

The filters are the last to see the bytes of a block or a datagram. A configuration is
compiled once, with every rule checked; the compiled rules then apply in their order. The
search for matches and the edit of a block index into it, so both are partial programs here.
-/

namespace SprakCapture.Plugins

open Data Data.Text

def maximumRules : Nat := 256

def maximumIdentifierBytes : Nat := 64

def maximumNameBytes : Nat := 128

def maximumHostBytes : Nat := 253

def maximumPatternTokens : Nat := 512

def maximumPacketBytes : Nat := 16 * 1024 * 1024

inductive PacketFilterTransport where
  | any
  | tcp
  | udp
deriving DecidableEq

inductive PacketFilterDirection where
  | any
  | up
  | down
deriving DecidableEq

inductive PacketFilterAction where
  | modify
  | drop
  | close
deriving DecidableEq

/-- A rule as it is stored; an empty host, port or pattern puts no condition on its field. -/
structure PacketFilterRule where
  id : String := ""
  name : String := ""
  enabled : Bool := false
  transport : PacketFilterTransport := .any
  direction : PacketFilterDirection := .any
  host : String := ""
  port : Option UInt16 := none
  minimumLength : Option Nat := none
  maximumLength : Option Nat := none
  pattern : String := ""
  replacement : String := ""
  action : PacketFilterAction := .modify
  replaceAll : Bool := false
  continueMatching : Bool := false

structure PacketFilterConfiguration where
  enabled : Bool := false
  rules : List PacketFilterRule := []

inductive PacketFilterError where
  | tooManyRules
  | invalidIdentifier
  | duplicateIdentifier
  | invalidName
  | invalidHost
  | invalidLength
  | invalidPattern
  | invalidReplacement
deriving DecidableEq

/-- A parsed sequence; a place without a byte is a wildcard. -/
structure CompiledBytePattern where
  bytes : List (Option UInt8)

structure CompiledRule where
  transport : PacketFilterTransport
  direction : PacketFilterDirection
  host : List Char
  port : Option UInt16
  minimumLength : Option Nat
  maximumLength : Option Nat
  pattern : Option CompiledBytePattern
  replacement : Option CompiledBytePattern
  action : PacketFilterAction
  replaceAll : Bool
  continueMatching : Bool

structure CompiledConfiguration where
  source : PacketFilterConfiguration
  rules : List CompiledRule

/-! ### Compilation -/

/-- Lower case without white space around it or dots at its end. -/
def normalizeHost (value : List Char) : List Char :=
  Text.toAsciiLowercase (trimEndWith (· == '.') (Text.trim value))

def validateText (value : List Char) (maximumBytes : Nat) : Bool :=
  let trimmed := Text.trim value
  !(trimmed.isEmpty || maximumBytes < utf8Length trimmed || trimmed.any isControl)

def validateHost (value : List Char) : Except PacketFilterError (List Char) :=
  let normalized := normalizeHost value
  if maximumHostBytes < utf8Length normalized || normalized.any isControl ||
      (normalized.contains '*' && !(['*', '.'].isPrefixOf normalized)) ||
      1 < normalized.count '*' || normalized == ['*', '.'] then
    .error .invalidHost
  else .ok normalized

def validateLengths (minimum maximum : Option Nat) : Except PacketFilterError Unit :=
  if minimum.any (fun value => value == 0 || maximumPacketBytes < value) ||
      maximum.any (fun value => value == 0 || maximumPacketBytes < value) ||
      minimum.any (fun least => maximum.any (· < least)) then
    .error .invalidLength
  else .ok ()

/-- `u8::from_str_radix` with radix 16, which also takes a plus sign in front. -/
def u8FromHex (token : List Char) : Option UInt8 :=
  let digits := if ['+'].isPrefixOf token then token.drop 1 else token
  if digits.isEmpty then none
  else do
    let value ← digits.foldlM (fun value char => do
      let digit ← hexDigit char
      if value * 16 + digit < 256 then some (value * 16 + digit) else none) 0
    some (UInt8.ofNat value)

def parseByteToken (allowWildcard : Bool) (token : List Char) : Option (Option UInt8) :=
  if allowWildcard && token == ['?', '?'] then some none
  else if utf8Length token = 2 then (u8FromHex token).map some
  else none

/-- The bytes of a sequence, or nothing for blank text. -/
def parseBytePattern (value : List Char) (allowWildcard : Bool) :
    Except Unit (Option (List (Option UInt8))) :=
  let trimmed := Text.trim value
  if trimmed.isEmpty then .ok none
  else
    let tokens := splitAsciiWhitespace trimmed
    if tokens.isEmpty || maximumPatternTokens < tokens.length then .error ()
    else match tokens.mapM (parseByteToken allowWildcard) with
      | some bytes => .ok (some bytes)
      | none => .error ()

def parsePattern (value : List Char) : Except PacketFilterError (Option CompiledBytePattern) :=
  match parseBytePattern value true with
  | .error () => .error .invalidPattern
  | .ok bytes => .ok (bytes.map fun bytes => ⟨bytes⟩)

/-- `Vec::resize` to a length that is not less, with wildcards. -/
def resizePattern (bytes : List (Option UInt8)) (length : Nat) : List (Option UInt8) :=
  bytes ++ List.replicate (length - bytes.length) none

def compileBytePatterns (rule : PacketFilterRule) :
    Except PacketFilterError (Option CompiledBytePattern × Option CompiledBytePattern) := do
  let pattern ← parsePattern rule.pattern.toList
  if rule.action ≠ .modify then
    if (Text.trim rule.replacement.toList).isEmpty then .ok (pattern, none)
    else .error .invalidReplacement
  else match pattern with
    | none => .error .invalidReplacement
    | some patternBytes =>
      match parseBytePattern rule.replacement.toList true with
      | .error () => .error .invalidReplacement
      | .ok none => .error .invalidReplacement
      | .ok (some replacement) =>
        let extended :=
          if patternBytes.bytes.length < replacement.length then
            resizePattern patternBytes.bytes replacement.length
          else patternBytes.bytes
        .ok (some ⟨extended⟩, some ⟨replacement⟩)

/-- Check a rule whose identifier is new, and compile it. -/
def compileRule (rule : PacketFilterRule) : Except PacketFilterError CompiledRule := do
  if !validateText rule.name.toList maximumNameBytes then .error .invalidName
  else
    let host ← validateHost rule.host.toList
    validateLengths rule.minimumLength rule.maximumLength
    let patterns ← compileBytePatterns rule
    .ok
      { transport := rule.transport, direction := rule.direction, host, port := rule.port,
        minimumLength := rule.minimumLength, maximumLength := rule.maximumLength,
        pattern := patterns.1, replacement := patterns.2, action := rule.action,
        replaceAll := rule.replaceAll, continueMatching := rule.continueMatching }

/-- Compile rule after rule; those that are not enabled are checked and left out. -/
def compileRules : List String → List PacketFilterRule →
    Except PacketFilterError (List CompiledRule)
  | _, [] => .ok []
  | identifiers, rule :: rules =>
    if !validateText rule.id.toList maximumIdentifierBytes then .error .invalidIdentifier
    else if identifiers.contains rule.id then .error .duplicateIdentifier
    else do
      let compiled ← compileRule rule
      let others ← compileRules (rule.id :: identifiers) rules
      .ok (if rule.enabled then compiled :: others else others)

def compileConfiguration (configuration : PacketFilterConfiguration) :
    Except PacketFilterError CompiledConfiguration :=
  if maximumRules < configuration.rules.length then .error .tooManyRules
  else do
    let rules ← compileRules [] configuration.rules
    .ok { source := configuration, rules }

/-! ### Matching and editing -/

namespace CompiledBytePattern

/-- The scan for matches from an offset on, for at most a number of turns. -/
def findFrom (pattern : CompiledBytePattern) (bytes : Bytes) (replaceAll : Bool) :
    Nat → Nat → Outcome Empty (List Nat)
  | 0, _ => .error .diverged
  | turns + 1, offset =>
    if offset + pattern.bytes.length ≤ bytes.length then do
      let window ← slice bytes offset (offset + pattern.bytes.length)
      if (pattern.bytes.zip window).all fun pair => pair.1.all (· == pair.2) then
        if replaceAll then do
          let others ← findFrom pattern bytes replaceAll turns (offset + pattern.bytes.length)
          pure (offset :: others)
        else pure [offset]
      else findFrom pattern bytes replaceAll turns (offset + 1)
    else pure []

/-- The first match, or all that do not overlap. The offset grows in every turn, so there
are turns enough. -/
def findOffsets (pattern : CompiledBytePattern) (bytes : Bytes) (replaceAll : Bool) :
    Outcome Empty (List Nat) :=
  if bytes.length < pattern.bytes.length then pure []
  else pattern.findFrom bytes replaceAll (bytes.length + 1) 0

end CompiledBytePattern

/-- The replacement at an offset. The source reads the byte that a place would keep whether
or not the place keeps it. -/
def replacementAt (bytes : Bytes) : Nat → List (Option UInt8) → Outcome Empty Bytes
  | _, [] => pure []
  | index, place :: places => do
      let original ← byteAt bytes index
      let others ← replacementAt bytes (index + 1) places
      pure (place.getD original :: others)

/-- The output behind a source offset, with the matches at the given offsets replaced. -/
def rebuildFrom (bytes : Bytes) (patternLength : Nat) (replacement : List (Option UInt8)) :
    Nat → List Nat → Outcome Empty Bytes
  | sourceOffset, [] => slice bytes sourceOffset bytes.length
  | sourceOffset, offset :: offsets => do
      let gap ← slice bytes sourceOffset offset
      let inserted ← replacementAt bytes offset replacement
      let rest ← rebuildFrom bytes patternLength replacement (offset + patternLength) offsets
      pure (gap ++ inserted ++ rest)

namespace CompiledRule

def matchesHost (rule : CompiledRule) (host : List Char) : Bool :=
  if rule.host.isEmpty then true
  else
    let candidate := normalizeHost host
    if ['*', '.'].isPrefixOf rule.host then
      let suffix := rule.host.drop 2
      suffix.isSuffixOf candidate &&
        (let before := candidate.take (candidate.length - suffix.length)
         ['.'].isSuffixOf before && 1 < utf8Length before)
    else candidate == rule.host

def matchesMetadata (rule : CompiledRule) (metadata : ConnectionMetadata)
    (direction : StreamDirection) (length : Nat) : Bool :=
  let transportMatches :=
    match rule.transport, metadata.transport with
    | .any, _ | .tcp, .tcp | .udp, .udp => true
    | _, _ => false
  let directionMatches :=
    match rule.direction, direction with
    | .any, _ | .up, .clientToServer | .down, .serverToClient => true
    | _, _ => false
  transportMatches && directionMatches && rule.matchesHost metadata.targetHost.toList &&
    rule.port.all (· == metadata.targetPort) && rule.minimumLength.all (· ≤ length) &&
    rule.maximumLength.all (length ≤ ·)

/-- The offsets of a rule that fires. -/
def matchingOffsets (rule : CompiledRule) (metadata : ConnectionMetadata)
    (direction : StreamDirection) (bytes : Bytes) : Outcome Empty (Option (List Nat)) :=
  if !rule.matchesMetadata metadata direction bytes.length then pure none
  else match rule.pattern with
    | none => pure (some [0])
    | some pattern => do
        let offsets ← pattern.findOffsets bytes rule.replaceAll
        pure (if offsets.isEmpty then none else some offsets)

def applyReplacement (rule : CompiledRule) (bytes : Bytes) (offsets : List Nat) :
    Outcome Empty Bytes := do
  let pattern ← Outcome.expect rule.pattern
  let replacement ← Outcome.expect rule.replacement
  let removedBytes := pattern.bytes.length * offsets.length
  let _ ← Outcome.checkedSub bytes.length removedBytes
  rebuildFrom bytes pattern.bytes.length replacement.bytes 0 offsets

end CompiledRule

/-- Apply rules in their order, each to what the one before made of the bytes. -/
def processRules (metadata : ConnectionMetadata) (direction : StreamDirection) :
    List CompiledRule → Bytes → Outcome Empty PacketFilterResult
  | [], bytes => pure (.forward bytes)
  | rule :: rules, bytes => do
      match ← rule.matchingOffsets metadata direction bytes with
      | none => processRules metadata direction rules bytes
      | some offsets =>
        match rule.action with
        | .modify => do
            let output ← rule.applyReplacement bytes offsets
            if rule.continueMatching then processRules metadata direction rules output
            else pure (.forward output)
        | .drop => pure .drop
        | .close => pure .close

/-- `PacketFilterRuntime::process` under the configuration in force. -/
def CompiledConfiguration.process (compiled : CompiledConfiguration)
    (metadata : ConnectionMetadata) (direction : StreamDirection) (bytes : Bytes) :
    Outcome Empty PacketFilterResult :=
  if !compiled.source.enabled then pure (.forward bytes)
  else processRules metadata direction compiled.rules bytes

end SprakCapture.Plugins
