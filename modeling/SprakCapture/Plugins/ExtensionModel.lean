import SprakCapture.Data.Bytes

/-!
# Stage events and actions of Mods

The exchange format between the host and its Mods: JSON values, the stages of an event, the
actions a Mod may answer with and the envelope that carries an event to a Mod.
-/

namespace SprakCapture.Plugins

open Data

/-- A number as `serde_json` keeps it. -/
inductive JsonNumber where
  | posInt (value : UInt64)
  | negInt (value : Int64)
  | float (bits : UInt64)
deriving DecidableEq

inductive JsonValue where
  | null
  | bool (value : Bool)
  | number (value : JsonNumber)
  | string (value : String)
  | array (items : List JsonValue)
  | object (fields : List (String × JsonValue))

namespace JsonValue

/-- The value of a field; anything but an object has none. -/
def get (value : JsonValue) (field : String) : Option JsonValue :=
  match value with
  | object fields => fields.lookup field
  | _ => none

def asArray : JsonValue → Option (List JsonValue)
  | array items => some items
  | _ => none

def asU64 : JsonValue → Option UInt64
  | number (.posInt value) => some value
  | _ => none

end JsonValue

/-- The stages in which the host publishes events to Mods. -/
inductive Stage where
  | serviceStarting
  | serviceStarted
  | configurationChanged
  | serviceStopping
  | connectionAccepted
  | socks5Authentication
  | protocolClassified
  | targetResolving
  | beforeConnect
  | connected
  | connectionClosing
  | clientHelloObserved
  | certificateSelecting
  | tlsEstablished
  | tlsFailed
  | requestHeaders
  | requestBodyChunk
  | requestComplete
  | beforeUpstream
  | responseHeaders
  | responseBodyChunk
  | responseComplete
  | webSocketOpening
  | webSocketFrame
  | webSocketClosing
  | tcpChunk
  | udpDatagram
  | dnsMessage
  | beforeRecord
  | transactionUpdated
  | transactionCompleted
  | recordingCleared
  | inspectorDataRequested
  | commandInvoked
  | contextActionInvoked
deriving DecidableEq

/-- The actions a Mod may answer with; `pass` is the source's `Continue`. -/
inductive ActionKind where
  | pass
  | modify
  | hold
  | drop
  | reject
  | respond
  | redirect
  | annotate
  | close
deriving DecidableEq

inductive FailurePolicy where
  | failClosed
  | failOpen
deriving DecidableEq

inductive InterceptionMode where
  | intercept
  | observeOnly
deriving DecidableEq

inductive ModuleKind where
  | trafficHandler
  | streamTransformer
  | protocolDecoder
  | recordingPolicy
  | bodyViewer
  | mediaRenderer
  | importer
  | exporter
  | commandProvider
  | uiContribution
  | backgroundService
deriving DecidableEq

/-- What is known about the connection, process and transaction of an event. -/
structure StageContext where
  entry : Option String := none
  processId : Option UInt32 := none
  processName : Option String := none
  processPath : Option String := none
  transport : Option String := none
  protocol : Option String := none
  direction : Option String := none
  scheme : Option String := none
  host : Option String := none
  address : Option String := none
  port : Option UInt16 := none
  method : Option String := none
  path : Option String := none
  statusCode : Option UInt16 := none
  mimeType : Option String := none
  labels : List String := []
  interceptionMode : InterceptionMode := .intercept

/-- An event on its way to a Mod. -/
structure EventEnvelope where
  apiVersion : String
  eventId : String
  stage : Stage
  serviceGeneration : UInt64
  recordingGeneration : UInt64
  pluginInstanceId : String
  connectionId : Option String
  transactionId : Option String
  deadlineUnixMs : UInt64
  context : StageContext
  payload : JsonValue

/-- The answer of a Mod. -/
structure ExtensionAction where
  eventId : String
  action : ActionKind
  patch : List JsonValue
  annotations : List JsonValue
  output : Option JsonValue

/-- The actions that a stage allows. -/
def availableActions : Stage → List ActionKind
  | .serviceStarting | .configurationChanged => [.pass, .reject]
  | .serviceStarted | .tlsEstablished | .tlsFailed | .connectionClosing | .webSocketClosing
  | .transactionUpdated | .transactionCompleted => [.pass, .annotate]
  | .serviceStopping | .recordingCleared => [.pass]
  | .connectionAccepted | .clientHelloObserved | .webSocketOpening => [.pass, .reject, .annotate]
  | .socks5Authentication => [.pass, .respond, .reject, .close, .annotate]
  | .protocolClassified | .targetResolving | .certificateSelecting =>
    [.pass, .modify, .reject, .annotate]
  | .beforeConnect => [.pass, .redirect, .reject, .annotate]
  | .connected => [.pass, .annotate]
  | .requestHeaders => [.pass, .modify, .respond, .reject, .annotate]
  | .requestBodyChunk => [.pass, .modify, .hold, .drop, .reject]
  | .requestComplete => [.pass, .respond, .reject, .annotate]
  | .beforeUpstream => [.pass, .redirect, .respond, .reject]
  | .responseHeaders => [.pass, .modify, .reject, .annotate]
  | .responseBodyChunk => [.pass, .modify, .hold, .drop, .close]
  | .responseComplete => [.pass, .annotate]
  | .webSocketFrame => [.pass, .modify, .drop, .close, .annotate]
  | .tcpChunk => [.pass, .modify, .hold, .drop, .close, .annotate]
  | .udpDatagram => [.pass, .modify, .drop, .reject, .annotate]
  | .dnsMessage => [.pass, .modify, .respond, .reject, .annotate]
  | .beforeRecord => [.pass, .drop, .annotate]
  | .inspectorDataRequested => [.pass, .annotate]
  | .commandInvoked | .contextActionInvoked => [.pass, .respond, .reject]

/-! ### Matching rules -/

/-- `str::to_ascii_lowercase`. -/
def toAsciiLowercase (text : String) : String := text.map Char.toLower

def startsWith (text start : String) : Bool := start.toList.isPrefixOf text.toList

def endsWith (text ending : String) : Bool := ending.toList.isSuffixOf text.toList

def exactMatch (rule value : String) : Bool := rule == value

/-- `str::split_once` at an asterisk. -/
def splitOnceAtAsterisk (rule : String) : Option (String × String) :=
  match rule.toList.span (· ≠ '*') with
  | (_, []) => none
  | (before, _ :: after) => some (String.ofList before, String.ofList after)

def wildcardMatch (rule value : String) : Bool :=
  if rule == "*" then true
  else
    match splitOnceAtAsterisk rule with
    | none => rule == value
    | some (start, ending) =>
      decide (start.utf8ByteSize + ending.utf8ByteSize ≤ value.utf8ByteSize) &&
        startsWith value start && endsWith value ending

def matchesValue (rules : List String) (value : Option String)
    (predicate : String → String → Bool) : Bool :=
  rules.isEmpty || value.any fun value =>
    rules.any fun rule => predicate rule (toAsciiLowercase value)

/-- A compiled network is the test whether a text is an address inside it. -/
def matchesAddress (cidrs : List (String → Bool)) (address : Option String) : Bool :=
  cidrs.isEmpty || address.any fun address => cidrs.any fun cidr => cidr address

def matchesNumber {Number : Type} [BEq Number] (rules : List Number) (value : Option Number) :
    Bool :=
  rules.isEmpty || value.any fun value => rules.contains value

/-- A rule that ends in an asterisk asks for its beginning, any other rule for equality. -/
def matchesPath (rules : List String) (value : Option String) : Bool :=
  rules.isEmpty || value.any fun value => rules.any fun rule =>
    if rule.toList.getLast? = some '*' then
      startsWith value (String.ofList rule.toList.dropLast)
    else rule == value

def matchesLabels (rules labels : List String) : Bool :=
  rules.isEmpty || rules.all fun rule =>
    labels.any fun label => toAsciiLowercase label == toAsciiLowercase rule

/-- A rule of a subscription after its texts have been normalised. -/
structure CompiledMatch where
  entries : List String := []
  processNames : List String := []
  processPaths : List String := []
  transports : List String := []
  protocols : List String := []
  directions : List String := []
  schemes : List String := []
  hosts : List String := []
  cidrs : List (String → Bool) := []
  ports : List UInt16 := []
  methods : List String := []
  paths : List String := []
  statusCodes : List UInt16 := []
  mimeTypes : List String := []
  labels : List String := []

/-- The event meets every dimension that the rule names. -/
def CompiledMatch.matches (rule : CompiledMatch) (envelope : EventEnvelope) : Bool :=
  matchesValue rule.entries envelope.context.entry wildcardMatch &&
  matchesValue rule.processNames envelope.context.processName wildcardMatch &&
  matchesValue rule.processPaths envelope.context.processPath wildcardMatch &&
  matchesValue rule.transports envelope.context.transport exactMatch &&
  matchesValue rule.protocols envelope.context.protocol exactMatch &&
  matchesValue rule.directions envelope.context.direction exactMatch &&
  matchesValue rule.schemes envelope.context.scheme exactMatch &&
  matchesValue rule.hosts envelope.context.host wildcardMatch &&
  matchesAddress rule.cidrs envelope.context.address &&
  matchesNumber rule.ports envelope.context.port &&
  matchesValue rule.methods envelope.context.method exactMatch &&
  matchesPath rule.paths envelope.context.path &&
  matchesNumber rule.statusCodes envelope.context.statusCode &&
  matchesValue rule.mimeTypes envelope.context.mimeType wildcardMatch &&
  matchesLabels rule.labels envelope.context.labels

end SprakCapture.Plugins
