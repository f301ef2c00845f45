import SprakCapture.Data.Table

/-!
# The data of the recording session

Strings and vectors carry the capacity that was allocated for them, because the
session accounts for capacities and not for lengths. A clone allocates exactly what
it holds. Identifiers of transactions and sessions are version 4 UUIDs, whose text
has 36 bytes; they are represented by their number.
-/

namespace SprakCapture.Capture

open Data

/-! ### Strings and vectors -/

/-- A `String`: its characters, and the bytes allocated beyond them. -/
structure Text where
  chars : List Char
  spare : Nat
deriving DecidableEq

/-- The number of bytes of characters in UTF-8. -/
def utf8Bytes (chars : List Char) : Nat := (chars.map fun char => char.utf8Size).sum

def Text.empty : Text := ⟨[], 0⟩

def Text.len (text : Text) : Nat := utf8Bytes text.chars

def Text.capacity (text : Text) : Nat := text.len + text.spare

def Text.clone (text : Text) : Text := { text with spare := 0 }

/-- A `Vec`: its items, and the slots allocated beyond them. -/
structure Buffer (Item : Type) where
  items : List Item
  spare : Nat
deriving DecidableEq

namespace Buffer

variable {Item : Type}

def empty : Buffer Item := ⟨[], 0⟩

def len (buffer : Buffer Item) : Nat := buffer.items.length

def capacity (buffer : Buffer Item) : Nat := buffer.len + buffer.spare

def clone (cloneItem : Item → Item) (buffer : Buffer Item) : Buffer Item where
  items := buffer.items.map cloneItem
  spare := 0

end Buffer

abbrev Uuid := Nat

/-- The length of the text of a UUID, which is also its capacity. -/
def uuidBytes : Nat := 36

/-! ### Locations -/

inductive LocationError where
  | invalidProtocol
  | invalidHost
  | invalidPort
  | invalidPath
  | invalidCandidate
deriving DecidableEq

structure LocationPattern where
  protocol : Text
  host : Text
  port : Text
  path : Text
  query : Option Text
deriving DecidableEq

/-- The empty pattern, which stands for every location. -/
def LocationPattern.default : LocationPattern := ⟨.empty, .empty, .empty, .empty, none⟩

structure ResolvedLocation where
  protocol : Text
  host : Text
  port : UInt16
  path : Text
  query : Text
  display : Text
deriving DecidableEq

/-! ### Settings of a session -/

inductive RecordingState where
  | recording
  | paused
deriving DecidableEq

structure RecordingLimits where
  maxTransactions : Nat
  maxBodyBytes : Nat
  maxTotalBodyBytes : Nat
deriving DecidableEq

def RecordingLimits.isValid (limits : RecordingLimits) : Bool :=
  limits.maxTransactions > 0 && limits.maxBodyBytes > 0 && limits.maxTotalBodyBytes > 0

structure RecordingConfiguration where
  limits : RecordingLimits
  ignoreLocations : List LocationPattern
  recordTunnelMetadata : Bool
  memoryBodyThreshold : Nat
  metadataMemoryBudgetBytes : Nat
  /-- The length of the path of the spill directory of the session. -/
  sessionDirectoryBytes : Nat

structure RecordingLimitsUpdate where
  maxTransactions : Option Nat
  maxBodyBytes : Option Nat
  maxTotalBodyBytes : Option Nat

structure RecordingSettingsUpdate where
  state : Option RecordingState
  limits : Option RecordingLimitsUpdate
  ignoreLocations : Option (List LocationPattern)
  recordTunnelMetadata : Option Bool

/-! ### Transactions -/

inductive TransactionProtocol where
  | http
  | https
  | ws
  | wss
  | tunnel
  | socks
deriving DecidableEq

inductive TransactionStatus where
  | pending
  | complete
  | failed
  | blocked
  | cancelled
deriving DecidableEq

structure TransactionTimings where
  startAtMilliseconds : UInt64
  dnsEndAtMilliseconds : Option UInt64
  connectEndAtMilliseconds : Option UInt64
  tlsEndAtMilliseconds : Option UInt64
  requestSentAtMilliseconds : Option UInt64
  responseStartAtMilliseconds : Option UInt64
  endAtMilliseconds : Option UInt64
deriving DecidableEq

structure TransactionSizes where
  requestHeaderBytes : Nat
  requestBodyBytes : Nat
  responseHeaderBytes : Nat
  responseBodyBytes : Nat
deriving DecidableEq

structure TransactionFlags where
  mappedLocal : Bool
  mappedRemote : Bool
  rewritten : Bool
  breakpointHit : Bool
  throttled : Bool
  mitmDecrypted : Bool
  bodyTruncated : Bool
  headersTruncated : Bool
  fromCache : Bool
deriving DecidableEq

structure TransactionError where
  code : Text
  messageKey : Text
  /-- The entries of the map in the order of their names. -/
  params : List (Text × Text)
deriving DecidableEq

def TransactionError.clone (error : TransactionError) : TransactionError where
  code := error.code.clone
  messageKey := error.messageKey.clone
  params := error.params.map fun param => (param.1.clone, param.2.clone)

structure TransactionSummary where
  transactionId : Uuid
  recordingSessionId : Uuid
  sequence : Nat
  protocol : TransactionProtocol
  method : Text
  host : Text
  port : UInt16
  path : Text
  query : Text
  urlDisplay : Text
  status : TransactionStatus
  statusCode : Option UInt16
  clientAddress : Text
  clientProcessName : Option Text
  clientProcessId : Option UInt32
  contentType : Text
  timings : TransactionTimings
  sizes : TransactionSizes
  flags : TransactionFlags
  error : Option TransactionError
  notes : Text
  tags : Buffer Text
  appliedTools : Buffer Text
deriving DecidableEq

def TransactionSummary.clone (summary : TransactionSummary) : TransactionSummary :=
  { summary with
    method := summary.method.clone
    host := summary.host.clone
    path := summary.path.clone
    query := summary.query.clone
    urlDisplay := summary.urlDisplay.clone
    clientAddress := summary.clientAddress.clone
    clientProcessName := summary.clientProcessName.map Text.clone
    contentType := summary.contentType.clone
    error := summary.error.map TransactionError.clone
    notes := summary.notes.clone
    tags := summary.tags.clone Text.clone
    appliedTools := summary.appliedTools.clone Text.clone }

structure BeginTransaction where
  protocol : TransactionProtocol
  method : Text
  location : ResolvedLocation
  clientAddress : Text
  clientProcessName : Option Text
  clientProcessId : Option UInt32
  contentType : Text
  startAtMilliseconds : UInt64

/-- The fields of a pending transaction that the data plane replaces. -/
structure TransactionUpdate where
  method : Option Text
  location : Option ResolvedLocation
  statusCode : Option UInt16
  contentType : Option Text
  flags : Option TransactionFlags

/-- The fields that the user maintains. -/
structure TransactionUserUpdate where
  notes : Option Text
  tags : Option (Buffer Text)
  appliedTools : Option (Buffer Text)

structure TransactionProgressUpdate where
  requestHeaderBytes : Option Nat
  requestBodyBytes : Option Nat
  responseHeaderBytes : Option Nat
  responseBodyBytes : Option Nat
  dnsEndAtMilliseconds : Option UInt64
  connectEndAtMilliseconds : Option UInt64
  tlsEndAtMilliseconds : Option UInt64
  requestSentAtMilliseconds : Option UInt64
  responseStartAtMilliseconds : Option UInt64

structure TransactionCompletion where
  statusCode : UInt16
  endAtMilliseconds : UInt64
  contentType : Text

/-! ### Headers, bodies and packets -/

inductive MessageSide where
  | request
  | response
deriving DecidableEq

/-- The length of the word for a side in the name of a spill file. -/
def MessageSide.fileLabelBytes : MessageSide → Nat
  | .request => 7
  | .response => 8

structure HeaderField where
  name : Text
  value : Text
deriving DecidableEq

def HeaderField.clone (header : HeaderField) : HeaderField where
  name := header.name.clone
  value := header.value.clone

structure BodyWrite where
  bytes : List UInt8
  originalBytes : Nat
  contentType : Text
  encoding : Text

structure BodyHandleMeta where
  transactionId : Uuid
  side : MessageSide
  contentType : Text
  encoding : Text
  storedBytes : Nat
  originalBytes : Nat
  truncated : Bool
deriving DecidableEq

def BodyHandleMeta.clone (handle : BodyHandleMeta) : BodyHandleMeta :=
  { handle with
    contentType := handle.contentType.clone
    encoding := handle.encoding.clone }

/-- The name of a file in the spill directory. Each contains a UUID of its own. -/
inductive SpillName where
  /-- `{side}-{transactionId}-{suffix}.body` -/
  | body (side : MessageSide) (transactionId : Uuid) (suffix : Uuid)
  /-- `.pending-{suffix}.body` -/
  | pending (suffix : Uuid)
  /-- `.stream-{suffix}.body` -/
  | stream (suffix : Uuid)
deriving DecidableEq

def SpillName.suffix : SpillName → Uuid
  | .body _ _ suffix => suffix
  | .pending suffix => suffix
  | .stream suffix => suffix

def SpillName.len : SpillName → Nat
  | .body side _ _ => side.fileLabelBytes + 1 + uuidBytes + 1 + uuidBytes + 5
  | .pending _ => 9 + uuidBytes + 5
  | .stream _ => 8 + uuidBytes + 5

/-- The path of a file, with the length of its text. -/
structure PathBuf where
  name : SpillName
  len : Nat
  spare : Nat
deriving DecidableEq

def PathBuf.capacity (path : PathBuf) : Nat := path.len + path.spare

def PathBuf.clone (path : PathBuf) : PathBuf := { path with spare := 0 }

inductive BodyStorage where
  | memory (bytes : List UInt8)
  | spill (path : PathBuf)
deriving DecidableEq

/-- A stored body: its `meta`, and where its bytes are. -/
structure BodyRef where
  handle : BodyHandleMeta
  storage : BodyStorage
deriving DecidableEq

def BodyRef.clone (body : BodyRef) : BodyRef where
  handle := body.handle.clone
  storage :=
    match body.storage with
    | .memory bytes => .memory bytes
    | .spill path => .spill path.clone

/-- The file of a body, if it has one. -/
def BodyRef.file (body : BodyRef) : Option SpillName :=
  match body.storage with
  | .memory _ => none
  | .spill path => some path.name

/-- What a body reference holds besides its own structure and the bytes of the body. -/
def BodyRef.metadataStorageBytes (body : BodyRef) : Nat :=
  let textBytes := uuidBytes + body.handle.contentType.capacity + body.handle.encoding.capacity
  match body.storage with
  | .memory _ => textBytes
  | .spill path => textBytes + path.capacity

inductive StreamPacketAction where
  | forward
  | replace
  | drop
  | close
deriving DecidableEq

structure StreamPacketModification where
  offsetBytes : Nat
  originalBytes : Buffer UInt8
  modifiedBytes : Buffer UInt8
deriving DecidableEq

def StreamPacketModification.clone (change : StreamPacketModification) : StreamPacketModification :=
  { change with
    originalBytes := change.originalBytes.clone id
    modifiedBytes := change.modifiedBytes.clone id }

structure StreamPacket where
  sequence : UInt64
  capturedAtMilliseconds : UInt64
  storedOffsetBytes : Nat
  storedBytes : Nat
  originalBytes : Nat
  truncated : Bool
  action : StreamPacketAction
  modifications : List StreamPacketModification
deriving DecidableEq

def StreamPacket.clone (packet : StreamPacket) : StreamPacket :=
  { packet with modifications := packet.modifications.map StreamPacketModification.clone }

/-- What is kept of a response range for planning. -/
structure ResponseRangeCandidate where
  transactionId : Uuid
  sequence : Nat
  start : Nat
  stop : Nat
  body : BodyHandleMeta
deriving DecidableEq

inductive CaptureError where
  | invalidLimits
  | invalidMemoryThreshold
  | invalidMetadataMemoryBudget
  | metadataMemoryBudgetExceeded
  | sessionClosed
  | transactionNotFound
  | transactionFinished
  | collectionChanged
  | invalidBodyLength
  | io
  | location (error : LocationError)
deriving DecidableEq

end SprakCapture.Capture
