import SprakCapture.Data.Machine
import SprakCapture.Data.Table
import SprakCapture.Socks5.CapturedBytes

/-!
# The session registry

Network tasks share one registry of SOCKS5 sessions. Every call takes the lock of the
session table once, so a run of the registry is a sequence of calls. Snapshots of sessions
go out to subscribers and callers and share the captured streams of the session; a stream
is freed with the last snapshot that refers to it, which gives its bytes back to the budget.
-/

namespace SprakCapture.Socks5

open Data

inductive SessionState where
  | negotiating
  | authenticating
  | connecting
  | binding
  | udpAssociating
  | relaying
  | closed
  | failed
deriving DecidableEq

/-- The session has ended. -/
def SessionState.isTerminal : SessionState → Bool
  | .closed => true
  | .failed => true
  | _ => false

inductive SessionApplicationProtocol where
  | undetermined
  | tcp
  | tls
  | udp
  | http
  | https
deriving DecidableEq

/-- The two streams of a session with the index of their ranges, which are allocated, shared
and released together. `arrivals` is the history of what was offered to them: the payloads
with the number of bytes stored. -/
structure CapturedStreams where
  capturedBytesUp : CapturedBytesStorage
  capturedBytesDown : CapturedBytesStorage
  capturedPackets : CapturedPacketStorage
  arrivals : List (TrafficDirection × Bytes × Nat)

namespace CapturedStreams

def empty : CapturedStreams where
  capturedBytesUp := .empty
  capturedBytesDown := .empty
  capturedPackets := .empty
  arrivals := []

def stream (streams : CapturedStreams) : TrafficDirection → CapturedBytesStorage
  | .up => streams.capturedBytesUp
  | .down => streams.capturedBytesDown

/-- The bytes that both streams hold of the budget. -/
def reservedBytes (streams : CapturedStreams) : Nat :=
  streams.capturedBytesUp.reservedBytes + streams.capturedBytesDown.reservedBytes

end CapturedStreams

/-- The state of a session. `captured` refers to its streams; without one the session has the
default streams, which have no budget and never store a byte. -/
structure SessionSnapshot where
  sessionId : String
  clientAddress : String
  username : String
  command : String
  targetAddress : String
  state : SessionState
  bytesUp : Nat
  bytesDown : Nat
  createdAtMilliseconds : UInt64
  updatedAtMilliseconds : UInt64
  closedAtMilliseconds : UInt64
  errorMessage : String
  applicationProtocol : SessionApplicationProtocol
  captureGeneration : Nat
  captured : Option Nat
deriving DecidableEq

/-- The session counts as active. -/
def SessionSnapshot.isActive (snapshot : SessionSnapshot) : Bool := !snapshot.state.isTerminal

structure ServiceMetrics where
  acceptedConnections : Nat
  activeConnections : Nat
  failedConnections : Nat
  bytesUp : Nat
  bytesDown : Nat
deriving DecidableEq

/-- A change to the metadata of a session. -/
structure SessionUpdate where
  username : Option String
  command : Option String
  targetAddress : Option String
  applicationProtocol : Option SessionApplicationProtocol
  state : SessionState
deriving DecidableEq

/-- A relayed block. -/
structure ModifiedTraffic where
  sessionId : String
  direction : TrafficDirection
  payload : Bytes
deriving DecidableEq

/-! ### Sessions and their streams -/

/-- The bound on the captured bytes of one stream. -/
def capturedStreamPrefixLimit : Nat := usizeLimit - 1

/-- The streams after a block was offered to one of them. -/
def CapturedStreams.capture (streams : CapturedStreams) (budget : CapturedBytesBudget)
    (direction : TrafficDirection) (payload : Bytes) (now : UInt64) :
    CapturedBytesBudget × CapturedStreams :=
  let appended := (streams.stream direction).append budget payload capturedStreamPrefixLimit
  let packets := streams.capturedPackets.append
    { direction := direction
      capturedAtMilliseconds := now
      storedOffsetBytes := (streams.stream direction).length
      storedBytes := appended.2.2
      originalBytes := payload.length }
  let arrivals := streams.arrivals ++ [(direction, payload, appended.2.2)]
  match direction with
  | .up => (appended.1,
      { streams with
        capturedBytesUp := appended.2.1, capturedPackets := packets, arrivals := arrivals })
  | .down => (appended.1,
      { streams with
        capturedBytesDown := appended.2.1, capturedPackets := packets, arrivals := arrivals })

/-- `u64::saturating_add`. -/
def saturatingAdd (left right : Nat) : Nat := min (left + right) (2 ^ 64 - 1)

/-- The byte counter of one direction of a session after a block. -/
def SessionSnapshot.countTraffic (snapshot : SessionSnapshot) (direction : TrafficDirection)
    (byteCount : Nat) (now : UInt64) : SessionSnapshot :=
  match direction with
  | .up =>
    { snapshot with
      bytesUp := saturatingAdd snapshot.bytesUp byteCount, updatedAtMilliseconds := now }
  | .down =>
    { snapshot with
      bytesDown := saturatingAdd snapshot.bytesDown byteCount, updatedAtMilliseconds := now }

/-- A snapshot with the fields that an update names. -/
def SessionUpdate.apply (update : SessionUpdate) (now : UInt64) (snapshot : SessionSnapshot) :
    SessionSnapshot :=
  { snapshot with
    username := update.username.getD snapshot.username
    command := update.command.getD snapshot.command
    targetAddress := update.targetAddress.getD snapshot.targetAddress
    applicationProtocol := update.applicationProtocol.getD snapshot.applicationProtocol
    state := update.state
    updatedAtMilliseconds := now }

/-- A snapshot of a session that ends. -/
def SessionSnapshot.close (snapshot : SessionSnapshot) (errorMessage : String) (now : UInt64) :
    SessionSnapshot :=
  { snapshot with
    state := if errorMessage = "" then .closed else .failed
    errorMessage := errorMessage
    closedAtMilliseconds := now
    updatedAtMilliseconds := now }

/-! ### The calls -/

/-- The registry, the streams that are allocated, and the snapshots that subscribers and
callers still hold. -/
structure SessionRegistry where
  sessions : Table String SessionSnapshot
  metrics : ServiceMetrics
  historyLimit : Nat
  captureGeneration : Nat
  capturedBytesBudget : CapturedBytesBudget
  streams : Table Nat CapturedStreams
  nextStreams : Nat
  held : List SessionSnapshot
  subscribed : Bool

namespace SessionRegistry

def withCaptureBudget (historyLimit maximumCapturedBytes : Nat) : SessionRegistry where
  sessions := ∅
  metrics := ⟨0, 0, 0, 0, 0⟩
  historyLimit := historyLimit
  captureGeneration := 0
  capturedBytesBudget := { maximumBytes := maximumCapturedBytes, usedBytes := 0 }
  streams := ∅
  nextStreams := 0
  held := []
  subscribed := false

/-- Send a snapshot to the subscribers, if there are any. -/
def publish (registry : SessionRegistry) (snapshot : SessionSnapshot) : SessionRegistry :=
  if registry.subscribed then { registry with held := registry.held ++ [snapshot] } else registry

/-- A new session. Its identifier is a random UUID, which no other session has. -/
def create (registry : SessionRegistry) (sessionId clientAddress : String) (now : UInt64) :
    SessionRegistry :=
  let snapshot : SessionSnapshot :=
    { sessionId := sessionId
      clientAddress := clientAddress
      username := ""
      command := ""
      targetAddress := ""
      state := .negotiating
      bytesUp := 0
      bytesDown := 0
      createdAtMilliseconds := now
      updatedAtMilliseconds := now
      closedAtMilliseconds := 0
      errorMessage := ""
      applicationProtocol := .undetermined
      captureGeneration := registry.captureGeneration
      captured := some registry.nextStreams }
  let inserted :=
    { registry with
      sessions := registry.sessions.insert sessionId snapshot
      streams := registry.streams.insert registry.nextStreams .empty
      nextStreams := registry.nextStreams + 1
      metrics :=
        { registry.metrics with
          acceptedConnections := registry.metrics.acceptedConnections + 1
          activeConnections := registry.metrics.activeConnections + 1 } }
  inserted.publish snapshot

/-- Update a session. An unknown session is left alone. -/
def update (registry : SessionRegistry) (sessionId : String) (update : SessionUpdate)
    (now : UInt64) : SessionRegistry :=
  match registry.sessions.get? sessionId with
  | none => registry
  | some snapshot =>
    let updated := update.apply now snapshot
    { registry with sessions := registry.sessions.insert sessionId updated }.publish updated

/-- Store a relayed block in the stream of its direction. -/
def captureTraffic (registry : SessionRegistry) (captured : Option Nat)
    (direction : TrafficDirection) (payload : Bytes) (now : UInt64) : SessionRegistry :=
  match captured with
  | none => registry
  | some reference =>
    match registry.streams.get? reference with
    | none => registry
    | some streams =>
      let stored := streams.capture registry.capturedBytesBudget direction payload now
      { registry with
        capturedBytesBudget := stored.1
        streams := registry.streams.insert reference stored.2 }

/-- Account for a relayed block and capture it. -/
def addModifiedTraffic (registry : SessionRegistry) (traffic : ModifiedTraffic) (now : UInt64) :
    SessionRegistry :=
  if traffic.payload = [] then registry
  else
    match registry.sessions.get? traffic.sessionId with
    | none => registry
    | some snapshot =>
      let counted := snapshot.countTraffic traffic.direction traffic.payload.length now
      let stored := registry.captureTraffic snapshot.captured traffic.direction traffic.payload now
      let metered :=
        { stored with
          sessions := registry.sessions.insert traffic.sessionId counted
          metrics :=
            match traffic.direction with
            | .up =>
              { registry.metrics with
                bytesUp := registry.metrics.bytesUp + traffic.payload.length }
            | .down =>
              { registry.metrics with
                bytesDown := registry.metrics.bytesDown + traffic.payload.length } }
      metered.publish counted

/-- The ended sessions with their closing times. -/
def closedSessions (registry : SessionRegistry) : List (String × UInt64) :=
  (registry.sessions.toList.filter fun entry => entry.2.state.isTerminal).map fun entry =>
    (entry.1, entry.2.closedAtMilliseconds)

/-- Delete the oldest ended sessions beyond the limit. -/
def pruneClosed (registry : SessionRegistry) : SessionRegistry :=
  let closed := registry.closedSessions
  if closed.length ≤ registry.historyLimit then registry
  else
    let sorted := closed.mergeSort fun left right => left.2 ≤ right.2
    let removed := sorted.take (closed.length - registry.historyLimit)
    { registry with
      sessions := removed.foldl (fun sessions entry => sessions.erase entry.1) registry.sessions }

/-- End a session. An unknown session is left alone. -/
def close (registry : SessionRegistry) (sessionId errorMessage : String) (now : UInt64) :
    SessionRegistry :=
  match registry.sessions.get? sessionId with
  | none => registry
  | some snapshot =>
    let closed := snapshot.close errorMessage now
    let counted :=
      { registry with
        sessions := registry.sessions.insert sessionId closed
        metrics :=
          { registry.metrics with
            activeConnections := registry.metrics.activeConnections - 1
            failedConnections :=
              if errorMessage = "" then registry.metrics.failedConnections
              else registry.metrics.failedConnections + 1 } }
    (counted.publish closed).pruneClosed

/-- End every session that is active. -/
def closeActive (registry : SessionRegistry) (errorMessage : String) (now : UInt64) :
    SessionRegistry :=
  let activeSessionIds :=
    (registry.sessions.toList.filter fun entry => entry.2.isActive).map Prod.fst
  activeSessionIds.foldl (fun registry sessionId => registry.close sessionId errorMessage now)
    registry

/-- Delete every session that has ended. -/
def clearClosed (registry : SessionRegistry) : SessionRegistry :=
  let removedIds :=
    (registry.sessions.toList.filter fun entry => entry.2.state.isTerminal).map Prod.fst
  { registry with
    sessions := removedIds.foldl (fun sessions sessionId => sessions.erase sessionId)
      registry.sessions }

/-- Give every session the default streams. -/
def clearCapturedBytes (registry : SessionRegistry) : SessionRegistry :=
  { registry with
    captureGeneration := registry.captureGeneration + 1
    sessions := registry.sessions.mapValues fun snapshot => { snapshot with captured := none } }

/-- Give one session the default streams. -/
def releaseCapturedBytes (registry : SessionRegistry) (sessionId : String) : SessionRegistry :=
  { registry with
    sessions := registry.sessions.modify sessionId fun snapshot => { snapshot with captured := none } }

/-- The streams that a session or a held snapshot refers to. -/
def references (registry : SessionRegistry) : List Nat :=
  (registry.sessions.values ++ registry.held).filterMap fun snapshot => snapshot.captured

/-- Free the streams that nothing refers to. -/
def dropUnreferenced (registry : SessionRegistry) : SessionRegistry :=
  let dropped := (registry.streams.retain fun reference _ =>
    !registry.references.contains reference).values
  { registry with
    streams := registry.streams.retain fun reference _ => registry.references.contains reference
    capturedBytesBudget := dropped.foldl
      (fun budget streams => (budget.release streams.capturedBytesUp.reservedBytes).release
        streams.capturedBytesDown.reservedBytes) registry.capturedBytesBudget }

/-! ### Runs -/

inductive Call where
  | create (sessionId clientAddress : String) (now : UInt64)
  | update (sessionId : String) (update : SessionUpdate) (now : UInt64)
  | addModifiedTraffic (traffic : ModifiedTraffic) (now : UInt64)
  | close (sessionId errorMessage : String) (now : UInt64)
  | closeActive (errorMessage : String) (now : UInt64)
  | clearClosed
  | clearCapturedBytes
  | releaseCapturedBytes (sessionId : String)
  | subscribe
  | unsubscribe
  /-- A caller takes snapshots of all sessions. -/
  | snapshots
  /-- A subscriber or a caller drops a snapshot. -/
  | dropSnapshot (index : Nat)
deriving DecidableEq

/-- One call, without the drops that follow from it. -/
def perform (registry : SessionRegistry) : Call → SessionRegistry
  | .create sessionId clientAddress now =>
    if registry.sessions.contains sessionId then registry
    else registry.create sessionId clientAddress now
  | .update sessionId change now => registry.update sessionId change now
  | .addModifiedTraffic traffic now => registry.addModifiedTraffic traffic now
  | .close sessionId errorMessage now => registry.close sessionId errorMessage now
  | .closeActive errorMessage now => registry.closeActive errorMessage now
  | .clearClosed => registry.clearClosed
  | .clearCapturedBytes => registry.clearCapturedBytes
  | .releaseCapturedBytes sessionId => registry.releaseCapturedBytes sessionId
  | .subscribe => { registry with subscribed := true }
  | .unsubscribe => { registry with subscribed := false }
  | .snapshots => { registry with held := registry.held ++ registry.sessions.values }
  | .dropSnapshot index => { registry with held := registry.held.eraseIdx index }

/-- One call. A stream is freed as soon as nothing refers to it. -/
def step (registry : SessionRegistry) (call : Call) : SessionRegistry :=
  (registry.perform call).dropUnreferenced

/-- The registry of one service. -/
def machine (historyLimit maximumCapturedBytes : Nat) : Machine SessionRegistry Call where
  initial := withCaptureBudget historyLimit maximumCapturedBytes
  step := step

end SessionRegistry

end SprakCapture.Socks5
