import SprakCapture.Capture.Model
import SprakCapture.Data.RecentKeys
import SprakCapture.Location.Matcher
import SprakCapture.Socks5.SessionRegistry

/-!
# Transactions of SOCKS sessions

The control side reads snapshots of the sessions of the data plane and keeps one transaction in
the recording for each session whose stream is recorded. What the recording answers is given with
each snapshot. Sessions that are done with are remembered up to a limit, so that later snapshots
of them do not begin another transaction.
-/

namespace SprakCapture.Control

open Data Socks5 Location
open Capture (CaptureError)

/-! ### What is recorded of a session -/

/-- The start of a transaction of the SOCKS protocol. -/
structure SocksTransaction where
  method : String
  location : ResolvedLocation
  clientAddress : String
  startAtMilliseconds : UInt64
deriving DecidableEq

/-- `SocketAddr::from_str`, without the scope of an IPv6 address. -/
def parseSocketAddr (text : List Char) : Option (IpText.IpAddr × UInt16) := do
  let (host, portText) ← Text.rsplitOnce ':' text
  if !portText.all Char.isDigit then none
  let port ← Text.parseUnsigned (2 ^ 16) portText
  match IpText.parseIpv4 host with
  | some address => some (.v4 address, UInt16.ofNat port)
  | none =>
    if host.head? = some '[' ∧ host.getLast? = some ']' then
      let inner := host.tail.dropLast.takeWhile (· != '%')
      let scope := host.tail.dropLast.drop (inner.length + 1)
      if inner.length < host.tail.dropLast.length ∧
          (!scope.all Char.isDigit ∨ (Text.parseUnsigned (2 ^ 32) scope).isNone) then none
      else (IpText.parseIpv6 inner).map fun groups => (.v6 groups, UInt16.ofNat port)
    else none

def parseTargetAddress (targetAddress : String) : Option (List Char × UInt16) :=
  match parseSocketAddr targetAddress.toList with
  | some (address, port) => some (address.toText, port)
  | none => do
      let (host, portText) ← Text.rsplitOnce ':' targetAddress.toList
      let port ← Text.parseUnsigned (2 ^ 16) portText
      if host.isEmpty then none else some (host, UInt16.ofNat port)

def commandMethod (command : String) : Option String :=
  if command = "connect" then some "CONNECT"
  else if command = "bind" then some "BIND"
  else if command = "udpAssociate" then some "UDP ASSOCIATE"
  else none

def displayScheme : SessionApplicationProtocol → Option String
  | .tls => some "https"
  | .udp => some "udp"
  | .tcp | .undetermined => some "tcp"
  | .http | .https => none

/-- The transaction of a session whose command and target are known. -/
def beginTransactionInput (session : SessionSnapshot) : Option SocksTransaction := do
  let method ← commandMethod session.command
  let (host, port) ← parseTargetAddress session.targetAddress
  let scheme ← displayScheme session.applicationProtocol
  let displayHost := if host.contains ':' then '[' :: host ++ [']'] else host
  some
    { method
      location :=
        { protocol := "socks".toList
          host
          port
          path := []
          query := []
          display := scheme.toList ++ "://".toList ++ displayHost ++
            ':' :: (toString port.toNat).toList }
      clientAddress := session.clientAddress
      startAtMilliseconds := session.createdAtMilliseconds }

/-- The streams of the session are recorded here, and not by a handler of its protocol. -/
def projectableTransport (session : SessionSnapshot) : Bool :=
  match session.applicationProtocol with
  | .tcp | .tls | .udp => true
  | .undetermined => session.state = .failed
  | .http | .https => false

/-- The transaction is gone from the recording, or has ended there. -/
def isDiscardedTransaction : CaptureError → Bool
  | .transactionNotFound | .transactionFinished => true
  | _ => false

def terminalTimestamp (session : SessionSnapshot) : UInt64 :=
  if session.closedAtMilliseconds = 0 then session.updatedAtMilliseconds
  else session.closedAtMilliseconds

/-! ### The recording -/

/-- The progress of a transaction. -/
structure SocksProgress where
  requestBodyBytes : Nat
  responseBodyBytes : Nat
  requestSentAtMilliseconds : Option UInt64
  connectEndAtMilliseconds : Option UInt64
  responseStartAtMilliseconds : Option UInt64
deriving DecidableEq

/-- The end of a transaction. -/
inductive SocksTerminal where
  | commit (endAtMilliseconds : UInt64)
  | fail (command : String) (endAtMilliseconds : UInt64)
deriving DecidableEq

/-- A call of the recording with its answer. -/
inductive RecordingEvent where
  | began (input : SocksTransaction) (answer : Except CaptureError (Option String))
  | progressed (transactionId : String) (progress : SocksProgress)
      (answer : Except CaptureError Unit)
  | stored (transactionId : String) (capturedByteBaseline : Nat × Nat)
      (answer : Except CaptureError Unit)
  | ended (transactionId : String) (terminal : SocksTerminal) (answer : Except CaptureError Unit)

/-- What the recording answers while one snapshot is projected. -/
structure RecordingAnswers where
  beginTransaction : Except CaptureError (Option String)
  updateProgress : Except CaptureError Unit
  storeCapturedBodies : Except CaptureError Unit
  terminal : Except CaptureError Unit

/-- The call was done, or its transaction does not exist any more. -/
def accepted : Except CaptureError Unit → Bool
  | .ok () => true
  | .error error => isDiscardedTransaction error

/-- The transaction that has ended in the recording with a call. -/
def RecordingEvent.settled? : RecordingEvent → Option String
  | .progressed transactionId _ (.error error) | .stored transactionId _ (.error error) =>
    if isDiscardedTransaction error then some transactionId else none
  | .ended transactionId _ answer => if accepted answer then some transactionId else none
  | _ => none

/-! ### The projector -/

/-- The transaction of a session; none if the recording does not take it. -/
structure ActiveProjection where
  transactionId : Option String
  captureGeneration : Nat
  requestSentAtMilliseconds : UInt64
  requestSentObserved : Bool
  connectionObserved : Bool
  responseObserved : Bool
  capturedRequestBytes : Nat
  capturedResponseBytes : Nat
  lastCaptureFlushAtMilliseconds : UInt64
deriving DecidableEq

def activeCaptureFlushIntervalMilliseconds : UInt64 := 250

/-- The projector. `finalized` is the set of remembered sessions with the order in which they
came, and `history` all of them, the latest first. -/
structure SocksTransactionProjector where
  active : Table String ActiveProjection
  finalized : RecentKeys String
  historyLimit : Nat
  minimumCaptureGeneration : Nat
  history : List String

def shouldFlushCapturedBodies (projection : ActiveProjection) (session : SessionSnapshot) : Bool :=
  let requestAdvanced := projection.capturedRequestBytes < session.bytesUp
  let responseAdvanced := projection.capturedResponseBytes < session.bytesDown
  if !requestAdvanced ∧ !responseAdvanced then false
  else
    (requestAdvanced && projection.capturedRequestBytes == 0) ||
      (responseAdvanced && projection.capturedResponseBytes == 0) ||
      session.state.isTerminal ||
      activeCaptureFlushIntervalMilliseconds.toNat ≤
        session.updatedAtMilliseconds.toNat - projection.lastCaptureFlushAtMilliseconds.toNat

/-- The network connection of the session is known to be there. -/
def transportReady (session : SessionSnapshot) : Bool :=
  session.state = .relaying || session.state = .closed || 0 < session.bytesUp ||
    0 < session.bytesDown

def progressUpdate (projection : ActiveProjection) (session : SessionSnapshot) : SocksProgress where
  requestBodyBytes := session.bytesUp
  responseBodyBytes := session.bytesDown
  requestSentAtMilliseconds :=
    if projection.requestSentObserved then none else some projection.requestSentAtMilliseconds
  connectEndAtMilliseconds :=
    if transportReady session ∧ !projection.connectionObserved then
      some session.updatedAtMilliseconds
    else none
  responseStartAtMilliseconds :=
    if 0 < session.bytesDown ∧ !projection.responseObserved then
      some session.updatedAtMilliseconds
    else none

/-- The end that the recording is told of, if the session has ended. -/
def terminalReport (session : SessionSnapshot) : Option SocksTerminal :=
  match session.state with
  | .closed => some (.commit (terminalTimestamp session))
  | .failed => some (.fail session.command (terminalTimestamp session))
  | _ => none

/-- The projector after a snapshot, with the result and the calls of the recording. -/
structure Projected where
  projector : SocksTransactionProjector
  result : Except CaptureError Unit
  events : List RecordingEvent

namespace SocksTransactionProjector

def new (historyLimit : Nat) : SocksTransactionProjector where
  active := ∅
  finalized := .empty
  historyLimit := max historyLimit 1
  minimumCaptureGeneration := 0
  history := []

/-- `rememberFinalized`: the session is not active any more. -/
def rememberFinalized (projector : SocksTransactionProjector) (sessionId : String) :
    SocksTransactionProjector :=
  { projector with
    active := projector.active.erase sessionId
    finalized := projector.finalized.remember projector.historyLimit sessionId
    history := RecentKeys.recorded projector.historyLimit projector.history sessionId }

/-- The active sessions of generations before the given one, in the order of a traversal. -/
def staleSessions (projector : SocksTransactionProjector) (minimumCaptureGeneration : Nat)
    (traversal : List String) : List String :=
  let stale := (projector.active.toList.filter fun entry =>
    entry.2.captureGeneration < minimumCaptureGeneration).map Prod.fst
  (traversal.dedup.filter (· ∈ stale)) ++ stale.filter (· ∉ traversal)

/-- A clear of the recording: the sessions of earlier generations are done with. -/
def advanceCaptureGeneration (projector : SocksTransactionProjector)
    (minimumCaptureGeneration : Nat) (traversal : List String) : SocksTransactionProjector :=
  if minimumCaptureGeneration ≤ projector.minimumCaptureGeneration then projector
  else
    (projector.staleSessions minimumCaptureGeneration traversal).foldl rememberFinalized
      { projector with minimumCaptureGeneration }

/-- Change the projection of a session. -/
def adjust (projector : SocksTransactionProjector) (sessionId : String)
    (change : ActiveProjection → ActiveProjection) : SocksTransactionProjector :=
  { projector with active := projector.active.modify sessionId change }

/-- The end of the synchronisation: a session that has ended is reported and remembered. -/
def finish (projector : SocksTransactionProjector) (session : SessionSnapshot)
    (transactionId : Option String) (answers : RecordingAnswers) (events : List RecordingEvent) :
    Projected :=
  match terminalReport session with
  | none => { projector, result := .ok (), events }
  | some terminal =>
    let finalized := projector.rememberFinalized session.sessionId
    match transactionId with
    | none => { projector := finalized, result := .ok (), events }
    | some transactionId =>
      let events := events ++ [.ended transactionId terminal answers.terminal]
      match answers.terminal with
      | .ok () => { projector := finalized, result := .ok (), events }
      | .error error =>
        if isDiscardedTransaction error then
          { projector := finalized, result := .ok (), events }
        else { projector, result := .error error, events }

/-- The captured bytes go to the recording when it is time. -/
def flush (projector : SocksTransactionProjector) (session : SessionSnapshot)
    (projection : ActiveProjection) (answers : RecordingAnswers) (events : List RecordingEvent) :
    Projected :=
  match projection.transactionId with
  | none => projector.finish session none answers events
  | some transactionId =>
    if shouldFlushCapturedBodies projection session then
      let baseline := (projection.capturedRequestBytes, projection.capturedResponseBytes)
      let events := events ++ [.stored transactionId baseline answers.storeCapturedBodies]
      match answers.storeCapturedBodies with
      | .error error => { projector, result := .error error, events }
      | .ok () =>
        (projector.adjust session.sessionId fun held =>
          { held with
            capturedRequestBytes := session.bytesUp
            capturedResponseBytes := session.bytesDown
            lastCaptureFlushAtMilliseconds := session.updatedAtMilliseconds }).finish session
          (some transactionId) answers events
    else projector.finish session (some transactionId) answers events

/-- Mark what a snapshot shows of a session. -/
def observe (projector : SocksTransactionProjector) (session : SessionSnapshot) :
    SocksTransactionProjector :=
  projector.adjust session.sessionId fun held =>
    { held with
      requestSentObserved := true
      connectionObserved := held.connectionObserved || transportReady session
      responseObserved := held.responseObserved || 0 < session.bytesDown }

def synchronize (projector : SocksTransactionProjector) (session : SessionSnapshot)
    (answers : RecordingAnswers) (events : List RecordingEvent) : Projected :=
  match projector.active.get? session.sessionId with
  | none => { projector, result := .ok (), events }
  | some projection =>
    match projection.transactionId with
    | none => (projector.observe session).flush session projection answers events
    | some transactionId =>
      let events := events ++ [.progressed transactionId (progressUpdate projection session)
        answers.updateProgress]
      match answers.updateProgress with
      | .ok () => (projector.observe session).flush session projection answers events
      | .error error =>
        if isDiscardedTransaction error then
          { projector := projector.rememberFinalized session.sessionId
            result := .ok (), events }
        else { projector, result := .error error, events }

/-- A session that does not get a transaction is remembered when it has ended. -/
def passOver (projector : SocksTransactionProjector) (session : SessionSnapshot) : Projected :=
  { projector :=
      if session.state.isTerminal then projector.rememberFinalized session.sessionId
      else projector
    result := .ok ()
    events := [] }

def project (projector : SocksTransactionProjector) (session : SessionSnapshot)
    (answers : RecordingAnswers) : Projected :=
  if session.captureGeneration < projector.minimumCaptureGeneration then
    { projector := projector.rememberFinalized session.sessionId, result := .ok (), events := [] }
  else if projector.finalized.contains session.sessionId then
    { projector, result := .ok (), events := [] }
  else if !projectableTransport session then projector.passOver session
  else if projector.active.contains session.sessionId then projector.synchronize session answers []
  else
    match beginTransactionInput session with
    | none => projector.passOver session
    | some input =>
      let events := [.began input answers.beginTransaction]
      match answers.beginTransaction with
      | .error error => { projector, result := .error error, events }
      | .ok transactionId =>
        { projector with
          active := projector.active.insert session.sessionId
            { transactionId
              captureGeneration := session.captureGeneration
              requestSentAtMilliseconds := session.updatedAtMilliseconds
              requestSentObserved := false
              connectionObserved := false
              responseObserved := false
              capturedRequestBytes := 0
              capturedResponseBytes := 0
              lastCaptureFlushAtMilliseconds := 0 } }.synchronize session answers events

end SocksTransactionProjector

end SprakCapture.Control
