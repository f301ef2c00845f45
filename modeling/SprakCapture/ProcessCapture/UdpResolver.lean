import SprakCapture.ProcessCapture.UdpObservation

/-!
# The UDP resolver

The resolver takes intercepted packets from a queue, one after the other. It finds out
whom a packet belongs to, reassembles fragments, asks the data plane for a decision and
sends the packets on. When something fails it leaves its loop, collects what is not
settled yet, and sends all of it unchanged.

Whom a packet belongs to is a parameter of each step: the flow table and the owner
tables of the system are shared with other threads. The state notes which packets were
taken over and what became of them, which the program does not record.
-/

namespace SprakCapture.ProcessCapture

open Data

/-- What a step asks of its surroundings. -/
structure UdpObservationContext where
  observeUdpTupleWithAssociationWait :
    ObservedUdpPacket → PendingUdpObservation → Except String PacketDirection
  udpDatagramProcessor : Option (UdpDatagramEvent → Except String UdpDatagramDecision)
  udpDatagramSink : Option (UdpDatagramEvent → Except String Unit)

namespace Settled

variable {Value Result : Type}

/-- A computation that settles no packet. -/
def of (result : Outcome UdpObservationError Value) : Settled Value := ⟨result, []⟩

/-- Go on with the value of a computation. -/
def andThen (settled : Settled Value) (next : Value → Settled Result) : Settled Result :=
  match settled.result with
  | .ok value => ⟨(next value).result, settled.terminals ++ (next value).terminals⟩
  | .error fault => ⟨.error fault, settled.terminals⟩

end Settled

/-! ### Steps of a packet -/

/-- Send packets until one fails. -/
def sendOriginals (divert : Divert) : List PendingUdpObservation → List Terminal
  | [] => []
  | observation :: rest =>
    match divert.send observation with
    | .error _ => []
    | .ok () => .reinjected observation :: sendOriginals divert rest

/-- Packets in the order of their capture, each once. -/
def flushOrder (pending : List PendingUdpObservation) : List PendingUdpObservation :=
  (pending.insertionSort captureOrder).destutter fun first second =>
    first.captureSequence ≠ second.captureSequence

/-- Send packets unchanged, in the order of their capture; a failure ends it. -/
def flushOriginalPackets (divert : Divert) (pending : List PendingUdpObservation) : List Terminal :=
  sendOriginals divert (flushOrder pending)

/-- The decision of the data plane; without one, datagrams go through. -/
def processDatagram (context : UdpObservationContext) (event : UdpDatagramEvent) :
    Outcome UdpObservationError UdpDatagramDecision :=
  match context.udpDatagramProcessor with
  | none => pure (.forward event.payload [])
  | some process =>
    match process event with
    | .ok decision => pure decision
    | .error detail => .raise (.processing detail)

/-- Record a forwarded datagram. -/
def appendUdpEvent (context : UdpObservationContext) (event : UdpDatagramEvent) :
    Outcome UdpObservationError Unit :=
  match context.udpDatagramSink with
  | none => .raise (.recording "顺序持久化落点未安装")
  | some append =>
    match append event with
    | .ok () => pure ()
    | .error detail => .raise (.recording detail)

/-- Whom a five-tuple belongs to; only the table of owners can fail. -/
def observeUdpTuple (context : UdpObservationContext) (parsed : ObservedUdpPacket)
    (observation : PendingUdpObservation) : Outcome UdpObservationError PacketDirection :=
  match context.observeUdpTupleWithAssociationWait parsed observation with
  | .ok direction => pure direction
  | .error detail => .raise (.owner detail)

def observeUdpPacketWithAssociationWait (context : UdpObservationContext)
    (observation : PendingUdpObservation) : Outcome UdpObservationError PacketDirection := do
  let parsed ← (parseUdpPacket observation.packet).mapError fun error => .packet error.text
  match parsed with
  | none => pure .bypass
  | some parsed => observeUdpTuple context parsed observation

/-- The event of a whole packet, unless it cannot be parsed. -/
def udpDatagramEvent (packet : Bytes) (target : OriginalTarget) (direction : UdpDatagramDirection)
    (capturedAtMilliseconds : UInt64) : Outcome UdpObservationError (Option UdpDatagramEvent) :=
  match parseUdpPacket packet with
  | .ok (some parsed) => do
      let payload ← slice packet parsed.payloadOffset parsed.payloadEnd
      let clientAddress :=
        match direction with
        | .up => SocketAddr.new parsed.sourceAddress parsed.sourcePort
        | .down => SocketAddr.new parsed.destinationAddress parsed.destinationPort
      pure (some
        { processId := target.processId
          clientAddress
          targetAddress := target.address
          direction
          payload
          capturedAtMilliseconds
          modifications := [] })
  | _ => pure none

/-- The disposition of a fragment; only a first fragment has one. -/
def fragmentDisposition (context : UdpObservationContext) (observation : PendingUdpObservation)
    (part : UdpFragmentPart) : Outcome UdpObservationError (Option UdpFragmentDisposition) :=
  match firstFragmentTuple part with
  | none => pure none
  | some (sourceAddress, sourcePort, destinationAddress, destinationPort) => do
      let direction ← observeUdpTuple context
        { sourceAddress, destinationAddress, sourcePort, destinationPort, payloadOffset := 0,
          payloadEnd := 0 } observation
      match direction with
      | .observedUp target =>
        pure (some (.selected (withIpv6Scope target observation.interfaceIndex) .up
          (SocketAddr.new sourceAddress sourcePort) observation.capturedAtMilliseconds))
      | .observedDown target =>
        pure (some (.selected (withIpv6Scope target observation.interfaceIndex) .down
          (SocketAddr.new destinationAddress destinationPort)
          observation.capturedAtMilliseconds))
      | _ => pure (some .ignored)

/-- What becomes of a datagram that was put together from fragments. -/
def settleReassembled (divert : Divert) (context : UdpObservationContext)
    (reassembled : ReassembledUdpDatagram PendingUdpObservation) : Settled Unit :=
  match reassembled.event with
  | none => ⟨pure (), flushOriginalPackets divert reassembled.observations⟩
  | some event =>
    (Settled.of (processDatagram context event)).andThen fun decision =>
      (applyFragmentDecision divert reassembled.observations event decision).andThen fun
        | none => .of (pure ())
        | some forwarded => .of (appendUdpEvent context forwarded)

/-- What becomes of a datagram in one packet of a selected process. -/
def settleSelected (divert : Divert) (context : UdpObservationContext)
    (observation : PendingUdpObservation) (target : OriginalTarget)
    (direction : UdpDatagramDirection) : Settled Unit :=
  (Settled.of (udpDatagramEvent observation.packet
      (withIpv6Scope target observation.interfaceIndex) direction
      observation.capturedAtMilliseconds)).andThen fun
    | none => .of (.raise (.packet "命中五元组的数据报缺少完整 UDP 头"))
    | some event =>
      (Settled.of (processDatagram context event)).andThen fun decision =>
        (applyWholePacketDecision divert observation event decision).andThen fun
          | none => .of (pure ())
          | some forwarded => .of (appendUdpEvent context forwarded)

/-- What becomes of a packet that is no fragment. -/
def settleWhole (divert : Divert) (context : UdpObservationContext)
    (observation : PendingUdpObservation) : Settled Unit :=
  (Settled.of (observeUdpPacketWithAssociationWait context observation)).andThen fun
    | .observedUp target => settleSelected divert context observation target .up
    | .observedDown target => settleSelected divert context observation target .down
    | _ =>
      match divert.send observation with
      | .error detail => .of (.raise (.send detail))
      | .ok () => ⟨pure (), [.reinjected observation]⟩

/-- What a packet led to, and the assembler after it. -/
structure Processed where
  result : Except UdpObservationError Unit
  terminals : List Terminal
  fragments : UdpFragmentAssembler PendingUdpObservation

/-- The end of a step, unless the program failed a check of its own. -/
def Settled.processed (settled : Settled Unit)
    (fragments : UdpFragmentAssembler PendingUdpObservation) : Outcome Empty Processed := do
  let result ← Outcome.reported settled.result
  pure { result, terminals := settled.terminals, fragments }

/-- A fragment goes to the assembler. -/
def processFragment (divert : Divert) (context : UdpObservationContext) (now : Instant)
    (fragments : UdpFragmentAssembler PendingUdpObservation)
    (observation : PendingUdpObservation) (part : UdpFragmentPart) : Outcome Empty Processed := do
  match ← Outcome.reported (fragmentDisposition context observation part) with
  | .error error => pure { result := .error error, terminals := [], fragments }
  | .ok disposition => do
      let pushed ← fragments.pushWithObservation part disposition observation
        observation.packet.length now
      match pushed.result with
      | .error error =>
        pure { result := .error (.recording error.text), terminals := []
               fragments := pushed.assembler }
      | .ok none => pure { result := .ok (), terminals := [], fragments := pushed.assembler }
      | .ok (some reassembled) =>
        (settleReassembled divert context reassembled).processed pushed.assembler

/-- Find the owner of a packet, apply the rules, and send it on. -/
def processUdpObservation (divert : Divert) (context : UdpObservationContext) (now : Instant)
    (fragments : UdpFragmentAssembler PendingUdpObservation)
    (observation : PendingUdpObservation) : Outcome Empty Processed := do
  match ← Outcome.reported (inspectUdpFragment observation.packet observation.outbound) with
  | .error error => pure { result := .error (.packet error.text), terminals := [], fragments }
  | .ok (.fragment part) => processFragment divert context now fragments observation part
  | .ok .whole => (settleWhole divert context observation).processed fragments

/-! ### The loop -/

inductive Phase where
  | running
  /-- The loop has ended, and the queue is emptied. -/
  | draining
  | finished
deriving DecidableEq

structure ResolverState where
  fragments : UdpFragmentAssembler PendingUdpObservation
  unresolved : List PendingUdpObservation
  phase : Phase
  /-- The packets that were taken over. -/
  consumed : List PendingUdpObservation
  /-- What became of them. -/
  terminals : List Terminal

/-- What the resolver meets: a packet, a pause, the end of the queue, and the end of its work,
with the packets that the receiver kept back. -/
inductive ResolverInput where
  | received (observation : PendingUdpObservation) (divert : Divert)
      (context : UdpObservationContext) (now : Instant)
  | timeout (now : Instant) (stopRequested : Bool)
  | disconnected
  | finish (emergency : List PendingUdpObservation) (divert : Divert)

namespace ResolverState

def initial : ResolverState where
  fragments := .empty none
  unresolved := []
  phase := .running
  consumed := []
  terminals := []

/-- Leave the loop with packets to send unchanged. -/
def leave (state : ResolverState) (packets : List PendingUdpObservation) : ResolverState :=
  { state with
    unresolved := state.unresolved ++ packets ++ state.fragments.drainPendingObservations.1
    fragments := state.fragments.drainPendingObservations.2
    phase := .draining }

/-- What the loop does with the result of a packet. -/
def answer (state : ResolverState) (observation : PendingUdpObservation) (divert : Divert) :
    Except UdpObservationError Unit → ResolverState
  | .ok () => state
  | .error (.packet _) =>
    match divert.send observation with
    | .error _ => { state with phase := .draining }
    | .ok () => { state with terminals := state.terminals ++ [.reinjected observation] }
  | .error (.owner _) => state.leave [observation]
  | .error (.processing _) => state.leave [observation]
  | .error (.restore _ packets) => state.leave packets
  | .error (.send _) => state.leave []
  | .error (.recording _) => state.leave []

/-- One packet in the loop. -/
def receive (state : ResolverState) (observation : PendingUdpObservation) (divert : Divert)
    (context : UdpObservationContext) (now : Instant) : Outcome Empty ResolverState := do
  let processed ← processUdpObservation divert context now state.fragments observation
  let next : ResolverState :=
    { state with
      fragments := processed.fragments
      consumed := state.consumed ++ [observation]
      terminals := state.terminals ++ processed.terminals }
  pure (next.answer observation divert processed.result)

/-- A pause in the loop: expired groups are checked. -/
def pause (state : ResolverState) (now : Instant) (stopRequested : Bool) :
    Outcome Empty ResolverState := do
  match ← state.fragments.pollExpired now with
  | (.error _, fragments) => pure ({ state with fragments }.leave [])
  | (.ok (), fragments) =>
    pure { state with fragments, phase := if stopRequested then .draining else state.phase }

/-- The end: everything that is left is sent unchanged. -/
def conclude (state : ResolverState) (emergency : List PendingUdpObservation) (divert : Divert) :
    ResolverState where
  fragments := state.fragments.drainPendingObservations.2
  unresolved := []
  phase := .finished
  consumed := state.consumed ++ emergency
  terminals := state.terminals ++ flushOriginalPackets divert
    (state.unresolved ++ emergency ++ state.fragments.drainPendingObservations.1)

/-- One step of the resolver. -/
def next (state : ResolverState) (input : ResolverInput) : Outcome Empty ResolverState :=
  match state.phase, input with
  | .running, .received observation divert context now =>
    state.receive observation divert context now
  | .running, .timeout now stopRequested => state.pause now stopRequested
  | .running, .disconnected => pure { state with phase := .draining }
  | .draining, .received observation _ _ _ =>
    pure
      { state with
        unresolved := state.unresolved ++ [observation]
        consumed := state.consumed ++ [observation] }
  | .draining, .finish emergency divert => pure (state.conclude emergency divert)
  | _, _ => pure state

end ResolverState

/-- The resolver as a machine; a failed check stops it for good. -/
def runUdpResolver : Machine (Outcome Empty ResolverState) ResolverInput where
  initial := .ok .initial
  step outcome input := outcome >>= fun state => state.next input

end SprakCapture.ProcessCapture
