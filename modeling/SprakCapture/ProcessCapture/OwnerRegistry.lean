import SprakCapture.ProcessCapture.FlowTable

/-!
# The registry of owner endpoints

The runtime knows from the owner tables of the system which local UDP endpoints belong
to which process. It gives every such binding an endpoint number of its own, binds it
in the flow table, and notes the number in a registry. Events of the driver and
refreshes of the owner tables change both; each of them runs under one lock, so it is
a function on the pair. What the owner tables contain is an argument of a refresh.
-/

namespace SprakCapture.ProcessCapture

open Data

/-- A local UDP endpoint and the process that owns it. -/
structure OwnedUdpBinding where
  processId : UInt32
  localAddress : IpAddr
  localPort : UInt16
deriving DecidableEq

/-- The derived order of bindings, field by field. -/
def OwnedUdpBinding.rank (binding : OwnedUdpBinding) : List Nat :=
  binding.processId.toNat :: (binding.localAddress.rank ++ [binding.localPort.toNat])

def bindingOrder (first second : OwnedUdpBinding) : Bool := decide (first.rank ≤ second.rank)

/-- The endpoint numbers of bindings, and the next number that is handed out. -/
structure OwnerEndpoints where
  ownerUdpEndpoints : Table OwnedUdpBinding UInt64
  nextOwnerUdpEndpointId : UInt64

structure OwnerRuntime where
  flowTable : FlowState
  owners : OwnerEndpoints
  selectedProcessIds : List UInt32
  running : Bool

/-- Numbers for bindings start in the upper half of the range. -/
def OwnerRuntime.initial : OwnerRuntime where
  flowTable := .default
  owners := { ownerUdpEndpoints := ∅, nextOwnerUdpEndpointId := 9223372036854775808 }
  selectedProcessIds := []
  running := false

/-! ### Owner tables -/

/-- `BTreeSet::from_iter`: the elements in order, each once. -/
def sortedBindings (bindings : List OwnedUdpBinding) : List OwnedUdpBinding :=
  (bindings.mergeSort bindingOrder).dedup

/-- The entries of the registry in the order of their bindings. -/
def sortedEndpoints (endpoints : Table OwnedUdpBinding UInt64) : List (OwnedUdpBinding × UInt64) :=
  endpoints.toList.mergeSort fun first second => bindingOrder first.1 second.1

/-- The rows of the owner tables that can carry traffic to other hosts. -/
def enumerateAllOwnedUdpBindings (rows : List OwnedUdpBinding) : List OwnedUdpBinding :=
  sortedBindings (rows.filter fun row => row.localPort != 0 && !row.localAddress.isLoopback)

/-- The rows of selected processes. -/
def enumerateOwnedUdpBindings (selectedProcessIds : List UInt32) (rows : List OwnedUdpBinding) :
    List OwnedUdpBinding :=
  (enumerateAllOwnedUdpBindings rows).filter fun binding =>
    selectedProcessIds.contains binding.processId

/-- Give every binding the next number. -/
def registerMissing : List OwnedUdpBinding → OwnerEndpoints → List OwnerAddition × OwnerEndpoints
  | [], owners => ([], owners)
  | binding :: rest, owners =>
    let endpointId := owners.nextOwnerUdpEndpointId
    let (additions, owners) := registerMissing rest
      { ownerUdpEndpoints := owners.ownerUdpEndpoints.insert binding endpointId
        nextOwnerUdpEndpointId := endpointId + 1 }
    ({ processId := binding.processId
       endpointId
       localAddress := binding.localAddress
       localPort := binding.localPort } :: additions, owners)

namespace OwnerRuntime

/-- The bindings of a list that have no number yet. -/
def missingBindings (state : OwnerRuntime) (bindings : List OwnedUdpBinding) :
    List OwnedUdpBinding :=
  bindings.filter fun binding => !state.owners.ownerUdpEndpoints.contains binding

/-- Make the registry and the flow table hold exactly some bindings. -/
def installOwnerUdpBindings (state : OwnerRuntime) (bindings : List OwnedUdpBinding)
    (now : Instant) : OwnerRuntime :=
  let desired := sortedBindings bindings
  let removals := ((sortedEndpoints state.owners.ownerUdpEndpoints).filter fun entry =>
    !desired.contains entry.1).map Prod.snd
  let (additions, owners) := registerMissing (state.missingBindings desired) state.owners
  { state with
    flowTable := replaceUdpOwnerBindings state.flowTable removals additions now
    owners :=
      { owners with
        ownerUdpEndpoints := owners.ownerUdpEndpoints.retain fun binding _ =>
          desired.contains binding } }

/-- Add the bindings of one process that are missing. -/
def ensureOwnerUdpBindings (state : OwnerRuntime) (bindings : List OwnedUdpBinding)
    (now : Instant) : OwnerRuntime :=
  let (additions, owners) := registerMissing (state.missingBindings bindings) state.owners
  { state with
    flowTable := replaceUdpOwnerBindings state.flowTable [] additions now
    owners }

/-- The test of `removeSyntheticUdpBinding`. -/
def describesSocket (binding existing : OwnedUdpBinding) : Bool :=
  existing.processId == binding.processId && existing.localPort == binding.localPort &&
    existing.localAddress.isIpv4 == binding.localAddress.isIpv4 &&
    (existing.localAddress == binding.localAddress || existing.localAddress.isUnspecified ||
      binding.localAddress.isUnspecified)

/-- The numbers of the bindings that describe a socket. -/
def syntheticEndpoints (state : OwnerRuntime) (binding : OwnedUdpBinding) : List UInt64 :=
  ((sortedEndpoints state.owners.ownerUdpEndpoints).filter fun entry =>
    describesSocket { binding with localAddress := normalizeIpAddress binding.localAddress }
      entry.1).map Prod.snd

/-- A real socket takes over from the bindings that describe it. -/
def removeSyntheticUdpBinding (state : OwnerRuntime) (binding : OwnedUdpBinding)
    (eventTimestamp : Int) (now : Instant) : OwnerRuntime :=
  let removedEndpointIds := state.syntheticEndpoints binding
  { state with
    flowTable := removeEndpointsAt state.flowTable removedEndpointIds eventTimestamp now
    owners :=
      { state.owners with
        ownerUdpEndpoints := state.owners.ownerUdpEndpoints.retain fun _ endpointId =>
          !removedEndpointIds.contains endpointId } }

end OwnerRuntime

/-! ### Events -/

/-- What the driver reports about a socket or a flow. -/
structure DriverAddress where
  protocol : UInt8
  processId : UInt32
  endpointId : UInt64
  localAddress : IpAddr
  localPort : UInt16
  remoteAddress : IpAddr
  remotePort : UInt16
  eventTimestamp : Int
deriving DecidableEq

/-- The listener that flows are redirected to. -/
structure ProxyEntry where
  proxyAddress : IpAddr
  proxyPort : UInt16
deriving DecidableEq

/-- `socketFlow` and `flowLayerFlow`. -/
def DriverAddress.flow (address : DriverAddress) : Option CaptureFlow :=
  if address.protocol = tcpProtocol then
    CaptureFlow.tcp address.processId address.endpointId address.localAddress address.localPort
      address.remoteAddress address.remotePort
  else if address.protocol = udpProtocol then
    CaptureFlow.udp address.processId address.endpointId address.localAddress address.localPort
      address.remoteAddress address.remotePort
  else none

/-- The local endpoint of a socket. -/
def DriverAddress.binding (address : DriverAddress) : OwnedUdpBinding where
  processId := address.processId
  localAddress := address.localAddress
  localPort := address.localPort

namespace OwnerRuntime

def socketBind (state : OwnerRuntime) (address : DriverAddress) : OwnerRuntime :=
  if address.protocol = udpProtocol ∧ state.selectedProcessIds.contains address.processId then
    { state with
      flowTable := (registerUdpBinding state.flowTable address.processId address.endpointId
        address.localAddress address.localPort).2 }
  else state

def socketConnect (state : OwnerRuntime) (address : DriverAddress) (proxy : ProxyEntry)
    (now : Instant) : OwnerRuntime :=
  match address.flow with
  | none => state
  | some flow =>
    if state.selectedProcessIds.contains flow.processId then
      { state with
        flowTable := (insertAt state.flowTable flow proxy.proxyAddress proxy.proxyPort
          (some address.eventTimestamp) now).2 }
    else state

/-- The end of a socket, and in the same words the end of a flow. -/
def socketClose (state : OwnerRuntime) (address : DriverAddress) (now : Instant) : OwnerRuntime :=
  let state :=
    if address.protocol = udpProtocol then
      state.removeSyntheticUdpBinding address.binding address.eventTimestamp now
    else state
  { state with
    flowTable := removeEndpointsAt state.flowTable [address.endpointId] address.eventTimestamp now }

def flowEstablished (state : OwnerRuntime) (address : DriverAddress) (proxy : ProxyEntry)
    (now : Instant) : OwnerRuntime :=
  match address.flow with
  | none => state
  | some flow =>
    if !state.selectedProcessIds.contains flow.processId then state
    else if flow.protocol = udpProtocol then
      let state := state.removeSyntheticUdpBinding
        { processId := flow.processId
          localAddress := flow.localAddress
          localPort := flow.localPort } address.eventTimestamp now
      let (existing, flowTable) := outboundTransportTarget state.flowTable udpProtocol
        flow.localAddress flow.localPort flow.remoteAddress flow.remotePort
      { state with
        flowTable :=
          if existing.isNone then
            (insertAt flowTable flow proxy.proxyAddress proxy.proxyPort
              (some address.eventTimestamp) now).2
          else flowTable }
    else
      { state with
        flowTable := (outboundTarget state.flowTable flow.localAddress flow.localPort
          flow.remoteAddress flow.remotePort).2 }

/-- The resolver found the one process that owns a local endpoint, and asks for the tuple of a
packet. -/
def associateUdpCandidate (state : OwnerRuntime) (ownerProcessId : UInt32)
    (rows : List OwnedUdpBinding) (request : UdpAssociationRequest) (now : Instant) :
    OwnerRuntime :=
  if state.selectedProcessIds.contains ownerProcessId then
    let state := state.ensureOwnerUdpBindings
      ((enumerateAllOwnedUdpBindings rows).filter fun row => row.processId == ownerProcessId) now
    { state with flowTable := (associateUdpOutboundAt state.flowTable request now).2 }
  else state

/-- Replace the selected processes. Without the owner tables the selection stays as it was. -/
def updateProcessIds (state : OwnerRuntime) (ownProcessId : UInt32) (processIds : List UInt32)
    (ownerTables : Option (List OwnedUdpBinding)) (now : Instant) : OwnerRuntime :=
  if processIds.contains 0 ∨ processIds.contains ownProcessId ∨ !state.running then state
  else
    match ownerTables with
    | none =>
      { state with
        flowTable := retainProcessIds state.flowTable state.selectedProcessIds now
        owners :=
          { state.owners with
            ownerUdpEndpoints := state.owners.ownerUdpEndpoints.retain fun binding _ =>
              state.selectedProcessIds.contains binding.processId } }
    | some rows =>
      { state with
        selectedProcessIds := processIds
        flowTable := retainProcessIds state.flowTable processIds now }.installOwnerUdpBindings
          (enumerateOwnedUdpBindings processIds rows) now

/-- The flow table and the registry start empty. -/
def start (state : OwnerRuntime) (processIds : List UInt32) (rows : List OwnedUdpBinding)
    (now : Instant) : OwnerRuntime :=
  { flowTable := clear
    owners := { state.owners with ownerUdpEndpoints := ∅ }
    selectedProcessIds := processIds
    running := true : OwnerRuntime }.installOwnerUdpBindings
      (enumerateOwnedUdpBindings processIds rows) now

def stop (state : OwnerRuntime) : OwnerRuntime where
  flowTable := clear
  owners := { state.owners with ownerUdpEndpoints := ∅ }
  selectedProcessIds := []
  running := false

end OwnerRuntime

/-- What the runtime reacts to. -/
inductive OwnerEvent where
  | start (processIds : List UInt32) (rows : List OwnedUdpBinding) (now : Instant)
  | stop
  | socketBind (address : DriverAddress)
  | socketConnect (address : DriverAddress) (proxy : ProxyEntry) (now : Instant)
  | socketClose (address : DriverAddress) (now : Instant)
  | flowEstablished (address : DriverAddress) (proxy : ProxyEntry) (now : Instant)
  | flowDeleted (address : DriverAddress) (now : Instant)
  | associateUdpCandidate (ownerProcessId : UInt32) (rows : List OwnedUdpBinding)
      (request : UdpAssociationRequest) (now : Instant)
  | updateProcessIds (ownProcessId : UInt32) (processIds : List UInt32)
      (ownerTables : Option (List OwnedUdpBinding)) (now : Instant)

def OwnerRuntime.step (state : OwnerRuntime) : OwnerEvent → OwnerRuntime
  | .start processIds rows now => state.start processIds rows now
  | .stop => state.stop
  | .socketBind address => state.socketBind address
  | .socketConnect address proxy now => state.socketConnect address proxy now
  | .socketClose address now => state.socketClose address now
  | .flowEstablished address proxy now => state.flowEstablished address proxy now
  | .flowDeleted address now => state.socketClose address now
  | .associateUdpCandidate ownerProcessId rows request now =>
    state.associateUdpCandidate ownerProcessId rows request now
  | .updateProcessIds ownProcessId processIds ownerTables now =>
    state.updateProcessIds ownProcessId processIds ownerTables now

/-- The runtime as a machine over its events. -/
def ownerMachine : Machine OwnerRuntime OwnerEvent where
  initial := .initial
  step := .step

end SprakCapture.ProcessCapture
