import Mathlib.Data.List.Lex
import Mathlib.Data.List.MinMax
import Mathlib.Data.List.Sort
import SprakCapture.Data.Machine
import SprakCapture.Data.Table
import SprakCapture.ProcessCapture.Address

/-!
# The capture flow table

The table relates the five-tuples of selected processes to the reflected tuples
under which the local proxy sees them. Every operation below runs under one
write lock of the implementation, so it is a function from the state before to
the state after; `associateUdpOutboundAt` takes the lock several times in a row and
is the composition of these steps. Clock readings are arguments: `now` is the instant
an operation reads, and a counter is the performance counter its event carries.
-/

namespace SprakCapture.ProcessCapture

open Data

def tcpProtocol : UInt8 := 6
def udpProtocol : UInt8 := 17
def firstReflectedPort : UInt16 := 49152
def fragmentDecisionLifetime : Duration := fromSeconds 30
def maximumFragmentDecisions : Nat := 4096

/-- An original TCP or UDP five-tuple with the process and endpoint that own it. -/
structure CaptureFlow where
  processId : UInt32
  endpointId : UInt64
  localAddress : IpAddr
  localPort : UInt16
  remoteAddress : IpAddr
  remotePort : UInt16
  protocol : UInt8
deriving DecidableEq

/-- What associating the first datagram of a UDP tuple needs. -/
structure UdpAssociationRequest where
  localAddress : IpAddr
  localPort : UInt16
  remoteAddress : IpAddr
  remotePort : UInt16
  configuredProxyAddress : IpAddr
  proxyPort : UInt16
  capturedAtCounter : Option Int
deriving DecidableEq

/-- `CaptureFlow::transport`: zero ports, loopback remotes and tuples of mixed
address family never become flows. -/
def CaptureFlow.transport (processId : UInt32) (endpointId : UInt64) (localAddress : IpAddr)
    (localPort : UInt16) (remoteAddress : IpAddr) (remotePort : UInt16) (protocol : UInt8) :
    Option CaptureFlow :=
  let localAddress := normalizeIpAddress localAddress
  let remoteAddress := normalizeIpAddress remoteAddress
  if localPort = 0 ∨ remotePort = 0 ∨ remoteAddress.isLoopback ∨
      localAddress.isIpv4 ≠ remoteAddress.isIpv4 then none
  else some
    { processId, endpointId, localAddress, localPort, remoteAddress, remotePort, protocol }

/-- `CaptureFlow::tcp`. -/
def CaptureFlow.tcp (processId : UInt32) (endpointId : UInt64) (localAddress : IpAddr)
    (localPort : UInt16) (remoteAddress : IpAddr) (remotePort : UInt16) : Option CaptureFlow :=
  transport processId endpointId localAddress localPort remoteAddress remotePort tcpProtocol

/-- `CaptureFlow::udp`. -/
def CaptureFlow.udp (processId : UInt32) (endpointId : UInt64) (localAddress : IpAddr)
    (localPort : UInt16) (remoteAddress : IpAddr) (remotePort : UInt16) : Option CaptureFlow :=
  transport processId endpointId localAddress localPort remoteAddress remotePort udpProtocol

/-- The destination a transparent connection has to recover. -/
structure OriginalTarget where
  processId : UInt32
  address : SocketAddr
deriving DecidableEq

structure OutboundKey where
  localAddress : IpAddr
  localPort : UInt16
  remoteAddress : IpAddr
  remotePort : UInt16
  protocol : UInt8
deriving DecidableEq

structure ReflectedKey where
  localAddress : IpAddr
  localPort : UInt16
  remoteAddress : IpAddr
  protocol : UInt8
deriving DecidableEq

structure UdpBindingKey where
  localAddress : IpAddr
  localPort : UInt16
deriving DecidableEq

/-- One IP fragment group of one direction. -/
structure FragmentKey where
  sourceAddress : IpAddr
  destinationAddress : IpAddr
  identification : UInt32
  protocol : UInt8
  outbound : Bool
deriving DecidableEq

/-- What later fragments of a group undergo, as the first fragment decided. -/
inductive FragmentAction where
  | allow
  | block (endpointId : UInt64) (target : OriginalTarget)
deriving DecidableEq

inductive FragmentRecordResult where
  | recorded
  | endpointGone
deriving DecidableEq

inductive FragmentLookup where
  | allow
  | block (target : OriginalTarget)
  | unknown
deriving DecidableEq

structure FragmentDecision where
  action : FragmentAction
  expiresAt : Instant
deriving DecidableEq

/-- The interface an original outbound packet left through. -/
structure NetworkInterface where
  interfaceIndex : UInt32
  subinterfaceIndex : UInt32
deriving DecidableEq

structure RewriteTarget where
  endpointId : UInt64
  original : OriginalTarget
  originalLocalAddress : IpAddr
  proxyAddress : IpAddr
  originalLocalPort : UInt16
  reflectedPort : UInt16
  originalInterface : Option NetworkInterface
deriving DecidableEq

structure TrackedTarget where
  endpointId : UInt64
  rewrite : RewriteTarget
  activeFromCounter : Option Int
deriving DecidableEq

/-- A UDP tuple of a closed endpoint, kept for packets intercepted before the close. -/
structure RetiredUdpTarget where
  rewrite : RewriteTarget
  activeFromCounter : Option Int
  retiredAt : Instant
  retiredAtCounter : Option Int
deriving DecidableEq

structure FlowState where
  outbound : Table OutboundKey TrackedTarget
  retiredUdpOutbound : Table OutboundKey (List RetiredUdpTarget)
  reflected : Table ReflectedKey RewriteTarget
  endpointKeys : Table UInt64 (List (OutboundKey × ReflectedKey))
  udpBindings : Table UdpBindingKey (Table UInt64 UInt32)
  udpBindingKeys : Table UInt64 UdpBindingKey
  fragmentDecisions : Table FragmentKey FragmentDecision
  nextReflectedPort : UInt16

/-- `FlowState::default`. -/
def FlowState.default : FlowState where
  outbound := ∅
  retiredUdpOutbound := ∅
  reflected := ∅
  endpointKeys := ∅
  udpBindings := ∅
  udpBindingKeys := ∅
  fragmentDecisions := ∅
  nextReflectedPort := firstReflectedPort

/-! ### Helpers that run under the write lock -/

/-- The listener address a flow is redirected to; a wildcard listener is reached
over the loopback address of the flow's family. -/
def resolveProxyAddress (originalLocalAddress configuredProxyAddress : IpAddr) : Option IpAddr :=
  let configuredProxyAddress := normalizeIpAddress configuredProxyAddress
  if configuredProxyAddress.isUnspecified then
    some (if originalLocalAddress.isIpv4 then IpAddr.localhostV4 else IpAddr.localhostV6)
  else if configuredProxyAddress.isIpv4 = originalLocalAddress.isIpv4 then
    some configuredProxyAddress
  else none

/-- Give an IPv6 link-local target the scope of the interface it was sent on. -/
def withIpv6Scope (target : OriginalTarget) (interfaceIndex : UInt32) : OriginalTarget :=
  { processId := target.processId
    address :=
      match target.address with
      | .v6 ip port flowinfo scopeId =>
        if isUnicastLinkLocal ip ∧ scopeId = 0 then .v6 ip port flowinfo interfaceIndex
        else .v6 ip port flowinfo scopeId
      | address => address }

/-- `entry(key).or_default().push(value)`. -/
def pushEntry {Key Value : Type} [DecidableEq Key] (table : Table Key (List Value)) (key : Key)
    (value : Value) : Table Key (List Value) :=
  table.insert key ((table.get? key).getD [] ++ [value])

def removeUdpBindingLocked (state : FlowState) (endpointId : UInt64) : FlowState :=
  match state.udpBindingKeys.get? endpointId with
  | none => state
  | some bindingKey =>
    let udpBindingKeys := state.udpBindingKeys.erase endpointId
    match state.udpBindings.get? bindingKey with
    | none => { state with udpBindingKeys }
    | some bindings =>
      let bindings := bindings.erase endpointId
      let udpBindings :=
        if bindings.size = 0 then state.udpBindings.erase bindingKey
        else state.udpBindings.insert bindingKey bindings
      { state with udpBindings, udpBindingKeys }

/-- One turn of the loop of `removeEndpointLocked`: both indices forget the pair,
and a UDP tuple is kept as a retired version. -/
def removeKeyPair (now : Instant) (retiredAtCounter : Option Int) (state : FlowState)
    (pair : OutboundKey × ReflectedKey) : FlowState :=
  let retiredUdpOutbound :=
    match state.outbound.get? pair.1 with
    | some tracked =>
      if pair.1.protocol = udpProtocol then
        pushEntry state.retiredUdpOutbound pair.1
          { rewrite := tracked.rewrite
            activeFromCounter := tracked.activeFromCounter
            retiredAt := now
            retiredAtCounter }
      else state.retiredUdpOutbound
    | none => state.retiredUdpOutbound
  { state with
    outbound := state.outbound.erase pair.1
    retiredUdpOutbound
    reflected := state.reflected.erase pair.2 }

/-- The part of `removeEndpointLocked` that walks the endpoint's key pairs. -/
def removeEndpointKeys (state : FlowState) (endpointId : UInt64) (retiredAtCounter : Option Int)
    (now : Instant) : FlowState :=
  match state.endpointKeys.get? endpointId with
  | none => state
  | some keys =>
    keys.foldl (removeKeyPair now retiredAtCounter)
      { state with endpointKeys := state.endpointKeys.erase endpointId }

/-- Whether a decision blocks on behalf of an endpoint. -/
def FragmentDecision.blocksFor (decision : FragmentDecision) (endpointId : UInt64) : Bool :=
  match decision.action with
  | .block decisionEndpointId _ => decisionEndpointId == endpointId
  | .allow => false

def removeEndpointLocked (state : FlowState) (endpointId : UInt64)
    (retiredAtCounter : Option Int) (now : Instant) : FlowState :=
  let state := removeEndpointKeys state endpointId retiredAtCounter now
  let state := removeUdpBindingLocked state endpointId
  { state with
    fragmentDecisions := state.fragmentDecisions.retain fun _ decision =>
      !decision.blocksFor endpointId }

def pruneFragmentState (state : FlowState) (now : Instant) : FlowState :=
  { state with
    fragmentDecisions := state.fragmentDecisions.retain fun _ decision =>
      decide (now < decision.expiresAt) }

/-- The search of `allocateReflectedPort`, for a number of remaining candidates;
the second component is the port the next allocation starts from. -/
def searchReflectedPort (reflected : Table ReflectedKey RewriteTarget)
    (localAddress remoteAddress : IpAddr) (proxyPort : UInt16) (protocol : UInt8) :
    Nat → UInt16 → Option UInt16 × UInt16
  | 0, candidate => (none, candidate)
  | remaining + 1, candidate =>
    let next := if candidate = 65535 then 1 else candidate + 1
    if candidate ≠ proxyPort ∧
        !reflected.contains { localAddress, localPort := candidate, remoteAddress, protocol } then
      (some candidate, next)
    else searchReflectedPort reflected localAddress remoteAddress proxyPort protocol remaining next

def allocateReflectedPort (state : FlowState) (localAddress remoteAddress : IpAddr)
    (proxyPort : UInt16) (protocol : UInt8) : Option UInt16 × FlowState :=
  let found := searchReflectedPort state.reflected localAddress remoteAddress proxyPort protocol
    65535 state.nextReflectedPort
  (found.1, { state with nextReflectedPort := found.2 })

/-! ### Operations -/

/-- The outbound key of a flow. -/
def CaptureFlow.outboundKey (flow : CaptureFlow) : OutboundKey where
  localAddress := flow.localAddress
  localPort := flow.localPort
  remoteAddress := flow.remoteAddress
  remotePort := flow.remotePort
  protocol := flow.protocol

/-- The reflected key a flow gets for an allocated port. -/
def reflectedKeyFor (flow : CaptureFlow) (proxyAddress : IpAddr) (reflectedPort : UInt16) :
    ReflectedKey where
  localAddress := proxyAddress
  localPort := reflectedPort
  remoteAddress := proxyAddress
  protocol := flow.protocol

/-- The rewrite record of a flow for an allocated port. -/
def rewriteTargetFor (flow : CaptureFlow) (proxyAddress : IpAddr) (reflectedPort : UInt16) :
    RewriteTarget where
  endpointId := flow.endpointId
  original :=
    { processId := flow.processId
      address := SocketAddr.new flow.remoteAddress flow.remotePort }
  originalLocalAddress := flow.localAddress
  proxyAddress
  originalLocalPort := flow.localPort
  reflectedPort
  originalInterface := none

/-- The end of `insertAt`: once the tuple is free, a reflected port is allocated
and the three indices are extended together. -/
def indexFlow (state : FlowState) (flow : CaptureFlow) (proxyAddress : IpAddr)
    (proxyPort : UInt16) (activeFromCounter : Option Int) : Bool × FlowState :=
  match allocateReflectedPort state proxyAddress proxyAddress proxyPort flow.protocol with
  | (none, state) => (false, state)
  | (some reflectedPort, state) =>
    let outboundKey := flow.outboundKey
    let reflectedKey := reflectedKeyFor flow proxyAddress reflectedPort
    let rewrite := rewriteTargetFor flow proxyAddress reflectedPort
    (true,
      { state with
        outbound := state.outbound.insert outboundKey
          { endpointId := flow.endpointId, rewrite, activeFromCounter }
        reflected := state.reflected.insert reflectedKey rewrite
        endpointKeys := pushEntry state.endpointKeys flow.endpointId (outboundKey, reflectedKey) })

/-- The state in which `insertAt` looks for a holder of the tuple: a TCP endpoint
keeps one connection, so its previous one is removed first. -/
def releaseTcpEndpoint (state : FlowState) (flow : CaptureFlow) (now : Instant) : FlowState :=
  if flow.protocol = tcpProtocol then removeEndpointLocked state flow.endpointId none now else state

/-- The counter under which `insertAt` retires the endpoint it takes a tuple from. -/
def takeoverCounter (flow : CaptureFlow) (activeFromCounter : Option Int) : Option Int :=
  if flow.protocol = udpProtocol then activeFromCounter else none

def insertAt (state : FlowState) (flow : CaptureFlow) (configuredProxyAddress : IpAddr)
    (proxyPort : UInt16) (activeFromCounter : Option Int) (now : Instant) : Bool × FlowState :=
  match resolveProxyAddress flow.localAddress configuredProxyAddress with
  | none => (false, state)
  | some proxyAddress =>
    let state := releaseTcpEndpoint state flow now
    match state.outbound.get? flow.outboundKey with
    | some previous =>
      if previous.endpointId = flow.endpointId then (false, state)
      else
        indexFlow
          (removeEndpointLocked state previous.endpointId
            (takeoverCounter flow activeFromCounter) now)
          flow proxyAddress proxyPort activeFromCounter
    | none => indexFlow state flow proxyAddress proxyPort activeFromCounter

/-- `CaptureFlowTable::insert`. -/
def insert (state : FlowState) (flow : CaptureFlow) (configuredProxyAddress : IpAddr)
    (proxyPort : UInt16) (now : Instant) : Bool × FlowState :=
  insertAt state flow configuredProxyAddress proxyPort none now

def removeEndpoint (state : FlowState) (endpointId : UInt64) (now : Instant) : FlowState :=
  removeEndpointLocked state endpointId none now

def removeEndpointsAt (state : FlowState) (endpointIds : List UInt64) (eventTimestamp : Int)
    (now : Instant) : FlowState :=
  endpointIds.foldl
    (fun state endpointId => removeEndpointLocked state endpointId (some eventTimestamp) now) state

/-- The binding update shared by `registerUdpBinding` and `replaceUdpOwnerBindings`. -/
def bindUdpEndpoint (state : FlowState) (processId : UInt32) (endpointId : UInt64)
    (key : UdpBindingKey) : FlowState :=
  let state := removeUdpBindingLocked state endpointId
  { state with
    udpBindings := state.udpBindings.insert key
      (((state.udpBindings.get? key).getD ∅).insert endpointId processId)
    udpBindingKeys := state.udpBindingKeys.insert endpointId key }

def registerUdpBinding (state : FlowState) (processId : UInt32) (endpointId : UInt64)
    (localAddress : IpAddr) (localPort : UInt16) : Bool × FlowState :=
  let localAddress := normalizeIpAddress localAddress
  if localPort = 0 ∨ localAddress.isLoopback then (false, state)
  else (true, bindUdpEndpoint state processId endpointId { localAddress, localPort })

/-- An endpoint that an owner-table refresh adds. -/
structure OwnerAddition where
  processId : UInt32
  endpointId : UInt64
  localAddress : IpAddr
  localPort : UInt16
deriving DecidableEq

def replaceUdpOwnerBindings (state : FlowState) (removedEndpointIds : List UInt64)
    (additions : List OwnerAddition) (now : Instant) : FlowState :=
  let state := removedEndpointIds.foldl
    (fun state endpointId => removeEndpointLocked state endpointId none now) state
  additions.foldl
    (fun state addition =>
      let localAddress := normalizeIpAddress addition.localAddress
      if addition.localPort = 0 ∨ localAddress.isLoopback then state
      else
        bindUdpEndpoint state addition.processId addition.endpointId
          { localAddress, localPort := addition.localPort })
    state

/-- The endpoints of flows whose process is no longer selected. -/
def unselectedFlowEndpoints (state : FlowState) (selectedProcessIds : List UInt32) : List UInt64 :=
  (state.outbound.values.filter fun target =>
    !selectedProcessIds.contains target.rewrite.original.processId).map TrackedTarget.endpointId

/-- The endpoints of bindings whose process is no longer selected. -/
def unselectedBindingEndpoints (state : FlowState) (selectedProcessIds : List UInt32) :
    List UInt64 :=
  ((state.udpBindings.values.flatMap fun bindings => bindings.toList).filter fun binding =>
    !selectedProcessIds.contains binding.2).map Prod.fst

def retainProcessIds (state : FlowState) (selectedProcessIds : List UInt32) (now : Instant) :
    FlowState :=
  let state := (unselectedFlowEndpoints state selectedProcessIds).foldl
    (fun state endpointId => removeEndpointLocked state endpointId none now) state
  (unselectedBindingEndpoints state selectedProcessIds).foldl removeUdpBindingLocked state

/-- The order of addresses: IPv4 before IPv6, then by octets. -/
def IpAddr.rank : IpAddr → List Nat
  | .v4 octets => 0 :: octets.bytes.map UInt8.toNat
  | .v6 octets => 1 :: octets.bytes.map UInt8.toNat

/-- The derived order of fragment keys, field by field. -/
def FragmentKey.rank (key : FragmentKey) : List Nat :=
  key.sourceAddress.rank ++ key.destinationAddress.rank ++
    [key.identification.toNat, key.protocol.toNat, key.outbound.toNat]

/-- The decision that gives way at capacity: the first to expire, then the least key. -/
def evictionKey (decisions : Table FragmentKey FragmentDecision) : Option FragmentKey :=
  (List.argmin
    (fun entry : FragmentKey × FragmentDecision => entry.2.expiresAt :: entry.1.rank)
    decisions.toList).map Prod.fst

def recordFragmentDecisionAt (state : FlowState) (key : FragmentKey) (action : FragmentAction)
    (now : Instant) : FragmentRecordResult × FlowState :=
  let state := pruneFragmentState state now
  let gone := match action with
    | .block endpointId _ => !state.endpointKeys.contains endpointId
    | .allow => false
  let downgrades := match action, (state.fragmentDecisions.get? key).map FragmentDecision.action with
    | .allow, some (.block _ _) => true
    | _, _ => false
  if gone then (.endpointGone, state)
  else if downgrades then (.recorded, state)
  else
    let decisions :=
      if maximumFragmentDecisions ≤ state.fragmentDecisions.size ∧
          !state.fragmentDecisions.contains key then
        match evictionKey state.fragmentDecisions with
        | some evicted => state.fragmentDecisions.erase evicted
        | none => state.fragmentDecisions
      else state.fragmentDecisions
    (.recorded,
      { state with
        fragmentDecisions := decisions.insert key
          { action, expiresAt := now + fragmentDecisionLifetime } })

def fragmentLookupAt (state : FlowState) (key : FragmentKey) (now : Instant) :
    FragmentLookup × FlowState :=
  let state := pruneFragmentState state now
  let found := match (state.fragmentDecisions.get? key).map FragmentDecision.action with
    | some .allow => FragmentLookup.allow
    | some (.block _ target) => .block target
    | none => .unknown
  (found, state)

/-- The update `setTransportReflectedInterface` makes to a rewrite record. -/
def RewriteTarget.recordInterface (rewrite : RewriteTarget) (originalInterface : NetworkInterface)
    (original : OriginalTarget) : RewriteTarget :=
  { rewrite with originalInterface := some originalInterface, original }

def setTransportReflectedInterface (state : FlowState) (protocol : UInt8) (proxyAddress : IpAddr)
    (reflectedPort : UInt16) (remoteAddress : IpAddr) (originalInterface : NetworkInterface) :
    Bool × FlowState :=
  let key : ReflectedKey :=
    { localAddress := normalizeIpAddress proxyAddress
      localPort := reflectedPort
      remoteAddress := normalizeIpAddress remoteAddress
      protocol }
  match state.reflected.get? key with
  | none => (false, state)
  | some existing =>
    let scopedOriginal := withIpv6Scope existing.original originalInterface.interfaceIndex
    let reflected := state.reflected.modify key fun target =>
      target.recordInterface originalInterface scopedOriginal
    let outboundKeys := ((state.endpointKeys.get? existing.endpointId).getD []).map Prod.fst
    let outbound := outboundKeys.foldl
      (fun outbound outboundKey => outbound.modify outboundKey fun target =>
        { target with rewrite := target.rewrite.recordInterface originalInterface scopedOriginal })
      state.outbound
    (true, { state with reflected, outbound })

/-- `CaptureFlowTable::setReflectedInterface`. -/
def setReflectedInterface (state : FlowState) (proxyAddress : IpAddr) (reflectedPort : UInt16)
    (remoteAddress : IpAddr) (originalInterface : NetworkInterface) : Bool × FlowState :=
  setTransportReflectedInterface state tcpProtocol proxyAddress reflectedPort remoteAddress
    originalInterface

/-- `iter_mut().find(..)` of the wildcard pair followed by the key assignment. -/
def replaceFirstKey (source target : OutboundKey) :
    List (OutboundKey × ReflectedKey) → List (OutboundKey × ReflectedKey)
  | [] => []
  | (outboundKey, reflectedKey) :: rest =>
    if outboundKey = source then (target, reflectedKey) :: rest
    else (outboundKey, reflectedKey) :: replaceFirstKey source target rest

def outboundTransportTarget (state : FlowState) (protocol : UInt8) (localAddress : IpAddr)
    (localPort : UInt16) (remoteAddress : IpAddr) (remotePort : UInt16) :
    Option RewriteTarget × FlowState :=
  let key : OutboundKey :=
    { localAddress := normalizeIpAddress localAddress
      localPort
      remoteAddress := normalizeIpAddress remoteAddress
      remotePort
      protocol }
  match state.outbound.get? key with
  | some tracked => (some tracked.rewrite, state)
  | none =>
    let wildcardKey := { key with localAddress := key.localAddress.wildcard }
    match state.outbound.get? wildcardKey with
    | none => (none, state)
    | some tracked =>
      match state.endpointKeys.get? tracked.endpointId with
      | none => (none, state)
      | some keys =>
        match keys.find? (fun pair => pair.1 == wildcardKey) with
        | none => (none, state)
        | some (_, reflectedKey) =>
          let rewrite := { tracked.rewrite with originalLocalAddress := key.localAddress }
          (some rewrite,
            { state with
              outbound := (state.outbound.erase wildcardKey).insert key
                { tracked with rewrite }
              reflected := state.reflected.insert reflectedKey rewrite
              endpointKeys := state.endpointKeys.modify tracked.endpointId
                (replaceFirstKey wildcardKey key) })

/-- `CaptureFlowTable::outboundTarget`. -/
def outboundTarget (state : FlowState) (localAddress : IpAddr) (localPort : UInt16)
    (remoteAddress : IpAddr) (remotePort : UInt16) : Option RewriteTarget × FlowState :=
  outboundTransportTarget state tcpProtocol localAddress localPort remoteAddress remotePort

/-- The half-open test of `udpTargetAt` on a closed version. -/
def RetiredUdpTarget.covers (retired : RetiredUdpTarget) (capturedAt : Instant)
    (capturedAtCounter : Int) : Bool :=
  retired.activeFromCounter.all (fun activeFrom => decide (activeFrom ≤ capturedAtCounter)) &&
    match retired.retiredAtCounter with
    | some retiredAt => decide (capturedAtCounter < retiredAt)
    | none => decide (capturedAt ≤ retired.retiredAt)

/-- The test of `udpTargetAt` on the live version. -/
def TrackedTarget.covers (tracked : TrackedTarget) (capturedAtCounter : Int) : Bool :=
  tracked.activeFromCounter.all fun activeFrom => decide (activeFrom ≤ capturedAtCounter)

def udpTargetAt (state : FlowState) (localAddress : IpAddr) (localPort : UInt16)
    (remoteAddress : IpAddr) (remotePort : UInt16) (capturedAt : Instant)
    (capturedAtCounter : Int) : Option RewriteTarget :=
  let key : OutboundKey :=
    { localAddress := normalizeIpAddress localAddress
      localPort
      remoteAddress := normalizeIpAddress remoteAddress
      remotePort
      protocol := udpProtocol }
  match (state.outbound.get? key).filter fun current => current.covers capturedAtCounter with
  | some current => some current.rewrite
  | none =>
    (((state.retiredUdpOutbound.get? key).getD []).reverse.find? fun retired =>
      retired.covers capturedAt capturedAtCounter).map RetiredUdpTarget.rewrite

/-- The retired versions of one key that survive a watermark. -/
def retainVersions (processedCounter : Int) (versions : List RetiredUdpTarget) :
    List RetiredUdpTarget :=
  versions.filter fun retired =>
    retired.retiredAtCounter.all fun retiredAt => decide (processedCounter ≤ retiredAt)

/-- `retain` with a closure that first filters the versions of the entry in place. -/
def advanceUdpObservationWatermark (state : FlowState) (processedCounter : Int) : FlowState :=
  { state with
    retiredUdpOutbound :=
      (state.retiredUdpOutbound.retain fun _ versions =>
          !(retainVersions processedCounter versions).isEmpty).mapValues
        (retainVersions processedCounter) }

def reflectedTransportTarget (state : FlowState) (protocol : UInt8) (localAddress : IpAddr)
    (localPort : UInt16) (remoteAddress : IpAddr) : Option RewriteTarget :=
  state.reflected.get?
    { localAddress := normalizeIpAddress localAddress
      localPort
      remoteAddress := normalizeIpAddress remoteAddress
      protocol }

/-- `CaptureFlowTable::reflectedTarget`. -/
def reflectedTarget (state : FlowState) (localAddress : IpAddr) (localPort : UInt16)
    (remoteAddress : IpAddr) : Option RewriteTarget :=
  reflectedTransportTarget state tcpProtocol localAddress localPort remoteAddress

def originalTargetForPeer (state : FlowState) (localAddress : IpAddr) (peer : SocketAddr) :
    Option OriginalTarget :=
  (reflectedTarget state localAddress peer.port peer.ip).map RewriteTarget.original

/-- The lookup `associateUdpOutboundAt` makes before and after it inserts: an exact
or promoted tuple without a counter, a version of the tuple with one. -/
def existingUdpTarget (state : FlowState) (request : UdpAssociationRequest) (now : Instant) :
    Option RewriteTarget × FlowState :=
  match request.capturedAtCounter with
  | none =>
    outboundTransportTarget state udpProtocol request.localAddress request.localPort
      request.remoteAddress request.remotePort
  | some capturedAtCounter =>
    (udpTargetAt state request.localAddress request.localPort request.remoteAddress
      request.remotePort now capturedAtCounter, state)

/-- Every binding that could own a local endpoint, in ascending order and without
repetition. -/
def bindingCandidates (state : FlowState) (localAddress : IpAddr) (localPort : UInt16) :
    List (UInt64 × UInt32) :=
  let exact := (state.udpBindings.get? { localAddress, localPort }).elim [] Table.toList
  let wildcard := (state.udpBindings.get?
    { localAddress := localAddress.wildcard, localPort }).elim [] Table.toList
  ((exact ++ wildcard).mergeSort fun left right =>
    left.1 < right.1 || (left.1 == right.1 && left.2 ≤ right.2)).dedup

/-- The least candidate, provided that all candidates are of one process. -/
def uniqueCandidate (candidates : List (UInt64 × UInt32)) : Option (UInt64 × UInt32) :=
  match candidates with
  | [] => none
  | first :: rest => if rest.all (fun other => other.2 == first.2) then some first else none

def associateUdpOutboundAt (state : FlowState) (request : UdpAssociationRequest) (now : Instant) :
    Option RewriteTarget × FlowState :=
  let (existing, state) := existingUdpTarget state request now
  match existing with
  | some target => (some target, state)
  | none =>
    let localAddress := normalizeIpAddress request.localAddress
    let remoteAddress := normalizeIpAddress request.remoteAddress
    match uniqueCandidate (bindingCandidates state localAddress request.localPort) with
    | none => (none, state)
    | some (endpointId, processId) =>
      match CaptureFlow.udp processId endpointId localAddress request.localPort remoteAddress
          request.remotePort with
      | none => (none, state)
      | some flow =>
        let (_, state) := insertAt state flow request.configuredProxyAddress
          request.proxyPort request.capturedAtCounter now
        let (target, state) := existingUdpTarget state
          { request with localAddress, remoteAddress } now
        let state := if state.udpBindingKeys.contains endpointId then state
          else removeEndpoint state endpointId now
        (target, state)

/-- `CaptureFlowTable::clear`. -/
def clear : FlowState := FlowState.default

/-- `CaptureFlowTable::len`. -/
def len (state : FlowState) : Nat := state.outbound.size

/-! ### The table as a machine -/

/-- One call of the table's interface. -/
inductive FlowAction where
  | insertAt (flow : CaptureFlow) (configuredProxyAddress : IpAddr) (proxyPort : UInt16)
      (activeFromCounter : Option Int) (now : Instant)
  | removeEndpoint (endpointId : UInt64) (now : Instant)
  | removeEndpointsAt (endpointIds : List UInt64) (eventTimestamp : Int) (now : Instant)
  | registerUdpBinding (processId : UInt32) (endpointId : UInt64) (localAddress : IpAddr)
      (localPort : UInt16)
  | replaceUdpOwnerBindings (removedEndpointIds : List UInt64) (additions : List OwnerAddition)
      (now : Instant)
  | associateUdpOutboundAt (request : UdpAssociationRequest) (now : Instant)
  | retainProcessIds (selectedProcessIds : List UInt32) (now : Instant)
  | recordFragmentDecisionAt (key : FragmentKey) (action : FragmentAction) (now : Instant)
  | fragmentLookupAt (key : FragmentKey) (now : Instant)
  | setTransportReflectedInterface (protocol : UInt8) (proxyAddress : IpAddr)
      (reflectedPort : UInt16) (remoteAddress : IpAddr) (originalInterface : NetworkInterface)
  | outboundTransportTarget (protocol : UInt8) (localAddress : IpAddr) (localPort : UInt16)
      (remoteAddress : IpAddr) (remotePort : UInt16)
  | advanceUdpObservationWatermark (processedCounter : Int)
  | clear

/-- The state after one call. -/
def FlowState.step (state : FlowState) : FlowAction → FlowState
  | .insertAt flow configuredProxyAddress proxyPort activeFromCounter now =>
    (ProcessCapture.insertAt state flow configuredProxyAddress proxyPort activeFromCounter now).2
  | .removeEndpoint endpointId now => ProcessCapture.removeEndpoint state endpointId now
  | .removeEndpointsAt endpointIds eventTimestamp now =>
    ProcessCapture.removeEndpointsAt state endpointIds eventTimestamp now
  | .registerUdpBinding processId endpointId localAddress localPort =>
    (ProcessCapture.registerUdpBinding state processId endpointId localAddress localPort).2
  | .replaceUdpOwnerBindings removedEndpointIds additions now =>
    ProcessCapture.replaceUdpOwnerBindings state removedEndpointIds additions now
  | .associateUdpOutboundAt request now =>
    (ProcessCapture.associateUdpOutboundAt state request now).2
  | .retainProcessIds selectedProcessIds now =>
    ProcessCapture.retainProcessIds state selectedProcessIds now
  | .recordFragmentDecisionAt key action now =>
    (ProcessCapture.recordFragmentDecisionAt state key action now).2
  | .fragmentLookupAt key now => (ProcessCapture.fragmentLookupAt state key now).2
  | .setTransportReflectedInterface protocol proxyAddress reflectedPort remoteAddress
      originalInterface =>
      (ProcessCapture.setTransportReflectedInterface state protocol proxyAddress reflectedPort
        remoteAddress originalInterface).2
  | .outboundTransportTarget protocol localAddress localPort remoteAddress remotePort =>
    (ProcessCapture.outboundTransportTarget state protocol localAddress localPort remoteAddress
      remotePort).2
  | .advanceUdpObservationWatermark processedCounter =>
    ProcessCapture.advanceUdpObservationWatermark state processedCounter
  | .clear => ProcessCapture.clear

/-- The flow table as a machine over its calls. -/
def flowMachine : Machine FlowState FlowAction where
  initial := FlowState.default
  step := FlowState.step

end SprakCapture.ProcessCapture
