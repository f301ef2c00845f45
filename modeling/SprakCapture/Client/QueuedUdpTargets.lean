import SprakCapture.Client.DnsForwarding
import SprakCapture.Data.Pairing

/-!
# Targets of redirected datagrams

A UDP datagram that is redirected to the transparent listener no longer shows where it was to
go. Its target is stored when the datagram passes the netfilter queue, before the kernel hands
it on, and the listener takes the first target that is stored for the peer of a datagram that
arrives. Targets live for five seconds.

`TransparentUdp` puts the kernel between the two: it keeps the accepted datagrams of a peer in
order, and may lose any of them.
-/

namespace SprakCapture.Client

open Data Data.IpText

/-- `kMaximumQueuedUdpTargets`. -/
def maximumQueuedUdpTargets : Nat := 8192

/-- `kMaximumQueuedUdpTargetsPerPeer`. -/
def maximumQueuedUdpTargetsPerPeer : Nat := 128

/-- `kQueuedUdpTargetLifetime`, in nanoseconds. -/
def queuedUdpTargetLifetime : Nat := 5 * 1000000000

/-- A `sockaddr_in`. -/
structure SocketAddress where
  address : UInt32
  port : UInt16
deriving DecidableEq

/-- `AddressKey` of an IPv4 address, which `getnameinfo` shows in numbers. -/
def addressKey (peer : SocketAddress) : List Char :=
  IpAddr.formatIpv4 peer.address.toNat ++ ':' :: IpAddr.decimal peer.port.toNat

/-- A datagram with its addresses, as the netfilter queue shows it. -/
structure QueuedUdpPacket where
  source : SocketAddress
  target : TargetAddress
deriving DecidableEq

/-- The bytes of a packet. Those behind its end are read by no caller. -/
def octet (bytes : Bytes) (index : Nat) : UInt8 := bytes.getD index 0

def octetPair (bytes : Bytes) (index : Nat) : UInt16 :=
  u16FromBe (octet bytes index) (octet bytes (index + 1))

/-- The length of the header that its first byte states. -/
def ipHeaderLength (bytes : Bytes) : Nat := (octet bytes 0).toNat % 16 * 4

/-- The address at an index. -/
def ipv4AddressAt (bytes : Bytes) (index : Nat) : UInt32 :=
  u32FromBe (octet bytes index) (octet bytes (index + 1)) (octet bytes (index + 2))
    (octet bytes (index + 3))

/-- Where the headers of a datagram say that it goes. -/
def originalDestination (bytes : Bytes) : TargetAddress :=
  { host := Utf8.encode (IpAddr.formatIpv4 (ipv4AddressAt bytes 16).toNat)
    port := octetPair bytes (ipHeaderLength bytes + 2) }

/-- `ParseIpv4Udp`: fragments other than the first, other protocols and zero ports are refused. -/
def parseIpv4Udp (bytes : Bytes) : Option QueuedUdpPacket :=
  let headerLength := ipHeaderLength bytes
  let sourcePort := octetPair bytes headerLength
  let targetPort := octetPair bytes (headerLength + 2)
  if bytes.length < 20 then none
  else if (octet bytes 0).toNat / 16 ≠ 4 ∨ headerLength < 20 ∨
      bytes.length < headerLength + 8 ∨ octet bytes 9 ≠ 17 ∨
      (octetPair bytes 6).toNat % 8192 ≠ 0 then none
  else if sourcePort = 0 ∨ targetPort = 0 then none
  else
    some
      { source := ⟨ipv4AddressAt bytes 12, sourcePort⟩
        target :=
          { host := Utf8.encode (IpAddr.formatIpv4 (ipv4AddressAt bytes 16).toNat)
            port := targetPort } }

/-- A stored target. -/
structure QueuedUdpTarget where
  target : TargetAddress
  expiry : Nat
deriving DecidableEq

def QueuedUdpTarget.expired (now : Nat) (queued : QueuedUdpTarget) : Bool :=
  decide (queued.expiry ≤ now)

/-- The stored targets, and the flags of the runtime that are read with them. -/
structure QueuedUdpTargets where
  running : Bool
  accepting : Bool
  targets : Table (List Char) (List QueuedUdpTarget)
  count : Nat

namespace QueuedUdpTargets

/-- The targets stored under a key. -/
def queue (state : QueuedUdpTargets) (key : List Char) : List QueuedUdpTarget :=
  (state.targets.get? key).getD []

/-- The key of a peer: the application scope and the address. -/
def peerKey (selected : Bool) (peer : SocketAddress) : List Char :=
  (if selected then ['S', '|'] else ['G', '|']) ++ addressKey peer

/-- Expired targets leave the front of each queue, and empty queues leave the table. -/
def pruneAll (state : QueuedUdpTargets) (now : Nat) : QueuedUdpTargets :=
  let pruned := state.targets.mapValues fun queue => queue.dropWhile (·.expired now)
  { state with
    targets := pruned.retain fun _ queue => !queue.isEmpty
    count := state.count - (state.targets.total List.length - pruned.total List.length) }

/-- Where the table is full, it is pruned. -/
def sweep (state : QueuedUdpTargets) (now : Nat) : QueuedUdpTargets :=
  if maximumQueuedUdpTargets ≤ state.count then state.pruneAll now else state

def withQueue (state : QueuedUdpTargets) (key : List Char) (queue : List QueuedUdpTarget)
    (count : Nat) : QueuedUdpTargets :=
  { state with targets := state.targets.insert key queue, count }

/-- `StoreQueuedUdpTarget`. -/
def store (state : QueuedUdpTargets) (packet : QueuedUdpPacket) (selected : Bool) (now : Nat) :
    Bool × QueuedUdpTargets :=
  let key := peerKey selected packet.source
  if state.running = false ∨ state.accepting = false then (false, state)
  else
    let state := state.sweep now
    if maximumQueuedUdpTargets ≤ state.count then (false, state)
    else
      let queue := (state.queue key).dropWhile (·.expired now)
      let count := state.count - ((state.queue key).length - queue.length)
      if maximumQueuedUdpTargetsPerPeer ≤ queue.length then
        (false, state.withQueue key queue count)
      else
        let queued := { target := packet.target, expiry := now + queuedUdpTargetLifetime }
        (true, state.withQueue key (queue ++ [queued]) (count + 1))

/-- `TakeQueuedUdpTarget`. -/
def take (state : QueuedUdpTargets) (selected : Bool) (peer : SocketAddress) (now : Nat) :
    Option TargetAddress × QueuedUdpTargets :=
  let key := peerKey selected peer
  match state.targets.get? key with
  | none => (none, state)
  | some stored =>
    let queue := stored.dropWhile (·.expired now)
    let count := state.count - (stored.length - queue.length)
    match queue with
    | [] => (none, { state with targets := state.targets.erase key, count })
    | [first] =>
      (some first.target, { state with targets := state.targets.erase key, count := count - 1 })
    | first :: second :: rest =>
      (some first.target, state.withQueue key (second :: rest) (count - 1))

/-- The part of `CloseActiveSessions` about stored targets. -/
def clear (state : QueuedUdpTargets) : QueuedUdpTargets :=
  { state with targets := ∅, count := 0 }

end QueuedUdpTargets

/-- A datagram that the kernel was told to accept. `expiry` is that of the target stored for it,
`cleared` says that the stored targets were cleared since, and `lost` that the datagram was. -/
structure AcceptedDatagram where
  payload : Bytes
  queued : QueuedUdpTarget
  lost : Bool
  cleared : Bool
deriving DecidableEq

/-- A peer and the application scope of its rule. -/
structure TransparentPeer where
  selected : Bool
  address : SocketAddress
deriving DecidableEq

/-- The client with the kernel. `outstanding` has the accepted datagrams of a peer behind the last
that was delivered, and `latest` the latest time at which the clock was read; `delivered` is the
history of the datagrams that arrived, with what was taken for each. -/
structure TransparentUdp where
  runtime : QueuedUdpTargets
  outstanding : TransparentPeer → List AcceptedDatagram
  latest : Nat
  delivered : List (Bytes × Option TargetAddress)

/-- What happens to the client. Each call reads the clock before it takes the lock, so that the
times need not be in order. -/
inductive TransparentAction where
  | setRunning (running : Bool)
  | setAccepting (accepting : Bool)
  | closeActiveSessions
  /-- A packet in the netfilter queue of an application scope. -/
  | processMessage (selected : Bool) (payload : Bytes) (now : Nat)
  /-- The kernel loses an accepted datagram. -/
  | lose (peer : TransparentPeer) (index : Nat)
  /-- The kernel hands on the first datagram of a peer that is not lost. -/
  | deliver (peer : TransparentPeer) (now : Nat)
deriving DecidableEq

namespace TransparentUdp

def initial : TransparentUdp where
  runtime := { running := true, accepting := true, targets := ∅, count := 0 }
  outstanding _ := []
  latest := 0
  delivered := []

/-- Replace the outstanding datagrams of a peer. -/
def withOutstanding (state : TransparentUdp) (peer : TransparentPeer)
    (datagrams : List AcceptedDatagram) : TransparentUdp :=
  { state with
    outstanding := fun other => if other = peer then datagrams else state.outstanding other }

/-- `ProcessMessage`: a packet is accepted if it is a datagram whose target could be stored. -/
def processMessage (state : TransparentUdp) (selected : Bool) (payload : Bytes) (now : Nat) :
    TransparentUdp :=
  match parseIpv4Udp payload with
  | none => state
  | some packet =>
    let (accepted, runtime) := state.runtime.store packet selected now
    let peer := { selected, address := packet.source }
    let state := { state with runtime, latest := max state.latest now }
    if accepted then
      let queued := { target := packet.target, expiry := now + queuedUdpTargetLifetime }
      state.withOutstanding peer (state.outstanding peer ++
        [{ payload, queued, lost := false, cleared := false }])
    else state

def lose (state : TransparentUdp) (peer : TransparentPeer) (index : Nat) : TransparentUdp :=
  state.withOutstanding peer
    ((state.outstanding peer).modify index fun datagram => { datagram with lost := true })

/-- The turn of `RunTransparentUdp` for the next datagram of a peer. -/
def deliver (state : TransparentUdp) (peer : TransparentPeer) (now : Nat) : TransparentUdp :=
  match (state.outstanding peer).dropWhile (·.lost) with
  | [] => state
  | datagram :: later =>
    let (taken, runtime) := state.runtime.take peer.selected peer.address now
    { state with
      runtime
      latest := max state.latest now
      delivered := state.delivered ++ [(datagram.payload, taken)] }.withOutstanding peer later

def closeActiveSessions (state : TransparentUdp) : TransparentUdp :=
  { state with
    runtime := state.runtime.clear
    outstanding := fun peer =>
      (state.outstanding peer).map fun datagram => { datagram with cleared := true } }

end TransparentUdp

/-- The client with the kernel as a machine. -/
def transparentUdp : Machine TransparentUdp TransparentAction where
  initial := .initial
  step state
    | .setRunning running => { state with runtime := { state.runtime with running } }
    | .setAccepting accepting => { state with runtime := { state.runtime with accepting } }
    | .closeActiveSessions => state.closeActiveSessions
    | .processMessage selected payload now => state.processMessage selected payload now
    | .lose peer index => state.lose peer index
    | .deliver peer now => state.deliver peer now

end SprakCapture.Client
