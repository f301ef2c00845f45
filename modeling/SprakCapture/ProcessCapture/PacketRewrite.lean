import SprakCapture.ProcessCapture.ExtensionChain
import SprakCapture.ProcessCapture.FlowTable

/-!
# Packet parsing and rewriting

The parsers locate the transport header of an IP packet, and `rewriteTcpPacket`
redirects the packets of selected flows to the local proxy and restores the
replies of the proxy. Packets are rewritten in place, so the model returns the
packet and the flow table after the call next to its result.
-/

namespace SprakCapture.ProcessCapture

open Data

/-- What became of a packet. -/
inductive PacketDirection where
  | bypass
  | observedUp (target : OriginalTarget)
  | observedDown (target : OriginalTarget)
  | blocked (target : OriginalTarget)
  | redirected (original : OriginalTarget) (proxyAddress : IpAddr) (reflectedPort : UInt16)
  | restored (original : OriginalTarget) (originalInterface : Option NetworkInterface)
deriving DecidableEq

inductive PacketRewriteError where
  | truncatedIpHeader
  | unsupportedIpVersion (version : UInt8)
  | notTcp
  | notUdp
  | invalidIpv6Extension
  | truncatedTcpHeader
  | truncatedUdpHeader
  | invalidPacketLength
  | unsupportedUdpJumbogram
deriving DecidableEq

/-- The text of an error. -/
def PacketRewriteError.text : PacketRewriteError → String
  | truncatedIpHeader => "数据包短于 IP 头"
  | unsupportedIpVersion version => "不支持的 IP 版本 " ++ toString version
  | notTcp => "数据包不是 TCP"
  | notUdp => "数据包不是 UDP"
  | invalidIpv6Extension => "IPv6 扩展头损坏或不支持"
  | truncatedTcpHeader => "数据包短于 TCP 头"
  | truncatedUdpHeader => "数据包短于 UDP 头"
  | invalidPacketLength => "IP 或 UDP 长度字段超出当前数据包边界"
  | unsupportedUdpJumbogram => "IPv6 UDP jumbogram 尚未提供 Jumbo Payload 扩展头"

/-- The five-tuple and the payload range of a whole UDP packet. -/
structure ObservedUdpPacket where
  sourceAddress : IpAddr
  destinationAddress : IpAddr
  sourcePort : UInt16
  destinationPort : UInt16
  payloadOffset : Nat
  payloadEnd : Nat
deriving DecidableEq

structure ParsedTcpPacket where
  sourceAddress : IpAddr
  destinationAddress : IpAddr
  sourceAddressOffset : Nat
  destinationAddressOffset : Nat
  tcpOffset : Nat
  fragmentKey : Option FragmentKey
deriving DecidableEq

inductive ParsedPacket where
  | tcp (parsed : ParsedTcpPacket)
  | laterFragment (key : FragmentKey)
deriving DecidableEq

/-! ### Shared reads and writes -/

/-- The IP version in the first octet. -/
def ipVersion (packet : Bytes) : Outcome PacketRewriteError UInt8 :=
  match packet with
  | [] => .raise .truncatedIpHeader
  | first :: _ => .ok (first >>> 4)

def ensureExtensionBytes (packet : Bytes) (offset length : Nat) : Outcome PacketRewriteError Unit :=
  .raiseIf (packet.length < offset + length) .invalidIpv6Extension

def readPort (packet : Bytes) (offset : Nat) : Outcome PacketRewriteError UInt16 :=
  u16At packet offset

def writePort (packet : Bytes) (offset : Nat) (port : UInt16) : Outcome PacketRewriteError Bytes :=
  overwrite packet offset (u16ToBe port)

/-- The width written is the width of the address, whatever the family of the packet. -/
def writeIpAddress (packet : Bytes) (offset : Nat) (address : IpAddr) :
    Outcome PacketRewriteError Bytes :=
  overwrite packet offset address.octets

/-! ### UDP -/

/-- Where a UDP header starts and where its IP packet ends. -/
structure UdpLocation where
  sourceAddress : IpAddr
  destinationAddress : IpAddr
  udpOffset : Nat
  ipEnd : Nat
deriving DecidableEq

/-- The IPv4 branch of `parseUdpPacket`. -/
def locateIpv4Udp (packet : Bytes) : Outcome PacketRewriteError (Option UdpLocation) := do
  .raiseIf (packet.length < 20) .truncatedIpHeader
  let first ← byteAt packet 0
  let headerLength := (first &&& 0x0f).toNat * 4
  .raiseIf (headerLength < 20 ∨ packet.length < headerLength) .truncatedIpHeader
  let protocol ← byteAt packet 9
  .raiseIf (protocol ≠ udpProtocol) .notUdp
  let totalLength ← u16At packet 2
  .raiseIf (totalLength.toNat < headerLength + 8 ∨ packet.length < totalLength.toNat)
    .invalidPacketLength
  let fragment ← u16At packet 6
  if fragment &&& 0x3fff ≠ 0 then pure none
  else do
    let sourceAddress ← octetsAt 4 packet 12
    let destinationAddress ← octetsAt 4 packet 16
    pure (some
      { sourceAddress := .v4 sourceAddress
        destinationAddress := .v4 destinationAddress
        udpOffset := headerLength
        ipEnd := totalLength.toNat })

/-- One turn of the header loop of `parseUdpPacket`; a Fragment header ends it without
an offset. -/
def udpChainStep (packet : Bytes) (ipEnd : Nat) (position : ChainPosition) :
    Outcome PacketRewriteError (ChainPosition ⊕ Option Nat) :=
  if position.nextHeader = udpProtocol then pure (.inr (some position.offset))
  else
    match extensionKind? position.nextHeader with
    | some kind => do
        ensureExtensionBytes packet position.offset 2
        let next ← skipExtension kind packet position.offset
        .raiseIf (ipEnd < next.offset) .invalidIpv6Extension
        pure (.inl next)
    | none => if position.nextHeader = fragmentHeader then pure (.inr none) else .raise .notUdp

/-- The IPv6 branch of `parseUdpPacket`. -/
def locateIpv6Udp (packet : Bytes) : Outcome PacketRewriteError (Option UdpLocation) := do
  .raiseIf (packet.length < 40) .truncatedIpHeader
  let payloadLength ← u16At packet 4
  .raiseIf (payloadLength = 0) .unsupportedUdpJumbogram
  let ipEnd := 40 + payloadLength.toNat
  .raiseIf (packet.length < ipEnd) .invalidPacketLength
  let nextHeader ← byteAt packet 6
  match ← Outcome.loop (udpChainStep packet ipEnd) (packet.length + 1)
      { nextHeader, offset := 40 } with
  | none => pure none
  | some udpOffset => do
      let sourceAddress ← octetsAt 16 packet 8
      let destinationAddress ← octetsAt 16 packet 24
      pure (some
        { sourceAddress := .v6 sourceAddress
          destinationAddress := .v6 destinationAddress
          udpOffset
          ipEnd })

/-- The end of `parseUdpPacket`, common to both families. -/
def readUdpHeader (packet : Bytes) (location : UdpLocation) :
    Outcome PacketRewriteError ObservedUdpPacket := do
  .raiseIf (location.ipEnd < location.udpOffset + 8) .truncatedUdpHeader
  let udpLength ← u16At packet (location.udpOffset + 4)
  .raiseIf (udpLength.toNat < 8 ∨ location.ipEnd < location.udpOffset + udpLength.toNat)
    .invalidPacketLength
  let sourcePort ← readPort packet location.udpOffset
  let destinationPort ← readPort packet (location.udpOffset + 2)
  pure
    { sourceAddress := location.sourceAddress
      destinationAddress := location.destinationAddress
      sourcePort
      destinationPort
      payloadOffset := location.udpOffset + 8
      payloadEnd := location.udpOffset + udpLength.toNat }

/-- The match on the version in `parseUdpPacket`. -/
def locateUdp (packet : Bytes) (version : UInt8) :
    Outcome PacketRewriteError (Option UdpLocation) :=
  if version = 4 then locateIpv4Udp packet
  else if version = 6 then locateIpv6Udp packet
  else .raise (.unsupportedIpVersion version)

def parseUdpPacket (packet : Bytes) : Outcome PacketRewriteError (Option ObservedUdpPacket) := do
  let version ← ipVersion packet
  match ← locateUdp packet version with
  | none => pure none
  | some location => do
      let parsed ← readUdpHeader packet location
      pure (some parsed)

/-! ### TCP -/

def parseIpv4TcpPacket (packet : Bytes) (outbound : Bool) :
    Outcome PacketRewriteError ParsedPacket := do
  .raiseIf (packet.length < 20) .truncatedIpHeader
  let first ← byteAt packet 0
  let headerLength := (first &&& 0x0f).toNat * 4
  .raiseIf (headerLength < 20 ∨ packet.length < headerLength) .truncatedIpHeader
  let protocol ← byteAt packet 9
  .raiseIf (protocol ≠ tcpProtocol) .notTcp
  let fragment ← u16At packet 6
  let source ← octetsAt 4 packet 12
  let destination ← octetsAt 4 packet 16
  let identification ← u16At packet 4
  let key : FragmentKey :=
    { sourceAddress := .v4 source
      destinationAddress := .v4 destination
      identification := identification.toUInt32
      protocol
      outbound }
  if fragment &&& 0x1fff ≠ 0 then pure (.laterFragment key)
  else do
    .raiseIf (packet.length < headerLength + 20) .truncatedTcpHeader
    pure (.tcp
      { sourceAddress := .v4 source
        destinationAddress := .v4 destination
        sourceAddressOffset := 12
        destinationAddressOffset := 16
        tcpOffset := headerLength
        fragmentKey := if fragment &&& 0x2000 ≠ 0 then some key else none })

/-- Where the header loop of `parseIpv6TcpPacket` stands, with the first fragment it
passed. -/
structure TcpChainPosition where
  position : ChainPosition
  fragmentKey : Option FragmentKey
deriving DecidableEq

/-- One turn of the header loop of `parseIpv6TcpPacket`; it ends at a TCP header or
with the key of a later fragment. -/
def tcpChainStep (packet : Bytes) (source destination : Octets 16) (outbound : Bool)
    (chain : TcpChainPosition) :
    Outcome PacketRewriteError (TcpChainPosition ⊕ (FragmentKey ⊕ Nat × Option FragmentKey)) :=
  let position := chain.position
  if position.nextHeader = tcpProtocol then
    pure (.inr (.inr (position.offset, chain.fragmentKey)))
  else
    match extensionKind? position.nextHeader with
    | some kind => do
        ensureExtensionBytes packet position.offset 2
        let next ← skipExtension kind packet position.offset
        .raiseIf (packet.length < next.offset) .invalidIpv6Extension
        pure (.inl { chain with position := next })
    | none =>
      if position.nextHeader = fragmentHeader then do
        ensureExtensionBytes packet position.offset 8
        let fragment ← u16At packet (position.offset + 2)
        let identification ← u32At packet (position.offset + 4)
        let protocol ← byteAt packet position.offset
        let key : FragmentKey :=
          { sourceAddress := .v6 source
            destinationAddress := .v6 destination
            identification
            protocol
            outbound }
        if fragment &&& 0xfff8 ≠ 0 then pure (.inr (.inl key))
        else do
          let next : ChainPosition := { nextHeader := protocol, offset := position.offset + 8 }
          .raiseIf (packet.length < next.offset) .invalidIpv6Extension
          pure (.inl
            { position := next
              fragmentKey := if fragment &&& 0x0001 ≠ 0 then some key else none })
      else .raise .notTcp

def parseIpv6TcpPacket (packet : Bytes) (outbound : Bool) :
    Outcome PacketRewriteError ParsedPacket := do
  .raiseIf (packet.length < 40) .truncatedIpHeader
  let nextHeader ← byteAt packet 6
  let source ← octetsAt 16 packet 8
  let destination ← octetsAt 16 packet 24
  match ← Outcome.loop (tcpChainStep packet source destination outbound) (packet.length + 1)
      { position := { nextHeader, offset := 40 }, fragmentKey := none } with
  | .inl key => pure (.laterFragment key)
  | .inr (tcpOffset, fragmentKey) => do
      .raiseIf (packet.length < tcpOffset + 20) .truncatedTcpHeader
      pure (.tcp
        { sourceAddress := .v6 source
          destinationAddress := .v6 destination
          sourceAddressOffset := 8
          destinationAddressOffset := 24
          tcpOffset
          fragmentKey })

def parsePacket (packet : Bytes) (outbound : Bool) : Outcome PacketRewriteError ParsedPacket := do
  let version ← ipVersion packet
  if version = 4 then parseIpv4TcpPacket packet outbound
  else if version = 6 then parseIpv6TcpPacket packet outbound
  else .raise (.unsupportedIpVersion version)

/-! ### Rewriting -/

/-- The four writes that give a parsed packet another tuple. -/
def writeTuple (packet : Bytes) (parsed : ParsedTcpPacket) (source destination : IpAddr)
    (sourcePort destinationPort : UInt16) : Outcome PacketRewriteError Bytes := do
  let packet ← writeIpAddress packet parsed.sourceAddressOffset source
  let packet ← writeIpAddress packet parsed.destinationAddressOffset destination
  let packet ← writePort packet parsed.tcpOffset sourcePort
  writePort packet (parsed.tcpOffset + 2) destinationPort

/-- The result of `rewriteTcpPacket` with the packet and the table it leaves. -/
structure TcpRewrite where
  result : Outcome PacketRewriteError PacketDirection
  packet : Bytes
  flowTable : FlowState

/-- The decision for a selected packet: a first fragment blocks its group, anything
else is written with a new tuple. -/
def rewriteSelected (packet : Bytes) (flowTable : FlowState) (now : Instant)
    (parsed : ParsedTcpPacket) (target : RewriteTarget) (source destination : IpAddr)
    (sourcePort destinationPort : UInt16) (direction : PacketDirection) : TcpRewrite :=
  match parsed.fragmentKey with
  | some key =>
    { result := .ok (.blocked target.original)
      packet
      flowTable := (recordFragmentDecisionAt flowTable key
        (.block target.endpointId target.original) now).2 }
  | none =>
    match writeTuple packet parsed source destination sourcePort destinationPort with
    | .ok written => { result := .ok direction, packet := written, flowTable }
    | .error fault => { result := .error fault, packet, flowTable }

/-- `rewriteTcpPacket` once the TCP header and its ports are known. -/
def rewriteParsed (packet : Bytes) (proxyPort : UInt16) (flowTable : FlowState) (now : Instant)
    (parsed : ParsedTcpPacket) (sourcePort destinationPort : UInt16) : TcpRewrite :=
  match (if sourcePort = proxyPort then
      reflectedTarget flowTable parsed.sourceAddress destinationPort parsed.destinationAddress
    else none) with
  | some target =>
    rewriteSelected packet flowTable now parsed target target.original.address.ip
      target.originalLocalAddress target.original.address.port target.originalLocalPort
      (.restored target.original target.originalInterface)
  | none =>
    match outboundTarget flowTable parsed.sourceAddress sourcePort parsed.destinationAddress
        destinationPort with
    | (none, flowTable) =>
      { result := .ok .bypass
        packet
        flowTable := parsed.fragmentKey.elim flowTable fun key =>
          (recordFragmentDecisionAt flowTable key .allow now).2 }
    | (some target, flowTable) =>
      rewriteSelected packet flowTable now parsed target target.proxyAddress
        target.proxyAddress target.reflectedPort proxyPort
        (.redirected target.original target.proxyAddress target.reflectedPort)

/-- Redirect the packets of selected flows and restore the replies of the proxy. -/
def rewriteTcpPacket (packet : Bytes) (outbound : Bool) (proxyPort : UInt16)
    (flowTable : FlowState) (now : Instant) : TcpRewrite :=
  if !outbound then { result := .ok .bypass, packet, flowTable }
  else
    match parsePacket packet outbound with
    | .error fault => { result := .error fault, packet, flowTable }
    | .ok (.laterFragment key) =>
      let (found, flowTable) := fragmentLookupAt flowTable key now
      { result := .ok (match found with
          | .block target => .blocked target
          | .allow | .unknown => .bypass)
        packet
        flowTable }
    | .ok (.tcp parsed) =>
      match readPort packet parsed.tcpOffset, readPort packet (parsed.tcpOffset + 2) with
      | .ok sourcePort, .ok destinationPort =>
        rewriteParsed packet proxyPort flowTable now parsed sourcePort destinationPort
      | .error fault, _ => { result := .error fault, packet, flowTable }
      | _, .error fault => { result := .error fault, packet, flowTable }

/-- Whether a packet is the first SYN of a connection. -/
def isTcpStartPacket (packet : Bytes) : Outcome PacketRewriteError Bool :=
  match parsePacket packet true with
  | .ok (.tcp parsed) => do
      let flags ← byteAt packet (parsed.tcpOffset + 13)
      pure (decide (flags &&& 0x02 ≠ 0 ∧ flags &&& 0x10 = 0))
  | _ => pure false

end SprakCapture.ProcessCapture
