import SprakCapture.Data.OrderedTable
import SprakCapture.ProcessCapture.ExtensionChain
import SprakCapture.ProcessCapture.FlowTable

/-!
# UDP fragments

`inspectUdpFragment` reads the fragment metadata of one IP packet, and the
assembler collects the fragments of a datagram within fixed budgets until they
cover it. The assembler keeps every packet that went into a group, because a
packet that was intercepted has to be sent on, dropped or replayed later. A call
reads the clock once, as its argument `now`; subtractions are checked, since the
totals are unsigned.
-/

namespace SprakCapture.ProcessCapture

open Data

def ipv4FragmentLifetime : Duration := fromSeconds 60
def ipv6FragmentLifetime : Duration := fromSeconds 60
def maximumFragmentGroups : Nat := 1024
def maximumBufferedFragmentBytes : Nat := 64 * 1024 * 1024
def maximumBufferedFragmentObservations : Nat := 8192
def maximumBufferedObservationBytes : Nat := 64 * 1024 * 1024

inductive UdpDatagramDirection where
  | up
  | down
deriving DecidableEq

/-- A change to a payload, in the coordinates of the changed payload. -/
structure UdpDatagramModification where
  offsetBytes : Nat
  originalBytes : Bytes
  modifiedBytes : Bytes
deriving DecidableEq

/-- One UDP datagram of a selected process. -/
structure UdpDatagramEvent where
  processId : UInt32
  clientAddress : SocketAddr
  targetAddress : SocketAddr
  direction : UdpDatagramDirection
  payload : Bytes
  capturedAtMilliseconds : UInt64
  modifications : List UdpDatagramModification
deriving DecidableEq

/-- One fragment group of one direction. -/
structure UdpFragmentKey where
  sourceAddress : IpAddr
  destinationAddress : IpAddr
  identification : UInt32
  outbound : Bool
deriving DecidableEq

/-- A fragment cut to the bounds of its IP packet; `payloadOffset` counts from the
start of the fragmentable part. -/
structure UdpFragmentPart where
  key : UdpFragmentKey
  payloadOffset : Nat
  moreFragments : Bool
  fragmentPayload : Bytes
  packetBytes : Nat
  sourcePort : Option UInt16
  destinationPort : Option UInt16
  udpHeaderOffset : Option Nat
  packetPayloadOffset : Nat
deriving DecidableEq

inductive UdpPacketFragment where
  | whole
  | fragment (part : UdpFragmentPart)
deriving DecidableEq

/-- Whom a first fragment belongs to; `ignored` is a process that is not selected. -/
inductive UdpFragmentDisposition where
  | selected (target : OriginalTarget) (direction : UdpDatagramDirection)
      (clientAddress : SocketAddr) (capturedAtMilliseconds : UInt64)
  | ignored
deriving DecidableEq

/-- The errors of this module. -/
inductive UdpFragmentError where
  | truncatedIpHeader
  | unsupportedIpVersion (version : UInt8)
  | truncatedIpv4Header
  | invalidIpv4Length
  | notUdp
  | truncatedIpv6Header
  | unsupportedJumbogram
  | invalidIpv6Length
  | chainNotUdp
  | extensionBeyondPayload
  | postFragmentChainNotUdp
  | extensionBeyondFirstFragment
  | unalignedFragment
  | truncatedUdpHeader
  | groupLimit
  | byteLimit
  | observationLimit
  | conflictingOverlap
  | conflictingFinalLength
  | dispositionOnLaterFragment
  | missingUdpHeaderOffset
  | reassembledTooShort
  | reassembledLengthTooLong
  | incompleteOnExpiry
  | incompleteOnFinish (count : Nat)
deriving DecidableEq

/-- The text of an error. -/
def UdpFragmentError.text : UdpFragmentError → String
  | truncatedIpHeader => "数据包短于 IP 头"
  | unsupportedIpVersion version => "不支持的 IP 版本 " ++ toString version
  | truncatedIpv4Header => "数据包短于 IPv4 头"
  | invalidIpv4Length => "IPv4 长度字段超出捕获边界"
  | notUdp => "IP 分片不是 UDP"
  | truncatedIpv6Header => "数据包短于 IPv6 头"
  | unsupportedJumbogram => "IPv6 UDP jumbogram 缺少可验证的固定长度边界"
  | invalidIpv6Length => "IPv6 长度字段超出捕获边界"
  | chainNotUdp => "IPv6 扩展链不是 UDP"
  | extensionBeyondPayload => "IPv6 扩展头越过 payload 边界"
  | postFragmentChainNotUdp => "IPv6 Fragment 后扩展链不是 UDP"
  | extensionBeyondFirstFragment => "IPv6 Fragment 后扩展头越过首片边界"
  | unalignedFragment => "非末尾 IP 分片长度不是 8 字节倍数"
  | truncatedUdpHeader => "UDP 首片短于 UDP 头"
  | groupLimit => "选中或尚未归属的 UDP 分片组达到固定上限 " ++ toString maximumFragmentGroups
  | byteLimit => "选中或尚未归属的 UDP 分片正文达到固定内存上限 " ++ toString maximumBufferedFragmentBytes ++ " 字节"
  | observationLimit => "选中或尚未归属的 UDP 分片原始副本达到固定内存上限"
  | conflictingOverlap => "UDP 分片存在重叠或冲突正文"
  | conflictingFinalLength => "同一 UDP 分片组出现冲突的末片长度"
  | dispositionOnLaterFragment => "UDP 非首片携带了归属信息"
  | missingUdpHeaderOffset => "完整 UDP 分片组缺少首片传输层偏移"
  | reassembledTooShort => "重组后的 UDP 数据报短于 UDP 头"
  | reassembledLengthTooLong => "重组后的 UDP length 超出完整 IP payload"
  | incompleteOnExpiry => "选中或尚未归属的 UDP 数据报在协议重组窗口内未收齐全部 IP 分片"
  | incompleteOnFinish count => "停止时仍有 " ++ toString count ++ " 个选中或尚未归属的 UDP 数据报缺少分片"

/-! ### Inspection -/

def ensureBytes (packetEnd offset length : Nat) : Outcome UdpFragmentError Unit :=
  .raiseIf (¬offset + length ≤ packetEnd) .extensionBeyondPayload

/-- A checked part; a first fragment has to hold the whole UDP header. -/
def fragmentPart (key : UdpFragmentKey) (payloadOffset : Nat) (moreFragments : Bool)
    (fragmentPayload : Bytes) (packetBytes : Nat) (udpHeaderOffset : Option Nat)
    (packetPayloadOffset : Nat) : Outcome UdpFragmentError UdpPacketFragment := do
  .raiseIf (moreFragments ∧ ¬fragmentPayload.length % 8 = 0) .unalignedFragment
  let part (sourcePort destinationPort : Option UInt16) : UdpPacketFragment :=
    .fragment
      { key, payloadOffset, moreFragments, fragmentPayload, packetBytes, sourcePort,
        destinationPort, udpHeaderOffset, packetPayloadOffset }
  match udpHeaderOffset with
  | some udpOffset => do
      .raiseIf (fragmentPayload.length < udpOffset + 8) .truncatedUdpHeader
      let sourcePort ← u16At fragmentPayload udpOffset
      let destinationPort ← u16At fragmentPayload (udpOffset + 2)
      pure (part (some sourcePort) (some destinationPort))
  | none => pure (part none none)

def inspectIpv4Fragment (packet : Bytes) (outbound : Bool) :
    Outcome UdpFragmentError UdpPacketFragment := do
  .raiseIf (packet.length < 20) .truncatedIpv4Header
  let first ← byteAt packet 0
  let headerLength := (first &&& 0x0f).toNat * 4
  let declared ← u16At packet 2
  let totalLength := declared.toNat
  .raiseIf (headerLength < 20 ∨ totalLength < headerLength ∨ packet.length < totalLength)
    .invalidIpv4Length
  let protocol ← byteAt packet 9
  .raiseIf (protocol ≠ udpProtocol) .notUdp
  let fragment ← u16At packet 6
  let offset := (fragment &&& 0x1fff).toNat * 8
  let moreFragments := decide (fragment &&& 0x2000 ≠ 0)
  if offset = 0 ∧ !moreFragments then pure .whole
  else do
    let source ← octetsAt 4 packet 12
    let destination ← octetsAt 4 packet 16
    let identification ← u16At packet 4
    let fragmentPayload ← slice packet headerLength totalLength
    fragmentPart
      { sourceAddress := .v4 source
        destinationAddress := .v4 destination
        identification := identification.toUInt32
        outbound }
      offset moreFragments fragmentPayload packet.length (if offset = 0 then some 0 else none)
      headerLength

/-- One turn of the loop of `locatePostFragmentUdpHeader`. -/
def postFragmentStep (payload : Bytes) (position : ChainPosition) :
    Outcome UdpFragmentError (ChainPosition ⊕ Nat) :=
  if position.nextHeader = udpProtocol then pure (.inr position.offset)
  else
    match extensionKind? position.nextHeader with
    | some kind => do
        ensureBytes payload.length position.offset 2
        let next ← skipExtension kind payload position.offset
        .raiseIf (payload.length < next.offset) .extensionBeyondFirstFragment
        pure (.inl next)
    | none => .raise .postFragmentChainNotUdp

/-- The offset of the UDP header behind the chain that follows a Fragment header. -/
def locatePostFragmentUdpHeader (payload : Bytes) (nextHeader : UInt8) :
    Outcome UdpFragmentError Nat :=
  Outcome.loop (postFragmentStep payload) (payload.length + 1) { nextHeader, offset := 0 }

/-- Only a first fragment holds the UDP header. -/
def firstUdpHeaderOffset (payloadOffset : Nat) (fragmentPayload : Bytes) (nextHeader : UInt8) :
    Outcome UdpFragmentError (Option Nat) :=
  if payloadOffset = 0 then do
    let udpOffset ← locatePostFragmentUdpHeader fragmentPayload nextHeader
    pure (some udpOffset)
  else pure none

/-- What `inspectIpv6Fragment` does at a Fragment header. -/
def inspectFragmentHeader (packet : Bytes) (outbound : Bool) (packetEnd : Nat)
    (source destination : Octets 16) (offset : Nat) :
    Outcome UdpFragmentError UdpPacketFragment := do
  ensureBytes packetEnd offset 8
  let fragment ← u16At packet (offset + 2)
  let payloadOffset := (fragment &&& 0xfff8).toNat
  let fragmentPayload ← slice packet (offset + 8) packetEnd
  let nextHeader ← byteAt packet offset
  let udpHeaderOffset ← firstUdpHeaderOffset payloadOffset fragmentPayload nextHeader
  let identification ← u32At packet (offset + 4)
  fragmentPart
    { sourceAddress := .v6 source
      destinationAddress := .v6 destination
      identification
      outbound }
    payloadOffset (decide (fragment &&& 0x0001 ≠ 0)) fragmentPayload packet.length udpHeaderOffset
    (offset + 8)

/-- One turn of the loop of `inspectIpv6Fragment`. -/
def fragmentChainStep (packet : Bytes) (outbound : Bool) (packetEnd : Nat)
    (source destination : Octets 16) (position : ChainPosition) :
    Outcome UdpFragmentError (ChainPosition ⊕ UdpPacketFragment) :=
  if position.nextHeader = udpProtocol then pure (.inr .whole)
  else
    match extensionKind? position.nextHeader with
    | some kind => do
        ensureBytes packetEnd position.offset 2
        let next ← skipExtension kind packet position.offset
        .raiseIf (packetEnd < next.offset) .extensionBeyondPayload
        pure (.inl next)
    | none =>
      if position.nextHeader = fragmentHeader then do
        let fragment ←
          inspectFragmentHeader packet outbound packetEnd source destination position.offset
        pure (.inr fragment)
      else .raise .chainNotUdp

def inspectIpv6Fragment (packet : Bytes) (outbound : Bool) :
    Outcome UdpFragmentError UdpPacketFragment := do
  .raiseIf (packet.length < 40) .truncatedIpv6Header
  let payloadLength ← u16At packet 4
  .raiseIf (payloadLength = 0) .unsupportedJumbogram
  let packetEnd := 40 + payloadLength.toNat
  .raiseIf (packet.length < packetEnd) .invalidIpv6Length
  let source ← octetsAt 16 packet 8
  let destination ← octetsAt 16 packet 24
  let nextHeader ← byteAt packet 6
  Outcome.loop (fragmentChainStep packet outbound packetEnd source destination)
    (packet.length + 1) { nextHeader, offset := 40 }

/-- The fragment metadata of a packet; lengths are those that the IP header declares. -/
def inspectUdpFragment (packet : Bytes) (outbound : Bool) :
    Outcome UdpFragmentError UdpPacketFragment :=
  match packet with
  | [] => .raise .truncatedIpHeader
  | first :: _ =>
    if first >>> 4 = 4 then inspectIpv4Fragment packet outbound
    else if first >>> 4 = 6 then inspectIpv6Fragment packet outbound
    else .raise (.unsupportedIpVersion (first >>> 4))

/-- `fragmentPayloadRange`: the offset in the datagram, the offset in the packet and the
length of the fragment. -/
def fragmentPayloadRange (part : UdpFragmentPart) : Nat × Nat × Nat :=
  (part.payloadOffset, part.packetPayloadOffset, part.fragmentPayload.length)

def fragmentUdpHeaderOffset (part : UdpFragmentPart) : Option Nat := part.udpHeaderOffset

def fragmentPayloadPrefix (part : UdpFragmentPart) (prefixLength : Nat) : Option (Bytes × IpAddr) :=
  if part.payloadOffset = 0 ∧ prefixLength ≤ part.fragmentPayload.length then
    some (part.fragmentPayload.take prefixLength, part.key.sourceAddress)
  else none

/-- The five-tuple of a first fragment. -/
def firstFragmentTuple (part : UdpFragmentPart) : Option (IpAddr × UInt16 × IpAddr × UInt16) := do
  let sourcePort ← part.sourcePort
  let destinationPort ← part.destinationPort
  pure (part.key.sourceAddress, sourcePort, part.key.destinationAddress, destinationPort)

/-! ### Groups -/

structure FragmentGroup (Observation : Type) where
  pieces : OrderedTable Nat Bytes
  finalLength : Option Nat
  disposition : Option UdpFragmentDisposition
  udpHeaderOffset : Option Nat
  packetCount : Nat
  packetBytes : Nat
  expiresAt : Instant
  observations : List Observation
  observationBytes : Nat

/-- A whole datagram with the packets it came in; there is no event for an ignored one. -/
structure ReassembledUdpDatagram (Observation : Type) where
  event : Option UdpDatagramEvent
  packetCount : Nat
  packetBytes : Nat
  observations : List Observation

section

variable {Observation : Type}

/-- A group before its first fragment is stored. -/
def FragmentGroup.new (expiresAt : Instant) : FragmentGroup Observation where
  pieces := ∅
  finalLength := none
  disposition := none
  udpHeaderOffset := none
  packetCount := 0
  packetBytes := 0
  expiresAt
  observations := []
  observationBytes := 0

def UdpFragmentDisposition.isSelected : UdpFragmentDisposition → Bool
  | .selected .. => true
  | .ignored => false

def UdpFragmentDisposition.isIgnored : UdpFragmentDisposition → Bool
  | .selected .. => false
  | .ignored => true

def FragmentGroup.isSelected (group : FragmentGroup Observation) : Bool :=
  group.disposition.any UdpFragmentDisposition.isSelected

def FragmentGroup.isIgnored (group : FragmentGroup Observation) : Bool :=
  group.disposition.any UdpFragmentDisposition.isIgnored

/-- The payload bytes a group holds. -/
def FragmentGroup.pieceBytes (group : FragmentGroup Observation) : Nat :=
  group.pieces.total List.length

/-- A repeated piece is accepted, any other overlap is a conflict. -/
def validateNoConflictingOverlap (offset : Nat) (bytes : Bytes) :
    List (Nat × Bytes) → Except UdpFragmentError Unit
  | [] => .ok ()
  | (existingOffset, existing) :: rest =>
    if offset < existingOffset + existing.length ∧ existingOffset < offset + bytes.length then
      if existingOffset = offset ∧ existing = bytes then .ok ()
      else .error .conflictingOverlap
    else validateNoConflictingOverlap offset bytes rest

/-- The end of pieces that follow each other without a gap. -/
def contiguousEnd (nextOffset : Nat) : List (Nat × Bytes) → Option Nat
  | [] => some nextOffset
  | (offset, bytes) :: rest =>
    if offset ≠ nextOffset then none else contiguousEnd (nextOffset + bytes.length) rest

def isComplete (group : FragmentGroup Observation) : Bool :=
  match group.finalLength with
  | none => false
  | some finalLength =>
    group.disposition.isSome && contiguousEnd 0 group.pieces.entries == some finalLength

/-- The datagram of a complete group; an error hands the packets back. -/
def assembleGroup (group : FragmentGroup Observation) :
    Outcome (UdpFragmentError × List Observation) (ReassembledUdpDatagram Observation) := do
  let disposition ← Outcome.expect group.disposition
  match disposition with
  | .ignored =>
    pure
      { event := none
        packetCount := group.packetCount
        packetBytes := group.packetBytes
        observations := group.observations }
  | .selected target direction clientAddress capturedAtMilliseconds => do
      let udpBytes := group.pieces.values.flatten
      match group.udpHeaderOffset with
      | none => .raise (.missingUdpHeaderOffset, group.observations)
      | some udpOffset => do
          .raiseIf (udpBytes.length < udpOffset + 8) (.reassembledTooShort, group.observations)
          let udpLength ← u16At udpBytes (udpOffset + 4)
          .raiseIf (udpLength.toNat < 8 ∨ udpBytes.length < udpOffset + udpLength.toNat)
            (.reassembledLengthTooLong, group.observations)
          let payload ← slice udpBytes (udpOffset + 8) (udpOffset + udpLength.toNat)
          pure
            { event := some
                { processId := target.processId
                  clientAddress
                  targetAddress := target.address
                  direction
                  payload
                  capturedAtMilliseconds
                  modifications := [] }
              packetCount := group.packetCount
              packetBytes := group.packetBytes
              observations := group.observations }

/-! ### The assembler -/

end

structure UdpFragmentAssembler (Observation : Type) where
  groups : Table UdpFragmentKey (FragmentGroup Observation)
  faultObservations : List Observation
  bufferedBytes : Nat
  bufferedObservations : Nat
  bufferedObservationBytes : Nat
  fragmentLifetimeOverride : Option Duration

/-- What a push returns and the assembler it leaves. -/
structure Pushed (Observation : Type) where
  result : Except UdpFragmentError (Option (ReassembledUdpDatagram Observation))
  assembler : UdpFragmentAssembler Observation

namespace UdpFragmentAssembler

variable {Observation : Type}

/-- An assembler without groups. -/
def empty (fragmentLifetimeOverride : Option Duration) : UdpFragmentAssembler Observation where
  groups := ∅
  faultObservations := []
  bufferedBytes := 0
  bufferedObservations := 0
  bufferedObservationBytes := 0
  fragmentLifetimeOverride

def fragmentLifetime (assembler : UdpFragmentAssembler Observation) (key : UdpFragmentKey) :
    Duration :=
  assembler.fragmentLifetimeOverride.getD
    (if key.sourceAddress.isIpv4 then ipv4FragmentLifetime else ipv6FragmentLifetime)

/-- Take a group out and return its budgets. -/
def releaseGroup (assembler : UdpFragmentAssembler Observation) (key : UdpFragmentKey)
    (group : FragmentGroup Observation) : Outcome Empty (UdpFragmentAssembler Observation) := do
  let bufferedBytes ← Outcome.checkedSub assembler.bufferedBytes group.pieceBytes
  let bufferedObservations ←
    Outcome.checkedSub assembler.bufferedObservations group.observations.length
  let bufferedObservationBytes ←
    Outcome.checkedSub assembler.bufferedObservationBytes group.observationBytes
  pure
    { assembler with
      groups := assembler.groups.erase key
      bufferedBytes
      bufferedObservations
      bufferedObservationBytes }

def removeGroup (assembler : UdpFragmentAssembler Observation) (key : UdpFragmentKey) :
    Outcome Empty (UdpFragmentAssembler Observation) :=
  match assembler.groups.get? key with
  | none => pure assembler
  | some group => assembler.releaseGroup key group

def expiredKeys (assembler : UdpFragmentAssembler Observation) (now : Instant) :
    List UdpFragmentKey :=
  (assembler.groups.toList.filter fun entry => decide (entry.2.expiresAt ≤ now)).map Prod.fst

/-- Only expired groups that are ignored go silently. -/
def pruneExpired (assembler : UdpFragmentAssembler Observation) (now : Instant) :
    Outcome Empty (Except UdpFragmentError Unit × UdpFragmentAssembler Observation) :=
  if assembler.groups.values.any fun group => decide (group.expiresAt ≤ now) && !group.isIgnored then
    pure (.error .incompleteOnExpiry, assembler)
  else do
    let assembler ← (assembler.expiredKeys now).foldlM removeGroup assembler
    pure (.ok (), assembler)

/-- The ignored group that expires first gives way; the result tells whether there was one. -/
def evictIgnoredGroup (assembler : UdpFragmentAssembler Observation)
    (excludedKey : Option UdpFragmentKey) :
    Outcome Empty (Bool × UdpFragmentAssembler Observation) :=
  let candidates := assembler.groups.toList.filter fun entry =>
    decide (some entry.1 ≠ excludedKey) && entry.2.isIgnored
  match candidates.argmin fun entry => entry.2.expiresAt with
  | none => pure (false, assembler)
  | some entry => do
      let assembler ← assembler.removeGroup entry.1
      pure (true, assembler)

/-- Make room for the group of a part. -/
def reserveGroup (assembler : UdpFragmentAssembler Observation) (key : UdpFragmentKey) :
    Outcome Empty (Bool × UdpFragmentAssembler Observation) :=
  if !assembler.groups.contains key ∧ maximumFragmentGroups ≤ assembler.groups.size then
    assembler.evictIgnoredGroup none
  else pure (true, assembler)

/-- Evict ignored groups other than one until a budget is met; the result tells
whether it could be. -/
def reserveWhile (exceeded : UdpFragmentAssembler Observation → Bool) (key : UdpFragmentKey)
    (assembler : UdpFragmentAssembler Observation) :
    Outcome Empty (Bool × UdpFragmentAssembler Observation) :=
  Outcome.loop
    (fun assembler =>
      if exceeded assembler then do
        match ← evictIgnoredGroup assembler (some key) with
        | (true, assembler) => pure (.inl assembler)
        | (false, assembler) => pure (.inr (false, assembler))
      else pure (.inr (true, assembler)))
    (assembler.groups.size + 1) assembler

def exceedsBytes (newBytes : Nat) (assembler : UdpFragmentAssembler Observation) : Bool :=
  decide (maximumBufferedFragmentBytes < assembler.bufferedBytes + newBytes)

def exceedsObservations (observationBytes : Nat) (assembler : UdpFragmentAssembler Observation) :
    Bool :=
  decide (maximumBufferedFragmentObservations ≤ assembler.bufferedObservations) ||
    decide (maximumBufferedObservationBytes < assembler.bufferedObservationBytes + observationBytes)

/-- The bytes a part adds; a repeated piece adds none. -/
def newBytes (assembler : UdpFragmentAssembler Observation) (part : UdpFragmentPart) : Nat :=
  if ((assembler.groups.get? part.key).bind fun group => group.pieces.get? part.payloadOffset) =
      some part.fragmentPayload then 0
  else part.fragmentPayload.length

/-- The conflict between a part and its group, if there is one. -/
def conflict (assembler : UdpFragmentAssembler Observation) (part : UdpFragmentPart) :
    Except UdpFragmentError Unit :=
  match assembler.groups.get? part.key with
  | none => .ok ()
  | some group => do
      validateNoConflictingOverlap part.payloadOffset part.fragmentPayload group.pieces.entries
      if !part.moreFragments ∧
          group.finalLength.any fun length =>
            decide (length ≠ part.payloadOffset + part.fragmentPayload.length) then
        throw .conflictingFinalLength

/-- A group after a part and its packet are stored in it. -/
def storePart (group : FragmentGroup Observation) (part : UdpFragmentPart)
    (disposition : Option UdpFragmentDisposition) (observation : Observation)
    (observationBytes newBytes : Nat) : FragmentGroup Observation where
  pieces :=
    if newBytes ≠ 0 then group.pieces.insert part.payloadOffset part.fragmentPayload
    else group.pieces
  finalLength :=
    if !part.moreFragments then some (part.payloadOffset + part.fragmentPayload.length)
    else group.finalLength
  disposition := disposition.or group.disposition
  udpHeaderOffset := if disposition.isSome then part.udpHeaderOffset else group.udpHeaderOffset
  packetCount := group.packetCount + 1
  packetBytes := group.packetBytes + part.packetBytes
  expiresAt := group.expiresAt
  observations := group.observations ++ [observation]
  observationBytes := group.observationBytes + observationBytes

/-- The assembler after a part was stored in a group. -/
def withStored (assembler : UdpFragmentAssembler Observation) (key : UdpFragmentKey)
    (group : FragmentGroup Observation) (observationBytes newBytes : Nat) :
    UdpFragmentAssembler Observation :=
  { assembler with
    groups := assembler.groups.insert key group
    bufferedBytes := assembler.bufferedBytes + newBytes
    bufferedObservations := assembler.bufferedObservations + 1
    bufferedObservationBytes := assembler.bufferedObservationBytes + observationBytes }

/-- The group of a part; the first part of a group starts its lifetime. -/
def groupFor (assembler : UdpFragmentAssembler Observation) (key : UdpFragmentKey)
    (now : Instant) : FragmentGroup Observation :=
  (assembler.groups.get? key).getD (.new (now + assembler.fragmentLifetime key))

/-- The end of a push: the part is stored, and a complete group leaves as a datagram. -/
def storeObservation (assembler : UdpFragmentAssembler Observation) (part : UdpFragmentPart)
    (disposition : Option UdpFragmentDisposition) (observation : Observation)
    (observationBytes newBytes : Nat) (now : Instant) : Outcome Empty (Pushed Observation) := do
  let group := assembler.groupFor part.key now
  if disposition.isSome ∧ part.payloadOffset ≠ 0 then
    pure
      { result := .error .dispositionOnLaterFragment
        assembler := { assembler with groups := assembler.groups.insert part.key group } }
  else
    let group := storePart group part disposition observation observationBytes newBytes
    let assembler := assembler.withStored part.key group observationBytes newBytes
    if !isComplete group then pure { result := .ok none, assembler }
    else do
      let assembler ← assembler.releaseGroup part.key group
      match assembleGroup group with
      | .ok reassembled => pure { result := .ok (some reassembled), assembler }
      | .error (.raised (error, observations)) =>
        pure
          { result := .error error
            assembler :=
              { assembler with
                faultObservations := assembler.faultObservations ++ observations } }
      | .error .outOfBounds => .error .outOfBounds
      | .error .underflow => .error .underflow
      | .error .absent => .error .absent
      | .error .diverged => .error .diverged

/-- A refusal is silent for parts that are known to be ignored. -/
def refuse (ignored : Bool) (error : UdpFragmentError)
    (assembler : UdpFragmentAssembler Observation) : Pushed Observation where
  result := if ignored then .ok none else .error error
  assembler

/-- Store one fragment with the packet it came in, and return the datagram it completes. -/
def pushWithObservation (assembler : UdpFragmentAssembler Observation) (part : UdpFragmentPart)
    (disposition : Option UdpFragmentDisposition) (observation : Observation)
    (observationBytes : Nat) (now : Instant) : Outcome Empty (Pushed Observation) := do
  let (pruned, assembler) ← assembler.pruneExpired now
  match pruned with
  | .error error => pure { result := .error error, assembler }
  | .ok () =>
    let known := assembler.groups.get? part.key
    let selected := known.any FragmentGroup.isSelected ||
      disposition.any UdpFragmentDisposition.isSelected
    let ignored := known.any FragmentGroup.isIgnored ||
      disposition.any UdpFragmentDisposition.isIgnored
    let (granted, assembler) ← assembler.reserveGroup part.key
    if !granted then pure (refuse ignored .groupLimit assembler)
    else do
      let newBytes := assembler.newBytes part
      let (granted, assembler) ← reserveWhile (exceedsBytes newBytes) part.key assembler
      if !granted then pure (refuse ignored .byteLimit assembler)
      else do
        let (granted, assembler) ←
          reserveWhile (exceedsObservations observationBytes) part.key assembler
        if !granted then pure (refuse ignored .observationLimit assembler)
        else
          match assembler.conflict part with
          | .error error =>
            if selected then pure { result := .error error, assembler }
            else do
              let assembler ← assembler.removeGroup part.key
              pure { result := .ok none, assembler }
          | .ok () =>
            assembler.storeObservation part disposition observation observationBytes newBytes
              now

/-- The check before the resolver stops. -/
def finish (assembler : UdpFragmentAssembler Observation) : Except UdpFragmentError Unit :=
  let incompleteRequired := (assembler.groups.values.filter fun group => !group.isIgnored).length
  if incompleteRequired = 0 then .ok () else .error (.incompleteOnFinish incompleteRequired)

def pollExpired (assembler : UdpFragmentAssembler Observation) (now : Instant) :
    Outcome Empty (Except UdpFragmentError Unit × UdpFragmentAssembler Observation) :=
  assembler.pruneExpired now

/-- Export every packet that was consumed but not answered yet. -/
def drainPendingObservations (assembler : UdpFragmentAssembler Observation) :
    List Observation × UdpFragmentAssembler Observation :=
  (assembler.faultObservations ++ assembler.groups.values.flatMap FragmentGroup.observations,
    { assembler with
      faultObservations := []
      groups := assembler.groups.mapValues fun group => { group with observations := [] } })

end UdpFragmentAssembler

end SprakCapture.ProcessCapture
