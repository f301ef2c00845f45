import Mathlib.Data.List.Destutter
import SprakCapture.ProcessCapture.PacketRewrite
import SprakCapture.ProcessCapture.UdpFragment

/-!
# Decisions about UDP packets

The data plane decides about each UDP datagram of a selected process, and its decision
is written back to the packets that the datagram came in. A shorter payload keeps the
boundaries of the original fragments, and fragments behind its end are not sent. The
driver is a parameter: it sends packets and recalculates their checksums, and both may
fail. Next to the result of a decision the model notes what became of each packet.
-/

namespace SprakCapture.ProcessCapture

open Data

/-- An intercepted packet; the numbers follow the order of interception. -/
structure PendingUdpObservation where
  captureSequence : UInt64
  packet : Bytes
  outbound : Bool
  interfaceIndex : UInt32
  capturedAtMilliseconds : UInt64
deriving DecidableEq

/-- The decision of the data plane about one datagram. -/
inductive UdpDatagramDecision where
  | forward (payload : Bytes) (modifications : List UdpDatagramModification)
  | drop
  | close
deriving DecidableEq

/-- Why an observation ended the normal path; `restore` hands back packets to send unchanged. -/
inductive UdpObservationError where
  | packet (detail : String)
  | owner (detail : String)
  | processing (detail : String)
  | restore (detail : String) (packets : List PendingUdpObservation)
  | send (detail : String)
  | recording (detail : String)
deriving DecidableEq

/-- The driver. Checksums are recalculated with or without the one of UDP. -/
structure Divert where
  send : PendingUdpObservation → Except String Unit
  recalculateChecksums : (noUdp : Bool) → Bytes → Except String Bytes

/-- What became of a packet: it was sent, possibly rewritten, or a decision dropped it. -/
inductive Terminal where
  | reinjected (observation : PendingUdpObservation)
  | dropped (observation : PendingUdpObservation)
deriving DecidableEq

/-- The packet that was sent, if one was. -/
def Terminal.sent? : Terminal → Option PendingUdpObservation
  | .reinjected observation => some observation
  | .dropped _ => none

/-- The result of a computation and what became of packets on the way. -/
structure Settled (Value : Type) where
  result : Outcome UdpObservationError Value
  terminals : List Terminal

/-- The packets that were sent. -/
def Settled.sent {Value : Type} (settled : Settled Value) : List PendingUdpObservation :=
  settled.terminals.filterMap Terminal.sent?

/-! ### Writing lengths -/

/-- Write the length into a UDP header. -/
def writeUdpLength (packet : Bytes) (udpOffset payloadLength : Nat) : Outcome String Bytes :=
  if payloadLength + 8 < 65536 then
    overwrite packet (udpOffset + 4) (u16ToBe (UInt16.ofNat (payloadLength + 8)))
  else .raise "UDP 修改正文超过 65527 字节"

/-- Write the length of a packet into its IP header. -/
def writeIpPacketLength (packet : Bytes) : Outcome UdpObservationError Bytes := do
  let first ← byteAt packet 0
  if first >>> 4 = 4 then do
    .raiseIf (65536 ≤ packet.length) (.processing "IPv4 修改包超过 65535 字节")
    overwrite packet 2 (u16ToBe (UInt16.ofNat packet.length))
  else if first >>> 4 = 6 then do
    .raiseIf (65536 ≤ packet.length - 40) (.processing "IPv6 修改包超过标准 payload 长度")
    overwrite packet 4 (u16ToBe (UInt16.ofNat (packet.length - 40)))
  else .raise (.packet ("UDP 修改阶段遇到不支持的 IP 版本 " ++ toString (first >>> 4)))

/-- Set or clear one bit of a 16-bit field. -/
def writeFlag (flag : UInt16) (set : Bool) (field : UInt16) : UInt16 :=
  if set then field ||| flag else field &&& ~~~flag

/-- Write the length and the flag for more fragments; the offset of the fragment stays. -/
def writeFragmentPacketLength (packet : Bytes) (fragmentPayloadOffset : Nat)
    (moreFragments : Bool) : Outcome UdpObservationError Bytes := do
  let packet ← writeIpPacketLength packet
  let first ← byteAt packet 0
  if first >>> 4 = 4 then do
    let fragmentField ← u16At packet 6
    overwrite packet 6 (u16ToBe (writeFlag 0x2000 moreFragments fragmentField))
  else if first >>> 4 = 6 then do
    .raiseIf (fragmentPayloadOffset < 8) (.packet "IPv6 分片缺少 Fragment Header")
    let fragmentHeaderOffset := fragmentPayloadOffset - 8
    let fragmentField ← u16At packet (fragmentHeaderOffset + 2)
    overwrite packet (fragmentHeaderOffset + 2)
      (u16ToBe (writeFlag 0x0001 moreFragments fragmentField))
  else .error .absent

/-! ### Checksums -/

/-- Add bytes in pairs; an odd byte is the high half of its pair. -/
def addChecksumBytes (sum : Nat) : Bytes → Nat
  | [] => sum
  | [high] => sum + (u16FromBe high 0).toNat
  | high :: low :: rest => addChecksumBytes (sum + (u16FromBe high low).toNat) rest

/-- Fold the carries back until the sum has sixteen bits. -/
def foldCarries {Error : Type} (sum : Nat) : Outcome Error Nat :=
  Outcome.loop
    (fun sum =>
      if 0xffff < sum then pure (.inl (sum % 0x10000 + sum / 0x10000)) else pure (.inr sum))
    (sum + 1) sum

/-- The sum of the pseudo header; the two addresses have one family. -/
def pseudoHeaderSum {Error : Type} (sourceAddress destinationAddress : IpAddr)
    (udpLength : UInt16) : Outcome Error Nat :=
  match sourceAddress, destinationAddress with
  | .v4 source, .v4 destination =>
    pure (addChecksumBytes (addChecksumBytes 0 source.bytes) destination.bytes +
      udpProtocol.toNat + udpLength.toNat)
  | .v6 source, .v6 destination =>
    pure (addChecksumBytes (addChecksumBytes 0 source.bytes) destination.bytes +
      udpLength.toNat + udpProtocol.toNat)
  | _, _ => .error .absent

/-- The checksum of a UDP datagram; zero is written as all ones. -/
def udpChecksum {Error : Type} (sourceAddress : IpAddr) (sourcePort : UInt16)
    (destinationAddress : IpAddr) (destinationPort : UInt16) (payload : Bytes) :
    Outcome Error UInt16 := do
  let udpLength ← Outcome.expect
    (if payload.length + 8 < 65536 then some (UInt16.ofNat (payload.length + 8)) else none)
  let pseudoHeader ← pseudoHeaderSum sourceAddress destinationAddress udpLength
  let ports := addChecksumBytes (addChecksumBytes pseudoHeader (u16ToBe sourcePort))
    (u16ToBe destinationPort)
  let header := addChecksumBytes (addChecksumBytes ports (u16ToBe udpLength)) [0, 0]
  let sum ← foldCarries (addChecksumBytes header payload)
  let checksum := ~~~(UInt16.ofNat sum)
  pure (if checksum = 0 then 0xffff else checksum)

/-! ### Rewriting a fragment group -/

/-- The addresses, the ports and the place of the UDP header of a fragment group. -/
structure FragmentTransport where
  sourceAddress : IpAddr
  sourcePort : UInt16
  destinationAddress : IpAddr
  destinationPort : UInt16
  udpHeaderOffset : Nat
deriving DecidableEq

/-- The inspection of an observation that has to be a fragment. -/
def inspectFragmentOf (observation : PendingUdpObservation) (notFragment : String) :
    Outcome UdpObservationError UdpFragmentPart := do
  let fragment ← (inspectUdpFragment observation.packet observation.outbound).mapError
    fun error => .packet error.text
  match fragment with
  | .whole => .raise (.packet notFragment)
  | .fragment part => pure part

/-- The transport fields of a group, from its first fragment. -/
def fragmentTransportMetadata :
    List PendingUdpObservation → Outcome UdpObservationError FragmentTransport
  | [] => .raise (.packet "完整 UDP 分片组缺少首片")
  | observation :: rest => do
      let part ← inspectFragmentOf observation "分片组混入了完整 UDP 数据报"
      match firstFragmentTuple part with
      | none => fragmentTransportMetadata rest
      | some (sourceAddress, sourcePort, destinationAddress, destinationPort) =>
        match fragmentUdpHeaderOffset part with
        | none => .raise (.packet "UDP 首片缺少传输层头偏移")
        | some udpHeaderOffset =>
          pure { sourceAddress, sourcePort, destinationAddress, destinationPort, udpHeaderOffset }

/-- The part of an observation that starts its datagram. -/
def firstPart? (observation : PendingUdpObservation) : Option UdpFragmentPart :=
  match inspectUdpFragment observation.packet observation.outbound with
  | .ok (.fragment part) => if (fragmentPayloadRange part).1 = 0 then some part else none
  | _ => none

/-- The fragmentable part with a new payload. A missing IPv4 checksum stays missing. -/
def buildFragmentableUdpBytes (packets : List PendingUdpObservation) (udpHeaderOffset : Nat)
    (payload : Bytes) (checksum : UInt16) : Outcome String Bytes :=
  match packets.findSome? firstPart? with
  | none => .raise "完整 UDP 分片组缺少零偏移首片"
  | some part =>
    match fragmentPayloadPrefix part (udpHeaderOffset + 8) with
    | none => .raise "UDP 首片未完整包含传输层头"
    | some (headerBytes, sourceAddress) => do
        let fragmentable ← writeUdpLength headerBytes udpHeaderOffset payload.length
        let originalChecksum ← u16At fragmentable (udpHeaderOffset + 6)
        let wireChecksum := if sourceAddress.isIpv4 ∧ originalChecksum = 0 then 0 else checksum
        let fragmentable ← overwrite fragmentable (udpHeaderOffset + 6) (u16ToBe wireChecksum)
        pure (fragmentable ++ payload)

/-- A call of the driver whose failure is an error of processing. -/
def recalculated (divert : Divert) (noUdp : Bool) (packet : Bytes) :
    Outcome UdpObservationError Bytes :=
  match divert.recalculateChecksums noUdp packet with
  | .ok packet => .ok packet
  | .error detail => .raise (.processing detail)

/-- A fragment with its range of the new bytes, unless it lies behind their end. -/
def rewriteFragmentPayload (divert : Divert) (fragmentableBytes : Bytes)
    (observation : PendingUdpObservation) :
    Outcome UdpObservationError (Option PendingUdpObservation) := do
  let part ← inspectFragmentOf observation "分片修改阶段混入完整 UDP 数据报"
  let (globalOffset, packetOffset, fragmentLength) := fragmentPayloadRange part
  if fragmentableBytes.length ≤ globalOffset then pure none
  else do
    let retainedLength := min fragmentLength (fragmentableBytes.length - globalOffset)
    let head ← slice observation.packet 0 packetOffset
    let body ← slice fragmentableBytes globalOffset (globalOffset + retainedLength)
    let rewritten ← writeFragmentPacketLength (head ++ body) packetOffset
      (decide (globalOffset + retainedLength < fragmentableBytes.length))
    let packet ← recalculated divert true rewritten
    pure (some { observation with packet })

/-- Errors of packets and of processing hand back the whole group. -/
def UdpObservationError.restoring (originalPackets : List PendingUdpObservation) :
    UdpObservationError → UdpObservationError
  | .packet detail => .restore detail originalPackets
  | .processing detail => .restore detail originalPackets
  | other => other

/-- Every packet of a group with its rewritten form, if it has one. -/
def rewriteFragments (divert : Divert) (packets : List PendingUdpObservation) (payload : Bytes) :
    Outcome UdpObservationError
      (List (PendingUdpObservation × Option PendingUdpObservation)) := do
  let transport ← (fragmentTransportMetadata packets).mapError (.restoring packets)
  let checksum ← udpChecksum transport.sourceAddress transport.sourcePort
    transport.destinationAddress transport.destinationPort payload
  let fragmentableBytes ←
    (buildFragmentableUdpBytes packets transport.udpHeaderOffset payload checksum).mapError
      fun detail => .restore detail packets
  packets.mapM fun original => do
    let rewritten ← (rewriteFragmentPayload divert fragmentableBytes original).mapError
      (.restoring packets)
    pure (original, rewritten)

/-- Send rewritten packets until one fails; the originals from there on go back. -/
def sendRewritten (divert : Divert) :
    List (PendingUdpObservation × PendingUdpObservation) → Settled Unit
  | [] => ⟨pure (), []⟩
  | (original, rewritten) :: rest =>
    match divert.send rewritten with
    | .error detail => ⟨.raise (.restore detail (original :: rest.map Prod.fst)), []⟩
    | .ok () =>
      let settled := sendRewritten divert rest
      ⟨settled.result, .reinjected rewritten :: settled.terminals⟩

/-- The packets that have a rewritten form. -/
def keptPackets (rewritten : List (PendingUdpObservation × Option PendingUdpObservation)) :
    List (PendingUdpObservation × PendingUdpObservation) :=
  rewritten.filterMap fun entry => entry.2.map fun packet => (entry.1, packet)

/-- The packets behind the end of the new payload. -/
def tailPackets (rewritten : List (PendingUdpObservation × Option PendingUdpObservation)) :
    List PendingUdpObservation :=
  (rewritten.filter fun entry => entry.2.isNone).map Prod.fst

def captureOrder (first second : PendingUdpObservation) : Prop :=
  first.captureSequence ≤ second.captureSequence

instance : DecidableRel captureOrder := fun first second =>
  inferInstanceAs (Decidable (first.captureSequence ≤ second.captureSequence))

def expansionText (kind : String) (original output : Nat) : String :=
  "WinDivert UDP " ++ kind ++ "修改不能扩展已捕获数据报：原始 " ++ toString original ++
    " 字节，输出 " ++ toString output ++ " 字节"

/-- Write the decision about a reassembled datagram back to its packets. -/
def applyFragmentDecision (divert : Divert) (observations : List PendingUdpObservation)
    (event : UdpDatagramEvent) : UdpDatagramDecision → Settled (Option UdpDatagramEvent)
  | .forward payload modifications =>
    if event.payload.length < payload.length then
      ⟨.raise (.processing (expansionText "分片" event.payload.length payload.length)), []⟩
    else
      match rewriteFragments divert (observations.insertionSort captureOrder) payload with
      | .error fault => ⟨.error fault, []⟩
      | .ok rewritten =>
        let settled := sendRewritten divert (keptPackets rewritten)
        ⟨settled.result >>= fun _ => pure (some { event with payload, modifications }),
          settled.terminals ++ (tailPackets rewritten).map .dropped⟩
  | .drop => ⟨pure none, observations.map .dropped⟩
  | .close => ⟨pure none, observations.map .dropped⟩

/-! ### Whole datagrams -/

/-- A whole packet with a new payload; bytes behind the payload stay. -/
def replaceWholeUdpPayload (original : Bytes) (parsed : ObservedUdpPacket) (payload : Bytes) :
    Outcome UdpObservationError Bytes := do
  let udpOffset ← Outcome.checkedSub parsed.payloadOffset 8
  let removedBytes ← Outcome.checkedSub parsed.payloadEnd parsed.payloadOffset
  let _ ← Outcome.checkedSub original.length removedBytes
  let head ← slice original 0 parsed.payloadOffset
  let tail ← slice original parsed.payloadEnd original.length
  let rewritten ← (writeUdpLength (head ++ payload ++ tail) udpOffset payload.length).mapError
    .processing
  writeIpPacketLength rewritten

/-- The packet that a whole datagram is forwarded in. -/
def rewriteWhole (divert : Divert) (observation : PendingUdpObservation) (payload : Bytes) :
    Outcome UdpObservationError PendingUdpObservation := do
  let parsed ← (parseUdpPacket observation.packet).mapError fun error => .packet error.text
  match parsed with
  | none => .raise (.packet "完整 UDP 数据报被识别为分片")
  | some parsed => do
      let packet ← replaceWholeUdpPayload observation.packet parsed payload
      let packet ← recalculated divert false packet
      pure { observation with packet }

/-- Write the decision about a whole datagram back to its packet. -/
def applyWholePacketDecision (divert : Divert) (observation : PendingUdpObservation)
    (event : UdpDatagramEvent) : UdpDatagramDecision → Settled (Option UdpDatagramEvent)
  | .forward payload modifications =>
    if event.payload.length < payload.length then
      ⟨.raise (.processing (expansionText "封包" event.payload.length payload.length)), []⟩
    else
      match rewriteWhole divert observation payload with
      | .error fault => ⟨.error fault, []⟩
      | .ok rewritten =>
        match divert.send rewritten with
        | .error detail => ⟨.raise (.send detail), []⟩
        | .ok () => ⟨pure (some { event with payload, modifications }), [.reinjected rewritten]⟩
  | .drop => ⟨pure none, [.dropped observation]⟩
  | .close => ⟨pure none, [.dropped observation]⟩

end SprakCapture.ProcessCapture
