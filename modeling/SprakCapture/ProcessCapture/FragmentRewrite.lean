import SprakCapture.ProcessCapture.FragmentReassembly
import SprakCapture.ProcessCapture.UdpObservation

/-!
# Rewritten fragments

A decision that shortens a datagram is written back to the fragments it came in. Each
fragment keeps its headers but for its lengths, its flag and its checksum, and holds the
bytes of the new datagram at its place, so the packets that are sent are the fragments
of the new datagram, cut where the old one was cut.
-/

namespace SprakCapture.ProcessCapture

open Data List Data.Outcome Outcome FragmentHead FragmentPacket UdpDatagram

/-! ### Flags -/

theorem or_and_distrib (first second mask : UInt16) :
    (first ||| second) &&& mask = (first &&& mask) ||| (second &&& mask) := by
  apply UInt16.toBitVec_inj.mp
  ext index
  simp [Bool.and_or_distrib_right]

theorem and_or_distrib (field first second : UInt16) :
    field &&& (first ||| second) = (field &&& first) ||| (field &&& second) := by
  rw [UInt16.and_comm, or_and_distrib, UInt16.and_comm first, UInt16.and_comm second]

theorem writeFlag_and_mask {flag mask : UInt16} (set : Bool) (field : UInt16)
    (apart : flag &&& mask = 0) (kept : ~~~flag &&& mask = mask) :
    writeFlag flag set field &&& mask = field &&& mask := by
  unfold writeFlag
  split
  · rw [or_and_distrib, apart, UInt16.or_zero]
  · rw [UInt16.and_assoc, kept]

theorem writeFlag_and_flag (flag : UInt16) (set : Bool) (field : UInt16) :
    writeFlag flag set field &&& flag = if set then flag else 0 := by
  unfold writeFlag
  split
  · apply UInt16.toBitVec_inj.mp
    ext index
    simp [Bool.and_or_distrib_right]
  · rw [UInt16.and_assoc, UInt16.not_and_self, UInt16.and_zero]

/-! ### Headers -/

namespace FragmentHead

/-- The headers with the flag for more fragments set or cleared. -/
def withMore (more : Bool) : FragmentHead → FragmentHead
  | .v4 header => .v4 { header with fragment := writeFlag 0x2000 more header.fragment }
  | .v6 header before fragment =>
    .v6 header before { fragment with fragment := writeFlag 0x0001 more fragment.fragment }

/-- The headers with another checksum; there is none in IPv6. -/
def withChecksum (checksum : UInt16) : FragmentHead → FragmentHead
  | .v4 header => .v4 { header with checksum }
  | .v6 header before fragment => .v6 header before fragment

variable (head : FragmentHead) (more : Bool) (checksum : UInt16)

@[simp] theorem counted_withMore : (head.withMore more).counted = head.counted := by
  cases head <;> rfl

@[simp] theorem key_withMore (outbound : Bool) :
    (head.withMore more).key outbound = head.key outbound := by
  cases head <;> rfl

@[simp] theorem nextHeader_withMore : (head.withMore more).nextHeader = head.nextHeader := by
  cases head <;> rfl

@[simp] theorem offset_withMore : (head.withMore more).offset = head.offset := by
  cases head with
  | v4 header =>
    simp only [withMore, offset]
    rw [writeFlag_and_mask more header.fragment (by decide) (by decide)]
  | v6 header _ fragment =>
    simp only [withMore, offset]
    rw [writeFlag_and_mask more fragment.fragment (by decide) (by decide)]

@[simp] theorem moreFragments_withMore : (head.withMore more).moreFragments = more := by
  cases head with
  | v4 header | v6 header =>
    simp only [withMore, moreFragments, writeFlag_and_flag]
    cases more <;> decide

@[simp] theorem counted_withChecksum : (head.withChecksum checksum).counted = head.counted := by
  cases head <;> rfl

@[simp] theorem key_withChecksum (outbound : Bool) :
    (head.withChecksum checksum).key outbound = head.key outbound := by
  cases head <;> rfl

@[simp] theorem nextHeader_withChecksum :
    (head.withChecksum checksum).nextHeader = head.nextHeader := by
  cases head <;> rfl

@[simp] theorem offset_withChecksum : (head.withChecksum checksum).offset = head.offset := by
  cases head <;> rfl

@[simp] theorem moreFragments_withChecksum :
    (head.withChecksum checksum).moreFragments = head.moreFragments := by
  cases head <;> rfl

end FragmentHead

/-! ### Writing headers -/

theorem Ipv4Header.writeIpPacketLength_encode (header : Ipv4Header) (oldLength : Nat) (body : Bytes)
    (fits : header.length + body.length < 65536) :
    writeIpPacketLength (header.encode oldLength ++ body) =
      .ok (header.encode body.length ++ body) := by
  have reads := header.reads oldLength body
  have version := (ipv4FirstOctet header.optionWords).1
  have length : (header.encode oldLength ++ body).length = header.length + body.length := by
    simp
  have split : ∀ bodyLength, header.encode bodyLength ++ body =
      [UInt8.ofNat (69 + header.optionWords), header.typeOfService] ++
        (u16ToBe (UInt16.ofNat (header.length + bodyLength)) ++
          ((header.encode bodyLength).drop 4 ++ body)) := fun _ => rfl
  unfold writeIpPacketLength
  rw [byteAt_eq_ok.mpr reads.first, ok_bind, if_pos version, length,
    raiseIf_of_not _ (by omega), ok_bind, split]
  exact overwrite_append rfl rfl

theorem Ipv6Header.writeIpPacketLength_encode (header : Ipv6Header) (nextHeader : UInt8)
    (oldLength : Nat) (body : Bytes) (fits : body.length < 65536) :
    writeIpPacketLength (header.encode nextHeader oldLength ++ body) =
      .ok (header.encode nextHeader body.length ++ body) := by
  have reads := header.reads nextHeader oldLength body
  have version := ipv6FirstOctet header.trafficClass
  have length : (header.encode nextHeader oldLength ++ body).length - 40 = body.length := by
    simp
  have split : ∀ payloadLength, header.encode nextHeader payloadLength ++ body =
      [UInt8.ofNat (96 + header.trafficClass), header.flow.1, header.flow.2.1, header.flow.2.2] ++
        (u16ToBe (UInt16.ofNat payloadLength) ++
          ((header.encode nextHeader payloadLength).drop 6 ++ body)) := fun _ => rfl
  unfold writeIpPacketLength
  rw [byteAt_eq_ok.mpr reads.first, ok_bind, version, if_neg (by decide), if_pos rfl,
    length, raiseIf_of_not _ (by omega), ok_bind, split]
  exact overwrite_append rfl rfl

/-- The length and the flag of a fragment are written into its headers. -/
theorem FragmentHead.writeFragmentPacketLength_encode (head : FragmentHead) (oldLength : Nat)
    (body : Bytes) (more : Bool) (fits : head.counted + body.length < 65536) :
    writeFragmentPacketLength (head.encode oldLength ++ body) head.length more =
      .ok ((head.withMore more).encode body.length ++ body) := by
  unfold writeFragmentPacketLength
  cases head with
  | v4 header =>
    have reads := header.reads body.length body
    have version := (ipv4FirstOctet header.optionWords).1
    have split : ∀ written : Ipv4Header, written.encode body.length ++ body =
        (written.encode body.length).take 6 ++ (u16ToBe written.fragment ++
          ((written.encode body.length).drop 8 ++ body)) := fun _ => rfl
    rw [encode, header.writeIpPacketLength_encode oldLength body fits,
      ok_bind, byteAt_eq_ok.mpr reads.first, ok_bind, if_pos version,
      reads.fragment, ok_bind, split]
    exact overwrite_append rfl rfl
  | v6 header before fragment =>
    have version := ipv6FirstOctet header.trafficClass
    have bodyLength : (encodeChain before fragmentHeader ++ (fragment.encode ++ body)).length =
        (v6 header before fragment).counted + body.length := by
      simp [counted, Nat.add_assoc]
    have written := header.writeIpPacketLength_encode (firstHeader before fragmentHeader)
      ((v6 header before fragment).counted + oldLength)
      (encodeChain before fragmentHeader ++ (fragment.encode ++ body)) (bodyLength ▸ fits)
    rw [bodyLength] at written
    have reads := header.reads (firstHeader before fragmentHeader)
      ((v6 header before fragment).counted + body.length)
      (encodeChain before fragmentHeader ++ (fragment.encode ++ body))
    -- The packet in front of the field that holds the flag.
    have split : header.encode (firstHeader before fragmentHeader)
          ((v6 header before fragment).counted + body.length) ++
        (encodeChain before fragmentHeader ++ (fragment.encode ++ body)) =
        (header.encode (firstHeader before fragmentHeader)
            ((v6 header before fragment).counted + body.length) ++
          encodeChain before fragmentHeader ++ [fragment.nextHeader, fragment.reserved]) ++
          (u16ToBe fragment.fragment ++ (u32ToBe fragment.identification ++ body)) := by
      simp [Ipv6FragmentHeader.encode]
    have place : (header.encode (firstHeader before fragmentHeader)
            ((v6 header before fragment).counted + body.length) ++
          encodeChain before fragmentHeader ++ [fragment.nextHeader, fragment.reserved]).length =
        (v6 header before fragment).length - 8 + 2 := by
      grind [length, Ipv6Header.length_encode]
    rw [encode, append_assoc, append_assoc, written, ok_bind,
      byteAt_eq_ok.mpr reads.first, ok_bind, version, raiseIf_of_not _ (by simp [length]), ok_bind]
    dsimp only
    rw [split, u16At_append _ place]
    refine (overwrite_append place (by rfl)).trans ?_
    simp [withMore, encode, counted, Ipv6FragmentHeader.encode]

/-! ### Packets -/

/-- Recalculating checksums without the one of UDP changes the header checksum of IPv4
fragments, and nothing in IPv6 fragments. -/
def Divert.Recalculates (divert : Divert) : Prop :=
  ∀ packet : FragmentPacket, packet.Fits → packet.padding = [] → ∃ checksum,
    divert.recalculateChecksums true packet.encode =
      .ok (FragmentPacket.mk (packet.head.withChecksum checksum) packet.body []).encode

namespace FragmentPacket

/-- A fragment with the bytes of another datagram at its place. -/
def rewritten (packet : FragmentPacket) (bytes : Bytes) (checksum : UInt16) : FragmentPacket where
  head := (packet.head.withMore (packet.cut.recut bytes).more).withChecksum checksum
  body := (packet.cut.recut bytes).content
  padding := []

@[simp] theorem cut_rewritten (packet : FragmentPacket) (bytes : Bytes) (checksum : UInt16) :
    (packet.rewritten bytes checksum).cut = packet.cut.recut bytes := by
  simp [rewritten, cut, Cut.recut]

theorem fits_rewritten {packet : FragmentPacket} (fits : packet.Fits) (bytes : Bytes)
    (checksum : UInt16) : (packet.rewritten bytes checksum).Fits := by
  have shorter : (packet.cut.recut bytes).content.length ≤ packet.body.length :=
    length_take_le _ _
  unfold Fits at fits ⊢
  simp only [rewritten, counted_withChecksum, counted_withMore]
  omega

end FragmentPacket

section Observations

variable {datagram : Datagram} {fragmentation : Fragmentation datagram} {outbound : Bool}
  {observation : PendingUdpObservation} {packet : FragmentPacket} {divert : Divert}

/-- An observation holds a fragment of a datagram. -/
structure Captures (fragmentation : Fragmentation datagram) (outbound : Bool)
    (observation : PendingUdpObservation) (packet : FragmentPacket) : Prop where
  bytes : observation.packet = packet.encode
  direction : observation.outbound = outbound
  isFragment : IsFragment fragmentation packet

section

variable (captures : Captures fragmentation outbound observation packet)
include captures

theorem Captures.inspect :
    ∃ part, inspectUdpFragment observation.packet observation.outbound = .ok (.fragment part) ∧
      InspectedAs fragmentation outbound packet part := by
  rw [captures.bytes, captures.direction]
  exact captures.isFragment.inspect outbound

theorem Captures.inspectFragmentOf (notFragment : String) :
    ∃ part, ProcessCapture.inspectFragmentOf observation notFragment = .ok part ∧
      InspectedAs fragmentation outbound packet part := by
  obtain ⟨part, inspected, facts⟩ := captures.inspect
  refine ⟨part, ?_, facts⟩
  unfold ProcessCapture.inspectFragmentOf
  rw [inspected]
  rfl

/-- A fragment that the new bytes reach is rewritten. -/
theorem Captures.rewriteFragmentPayload (recalculates : divert.Recalculates) {bytes : Bytes}
    (reached : packet.head.offset < bytes.length) :
    ∃ checksum, ProcessCapture.rewriteFragmentPayload divert bytes observation =
      .ok (some { observation with packet := (packet.rewritten bytes checksum).encode }) := by
  obtain ⟨part, inspected, facts⟩ := captures.inspectFragmentOf "分片修改阶段混入完整 UDP 数据报"
  have offset : part.payloadOffset = packet.head.offset := facts.carries.offset
  have content : part.fragmentPayload = packet.body := facts.carries.content
  have headRead : (slice observation.packet 0 packet.head.length :
      Outcome UdpObservationError Bytes) = .ok (packet.head.encode packet.body.length) := by
    rw [captures.bytes, FragmentPacket.encode, ← nil_append (packet.head.encode _ ++ _)]
    exact slice_append _ rfl (by simp)
  have bodyRead : (slice bytes packet.head.offset (packet.head.offset +
      min packet.body.length (bytes.length - packet.head.offset)) :
        Outcome UdpObservationError Bytes) = .ok (packet.cut.recut bytes).content := by
    refine slice_eq_ok.mpr ⟨by omega, by omega, ?_⟩
    rw [Nat.add_sub_cancel_left, ← length_drop, ← take_eq_take_min]
    rfl
  have more : decide (packet.head.offset + min packet.body.length
      (bytes.length - packet.head.offset) < bytes.length) = (packet.cut.recut bytes).more := by
    refine decide_eq_decide.mpr ?_
    change _ ↔ packet.head.offset + packet.body.length < bytes.length
    omega
  have unsummed : (FragmentPacket.mk (packet.head.withMore (packet.cut.recut bytes).more)
      (packet.cut.recut bytes).content []).Fits := by
    have fits := fits_rewritten captures.isFragment.fits bytes 0
    unfold FragmentPacket.Fits at fits ⊢
    simpa [rewritten] using fits
  obtain ⟨checksum, summed⟩ := recalculates _ unsummed rfl
  refine ⟨checksum, ?_⟩
  unfold ProcessCapture.rewriteFragmentPayload
  rw [inspected, ok_bind]
  simp only [fragmentPayloadRange, offset, content, facts.place]
  rw [if_neg (by omega), headRead, ok_bind, bodyRead, ok_bind, more,
    writeFragmentPacketLength_encode _ _ _ _ (by
      simpa [FragmentPacket.Fits] using unsummed), ok_bind]
  unfold recalculated
  rw [FragmentPacket.encode, append_nil] at summed
  rw [summed]
  rfl

/-- A fragment behind the end of the new bytes is left out. -/
theorem Captures.rewriteFragmentPayload_tail {bytes : Bytes}
    (behind : bytes.length ≤ packet.head.offset) :
    ProcessCapture.rewriteFragmentPayload divert bytes observation = .ok none := by
  obtain ⟨part, inspected, facts⟩ := captures.inspectFragmentOf "分片修改阶段混入完整 UDP 数据报"
  have offset : part.payloadOffset = packet.head.offset := facts.carries.offset
  unfold ProcessCapture.rewriteFragmentPayload
  rw [inspected, ok_bind]
  simp only [fragmentPayloadRange, offset]
  rw [if_pos behind]
  rfl

end

end Observations

/-! ### Checksums -/

theorem foldCarries_eq_ok {Error : Type} (sum : Nat) :
    ∃ folded, (foldCarries sum : Outcome Error Nat) = .ok folded := by
  unfold foldCarries
  have bound : sum < sum + 1 := Nat.lt_succ_self sum
  generalize sum + 1 = turns at bound
  induction turns generalizing sum with
  | zero => exact absurd bound (Nat.not_lt_zero _)
  | succ turns ih =>
    rw [loop]
    by_cases wide : 0xffff < sum
    · rw [if_pos wide]
      exact ih _ (by omega)
    · rw [if_neg wide]
      exact ⟨sum, rfl⟩

/-- The checksum of a datagram that fits has a value. -/
theorem udpChecksum_eq_ok {Error : Type} {source destination : IpAddr}
    (family : source.isIpv4 = destination.isIpv4) (sourcePort destinationPort : UInt16)
    {payload : Bytes} (bounded : payload.length + 8 < 65536) :
    ∃ checksum, (udpChecksum source sourcePort destination destinationPort payload :
      Outcome Error UInt16) = .ok checksum := by
  have summed : ∃ sum, (pseudoHeaderSum source destination
      (UInt16.ofNat (payload.length + 8)) : Outcome Error Nat) = .ok sum := by
    cases source with
    | v4 source =>
      cases destination with
      | v4 destination => exact ⟨_, rfl⟩
      | v6 destination => cases family
    | v6 source =>
      cases destination with
      | v4 destination => cases family
      | v6 destination => exact ⟨_, rfl⟩
  obtain ⟨sum, summed⟩ := summed
  unfold udpChecksum
  rw [if_pos bounded, expect_some, ok_bind, summed, ok_bind]
  dsimp only
  generalize addChecksumBytes _ payload = total
  obtain ⟨_, result⟩ := foldCarries_eq_ok total
  rw [result]
  exact ⟨_, rfl⟩

/-! ### The UDP header -/

def udpHeaderBytes (sourcePort destinationPort udpLength checksum : UInt16) : Bytes :=
  u16ToBe sourcePort ++ u16ToBe destinationPort ++ u16ToBe udpLength ++ u16ToBe checksum

theorem UdpDatagram.header_eq (udp : UdpDatagram) :
    udp.header = udpHeaderBytes udp.sourcePort udp.destinationPort udp.udpLength udp.checksum :=
  rfl

section UdpHeader

variable {Error : Type} (chain : Bytes) (sourcePort destinationPort udpLength checksum : UInt16)

theorem writeUdpLength_header {payloadLength : Nat} (bounded : payloadLength + 8 < 65536) :
    writeUdpLength (chain ++ udpHeaderBytes sourcePort destinationPort udpLength checksum)
      chain.length payloadLength =
        .ok (chain ++ udpHeaderBytes sourcePort destinationPort
          (UInt16.ofNat (payloadLength + 8)) checksum) := by
  have split : ∀ udpLength,
      chain ++ udpHeaderBytes sourcePort destinationPort udpLength checksum =
        (chain ++ (u16ToBe sourcePort ++ u16ToBe destinationPort)) ++
          (u16ToBe udpLength ++ u16ToBe checksum) := by
    simp [udpHeaderBytes]
  unfold writeUdpLength
  rw [if_pos bounded, split, split]
  exact overwrite_append (by simp) rfl

theorem split_checksum :
    chain ++ udpHeaderBytes sourcePort destinationPort udpLength checksum =
      (chain ++ (u16ToBe sourcePort ++ (u16ToBe destinationPort ++ u16ToBe udpLength))) ++
        (u16ToBe checksum ++ []) := by
  simp [udpHeaderBytes]

theorem u16At_checksum :
    (u16At (chain ++ udpHeaderBytes sourcePort destinationPort udpLength checksum)
      (chain.length + 6) : Outcome Error UInt16) = .ok checksum := by
  rw [split_checksum]
  exact u16At_append _ (by simp)

theorem overwrite_checksum (written : UInt16) :
    (overwrite (chain ++ udpHeaderBytes sourcePort destinationPort udpLength checksum)
      (chain.length + 6) (u16ToBe written) : Outcome Error Bytes) =
        .ok (chain ++ udpHeaderBytes sourcePort destinationPort udpLength written) := by
  rw [split_checksum, split_checksum]
  exact overwrite_append (by simp) rfl

end UdpHeader

/-- The first fragment starts with the headers of the datagram. -/
theorem IsFragment.headerBytes {datagram : Datagram} {fragmentation : Fragmentation datagram}
    {packet : FragmentPacket} (isFragment : IsFragment fragmentation packet)
    (start : packet.head.offset = 0) :
    packet.body.take (datagram.envelope.chain.length + 8) =
      datagram.envelope.chain ++ datagram.udp.header := by
  have headers : datagram.envelope.chain.length + 8 ≤ packet.body.length :=
    fragmentation.headers _ isFragment.cut start
  have split : datagram.fragmentable = (datagram.envelope.chain ++ datagram.udp.header) ++
      (datagram.udp.payload ++ datagram.udp.surplus) := by
    simp [Datagram.fragmentable, UdpDatagram.encode]
  obtain ⟨back, body⟩ := isFragment.body_prefix start
  have taken : (packet.body ++ back).take (datagram.envelope.chain.length + 8) =
      packet.body.take (datagram.envelope.chain.length + 8) :=
    take_append_of_le_length headers
  rw [← taken, body, split, take_left' (by simp [header])]

/-! ### Groups -/

/-- A UDP datagram with another payload of at most its length. -/
def UdpDatagram.withPayload (udp : UdpDatagram) (payload : Bytes) (checksum : UInt16)
    (shorter : payload.length ≤ udp.payload.length) : UdpDatagram where
  sourcePort := udp.sourcePort
  destinationPort := udp.destinationPort
  checksum
  payload
  surplus := []
  bounded := by
    have bounded := udp.bounded
    omega

/-- A datagram with another payload of at most its length. -/
def Datagram.withPayload (datagram : Datagram) (payload : Bytes) (checksum : UInt16)
    (shorter : payload.length ≤ datagram.udp.payload.length) : Datagram where
  envelope := datagram.envelope
  udp := datagram.udp.withPayload payload checksum shorter
  fits := by
    have fits := datagram.fits
    have before := datagram.udp.length_encode
    have after := (datagram.udp.withPayload payload checksum shorter).length_encode
    simp only [UdpDatagram.withPayload, length_nil] at after
    simp only [length_append, UdpDatagram.withPayload] at fits ⊢
    omega

/-- The packets of a group hold every fragment of a datagram, in any order and any number. -/
structure CompleteGroup {datagram : Datagram} (fragmentation : Fragmentation datagram)
    (outbound : Bool) (observations : List PendingUdpObservation) : Prop where
  fragments : ∀ observation ∈ observations, ∃ packet,
    Captures fragmentation outbound observation packet
  complete : ∀ cut ∈ fragmentation.cuts, ∃ observation ∈ observations, ∃ packet,
    Captures fragmentation outbound observation packet ∧ packet.cut = cut

section Groups

variable {datagram : Datagram} {fragmentation : Fragmentation datagram} {outbound : Bool}
  {observations : List PendingUdpObservation}

section

variable (group : CompleteGroup fragmentation outbound observations)
include group

theorem CompleteGroup.perm {others : List PendingUdpObservation} (same : others.Perm observations) :
    CompleteGroup fragmentation outbound others := by
  constructor
  · exact fun observation member => group.fragments observation (same.mem_iff.mp member)
  · intro cut member
    obtain ⟨observation, _, _⟩ := group.complete cut member
    grind

theorem CompleteGroup.exists_first :
    ∃ observation ∈ observations, ∃ packet,
      Captures fragmentation outbound observation packet ∧ packet.head.offset = 0 := by
  obtain ⟨first, member, start⟩ := Data.exists_first fragmentation.inhabited
  obtain ⟨observation, observed, packet, captures, rfl⟩ := group.complete first member
  exact ⟨observation, observed, packet, captures, start⟩

omit group in
/-- The transport fields of a group are those of its datagram. -/
theorem fragmentTransportMetadata_group
    (fragments : ∀ observation ∈ observations, ∃ packet,
      Captures fragmentation outbound observation packet)
    (first : ∃ observation ∈ observations, ∃ packet,
      Captures fragmentation outbound observation packet ∧ packet.head.offset = 0) :
    fragmentTransportMetadata observations =
      .ok ⟨datagram.envelope.source, datagram.udp.sourcePort, datagram.envelope.destination,
        datagram.udp.destinationPort, datagram.envelope.chain.length⟩ := by
  induction observations with
  | nil =>
    obtain ⟨observation, member, _⟩ := first
    cases member
  | cons observation _ ih =>
    obtain ⟨packet, captures⟩ := fragments observation mem_cons_self
    obtain ⟨part, inspected, facts⟩ := captures.inspectFragmentOf "分片组混入了完整 UDP 数据报"
    rw [fragmentTransportMetadata, inspected, Outcome.ok_bind, facts.tuple]
    by_cases start : packet.head.offset = 0
    · have located : fragmentUdpHeaderOffset part = some datagram.envelope.chain.length :=
        facts.carries.header start
      rw [if_pos start]
      dsimp only
      rw [located]
      rfl
    · rw [if_neg start]
      refine ih (fun other member => fragments other (.tail _ member)) ?_
      obtain ⟨other, member, _, otherCaptures, _⟩ := first
      rcases mem_cons.mp member with rfl | member
      · -- The same bytes cannot be a first and a later fragment.
        obtain ⟨_, otherInspected, otherFacts⟩ :=
          otherCaptures.inspectFragmentOf "分片组混入了完整 UDP 数据报"
        cases inspected.symm.trans otherInspected
        have tuples := facts.tuple.symm.trans otherFacts.tuple
        simp_all
      grind

/-- A first fragment is found in a group. -/
theorem CompleteGroup.firstPart :
    ∃ packet part, observations.findSome? firstPart? = some part ∧ packet.head.offset = 0 ∧
      IsFragment fragmentation packet ∧ InspectedAs fragmentation outbound packet part := by
  have firstPart : ∀ observation packet, Captures fragmentation outbound observation packet →
      ∃ part, InspectedAs fragmentation outbound packet part ∧
        firstPart? observation = if packet.head.offset = 0 then some part else none := by
    intro observation packet captures
    obtain ⟨part, inspected, facts⟩ := captures.inspect
    have offset : part.payloadOffset = packet.head.offset := facts.carries.offset
    refine ⟨part, facts, ?_⟩
    unfold firstPart?
    rw [inspected]
    simp [fragmentPayloadRange, offset]
  cases found : observations.findSome? firstPart? with
  | none =>
    obtain ⟨observation, observed, packet, captures, start⟩ := group.exists_first
    have missing := findSome?_eq_none_iff.mp found observation observed
    obtain ⟨part, _, result⟩ := firstPart observation packet captures
    rw [result, if_pos start] at missing
    cases missing
  | some part =>
    obtain ⟨observation, observed, result⟩ := exists_of_findSome?_eq_some found
    obtain ⟨packet, captures⟩ := group.fragments observation observed
    obtain ⟨_, facts, otherResult⟩ := firstPart observation packet captures
    rw [otherResult] at result
    by_cases start : packet.head.offset = 0
    · rw [if_pos start] at result
      cases result
      exact ⟨packet, _, rfl, start, captures.isFragment, facts⟩
    · rw [if_neg start] at result
      cases result

end

/-- The checksum that is written for a datagram. -/
def Datagram.wireChecksum (datagram : Datagram) (checksum : UInt16) : UInt16 :=
  if datagram.envelope.source.isIpv4 ∧ datagram.udp.checksum = 0 then 0 else checksum

/-- The new bytes are the fragmentable part of the new datagram. -/
theorem CompleteGroup.buildFragmentableUdpBytes
    (group : CompleteGroup fragmentation outbound observations) {payload : Bytes}
    (shorter : payload.length ≤ datagram.udp.payload.length) (checksum : UInt16) :
    ProcessCapture.buildFragmentableUdpBytes observations datagram.envelope.chain.length payload
      checksum =
        .ok (datagram.withPayload payload (datagram.wireChecksum checksum) shorter).fragmentable := by
  obtain ⟨packet, part, found, start, isFragment, facts⟩ := group.firstPart
  have headers : datagram.envelope.chain.length + 8 ≤ packet.body.length :=
    fragmentation.headers _ isFragment.cut start
  have content : part.fragmentPayload = packet.body := facts.carries.content
  have offset : part.payloadOffset = 0 := facts.carries.offset.trans start
  have bounded := datagram.udp.bounded
  have known : fragmentPayloadPrefix part (datagram.envelope.chain.length + 8) =
      some (datagram.envelope.chain ++ datagram.udp.header, datagram.envelope.source) := by
    unfold fragmentPayloadPrefix
    rw [content, isFragment.headerBytes start, facts.carries.key, if_pos ⟨offset, headers⟩]
    rfl
  unfold ProcessCapture.buildFragmentableUdpBytes
  rw [found]
  dsimp only
  rw [known]
  dsimp only
  rw [datagram.udp.header_eq, writeUdpLength_header _ _ _ _ _ (by omega), ok_bind,
    u16At_checksum, ok_bind]
  have checksumWritten := @overwrite_checksum String datagram.envelope.chain
    datagram.udp.sourcePort datagram.udp.destinationPort (UInt16.ofNat (payload.length + 8))
    datagram.udp.checksum (datagram.wireChecksum checksum)
  rw [Datagram.wireChecksum] at checksumWritten ⊢
  rw [checksumWritten]
  simp [Datagram.fragmentable, Datagram.withPayload, withPayload, UdpDatagram.encode,
    header_eq, udpLength]

end Groups

end SprakCapture.ProcessCapture
