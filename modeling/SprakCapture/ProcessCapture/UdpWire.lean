import SprakCapture.ProcessCapture.PacketParsers

/-!
# UDP datagrams on the wire

The layout of UDP datagrams in IPv4 and IPv6 packets, whole and in fragments, written
as encoders. Headers carry every field of the protocols, with options, extension
chains and padding behind the declared length. The parsers read an encoded packet as
what it encodes: `parseUdpPacket_encode` for whole datagrams and
`inspectUdpFragment_encode` for fragments.
-/

namespace SprakCapture.ProcessCapture

open Data List Data.Outcome
open Outcome (ok_bind bind_eq_ok)

/-! ### Layout -/

/-- A UDP datagram; the surplus is what its IP packet holds beyond the UDP length. -/
structure UdpDatagram where
  sourcePort : UInt16
  destinationPort : UInt16
  checksum : UInt16
  payload : Bytes
  surplus : Bytes
  bounded : payload.length + 8 < 65536

namespace UdpDatagram

def header (datagram : UdpDatagram) : Bytes :=
  u16ToBe datagram.sourcePort ++ u16ToBe datagram.destinationPort ++
    u16ToBe (UInt16.ofNat (datagram.payload.length + 8)) ++ u16ToBe datagram.checksum

def encode (datagram : UdpDatagram) : Bytes :=
  datagram.header ++ datagram.payload ++ datagram.surplus

end UdpDatagram

/-- The IPv4 header of a UDP packet, without its length. -/
structure Ipv4Header where
  typeOfService : UInt8
  identification : UInt16
  fragment : UInt16
  timeToLive : UInt8
  checksum : UInt16
  source : Octets 4
  destination : Octets 4
  optionWords : Fin 11
  options : Octets (4 * optionWords)

variable (header : Ipv4Header)

namespace Ipv4Header

def length (header : Ipv4Header) : Nat := 20 + 4 * header.optionWords

def encode (header : Ipv4Header) (bodyLength : Nat) : Bytes :=
  [UInt8.ofNat (69 + header.optionWords), header.typeOfService] ++
    u16ToBe (UInt16.ofNat (header.length + bodyLength)) ++ u16ToBe header.identification ++
    u16ToBe header.fragment ++ [header.timeToLive, udpProtocol] ++ u16ToBe header.checksum ++
    header.source.bytes ++ header.destination.bytes ++ header.options.bytes

@[simp] theorem length_encode (bodyLength : Nat) :
    (header.encode bodyLength).length = header.length := by
  simp [encode, length]
  omega

end Ipv4Header

/-- An IPv6 extension header that the walkers skip. -/
structure Extension where
  header : UInt8
  kind : ExtensionKind
  known : extensionKind? header = some kind
  lengthOctet : UInt8
  body : Bytes
  width : body.length + 2 = kind.extent lengthOctet

/-- The header that a chain starts with. -/
def firstHeader (chain : List Extension) (last : UInt8) : UInt8 :=
  (chain.head?.map Extension.header).getD last

/-- A chain that leads to a last header. -/
def encodeChain : List Extension → UInt8 → Bytes
  | [], _ => []
  | extension :: rest, last =>
    firstHeader rest last :: extension.lengthOctet :: (extension.body ++ encodeChain rest last)

/-- The IPv6 header of a packet, without its length and its next header. -/
structure Ipv6Header where
  trafficClass : Fin 16
  flow : UInt8 × UInt8 × UInt8
  hopLimit : UInt8
  source : Octets 16
  destination : Octets 16

def Ipv6Header.encode (header : Ipv6Header) (nextHeader : UInt8) (payloadLength : Nat) : Bytes :=
  [UInt8.ofNat (96 + header.trafficClass), header.flow.1, header.flow.2.1, header.flow.2.2] ++
    u16ToBe (UInt16.ofNat payloadLength) ++ [nextHeader, header.hopLimit] ++ header.source.bytes ++
    header.destination.bytes

open Ipv6Header

@[simp] theorem Ipv6Header.length_encode (header : Ipv6Header) (nextHeader : UInt8)
    (payloadLength : Nat) : (header.encode nextHeader payloadLength).length = 40 := by
  simp [encode]

structure Ipv6FragmentHeader where
  nextHeader : UInt8
  reserved : UInt8
  fragment : UInt16
  identification : UInt32

def Ipv6FragmentHeader.encode (header : Ipv6FragmentHeader) : Bytes :=
  [header.nextHeader, header.reserved] ++ u16ToBe header.fragment ++ u32ToBe header.identification

@[simp] theorem Ipv6FragmentHeader.length_encode (header : Ipv6FragmentHeader) :
    header.encode.length = 8 := rfl

/-- The headers of a fragment, up to the fragmentable part. -/
inductive FragmentHead where
  | v4 (header : Ipv4Header)
  | v6 (header : Ipv6Header) (before : List Extension) (fragmentHeader : Ipv6FragmentHeader)

namespace FragmentHead

def length : FragmentHead → Nat
  | .v4 header => header.length
  | .v6 _ before _ => 40 + (encodeChain before fragmentHeader).length + 8

/-- The part of the headers that the length field counts. -/
def counted : FragmentHead → Nat
  | .v4 header => header.length
  | .v6 _ before _ => (encodeChain before fragmentHeader).length + 8

def encode (head : FragmentHead) (bodyLength : Nat) : Bytes :=
  match head with
  | .v4 header => header.encode bodyLength
  | .v6 header before fragment =>
    header.encode (firstHeader before fragmentHeader) (head.counted + bodyLength) ++
      encodeChain before fragmentHeader ++ fragment.encode

/-- The field that holds the offset and the flags. -/
def fragment : FragmentHead → UInt16
  | .v4 header => header.fragment
  | .v6 _ _ fragment => fragment.fragment

/-- The place of the fragment in the fragmentable part. -/
def offset : FragmentHead → Nat
  | .v4 header => (header.fragment &&& 0x1fff).toNat * 8
  | .v6 _ _ fragment => (fragment.fragment &&& 0xfff8).toNat

def moreFragments : FragmentHead → Bool
  | .v4 header => decide (header.fragment &&& 0x2000 ≠ 0)
  | .v6 _ _ fragment => decide (fragment.fragment &&& 0x0001 ≠ 0)

def key (outbound : Bool) : FragmentHead → UdpFragmentKey
  | .v4 header =>
    ⟨.v4 header.source, .v4 header.destination, header.identification.toUInt32, outbound⟩
  | .v6 header _ fragment =>
    ⟨.v6 header.source, .v6 header.destination, fragment.identification, outbound⟩

/-- The header that the fragmentable part starts with. -/
def nextHeader : FragmentHead → UInt8
  | .v4 _ => udpProtocol
  | .v6 _ _ fragment => fragment.nextHeader

/-- An IPv4 packet with offset zero and no more fragments is not a fragment. -/
def fragmented : FragmentHead → Bool
  | head@(.v4 _) => decide (head.offset ≠ 0) || head.moreFragments
  | .v6 .. => true

@[simp] theorem length_encode (head : FragmentHead) (bodyLength : Nat) :
    (head.encode bodyLength).length = head.length := by
  cases head with
  | v4 header => simp [encode, length]
  | v6 header => simp [encode, length, Nat.add_assoc]

end FragmentHead

/-- A fragment in its packet; the capture may hold padding behind it. -/
structure FragmentPacket where
  head : FragmentHead
  body : Bytes
  padding : Bytes

namespace FragmentPacket

def encode (packet : FragmentPacket) : Bytes :=
  packet.head.encode packet.body.length ++ (packet.body ++ packet.padding)

/-- The length field can hold the length of the packet. -/
def Fits (packet : FragmentPacket) : Prop :=
  packet.head.counted + packet.body.length < 65536

end FragmentPacket

/-- The IP headers of a whole datagram; the second chain of an IPv6 packet belongs to its
fragmentable part. -/
inductive Envelope where
  | v4 (header : Ipv4Header) (unfragmented : header.fragment &&& 0x3fff = 0)
  | v6 (header : Ipv6Header) (before after : List Extension)

namespace Envelope

/-- The header that the fragmentable part starts with. -/
def nextHeader : Envelope → UInt8
  | .v4 .. => udpProtocol
  | .v6 _ _ after => firstHeader after udpProtocol

/-- The fragmentable part in front of the UDP header. -/
def chain : Envelope → Bytes
  | .v4 .. => []
  | .v6 _ _ after => encodeChain after udpProtocol

/-- The part of the headers that the length field counts. -/
def counted : Envelope → Nat
  | .v4 header _ => header.length
  | .v6 _ before after => (encodeChain before (firstHeader after udpProtocol)).length

def encode (envelope : Envelope) (bodyLength : Nat) : Bytes :=
  match envelope with
  | .v4 header _ => header.encode bodyLength
  | .v6 header before after =>
    header.encode (firstHeader before (firstHeader after udpProtocol))
        (envelope.counted + bodyLength) ++
      encodeChain before (firstHeader after udpProtocol)

def source : Envelope → IpAddr
  | .v4 header _ => .v4 header.source
  | .v6 header _ _ => .v6 header.source

def destination : Envelope → IpAddr
  | .v4 header _ => .v4 header.destination
  | .v6 header _ _ => .v6 header.destination

end Envelope

/-- A UDP datagram in one IP packet. -/
structure Datagram where
  envelope : Envelope
  udp : UdpDatagram
  fits : envelope.counted + (envelope.chain ++ udp.encode).length < 65536

namespace Datagram

/-- The part of the packet that fragments share out. -/
def fragmentable (datagram : Datagram) : Bytes := datagram.envelope.chain ++ datagram.udp.encode

def encode (datagram : Datagram) : Bytes :=
  datagram.envelope.encode datagram.fragmentable.length ++ datagram.fragmentable

end Datagram

/-! ### Extension chains -/

variable (first second : List Extension)

open FragmentHead FragmentPacket Envelope

theorem firstHeader_append (last : UInt8) :
    firstHeader (first ++ second) last = firstHeader first (firstHeader second last) := by
  cases first with
  | nil | cons => rfl

/-- Two chains in a row are one chain. -/
theorem encodeChain_append (last : UInt8) :
    encodeChain (first ++ second) last =
      encodeChain first (firstHeader second last) ++ encodeChain second last := by
  induction first with
  | nil => rfl
  | cons =>
    grind [encodeChain, firstHeader_append]

variable {bound : Nat}

/-- A walker that skips headers follows an encoded chain to its end. -/
theorem encodeChain_skips (chain : List Extension) (last : UInt8) (head tail : Bytes)
    (bounded : head.length + (encodeChain chain last).length ≤ bound) :
    Relation.ReflTransGen (SkipsWithin (head ++ encodeChain chain last ++ tail) bound)
      ⟨firstHeader chain last, head.length⟩
      ⟨last, head.length + (encodeChain chain last).length⟩ := by
  induction chain generalizing head with
  | nil => exact .refl
  | cons extension rest ih =>
    have width := extension.width
    have split : head ++ encodeChain (extension :: rest) last ++ tail =
        (head ++ firstHeader rest last :: extension.lengthOctet :: extension.body) ++
          encodeChain rest last ++ tail := by
      simp [encodeChain]
    have extent : (encodeChain (extension :: rest) last).length =
        extension.kind.extent extension.lengthOctet + (encodeChain rest last).length := by
      grind [encodeChain]
    have headLength : (head ++ firstHeader rest last :: extension.lengthOctet ::
        extension.body).length = head.length + extension.kind.extent extension.lengthOctet := by
      simp_all
    have rest := ih (head ++ firstHeader rest last :: extension.lengthOctet ::
      extension.body) (by omega)
    rw [← split, headLength, Nat.add_assoc, ← extent] at rest
    refine .head ⟨⟨extension.kind, extension.known, _, extension.lengthOctet, ?_, ?_, rfl⟩, ?_⟩ rest
    · simp [encodeChain]
    · simp [encodeChain]
    · dsimp only
      omega

/-- A walker that goes on over every header it skips ends where the chain ends. -/
theorem loopsTo_of_skips {Error Value : Type} {packet : Bytes}
    {body : ChainPosition → Outcome Error (ChainPosition ⊕ Value)} {start stop : ChainPosition}
    {value : Value}
    (goesOn : ∀ position next, SkipsWithin packet bound position next →
      body position = .ok (.inl next))
    (skips : Relation.ReflTransGen (SkipsWithin packet bound) start stop)
    (ends : body stop = .ok (.inr value)) : Outcome.LoopsTo body start value := by
  induction skips using Relation.ReflTransGen.head_induction_on with
  | refl => exact .done ends
  | head step _ ih => exact .next (goesOn _ _ step) ih

theorem SkipsWithin.notUdp {packet : Bytes} {position next : ChainPosition}
    (skips : SkipsWithin packet bound position next) : position.nextHeader ≠ udpProtocol := by
  obtain ⟨⟨_, known, _⟩, _⟩ := skips
  intro isUdp
  rw [isUdp] at known
  cases known

/-! ### Reading headers -/

/-- What is read of a packet that starts with an IPv4 header. -/
structure ReadsIpv4 (header : Ipv4Header) (bodyLength : Nat) (packet : Bytes) : Prop where
  first : packet[0]? = some (UInt8.ofNat (69 + header.optionWords))
  totalLength : ∀ {Error : Type}, (u16At packet 2 : Outcome Error UInt16) =
    .ok (UInt16.ofNat (header.length + bodyLength))
  identification : ∀ {Error : Type}, (u16At packet 4 : Outcome Error UInt16) =
    .ok header.identification
  fragment : ∀ {Error : Type}, (u16At packet 6 : Outcome Error UInt16) = .ok header.fragment
  protocol : packet[9]? = some udpProtocol
  source : ∀ {Error : Type}, (octetsAt 4 packet 12 : Outcome Error (Octets 4)) = .ok header.source
  destination : ∀ {Error : Type}, (octetsAt 4 packet 16 : Outcome Error (Octets 4)) =
    .ok header.destination

theorem Ipv4Header.reads (header : Ipv4Header) (bodyLength : Nat) (rest : Bytes) :
    ReadsIpv4 header bodyLength (header.encode bodyLength ++ rest) := by
  -- The first twelve octets are explicit, so reads of them compute.
  have split : header.encode bodyLength ++ rest =
      (header.encode bodyLength).take 12 ++ (header.source.bytes ++
        (header.destination.bytes ++ (header.options.bytes ++ rest))) := by
    simp [encode, u16ToBe]
  have sourceEnd : (header.encode bodyLength).take 12 ++ (header.source.bytes ++
      (header.destination.bytes ++ (header.options.bytes ++ rest))) =
      ((header.encode bodyLength).take 12 ++ header.source.bytes) ++
        (header.destination.bytes ++ (header.options.bytes ++ rest)) :=
    (append_assoc _ _ _).symm
  constructor
  · rfl
  · exact u16At_eq_ok.mpr ⟨_, _, rfl, rfl, (u16FromBe_toBe _).symm⟩
  · exact u16At_eq_ok.mpr ⟨_, _, rfl, rfl, (u16FromBe_toBe _).symm⟩
  · exact u16At_eq_ok.mpr ⟨_, _, rfl, rfl, (u16FromBe_toBe _).symm⟩
  · rfl
  · rw [split]
    exact octetsAt_append _ rfl
  · rw [split, sourceEnd]
    exact octetsAt_append _ (by simp [encode, u16ToBe])

/-- What is read of a packet that starts with an IPv6 header. -/
structure ReadsIpv6 (header : Ipv6Header) (nextHeader : UInt8) (payloadLength : Nat)
    (packet : Bytes) : Prop where
  first : packet[0]? = some (UInt8.ofNat (96 + header.trafficClass))
  payloadLength : ∀ {Error : Type}, (u16At packet 4 : Outcome Error UInt16) =
    .ok (UInt16.ofNat payloadLength)
  nextHeader : packet[6]? = some nextHeader
  source : ∀ {Error : Type}, (octetsAt 16 packet 8 : Outcome Error (Octets 16)) = .ok header.source
  destination : ∀ {Error : Type}, (octetsAt 16 packet 24 : Outcome Error (Octets 16)) =
    .ok header.destination

theorem Ipv6Header.reads (header : Ipv6Header) (nextHeader : UInt8) (payloadLength : Nat)
    (rest : Bytes) :
    ReadsIpv6 header nextHeader payloadLength (header.encode nextHeader payloadLength ++ rest) := by
  have split : header.encode nextHeader payloadLength ++ rest =
      (header.encode nextHeader payloadLength).take 8 ++ (header.source.bytes ++
        (header.destination.bytes ++ rest)) := by
    simp [encode, u16ToBe]
  have sourceEnd : (header.encode nextHeader payloadLength).take 8 ++ (header.source.bytes ++
      (header.destination.bytes ++ rest)) =
      ((header.encode nextHeader payloadLength).take 8 ++ header.source.bytes) ++
        (header.destination.bytes ++ rest) :=
    (append_assoc _ _ _).symm
  constructor
  · rfl
  · exact u16At_eq_ok.mpr ⟨_, _, rfl, rfl, (u16FromBe_toBe _).symm⟩
  · rfl
  · rw [split]
    exact octetsAt_append _ rfl
  · rw [split, sourceEnd]
    exact octetsAt_append _ (by simp)

theorem ipv4FirstOctet (words : Fin 11) :
    UInt8.ofNat (69 + words) >>> 4 = 4 ∧
      (UInt8.ofNat (69 + words) &&& 0x0f).toNat * 4 = 20 + 4 * words := by
  revert words
  decide

theorem ipv6FirstOctet (trafficClass : Fin 16) : UInt8.ofNat (96 + trafficClass) >>> 4 = 6 := by
  revert trafficClass
  decide

/-! ### Inspecting fragments -/

theorem firstUdpHeaderOffset_udp (payloadOffset : Nat) (fragmentPayload : Bytes) :
    firstUdpHeaderOffset payloadOffset fragmentPayload udpProtocol =
      .ok (if payloadOffset = 0 then some 0 else none) := by
  unfold firstUdpHeaderOffset
  split <;> rfl

theorem inspectIpv4Fragment_encode (body padding : Bytes) (outbound : Bool)
    (fits : header.length + body.length < 65536)
    (fragmented : (FragmentHead.v4 header).fragmented = true) :
    inspectIpv4Fragment (header.encode body.length ++ (body ++ padding)) outbound = (do
      let udpHeaderOffset ← firstUdpHeaderOffset (FragmentHead.v4 header).offset body udpProtocol
      fragmentPart ((FragmentHead.v4 header).key outbound) (FragmentHead.v4 header).offset
        (FragmentHead.v4 header).moreFragments body
        (header.encode body.length ++ (body ++ padding)).length udpHeaderOffset
        header.length) := by
  have reads := header.reads body.length (body ++ padding)
  have length : (header.encode body.length ++ (body ++ padding)).length =
      header.length + (body.length + padding.length) := by
    simp
  have wide : 20 ≤ header.length := Nat.le_add_right _ _
  have ihl : (UInt8.ofNat (69 + header.optionWords) &&& 0x0f).toNat * 4 = header.length :=
    (ipv4FirstOctet header.optionWords).2
  have declared := UInt16.toNat_ofNat_of_lt' fits
  unfold inspectIpv4Fragment
  rw [raiseIf_of_not _ (by omega), ok_bind, byteAt_eq_ok.mpr reads.first,
    ok_bind, reads.totalLength, ok_bind]
  dsimp only
  rw [ihl, declared, raiseIf_of_not _ (by omega), ok_bind,
    byteAt_eq_ok.mpr reads.protocol, ok_bind, raiseIf_of_not _ (not_not.mpr rfl),
    ok_bind, reads.fragment, ok_bind, if_neg, reads.source, reads.destination, reads.identification, slice_append body (by simp) (by simp)]
  · rw [firstUdpHeaderOffset_udp]
    rfl
  grind [fragmented, offset, moreFragments]

theorem inspectFragmentHeader_encode (head : Bytes) (fragment : Ipv6FragmentHeader)
    (body padding : Bytes) (outbound : Bool) (source destination : Octets 16) :
    inspectFragmentHeader (head ++ (fragment.encode ++ (body ++ padding))) outbound
      (head.length + 8 + body.length) source destination head.length = (do
      let udpHeaderOffset ← firstUdpHeaderOffset (fragment.fragment &&& 0xfff8).toNat body
        fragment.nextHeader
      fragmentPart ⟨.v6 source, .v6 destination, fragment.identification, outbound⟩
        (fragment.fragment &&& 0xfff8).toNat (decide (fragment.fragment &&& 0x0001 ≠ 0)) body
        (head ++ (fragment.encode ++ (body ++ padding))).length udpHeaderOffset
        (head.length + 8)) := by
  -- The packet in front of each field of the Fragment header.
  have atFragment : head ++ (fragment.encode ++ (body ++ padding)) =
      (head ++ [fragment.nextHeader, fragment.reserved]) ++
        (u16ToBe fragment.fragment ++ (u32ToBe fragment.identification ++ (body ++ padding))) := by
    simp [Ipv6FragmentHeader.encode]
  have atIdentification : head ++ (fragment.encode ++ (body ++ padding)) =
      (head ++ ([fragment.nextHeader, fragment.reserved] ++ u16ToBe fragment.fragment)) ++
        (u32ToBe fragment.identification ++ (body ++ padding)) := by
    simp [Ipv6FragmentHeader.encode]
  have atBody : head ++ (fragment.encode ++ (body ++ padding)) =
      (head ++ fragment.encode) ++ (body ++ padding) := by
    simp
  have fragmentRead : (u16At (head ++ (fragment.encode ++ (body ++ padding))) (head.length + 2) :
      Outcome UdpFragmentError UInt16) = .ok fragment.fragment := by
    rw [atFragment]
    exact u16At_append _ (by simp)
  have identificationRead : (u32At (head ++ (fragment.encode ++ (body ++ padding)))
      (head.length + 4) : Outcome UdpFragmentError UInt32) = .ok fragment.identification := by
    rw [atIdentification]
    exact u32At_append _ (by simp)
  have bodyRead : (slice (head ++ (fragment.encode ++ (body ++ padding))) (head.length + 8)
      (head.length + 8 + body.length) : Outcome UdpFragmentError Bytes) = .ok body := by
    rw [atBody]
    exact slice_append body (by simp) (by simp)
  have nextHeaderRead : (byteAt (head ++ (fragment.encode ++ (body ++ padding))) head.length :
      Outcome UdpFragmentError UInt8) = .ok fragment.nextHeader :=
    byteAt_append fragment.nextHeader rfl
  have ensured : ensureBytes (head.length + 8 + body.length) head.length 8 = .ok () :=
    ensureBytes_eq_ok.mpr (by omega)
  simp [inspectFragmentHeader, ensured, fragmentRead, bodyRead, nextHeaderRead, identificationRead]

theorem fragmentChainStep_fragment (packet : Bytes) (outbound : Bool) (packetEnd offset : Nat)
    (source destination : Octets 16) :
    fragmentChainStep packet outbound packetEnd source destination ⟨fragmentHeader, offset⟩ = (do
      let fragment ← inspectFragmentHeader packet outbound packetEnd source destination offset
      pure (.inr fragment)) :=
  rfl

/-- What is read of a fragment behind its headers. -/
def FragmentPacket.inspect (packet : FragmentPacket) (outbound : Bool) :
    Outcome UdpFragmentError UdpPacketFragment := do
  let udpHeaderOffset ←
    firstUdpHeaderOffset packet.head.offset packet.body packet.head.nextHeader
  fragmentPart (packet.head.key outbound) packet.head.offset packet.head.moreFragments packet.body
    packet.encode.length udpHeaderOffset packet.head.length

theorem inspectIpv6Fragment_encode (header : Ipv6Header) (before : List Extension)
    (fragment : Ipv6FragmentHeader) (body padding : Bytes) (outbound : Bool)
    (fits : (mk (.v6 header before fragment) body padding).Fits)
    {part : UdpPacketFragment}
    (inspected : (mk (.v6 header before fragment) body padding).inspect outbound = .ok part) :
    inspectIpv6Fragment (mk (.v6 header before fragment) body padding).encode
      outbound = .ok part := by
  have counted : (encodeChain before fragmentHeader).length + 8 + body.length < 65536 := fits
  have declared := UInt16.toNat_ofNat_of_lt' counted
  have chained : (mk (.v6 header before fragment) body padding).encode =
      header.encode (firstHeader before fragmentHeader)
        ((encodeChain before fragmentHeader).length + 8 + body.length) ++
        encodeChain before fragmentHeader ++ (fragment.encode ++ (body ++ padding)) := by
    simp [FragmentPacket.encode, FragmentHead.encode, FragmentHead.counted]
  have length : (mk (.v6 header before fragment) body padding).encode.length =
      40 + ((encodeChain before fragmentHeader).length + 8 + body.length) + padding.length := by
    rw [chained]
    simp
    omega
  have reads := header.reads (firstHeader before fragmentHeader)
    ((encodeChain before fragmentHeader).length + 8 + body.length)
    (encodeChain before fragmentHeader ++ (fragment.encode ++ (body ++ padding)))
  rw [← append_assoc, ← chained] at reads
  have walked : Outcome.LoopsTo (fragmentChainStep
      (mk (.v6 header before fragment) body padding).encode outbound
      (40 + ((encodeChain before fragmentHeader).length + 8 + body.length)) header.source
      header.destination) ⟨firstHeader before fragmentHeader, 40⟩ part := by
    have skips := encodeChain_skips before fragmentHeader
      (header.encode (firstHeader before fragmentHeader)
        ((encodeChain before fragmentHeader).length + 8 + body.length))
      (fragment.encode ++ (body ++ padding))
      (show _ ≤ 40 + ((encodeChain before fragmentHeader).length + 8 + body.length) by
        rw [Ipv6Header.length_encode]
        omega)
    rw [← chained, Ipv6Header.length_encode] at skips
    refine loopsTo_of_skips
      (fun _ _ skips => fragmentChainStep_next.mpr ⟨skips.notUdp, skips⟩) skips ?_
    have read := inspectFragmentHeader_encode (header.encode (firstHeader before fragmentHeader)
      ((encodeChain before fragmentHeader).length + 8 + body.length) ++
        encodeChain before fragmentHeader) fragment body padding outbound header.source
      header.destination
    rw [← chained, length_append, Ipv6Header.length_encode] at read
    have bounds : 40 + ((encodeChain before fragmentHeader).length + 8 + body.length) =
        40 + (encodeChain before fragmentHeader).length + 8 + body.length := by
      omega
    rw [fragmentChainStep_fragment, bounds, read]
    exact Outcome.bind_eq_ok.mpr ⟨part, inspected, rfl⟩
  unfold inspectIpv6Fragment
  simp only [bind_eq_ok, raiseIf_eq_ok, byteAt_eq_ok]
  refine ⟨(), by omega, _, reads.payloadLength, (), ?_, (), by omega, _, reads.source, _,
    reads.destination, _, reads.nextHeader, ?_⟩
  · intro zero
    have nothing := declared.symm.trans (congrArg UInt16.toNat zero)
    rw [UInt16.toNat_zero] at nothing
    omega
  · rw [declared]
    exact (loop_eq_ok_iff (safe_fragmentChain _ _ (by omega) _ _ _)).mpr walked

/-- A fragment is inspected by its headers and its body, whatever options, extension headers
and padding its packet has. -/
theorem inspectUdpFragment_encode (packet : FragmentPacket) (outbound : Bool) (fits : packet.Fits)
    (fragmented : packet.head.fragmented = true) {part : UdpPacketFragment}
    (inspected : packet.inspect outbound = .ok part) :
    inspectUdpFragment packet.encode outbound = .ok part := by
  obtain ⟨head, body, padding⟩ := packet
  cases head with
  | v4 header =>
    have whole := inspectIpv4Fragment_encode header body padding outbound fits fragmented
    have version := (ipv4FirstOctet header.optionWords).1
    change (if UInt8.ofNat (69 + header.optionWords) >>> 4 = 4 then
      inspectIpv4Fragment (header.encode body.length ++ (body ++ padding)) outbound else _) = _
    rw [if_pos version, whole]
    exact inspected
  | v6 header before fragment =>
    have whole := inspectIpv6Fragment_encode header before fragment body padding outbound fits
      inspected
    have version := ipv6FirstOctet header.trafficClass
    change (if UInt8.ofNat (96 + header.trafficClass) >>> 4 = 4 then _ else
      if UInt8.ofNat (96 + header.trafficClass) >>> 4 = 6 then
        inspectIpv6Fragment (mk (.v6 header before fragment) body padding).encode outbound
      else _) = _
    rw [version, if_neg (by decide), if_pos rfl, whole]

/-! ### Parsing whole datagrams -/

variable (datagram : UdpDatagram)

theorem UdpDatagram.length_encode :
    datagram.encode.length = 8 + datagram.payload.length + datagram.surplus.length := by
  simp [encode, header]
  omega

/-- The UDP length of a datagram. -/
def UdpDatagram.udpLength (datagram : UdpDatagram) : UInt16 :=
  UInt16.ofNat (datagram.payload.length + 8)

theorem UdpDatagram.toNat_udpLength : datagram.udpLength.toNat = datagram.payload.length + 8 :=
  UInt16.toNat_ofNat_of_lt' datagram.bounded

/-- Ports and length are read at the UDP header. -/
theorem UdpDatagram.reads (datagram : UdpDatagram) (head : Bytes) {Error : Type} :
    (u16At (head ++ datagram.encode) head.length : Outcome Error UInt16) = .ok datagram.sourcePort ∧
      (u16At (head ++ datagram.encode) (head.length + 2) : Outcome Error UInt16) =
        .ok datagram.destinationPort ∧
      (u16At (head ++ datagram.encode) (head.length + 4) : Outcome Error UInt16) =
        .ok datagram.udpLength := by
  have atDestination : head ++ datagram.encode =
      (head ++ u16ToBe datagram.sourcePort) ++ (u16ToBe datagram.destinationPort ++
        (u16ToBe datagram.udpLength ++ (u16ToBe datagram.checksum ++
          (datagram.payload ++ datagram.surplus)))) := by
    simp [encode, header, udpLength]
  have atLength : head ++ datagram.encode =
      (head ++ (u16ToBe datagram.sourcePort ++ u16ToBe datagram.destinationPort)) ++
        (u16ToBe datagram.udpLength ++ (u16ToBe datagram.checksum ++
          (datagram.payload ++ datagram.surplus))) := by
    simp [encode, header, udpLength]
  refine ⟨?_, ?_, ?_⟩
  · grind [u16At_append]
  · rw [atDestination]
    exact u16At_append _ (by simp)
  · rw [atLength]
    exact u16At_append _ (by simp)

/-- The UDP header is read as the header of the datagram. -/
theorem readUdpHeader_encode (head : Bytes) (source destination : IpAddr) {udpOffset ipEnd : Nat}
    (atHeader : head.length = udpOffset) (atEnd : udpOffset + datagram.encode.length = ipEnd) :
    readUdpHeader (head ++ datagram.encode) ⟨source, destination, udpOffset, ipEnd⟩ =
      .ok ⟨source, destination, datagram.sourcePort, datagram.destinationPort, udpOffset + 8,
        udpOffset + 8 + datagram.payload.length⟩ := by
  subst atHeader
  have length := datagram.length_encode
  have declared := datagram.toNat_udpLength
  obtain ⟨sourceRead, destinationRead, lengthRead⟩ :=
    UdpDatagram.reads datagram head
  unfold readUdpHeader
  simp only [bind_eq_ok, raiseIf_eq_ok]
  refine ⟨(), by omega, _, lengthRead, (), by omega, _, sourceRead, _, destinationRead, ?_⟩
  rw [declared, Nat.add_comm datagram.payload.length 8, ← Nat.add_assoc]
  rfl

theorem locateIpv4Udp_encode (unfragmented : header.fragment &&& 0x3fff = 0) (body : Bytes)
    (long : 8 ≤ body.length) (fits : header.length + body.length < 65536) :
    locateIpv4Udp (header.encode body.length ++ body) =
      .ok (some ⟨.v4 header.source, .v4 header.destination, header.length,
        header.length + body.length⟩) := by
  have reads := header.reads body.length body
  have length : (header.encode body.length ++ body).length = header.length + body.length := by
    simp
  have wide : 20 ≤ header.length := Nat.le_add_right _ _
  have ihl : (UInt8.ofNat (69 + header.optionWords) &&& 0x0f).toNat * 4 = header.length :=
    (ipv4FirstOctet header.optionWords).2
  have declared := UInt16.toNat_ofNat_of_lt' fits
  unfold locateIpv4Udp
  simp only [bind_eq_ok, raiseIf_eq_ok, byteAt_eq_ok]
  refine ⟨(), by omega, _, reads.first, (), by omega, _, reads.protocol, (), not_not.mpr rfl, _,
    reads.totalLength, (), by omega, _, reads.fragment, ?_⟩
  rw [if_neg (not_not.mpr unfragmented), reads.source, reads.destination, ihl, declared]
  rfl

theorem locateIpv6Udp_encode (header : Ipv6Header) (chain : List Extension) (udp : Bytes)
    (nonempty : 0 < udp.length) (fits : (encodeChain chain udpProtocol).length + udp.length < 65536) :
    locateIpv6Udp (header.encode (firstHeader chain udpProtocol)
        ((encodeChain chain udpProtocol).length + udp.length) ++
          encodeChain chain udpProtocol ++ udp) =
      .ok (some ⟨.v6 header.source, .v6 header.destination,
        40 + (encodeChain chain udpProtocol).length,
        40 + ((encodeChain chain udpProtocol).length + udp.length)⟩) := by
  have declared := UInt16.toNat_ofNat_of_lt' fits
  have reads := header.reads (firstHeader chain udpProtocol)
    ((encodeChain chain udpProtocol).length + udp.length) (encodeChain chain udpProtocol ++ udp)
  rw [← append_assoc] at reads
  have skips := encodeChain_skips chain udpProtocol
    (header.encode (firstHeader chain udpProtocol)
      ((encodeChain chain udpProtocol).length + udp.length)) udp
    (show _ ≤ 40 + ((encodeChain chain udpProtocol).length + udp.length) by
      rw [Ipv6Header.length_encode]
      omega)
  rw [Ipv6Header.length_encode] at skips
  have length : (header.encode (firstHeader chain udpProtocol)
      ((encodeChain chain udpProtocol).length + udp.length) ++
        encodeChain chain udpProtocol ++ udp).length =
      40 + ((encodeChain chain udpProtocol).length + udp.length) := by
    simp
  generalize header.encode (firstHeader chain udpProtocol)
      ((encodeChain chain udpProtocol).length + udp.length) ++
        encodeChain chain udpProtocol ++ udp = packet at reads skips length ⊢
  have walked : Outcome.LoopsTo (udpChainStep packet
      (40 + ((encodeChain chain udpProtocol).length + udp.length)))
      ⟨firstHeader chain udpProtocol, 40⟩ (some (40 + (encodeChain chain udpProtocol).length)) :=
    loopsTo_of_skips (fun _ _ skips => udpChainStep_next.mpr ⟨skips.notUdp, skips⟩) skips rfl
  unfold locateIpv6Udp
  simp only [bind_eq_ok, raiseIf_eq_ok, byteAt_eq_ok]
  refine ⟨(), by omega, _, reads.payloadLength, (), ?_, (), by omega, _, reads.nextHeader,
    some (40 + (encodeChain chain udpProtocol).length), ?_, ?_⟩
  · intro zero
    have nothing := declared.symm.trans (congrArg UInt16.toNat zero)
    rw [UInt16.toNat_zero] at nothing
    omega
  · rw [declared]
    exact (loop_eq_ok_iff (safe_udpChain (by omega) _)).mpr walked
  · dsimp only
    rw [reads.source, reads.destination, declared]
    rfl

/-- What is read of a whole datagram. -/
def Datagram.observed (datagram : Datagram) : ObservedUdpPacket :=
  let payloadOffset := (datagram.envelope.encode datagram.fragmentable.length).length +
    datagram.envelope.chain.length + 8
  { sourceAddress := datagram.envelope.source
    destinationAddress := datagram.envelope.destination
    sourcePort := datagram.udp.sourcePort
    destinationPort := datagram.udp.destinationPort
    payloadOffset
    payloadEnd := payloadOffset + datagram.udp.payload.length }

theorem parseUdpPacket_of_locate {packet : Bytes} {version : UInt8} {location : UdpLocation}
    {observed : ObservedUdpPacket} (versionRead : ipVersion packet = .ok version)
    (located : locateUdp packet version = .ok (some location))
    (headerRead : readUdpHeader packet location = .ok observed) :
    parseUdpPacket packet = .ok (some observed) := by
  unfold parseUdpPacket
  simp_all

/-- A whole datagram is parsed as what it encodes. -/
theorem parseUdpPacket_encode (datagram : Datagram) :
    parseUdpPacket datagram.encode = .ok (some datagram.observed) := by
  obtain ⟨envelope, udp, fits⟩ := datagram
  have udpLength := udp.length_encode
  cases envelope with
  | v4 header unfragmented =>
    have located := locateIpv4Udp_encode header unfragmented udp.encode (by omega) fits
    have headerRead := readUdpHeader_encode udp (header.encode udp.encode.length)
      (.v4 header.source) (.v4 header.destination) (header.length_encode _) rfl
    have version := (ipv4FirstOctet header.optionWords).1
    refine parseUdpPacket_of_locate (congrArg Except.ok version) located (headerRead.trans ?_)
    simp [Datagram.observed, Envelope.encode, chain,
      Envelope.source, Envelope.destination]
  | v6 header before after =>
    have version := ipv6FirstOctet header.trafficClass
    -- The chains in front of and behind the Fragment header are one chain here.
    have chains := encodeChain_append before after udpProtocol
    have counted : (encodeChain (before ++ after) udpProtocol).length + udp.encode.length =
        (encodeChain before (firstHeader after udpProtocol)).length +
          (encodeChain after udpProtocol ++ udp.encode).length := by
      simp [chains, Nat.add_assoc]
    have located := locateIpv6Udp_encode header (before ++ after) udp.encode (by omega)
      (counted ▸ fits)
    have headerRead := readUdpHeader_encode udp
      (header.encode (firstHeader (before ++ after) udpProtocol)
        ((encodeChain (before ++ after) udpProtocol).length + udp.encode.length) ++
          encodeChain (before ++ after) udpProtocol) (.v6 header.source) (.v6 header.destination)
      (by rw [length_append, Ipv6Header.length_encode]) (Nat.add_assoc 40 _ _)
    have encoded : (Datagram.mk (.v6 header before after) udp fits).encode =
        header.encode (firstHeader (before ++ after) udpProtocol)
          ((encodeChain (before ++ after) udpProtocol).length + udp.encode.length) ++
            encodeChain (before ++ after) udpProtocol ++ udp.encode := by
      rw [counted, firstHeader_append, chains]
      simp [Datagram.encode, Datagram.fragmentable, Envelope.encode, chain, Envelope.counted]
    rw [encoded]
    refine parseUdpPacket_of_locate (congrArg Except.ok version) located ?_
    rw [headerRead]
    simp [Datagram.observed, Envelope.encode, chain,
      Envelope.source, Envelope.destination, chains, Nat.add_assoc]

/-- The payload that is reported for a whole datagram is its payload. -/
theorem Datagram.slice_observed (datagram : Datagram) {Error : Type} :
    (slice datagram.encode datagram.observed.payloadOffset datagram.observed.payloadEnd :
      Outcome Error Bytes) = .ok datagram.udp.payload := by
  have split : datagram.encode =
      (datagram.envelope.encode datagram.fragmentable.length ++
        (datagram.envelope.chain ++ datagram.udp.header)) ++
        (datagram.udp.payload ++ datagram.udp.surplus) := by
    simp [encode, fragmentable, UdpDatagram.encode]
  have headLength : (datagram.envelope.encode datagram.fragmentable.length ++
      (datagram.envelope.chain ++ datagram.udp.header)).length =
        datagram.observed.payloadOffset := by
    simp [observed, UdpDatagram.header]
    omega
  rw [split]
  exact slice_append _ headLength (congrArg (· + _) headLength)

end SprakCapture.ProcessCapture
