import SprakCapture.ProcessCapture.PacketParsers
import SprakCapture.ProcessCapture.UdpObservation

/-!
# Replaced payloads of whole datagrams

`replaceWholeUdpPayload` puts a payload in place of that of a whole datagram and writes both
lengths anew. The IP length is that of the buffer, which is the end of the datagram only if no
byte stands behind it: `replaceWholeUdpPayload_iff` gives that as the exact condition.
-/

namespace SprakCapture.ProcessCapture

open Data List Data.Outcome
open Outcome (bind_eq_ok ok_bind)

/-- Where the length of an IP packet stands, and how much of the packet it does not count. -/
def lengthField (version : UInt8) : Nat × Nat := if version = 4 then (2, 0) else (4, 40)

/-- The end of an IP packet by its length field. -/
def declaredIpEnd (packet : Bytes) : Outcome PacketRewriteError Nat := do
  let version ← ipVersion packet
  let declared ← u16At packet (lengthField version).1
  pure ((lengthField version).2 + declared.toNat)

/-- The same addresses and ports. -/
structure ObservedUdpPacket.SameTuple (first second : ObservedUdpPacket) : Prop where
  sourceAddress : first.sourceAddress = second.sourceAddress
  destinationAddress : first.destinationAddress = second.destinationAddress
  sourcePort : first.sourcePort = second.sourcePort
  destinationPort : first.destinationPort = second.destinationPort

/-- A packet is produced, and it is a packet of the same tuple with the new payload that ends
where its IP length says. -/
def ReplacesPayload (packet : Bytes) (observed : ObservedUdpPacket) (payload : Bytes) : Prop :=
  ∃ rewritten again, replaceWholeUdpPayload packet observed payload = .ok rewritten ∧
    parseUdpPacket rewritten = .ok (some again) ∧ again.SameTuple observed ∧
      (slice rewritten again.payloadOffset again.payloadEnd : Outcome Unit Bytes) = .ok payload ∧
        declaredIpEnd rewritten = .ok again.payloadEnd

/-- The payload that a packet has leaves it as it is. -/
def KeepsPacket (packet : Bytes) (observed : ObservedUdpPacket) : Prop :=
  ∀ payload, (slice packet observed.payloadOffset observed.payloadEnd : Outcome Unit Bytes) =
    .ok payload → replaceWholeUdpPayload packet observed payload = .ok packet

/-! ### Packets that differ in their lengths -/

/-- The bytes up to the end of a UDP header, but for the lengths. -/
def SameHeaders (field udpOffset : Nat) (packet rewritten : Bytes) : Prop :=
  ∀ index < udpOffset + 8, ¬(field ≤ index ∧ index < field + 2) →
    ¬(udpOffset + 4 ≤ index ∧ index < udpOffset + 6) → rewritten[index]? = packet[index]?

theorem udpChain_monotone {packet : Bytes} {ipEnd udpOffset : Nat} {position : ChainPosition}
    (loops : Outcome.LoopsTo (udpChainStep packet ipEnd) position (some udpOffset)) :
    position.offset ≤ udpOffset := by
  generalize found : some udpOffset = result at loops
  induction loops with
  | done result =>
    subst found
    rcases udpChainStep_done result with ⟨-, same⟩ | impossible
    · cases same
      exact Nat.le_refl _
    · cases impossible
  | next result _ ih =>
    have advances := (udpChainStep_next.mp result).2.advances
    have rest := ih found
    omega

/-- The headers in front of a UDP header are walked over alike where their bytes are the same. -/
theorem udpChain_congr {packet rewritten : Bytes} {ipEnd other udpOffset : Nat}
    {position : ChainPosition}
    (loops : Outcome.LoopsTo (udpChainStep packet ipEnd) position (some udpOffset))
    (same : ∀ index, position.offset ≤ index → index < udpOffset →
      rewritten[index]? = packet[index]?)
    (inside : udpOffset ≤ other) :
    Outcome.LoopsTo (udpChainStep rewritten other) position (some udpOffset) := by
  generalize found : some udpOffset = result at loops
  induction loops with
  | done result =>
    subst found
    rcases udpChainStep_done result with ⟨isUdp, isOffset⟩ | impossible
    · refine .done ?_
      rw [udpChainStep, if_pos isUdp, ← isOffset]
      rfl
    · cases impossible
  | @next _ _ _ result rest =>
    subst found
    obtain ⟨notUdp, skips⟩ := udpChainStep_next.mp result
    have advances := skips.advances
    have behind := udpChain_monotone rest
    obtain ⟨⟨kind, isKind, nextHeader, lengthOctet, first, second, isNext⟩, -⟩ := skips
    refine .next (udpChainStep_next.mpr ⟨notUdp, ⟨kind, isKind, nextHeader, lengthOctet, ?_, ?_,
      isNext⟩, by omega⟩) ?_
    · rw [same _ (by omega) (by omega), first]
    · rw [same _ (by omega) (by omega), second]
    grind

section Locations

variable {packet rewritten : Bytes} {location : UdpLocation} {ipEnd : Nat}

theorem locateIpv4Udp_congr (located : locateIpv4Udp packet = .ok (some location))
    (same : SameHeaders 2 location.udpOffset packet rewritten)
    (declared : (u16At rewritten 2 : Outcome PacketRewriteError UInt16) =
      .ok (UInt16.ofNat ipEnd)) (small : ipEnd < 65536)
    (inside : location.udpOffset + 8 ≤ ipEnd) (captured : ipEnd ≤ rewritten.length) :
    locateIpv4Udp rewritten = .ok (some { location with ipEnd }) := by
  unfold locateIpv4Udp at located
  simp only [bind_eq_ok, raiseIf_eq_ok] at located
  obtain ⟨_, _, first, firstRead, _, _, protocol, protocolRead, _, isUdp, _,
    _, _, _, fragment, fragmentRead, located⟩ := located
  split at located
  · cases located
  simp only [bind_eq_ok] at located
  obtain ⟨_, sourceRead, _, destinationRead, result⟩ := located
  cases result
  dsimp only at same inside ⊢
  have number : (UInt16.ofNat ipEnd).toNat = ipEnd := UInt16.toNat_ofNat_of_lt' small
  have firstAgain : byteAt rewritten 0 = (.ok first : Outcome PacketRewriteError UInt8) := by
    rw [byteAt_congr (same 0 (by omega) (by omega) (by omega)), firstRead]
  have protocolAgain : byteAt rewritten 9 =
      (.ok protocol : Outcome PacketRewriteError UInt8) := by
    rw [byteAt_congr (same 9 (by omega) (by omega) (by omega)), protocolRead]
  have fragmentAgain : u16At rewritten 6 =
      (.ok fragment : Outcome PacketRewriteError UInt16) := by
    rw [u16At_congr fun index _ _ => same index (by omega) (by omega) (by omega), fragmentRead]
  have sourceAgain := octetsAt_congr sourceRead (by omega)
    fun index _ _ => same index (by omega) (by omega) (by omega)
  have destinationAgain := octetsAt_congr destinationRead (by omega)
    fun index _ _ => same index (by omega) (by omega) (by omega)
  unfold locateIpv4Udp
  simp only [bind_eq_ok, raiseIf_eq_ok]
  refine ⟨(), by omega, first, firstAgain, (), by omega, protocol, protocolAgain, (), isUdp,
    UInt16.ofNat ipEnd, declared, (), by omega, fragment, fragmentAgain, ?_⟩
  simp_all

theorem locateIpv6Udp_congr (located : locateIpv6Udp packet = .ok (some location))
    (same : SameHeaders 4 location.udpOffset packet rewritten)
    (declared : (u16At rewritten 4 : Outcome PacketRewriteError UInt16) =
      .ok (UInt16.ofNat (ipEnd - 40))) (small : ipEnd - 40 < 65536)
    (inside : location.udpOffset + 8 ≤ ipEnd) (captured : ipEnd ≤ rewritten.length) :
    locateIpv6Udp rewritten = .ok (some { location with ipEnd }) := by
  unfold locateIpv6Udp at located
  simp only [bind_eq_ok] at located
  obtain ⟨_, _, _, _, _, _, _, _, nextHeader, headerRead, found, chain, located⟩ := located
  cases found with
  | none => cases located
  | some udpOffset =>
    simp only [bind_eq_ok] at located
    obtain ⟨_, sourceRead, _, destinationRead, result⟩ := located
    cases result
    dsimp only at same inside ⊢
    have loops := loopsTo_of_loop chain
    have behind : 40 ≤ udpOffset := udpChain_monotone loops
    have number : (UInt16.ofNat (ipEnd - 40)).toNat = ipEnd - 40 :=
      UInt16.toNat_ofNat_of_lt' small
    have whole : 40 + (UInt16.ofNat (ipEnd - 40)).toNat = ipEnd := by omega
    have headerAgain : byteAt rewritten 6 =
        (.ok nextHeader : Outcome PacketRewriteError UInt8) := by
      rw [byteAt_congr (same 6 (by omega) (by omega) (by omega)), headerRead]
    have sourceAgain := octetsAt_congr sourceRead (by omega)
      fun index _ _ => same index (by omega) (by omega) (by omega)
    have destinationAgain := octetsAt_congr destinationRead (by omega)
      fun index _ _ => same index (by omega) (by omega) (by omega)
    have notZero : UInt16.ofNat (ipEnd - 40) ≠ 0 := by
      intro zero
      rw [zero] at number
      have positive : 0 < ipEnd - 40 := by omega
      exact absurd number (Nat.ne_of_lt positive)
    unfold locateIpv6Udp
    simp only [bind_eq_ok, raiseIf_eq_ok]
    refine ⟨(), by omega, _, declared, (), notZero, (), by omega, nextHeader, headerAgain,
      some udpOffset, ?_, ?_⟩
    · rw [whole, loop_eq_ok_iff (safe_udpChain captured _)]
      refine udpChain_congr loops (fun index (_ : 40 ≤ index) below => ?_) (by omega)
      exact same index (by omega) (by omega) (by omega)
    simp_all

end Locations

/-- What is known of a located packet, for both families. -/
theorem locateUdp_length {packet : Bytes} {version : UInt8} {location : UdpLocation}
    (located : locateUdp packet version = .ok (some location)) :
    (version = 4 ∨ version = 6) ∧ (lengthField version).1 + 2 ≤ location.udpOffset ∧
      (lengthField version).2 ≤ location.udpOffset ∧
      ∃ declared, (u16At packet (lengthField version).1 : Outcome PacketRewriteError UInt16) =
        .ok declared ∧ location.ipEnd = (lengthField version).2 + declared.toNat := by
  unfold locateUdp at located
  split at located
  · rename_i isV4
    subst isV4
    unfold locateIpv4Udp at located
    simp only [bind_eq_ok, raiseIf_eq_ok] at located
    obtain ⟨_, long, first, _, _, _, _, _, _, _, totalLength, lengthRead, _, _,
      _, _, located⟩ := located
    split at located
    · cases located
    simp only [bind_eq_ok] at located
    obtain ⟨source, _, destination, _, result⟩ := located
    cases result
    refine ⟨.inl rfl, ?_, Nat.zero_le _, totalLength, lengthRead, (Nat.zero_add _).symm⟩
    change 2 + 2 ≤ (first &&& 15).toNat * 4
    omega
  · split at located
    · rename_i isV6
      subst isV6
      unfold locateIpv6Udp at located
      simp only [bind_eq_ok] at located
      obtain ⟨_, long, payloadLength, lengthRead, _, _, _, _, _, _, found, chain,
        located⟩ := located
      cases found with
      | none => cases located
      | some udpOffset =>
        simp only [bind_eq_ok] at located
        obtain ⟨source, _, destination, _, result⟩ := located
        cases result
        have behind : 40 ≤ udpOffset := udpChain_monotone (loopsTo_of_loop chain)
        refine ⟨.inr rfl, ?_, behind, payloadLength, lengthRead, rfl⟩
        change 4 + 2 ≤ udpOffset
        omega
    · cases located

/-- What is known of a parsed packet: its location, and the length in its UDP header. -/
structure ParsedFrom (packet : Bytes) (observed : ObservedUdpPacket) (first : UInt8)
    (location : UdpLocation) (udpLength : UInt16) : Prop where
  starts : packet[0]? = some first
  located : locateUdp packet (first >>> 4) = .ok (some location)
  header : location.udpOffset + 8 ≤ location.ipEnd
  length : (u16At packet (location.udpOffset + 4) : Outcome PacketRewriteError UInt16) =
    .ok udpLength
  wide : 8 ≤ udpLength.toNat
  fits : location.udpOffset + udpLength.toNat ≤ location.ipEnd
  sourcePort : (u16At packet location.udpOffset : Outcome PacketRewriteError UInt16) =
    .ok observed.sourcePort
  destinationPort : (u16At packet (location.udpOffset + 2) :
    Outcome PacketRewriteError UInt16) = .ok observed.destinationPort
  sourceAddress : observed.sourceAddress = location.sourceAddress
  destinationAddress : observed.destinationAddress = location.destinationAddress
  payloadOffset : observed.payloadOffset = location.udpOffset + 8
  payloadEnd : observed.payloadEnd = location.udpOffset + udpLength.toNat

theorem parseUdpPacket_eq_ok {packet : Bytes} {observed : ObservedUdpPacket} :
    parseUdpPacket packet = .ok (some observed) ↔
      ∃ first location udpLength, ParsedFrom packet observed first location udpLength := by
  constructor
  · intro parsed
    unfold parseUdpPacket at parsed
    simp only [bind_eq_ok] at parsed
    obtain ⟨_, versionRead, found, located, rest⟩ := parsed
    cases found with
    | none => cases rest
    | some location =>
      cases packet with
      | nil => cases versionRead
      | cons first tail =>
        cases versionRead
        unfold readUdpHeader readPort at rest
        simp only [bind_eq_ok, raiseIf_eq_ok] at rest
        obtain ⟨_, ⟨_, _, udpLength, length, _, _, _, sourceRead, _,
          destinationRead, result⟩, equal⟩ := rest
        cases result
        cases equal
        exact ⟨first, location, udpLength, rfl, located, by omega, length, by omega, by omega,
          sourceRead, destinationRead, rfl, rfl, rfl, rfl⟩
  · rintro ⟨first, location, udpLength, reads⟩
    cases packet with
    | nil => cases reads.starts
    | cons _ tail =>
      cases reads.starts
      unfold parseUdpPacket
      simp only [bind_eq_ok]
      refine ⟨_, rfl, _, reads.located, ?_⟩
      have wide := reads.wide
      have fits := reads.fits
      unfold readUdpHeader readPort
      simp only [bind_eq_ok, raiseIf_eq_ok]
      refine ⟨_, ⟨(), by omega, udpLength, reads.length, (), by omega, _, reads.sourcePort, _,
        reads.destinationPort, rfl⟩, ?_⟩
      rw [← reads.sourceAddress, ← reads.destinationAddress, ← reads.payloadOffset,
        ← reads.payloadEnd]
      rfl

/-! ### The packet that is produced -/

/-- The bytes of a packet with another payload, before the lengths are written. -/
def replacedBytes (packet : Bytes) (observed : ObservedUdpPacket) (payload : Bytes) : Bytes :=
  packet.take observed.payloadOffset ++ payload ++ packet.drop observed.payloadEnd

/-- The packet with both lengths. -/
def replacedPacket (packet : Bytes) (observed : ObservedUdpPacket) (version : UInt8)
    (payload : Bytes) : Bytes :=
  let replaced := replacedBytes packet observed payload
  splice
    (splice replaced (observed.payloadOffset - 8 + 4) (u16ToBe (UInt16.ofNat (payload.length + 8))))
    (lengthField version).1
    (u16ToBe (UInt16.ofNat (replaced.length - (lengthField version).2)))

section Replacement

variable {packet payload : Bytes} {observed : ObservedUdpPacket} {first : UInt8}
  {location : UdpLocation} {udpLength : UInt16}

section

variable (inside : observed.payloadOffset ≤ packet.length)
include inside

theorem length_replacedBytes :
    (replacedBytes packet observed payload).length =
      observed.payloadOffset + payload.length + (packet.length - observed.payloadEnd) := by
  grind [replacedBytes]

theorem getElem?_replacedBytes {index : Nat} (before : index < observed.payloadOffset) :
    (replacedBytes packet observed payload)[index]? = packet[index]? := by
  grind [replacedBytes]

theorem getElem?_replacedBytes_payload {index : Nat} (within : index < payload.length) :
    (replacedBytes packet observed payload)[observed.payloadOffset + index]? = payload[index]? := by
  grind [replacedBytes]

end

theorem writeIpPacketLength_eq {bytes : Bytes} (starts : bytes[0]? = some first)
    (known : first >>> 4 = 4 ∨ first >>> 4 = 6)
    (inside : (lengthField (first >>> 4)).1 + 2 ≤ bytes.length) {rewritten : Bytes} :
    writeIpPacketLength bytes = .ok rewritten ↔
      bytes.length - (lengthField (first >>> 4)).2 < 65536 ∧
        splice bytes (lengthField (first >>> 4)).1
          (u16ToBe (UInt16.ofNat (bytes.length - (lengthField (first >>> 4)).2))) = rewritten := by
  unfold writeIpPacketLength
  rw [byteAt_eq_ok.mpr starts, ok_bind]
  rcases known with isV4 | isV6
  · rw [isV4] at inside ⊢
    rw [if_pos rfl]
    simp only [bind_eq_ok, raiseIf_eq_ok, Nat.not_le, exists_const]
    rw [overwrite_of_fits (by rw [length_u16ToBe]; exact inside), Except.ok.injEq]
    rfl
  · rw [isV6] at inside ⊢
    rw [if_neg (by decide), if_pos rfl]
    simp only [bind_eq_ok, raiseIf_eq_ok, Nat.not_le, exists_const]
    rw [overwrite_of_fits (by rw [length_u16ToBe]; exact inside), Except.ok.injEq]
    rfl

variable {rewritten : Bytes} (parsed : ParsedFrom packet observed first location udpLength)
include parsed

/-- What is produced for a payload that is no longer: the packet with both lengths, unless the IP
length does not fit. -/
theorem replaceWholeUdpPayload_eq_ok
    (short : payload.length ≤ observed.payloadEnd - observed.payloadOffset) :
    replaceWholeUdpPayload packet observed payload = .ok rewritten ↔
      (replacedBytes packet observed payload).length - (lengthField (first >>> 4)).2 < 65536 ∧
        replacedPacket packet observed (first >>> 4) payload = rewritten := by
  obtain ⟨_, _, captured⟩ := parseUdpPacket_range (parseUdpPacket_eq_ok.2 ⟨_, _, _, parsed⟩)
  obtain ⟨known, _, -, -⟩ := locateUdp_length parsed.located
  have lengthBound := udpLength.toNat_lt
  have isOffset := parsed.payloadOffset
  have isEnd := parsed.payloadEnd
  have size := @length_replacedBytes packet payload observed (by omega)
  have headRead : slice packet 0 observed.payloadOffset =
      (.ok (packet.take observed.payloadOffset) : Outcome UdpObservationError Bytes) :=
    slice_eq_ok.mpr ⟨Nat.zero_le _, by omega, by rw [drop_zero, Nat.sub_zero]⟩
  have tailRead : slice packet observed.payloadEnd packet.length =
      (.ok (packet.drop observed.payloadEnd) : Outcome UdpObservationError Bytes) := by
    refine slice_eq_ok.mpr ⟨captured, Nat.le_refl _, ?_⟩
    rw [take_of_length_le (by rw [length_drop])]
  have udpFits : observed.payloadOffset - 8 + 4 +
      (u16ToBe (UInt16.ofNat (payload.length + 8))).length ≤
        (replacedBytes packet observed payload).length := by
    rw [length_u16ToBe]
    omega
  have written : (writeUdpLength (replacedBytes packet observed payload)
      (observed.payloadOffset - 8) payload.length).mapError UdpObservationError.processing =
        .ok (splice (replacedBytes packet observed payload) (observed.payloadOffset - 8 + 4)
          (u16ToBe (UInt16.ofNat (payload.length + 8)))) := by
    rw [writeUdpLength, if_pos (by omega), overwrite_of_fits udpFits]
    rfl
  have starts : (splice (replacedBytes packet observed payload) (observed.payloadOffset - 8 + 4)
      (u16ToBe (UInt16.ofNat (payload.length + 8))))[0]? = some first := by
    rw [getElem?_splice udpFits, if_neg (by omega), getElem?_replacedBytes (by omega) (by omega),
      parsed.starts]
  have produced : replaceWholeUdpPayload packet observed payload =
      writeIpPacketLength (splice (replacedBytes packet observed payload)
        (observed.payloadOffset - 8 + 4) (u16ToBe (UInt16.ofNat (payload.length + 8)))) := by
    unfold replaceWholeUdpPayload
    rw [checkedSub_of_le (by omega), ok_bind,
      checkedSub_of_le (by omega), ok_bind, checkedSub_of_le (by omega),
      headRead, tailRead, ok_bind]
    change ((writeUdpLength (replacedBytes packet observed payload) _ _).mapError _ >>= _) = _
    rw [written, ok_bind]
  rw [produced, writeIpPacketLength_eq starts known (by rw [length_splice udpFits]; omega),
    length_splice udpFits]
  rfl

/-- What the parser finds in the packet that is produced. -/
def replacedObserved (observed : ObservedUdpPacket) (payload : Bytes) : ObservedUdpPacket :=
  { observed with payloadEnd := observed.payloadOffset + payload.length }

/-- The bytes of the produced packet in front of its payload, and the two lengths. -/
theorem replacedPacket_spec :
    (replacedPacket packet observed (first >>> 4) payload).length =
        (replacedBytes packet observed payload).length ∧
      SameHeaders (lengthField (first >>> 4)).1 location.udpOffset packet
        (replacedPacket packet observed (first >>> 4) payload) ∧
      (∀ index < payload.length,
        (replacedPacket packet observed (first >>> 4) payload)[observed.payloadOffset + index]? =
          payload[index]?) ∧
      (u16At (replacedPacket packet observed (first >>> 4) payload) (lengthField (first >>> 4)).1 :
        Outcome PacketRewriteError UInt16) = .ok (UInt16.ofNat
          ((replacedBytes packet observed payload).length - (lengthField (first >>> 4)).2)) ∧
      (u16At (replacedPacket packet observed (first >>> 4) payload) (location.udpOffset + 4) :
        Outcome PacketRewriteError UInt16) = .ok (UInt16.ofNat (payload.length + 8)) := by
  obtain ⟨_, _, _⟩ := parseUdpPacket_range (parseUdpPacket_eq_ok.2 ⟨_, _, _, parsed⟩)
  obtain ⟨_, _, -, -⟩ := locateUdp_length parsed.located
  have isOffset := parsed.payloadOffset
  have size := @length_replacedBytes packet payload observed (by omega)
  have udpOffset : observed.payloadOffset - 8 + 4 = location.udpOffset + 4 := by omega
  have udpFits : location.udpOffset + 4 + (u16ToBe (UInt16.ofNat (payload.length + 8))).length ≤
      (replacedBytes packet observed payload).length := by
    rw [length_u16ToBe]
    omega
  have ipFits : (lengthField (first >>> 4)).1 + (u16ToBe (UInt16.ofNat
      ((replacedBytes packet observed payload).length - (lengthField (first >>> 4)).2))).length ≤
        (splice (replacedBytes packet observed payload) (location.udpOffset + 4)
          (u16ToBe (UInt16.ofNat (payload.length + 8)))).length := by
    rw [length_u16ToBe, length_splice udpFits]
    omega
  have isPacket : replacedPacket packet observed (first >>> 4) payload =
      splice (splice (replacedBytes packet observed payload) (location.udpOffset + 4)
        (u16ToBe (UInt16.ofNat (payload.length + 8)))) (lengthField (first >>> 4)).1
          (u16ToBe (UInt16.ofNat ((replacedBytes packet observed payload).length -
            (lengthField (first >>> 4)).2))) := by
    rw [replacedPacket, udpOffset]
  rw [isPacket]
  refine ⟨by rw [length_splice ipFits, length_splice udpFits], ?_, ?_, ?_, ?_⟩
  · intro index _ notIp _
    rw [getElem?_splice ipFits, if_neg (by rw [length_u16ToBe]; exact notIp),
      getElem?_splice udpFits, if_neg (by rw [length_u16ToBe]; omega)]
    exact getElem?_replacedBytes (by omega) (by omega)
  · intro index within
    rw [getElem?_splice ipFits, if_neg (by rw [length_u16ToBe]; omega),
      getElem?_splice udpFits, if_neg (by rw [length_u16ToBe]; omega)]
    exact getElem?_replacedBytes_payload (by omega) within
  · exact u16At_splice ipFits
  · refine (u16At_congr fun index _ _ => ?_).trans (u16At_splice udpFits)
    rw [getElem?_splice ipFits, if_neg (by rw [length_u16ToBe]; omega)]

/-- The produced packet parses as one of the same tuple with the new payload, and its IP packet
ends with the buffer. -/
theorem parsedFrom_replacedPacket
    (small : (replacedBytes packet observed payload).length - (lengthField (first >>> 4)).2 <
      65536) :
    ParsedFrom (replacedPacket packet observed (first >>> 4) payload)
      (replacedObserved observed payload) first
      { location with ipEnd := (replacedBytes packet observed payload).length }
      (UInt16.ofNat (payload.length + 8)) := by
  obtain ⟨_, _, _⟩ := parseUdpPacket_range (parseUdpPacket_eq_ok.2 ⟨_, _, _, parsed⟩)
  obtain ⟨known, _, _, -⟩ := locateUdp_length parsed.located
  obtain ⟨sameLength, same, -, ipLength, newLength⟩ := replacedPacket_spec parsed
  have isOffset := parsed.payloadOffset
  have size := @length_replacedBytes packet payload observed (by omega)
  have number : (UInt16.ofNat (payload.length + 8)).toNat = payload.length + 8 :=
    UInt16.toNat_ofNat_of_lt' (by
      change payload.length + 8 < 65536
      omega)
  refine
    { starts := ?_
      located := ?_
      header := by dsimp only; omega
      length := newLength
      wide := by omega
      fits := by dsimp only; omega
      sourcePort := ?_
      destinationPort := ?_
      sourceAddress := parsed.sourceAddress
      destinationAddress := parsed.destinationAddress
      payloadOffset := parsed.payloadOffset
      payloadEnd := ?_ }
  · have positive : 0 < (lengthField (first >>> 4)).1 := by
      rcases known with isV4 | isV6
      · rw [isV4]
        decide
      · rw [isV6]
        decide
    rw [same 0 (by omega) (by omega) (by omega), parsed.starts]
  · have located := parsed.located
    rcases known with isV4 | isV6
    · rw [isV4] at located same sameLength ipLength small ⊢
      exact locateIpv4Udp_congr located same ipLength small (by omega) (by omega)
    · rw [isV6] at located same sameLength ipLength small ⊢
      exact locateIpv6Udp_congr located same ipLength small (by omega) (by omega)
  · refine (u16At_congr fun index behind below => ?_).trans parsed.sourcePort
    dsimp only at behind below
    exact same index (by omega) (by omega) (by omega)
  · refine (u16At_congr fun index behind below => ?_).trans parsed.destinationPort
    dsimp only at behind below
    exact same index (by omega) (by omega) (by omega)
  · change observed.payloadOffset + payload.length = location.udpOffset + _
    omega

omit parsed

theorem declaredIpEnd_eq {declared : UInt16} (starts : packet[0]? = some first)
    (length : (u16At packet (lengthField (first >>> 4)).1 : Outcome PacketRewriteError UInt16) =
      .ok declared) :
    declaredIpEnd packet = .ok ((lengthField (first >>> 4)).2 + declared.toNat) := by
  cases packet with
  | nil => cases starts
  | cons =>
    cases starts
    change (u16At _ _ >>= _) = _
    rw [length]
    rfl

include parsed

/-- A replacement is as claimed if no byte stands behind the datagram. -/
theorem replacesPayload_of_end
    (short : payload.length ≤ observed.payloadEnd - observed.payloadOffset)
    (ends : observed.payloadEnd = packet.length) : ReplacesPayload packet observed payload := by
  obtain ⟨_, _, _⟩ := parseUdpPacket_range (parseUdpPacket_eq_ok.2 ⟨_, _, _, parsed⟩)
  obtain ⟨_, -, _, declared, -, _⟩ := locateUdp_length parsed.located
  have declaredBound := declared.toNat_lt
  have fits := parsed.fits
  have isOffset := parsed.payloadOffset
  have isEnd := parsed.payloadEnd
  have size := @length_replacedBytes packet payload observed (by omega)
  have small : (replacedBytes packet observed payload).length - (lengthField (first >>> 4)).2 <
      65536 := by omega
  have again := parsedFrom_replacedPacket parsed small
  obtain ⟨sameLength, -, isPayload, ipLength, -⟩ :=
    replacedPacket_spec parsed
  refine ⟨_, replacedObserved observed payload,
    (replaceWholeUdpPayload_eq_ok parsed short).mpr ⟨small, rfl⟩,
    parseUdpPacket_eq_ok.2 ⟨_, _, _, again⟩, ⟨rfl, rfl, rfl, rfl⟩, ?_, ?_⟩
  · refine slice_eq_ok.mpr ⟨Nat.le_add_right _ _, ?_, ?_⟩
    · rw [sameLength, size]
      exact Nat.le_add_right _ _
    · change payload = ((replacedPacket packet observed (first >>> 4) payload).drop
        observed.payloadOffset).take (observed.payloadOffset + payload.length -
          observed.payloadOffset)
      rw [Nat.add_sub_cancel_left, take_drop_eq isPayload]
  · have number : (UInt16.ofNat ((replacedBytes packet observed payload).length -
        (lengthField (first >>> 4)).2)).toNat =
          (replacedBytes packet observed payload).length - (lengthField (first >>> 4)).2 :=
      UInt16.toNat_ofNat_of_lt' small
    rw [declaredIpEnd_eq again.starts ipLength]
    refine congrArg Except.ok ?_
    change _ = observed.payloadOffset + payload.length
    omega

theorem keepsPacket_of_end (ends : observed.payloadEnd = packet.length) :
    KeepsPacket packet observed := by
  intro _ isPayload
  obtain ⟨_, _, rfl⟩ := slice_eq_ok.mp isPayload
  obtain ⟨_, -, _, declared, declaredRead, _⟩ :=
    locateUdp_length parsed.located
  have declaredBound := declared.toNat_lt
  have bounded := locateUdp_bounded parsed.located
  have fits := parsed.fits
  have isOffset := parsed.payloadOffset
  have isEnd := parsed.payloadEnd
  have payloadLength : ((packet.drop observed.payloadOffset).take
      (observed.payloadEnd - observed.payloadOffset)).length =
        observed.payloadEnd - observed.payloadOffset := by
    rw [length_take, length_drop]
    omega
  have isPacket : replacedBytes packet observed ((packet.drop observed.payloadOffset).take
      (observed.payloadEnd - observed.payloadOffset)) = packet := by
    have rest : packet.drop observed.payloadEnd =
        (packet.drop observed.payloadOffset).drop
          (observed.payloadEnd - observed.payloadOffset) := by
      rw [drop_drop]
      congr 1
      omega
    rw [replacedBytes, append_assoc, rest, take_append_drop, take_append_drop]
  have udpNumber : UInt16.ofNat (observed.payloadEnd - observed.payloadOffset + 8) = udpLength := by
    have same : observed.payloadEnd - observed.payloadOffset + 8 = udpLength.toNat := by
      omega
    rw [same, UInt16.ofNat_toNat]
  have ipNumber : UInt16.ofNat (packet.length - (lengthField (first >>> 4)).2) = declared := by
    have same : packet.length - (lengthField (first >>> 4)).2 = declared.toNat := by omega
    rw [same, UInt16.ofNat_toNat]
  have udpOffset : observed.payloadOffset - 8 + 4 = location.udpOffset + 4 := by omega
  refine (replaceWholeUdpPayload_eq_ok parsed (by omega)).mpr ⟨by rw [isPacket]; omega, ?_⟩
  rw [replacedPacket, isPacket, payloadLength, udpNumber, ipNumber, udpOffset]
  have udpSame : splice packet (location.udpOffset + 4) (u16ToBe udpLength) = packet :=
    splice_eq_self (take_drop_of_u16At parsed.length).2
  rw [udpSame]
  exact splice_eq_self (take_drop_of_u16At declaredRead).2

end Replacement

/-- The payload of a whole datagram is replaced as claimed, and kept where it is the same, exactly
if the datagram ends with the captured bytes. -/
theorem replaceWholeUdpPayload_iff {packet payload : Bytes} {observed : ObservedUdpPacket}
    (parsed : parseUdpPacket packet = .ok (some observed))
    (short : payload.length ≤ observed.payloadEnd - observed.payloadOffset) :
    ReplacesPayload packet observed payload ∧ KeepsPacket packet observed ↔
      observed.payloadEnd = packet.length := by
  obtain ⟨_, _, _⟩ := parseUdpPacket_range parsed
  obtain ⟨first, _, _, parsed⟩ := parseUdpPacket_eq_ok.1 parsed
  constructor
  · rintro ⟨⟨_, _, produced, parsedAgain, _, _, isEnd⟩, -⟩
    obtain ⟨small, rfl⟩ := (replaceWholeUdpPayload_eq_ok parsed short).mp produced
    have found := parsedFrom_replacedPacket parsed small
    obtain ⟨-, -, -, ipLength, -⟩ := replacedPacket_spec parsed
    have foundAgain := parseUdpPacket_eq_ok.2 ⟨_, _, _, found⟩
    cases foundAgain.symm.trans parsedAgain
    have number : (UInt16.ofNat ((replacedBytes packet observed payload).length -
        (lengthField (first >>> 4)).2)).toNat =
          (replacedBytes packet observed payload).length - (lengthField (first >>> 4)).2 :=
      UInt16.toNat_ofNat_of_lt' small
    have ends := Except.ok.inj ((declaredIpEnd_eq found.starts ipLength).symm.trans isEnd)
    have size := @length_replacedBytes packet payload observed (by omega)
    change _ = observed.payloadOffset + payload.length at ends
    omega
  · exact fun ends => ⟨replacesPayload_of_end parsed short ends, keepsPacket_of_end parsed ends⟩

/-! ### Samples -/

/-- A datagram of two bytes in an IPv4 packet, with padding behind it. -/
def samplePacket (padding : Bytes) : Bytes :=
  [0x45, 0, 0, 30, 0, 0, 0, 0, 64, 17, 0, 0, 10, 0, 0, 1, 10, 0, 0, 2] ++
    [0, 53, 0, 80, 0, 10, 0, 0, 7, 8] ++ padding

def sampleObserved : ObservedUdpPacket where
  sourceAddress := .ipv4 10 0 0 1
  destinationAddress := .ipv4 10 0 0 2
  sourcePort := 53
  destinationPort := 80
  payloadOffset := 28
  payloadEnd := 30

theorem replaceWholeUdpPayload_unpadded :
    ReplacesPayload (samplePacket []) sampleObserved [9] ∧
      KeepsPacket (samplePacket []) sampleObserved :=
  (replaceWholeUdpPayload_iff (by decide) (by decide)).mpr rfl

/-- One byte of padding is counted into the IP packet. -/
theorem not_replaceWholeUdpPayload_padded :
    parseUdpPacket (samplePacket [0]) = .ok (some sampleObserved) ∧
      ¬ (ReplacesPayload (samplePacket [0]) sampleObserved [9] ∧
        KeepsPacket (samplePacket [0]) sampleObserved) := by
  refine ⟨by decide, fun both => ?_⟩
  have ends := (replaceWholeUdpPayload_iff (by decide) (by decide)).mp both
  exact absurd ends (by decide)

end SprakCapture.ProcessCapture
