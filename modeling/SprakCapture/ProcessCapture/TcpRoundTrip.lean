import SprakCapture.ProcessCapture.FlowIdentity
import SprakCapture.ProcessCapture.PacketParsers

/-!
# Redirecting and restoring TCP packets

A redirected packet keeps its length and all bytes but its addresses and ports, and
the reply of the proxy is restored to the reverse of the tuple it was sent with.
The widths that `writeIpAddress` writes come from the table and the offsets from the
packet, so this holds for packets that carry no IPv4-mapped IPv6 address; and a reply
that is the first of several fragments is blocked, because the ones that follow it have
no ports to restore them by.
-/

namespace SprakCapture.ProcessCapture

open Data Data.Outcome IpAddr
open Outcome (bind_eq_ok ok_bind)

/-- The addresses and ports of a TCP packet. -/
structure TcpTuple where
  sourceAddress : IpAddr
  sourcePort : UInt16
  destinationAddress : IpAddr
  destinationPort : UInt16
deriving DecidableEq

/-- The tuple of the opposite direction. -/
def TcpTuple.swap (tuple : TcpTuple) : TcpTuple where
  sourceAddress := tuple.destinationAddress
  sourcePort := tuple.destinationPort
  destinationAddress := tuple.sourceAddress
  destinationPort := tuple.sourcePort

/-- The parsed TCP header of a packet, unless it has none. -/
def parsedTcp? (packet : Bytes) : Option ParsedTcpPacket :=
  match parsePacket packet true with
  | .ok (.tcp parsed) => some parsed
  | _ => none

/-- The tuple that a packet is read with. -/
def tcpTuple? (packet : Bytes) : Option TcpTuple :=
  (parsedTcp? packet).bind fun parsed =>
    match readPort packet parsed.tcpOffset, readPort packet (parsed.tcpOffset + 2) with
    | .ok sourcePort, .ok destinationPort =>
      some ⟨parsed.sourceAddress, sourcePort, parsed.destinationAddress, destinationPort⟩
    | _, _ => none

/-- No address of the packet is an IPv4-mapped IPv6 address. -/
def Unmapped (packet : Bytes) : Prop :=
  ∀ parsed, parsedTcp? packet = some parsed →
    normalizeIpAddress parsed.sourceAddress = parsed.sourceAddress ∧
      normalizeIpAddress parsed.destinationAddress = parsed.destinationAddress

/-- The packet is not the first of several fragments. -/
def Unfragmented (packet : Bytes) : Prop :=
  ∀ parsed, parsedTcp? packet = some parsed → parsed.fragmentKey = none

/-- An index in an address field or in a port field of a packet. -/
def ParsedTcpPacket.InTuple (parsed : ParsedTcpPacket) (index : Nat) : Prop :=
  (parsed.sourceAddressOffset ≤ index ∧
      index < parsed.sourceAddressOffset + parsed.sourceAddress.octets.length) ∨
    (parsed.destinationAddressOffset ≤ index ∧
      index < parsed.destinationAddressOffset + parsed.destinationAddress.octets.length) ∨
    (parsed.tcpOffset ≤ index ∧ index < parsed.tcpOffset + 4)

/-- A packet was written with the same length and differs in address and port fields only. -/
def OnlyTupleChanged (packet written : Bytes) : Prop :=
  written.length = packet.length ∧
    ∃ parsed, parsedTcp? packet = some parsed ∧
      ∀ index, ¬parsed.InTuple index → written[index]? = packet[index]?

/-- The result leaves the packet to be passed on or held back as it is. -/
def PacketDirection.Untouched (result : Outcome PacketRewriteError PacketDirection) : Prop :=
  result = .ok .bypass ∨ (∃ target, result = .ok (.blocked target)) ∨ ∃ fault, result = .error fault

/-- The round trip of a packet, for packets sent and replies of certain kinds. -/
def RoundTrip (sent replied : Bytes → Prop) (flowTable : FlowState) (packet : Bytes)
    (proxyPort : UInt16) (now : Instant) : Prop :=
  (∀ original proxyAddress reflectedPort, sent packet →
    (rewriteTcpPacket packet true proxyPort flowTable now).result =
      .ok (.redirected original proxyAddress reflectedPort) →
    ∃ tuple, tcpTuple? packet = some tuple ∧
      OnlyTupleChanged packet (rewriteTcpPacket packet true proxyPort flowTable now).packet ∧
      tcpTuple? (rewriteTcpPacket packet true proxyPort flowTable now).packet =
        some ⟨proxyAddress, reflectedPort, proxyAddress, proxyPort⟩ ∧
      ∀ reply replyNow, replied reply →
        tcpTuple? reply = some ⟨proxyAddress, proxyPort, proxyAddress, reflectedPort⟩ →
        (∃ originalInterface, (rewriteTcpPacket reply true proxyPort
          (rewriteTcpPacket packet true proxyPort flowTable now).flowTable replyNow).result =
            .ok (.restored original originalInterface)) ∧
        tcpTuple? (rewriteTcpPacket reply true proxyPort
          (rewriteTcpPacket packet true proxyPort flowTable now).flowTable replyNow).packet =
            some tuple.swap) ∧
  (PacketDirection.Untouched (rewriteTcpPacket packet true proxyPort flowTable now).result →
    (rewriteTcpPacket packet true proxyPort flowTable now).packet = packet)

/-! ### Parsing a packet again -/

/-- What the TCP walker reads of a packet up to an offset. -/
structure SameChain (first second : Bytes) (start stop : Nat) : Prop where
  length : second.length = first.length
  bytes : ∀ index, start ≤ index → index < stop → second[index]? = first[index]?

variable {offset : Nat} {fragmentKey : Option FragmentKey} {chain : TcpChainPosition}

section Chains

variable {packet written : Bytes} {source destination newSource newDestination : Octets 16}
  {outbound : Bool}

theorem tcpChainStep_done
    (done : tcpChainStep packet source destination outbound chain =
      .ok (.inr (.inr (offset, fragmentKey)))) :
    chain.position.nextHeader = tcpProtocol ∧ offset = chain.position.offset ∧
      fragmentKey = chain.fragmentKey := by
  unfold tcpChainStep at done
  dsimp only at done
  split at done
  · rename_i isTcp
    cases done
    exact ⟨isTcp, rfl, rfl⟩
  split at done
  · simp only [bind_eq_ok] at done
    obtain ⟨_, _, _, _, _, _, impossible⟩ := done
    cases impossible
  split at done
  · simp only [bind_eq_ok] at done
    obtain ⟨_, _, _, _, _, _, _, _, done⟩ := done
    split at done
    · cases done
    · simp only [bind_eq_ok] at done
      obtain ⟨_, _, impossible⟩ := done
      cases impossible
  · cases done

theorem tcpChain_monotone
    (loops : LoopsTo (tcpChainStep packet source destination outbound) chain
      (.inr (offset, fragmentKey))) : chain.position.offset ≤ offset := by
  generalize found : (.inr (offset, fragmentKey) : FragmentKey ⊕ Nat × Option FragmentKey) = value
    at loops
  induction loops with
  | done result =>
    subst found
    exact (tcpChainStep_done result).2.1.ge
  | next result _ ih =>
    have advances := (tcpChainStep_next result).1
    have rest := ih found
    omega

/-- The walker takes the same turn over a packet with other addresses. -/
theorem tcpChainStep_same {chain other after : TcpChainPosition}
    (step : tcpChainStep packet source destination outbound chain = .ok (.inl after))
    (same : SameChain packet written chain.position.offset after.position.offset)
    (position : other.position = chain.position)
    (fragmentKey : other.fragmentKey.isNone = chain.fragmentKey.isNone) :
    ∃ next, tcpChainStep written newSource newDestination outbound other = .ok (.inl next) ∧
      next.position = after.position ∧ next.fragmentKey.isNone = after.fragmentKey.isNone := by
  have advances := (tcpChainStep_next step).1
  have read : ∀ index, chain.position.offset ≤ index → index < chain.position.offset + 8 →
      written[index]? = packet[index]? := fun index above below => same.bytes index above (by omega)
  unfold tcpChainStep at step ⊢
  dsimp only at step ⊢
  rw [position]
  split at step
  · cases step
  rename_i notTcp
  rw [if_neg notTcp]
  split at step
  · simp only [bind_eq_ok, ensureExtensionBytes_eq_ok, skipExtension_eq_ok] at step ⊢
    obtain ⟨_, inside, reached, ⟨nextHeader, lengthOctet, first, second, rfl⟩, _, bounded,
      result⟩ := step
    cases result
    rw [same.length]
    refine ⟨{ other with position := ⟨nextHeader, _⟩ },
      ⟨(), inside, _, ⟨nextHeader, lengthOctet, ?_, ?_, rfl⟩,
      (), bounded, rfl⟩, rfl, fragmentKey⟩
    · rw [read _ (by omega) (by omega), first]
    · rw [read _ (by omega) (by omega), second]
  · split at step
    · rename_i isFragment
      rw [if_pos isFragment]
      simp only [bind_eq_ok, ensureExtensionBytes_eq_ok] at step
      obtain ⟨_, inside, fragment, fragmentRead, identification, identificationRead, protocol,
        protocolRead, step⟩ := step
      have ensured : ensureExtensionBytes written chain.position.offset 8 = .ok () := by
        rw [ensureExtensionBytes_eq_ok, same.length]
        exact inside
      rw [ensured, ok_bind,
        u16At_congr fun index above below => read index (by omega) (by omega), fragmentRead,
        ok_bind, u32At_congr fun index above below => read index (by omega) (by omega),
        identificationRead, ok_bind, byteAt_congr (read _ (by omega) (by omega)),
        protocolRead, ok_bind]
      split at step
      · cases step
      rename_i firstFragment
      simp only [bind_eq_ok, raiseIf_eq_ok] at step
      obtain ⟨_, bounded, result⟩ := step
      cases result
      rw [if_neg firstFragment, same.length, raiseIf_of_not _ bounded]
      refine ⟨_, rfl, rfl, ?_⟩
      split <;> rfl
    · cases step

theorem tcpChain_same {chain other : TcpChainPosition}
    (loops : LoopsTo (tcpChainStep packet source destination outbound) chain
      (.inr (offset, none))) (same : SameChain packet written chain.position.offset offset)
    (position : other.position = chain.position)
    (fragmentKey : other.fragmentKey.isNone = chain.fragmentKey.isNone) :
    LoopsTo (tcpChainStep written newSource newDestination outbound) other
      (.inr (offset, none)) := by
  generalize found : (.inr (offset, none) : FragmentKey ⊕ Nat × Option FragmentKey) = value at loops
  induction loops generalizing other with
  | done result =>
    subst found
    obtain ⟨isTcp, rfl, none⟩ := tcpChainStep_done result
    refine .done ?_
    unfold tcpChainStep
    rw [position, if_pos isTcp]
    rw [← none, Option.isNone_none, Option.isNone_iff_eq_none] at fragmentKey
    rw [fragmentKey]
    rfl
  | next result rest ih =>
    have monotone := tcpChain_monotone (found ▸ rest)
    have advances := (tcpChainStep_next result).1
    obtain ⟨next, step, nextPosition, nextKey⟩ := tcpChainStep_same result
      ⟨same.length, fun index above below => same.bytes index above (by omega)⟩ position
      fragmentKey
    refine .next step (ih ?_ nextPosition nextKey found)
    exact ⟨same.length, fun index above below => same.bytes index (by omega) below⟩

end Chains

/-- The fields of a parsed packet stand apart, in order and within the packet. -/
structure Layout (packet : Bytes) (parsed : ParsedTcpPacket) : Prop where
  version : 0 < parsed.sourceAddressOffset
  source : parsed.sourceAddressOffset + parsed.sourceAddress.octets.length ≤
    parsed.destinationAddressOffset
  destination : parsed.destinationAddressOffset + parsed.destinationAddress.octets.length ≤
    parsed.tcpOffset
  transport : parsed.tcpOffset + 20 ≤ packet.length

/-- A packet was written with another tuple. -/
structure Written (packet : Bytes) (parsed : ParsedTcpPacket) (source destination : IpAddr)
    (sourcePort destinationPort : UInt16) (written : Bytes) : Prop where
  length : written.length = packet.length
  frame : ∀ index, ¬parsed.InTuple index → written[index]? = packet[index]?
  source : (written.drop parsed.sourceAddressOffset).take source.octets.length = source.octets
  destination : (written.drop parsed.destinationAddressOffset).take destination.octets.length =
    destination.octets
  sourcePort : readPort written parsed.tcpOffset = .ok sourcePort
  destinationPort : readPort written (parsed.tcpOffset + 2) = .ok destinationPort

/-- A port read where it was spliced. -/
theorem readPort_of_bytes {packet : Bytes} {port : UInt16}
    (bytes : ∀ index < 2, packet[offset + index]? = (u16ToBe port)[index]?) :
    readPort packet offset = .ok port := by
  refine u16At_eq_ok.mpr ⟨_, _, ?_, ?_, (u16FromBe_toBe port).symm⟩
  · exact bytes 0 (by omega)
  · exact bytes 1 (by omega)

theorem writeTuple_spec {packet : Bytes} {parsed : ParsedTcpPacket} (layout : Layout packet parsed)
    {source destination : IpAddr} (sourceFamily : source.isIpv4 = parsed.sourceAddress.isIpv4)
    (destinationFamily : destination.isIpv4 = parsed.destinationAddress.isIpv4)
    (sourcePort destinationPort : UInt16) :
    ∃ written, writeTuple packet parsed source destination sourcePort destinationPort =
        .ok written ∧
      Written packet parsed source destination sourcePort destinationPort written := by
  have sourceWidth : source.octets.length = parsed.sourceAddress.octets.length := by
    rw [length_octets, length_octets, sourceFamily]
  have destinationWidth : destination.octets.length = parsed.destinationAddress.octets.length := by
    rw [length_octets, length_octets, destinationFamily]
  obtain ⟨_, sourceEnd, destinationEnd, transportEnd⟩ := layout
  have sourceFits : parsed.sourceAddressOffset + source.octets.length ≤ packet.length := by omega
  have firstLength := length_splice sourceFits
  have destinationFits : parsed.destinationAddressOffset + destination.octets.length ≤
      (splice packet parsed.sourceAddressOffset source.octets).length := by omega
  have secondLength := length_splice destinationFits
  have sourcePortFits : parsed.tcpOffset + (u16ToBe sourcePort).length ≤
      (splice (splice packet parsed.sourceAddressOffset source.octets)
        parsed.destinationAddressOffset destination.octets).length := by
    rw [length_u16ToBe]
    omega
  have thirdLength := length_splice sourcePortFits
  have destinationPortFits : parsed.tcpOffset + 2 + (u16ToBe destinationPort).length ≤
      (splice (splice (splice packet parsed.sourceAddressOffset source.octets)
        parsed.destinationAddressOffset destination.octets) parsed.tcpOffset
        (u16ToBe sourcePort)).length := by
    rw [length_u16ToBe]
    omega
  have lookup := fun index =>
    (getElem?_splice destinationPortFits index).trans (by
      rw [getElem?_splice sourcePortFits, getElem?_splice destinationFits,
        getElem?_splice sourceFits])
  simp only [length_u16ToBe] at lookup
  refine ⟨splice (splice (splice (splice packet parsed.sourceAddressOffset source.octets)
    parsed.destinationAddressOffset destination.octets) parsed.tcpOffset (u16ToBe sourcePort))
    (parsed.tcpOffset + 2) (u16ToBe destinationPort), ?_, ⟨?_, ?_, ?_, ?_, ?_, ?_⟩⟩
  · unfold writeTuple writeIpAddress writePort
    rw [overwrite_of_fits sourceFits, ok_bind, overwrite_of_fits destinationFits,
      ok_bind, overwrite_of_fits sourcePortFits, ok_bind,
      overwrite_of_fits destinationPortFits]
  · rw [length_splice destinationPortFits]
    omega
  · grind [ParsedTcpPacket.InTuple]
  · refine take_drop_eq fun index inside => ?_
    simp (disch := omega) [lookup, if_neg, if_pos]
  · grind [take_drop_eq]
  · grind [readPort_of_bytes]
  grind [readPort_of_bytes]

/-! ### Packets of either family -/

section Families

variable {packet written : Bytes} {outbound : Bool} {parsed : ParsedTcpPacket}
  {source destination : IpAddr} {sourcePort destinationPort : UInt16}

theorem ipVersion_congr (same : written[0]? = packet[0]?) : ipVersion written = ipVersion packet := by
  cases packet with
  | nil =>
    simp_all
  | cons first rest =>
    cases written with
    | nil => cases same
    | cons other others =>
      cases same
      rfl

/-- What an accepted IPv4 packet is read as, with all the reads. -/
theorem parseIpv4TcpPacket_tcp (accepted : parseIpv4TcpPacket packet outbound = .ok (.tcp parsed)) :
    ∃ first fragment identification sourceOctets destinationOctets,
      packet[0]? = some first ∧ packet[9]? = some tcpProtocol ∧
      (u16At packet 6 : Outcome PacketRewriteError UInt16) = .ok fragment ∧
      (u16At packet 4 : Outcome PacketRewriteError UInt16) = .ok identification ∧
      fragment &&& 0x1fff = 0 ∧ 20 ≤ (first &&& 0x0f).toNat * 4 ∧
      (first &&& 0x0f).toNat * 4 + 20 ≤ packet.length ∧
      (parsed.fragmentKey = none → fragment &&& 0x2000 = 0) ∧
      parsed.sourceAddress = .v4 sourceOctets ∧ parsed.destinationAddress = .v4 destinationOctets ∧
      parsed.sourceAddressOffset = 12 ∧ parsed.destinationAddressOffset = 16 ∧
      parsed.tcpOffset = (first &&& 0x0f).toNat * 4 := by
  unfold parseIpv4TcpPacket at accepted
  simp only [bind_eq_ok, raiseIf_eq_ok, byteAt_eq_ok, not_or, not_not] at accepted
  obtain ⟨_, long, first, firstRead, _, ⟨wide, inside⟩, _, protocolRead, _, rfl, fragment,
    fragmentRead, sourceOctets, sourceRead, destinationOctets, destinationRead, identification,
    identificationRead, accepted⟩ := accepted
  split at accepted
  · cases accepted
  · simp only [bind_eq_ok, raiseIf_eq_ok] at accepted
    obtain ⟨_, transport, result⟩ := accepted
    cases result
    simp_all

/-- What an accepted IPv6 packet is read as. -/
theorem parseIpv6TcpPacket_tcp (accepted : parseIpv6TcpPacket packet outbound = .ok (.tcp parsed)) :
    ∃ nextHeader sourceOctets destinationOctets, packet[6]? = some nextHeader ∧
      LoopsTo (tcpChainStep packet sourceOctets destinationOctets outbound)
        ⟨⟨nextHeader, 40⟩, none⟩ (.inr (parsed.tcpOffset, parsed.fragmentKey)) ∧
      parsed.tcpOffset + 20 ≤ packet.length ∧
      parsed.sourceAddress = .v6 sourceOctets ∧ parsed.destinationAddress = .v6 destinationOctets ∧
      parsed.sourceAddressOffset = 8 ∧ parsed.destinationAddressOffset = 24 := by
  unfold parseIpv6TcpPacket at accepted
  simp only [bind_eq_ok, byteAt_eq_ok] at accepted
  obtain ⟨_, long, nextHeader, nextHeaderRead, sourceOctets, sourceRead, destinationOctets,
    destinationRead, found, loops, accepted⟩ := accepted
  cases found with
  | inl key => cases accepted
  | inr located =>
    simp only [bind_eq_ok, raiseIf_eq_ok, not_lt] at accepted
    obtain ⟨_, transport, result⟩ := accepted
    cases result
    exact ⟨nextHeader, sourceOctets, destinationOctets, nextHeaderRead,
      loopsTo_of_loop loops, transport, rfl, rfl, rfl, rfl⟩

/-- Both parsers lay the fields out in order. -/
theorem parsePacket_layout (accepted : parsePacket packet outbound = .ok (.tcp parsed)) :
    Layout packet parsed ∧ parsed.sourceAddress.isIpv4 = parsed.destinationAddress.isIpv4 := by
  obtain ⟨version, _, accepted⟩ := Outcome.bind_eq_ok.mp accepted
  split at accepted
  · obtain ⟨first, fragment, identification, sourceOctets, destinationOctets, _, _, _, _, _, wide,
      transport, _, source, destination, sourceOffset, destinationOffset, tcpOffset⟩ :=
      parseIpv4TcpPacket_tcp accepted
    refine ⟨⟨by omega, ?_, ?_, ?_⟩, ?_⟩
    · simp [source, sourceOffset, destinationOffset, IpAddr.octets]
    · rw [destination, destinationOffset, tcpOffset, IpAddr.octets, Octets.length_bytes]
      exact wide
    · omega
    · rw [source, destination]
      rfl
  · split at accepted
    · obtain ⟨nextHeader, sourceOctets, destinationOctets, _, loops, transport, source,
        destination, sourceOffset, destinationOffset⟩ := parseIpv6TcpPacket_tcp accepted
      have monotone := tcpChain_monotone loops
      refine ⟨⟨by omega, ?_, ?_, transport⟩, ?_⟩
      · simp [source, sourceOffset, destinationOffset, IpAddr.octets]
      · simpa [destination, destinationOffset, IpAddr.octets] using monotone
      · rw [source, destination]
        rfl
    · cases accepted

section

variable (rewritten : Written packet parsed source destination sourcePort destinationPort written)
include rewritten

theorem Written.ipv4 (accepted : parseIpv4TcpPacket packet outbound = .ok (.tcp parsed))
    (unfragmented : parsed.fragmentKey = none) (sourceFamily : source.isIpv4 = true)
    (destinationFamily : destination.isIpv4 = true) :
    parseIpv4TcpPacket written outbound =
      .ok (.tcp { parsed with sourceAddress := source, destinationAddress := destination }) := by
  obtain ⟨first, fragment, identification, sourceOctets, destinationOctets, firstRead, protocolRead,
    fragmentRead, identificationRead, atStart, wide, transport, last, oldSource, oldDestination,
    sourceOffset, destinationOffset, tcpOffset⟩ := parseIpv4TcpPacket_tcp accepted
  have read : ∀ index < 12, written[index]? = packet[index]? := by
    intro index below
    refine rewritten.frame index ?_
    rintro (⟨above, _⟩ | ⟨above, _⟩ | ⟨above, _⟩) <;> omega
  have length := rewritten.length
  obtain ⟨newSource, rfl⟩ := exists_v4 sourceFamily
  obtain ⟨newDestination, rfl⟩ := exists_v4 destinationFamily
  have sourceBytes : (written.drop 12).take 4 = newSource.bytes := by
    simpa [IpAddr.octets, sourceOffset] using rewritten.source
  have destinationBytes : (written.drop 16).take 4 = newDestination.bytes := by
    simpa [IpAddr.octets, destinationOffset] using rewritten.destination
  unfold parseIpv4TcpPacket
  simp only [bind_eq_ok, raiseIf_eq_ok, byteAt_eq_ok, not_or, not_lt, not_not]
  refine ⟨(), by omega, first, by rw [read 0 (by omega), firstRead], (), ⟨wide, by omega⟩,
    tcpProtocol, by rw [read 9 (by omega), protocolRead], (), rfl, fragment, ?_, newSource,
    octetsAt_eq_ok.mpr ⟨by omega, sourceBytes.symm⟩, newDestination,
    octetsAt_eq_ok.mpr ⟨by omega, destinationBytes.symm⟩, identification, ?_, ?_⟩
  · grind [u16At_congr]
  · grind [u16At_congr]
  simp_all

theorem Written.ipv6 (accepted : parseIpv6TcpPacket packet outbound = .ok (.tcp parsed))
    (unfragmented : parsed.fragmentKey = none) (sourceFamily : source.isIpv4 = false)
    (destinationFamily : destination.isIpv4 = false) :
    parseIpv6TcpPacket written outbound =
      .ok (.tcp { parsed with sourceAddress := source, destinationAddress := destination }) := by
  obtain ⟨nextHeader, sourceOctets, destinationOctets, nextHeaderRead, loops, transport, oldSource,
    oldDestination, sourceOffset, destinationOffset⟩ := parseIpv6TcpPacket_tcp accepted
  have monotone : 40 ≤ parsed.tcpOffset := tcpChain_monotone loops
  have length := rewritten.length
  have sourceWidth : parsed.sourceAddress.octets.length = 16 := by simp [oldSource, IpAddr.octets]
  have destinationWidth : parsed.destinationAddress.octets.length = 16 := by
    simp [oldDestination, IpAddr.octets]
  have read : ∀ index, index < 8 ∨ 40 ≤ index → index < parsed.tcpOffset →
      written[index]? = packet[index]? := by
    intro index outside below
    refine rewritten.frame index ?_
    rintro (⟨_, _⟩ | ⟨_, _⟩ | ⟨_, _⟩) <;> omega
  obtain ⟨newSource, rfl⟩ := exists_v6 sourceFamily
  obtain ⟨newDestination, rfl⟩ := exists_v6 destinationFamily
  have sourceBytes : (written.drop 8).take 16 = newSource.bytes := by
    simpa [IpAddr.octets, sourceOffset] using rewritten.source
  have destinationBytes : (written.drop 24).take 16 = newDestination.bytes := by
    simpa [IpAddr.octets, destinationOffset] using rewritten.destination
  have walked : LoopsTo (tcpChainStep written newSource newDestination outbound)
      ⟨⟨nextHeader, 40⟩, none⟩ (.inr (parsed.tcpOffset, none)) := by
    rw [unfragmented] at loops
    exact tcpChain_same loops
      ⟨length, fun index above below => read index (.inr above) below⟩ rfl rfl
  unfold parseIpv6TcpPacket
  simp only [bind_eq_ok, raiseIf_eq_ok, byteAt_eq_ok]
  refine ⟨(), by omega, nextHeader, by rw [read 6 (by omega) (by omega), nextHeaderRead],
    newSource, octetsAt_eq_ok.mpr ⟨by omega, sourceBytes.symm⟩, newDestination,
    octetsAt_eq_ok.mpr ⟨by omega, destinationBytes.symm⟩, _,
    (loop_eq_ok_iff (safe_tcpChain written _ _ _ _)).mpr walked, ?_⟩
  simp_all

/-- An unfragmented packet that was written with another tuple of its family is read with
that tuple. -/
theorem Written.parsePacket
    (accepted : ProcessCapture.parsePacket packet outbound = .ok (.tcp parsed))
    (unfragmented : parsed.fragmentKey = none)
    (sourceFamily : source.isIpv4 = parsed.sourceAddress.isIpv4)
    (destinationFamily : destination.isIpv4 = parsed.destinationAddress.isIpv4) :
    ProcessCapture.parsePacket written outbound =
      .ok (.tcp { parsed with sourceAddress := source, destinationAddress := destination }) := by
  obtain ⟨⟨version, sourceEnd, destinationEnd, _⟩, _⟩ := parsePacket_layout accepted
  have sameVersion : ipVersion written = ipVersion packet := by
    refine ipVersion_congr (rewritten.frame 0 ?_)
    rintro (⟨_, _⟩ | ⟨_, _⟩ | ⟨_, _⟩) <;> omega
  unfold ProcessCapture.parsePacket at accepted ⊢
  rw [sameVersion]
  obtain ⟨version, versionRead, accepted⟩ := Outcome.bind_eq_ok.mp accepted
  rw [versionRead, ok_bind]
  split at accepted
  · rename_i isIpv4
    obtain ⟨_, _, _, _, _, _, _, _, _, _, _, _, _, oldSource, oldDestination, _⟩ :=
      parseIpv4TcpPacket_tcp accepted
    rw [if_pos isIpv4]
    exact rewritten.ipv4 accepted unfragmented (by rw [sourceFamily, oldSource]; rfl)
      (by rw [destinationFamily, oldDestination]; rfl)
  · rename_i notIpv4
    split at accepted
    · rename_i isIpv6
      obtain ⟨_, _, _, _, _, _, oldSource, oldDestination, _⟩ := parseIpv6TcpPacket_tcp accepted
      rw [if_neg notIpv4, if_pos isIpv6]
      exact rewritten.ipv6 accepted unfragmented (by rw [sourceFamily, oldSource]; rfl)
        (by rw [destinationFamily, oldDestination]; rfl)
    · cases accepted

end

end Families

/-! ### Lookups -/

theorem SocketAddr.of_eraseScope {socket : SocketAddr} {address : IpAddr} {port : UInt16}
    (same : socket.eraseScope = SocketAddr.new address port) :
    socket.ip = address ∧ socket.port = port := by
  cases socket with
  | v4 ip socketPort =>
    cases address with
    | v4 octets =>
      cases same
      exact ⟨rfl, rfl⟩
    | v6 octets => cases same
  | v6 ip socketPort flowinfo scopeId =>
    cases address with
    | v4 octets => cases same
    | v6 octets =>
      cases same
      exact ⟨rfl, rfl⟩

/-- The TCP flow that a lookup finds is routed, and its route leads back to it. -/
theorem Identified.outboundTarget {state : FlowState}
    (identified : Identified (· = tcpProtocol) state) {localAddress remoteAddress : IpAddr}
    {localPort remotePort : UInt16} {target : RewriteTarget}
    (found : (ProcessCapture.outboundTarget state localAddress localPort remoteAddress
      remotePort).1 = some target) :
    Routes target ⟨normalizeIpAddress localAddress, localPort, normalizeIpAddress remoteAddress,
        remotePort, tcpProtocol⟩
      ⟨target.proxyAddress, target.reflectedPort, target.proxyAddress, tcpProtocol⟩ ∧
    reflectedTarget (ProcessCapture.outboundTarget state localAddress localPort remoteAddress
      remotePort).2 target.proxyAddress target.reflectedPort target.proxyAddress = some target := by
  obtain ⟨tracked, present, rfl⟩ := outboundTransportTarget_found found
  have after : Identified (· = tcpProtocol) (ProcessCapture.outboundTarget state localAddress
      localPort remoteAddress remotePort).2 := by
    rcases outboundTransportTarget_effect state tcpProtocol localAddress localPort remoteAddress
      remotePort with same | ⟨wildcardKey, tracked, keys, reflectedKey, effect⟩
    · exact identified.of_sameIndex same
    · exact identified.of_promotion effect
  obtain ⟨keys, reflectedKey, owner, member⟩ := after.indexed.owned present
  obtain ⟨other, otherPresent, reflected, routes⟩ := after.routes owner member rfl
  cases present.symm.trans otherPresent
  have route := routes.route
  subst route
  refine ⟨routes, ?_⟩
  unfold reflectedTarget reflectedTransportTarget
  rw [routes.normalized]
  exact reflected

/-! ### Rewriting -/

/-- A packet is read with a tuple. -/
structure ReadsTuple (packet : Bytes) (parsed : ParsedTcpPacket) (tuple : TcpTuple) : Prop where
  accepted : parsePacket packet true = .ok (.tcp parsed)
  sourceAddress : parsed.sourceAddress = tuple.sourceAddress
  sourcePort : readPort packet parsed.tcpOffset = .ok tuple.sourcePort
  destinationAddress : parsed.destinationAddress = tuple.destinationAddress
  destinationPort : readPort packet (parsed.tcpOffset + 2) = .ok tuple.destinationPort

variable {packet : Bytes} {parsed : ParsedTcpPacket}

theorem parsedTcp?_eq_some :
    parsedTcp? packet = some parsed ↔ parsePacket packet true = .ok (.tcp parsed) := by
  unfold parsedTcp?
  grind

variable {tuple : TcpTuple}

theorem tcpTuple?_eq_some :
    tcpTuple? packet = some tuple ↔ ∃ parsed, ReadsTuple packet parsed tuple := by
  unfold tcpTuple?
  simp only [Option.bind_eq_some_iff, parsedTcp?_eq_some]
  refine exists_congr fun parsed => ?_
  constructor
  · rintro ⟨accepted, ports⟩
    split at ports
    · rename_i sourcePort destinationPort sourceRead destinationRead
      cases ports
      exact ⟨accepted, rfl, sourceRead, rfl, destinationRead⟩
    · cases ports
  · rintro ⟨accepted, source, sourceRead, destination, destinationRead⟩
    simp_all

theorem ReadsTuple.rewriteTcpPacket (reads : ReadsTuple packet parsed tuple) (proxyPort : UInt16)
    (flowTable : FlowState) (now : Instant) :
    ProcessCapture.rewriteTcpPacket packet true proxyPort flowTable now =
      rewriteParsed packet proxyPort flowTable now parsed tuple.sourcePort
        tuple.destinationPort := by
  unfold ProcessCapture.rewriteTcpPacket
  simp [reads.accepted, reads.sourcePort, reads.destinationPort]

/-- The tuple that a written packet is read with. -/
theorem Written.tcpTuple {written : Bytes} {parsed : ParsedTcpPacket} {source destination : IpAddr}
    {sourcePort destinationPort : UInt16}
    (rewritten : Written packet parsed source destination sourcePort destinationPort written)
    (accepted : ProcessCapture.parsePacket packet true = .ok (.tcp parsed))
    (unfragmented : parsed.fragmentKey = none)
    (sourceFamily : source.isIpv4 = parsed.sourceAddress.isIpv4)
    (destinationFamily : destination.isIpv4 = parsed.destinationAddress.isIpv4) :
    tcpTuple? written = some ⟨source, sourcePort, destination, destinationPort⟩ :=
  tcpTuple?_eq_some.2 ⟨_, rewritten.parsePacket accepted unfragmented sourceFamily
    destinationFamily, rfl, rewritten.sourcePort, rfl, rewritten.destinationPort⟩

section Selected

variable {packet : Bytes} {flowTable : FlowState} {now : Instant} {parsed : ParsedTcpPacket}
  {target : RewriteTarget} {source destination : IpAddr} {sourcePort destinationPort : UInt16}
  {direction : PacketDirection}

/-- A selected packet is written unless it is the first of several fragments. -/
theorem rewriteSelected_written (layout : Layout packet parsed)
    (unfragmented : parsed.fragmentKey = none)
    (sourceFamily : source.isIpv4 = parsed.sourceAddress.isIpv4)
    (destinationFamily : destination.isIpv4 = parsed.destinationAddress.isIpv4) :
    ∃ written, rewriteSelected packet flowTable now parsed target source destination sourcePort
        destinationPort direction = ⟨.ok direction, written, flowTable⟩ ∧
      Written packet parsed source destination sourcePort destinationPort written := by
  obtain ⟨written, result, rewritten⟩ := writeTuple_spec layout sourceFamily destinationFamily
    sourcePort destinationPort
  refine ⟨written, ?_, rewritten⟩
  unfold rewriteSelected
  rw [unfragmented, result]

/-- A direction that a selected packet is passed on in. -/
def PacketDirection.passes : PacketDirection → Bool
  | .redirected .. | .restored .. => true
  | _ => false

theorem rewriteSelected_unfragmented {passed : PacketDirection} (passes : passed.passes = true)
    (result : (rewriteSelected packet flowTable now parsed target source destination sourcePort
      destinationPort direction).result = .ok passed) :
    parsed.fragmentKey = none ∧ direction = passed := by
  unfold rewriteSelected at result
  split at result
  · cases result
    cases passes
  grind

theorem rewriteSelected_untouched (passes : direction.passes = true)
    (untouched : PacketDirection.Untouched (rewriteSelected packet flowTable now parsed target
      source destination sourcePort destinationPort direction).result) :
    (rewriteSelected packet flowTable now parsed target source destination sourcePort
      destinationPort direction).packet = packet := by
  unfold rewriteSelected at untouched ⊢
  split
  · rfl
  rename_i unfragmented
  rw [unfragmented] at untouched
  split
  · rename_i written result
    rw [result] at untouched
    rcases untouched with bypass | ⟨_, blocked⟩ | ⟨_, failed⟩
    · cases bypass
      cases passes
    · cases blocked
      cases passes
    · cases failed
  · rfl

end Selected

variable {packet : Bytes} {proxyPort : UInt16} {flowTable : FlowState} {now : Instant}

theorem rewriteTcpPacket_untouched (untouched : PacketDirection.Untouched
      (rewriteTcpPacket packet true proxyPort flowTable now).result) :
    (rewriteTcpPacket packet true proxyPort flowTable now).packet = packet := by
  unfold rewriteTcpPacket at untouched ⊢
  simp only [Bool.not_true, Bool.false_eq_true, if_false] at untouched ⊢
  split at untouched
  · rfl
  · rfl
  split at untouched
  · unfold rewriteParsed at untouched ⊢
    split at untouched
    · exact rewriteSelected_untouched rfl untouched
    · split at untouched
      · rfl
      · exact rewriteSelected_untouched rfl untouched
  · rfl
  · rfl

/-- A redirected packet belongs to a flow that the table knows. -/
theorem rewriteTcpPacket_redirected {original : OriginalTarget} {proxyAddress : IpAddr}
    {reflectedPort : UInt16}
    (redirected : (rewriteTcpPacket packet true proxyPort flowTable now).result =
      .ok (.redirected original proxyAddress reflectedPort)) :
    ∃ parsed tuple target, ReadsTuple packet parsed tuple ∧ parsed.fragmentKey = none ∧
      (outboundTarget flowTable tuple.sourceAddress tuple.sourcePort tuple.destinationAddress
        tuple.destinationPort).1 = some target ∧
      original = target.original ∧ proxyAddress = target.proxyAddress ∧
      reflectedPort = target.reflectedPort ∧
      rewriteTcpPacket packet true proxyPort flowTable now =
        rewriteSelected packet (outboundTarget flowTable tuple.sourceAddress tuple.sourcePort
          tuple.destinationAddress tuple.destinationPort).2 now parsed target target.proxyAddress
          target.proxyAddress target.reflectedPort proxyPort
          (.redirected target.original target.proxyAddress target.reflectedPort) := by
  unfold rewriteTcpPacket at redirected
  simp only [Bool.not_true, Bool.false_eq_true, if_false] at redirected
  split at redirected
  · cases redirected
  · grind
  rename_i parsed accepted
  split at redirected
  · rename_i sourcePort destinationPort sourceRead destinationRead
    have reads : ReadsTuple packet parsed
        ⟨parsed.sourceAddress, sourcePort, parsed.destinationAddress, destinationPort⟩ :=
      ⟨accepted, rfl, sourceRead, rfl, destinationRead⟩
    unfold rewriteParsed at redirected
    split at redirected
    · cases (rewriteSelected_unfragmented rfl redirected).2
    · split at redirected
      · cases redirected
      · obtain ⟨unfragmented, same⟩ := rewriteSelected_unfragmented rfl redirected
        grind [rewriteParsed, reads.rewriteTcpPacket]
  · cases redirected
  · cases redirected

/-- The reply to a redirected packet is restored. -/
theorem rewriteTcpPacket_restored {reply : Bytes} {parsed : ParsedTcpPacket}
    {proxyPort : UInt16} {flowTable : FlowState} {now : Instant} {target : RewriteTarget}
    {outboundKey : OutboundKey} {reflectedKey : ReflectedKey}
    (routes : Routes target outboundKey reflectedKey)
    (sameFamily : outboundKey.localAddress.isIpv4 = outboundKey.remoteAddress.isIpv4)
    (reflected : reflectedTarget flowTable target.proxyAddress target.reflectedPort
      target.proxyAddress = some target)
    (reads : ReadsTuple reply parsed
      ⟨target.proxyAddress, proxyPort, target.proxyAddress, target.reflectedPort⟩)
    (unfragmented : parsed.fragmentKey = none) :
    (rewriteTcpPacket reply true proxyPort flowTable now).result =
        .ok (.restored target.original target.originalInterface) ∧
      tcpTuple? (rewriteTcpPacket reply true proxyPort flowTable now).packet =
        some ⟨outboundKey.remoteAddress, outboundKey.remotePort, outboundKey.localAddress,
          outboundKey.localPort⟩ := by
  obtain ⟨layout, _⟩ := parsePacket_layout reads.accepted
  obtain ⟨ip, port⟩ := SocketAddr.of_eraseScope routes.remote
  have sourceFamily : target.original.address.ip.isIpv4 = parsed.sourceAddress.isIpv4 := by
    rw [ip, reads.sourceAddress, routes.family, sameFamily]
  have destinationFamily :
      target.originalLocalAddress.isIpv4 = parsed.destinationAddress.isIpv4 := by
    rw [routes.localAddress, reads.destinationAddress, routes.family]
  obtain ⟨written, result, rewritten⟩ := rewriteSelected_written layout unfragmented sourceFamily destinationFamily
  have whole : rewriteTcpPacket reply true proxyPort flowTable now =
      ⟨.ok (.restored target.original target.originalInterface), written, flowTable⟩ := by
    rw [reads.rewriteTcpPacket, ← result]
    unfold rewriteParsed
    rw [if_pos rfl, reads.sourceAddress, reads.destinationAddress, reflected]
  rw [whole]
  refine ⟨rfl, ?_⟩
  rw [rewritten.tcpTuple reads.accepted unfragmented sourceFamily destinationFamily, ip, port,
    routes.localAddress, routes.localPort]

/-- In every run in which the interface of a TCP flow is recorded through that flow, a packet
with no IPv4-mapped address makes the round trip, for replies in one piece. -/
theorem tcpRoundTrip_run (actions : List FlowAction)
    (guarded : flowMachine.Guarded (RecordsAlone (· = tcpProtocol)) FlowState.default actions)
    (packet : Bytes) (proxyPort : UInt16) (now : Instant) :
    RoundTrip Unmapped Unfragmented (flowMachine.run actions) packet proxyPort now := by
  refine ⟨?_, rewriteTcpPacket_untouched⟩
  intro original proxyAddress reflectedPort unmapped redirected
  obtain ⟨parsed, tuple, target, reads, unfragmented, found, rfl, rfl, rfl, whole⟩ :=
    rewriteTcpPacket_redirected redirected
  obtain ⟨routes, reflected⟩ := (identified_run guarded).outboundTarget found
  obtain ⟨layout, packetFamily⟩ := parsePacket_layout reads.accepted
  obtain ⟨sourceNormal, destinationNormal⟩ := unmapped parsed (parsedTcp?_eq_some.2 reads.accepted)
  rw [reads.sourceAddress] at sourceNormal
  rw [reads.destinationAddress] at destinationNormal
  rw [sourceNormal, destinationNormal] at routes
  have sourceFamily : target.proxyAddress.isIpv4 = parsed.sourceAddress.isIpv4 := by
    rw [routes.family, reads.sourceAddress]
  have destinationFamily : target.proxyAddress.isIpv4 = parsed.destinationAddress.isIpv4 :=
    sourceFamily.trans packetFamily
  obtain ⟨written, result, rewritten⟩ := rewriteSelected_written layout unfragmented sourceFamily destinationFamily
  rw [result] at whole
  rw [whole]
  refine ⟨tuple, tcpTuple?_eq_some.2 ⟨parsed, reads⟩,
    ⟨rewritten.length, parsed, parsedTcp?_eq_some.2 reads.accepted, rewritten.frame⟩,
    rewritten.tcpTuple reads.accepted unfragmented sourceFamily destinationFamily, ?_⟩
  intro reply replyNow whole replyTuple
  obtain ⟨replyParsed, replyReads⟩ := tcpTuple?_eq_some.1 replyTuple
  have sameFamily : tuple.sourceAddress.isIpv4 = tuple.destinationAddress.isIpv4 := by
    rw [← reads.sourceAddress, ← reads.destinationAddress, packetFamily]
  obtain ⟨restored, restoredTuple⟩ := rewriteTcpPacket_restored routes sameFamily reflected replyReads (whole replyParsed (parsedTcp?_eq_some.2 replyReads.accepted))
  exact ⟨⟨_, restored⟩, restoredTuple⟩

/-- A segment from `192.0.2.10:52100` to `198.51.100.20:443`. -/
def outgoingSegment : Bytes :=
  [0x45, 0, 0, 40, 0, 1, 0, 0, 64, 6, 0, 0, 192, 0, 2, 10, 198, 51, 100, 20,
    0xcb, 0x84, 0x01, 0xbb, 0, 0, 0, 1, 0, 0, 0, 0, 0x50, 0x02, 0, 0, 0, 0, 0, 0]

theorem tcpRoundTrip_promotedConnection :
    (rewriteTcpPacket outgoingSegment true 1080 (flowMachine.run promotedConnection) 0).result =
        .ok (.redirected ⟨4200, .v4 ⟨[198, 51, 100, 20], rfl⟩ 443⟩ localhostV4 49152) ∧
      RoundTrip Unmapped Unfragmented (flowMachine.run promotedConnection) outgoingSegment 1080 0 :=
  ⟨by decide, tcpRoundTrip_run promotedConnection (by decide) outgoingSegment 1080 0⟩

/-- The first fragment of a reply from port 1080 to the reflected port. -/
def fragmentedReply : Bytes :=
  [0x45, 0, 0, 40, 0, 1, 0x20, 0, 64, 6, 0, 0, 127, 0, 0, 1, 127, 0, 0, 1,
    0x04, 0x38, 0xc0, 0x00, 0, 0, 0, 1, 0, 0, 0, 0, 0x50, 0x12, 0, 0, 0, 0, 0, 0]

/-- A reply that arrives in fragments is blocked. -/
theorem not_roundTrip_fragmentedReply :
    ¬RoundTrip (fun _ => True) (fun _ => True) (flowMachine.run promotedConnection)
      outgoingSegment 1080 0 := by
  rintro ⟨trip, _⟩
  obtain ⟨tuple, _, _, _, replies⟩ := trip ⟨4200, .v4 ⟨[198, 51, 100, 20], rfl⟩ 443⟩
    localhostV4 49152 trivial (by decide)
  obtain ⟨⟨_, restored⟩, _⟩ := replies fragmentedReply 0 trivial (by decide)
  have blocked : (rewriteTcpPacket fragmentedReply true 1080
      (rewriteTcpPacket outgoingSegment true 1080 (flowMachine.run promotedConnection) 0).flowTable
      0).result = .ok (.blocked ⟨4200, .v4 ⟨[198, 51, 100, 20], rfl⟩ 443⟩) := by
    decide
  cases blocked.symm.trans restored

end SprakCapture.ProcessCapture
