import SprakCapture.ProcessCapture.ConnectionReset
import SprakCapture.ProcessCapture.PacketRewrite
import SprakCapture.ProcessCapture.UdpFragment

/-!
# The packet parsers agree

Each parser walks the headers of a packet on its own. This module shows that no
parser leaves the packet or loops without end, and that a packet which one parser
accepts is read the same way by the others.
-/

namespace SprakCapture.ProcessCapture

open Data Data.Outcome ConnectionReset
open Outcome (bind_eq_ok)

/-! ### Turns of the walkers -/

theorem ensureExtensionBytes_eq_ok {packet : Bytes} {offset length : Nat} {nothing : Unit} :
    ensureExtensionBytes packet offset length = .ok nothing ↔ offset + length ≤ packet.length := by
  unfold ensureExtensionBytes
  rw [raiseIf_eq_ok, not_lt]

theorem ensureBytes_eq_ok {packetEnd offset length : Nat} {nothing : Unit} :
    ensureBytes packetEnd offset length = .ok nothing ↔ offset + length ≤ packetEnd := by
  unfold ensureBytes
  rw [raiseIf_eq_ok, not_not]

variable {offset : Nat}

section Steps

variable {packet : Bytes} {position next : ChainPosition} {bound : Nat}

/-- The two ways a walker that skips up to a bound can go on. -/
theorem skipsWithin_iff {kind : ExtensionKind}
    (found : extensionKind? position.nextHeader = some kind) :
    SkipsWithin packet bound position next ↔
      Skips kind packet position.offset next ∧ next.offset ≤ bound := by
  constructor
  · rintro ⟨⟨_, _, skips⟩, bounded⟩
    simp_all
  · rintro ⟨skips, bounded⟩
    exact ⟨⟨kind, found, skips⟩, bounded⟩

theorem not_skipsWithin (absent : extensionKind? position.nextHeader = none) :
    ¬SkipsWithin packet bound position next := by
  rintro ⟨⟨_, found, _⟩, _⟩
  rw [absent] at found
  cases found

theorem udpChainStep_next :
    udpChainStep packet bound position = .ok (.inl next) ↔
      position.nextHeader ≠ udpProtocol ∧ SkipsWithin packet bound position next := by
  unfold udpChainStep
  split
  · rename_i isUdp
    simp [isUdp, pure, Except.pure]
  rename_i notUdp
  rw [and_iff_right notUdp]
  split
  · rename_i kind found
    rw [skipsWithin_iff found]
    exact skipTurn_eq_ok fun _ skips _ => ensureExtensionBytes_eq_ok.2 skips.inside
  · rename_i absent
    refine iff_of_false ?_ (not_skipsWithin absent)
    split <;> simp [pure, Except.pure]

theorem udpChainStep_done {result : Option Nat}
    (done : udpChainStep packet bound position = .ok (.inr result)) :
    (position.nextHeader = udpProtocol ∧ result = some position.offset) ∨ result = none := by
  unfold udpChainStep at done
  split at done
  · rename_i isUdp
    cases done
    exact .inl ⟨isUdp, rfl⟩
  split at done
  · exact absurd done skipTurn_ne_done
  · split at done
    · cases done
      exact .inr rfl
    · cases done

variable {outbound : Bool} {source destination : Octets 16}

theorem fragmentChainStep_next :
    fragmentChainStep packet outbound bound source destination position = .ok (.inl next) ↔
      position.nextHeader ≠ udpProtocol ∧ SkipsWithin packet bound position next := by
  unfold fragmentChainStep
  split
  · rename_i isUdp
    simp [isUdp, pure, Except.pure]
  rename_i notUdp
  rw [and_iff_right notUdp]
  split
  · rename_i kind found
    rw [skipsWithin_iff found]
    refine skipTurn_eq_ok fun _ skips _ => ensureBytes_eq_ok.2 ?_
    have advances := skips.advances
    omega
  · rename_i absent
    refine iff_of_false ?_ (not_skipsWithin absent)
    split
    · simp only [bind_eq_ok]
      rintro ⟨_, _, ⟨⟩⟩
    · simp

theorem postFragmentStep_next :
    postFragmentStep packet position = .ok (.inl next) ↔
      position.nextHeader ≠ udpProtocol ∧ SkipsWithin packet packet.length position next := by
  unfold postFragmentStep
  split
  · rename_i isUdp
    simp [isUdp, pure, Except.pure]
  rename_i notUdp
  rw [and_iff_right notUdp]
  split
  · rename_i kind found
    rw [skipsWithin_iff found]
    exact skipTurn_eq_ok fun _ skips _ => ensureBytes_eq_ok.2 skips.inside
  · rename_i absent
    exact iff_of_false (by simp) (not_skipsWithin absent)

theorem tcpChainStep_next {chain after : TcpChainPosition}
    (step : tcpChainStep packet source destination outbound chain = .ok (.inl after)) :
    chain.position.offset + 8 ≤ after.position.offset ∧ after.position.offset ≤ packet.length := by
  unfold tcpChainStep at step
  dsimp only at step
  split at step
  · cases step
  split at step
  · simp only [bind_eq_ok, skipExtension_eq_ok, raiseIf_eq_ok, not_lt] at step
    obtain ⟨_, _, _, skips, _, bounded, result⟩ := step
    cases result
    exact ⟨skips.advances, bounded⟩
  · split at step
    · simp only [bind_eq_ok] at step
      obtain ⟨_, _, _, _, _, _, _, _, step⟩ := step
      split at step
      · cases step
      · simp only [bind_eq_ok, raiseIf_eq_ok, not_lt] at step
        obtain ⟨_, bounded, result⟩ := step
        cases result
        exact ⟨le_refl _, bounded⟩
    · cases step

theorem tcpChainStep_skip {chain : TcpChainPosition}
    (notTcp : chain.position.nextHeader ≠ tcpProtocol)
    (skips : SkipsWithin packet packet.length chain.position next) :
    tcpChainStep packet source destination outbound chain =
      .ok (.inl { chain with position := next }) := by
  obtain ⟨⟨_, found, skips⟩, bounded⟩ := skips
  unfold tcpChainStep
  rw [if_neg notTcp, found]
  simp only [bind_eq_ok, ensureExtensionBytes_eq_ok, skipExtension_eq_ok, raiseIf_eq_ok, not_lt]
  exact ⟨(), skips.inside, next, skips, (), bounded, rfl⟩

theorem resetChainStep_next (step : chainStep packet position = .ok (.inl next)) :
    position.nextHeader ≠ tcpProtocol ∧
      ∃ kind, extensionKind? position.nextHeader = some kind ∧
        Skips kind packet position.offset next := by
  unfold chainStep at step
  split at step
  · cases step
  rename_i notTcp
  split at step
  · rename_i kind found
    simp only [getRange, bind_eq_ok, byteAt_eq_ok, slice_eq_ok] at step
    obtain ⟨_, ⟨_, _, _, _, rfl⟩, nextHeader, first, lengthOctet, second, result⟩ := step
    cases result
    refine ⟨notTcp, kind, found, nextHeader, lengthOctet, ?_, ?_, rfl⟩
    · rw [← first]
      simp
    · rw [← second]
      simp
  · cases step

theorem resetChainStep_done (done : chainStep packet position = .ok (.inr offset)) :
    position.nextHeader = tcpProtocol ∧ offset = position.offset := by
  unfold chainStep at done
  split at done
  · rename_i isTcp
    cases done
    exact ⟨isTcp, rfl⟩
  split at done
  · simp only [bind_eq_ok] at done
    obtain ⟨_, _, _, _, _, _, impossible⟩ := done
    cases impossible
  · cases done

end Steps

/-! ### Safety -/

variable (packet : Bytes)

theorem safe_ensureExtensionBytes (offset length : Nat) :
    (ensureExtensionBytes packet offset length).Safe :=
  safe_raiseIf _ _

theorem safe_ensureBytes (packetEnd offset length : Nat) :
    (ensureBytes packetEnd offset length).Safe :=
  safe_raiseIf _ _

theorem safe_udpChainStep (ipEnd : Nat) (position : ChainPosition) :
    (udpChainStep packet ipEnd position).Safe := by
  refine safe_ite (fun _ => safe_pure _) fun _ => ?_
  split
  · exact safe_skipTurn (safe_ensureExtensionBytes _ _ _) ensureExtensionBytes_eq_ok.1
  · exact safe_ite (fun _ => safe_pure _) fun _ => safe_raise _

/-- A walker whose turns advance within a bound comes to an end. -/
theorem safe_chain {Error Value Walker : Type} {body : Walker → Outcome Error (Walker ⊕ Value)}
    {offset : Walker → Nat} {bound turns : Nat} {walker : Walker}
    (bodySafe : ∀ walker, (body walker).Safe)
    (advances : ∀ walker next, body walker = .ok (.inl next) →
      offset walker + 2 ≤ bound ∧ offset walker < offset next)
    (enough : bound < turns) : (loop body turns walker).Safe := by
  refine @safe_loop _ _ _ _ (fun _ => True) (fun walker => bound - offset walker)
    (fun walker _ => bodySafe walker) ?_ _ _ trivial (by omega)
  intro walker next _ step
  obtain ⟨_, _⟩ := advances walker next step
  exact ⟨trivial, by omega⟩

theorem SkipsWithin.progress {packet : Bytes} {bound : Nat} {position next : ChainPosition}
    (step : SkipsWithin packet bound position next) :
    position.offset + 2 ≤ bound ∧ position.offset < next.offset := by
  have advances := step.advances
  have bounded := step.bounded
  omega

theorem safe_udpChain {packet : Bytes} {ipEnd : Nat} (captured : ipEnd ≤ packet.length)
    (position : ChainPosition) :
    (loop (udpChainStep packet ipEnd) (packet.length + 1) position).Safe :=
  safe_chain (safe_udpChainStep packet _) (fun _ _ step => (udpChainStep_next.1 step).2.progress) (by omega)

theorem safe_locateIpv6Udp : (locateIpv6Udp packet).Safe := by
  refine safe_guard fun _ => ?_
  refine safe_bind (safe_u16At (by omega)) fun _ _ => ?_
  refine safe_guard fun _ => safe_guard fun _ => ?_
  refine safe_bind (safe_byteAt (by omega)) fun _ _ => ?_
  refine safe_bind (safe_udpChain (by omega) _) fun located _ => ?_
  cases located with
  | none => exact safe_pure _
  | some =>
    exact safe_bind (safe_octetsAt (by omega)) fun _ _ =>
      safe_bind (safe_octetsAt (by omega)) fun _ _ => safe_pure _

theorem safe_locateIpv4Udp : (locateIpv4Udp packet).Safe := by
  refine safe_guard fun _ => ?_
  refine safe_bind (safe_byteAt (by omega)) fun _ _ => ?_
  refine safe_guard fun _ => ?_
  refine safe_bind (safe_byteAt (by omega)) fun _ _ => ?_
  refine safe_guard fun _ => ?_
  refine safe_bind (safe_u16At (by omega)) fun _ _ => ?_
  refine safe_guard fun _ => ?_
  refine safe_bind (safe_u16At (by omega)) fun _ _ => ?_
  refine safe_ite (fun _ => safe_pure _) fun _ => ?_
  exact safe_bind (safe_octetsAt (by omega)) fun _ _ =>
    safe_bind (safe_octetsAt (by omega)) fun _ _ => safe_pure _

variable {location : UdpLocation}

/-- A located IP packet lies within the captured bytes. -/
theorem locateIpv4Udp_bounded {packet : Bytes}
    (located : locateIpv4Udp packet = .ok (some location)) : location.ipEnd ≤ packet.length := by
  unfold locateIpv4Udp at located
  simp only [bind_eq_ok, raiseIf_eq_ok] at located
  obtain ⟨_, _, _, _, _, _, _, _, _, _, _, _, _, _, _, _, located⟩ := located
  split at located
  · cases located
  simp only [bind_eq_ok] at located
  obtain ⟨_, _, _, _, result⟩ := located
  cases result
  dsimp only
  omega

theorem locateIpv6Udp_bounded {packet : Bytes}
    (located : locateIpv6Udp packet = .ok (some location)) : location.ipEnd ≤ packet.length := by
  unfold locateIpv6Udp at located
  simp only [bind_eq_ok, raiseIf_eq_ok] at located
  obtain ⟨_, _, _, _, _, _, _, _, _, _, found, _, located⟩ := located
  cases found with
  | none => cases located
  | some =>
    simp only [bind_eq_ok] at located
    obtain ⟨_, _, _, _, result⟩ := located
    cases result
    dsimp only
    omega

theorem safe_ipVersion : (ipVersion packet).Safe := by
  unfold ipVersion
  split
  · exact safe_raise _
  · exact safe_ok _

theorem safe_readUdpHeader {packet : Bytes} (bounded : location.ipEnd ≤ packet.length) :
    (readUdpHeader packet location).Safe := by
  refine safe_guard fun _ => ?_
  refine safe_bind (safe_u16At (by omega)) fun _ _ => ?_
  refine safe_guard fun _ => ?_
  exact safe_bind (safe_u16At (by omega)) fun _ _ =>
    safe_bind (safe_u16At (by omega)) fun _ _ => safe_pure _

theorem safe_locateUdp (version : UInt8) : (locateUdp packet version).Safe :=
  safe_ite (fun _ => safe_locateIpv4Udp packet) fun _ =>
    safe_ite (fun _ => safe_locateIpv6Udp packet) fun _ => safe_raise _

theorem locateUdp_bounded {packet : Bytes} {version : UInt8}
    (located : locateUdp packet version = .ok (some location)) :
    location.ipEnd ≤ packet.length := by
  unfold locateUdp at located
  split at located
  · exact locateIpv4Udp_bounded located
  · split at located
    · exact locateIpv6Udp_bounded located
    · cases located

theorem safe_parseUdpPacket : (parseUdpPacket packet).Safe := by
  refine safe_bind (safe_ipVersion packet) fun version _ => ?_
  refine safe_bind (safe_locateUdp packet version) fun found located => ?_
  cases found with
  | none => exact safe_pure _
  | some =>
    exact safe_bind (safe_readUdpHeader (locateUdp_bounded located)) fun _ _ =>
      safe_pure _

variable (source destination : Octets 16)

theorem safe_tcpChainStep (outbound : Bool) (chain : TcpChainPosition) :
    (tcpChainStep packet source destination outbound chain).Safe := by
  refine safe_ite (fun _ => safe_pure _) fun _ => ?_
  split
  · refine safe_bind (safe_ensureExtensionBytes _ _ _) fun _ passed => ?_
    have inside := ensureExtensionBytes_eq_ok.1 passed
    exact safe_bind (safe_skipExtension inside) fun _ _ =>
      safe_guard fun _ => safe_pure _
  · refine safe_ite (fun _ => ?_) fun _ => safe_raise _
    refine safe_bind (safe_ensureExtensionBytes _ _ _) fun _ passed => ?_
    have inside := ensureExtensionBytes_eq_ok.1 passed
    refine safe_bind (safe_u16At (by omega)) fun _ _ => ?_
    refine safe_bind (safe_u32At (by omega)) fun _ _ => ?_
    refine safe_bind (safe_byteAt (by omega)) fun _ _ => ?_
    refine safe_ite (fun _ => safe_pure _) fun _ => ?_
    exact safe_guard fun _ => safe_pure _

theorem safe_tcpChain (outbound : Bool) (chain : TcpChainPosition) :
    (loop (tcpChainStep packet source destination outbound) (packet.length + 1) chain).Safe := by
  refine @safe_chain _ _ _ _ (fun chain => chain.position.offset) packet.length _ _
    (safe_tcpChainStep packet source destination outbound) (fun chain _ step => ?_) (by omega)
  obtain ⟨_, _⟩ := tcpChainStep_next step
  omega

variable (outbound : Bool)

theorem safe_parseIpv6TcpPacket : (parseIpv6TcpPacket packet outbound).Safe := by
  refine safe_guard fun _ => ?_
  refine safe_bind (safe_byteAt (by omega)) fun _ _ => ?_
  refine safe_bind (safe_octetsAt (by omega)) fun source _ => ?_
  refine safe_bind (safe_octetsAt (by omega)) fun destination _ => ?_
  refine safe_bind (safe_tcpChain packet source destination outbound _) fun _ _ => ?_
  split
  · exact safe_pure _
  · exact safe_guard fun _ => safe_pure _

theorem safe_parseIpv4TcpPacket : (parseIpv4TcpPacket packet outbound).Safe := by
  refine safe_guard fun _ => ?_
  refine safe_bind (safe_byteAt (by omega)) fun _ _ => ?_
  refine safe_guard fun _ => ?_
  refine safe_bind (safe_byteAt (by omega)) fun _ _ => ?_
  refine safe_guard fun _ => ?_
  refine safe_bind (safe_u16At (by omega)) fun _ _ => ?_
  refine safe_bind (safe_octetsAt (by omega)) fun _ _ => ?_
  refine safe_bind (safe_octetsAt (by omega)) fun _ _ => ?_
  refine safe_bind (safe_u16At (by omega)) fun _ _ => ?_
  refine safe_ite (fun _ => safe_pure _) fun _ => ?_
  exact safe_guard fun _ => safe_pure _

theorem safe_parsePacket : (parsePacket packet outbound).Safe := by
  refine safe_bind (safe_ipVersion packet) fun _ _ => ?_
  exact safe_ite (fun _ => safe_parseIpv4TcpPacket packet outbound) fun _ =>
    safe_ite (fun _ => safe_parseIpv6TcpPacket packet outbound) fun _ =>
      safe_raise _

theorem safe_fragmentPart (key : UdpFragmentKey) (payloadOffset : Nat) (moreFragments : Bool)
    (fragmentPayload : Bytes) (packetBytes : Nat) (udpHeaderOffset : Option Nat)
    (packetPayloadOffset : Nat) :
    (fragmentPart key payloadOffset moreFragments fragmentPayload packetBytes udpHeaderOffset
      packetPayloadOffset).Safe := by
  refine safe_guard fun _ => ?_
  cases udpHeaderOffset with
  | none => exact safe_pure _
  | some =>
    refine safe_guard fun _ => ?_
    exact safe_bind (safe_u16At (by omega)) fun _ _ =>
      safe_bind (safe_u16At (by omega)) fun _ _ => safe_pure _

theorem safe_inspectIpv4Fragment : (inspectIpv4Fragment packet outbound).Safe := by
  refine safe_guard fun _ => ?_
  refine safe_bind (safe_byteAt (by omega)) fun _ _ => ?_
  refine safe_bind (safe_u16At (by omega)) fun _ _ => ?_
  refine safe_guard fun _ => ?_
  refine safe_bind (safe_byteAt (by omega)) fun _ _ => ?_
  refine safe_guard fun _ => ?_
  refine safe_bind (safe_u16At (by omega)) fun _ _ => ?_
  refine safe_ite (fun _ => safe_pure _) fun _ => ?_
  refine safe_bind (safe_octetsAt (by omega)) fun _ _ => ?_
  refine safe_bind (safe_octetsAt (by omega)) fun _ _ => ?_
  refine safe_bind (safe_u16At (by omega)) fun _ _ => ?_
  refine safe_bind (safe_slice (by omega) (by omega)) fun _ _ => ?_
  exact safe_fragmentPart _ _ _ _ _ _ _

variable {packetEnd : Nat} (payloadOffset : Nat) (payload : Bytes)

theorem safe_postFragmentStep (position : ChainPosition) :
    (postFragmentStep payload position).Safe := by
  refine safe_ite (fun _ => safe_pure _) fun _ => ?_
  split
  · exact safe_skipTurn (safe_ensureBytes _ _ _) ensureBytes_eq_ok.1
  · exact safe_raise _

variable (fragmentPayload : Bytes) (nextHeader : UInt8)

theorem safe_locatePostFragmentUdpHeader :
    (locatePostFragmentUdpHeader payload nextHeader).Safe := by
  refine @safe_chain _ _ _ _ ChainPosition.offset payload.length _ _
    (safe_postFragmentStep payload) (fun _ _ step => ?_) (by omega)
  exact (postFragmentStep_next.1 step).2.progress

theorem safe_firstUdpHeaderOffset :
    (firstUdpHeaderOffset payloadOffset fragmentPayload nextHeader).Safe :=
  safe_ite
    (fun _ => safe_bind (safe_locatePostFragmentUdpHeader fragmentPayload nextHeader)
      fun _ _ => safe_pure _)
    fun _ => safe_pure _

theorem safe_inspectFragmentHeader (captured : packetEnd ≤ packet.length)
    (source destination : Octets 16) (offset : Nat) :
    (inspectFragmentHeader packet outbound packetEnd source destination offset).Safe := by
  refine safe_bind (safe_ensureBytes _ _ _) fun _ passed => ?_
  have inside := ensureBytes_eq_ok.1 passed
  refine safe_bind (safe_u16At (by omega)) fun _ _ => ?_
  refine safe_bind (safe_slice (by omega) captured) fun _ _ => ?_
  refine safe_bind (safe_byteAt (by omega)) fun _ _ => ?_
  refine safe_bind (safe_firstUdpHeaderOffset _ _ _) fun _ _ => ?_
  refine safe_bind (safe_u32At (by omega)) fun _ _ => ?_
  exact safe_fragmentPart _ _ _ _ _ _ _

theorem safe_fragmentChain (captured : packetEnd ≤ packet.length) (source destination : Octets 16)
    (position : ChainPosition) :
    (loop (fragmentChainStep packet outbound packetEnd source destination)
      (packet.length + 1) position).Safe := by
  refine safe_chain (fun position => ?_) (fun position _ step => (fragmentChainStep_next.1 step).2.progress) (by omega)
  refine safe_ite (fun _ => safe_pure _) fun _ => ?_
  split
  · refine safe_skipTurn (safe_ensureBytes _ _ _) fun passed => ?_
    have inside := ensureBytes_eq_ok.1 passed
    omega
  · refine safe_ite (fun _ => ?_) fun _ => safe_raise _
    exact safe_bind (safe_inspectFragmentHeader packet outbound captured _ _ _)
      fun _ _ => safe_pure _

theorem safe_inspectIpv6Fragment : (inspectIpv6Fragment packet outbound).Safe := by
  refine safe_guard fun _ => ?_
  refine safe_bind (safe_u16At (by omega)) fun _ _ => ?_
  refine safe_guard fun _ => safe_guard fun _ => ?_
  refine safe_bind (safe_octetsAt (by omega)) fun _ _ => ?_
  refine safe_bind (safe_octetsAt (by omega)) fun _ _ => ?_
  refine safe_bind (safe_byteAt (by omega)) fun _ _ => ?_
  grind [safe_fragmentChain]

theorem safe_inspectUdpFragment : (inspectUdpFragment packet outbound).Safe := by
  unfold inspectUdpFragment
  split
  · exact safe_raise _
  · exact safe_ite (fun _ => safe_inspectIpv4Fragment _ outbound) fun _ =>
      safe_ite (fun _ => safe_inspectIpv6Fragment _ outbound) fun _ =>
        safe_raise _

variable {start stop : Nat}

theorem safe_getRange {packet : Bytes} (ordered : start ≤ stop) :
    (getRange packet start stop).Safe :=
  safe_guard fun _ => safe_slice ordered (by omega)

theorem getRange_eq_ok {packet : Bytes} {range : Bytes} :
    getRange packet start stop = .ok range ↔
      start ≤ stop ∧ stop ≤ packet.length ∧ range = (packet.drop start).take (stop - start) := by
  unfold getRange
  simp only [bind_eq_ok, slice_eq_ok]
  simp_all

theorem length_of_getRange {packet range : Bytes} (read : getRange packet start stop = .ok range) :
    range.length = stop - start := by
  obtain ⟨_, _, rfl⟩ := getRange_eq_ok.1 read
  rw [List.length_take, List.length_drop]
  omega

theorem safe_resetChainStep (position : ChainPosition) :
    (chainStep packet position).Safe := by
  refine safe_ite (fun _ => safe_pure _) fun _ => ?_
  split
  · refine safe_bind (safe_getRange (by omega)) fun _ read => ?_
    have width := length_of_getRange read
    exact safe_bind (safe_byteAt (by omega)) fun _ _ =>
      safe_bind (safe_byteAt (by omega)) fun _ _ => safe_pure _
  · exact safe_raise _

theorem safe_resetTcpOffset {packet : Bytes} (long : 40 ≤ packet.length) :
    (tcpOffset packet).Safe := by
  refine safe_bind (safe_byteAt (by omega)) fun _ _ => ?_
  refine @safe_chain _ _ _ _ ChainPosition.offset packet.length _ _ (safe_resetChainStep packet)
    (fun _ _ step => ?_) (by omega)
  obtain ⟨_, _, _, skips⟩ := resetChainStep_next step
  have inside := skips.inside
  have advances := skips.advances
  omega

theorem safe_resetParser : (ConnectionReset.parseIpv6TcpPacket packet).Safe := by
  refine safe_guard fun short => ?_
  have long : 40 ≤ packet.length := by
    simpa [ipv6HeaderBytes] using short
  refine safe_bind (safe_byteAt (by omega)) fun _ _ => ?_
  refine safe_guard fun _ => ?_
  refine safe_bind (safe_octetsAt (by omega)) fun _ _ => ?_
  refine safe_bind (safe_octetsAt (by omega)) fun _ _ => ?_
  refine safe_bind (safe_resetTcpOffset long) fun _ _ => ?_
  refine safe_bind (safe_getRange (by omega)) fun tcp read => ?_
  have width : tcp.length = 20 := by
    rw [length_of_getRange read, tcpHeaderBytes]
    omega
  refine safe_bind (safe_byteAt (by omega)) fun _ _ => ?_
  refine safe_guard fun _ => ?_
  exact safe_bind (safe_u16At (by omega)) fun _ _ =>
    safe_bind (safe_u16At (by omega)) fun _ _ =>
      safe_bind (safe_u32At (by omega)) fun _ _ =>
        safe_bind (safe_u32At (by omega)) fun _ _ => safe_pure _

/-! ### Agreement -/

variable {position : ChainPosition}

/-- A whole UDP chain is a whole chain for the fragment walker. -/
theorem fragmentChain_of_udpChain {packet : Bytes} {ipEnd udpOffset : Nat}
    (loops : LoopsTo (udpChainStep packet ipEnd) position (some udpOffset))
    (outbound : Bool) (source destination : Octets 16) :
    LoopsTo (fragmentChainStep packet outbound ipEnd source destination) position .whole := by
  generalize found : some udpOffset = result at loops
  induction loops with
  | done result =>
    subst found
    rcases udpChainStep_done result with ⟨isUdp, _⟩ | impossible
    · refine .done ?_
      unfold fragmentChainStep
      rw [if_pos isUdp]
      rfl
    · cases impossible
  | next result _ ih =>
    exact .next (fragmentChainStep_next.2 (udpChainStep_next.1 result)) (ih found)

theorem inspectIpv6Fragment_of_locate {packet : Bytes}
    (located : locateIpv6Udp packet = .ok (some location)) (outbound : Bool) :
    inspectIpv6Fragment packet outbound = .ok .whole := by
  unfold locateIpv6Udp at located
  simp only [bind_eq_ok, raiseIf_eq_ok] at located
  obtain ⟨_, long, payloadLength, lengthRead, _, notJumbo, _, declared, nextHeader, headerRead,
    found, chain, located⟩ := located
  cases found with
  | none => cases located
  | some =>
    simp only [bind_eq_ok] at located
    obtain ⟨source, sourceRead, destination, destinationRead, _⟩ := located
    unfold inspectIpv6Fragment
    simp only [bind_eq_ok, raiseIf_eq_ok]
    refine ⟨(), long, payloadLength, u16At_eq_ok.mpr (u16At_eq_ok.mp lengthRead), (), notJumbo,
      (), declared, source, octetsAt_eq_ok.mpr (octetsAt_eq_ok.mp sourceRead), destination,
      octetsAt_eq_ok.mpr (octetsAt_eq_ok.mp destinationRead), nextHeader,
      byteAt_eq_ok.mpr (byteAt_eq_ok.mp headerRead), ?_⟩
    rw [loop_eq_ok_iff (safe_fragmentChain packet outbound (by omega) _ _ _)]
    exact fragmentChain_of_udpChain (loopsTo_of_loop chain) outbound source destination

/-- Without fragment bits a packet neither starts nor continues a group. -/
theorem fragmentBits_eq_zero {fragment : UInt16} (unfragmented : fragment &&& 0x3fff = 0) :
    fragment &&& 0x1fff = 0 ∧ fragment &&& 0x2000 = 0 := by
  have offset : fragment &&& 0x1fff = (fragment &&& 0x3fff) &&& 0x1fff := by
    rw [UInt16.and_assoc]
    rfl
  have flag : fragment &&& 0x2000 = (fragment &&& 0x3fff) &&& 0x2000 := by
    rw [UInt16.and_assoc]
    rfl
  rw [offset, flag, unfragmented]
  exact ⟨rfl, rfl⟩

theorem inspectIpv4Fragment_of_locate {packet : Bytes}
    (located : locateIpv4Udp packet = .ok (some location)) (outbound : Bool) :
    inspectIpv4Fragment packet outbound = .ok .whole := by
  unfold locateIpv4Udp at located
  simp only [bind_eq_ok, raiseIf_eq_ok] at located
  obtain ⟨_, long, first, firstRead, _, _, protocol, protocolRead, _, isUdp, totalLength,
    lengthRead, _, _, fragment, fragmentRead, located⟩ := located
  split at located
  · cases located
  rename_i unfragmented
  obtain ⟨offset, flag⟩ := fragmentBits_eq_zero (not_not.mp unfragmented)
  unfold inspectIpv4Fragment
  simp only [bind_eq_ok, raiseIf_eq_ok]
  refine ⟨(), long, first, byteAt_eq_ok.mpr (byteAt_eq_ok.mp firstRead), totalLength,
    u16At_eq_ok.mpr (u16At_eq_ok.mp lengthRead), (), by omega, protocol,
    byteAt_eq_ok.mpr (byteAt_eq_ok.mp protocolRead), (), isUdp, fragment,
    u16At_eq_ok.mpr (u16At_eq_ok.mp fragmentRead), ?_⟩
  rw [offset, flag]
  rfl

variable {observed : ObservedUdpPacket}

/-- A whole UDP packet is whole for the fragment inspection too. -/
theorem inspectUdpFragment_of_parse {packet : Bytes}
    (parsed : parseUdpPacket packet = .ok (some observed)) (outbound : Bool) :
    inspectUdpFragment packet outbound = .ok .whole := by
  unfold parseUdpPacket at parsed
  simp only [bind_eq_ok] at parsed
  obtain ⟨_, versionRead, found, located, rest⟩ := parsed
  cases found with
  | none => cases rest
  | some =>
    cases packet with
    | nil => cases versionRead
    | cons =>
      cases versionRead
      unfold locateUdp at located
      unfold inspectUdpFragment
      split at located
      · grind [inspectIpv4Fragment_of_locate]
      · split at located
        · grind [inspectIpv6Fragment_of_locate]
        · cases located

theorem parseUdpPacket_range {packet : Bytes}
    (parsed : parseUdpPacket packet = .ok (some observed)) :
    8 ≤ observed.payloadOffset ∧ observed.payloadOffset ≤ observed.payloadEnd ∧
      observed.payloadEnd ≤ packet.length := by
  unfold parseUdpPacket at parsed
  simp only [bind_eq_ok] at parsed
  obtain ⟨_, _, found, located, rest⟩ := parsed
  cases found with
  | none => cases rest
  | some =>
    have bounded := locateUdp_bounded located
    unfold readUdpHeader at rest
    simp only [bind_eq_ok, raiseIf_eq_ok] at rest
    obtain ⟨_, ⟨_, _, _, _, _, _, _, _, _, _, result⟩, equal⟩ := rest
    cases result
    cases equal
    dsimp only
    omega

theorem resetChain_monotone {packet : Bytes} (loops : LoopsTo (chainStep packet) position offset) :
    position.offset ≤ offset := by
  induction loops with
  | done result => exact (resetChainStep_done result).2.ge
  | next result =>
    obtain ⟨_, _, _, skips⟩ := resetChainStep_next result
    have advances := skips.advances
    omega

/-- A chain that the reset parser walks is walked alike by the rewriting parser. -/
theorem tcpChain_of_resetChain {packet : Bytes} (loops : LoopsTo (chainStep packet) position offset)
    (inside : offset ≤ packet.length) (source destination : Octets 16) (outbound : Bool) :
    LoopsTo (tcpChainStep packet source destination outbound) ⟨position, none⟩
      (.inr (offset, none)) := by
  induction loops with
  | done result =>
    obtain ⟨isTcp, rfl⟩ := resetChainStep_done result
    refine .done ?_
    unfold tcpChainStep
    rw [if_pos isTcp]
    rfl
  | next result rest ih =>
    obtain ⟨notTcp, kind, found, skips⟩ := resetChainStep_next result
    have bounded := resetChain_monotone rest
    exact .next (tcpChainStep_skip notTcp ⟨⟨kind, found, skips⟩, by omega⟩) (ih inside)

/-- A packet the reset parser accepts is an unfragmented TCP packet for the rewriting
parser, with the same addresses and the same TCP offset. -/
theorem parseIpv6TcpPacket_of_reset {packet : Bytes} {parsed : ParsedIpv6TcpPacket}
    (accepted : ConnectionReset.parseIpv6TcpPacket packet = .ok parsed) (outbound : Bool) :
    ∃ offset, tcpOffset packet = .ok offset ∧
      parseIpv6TcpPacket packet outbound = .ok (.tcp
        { sourceAddress := .v6 parsed.sourceAddress
          destinationAddress := .v6 parsed.destinationAddress
          sourceAddressOffset := 8
          destinationAddressOffset := 24
          tcpOffset := offset
          fragmentKey := none }) := by
  unfold ConnectionReset.parseIpv6TcpPacket at accepted
  simp only [bind_eq_ok, raiseIf_eq_ok] at accepted
  obtain ⟨_, long, _, _, _, _, source, sourceRead, destination, destinationRead, offset, walked,
    tcp, tcpRead, _, _, _, _, _, _, _, _, _, _, _, _, result⟩ := accepted
  cases result
  refine ⟨offset, walked, ?_⟩
  obtain ⟨_, inside, _⟩ := getRange_eq_ok.1 tcpRead
  unfold tcpHeaderBytes at inside
  unfold tcpOffset at walked
  simp only [bind_eq_ok] at walked
  obtain ⟨nextHeader, headerRead, chain⟩ := walked
  have loops := tcpChain_of_resetChain (loopsTo_of_loop chain) (by omega) source
    destination outbound
  unfold parseIpv6TcpPacket
  simp only [bind_eq_ok, raiseIf_eq_ok]
  refine ⟨(), long, nextHeader, byteAt_eq_ok.mpr (byteAt_eq_ok.mp headerRead), source,
    octetsAt_eq_ok.mpr (octetsAt_eq_ok.mp sourceRead), destination,
    octetsAt_eq_ok.mpr (octetsAt_eq_ok.mp destinationRead), .inr (offset, none), ?_, ?_⟩
  · rw [loop_eq_ok_iff (safe_tcpChain packet source destination outbound _)]
    exact loops
  · simp only [bind_eq_ok, raiseIf_eq_ok]
    exact ⟨(), by omega, rfl⟩

/-- On every byte string the parsers stay within the packet and come to an end; a whole
UDP packet is never a fragment as well, and its payload is a range of the packet; and what
the reset parser accepts, the rewriting parser reads as the same unfragmented TCP packet. -/
theorem packetParsers_agree (packet : Bytes) :
    (∀ observed, parseUdpPacket packet = .ok (some observed) →
      (∀ outbound, inspectUdpFragment packet outbound = .ok .whole) ∧
        observed.payloadOffset ≤ observed.payloadEnd ∧ observed.payloadEnd ≤ packet.length) ∧
    (∀ parsed, ConnectionReset.parseIpv6TcpPacket packet = .ok parsed →
      ∃ offset, ConnectionReset.tcpOffset packet = .ok offset ∧
        ∀ outbound, parseIpv6TcpPacket packet outbound = .ok (.tcp
          { sourceAddress := .v6 parsed.sourceAddress
            destinationAddress := .v6 parsed.destinationAddress
            sourceAddressOffset := 8
            destinationAddressOffset := 24
            tcpOffset := offset
            fragmentKey := none })) ∧
    (∀ outbound, (parsePacket packet outbound).Safe ∧ (inspectUdpFragment packet outbound).Safe) ∧
    (parseUdpPacket packet).Safe ∧ (ConnectionReset.parseIpv6TcpPacket packet).Safe := by
  refine ⟨?_, ?_, ?_, safe_parseUdpPacket packet, safe_resetParser packet⟩
  · intro observed parsed
    exact ⟨inspectUdpFragment_of_parse parsed, (parseUdpPacket_range parsed).2⟩
  · intro parsed accepted
    obtain ⟨offset, walked, _⟩ := parseIpv6TcpPacket_of_reset accepted true
    refine ⟨offset, walked, fun outbound => ?_⟩
    obtain ⟨_, otherWalked, read⟩ := parseIpv6TcpPacket_of_reset accepted outbound
    rw [walked] at otherWalked
    cases otherWalked
    exact read
  · intro outbound
    exact ⟨safe_parsePacket packet outbound, safe_inspectUdpFragment packet outbound⟩

end SprakCapture.ProcessCapture
