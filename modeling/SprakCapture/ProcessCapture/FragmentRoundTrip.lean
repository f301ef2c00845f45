import SprakCapture.ProcessCapture.FragmentRewrite

/-!
# Round trip of rewritten datagrams

The packets that are sent for a shortened datagram are read again as that datagram:
its fragments reassemble to the new payload in whatever order they arrive. Where an
IPv4 datagram shrinks into its first fragment, the packets that are sent are no
fragments any more, and each of them holds the whole datagram.
-/

namespace SprakCapture.ProcessCapture

open Data List UdpFragmentAssembler FragmentPacket FragmentHead Datagram Cut
open FragmentPacket (fits_rewritten cut_rewritten)
open Outcome (ok_bind)

/-! ### The new fragments -/

theorem Datagram.length_fragmentable_withPayload (datagram : Datagram) (payload : Bytes)
    (checksum : UInt16) (shorter : payload.length ≤ datagram.udp.payload.length) :
    (datagram.withPayload payload checksum shorter).fragmentable.length =
      datagram.envelope.chain.length + 8 + payload.length := by
  have length := (datagram.udp.withPayload payload checksum shorter).length_encode
  grind [UdpDatagram.withPayload, fragmentable, withPayload]

theorem Fragmentation.length_flatten {datagram : Datagram} (fragmentation : Fragmentation datagram) :
    fragmentation.pieces.flatten.length = datagram.envelope.chain.length + 8 +
      datagram.udp.payload.length + datagram.udp.surplus.length := by
  rw [fragmentation.whole, fragmentable, length_append, UdpDatagram.length_encode]
  omega

/-- The first fragment of an IPv4 datagram has room for the whole new datagram. -/
def Fragmentation.ShrinksToFirst {datagram : Datagram} (fragmentation : Fragmentation datagram)
    (payload : Bytes) : Prop :=
  datagram.envelope.isIpv4 = true ∧
    ∀ cut ∈ fragmentation.cuts, cut.offset = 0 → 8 + payload.length ≤ cut.content.length

section

variable {datagram : Datagram} {payload : Bytes} {checksum : UInt16}

theorem Fragmentation.recut_long (fragmentation : Fragmentation datagram)
    (shorter : payload.length ≤ datagram.udp.payload.length) :
    (datagram.withPayload payload checksum shorter).fragmentable.length ≤
      fragmentation.pieces.flatten.length := by
  rw [length_fragmentable_withPayload, fragmentation.length_flatten]
  omega

/-- The new datagram, cut where the old one was cut. -/
def Fragmentation.recut (fragmentation : Fragmentation datagram) (checksum : UInt16)
    (shorter : payload.length ≤ datagram.udp.payload.length)
    (divided : ¬fragmentation.ShrinksToFirst payload) :
    Fragmentation (datagram.withPayload payload checksum shorter) where
  identification := fragmentation.identification
  pieces := Data.recut (datagram.withPayload payload checksum shorter).fragmentable
    fragmentation.pieces
  whole := flatten_recut (fragmentation.recut_long shorter)
  nonempty := recut_nonempty fragmentation.nonempty
  aligned := by
    intro cut member more
    obtain ⟨old, oldMember, reached, rfl⟩ :=
      (mem_cuts_recut (fragmentation.recut_long shorter)).mp member
    obtain ⟨oldMore, length⟩ :=
      length_recut_of_more (fragmentation.recut_long shorter) oldMember more
    rw [length]
    exact fragmentation.aligned old oldMember oldMore
  headers := by
    intro cut member start
    obtain ⟨old, oldMember, reached, rfl⟩ :=
      (mem_cuts_recut (fragmentation.recut_long shorter)).mp member
    have headers := fragmentation.headers old oldMember start
    have length := datagram.length_fragmentable_withPayload payload checksum shorter
    have zero : old.offset = 0 := start
    change datagram.envelope.chain.length + 8 ≤ (take old.content.length (drop old.offset _)).length
    rw [zero, drop_zero, length_take]
    omega
  divided := by
    intro isIpv4
    have outgrown : ∃ cut ∈ fragmentation.cuts, cut.offset = 0 ∧
        cut.content.length < 8 + payload.length := by
      by_contra fits
      refine divided ⟨isIpv4, fun cut member start => ?_⟩
      by_contra long
      exact fits ⟨cut, member, start, Nat.not_le.mp long⟩
    obtain ⟨cut, member, start, _⟩ := outgrown
    have length := datagram.length_fragmentable_withPayload payload checksum shorter
    have found := (Data.mem_cuts_recut (fragmentation.recut_long shorter)).mpr
      ⟨cut, member, (by omega : cut.offset <
        (datagram.withPayload payload checksum shorter).fragmentable.length), rfl⟩
    refine two_le_length_of_more found (decide_eq_true ?_)
    change cut.offset + cut.content.length < _
    omega

variable {fragmentation : Fragmentation datagram}
  {shorter : payload.length ≤ datagram.udp.payload.length}
  {divided : ¬fragmentation.ShrinksToFirst payload} {packet : FragmentPacket}

theorem Fragmentation.mem_cuts_recut {cut : Cut UInt8} :
    cut ∈ (fragmentation.recut checksum shorter divided).cuts ↔
      ∃ old ∈ fragmentation.cuts,
        old.offset < (datagram.withPayload payload checksum shorter).fragmentable.length ∧
        cut = old.recut (datagram.withPayload payload checksum shorter).fragmentable :=
  Data.mem_cuts_recut (fragmentation.recut_long shorter)

/-- A rewritten fragment is a fragment of the new datagram. -/
theorem IsFragment.rewritten (isFragment : IsFragment fragmentation packet)
    (reached : packet.head.offset <
      (datagram.withPayload payload checksum shorter).fragmentable.length)
    (headerChecksum : UInt16) :
    IsFragment (fragmentation.recut checksum shorter divided)
      (packet.rewritten (datagram.withPayload payload checksum shorter).fragmentable
        headerChecksum) := by
  refine ⟨?_, ?_, ?_, fits_rewritten isFragment.fits _ _⟩
  · rw [cut_rewritten]
    exact Fragmentation.mem_cuts_recut.mpr ⟨packet.cut, isFragment.cut, reached, rfl⟩
  · intro outbound
    simp only [FragmentPacket.rewritten, key_withChecksum, key_withMore]
    exact isFragment.key outbound
  · simp only [FragmentPacket.rewritten, nextHeader_withChecksum, nextHeader_withMore]
    exact isFragment.nextHeader

end

/-! ### Sending -/

/-- An observation and the packet that is sent in its place. -/
structure Replacement where
  observation : PendingUdpObservation
  original : FragmentPacket
  packet : FragmentPacket

def Replacement.sent (replacement : Replacement) : PendingUdpObservation :=
  { replacement.observation with packet := replacement.packet.encode }

section

variable {datagram : Datagram} {fragmentation : Fragmentation datagram} {outbound : Bool}
  {observations : List PendingUdpObservation} {divert : Divert} {bytes : Bytes}

/-- A packet that new bytes reach is replaced, any other one is not. -/
def ReplacedBy (fragmentation : Fragmentation datagram) (outbound : Bool) (bytes : Bytes)
    (observation : PendingUdpObservation)
    (entry : PendingUdpObservation × Option PendingUdpObservation) : Prop :=
  entry.1 = observation ∧ ∃ packet, Captures fragmentation outbound observation packet ∧
    ((bytes.length ≤ packet.head.offset ∧ entry.2 = none) ∨
      (packet.head.offset < bytes.length ∧ ∃ checksum, entry.2 =
        some (Replacement.sent ⟨observation, packet, packet.rewritten bytes checksum⟩)))

/-- The replacements of a group by new bytes. -/
structure Replaces (fragmentation : Fragmentation datagram) (outbound : Bool) (bytes : Bytes)
    (observations : List PendingUdpObservation) (replacements : List Replacement) : Prop where
  observed : ∀ replacement ∈ replacements, replacement.observation ∈ observations
  captures : ∀ replacement ∈ replacements,
    Captures fragmentation outbound replacement.observation replacement.original
  reached : ∀ replacement ∈ replacements, replacement.original.head.offset < bytes.length
  rewritten : ∀ replacement ∈ replacements, ∃ checksum,
    replacement.packet = replacement.original.rewritten bytes checksum
  complete : ∀ observation ∈ observations, ∃ packet,
    Captures fragmentation outbound observation packet ∧
      (packet.head.offset < bytes.length → ∃ replacement ∈ replacements,
        replacement.original = packet)

open Replacement

theorem exists_replacements {entries : List (PendingUdpObservation × Option PendingUdpObservation)}
    (replaced : List.Forall₂ (ReplacedBy fragmentation outbound bytes) observations entries) :
    ∃ replacements, Replaces fragmentation outbound bytes observations replacements ∧
      (keptPackets entries).map Prod.snd = replacements.map sent := by
  induction replaced with
  | nil => exact ⟨[], ⟨by simp, by simp, by simp, by simp, by simp⟩, rfl⟩
  | @cons observation entry observations entries replacedBy _ ih =>
    obtain ⟨replacements, replaces, kept⟩ := ih
    obtain ⟨_, rewritten⟩ := entry
    obtain ⟨same, packet, captures, ⟨_, none⟩ | ⟨reached, checksum, some⟩⟩ := replacedBy
    · cases none
      refine ⟨replacements, ⟨?_, replaces.captures, replaces.reached, replaces.rewritten, ?_⟩, ?_⟩
      · exact fun replacement member => .tail _ (replaces.observed replacement member)
      · intro other member
        rcases mem_cons.mp member with rfl | member
        · grind
        · exact replaces.complete other member
      · simpa [keptPackets] using kept
    · cases some
      refine ⟨⟨observation, packet, packet.rewritten bytes checksum⟩ :: replacements,
        ⟨?_, ?_, ?_, ?_, ?_⟩, ?_⟩
      · simpa using fun replacement member => .inr (replaces.observed replacement member)
      · simpa using ⟨captures, replaces.captures⟩
      · simpa using ⟨reached, replaces.reached⟩
      · simpa using replaces.rewritten
      · intro other member
        rcases mem_cons.mp member with rfl | member
        · exact ⟨packet, captures, fun _ => ⟨_, mem_cons_self, rfl⟩⟩
        · obtain ⟨packet, captures, found⟩ := replaces.complete other member
          refine ⟨packet, captures, fun reached => ?_⟩
          obtain ⟨replacement, member, same⟩ := found reached
          exact ⟨replacement, .tail _ member, same⟩
      · simpa [keptPackets] using kept

/-- A complete group is rewritten packet by packet to the new datagram. -/
theorem CompleteGroup.rewriteFragments (group : CompleteGroup fragmentation outbound observations)
    (recalculates : divert.Recalculates) {payload : Bytes}
    (shorter : payload.length ≤ datagram.udp.payload.length) :
    ∃ checksum entries, ProcessCapture.rewriteFragments divert observations payload = .ok entries ∧
      List.Forall₂ (ReplacedBy fragmentation outbound
        (datagram.withPayload payload checksum shorter).fragmentable) observations entries := by
  have bounded := datagram.udp.bounded
  have family : datagram.envelope.source.isIpv4 = datagram.envelope.destination.isIpv4 := by
    cases datagram.envelope <;> rfl
  obtain ⟨checksum, summed⟩ := @udpChecksum_eq_ok _ _ _ family
    _ _ payload (by omega)
  refine ⟨datagram.wireChecksum checksum, ?_⟩
  unfold ProcessCapture.rewriteFragments
  rw [fragmentTransportMetadata_group group.fragments group.exists_first, Outcome.mapError_ok,
    ok_bind]
  rw [summed, ok_bind, group.buildFragmentableUdpBytes shorter, Outcome.mapError_ok]
  refine Outcome.exists_mapM_eq_ok fun observation member => ?_
  obtain ⟨packet, captures⟩ := group.fragments observation member
  by_cases reached : packet.head.offset < (datagram.withPayload payload
      (datagram.wireChecksum checksum) shorter).fragmentable.length
  · obtain ⟨headerChecksum, result⟩ := captures.rewriteFragmentPayload recalculates reached
    rw [result]
    exact ⟨_, rfl, rfl, packet, captures, .inr ⟨reached, headerChecksum, rfl⟩⟩
  · have behind := Nat.not_lt.mp reached
    rw [captures.rewriteFragmentPayload_tail behind]
    exact ⟨_, rfl, rfl, packet, captures, .inl ⟨behind, rfl⟩⟩

/-- A driver that takes every packet is sent all of them. -/
theorem sendRewritten_of_sends (sends : ∀ observation, divert.send observation = .ok ())
    (packets : List (PendingUdpObservation × PendingUdpObservation)) :
    sendRewritten divert packets = ⟨.ok (), packets.map fun entry => .reinjected entry.2⟩ := by
  induction packets with
  | nil => rfl
  | cons entry _ ih =>
    rw [sendRewritten, sends, ih]
    rfl

/-- Forwarding a payload that is not longer sends replacements for the group. -/
theorem CompleteGroup.applyFragmentDecision
    (group : CompleteGroup fragmentation outbound observations)
    (recalculates : divert.Recalculates) (sends : ∀ observation, divert.send observation = .ok ())
    {event : UdpDatagramEvent} (original : event.payload = datagram.udp.payload) {payload : Bytes}
    (shorter : payload.length ≤ datagram.udp.payload.length)
    (modifications : List UdpDatagramModification) :
    ∃ checksum replacements,
      (ProcessCapture.applyFragmentDecision divert observations event
        (.forward payload modifications)).result = .ok (some { event with payload, modifications }) ∧
      (ProcessCapture.applyFragmentDecision divert observations event
        (.forward payload modifications)).sent = replacements.map sent ∧
      Replaces fragmentation outbound
        (datagram.withPayload payload checksum shorter).fragmentable observations replacements := by
  have order := perm_insertionSort captureOrder observations
  obtain ⟨checksum, entries, rewritten, replaced⟩ :=
    (group.perm order).rewriteFragments recalculates shorter
  obtain ⟨replacements, replaces, _⟩ := exists_replacements replaced
  rw [ProcessCapture.applyFragmentDecision, if_neg (by rw [original]; omega), rewritten]
  dsimp only
  rw [sendRewritten_of_sends sends]
  refine ⟨checksum, replacements, rfl, ?_, ?_, replaces.captures, replaces.reached,
    replaces.rewritten, ?_⟩
  · have sentPackets : ∀ packets : List (PendingUdpObservation × PendingUdpObservation),
        (packets.map fun entry => Terminal.reinjected entry.2).filterMap Terminal.sent? =
          packets.map Prod.snd := by
      intro packets
      rw [filterMap_map]
      exact filterMap_eq_map.symm ▸ rfl
    have noTail : ((tailPackets entries).map Terminal.dropped).filterMap Terminal.sent? = [] := by
      rw [filterMap_map, filterMap_eq_nil_iff]
      exact fun _ _ => rfl
    grind [Settled.sent]
  · exact fun replacement member => order.mem_iff.mp (replaces.observed replacement member)
  · exact fun observation member => replaces.complete observation (order.mem_iff.mpr member)

end

/-! ### What the packets say -/

/-- The length of a packet by its IP header. -/
def declaredLength (packet : Bytes) : Outcome PacketRewriteError Nat := do
  let version ← ipVersion packet
  if version = 4 then do
    let totalLength ← u16At packet 2
    pure totalLength.toNat
  else do
    let payloadLength ← u16At packet 4
    pure (40 + payloadLength.toNat)

variable {packet : FragmentPacket}

theorem FragmentPacket.declaredLength_encode (fits : packet.Fits) (unpadded : packet.padding = []) :
    declaredLength packet.encode = .ok packet.encode.length := by
  obtain ⟨head, body, padding⟩ := packet
  cases unpadded
  unfold declaredLength
  cases head with
  | v4 header =>
    have version := (ipv4FirstOctet header.optionWords).1
    have reads := header.reads body.length (body ++ [])
    have declared := UInt16.toNat_ofNat_of_lt' (show header.length + body.length < 65536 from fits)
    have versionRead : ipVersion (mk (.v4 header) body []).encode = .ok 4 :=
      congrArg Except.ok version
    rw [versionRead, ok_bind, encode, FragmentHead.encode, reads.totalLength, ok_bind, declared]
    simp [pure, Except.pure]
  | v6 header before fragment =>
    have version := ipv6FirstOctet header.trafficClass
    have reads := header.reads (firstHeader before fragmentHeader)
      ((v6 header before fragment).counted + body.length)
      (encodeChain before fragmentHeader ++ (fragment.encode ++ (body ++ [])))
    have declared := UInt16.toNat_ofNat_of_lt'
      (show (v6 header before fragment).counted + body.length < 65536 from fits)
    have versionRead : ipVersion (mk (.v6 header before fragment) body []).encode =
        .ok 6 :=
      congrArg Except.ok version
    rw [versionRead, ok_bind, encode,
      FragmentHead.encode, append_assoc, append_assoc, reads.payloadLength,
      ok_bind, declared]
    simp [pure, Except.pure, counted, Nat.add_assoc]

/-- The packets that are sent stand where the original ones stood. Only the last of them says
that no more follow, all others hold whole units of eight octets, and the length field of each
is its length. -/
structure KeepsPlaces (observations : List PendingUdpObservation)
    (replacements : List Replacement) : Prop where
  original : ∀ replacement ∈ replacements, replacement.observation ∈ observations ∧
    replacement.observation.packet = replacement.original.encode
  offset : ∀ replacement ∈ replacements,
    replacement.packet.head.offset = replacement.original.head.offset
  last : ∀ replacement ∈ replacements, replacement.packet.head.moreFragments = false ↔
    ∀ other ∈ replacements, other.packet.head.offset ≤ replacement.packet.head.offset
  aligned : ∀ replacement ∈ replacements, replacement.packet.head.moreFragments = true →
    replacement.packet.body.length % 8 = 0
  length : ∀ replacement ∈ replacements,
    declaredLength replacement.packet.encode = .ok replacement.packet.encode.length

section

variable {datagram : Datagram} {fragmentation : Fragmentation datagram} {outbound : Bool}
  {observations : List PendingUdpObservation} {replacements : List Replacement} {bytes : Bytes}

/-- The observation of a fragment tells which cut it holds. -/
theorem Captures.cut_eq {observation : PendingUdpObservation} {packet other : FragmentPacket}
    (captures : Captures fragmentation outbound observation packet)
    (otherCaptures : Captures fragmentation outbound observation other) :
    packet.cut = other.cut := by
  obtain ⟨_, inspected, facts⟩ := captures.inspect
  obtain ⟨_, otherInspected, otherFacts⟩ := otherCaptures.inspect
  cases inspected.symm.trans otherInspected
  have offset := facts.carries.offset.symm.trans otherFacts.carries.offset
  have content := facts.carries.content.symm.trans otherFacts.carries.content
  have more := facts.carries.more.symm.trans otherFacts.carries.more
  rw [Cut.mk.injEq]
  exact ⟨offset, content, more⟩

/-- Every cut that the new bytes reach has a replacement. -/
theorem Replaces.exists_cut
    (replaces : Replaces fragmentation outbound bytes observations replacements)
    (group : CompleteGroup fragmentation outbound observations) {cut : Cut UInt8}
    (member : cut ∈ fragmentation.cuts) (reached : cut.offset < bytes.length) :
    ∃ replacement ∈ replacements, replacement.original.cut = cut := by
  obtain ⟨observation, observed, packet, captures, rfl⟩ := group.complete cut member
  obtain ⟨other, otherCaptures, found⟩ := replaces.complete observation observed
  have same := captures.cut_eq otherCaptures
  have otherReached : other.head.offset < bytes.length := by
    have offsets : packet.head.offset = other.head.offset := congrArg Cut.offset same
    rw [← offsets]
    exact reached
  obtain ⟨replacement, replacementMember, rfl⟩ := found otherReached
  exact ⟨replacement, replacementMember, same.symm⟩

variable {replacement : Replacement}

section

variable (replaces : Replaces fragmentation outbound bytes observations replacements)
include replaces

theorem Replaces.cut_packet (member : replacement ∈ replacements) :
    replacement.packet.cut = replacement.original.cut.recut bytes := by
  obtain ⟨_, rewritten⟩ := replaces.rewritten replacement member
  rw [rewritten, cut_rewritten]

/-- A replacement says that no more follow exactly when it is the last. -/
theorem Replaces.last (group : CompleteGroup fragmentation outbound observations)
    (long : bytes.length ≤ fragmentation.pieces.flatten.length)
    (member : replacement ∈ replacements) :
    replacement.packet.head.moreFragments = false ↔
      ∀ other ∈ replacements, other.packet.head.offset ≤ replacement.packet.head.offset := by
  have cutOf : ∀ other ∈ replacements, other.original.cut ∈ fragmentation.cuts :=
    fun other member => (replaces.captures other member).isFragment.cut
  have offsetOf : ∀ other ∈ replacements, other.packet.head.offset = other.original.cut.offset :=
    fun other member => congrArg Cut.offset (replaces.cut_packet member)
  have more : replacement.packet.head.moreFragments =
      decide (replacement.original.cut.stop < bytes.length) :=
    congrArg more (replaces.cut_packet member)
  have filled := length_pos_iff.mpr (fragmentation.nonempty _ (content_mem (cutOf _ member)))
  rw [more, decide_eq_false_iff_not, Nat.not_lt, offsetOf replacement member]
  constructor
  · intro _ other otherMember
    rw [offsetOf other otherMember]
    have reached : other.original.cut.offset < bytes.length := replaces.reached other otherMember
    by_contra behind
    have same : replacement.original.cut = other.original.cut := by
      refine eq_of_overlap (cutOf _ member) (cutOf _ otherMember) ⟨?_, ?_⟩
      · rw [stop]
        omega
      · omega
    rw [same] at behind
    exact behind (le_refl _)
  · intro furthest
    by_contra inside
    have inside := Nat.not_le.mp inside
    obtain ⟨_, nextMember, place⟩ := exists_next (cutOf _ member) (by omega)
    obtain ⟨other, otherMember, rfl⟩ :=
      replaces.exists_cut group nextMember (by rw [place]; exact inside)
    grind [stop]

/-- A replacement that more follow is as long as the fragment it replaces. -/
theorem Replaces.aligned (long : bytes.length ≤ fragmentation.pieces.flatten.length)
    (member : replacement ∈ replacements) (more : replacement.packet.head.moreFragments = true) :
    replacement.packet.body.length % 8 = 0 := by
  have cutMember := (replaces.captures replacement member).isFragment.cut
  have cut := replaces.cut_packet member
  have body : replacement.packet.body = (replacement.original.cut.recut bytes).content :=
    congrArg content cut
  obtain ⟨originalMore, length⟩ :=
    length_recut_of_more long cutMember ((congrArg Cut.more cut).symm.trans more)
  rw [body, length]
  exact fragmentation.aligned _ cutMember originalMore

theorem Replaces.keepsPlaces (group : CompleteGroup fragmentation outbound observations)
    (long : bytes.length ≤ fragmentation.pieces.flatten.length) :
    KeepsPlaces observations replacements := by
  constructor
  · intro replacement member
    exact ⟨replaces.observed replacement member, (replaces.captures replacement member).bytes⟩
  · exact fun replacement member => congrArg Cut.offset (replaces.cut_packet member)
  · exact fun replacement member => replaces.last group long member
  · exact fun replacement member more => replaces.aligned long member more
  · intro replacement member
    have fits := (replaces.captures replacement member).isFragment.fits
    obtain ⟨_, rewritten⟩ := replaces.rewritten replacement member
    rw [rewritten]
    exact declaredLength_encode (fits_rewritten fits _ _) rfl

end

end

/-! ### Reading the packets again -/

/-- In whatever order packets arrive, however often and with whatever else in between, the
assembler returns nothing until the arrival that completes them, and then their payload. -/
def ReassembleTo (outbound : Bool) (key : UdpFragmentKey) (packets : List FragmentPacket)
    (payload : Bytes) : Prop :=
  ∀ (Observation : Type) (fragmentLifetimeOverride : Option Duration)
    (earlier : List (UdpFragmentAssembler.Action Observation))
    (assembler : UdpFragmentAssembler Observation),
    (UdpFragmentAssembler.machine Observation fragmentLifetimeOverride).run earlier =
      .ok assembler →
    assembler.groups.get? key = none →
    ∀ (steps : List (UdpFragmentAssembler.Step Observation))
      (last : UdpFragmentAssembler.Arrival Observation),
    (∀ arrival ∈ UdpFragmentAssembler.arrivals steps ++ [last], arrival.packet ∈ packets) →
    (∀ action, .other action ∈ steps → ForOthers key action) →
    (UdpFragmentAssembler.machine Observation fragmentLifetimeOverride).Guarded
      (Admitted key) (.ok assembler)
      (UdpFragmentAssembler.calls outbound (steps ++ [.arrival last])) →
    (∃ packet ∈ packets,
      packet.cut ∉ UdpFragmentAssembler.arrivedCuts (UdpFragmentAssembler.arrivals steps)) →
    (∀ packet ∈ packets, packet.cut ∈
      UdpFragmentAssembler.arrivedCuts (UdpFragmentAssembler.arrivals steps ++ [last])) →
    ∃ reassembled event,
      assembler.feed outbound (steps ++ [.arrival last]) =
        .ok (List.replicate (UdpFragmentAssembler.arrivals steps).length (.ok none) ++
          [.ok (some reassembled)]) ∧
      reassembled.event = some event ∧ event.payload = payload

/-- Packets that are all the fragments of a datagram reassemble to its payload. -/
theorem reassembleTo_fragments {datagram : Datagram} {fragmentation : Fragmentation datagram}
    {packets : List FragmentPacket}
    (fragments : ∀ packet ∈ packets, IsFragment fragmentation packet)
    (complete : ∀ cut ∈ fragmentation.cuts, ∃ packet ∈ packets, packet.cut = cut)
    (outbound : Bool) :
    ReassembleTo outbound (fragmentation.key outbound) packets datagram.udp.payload := by
  intro Observation fragmentLifetimeOverride earlier assembler reached absent steps last sentOnly
    others within missing arrived
  obtain ⟨_, _, same, accounted⟩ :=
    exists_accounted_run fragmentLifetimeOverride earlier
  cases reached.symm.trans same
  have collecting : Collecting fragmentation outbound [] [] assembler :=
    collecting_of_absent absent
  obtain ⟨_, _, _, _, payload, _⟩ := collecting.feed accounted steps last
    (fun arrival member => fragments _ (sentOnly arrival member)) others within
    (by
      obtain ⟨packet, member, unseen⟩ := missing
      exact ⟨packet.cut, (fragments packet member).cut, unseen⟩)
    (by
      intro cut member
      obtain ⟨packet, packetMember, rfl⟩ := complete cut member
      exact arrived packet packetMember)
  simp_all

/-- A first fragment is among packets, and gives the five-tuple of a datagram. -/
def FirstTellsTuple (outbound : Bool) (datagram : Datagram) (packets : List FragmentPacket) :
    Prop :=
  (∃ packet ∈ packets, packet.head.offset = 0) ∧
    ∀ packet ∈ packets, packet.head.offset = 0 → ∃ part,
      inspectUdpFragment packet.encode outbound = .ok (.fragment part) ∧
      firstFragmentTuple part = some (datagram.envelope.source, datagram.udp.sourcePort,
        datagram.envelope.destination, datagram.udp.destinationPort)

/-- A packet is a whole datagram with a payload and the five-tuple of another datagram. -/
def HoldsWhole (outbound : Bool) (datagram : Datagram) (payload packet : Bytes) : Prop :=
  inspectUdpFragment packet outbound = .ok .whole ∧ ∃ observed,
    parseUdpPacket packet = .ok (some observed) ∧
    (slice packet observed.payloadOffset observed.payloadEnd : Outcome Empty Bytes) = .ok payload ∧
    observed.sourceAddress = datagram.envelope.source ∧
    observed.sourcePort = datagram.udp.sourcePort ∧
    observed.destinationAddress = datagram.envelope.destination ∧
    observed.destinationPort = datagram.udp.destinationPort

section

variable {datagram : Datagram} {fragmentation : Fragmentation datagram} {outbound : Bool}
  {observations : List PendingUdpObservation} {replacements : List Replacement} {payload : Bytes}
  {checksum : UInt16} {shorter : payload.length ≤ datagram.udp.payload.length}

section

variable (replaces : Replaces fragmentation outbound
  (datagram.withPayload payload checksum shorter).fragmentable observations replacements)
include replaces

theorem Replaces.exists_first (group : CompleteGroup fragmentation outbound observations) :
    ∃ packet ∈ replacements.map Replacement.packet, packet.head.offset = 0 := by
  obtain ⟨_, member, start⟩ := Data.exists_first fragmentation.inhabited
  have length := datagram.length_fragmentable_withPayload payload checksum shorter
  obtain ⟨replacement, replacementMember, rfl⟩ :=
    replaces.exists_cut group member (by rw [length]; omega)
  refine ⟨replacement.packet, List.mem_map_of_mem replacementMember, ?_⟩
  exact (congrArg Cut.offset (replaces.cut_packet replacementMember)).trans start

/-- The replacements of a group are all the fragments of the new datagram. -/
theorem Replaces.reassembleTo (group : CompleteGroup fragmentation outbound observations)
    (divided : ¬fragmentation.ShrinksToFirst payload) :
    ReassembleTo outbound (fragmentation.key outbound) (replacements.map Replacement.packet)
        payload ∧
      FirstTellsTuple outbound datagram (replacements.map Replacement.packet) := by
  have fragments : ∀ packet ∈ replacements.map Replacement.packet,
      IsFragment (fragmentation.recut checksum shorter divided) packet := by
    intro packet member
    obtain ⟨replacement, replacementMember, rfl⟩ := List.mem_map.mp member
    obtain ⟨headerChecksum, rewritten⟩ := replaces.rewritten replacement replacementMember
    rw [rewritten]
    exact (replaces.captures replacement replacementMember).isFragment.rewritten
      (replaces.reached replacement replacementMember) headerChecksum
  constructor
  · refine reassembleTo_fragments fragments ?_ outbound
    intro _ member
    obtain ⟨_, oldMember, reached, rfl⟩ := Fragmentation.mem_cuts_recut.mp member
    obtain ⟨replacement, replacementMember, same⟩ := replaces.exists_cut group oldMember reached
    refine ⟨replacement.packet, List.mem_map_of_mem replacementMember, ?_⟩
    rw [replaces.cut_packet replacementMember, same]
  refine ⟨replaces.exists_first group, ?_⟩
  · intro packet member start
    obtain ⟨part, inspected, facts⟩ := (fragments packet member).inspect outbound
    refine ⟨part, inspected, ?_⟩
    rw [facts.tuple, if_pos start]
    rfl

end

/-- A packet that reaches into the first fragment of a shrunk datagram is the first fragment. -/
theorem Fragmentation.ShrinksToFirst.first (shrinks : fragmentation.ShrinksToFirst payload)
    {cut : Cut UInt8} (member : cut ∈ fragmentation.cuts) (reached : cut.offset < 8 + payload.length) :
    cut.offset = 0 := by
  obtain ⟨first, firstMember, start⟩ := Data.exists_first fragmentation.inhabited
  have room := shrinks.2 first firstMember start
  by_contra later
  have same : cut = first := by
    refine eq_of_overlap member firstMember ⟨?_, ?_⟩
    · rw [stop]
      omega
    · rw [stop]
      omega
  rw [same] at later
  exact later start

/-- A packet without offset and flag is unfragmented. -/
theorem unfragmented_writeFlag {fragment : UInt16} (start : (fragment &&& 0x1fff).toNat * 8 = 0) :
    writeFlag 0x2000 false fragment &&& 0x3fff = 0 := by
  have offset : fragment &&& 0x1fff = 0 := by
    apply UInt16.toNat_inj.mp
    rw [UInt16.toNat_zero]
    omega
  have fields : (0x3fff : UInt16) = 0x1fff ||| 0x2000 := by
    decide
  rw [fields, and_or_distrib, writeFlag_and_flag,
    writeFlag_and_mask false fragment (by decide) (by decide), offset]
  rfl

/-- An unfragmented packet is read as the datagram it holds. -/
theorem holdsWhole_encode {header : Ipv4Header} (unfragmented : header.fragment &&& 0x3fff = 0)
    (udp : UdpDatagram) (fits : header.length + udp.encode.length < 65536) (outbound : Bool) :
    HoldsWhole outbound ⟨.v4 header unfragmented, udp, fits⟩ udp.payload
      (mk (.v4 header) udp.encode []).encode := by
  have encoded : (mk (.v4 header) udp.encode []).encode =
      (mk (.v4 header unfragmented) udp fits).encode := by
    simp [FragmentPacket.encode, FragmentHead.encode, Datagram.encode, fragmentable,
      Envelope.encode, Envelope.chain]
  rw [encoded]
  exact ⟨inspectUdpFragment_of_parse (parseUdpPacket_encode _) outbound, _,
    parseUdpPacket_encode _, slice_observed _, rfl, rfl, rfl, rfl⟩

/-- The first fragment takes all the bytes of a datagram that shrinks into it. -/
theorem IsFragment.recut_first (isFragment : IsFragment fragmentation packet)
    (shrinks : fragmentation.ShrinksToFirst payload)
    (reached : packet.head.offset <
      (datagram.withPayload payload checksum shorter).fragmentable.length) :
    packet.head.offset = 0 ∧
      packet.cut.recut (datagram.withPayload payload checksum shorter).fragmentable =
        ⟨0, (datagram.udp.withPayload payload checksum shorter).encode, false⟩ := by
  have noChain : datagram.envelope.chain = [] := by
    have isIpv4 := shrinks.1
    cases envelope : datagram.envelope with
    | v4 other => rfl
    | v6 other =>
      rw [envelope] at isIpv4
      cases isIpv4
  have bytes : (datagram.withPayload payload checksum shorter).fragmentable =
      (datagram.udp.withPayload payload checksum shorter).encode :=
    congrArg (· ++ _) noChain
  have length := datagram.length_fragmentable_withPayload payload checksum shorter
  rw [noChain] at length
  have start : packet.head.offset = 0 := shrinks.first isFragment.cut (length ▸ reached)
  have room : 8 + payload.length ≤ packet.body.length := shrinks.2 _ isFragment.cut start
  simp only [FragmentPacket.cut, Cut.recut, stop]
  simp_all

/-- The packet that is sent for a datagram that shrinks into its first fragment holds all of it. -/
theorem IsFragment.holdsWhole_rewritten (isFragment : IsFragment fragmentation packet)
    (shrinks : fragmentation.ShrinksToFirst payload)
    (reached : packet.head.offset <
      (datagram.withPayload payload checksum shorter).fragmentable.length) (headerChecksum : UInt16)
    (outbound : Bool) :
    HoldsWhole outbound datagram payload
      (packet.rewritten (datagram.withPayload payload checksum shorter).fragmentable
        headerChecksum).encode := by
  obtain ⟨start, recut⟩ := isFragment.recut_first shrinks reached
  have fits := fits_rewritten isFragment.fits
    (datagram.withPayload payload checksum shorter).fragmentable headerChecksum
  have key := isFragment.key outbound
  obtain ⟨head, _, _⟩ := packet
  unfold FragmentPacket.rewritten at fits ⊢
  rw [recut] at fits ⊢
  cases head with
  | v6 header _ fragment =>
    have isIpv4 := shrinks.1
    cases envelope : datagram.envelope with
    | v4 other =>
      rw [Fragmentation.key, envelope] at key
      cases congrArg UdpFragmentKey.sourceAddress key
    | v6 other =>
      rw [envelope] at isIpv4
      cases isIpv4
  | v4 header =>
    have source : IpAddr.v4 header.source = datagram.envelope.source :=
      congrArg UdpFragmentKey.sourceAddress key
    have destination : IpAddr.v4 header.destination = datagram.envelope.destination :=
      congrArg UdpFragmentKey.destinationAddress key
    obtain ⟨whole, observed, parsed, read, sourceSame, sourcePort, destinationSame,
      destinationPort⟩ := @holdsWhole_encode
        { header with
          fragment := writeFlag 0x2000 false header.fragment, checksum := headerChecksum }
        (unfragmented_writeFlag start) _ fits
        _
    exact ⟨whole, observed, parsed, read, sourceSame.trans source, sourcePort,
      destinationSame.trans destination, destinationPort⟩

end

/-- The packets that are sent for a payload keep the places of the original ones, and reassemble
to the payload with the original five-tuple. -/
def RoundTrips {datagram : Datagram} (fragmentation : Fragmentation datagram) (outbound : Bool)
    (observations : List PendingUdpObservation) (payload : Bytes)
    (sent : List PendingUdpObservation) : Prop :=
  ∃ replacements : List Replacement, sent = replacements.map Replacement.sent ∧
    KeepsPlaces observations replacements ∧
    ReassembleTo outbound (fragmentation.key outbound) (replacements.map Replacement.packet)
      payload ∧
    FirstTellsTuple outbound datagram (replacements.map Replacement.packet)

/-- The packets that are sent for a payload keep the places of the original ones, and each of
them is a whole datagram with the payload and the original five-tuple. -/
def WholeTrips (datagram : Datagram) (outbound : Bool) (observations : List PendingUdpObservation)
    (payload : Bytes) (sent : List PendingUdpObservation) : Prop :=
  ∃ replacements : List Replacement, sent = replacements.map Replacement.sent ∧
    KeepsPlaces observations replacements ∧ replacements ≠ [] ∧
    ∀ replacement ∈ replacements, HoldsWhole outbound datagram payload replacement.packet.encode

/-- Whatever the headers, the partition, the order of capture and the repetitions of a complete
group are, forwarding a payload that is not longer makes the round trip, as fragments or, where
an IPv4 datagram shrinks into its first fragment, as whole datagrams. -/
theorem applyFragmentDecision_roundTrips {datagram : Datagram}
    (fragmentation : Fragmentation datagram) (outbound : Bool)
    {observations : List PendingUdpObservation}
    (group : CompleteGroup fragmentation outbound observations) {divert : Divert}
    (recalculates : divert.Recalculates) (sends : ∀ observation, divert.send observation = .ok ())
    {event : UdpDatagramEvent} (original : event.payload = datagram.udp.payload) {payload : Bytes}
    (shorter : payload.length ≤ datagram.udp.payload.length)
    (modifications : List UdpDatagramModification) :
    (applyFragmentDecision divert observations event (.forward payload modifications)).result =
        .ok (some { event with payload, modifications }) ∧
      (¬fragmentation.ShrinksToFirst payload → RoundTrips fragmentation outbound observations
        payload (applyFragmentDecision divert observations event
          (.forward payload modifications)).sent) ∧
      (fragmentation.ShrinksToFirst payload → WholeTrips datagram outbound observations payload
        (applyFragmentDecision divert observations event
          (.forward payload modifications)).sent) := by
  obtain ⟨_, replacements, result, sent, replaces⟩ :=
    group.applyFragmentDecision recalculates sends original shorter modifications
  have keepsPlaces := replaces.keepsPlaces group (fragmentation.recut_long shorter)
  refine ⟨result, fun divided => ?_, fun shrinks => ?_⟩
  · obtain ⟨reassemble, tuple⟩ := replaces.reassembleTo group divided
    exact ⟨replacements, sent, keepsPlaces, reassemble, tuple⟩
  · refine ⟨replacements, sent, keepsPlaces, ?_, ?_⟩
    · rintro rfl
      obtain ⟨_, member, _⟩ := replaces.exists_first group
      cases member
    · intro replacement member
      obtain ⟨headerChecksum, rewritten⟩ := replaces.rewritten replacement member
      rw [rewritten]
      exact (replaces.captures replacement member).isFragment.holdsWhole_rewritten shrinks
        (replaces.reached replacement member) headerChecksum outbound

/-! ### A driver and a query -/

/-- The checksum of an IPv4 header whose checksum field is zero. -/
def ipv4HeaderChecksum (header : Bytes) : UInt16 :=
  let sum := addChecksumBytes 0 header
  let folded := sum % 0x10000 + sum / 0x10000
  ~~~(UInt16.ofNat (folded % 0x10000 + folded / 0x10000))

/-- A packet with the checksum of its IPv4 header, if it has one. -/
def withIpv4Checksum (packet : Bytes) : Bytes :=
  match packet with
  | [] => []
  | first :: _ =>
    if first >>> 4 = 4 then
      splice packet 10 (u16ToBe (ipv4HeaderChecksum
        ((splice packet 10 [0, 0]).take ((first &&& 0x0f).toNat * 4))))
    else packet

/-- A driver that takes every packet. -/
def ipv4Driver : Divert where
  send _ := .ok ()
  recalculateChecksums _ packet := .ok (withIpv4Checksum packet)

theorem recalculates_ipv4Driver : ipv4Driver.Recalculates := by
  rintro ⟨head, body, _⟩ _ unpadded
  cases unpadded
  cases head with
  | v4 header =>
    have version := (ipv4FirstOctet header.optionWords).1
    refine ⟨ipv4HeaderChecksum ((splice (mk (.v4 header) body []).encode 10
      [0, 0]).take ((UInt8.ofNat (69 + header.optionWords) &&& 0x0f).toNat * 4)),
      congrArg Except.ok ?_⟩
    exact (if_pos version).trans rfl
  | v6 header =>
    have version := ipv6FirstOctet header.trafficClass
    have other : ¬UInt8.ofNat (96 + header.trafficClass) >>> 4 = 4 := by
      rw [version]
      decide
    exact ⟨0, congrArg Except.ok (if_neg other)⟩

namespace UdpFragmentAssembler

/-- The packets of the query, the later one captured first. -/
def queryObservations : List PendingUdpObservation :=
  [ ⟨2, (queryPacket 0x2000 [0x12, 0x34, 0, 53, 0, 16, 0, 0] [0, 0]).encode, true, 4, 0⟩,
    ⟨1, (queryPacket 1 [1, 2, 3, 4, 5, 6, 7, 8] []).encode, true, 4, 0⟩ ]

theorem completeGroup_query : CompleteGroup queryFragmentation true queryObservations := by
  have first : Captures queryFragmentation true
      ⟨2, (queryPacket 0x2000 [0x12, 0x34, 0, 53, 0, 16, 0, 0] [0, 0]).encode, true, 4, 0⟩
      (queryPacket 0x2000 [0x12, 0x34, 0, 53, 0, 16, 0, 0] [0, 0]) :=
    ⟨rfl, rfl, isFragment_first _⟩
  have second : Captures queryFragmentation true
      ⟨1, (queryPacket 1 [1, 2, 3, 4, 5, 6, 7, 8] []).encode, true, 4, 0⟩
      (queryPacket 1 [1, 2, 3, 4, 5, 6, 7, 8] []) :=
    ⟨rfl, rfl, isFragment_second _⟩
  constructor
  · intro _ member
    rcases mem_cons.mp member with rfl | member
    · exact ⟨_, first⟩
    grind
  · intro _ member
    rcases mem_cons.mp member with rfl | member
    · exact ⟨_, mem_cons_self, _, first, by decide⟩
    · rw [mem_singleton.mp member]
      exact ⟨_, .tail _ mem_cons_self, _, second, by decide⟩

def queryEvent : UdpDatagramEvent where
  processId := 4200
  clientAddress := .v4 (.quad 192 0 2 10) 4660
  targetAddress := .v4 (.quad 198 51 100 20) 53
  direction := .up
  payload := [1, 2, 3, 4, 5, 6, 7, 8]
  capturedAtMilliseconds := 0
  modifications := []

/-- A query of three octets still needs its second fragment. -/
theorem roundTrips_shortenedQuery :
    RoundTrips queryFragmentation true queryObservations [9, 9, 9]
      (applyFragmentDecision ipv4Driver queryObservations queryEvent
        (.forward [9, 9, 9] [])).sent := by
  refine (applyFragmentDecision_roundTrips queryFragmentation true completeGroup_query
    recalculates_ipv4Driver (fun _ => rfl) rfl (by decide) []).2.1 ?_
  rintro ⟨_, room⟩
  exact absurd (room ⟨0, [0x12, 0x34, 0, 53, 0, 16, 0, 0], true⟩ (by decide) rfl) (by decide)

/-- The packet that is sent for an empty query. -/
def emptiedQuery : Bytes :=
  [69, 0, 0, 28, 0, 7, 0, 0, 64, 17, 142, 120, 192, 0, 2, 10, 198, 51, 100, 20, 18, 52, 0, 53, 0, 8,
    0, 0]

/-- An empty query needs the first fragment only, which then is no fragment any more. -/
theorem not_roundTrips_emptiedQuery :
    ¬RoundTrips queryFragmentation true queryObservations []
      (applyFragmentDecision ipv4Driver queryObservations queryEvent (.forward [] [])).sent := by
  rintro ⟨_, sent, _, reassemble, _⟩
  have emptied : (applyFragmentDecision ipv4Driver queryObservations queryEvent
      (.forward [] [])).sent = [⟨2, emptiedQuery, true, 4, 0⟩] := by
    decide
  have whole : inspectUdpFragment emptiedQuery true = .ok .whole := by
    decide
  obtain ⟨replacement, rfl, same⟩ := map_eq_singleton_iff.mp sent.symm
  have bytes : replacement.packet.encode = emptiedQuery :=
    congrArg PendingUdpObservation.packet same
  have passed : Step.action? true
      (.arrival (Arrival.mk replacement.packet querySelection 0 0 0)) = none := by
    rw [Step.action?, bytes, whole]
  have nothing : (empty none).feed true
      [.arrival (Arrival.mk replacement.packet querySelection 0 0 0)] = .ok [] := by
    rw [feed, bytes]
    rfl
  obtain ⟨_, _, results, _⟩ := reassemble Nat none [] (empty none) rfl rfl []
    ⟨replacement.packet, querySelection, 0, 0, 0⟩ (by simp [arrivals]) (by simp)
    (by
      rw [nil_append, calls, filterMap_cons_none passed]
      trivial)
    ⟨replacement.packet, by simp, by simp [arrivals, arrivedCuts]⟩
    (by simp [arrivedCuts])
  rw [nil_append, nothing] at results
  cases results

end UdpFragmentAssembler

end SprakCapture.ProcessCapture
