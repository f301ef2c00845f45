import SprakCapture.Data.Cuts
import SprakCapture.ProcessCapture.FragmentAccounting
import SprakCapture.ProcessCapture.UdpWire

/-!
# Reassembly of UDP datagrams

A datagram is cut into pieces, the pieces travel in packets of their own, and the
assembler puts them together again. `Collects` says what a group holds after some of
the cuts have arrived. It does not mention the order in which they came, and a cut
that comes twice changes nothing but the packets held; hence the datagram leaves with
the packet that brings its last missing cut, whatever other traffic does in between.
-/

namespace SprakCapture.ProcessCapture

open Data List Data.OrderedTable Data.Outcome UdpFragmentAssembler

/-! ### Groups -/

/-- A part holds one cut of a datagram. -/
structure Carries (key : UdpFragmentKey) (udpOffset : Nat) (cut : Cut UInt8)
    (part : UdpFragmentPart) : Prop where
  key : part.key = key
  offset : part.payloadOffset = cut.offset
  more : part.moreFragments = cut.more
  content : part.fragmentPayload = cut.content
  header : cut.offset = 0 → part.udpHeaderOffset = some udpOffset

variable {Observation : Type}

/-- What a group holds once some cuts have been seen. -/
structure Collects (pieces : List Bytes) (udpOffset : Nat) (seen : List (Cut UInt8))
    (observations : List Observation) (group : FragmentGroup Observation) : Prop where
  entries : ∀ entry, entry ∈ group.pieces.entries ↔ ∃ cut ∈ seen, cut.piece = entry
  finalLength : ∀ length, group.finalLength = some length ↔
    length = pieces.flatten.length ∧ ∃ cut ∈ seen, cut.more = false
  selected : (∃ cut ∈ seen, cut.offset = 0) →
    group.isSelected = true ∧ group.udpHeaderOffset = some udpOffset
  undecided : (∀ cut ∈ seen, cut.offset ≠ 0) → group.disposition = none
  observations : group.observations = observations

variable {entries : List (Nat × Bytes)}

section Groups

variable {pieces : List Bytes} {udpOffset : Nat} {seen : List (Cut UInt8)}
  {observations : List Observation} {group : FragmentGroup Observation} {cut : Cut UInt8}
  {key : UdpFragmentKey} {part : UdpFragmentPart}

theorem collects_new (expiresAt : Instant) :
    Collects pieces udpOffset [] ([] : List Observation) (.new expiresAt) := by
  constructor <;> simp [FragmentGroup.new]

section

variable (collects : Collects pieces udpOffset seen observations group)
include collects

/-- A group that collects a selected datagram is required. -/
theorem Collects.required :
    group.isIgnored = false := by
  unfold FragmentGroup.isIgnored
  by_cases first : ∃ cut ∈ seen, cut.offset = 0
  · have selected := (collects.selected first).1
    unfold FragmentGroup.isSelected at selected
    cases held : group.disposition with
    | none => rfl
    | some disposition =>
      rw [held] at selected
      cases disposition with
      | selected => rfl
      | ignored => cases selected
  · rw [collects.undecided fun cut member start => first ⟨cut, member, start⟩]
    rfl

omit collects in
theorem validateNoConflictingOverlap_cuts (member : cut ∈ cuts 0 pieces)
    (contained : ∀ entry ∈ entries, ∃ other ∈ cuts 0 pieces, other.piece = entry) :
    validateNoConflictingOverlap cut.offset cut.content entries = .ok () := by
  induction entries with
  | nil => rfl
  | cons entry =>
    obtain ⟨other, otherMember, rfl⟩ := contained entry mem_cons_self
    rw [validateNoConflictingOverlap]
    split
    · rename_i overlap
      cases eq_of_overlap member otherMember overlap
      rw [if_pos ⟨rfl, rfl⟩]
    simp_all

omit collects in
theorem contiguousEnd_cuts (offset : Nat) (pieces : List Bytes) :
    contiguousEnd offset ((cuts offset pieces).map Cut.piece) =
      some (offset + pieces.flatten.length) := by
  induction pieces generalizing offset with
  | nil => rfl
  | cons piece _ ih =>
    rw [cuts, map_cons, Cut.piece, contiguousEnd, if_neg (not_not.mpr rfl),
      ih, flatten_cons, length_append, Nat.add_assoc]

omit collects in
theorem length_of_contiguousEnd {start stop : Nat}
    (reached : contiguousEnd start entries = some stop) :
    stop = start + (entries.map fun entry => entry.2.length).sum := by
  induction entries generalizing start with
  | nil => exact (Option.some.inj reached).symm
  | cons entry =>
    grind [contiguousEnd]

/-- The complete entries of a group are the cuts in order. -/
theorem Collects.entries_eq (nonempty : ∀ piece ∈ pieces, piece ≠ [])
    (known : ∀ cut ∈ seen, cut ∈ cuts 0 pieces) (all : ∀ cut ∈ cuts 0 pieces, cut ∈ seen) :
    group.pieces.entries = (cuts 0 pieces).map Cut.piece := by
  refine @ext_mem _ _ _ _ ⟨(cuts 0 pieces).map Cut.piece, pairwise_offset_cuts nonempty⟩ fun _ => ?_
  rw [collects.entries]
  grind

/-- A group is complete exactly when every cut has been seen. -/
theorem Collects.isComplete_iff (inhabited : pieces ≠ []) (nonempty : ∀ piece ∈ pieces, piece ≠ [])
    (known : ∀ cut ∈ seen, cut ∈ cuts 0 pieces) :
    isComplete group = true ↔ ∀ cut ∈ cuts 0 pieces, cut ∈ seen := by
  constructor
  · intro complete cut member
    unfold isComplete at complete
    split at complete
    · cases complete
    rename_i length held
    obtain ⟨rfl, _⟩ := (collects.finalLength length).mp held
    have reached : contiguousEnd 0 group.pieces.entries = some pieces.flatten.length :=
      beq_iff_eq.mp (Bool.and_eq_true _ _ ▸ complete).2
    have long := length_of_contiguousEnd reached
    rw [Nat.zero_add] at long
    have nodup : group.pieces.entries.Nodup :=
      group.pieces.ascending.imp fun less equal => less.ne (congrArg Prod.fst equal)
    have held := mem_of_length_le nodup
      (fun entry member => by
        obtain ⟨cut, seenMember, same⟩ := (collects.entries entry).mp member
        exact List.mem_map.mpr ⟨cut, known cut seenMember, same⟩)
      nonempty long.le member
    obtain ⟨other, _, same⟩ := (collects.entries _).mp held
    have positive := length_pos_iff.mpr (nonempty _ (content_mem member))
    have offsets : other.offset = cut.offset := congrArg Prod.fst same
    have contents : other.content = cut.content := congrArg Prod.snd same
    have equal : other = cut := by
      grind [Cut.stop, eq_of_overlap]
    rwa [← equal]
  · intro all
    obtain ⟨last, lastMember, noMore⟩ := exists_last inhabited
    have held := (collects.finalLength _).mpr ⟨rfl, last, all last lastMember, noMore⟩
    obtain ⟨first, firstMember, start⟩ := exists_first inhabited
    have decided : group.disposition.isSome = true := by
      have selected := (collects.selected ⟨first, all first firstMember, start⟩).1
      exact Option.isSome_of_any selected
    unfold isComplete
    rw [held, decided, collects.entries_eq nonempty known all, contiguousEnd_cuts]
    simp

end

/-- A complete group is put together to the datagram. -/
theorem Collects.assembles {datagram : Datagram}
    (collects : Collects pieces datagram.envelope.chain.length seen observations group)
    (whole : pieces.flatten = datagram.fragmentable) (inhabited : pieces ≠ [])
    (nonempty : ∀ piece ∈ pieces, piece ≠ []) (known : ∀ cut ∈ seen, cut ∈ cuts 0 pieces)
    (all : ∀ cut ∈ cuts 0 pieces, cut ∈ seen) :
    ∃ reassembled event, assembleGroup group = .ok reassembled ∧
      reassembled.event = some event ∧ event.payload = datagram.udp.payload ∧
      reassembled.observations = observations := by
  obtain ⟨first, firstMember, start⟩ := exists_first inhabited
  obtain ⟨selected, located⟩ := collects.selected ⟨first, all first firstMember, start⟩
  have bytes : group.pieces.values.flatten = datagram.fragmentable := by
    rw [OrderedTable.values, collects.entries_eq nonempty known all, List.map_map, ← whole]
    exact congrArg List.flatten (map_content_cuts 0 pieces)
  have udpLength := datagram.udp.length_encode
  have declared := datagram.udp.toNat_udpLength
  have length : datagram.fragmentable.length =
      datagram.envelope.chain.length + datagram.udp.encode.length := length_append
  obtain ⟨_, _, lengthRead⟩ := UdpDatagram.reads datagram.udp datagram.envelope.chain
  have payloadRead : (slice (datagram.envelope.chain ++ datagram.udp.encode)
      (datagram.envelope.chain.length + 8)
      (datagram.envelope.chain.length + datagram.udp.udpLength.toNat) :
        Outcome (UdpFragmentError × List Observation) Bytes) = .ok datagram.udp.payload := by
    have split : datagram.envelope.chain ++ datagram.udp.encode =
        (datagram.envelope.chain ++ datagram.udp.header) ++
          (datagram.udp.payload ++ datagram.udp.surplus) := by
      simp [UdpDatagram.encode]
    have headLength : (datagram.envelope.chain ++ datagram.udp.header).length =
        datagram.envelope.chain.length + 8 := by
      simp [UdpDatagram.header]
    rw [split]
    exact slice_append _ headLength (by omega)
  unfold FragmentGroup.isSelected at selected
  cases held : group.disposition with
  | none =>
    rw [held] at selected
    cases selected
  | some disposition =>
    rw [held] at selected
    cases disposition with
    | ignored => cases selected
    | selected =>
      unfold assembleGroup
      rw [held, expect_some, Outcome.ok_bind, located, bytes]
      dsimp only
      rw [raiseIf_of_not _ (by omega), Outcome.ok_bind, Datagram.fragmentable,
        lengthRead, Outcome.ok_bind, raiseIf_of_not _ (by
          rw [← Datagram.fragmentable]
          omega), payloadRead]
      exact ⟨_, _, rfl, rfl, rfl, collects.observations⟩

/-- Only the first cut carries a disposition, and it is selected. -/
structure Disposed (cut : Cut UInt8) (disposition : Option UdpFragmentDisposition) : Prop where
  first : cut.offset = 0 → disposition.any UdpFragmentDisposition.isSelected = true
  later : cut.offset ≠ 0 → disposition = none

/-- The entries of a group with one more cut. -/
theorem Collects.mem_storePart (collects : Collects pieces udpOffset seen observations group)
    (nonempty : ∀ piece ∈ pieces, piece ≠ []) (known : ∀ cut ∈ seen, cut ∈ cuts 0 pieces)
    (member : cut ∈ cuts 0 pieces) (carries : Carries key udpOffset cut part)
    (disposition : Option UdpFragmentDisposition) (observation : Observation)
    (observationBytes : Nat) (entry : Nat × Bytes) :
    entry ∈ (storePart group part disposition observation observationBytes
        (addedBytes group part)).pieces.entries ↔
      entry ∈ group.pieces.entries ∨ entry = cut.piece := by
  have filled : cut.content ≠ [] := nonempty _ (content_mem member)
  unfold storePart addedBytes
  rw [carries.offset, carries.content]
  by_cases repeated : group.pieces.get? cut.offset = some cut.content
  · have held := get?_eq_some.mp repeated
    rw [if_pos repeated]
    constructor
    · exact .inl
    · rintro (old | rfl)
      · exact old
      · exact held
  · rw [if_neg repeated, if_pos (fun empty => filled (length_eq_zero_iff.mp empty)), mem_insert]
    constructor
    · rintro (new | ⟨old, _⟩)
      · exact .inr new
      · exact .inl old
    · rintro (old | new)
      · refine .inr ⟨old, fun _ => repeated ?_⟩
        -- Another entry at this offset would be this very cut.
        obtain ⟨other, otherSeen, rfl⟩ := (collects.entries entry).mp old
        have positive := length_pos_iff.mpr filled
        have otherPositive := length_pos_iff.mpr (nonempty _ (content_mem (known other otherSeen)))
        have same : other = cut := by
          grind [Cut.piece, Cut.stop, eq_of_overlap]
        rw [← same]
        exact get?_eq_some.mpr old
      · exact .inl new

/-- A cut that arrives is added to what its group has collected. -/
theorem Collects.storePart (collects : Collects pieces udpOffset seen observations group)
    (nonempty : ∀ piece ∈ pieces, piece ≠ []) (known : ∀ cut ∈ seen, cut ∈ cuts 0 pieces)
    (member : cut ∈ cuts 0 pieces) (carries : Carries key udpOffset cut part)
    {disposition : Option UdpFragmentDisposition} (disposed : Disposed cut disposition)
    (observation : Observation) (observationBytes : Nat) :
    Collects pieces udpOffset (seen ++ [cut]) (observations ++ [observation])
      (storePart group part disposition observation observationBytes (addedBytes group part)) := by
  refine ⟨?_, ?_, ?_, ?_, ?_⟩
  · intro _
    rw [collects.mem_storePart nonempty known member carries, collects.entries]
    simp [eq_comm]
  · simp only [UdpFragmentAssembler.storePart, carries.more, carries.offset, carries.content]
    cases ended : cut.more with
    | true => simp [collects.finalLength, ended]
    | false =>
      have stop := stop_of_last member ended
      rw [Cut.stop] at stop
      grind
  · intro first
    by_cases start : cut.offset = 0
    · have isSelected := disposed.first start
      cases disposition with
      | none => cases isSelected
      | some => exact ⟨isSelected, carries.header start⟩
    · rw [disposed.later start]
      obtain ⟨earlier, earlierMember, earlierStart⟩ := first
      refine collects.selected ⟨earlier, ?_, earlierStart⟩
      rcases mem_append.mp earlierMember with old | _
      · exact old
      simp_all
  · intro later
    simp only [UdpFragmentAssembler.storePart]
    rw [disposed.later (later cut (by simp)),
      collects.undecided fun cut member => later cut (mem_append_left _ member)]
    rfl
  · simp [UdpFragmentAssembler.storePart, collects.observations]

end Groups

/-! ### Fragments -/

def Envelope.isIpv4 : Envelope → Bool
  | .v4 .. => true
  | .v6 .. => false

/-- A datagram shared out among fragments: the headers up to the UDP header are in the first
piece, and an IPv4 datagram is in more than one. -/
structure Fragmentation (datagram : Datagram) where
  identification : UInt32
  pieces : List Bytes
  whole : pieces.flatten = datagram.fragmentable
  nonempty : ∀ piece ∈ pieces, piece ≠ []
  aligned : ∀ cut ∈ cuts 0 pieces, cut.more = true → cut.content.length % 8 = 0
  headers : ∀ cut ∈ cuts 0 pieces, cut.offset = 0 →
    datagram.envelope.chain.length + 8 ≤ cut.content.length
  divided : datagram.envelope.isIpv4 = true → 2 ≤ pieces.length

namespace Fragmentation

variable {datagram : Datagram} (fragmentation : Fragmentation datagram)

def cuts : List (Cut UInt8) := Data.cuts 0 fragmentation.pieces

/-- The group that the fragments of one direction belong to. -/
def key (outbound : Bool) : UdpFragmentKey :=
  ⟨datagram.envelope.source, datagram.envelope.destination, fragmentation.identification, outbound⟩

theorem inhabited : fragmentation.pieces ≠ [] := by
  have whole := congrArg List.length fragmentation.whole
  have udpLength := datagram.udp.length_encode
  rw [Datagram.fragmentable] at whole
  grind

end Fragmentation

/-- The cut that a packet holds. -/
def FragmentPacket.cut (packet : FragmentPacket) : Cut UInt8 :=
  ⟨packet.head.offset, packet.body, packet.head.moreFragments⟩

/-- A packet is a fragment of a datagram; it may have IP options, extension headers and padding
of its own. -/
structure IsFragment {datagram : Datagram} (fragmentation : Fragmentation datagram)
    (packet : FragmentPacket) : Prop where
  cut : packet.cut ∈ fragmentation.cuts
  key : ∀ outbound, packet.head.key outbound = fragmentation.key outbound
  nextHeader : packet.head.nextHeader = datagram.envelope.nextHeader
  fits : packet.Fits

section Fragments

variable {datagram : Datagram} {fragmentation : Fragmentation datagram} {packet : FragmentPacket}

/-- The packets of a datagram have its address family. -/
theorem IsFragment.isIpv4 {header : Ipv4Header} {body padding : Bytes}
    (isFragment : IsFragment fragmentation ⟨.v4 header, body, padding⟩) :
    datagram.envelope.isIpv4 = true := by
  have sameKey := isFragment.key true
  cases envelope : datagram.envelope with
  | v4 other => rfl
  | v6 other =>
    rw [Fragmentation.key, envelope] at sameKey
    cases congrArg UdpFragmentKey.sourceAddress sameKey

section

variable (isFragment : IsFragment fragmentation packet)
include isFragment

theorem IsFragment.fragmented : packet.head.fragmented = true := by
  obtain ⟨head, _, _⟩ := packet
  cases head with
  | v6 header => rfl
  | v4 header =>
    by_contra whole
    simp only [FragmentHead.fragmented, Bool.or_eq_true, decide_eq_true_eq, not_or, not_not,
      Bool.not_eq_true] at whole
    have divided := fragmentation.divided isFragment.isIpv4
    rw [eq_singleton_of_first_of_last fragmentation.nonempty isFragment.cut whole.1 whole.2]
      at divided
    exact absurd divided (by simp)

/-- The first fragment holds the start of the fragmentable part. -/
theorem IsFragment.body_prefix (start : packet.head.offset = 0) :
    packet.body <+: datagram.fragmentable := by
  obtain ⟨front, back, split, _⟩ := flatten_split isFragment.cut
  have front : front = [] := by
    refine length_eq_zero_iff.mp ?_
    have zero : packet.cut.offset = 0 := start
    omega
  rw [fragmentation.whole, front] at split
  exact ⟨back, split.symm⟩

/-- The UDP header is found behind the chain of the first fragment. -/
theorem IsFragment.firstUdpHeaderOffset :
    ProcessCapture.firstUdpHeaderOffset packet.head.offset packet.body packet.head.nextHeader =
      .ok (if packet.head.offset = 0 then some datagram.envelope.chain.length else none) := by
  rw [isFragment.nextHeader]
  cases envelope : datagram.envelope with
  | v4 header => exact firstUdpHeaderOffset_udp _ _
  | v6 header _ after =>
    unfold ProcessCapture.firstUdpHeaderOffset
    split
    · rename_i start
      have headers := fragmentation.headers _ isFragment.cut start
      have chain : datagram.envelope.chain <+: packet.body :=
        prefix_of_prefix_length_le ⟨_, rfl⟩ (isFragment.body_prefix start)
          (Nat.le_of_add_right_le headers)
      rw [envelope] at chain
      obtain ⟨tail, body⟩ : encodeChain after udpProtocol <+: packet.body := chain
      have skips := encodeChain_skips after udpProtocol [] tail
        (show _ ≤ packet.body.length by
          rw [← body]
          simp)
      have located : locatePostFragmentUdpHeader packet.body (firstHeader after udpProtocol) =
          .ok (encodeChain after udpProtocol).length := by
        refine (loop_eq_ok_iff (safe_locatePostFragmentUdpHeader _ _)).mpr ?_
        rw [nil_append, body, length_nil, Nat.zero_add] at skips
        exact loopsTo_of_skips
          (fun _ _ skips => postFragmentStep_next.mpr ⟨skips.notUdp, skips⟩) skips rfl
      rw [Envelope.nextHeader, located]
      rfl
    · rfl

/-- The first fragment holds the ports of the datagram. -/
theorem IsFragment.ports (start : packet.head.offset = 0) {Error : Type} :
    (u16At packet.body datagram.envelope.chain.length : Outcome Error UInt16) =
        .ok datagram.udp.sourcePort ∧
      (u16At packet.body (datagram.envelope.chain.length + 2) : Outcome Error UInt16) =
        .ok datagram.udp.destinationPort := by
  have headers : datagram.envelope.chain.length + 8 ≤ packet.body.length :=
    fragmentation.headers _ isFragment.cut start
  obtain ⟨_, _⟩ := isFragment.body_prefix start
  obtain ⟨_, _, _⟩ :=
    @UdpDatagram.reads datagram.udp datagram.envelope.chain Error
  grind [Datagram.fragmentable, u16At_congr]

end

/-- What is known of a fragment once it is inspected: the first one gives the five-tuple. -/
structure InspectedAs (fragmentation : Fragmentation datagram) (outbound : Bool)
    (packet : FragmentPacket) (part : UdpFragmentPart) : Prop where
  carries : Carries (fragmentation.key outbound) datagram.envelope.chain.length packet.cut part
  place : part.packetPayloadOffset = packet.head.length
  tuple : firstFragmentTuple part =
    if packet.head.offset = 0 then
      some (datagram.envelope.source, datagram.udp.sourcePort, datagram.envelope.destination,
        datagram.udp.destinationPort)
    else none

/-- The inspection of a fragment gives the part that carries its cut. -/
theorem IsFragment.inspect (isFragment : IsFragment fragmentation packet) (outbound : Bool) :
    ∃ part, inspectUdpFragment packet.encode outbound = .ok (.fragment part) ∧
      InspectedAs fragmentation outbound packet part := by
  suffices found : ∃ part, packet.inspect outbound = .ok (.fragment part) ∧
      InspectedAs fragmentation outbound packet part by
    obtain ⟨part, inspected, facts⟩ := found
    exact ⟨part, inspectUdpFragment_encode packet outbound isFragment.fits isFragment.fragmented
      inspected, facts⟩
  unfold FragmentPacket.inspect
  rw [isFragment.firstUdpHeaderOffset]
  unfold fragmentPart
  have aligned : ¬(packet.head.moreFragments = true ∧ ¬packet.body.length % 8 = 0) := by
    rintro ⟨more, unaligned⟩
    exact unaligned (fragmentation.aligned _ isFragment.cut more)
  rw [raiseIf_of_not _ aligned, Outcome.ok_bind]
  have sameKey := isFragment.key outbound
  by_cases start : packet.head.offset = 0
  · have headers : datagram.envelope.chain.length + 8 ≤ packet.body.length :=
      fragmentation.headers _ isFragment.cut start
    obtain ⟨sourceRead, destinationRead⟩ := isFragment.ports start
    rw [if_pos start]
    dsimp only
    rw [raiseIf_of_not _ (by omega), sourceRead, destinationRead]
    refine ⟨_, rfl, ⟨sameKey, rfl, rfl, rfl, fun _ => rfl⟩, rfl, ?_⟩
    rw [if_pos start, sameKey]
    rfl
  · rw [if_neg start]
    refine ⟨_, rfl, ⟨sameKey, rfl, rfl, rfl, fun first => absurd first start⟩, rfl, ?_⟩
    rw [if_neg start]
    rfl

end Fragments

/-! ### Pushes -/

namespace UdpFragmentAssembler

/-- A part can be pushed: no required group has expired, and every budget allows it. -/
structure Admits (assembler : UdpFragmentAssembler Observation) (part : UdpFragmentPart)
    (observationBytes : Nat) (now : Instant) : Prop where
  alive : ¬assembler.ExpiredRequired now
  room : assembler.HasRoom part.key
  bytes : assembler.bufferedBytes + part.fragmentPayload.length ≤ maximumBufferedFragmentBytes
  observations : assembler.bufferedObservations < maximumBufferedFragmentObservations
  observationBytes : assembler.bufferedObservationBytes + observationBytes ≤
    maximumBufferedObservationBytes

instance (assembler : UdpFragmentAssembler Observation) (part : UdpFragmentPart)
    (observationBytes : Nat) (now : Instant) :
    Decidable (assembler.Admits part observationBytes now) :=
  decidable_of_iff
    (¬assembler.ExpiredRequired now ∧ assembler.HasRoom part.key ∧
      assembler.bufferedBytes + part.fragmentPayload.length ≤ maximumBufferedFragmentBytes ∧
      assembler.bufferedObservations < maximumBufferedFragmentObservations ∧
      assembler.bufferedObservationBytes + observationBytes ≤ maximumBufferedObservationBytes)
    ⟨fun ⟨alive, room, bytes, observations, observationBytes⟩ =>
        ⟨alive, room, bytes, observations, observationBytes⟩,
      fun ⟨alive, room, bytes, observations, observationBytes⟩ =>
        ⟨alive, room, bytes, observations, observationBytes⟩⟩

section

variable {slack : Nat} {assembler before after : UdpFragmentAssembler Observation}
  {excludedKey : Option UdpFragmentKey} {part : UdpFragmentPart} {observationBytes : Nat}
  {now : Instant}

/-- An eviction returns budgets. -/
theorem Evicts.totals_le (evicts : Evicts excludedKey before after) :
    after.bufferedBytes ≤ before.bufferedBytes ∧
      after.bufferedObservations ≤ before.bufferedObservations ∧
      after.bufferedObservationBytes ≤ before.bufferedObservationBytes := by
  induction evicts with
  | refl => exact ⟨le_refl _, le_refl _, le_refl _⟩
  | tail _ step =>
    obtain ⟨_, _, found, _, _, rfl⟩ := step
    unfold without
    rw [found]
    dsimp only
    omega

/-- A budget that is met costs no group. -/
theorem Accounted.reserveWhile_eq (accounted : assembler.Accounted slack)
    {exceeded : UdpFragmentAssembler Observation → Bool} (key : UdpFragmentKey)
    (within : exceeded assembler = false) :
    reserveWhile exceeded key assembler = .ok (true, assembler) := by
  obtain ⟨_, _, _, _, _, _⟩ := accounted.reserveWhile_spec exceeded key
  simp_all

/-- A part that is admitted and has no conflict is stored. -/
theorem Accounted.push_admitted (accounted : assembler.Accounted slack)
    (admits : assembler.Admits part observationBytes now)
    (required : ∀ group, assembler.groups.get? part.key = some group → group.isIgnored = false)
    (agrees : assembler.conflict part = .ok ()) (disposition : Option UdpFragmentDisposition)
    (observation : Observation) :
    ∃ pruned : UdpFragmentAssembler Observation, pruned.Accounted slack ∧ pruned.HasRoom part.key ∧
      pruned.groups.get? part.key = assembler.groups.get? part.key ∧
      pruned.conflict part = .ok () ∧
      assembler.pushWithObservation part disposition observation observationBytes now =
        pruned.storeObservation part disposition observation observationBytes
          (pruned.newBytes part) now := by
  rcases accounted.pruneExpired_cases now with ⟨expired, _⟩ | ⟨_, pruned, result, evicts, kept⟩
  · exact absurd expired admits.alive
  have prunedAccounted := evicts.accounted accounted
  have sameGroup : pruned.groups.get? part.key = assembler.groups.get? part.key := by
    cases found : assembler.groups.get? part.key with
    | none => rw [kept, found]; rfl
    | some group => exact evicts.get?_required found (required group found)
  have sameConflict : pruned.conflict part = .ok () := by
    grind [conflict]
  have room : pruned.HasRoom part.key := by
    refine admits.room.imp (fun held => ?_) fun small => evicts.size_le.trans_lt small
    rw [Table.contains, sameGroup]
    exact held
  refine ⟨pruned, prunedAccounted, room, sameGroup, sameConflict, ?_⟩
  obtain ⟨_, _, _⟩ := evicts.totals_le
  obtain ⟨_, _, reserved, _, _, _, unchanged⟩ :=
    prunedAccounted.reserveGroup_spec part.key
  rw [(unchanged room).1, (unchanged room).2] at reserved
  have newBytes : pruned.newBytes part ≤ part.fragmentPayload.length := by
    grind [newBytes]
  have withinBytes : exceedsBytes (pruned.newBytes part) pruned = false := by
    have bytes := admits.bytes
    grind [exceedsBytes]
  have withinObservations : exceedsObservations observationBytes pruned = false := by
    have observations := admits.observations
    have bytes := admits.observationBytes
    grind [exceedsObservations]
  have byteReserved := prunedAccounted.reserveWhile_eq part.key withinBytes
  have observationReserved := prunedAccounted.reserveWhile_eq part.key withinObservations
  simp [pushWithObservation, result, reserved, byteReserved, observationReserved, sameConflict]

end

/-- The cuts of a datagram that the assembler holds, with the packets they came in. -/
structure Collecting {datagram : Datagram} (fragmentation : Fragmentation datagram)
    (outbound : Bool) (seen : List (Cut UInt8)) (observations : List Observation)
    (assembler : UdpFragmentAssembler Observation) : Prop where
  absent : assembler.groups.get? (fragmentation.key outbound) = none → seen = [] ∧ observations = []
  held : ∀ {group}, assembler.groups.get? (fragmentation.key outbound) = some group →
    Collects fragmentation.pieces datagram.envelope.chain.length seen observations group
  known : ∀ cut ∈ seen, cut ∈ fragmentation.cuts

section

variable {slack : Nat} {assembler : UdpFragmentAssembler Observation} {datagram : Datagram}
  {fragmentation : Fragmentation datagram} {outbound : Bool} {seen : List (Cut UInt8)}
  {observations : List Observation} {cut : Cut UInt8} {part : UdpFragmentPart}
  {observationBytes : Nat} {now : Instant} {disposition : Option UdpFragmentDisposition}

theorem collecting_of_absent (absent : assembler.groups.get? (fragmentation.key outbound) = none) :
    Collecting fragmentation outbound [] [] assembler := by
  refine ⟨fun _ => ⟨rfl, rfl⟩, ?_, by simp⟩
  simp_all

variable (collecting : Collecting fragmentation outbound seen observations assembler)
include collecting

theorem Collecting.groupFor (now : Instant) :
    Collects fragmentation.pieces datagram.envelope.chain.length seen observations
      (assembler.groupFor (fragmentation.key outbound) now) := by
  unfold UdpFragmentAssembler.groupFor
  cases found : assembler.groups.get? (fragmentation.key outbound) with
  | none =>
    obtain ⟨rfl, rfl⟩ := collecting.absent found
    exact collects_new _
  | some => exact collecting.held found

theorem Collecting.conflict (member : cut ∈ fragmentation.cuts)
    (carries : Carries (fragmentation.key outbound) datagram.envelope.chain.length cut part) :
    assembler.conflict part = .ok () := by
  rw [conflict_eq_ok assembler part 0, carries.key, carries.offset, carries.content, carries.more]
  have collects := collecting.groupFor 0
  constructor
  · refine validateNoConflictingOverlap_cuts member fun entry entryMember => ?_
    obtain ⟨other, otherSeen, same⟩ := (collects.entries entry).mp entryMember
    exact ⟨other, collecting.known other otherSeen, same⟩
  · intro last length stored
    have stop := stop_of_last member last
    rw [Nat.zero_add, Cut.stop] at stop
    rw [stop]
    exact ((collects.finalLength length).mp stored).1

/-- A cut that arrives is held, and the last one missing completes the datagram. -/
theorem Collecting.push (accounted : assembler.Accounted slack) (member : cut ∈ fragmentation.cuts)
    (carries : Carries (fragmentation.key outbound) datagram.envelope.chain.length cut part)
    (disposed : Disposed cut disposition) (admits : assembler.Admits part observationBytes now)
    (observation : Observation) :
    ((¬∀ other ∈ fragmentation.cuts, other ∈ seen ++ [cut]) →
      ∃ after, assembler.pushWithObservation part disposition observation observationBytes now =
          .ok ⟨.ok none, after⟩ ∧ after.Accounted slack ∧
        Collecting fragmentation outbound (seen ++ [cut]) (observations ++ [observation]) after) ∧
    ((∀ other ∈ fragmentation.cuts, other ∈ seen ++ [cut]) →
      ∃ after reassembled event,
        assembler.pushWithObservation part disposition observation observationBytes now =
          .ok ⟨.ok (some reassembled), after⟩ ∧
        reassembled.event = some event ∧ event.payload = datagram.udp.payload ∧
        reassembled.observations = observations ++ [observation]) := by
  have required : ∀ group, assembler.groups.get? part.key = some group →
      group.isIgnored = false := by
    intro group found
    rw [carries.key] at found
    exact (collecting.held found).required
  obtain ⟨pruned, prunedAccounted, room, sameGroup, agrees, pushed⟩ := accounted.push_admitted
    admits required (collecting.conflict member carries) disposition observation
  rw [carries.key] at sameGroup
  have prunedCollecting : Collecting fragmentation outbound seen observations pruned :=
    ⟨fun gone => collecting.absent (sameGroup ▸ gone),
      fun found => collecting.held (sameGroup ▸ found), collecting.known⟩
  have nowKnown : ∀ other ∈ seen ++ [cut], other ∈ fragmentation.cuts := by
    intro other otherMember
    rcases mem_append.mp otherMember with old | new
    · exact collecting.known other old
    · rw [mem_singleton.mp new]
      exact member
  have collects : Collects fragmentation.pieces datagram.envelope.chain.length (seen ++ [cut])
      (observations ++ [observation])
      (pruned.storedGroup part disposition observation observationBytes now) := by
    unfold storedGroup
    rw [newBytes_eq pruned part now, carries.key]
    exact (prunedCollecting.groupFor now).storePart fragmentation.nonempty collecting.known member
      carries disposed observation observationBytes
  have complete := collects.isComplete_iff fragmentation.inhabited fragmentation.nonempty nowKnown
  have placed : ¬(disposition.isSome = true ∧ part.payloadOffset ≠ 0) := by
    rintro ⟨present, later⟩
    rw [carries.offset] at later
    rw [disposed.later later] at present
    cases present
  rw [pushed]
  obtain ⟨storedAccounted, cases⟩ := Accounted.storeObservation_cases prunedAccounted room agrees
  constructor
  · intro missing
    rcases cases with ⟨present, later, _⟩ | ⟨_, _, result⟩ | ⟨_, done, _⟩
    · exact absurd ⟨present, later⟩ placed
    · have found : (pruned.stored part disposition observation observationBytes now).groups.get?
          (fragmentation.key outbound) =
            some (pruned.storedGroup part disposition observation observationBytes now) := by
        rw [← carries.key]
        exact Table.get?_insert_self _ _ _
      refine ⟨_, result, storedAccounted, ?_, ?_, nowKnown⟩
      · simp_all
      simp_all
    · exact absurd (complete.mp done) missing
  · intro all
    rcases cases with ⟨present, later, _⟩ | ⟨_, notDone, _⟩ | ⟨_, _, done⟩
    · exact absurd ⟨present, later⟩ placed
    · rw [complete.mpr all] at notDone
      cases notDone
    obtain ⟨reassembled, event, assembled, _, payload, _⟩ :=
      collects.assembles fragmentation.whole fragmentation.inhabited fragmentation.nonempty
        nowKnown all
    rcases done with ⟨other, _, result⟩ | ⟨_, failed, _⟩
    · simp_all
    · rw [assembled] at failed
      cases failed

omit collecting

/-- Calls that keep required groups keep what was collected. -/
theorem Collecting.of_kept {after : UdpFragmentAssembler Observation}
    (collecting : Collecting fragmentation outbound seen observations assembler)
    (required : ∀ {group}, assembler.groups.get? (fragmentation.key outbound) = some group →
      group.isIgnored = false → after.groups.get? (fragmentation.key outbound) = some group)
    (absent : assembler.groups.get? (fragmentation.key outbound) = none →
      after.groups.get? (fragmentation.key outbound) = none) :
    Collecting fragmentation outbound seen observations after := by
  cases found : assembler.groups.get? (fragmentation.key outbound) with
  | none =>
    refine ⟨fun _ => collecting.absent found, ?_, collecting.known⟩
    simp_all
  | some group =>
    have collects := collecting.held found
    have kept := required found collects.required
    refine ⟨?_, ?_, collecting.known⟩
    · intro gone
      rw [kept] at gone
      cases gone
    simp_all

/-- A call for another group. -/
def ForOthers (key : UdpFragmentKey) : Action Observation → Prop
  | .push part _ _ _ _ => part.key ≠ key
  | .pollExpired _ => True
  | .drainPendingObservations => False

/-- Traffic of other groups does not disturb a datagram, whether it is stored, refused or in
conflict. -/
theorem Collecting.next (collecting : Collecting fragmentation outbound seen observations assembler)
    (accounted : assembler.Accounted slack) {action : Action Observation}
    (others : ForOthers (fragmentation.key outbound) action) :
    ∃ after, assembler.next action = .ok after ∧ after.Accounted slack ∧
      Collecting fragmentation outbound seen observations after := by
  cases action with
  | push part disposition observation observationBytes now =>
    obtain ⟨pushed, result, keeps⟩ :=
      accounted.push_spec part disposition observation observationBytes now
    refine ⟨pushed.assembler, ?_, keeps.accounted,
      collecting.of_kept (keeps.required (Ne.symm others)) (keeps.absent (Ne.symm others))⟩
    rw [UdpFragmentAssembler.next, result]
    rfl
  | pollExpired now =>
    rw [UdpFragmentAssembler.next, pollExpired]
    rcases accounted.pruneExpired_cases now with ⟨_, _⟩ | ⟨_, pruned, result, evicts, kept⟩
    · simp_all
    rw [result]
    refine ⟨pruned, rfl, evicts.accounted accounted,
      collecting.of_kept evicts.get?_required fun gone => ?_⟩
    rw [kept, gone]
    rfl
  | drainPendingObservations => cases others

end

/-! ### Runs -/

/-- The attribution of a first fragment to a selected process. -/
structure Selection where
  target : OriginalTarget
  direction : UdpDatagramDirection
  clientAddress : SocketAddr
  capturedAtMilliseconds : UInt64

def Selection.disposition (selection : Selection) : UdpFragmentDisposition :=
  .selected selection.target selection.direction selection.clientAddress
    selection.capturedAtMilliseconds

/-- A packet that arrives, with its capture. -/
structure Arrival (Observation : Type) where
  packet : FragmentPacket
  selection : Selection
  observation : Observation
  observationBytes : Nat
  now : Instant

/-- A packet of a datagram arrives, or the assembler is called for something else. -/
inductive Step (Observation : Type) where
  | arrival (arrival : Arrival Observation)
  | other (action : Action Observation)

/-- The disposition that is pushed with a part. -/
def Arrival.disposition (arrival : Arrival Observation) (part : UdpFragmentPart) :
    Option UdpFragmentDisposition :=
  if part.payloadOffset = 0 then some arrival.selection.disposition else none

/-- Feed the assembler with the parts that packets are inspected as, and collect what the pushes
of arrivals return. -/
def feed (outbound : Bool) (assembler : UdpFragmentAssembler Observation) :
    List (Step Observation) → Outcome Empty
      (List (Except UdpFragmentError (Option (ReassembledUdpDatagram Observation))))
  | [] => pure []
  | .arrival arrival :: rest =>
    match inspectUdpFragment arrival.packet.encode outbound with
    | .ok (.fragment part) => do
        let pushed ← assembler.pushWithObservation part (arrival.disposition part)
          arrival.observation arrival.observationBytes arrival.now
        let results ← pushed.assembler.feed outbound rest
        pure (pushed.result :: results)
    | _ => assembler.feed outbound rest
  | .other action :: rest => do
      let after ← assembler.next action
      after.feed outbound rest

/-- The call that a step makes, if any. -/
def Step.action? (outbound : Bool) : Step Observation → Option (Action Observation)
  | .arrival received =>
    match inspectUdpFragment received.packet.encode outbound with
    | .ok (.fragment part) => some (.push part (received.disposition part) received.observation
        received.observationBytes received.now)
    | _ => none
  | .other action => some action

/-- The calls that steps make. -/
def calls (outbound : Bool) (steps : List (Step Observation)) : List (Action Observation) :=
  steps.filterMap (Step.action? outbound)

/-- A push for one group finds the budgets and the lifetimes kept. -/
def Admitted (key : UdpFragmentKey) (outcome : Outcome Empty (UdpFragmentAssembler Observation))
    (action : Action Observation) : Prop :=
  match outcome, action with
  | .ok assembler, .push part _ _ observationBytes now =>
    part.key = key → assembler.Admits part observationBytes now
  | _, _ => True

instance (key : UdpFragmentKey) (outcome : Outcome Empty (UdpFragmentAssembler Observation))
    (action : Action Observation) : Decidable (Admitted key outcome action) :=
  match outcome, action with
  | .ok assembler, .push part _ _ observationBytes now =>
    inferInstanceAs (Decidable (part.key = key → assembler.Admits part observationBytes now))
  | .ok _, .pollExpired _ => isTrue trivial
  | .ok _, .drainPendingObservations => isTrue trivial
  | .error _, _ => isTrue trivial

/-- The packets of the datagram, in the order of their arrival. -/
def arrivals (steps : List (Step Observation)) : List (Arrival Observation) :=
  steps.filterMap fun
    | .arrival arrival => some arrival
    | .other _ => none

/-- The cuts that arrived. -/
def arrivedCuts (arrivals : List (Arrival Observation)) : List (Cut UInt8) :=
  arrivals.map fun arrival => arrival.packet.cut

section

variable {slack : Nat} {datagram : Datagram} {fragmentation : Fragmentation datagram}
  {outbound : Bool}

theorem Arrival.disposed {arrival : Arrival Observation} {part : UdpFragmentPart}
    (carries : Carries (fragmentation.key outbound) datagram.envelope.chain.length
      arrival.packet.cut part) :
    Disposed arrival.packet.cut (arrival.disposition part) := by
  unfold Arrival.disposition
  rw [carries.offset]
  constructor
  · intro first
    rw [if_pos first]
    rfl
  · exact fun later => if_neg later

/-- From any state of the collection, the packets that are still to come complete it. -/
theorem Collecting.feed {fragmentLifetimeOverride : Option Duration}
    {assembler : UdpFragmentAssembler Observation} {seen : List (Cut UInt8)}
    {observations : List Observation}
    (collecting : Collecting fragmentation outbound seen observations assembler)
    (accounted : assembler.Accounted slack) (steps : List (Step Observation))
    (last : Arrival Observation)
    (fragments : ∀ arrival ∈ arrivals steps ++ [last], IsFragment fragmentation arrival.packet)
    (others : ∀ action, .other action ∈ steps → ForOthers (fragmentation.key outbound) action)
    (within : (machine Observation fragmentLifetimeOverride).Guarded
      (Admitted (fragmentation.key outbound)) (.ok assembler)
      (calls outbound (steps ++ [.arrival last])))
    (incomplete : ∃ cut ∈ fragmentation.cuts, cut ∉ seen ++ arrivedCuts (arrivals steps))
    (complete : ∀ cut ∈ fragmentation.cuts, cut ∈ seen ++ arrivedCuts (arrivals steps ++ [last])) :
    ∃ reassembled event,
      assembler.feed outbound (steps ++ [.arrival last]) =
        .ok (List.replicate (arrivals steps).length (.ok none) ++ [.ok (some reassembled)]) ∧
      reassembled.event = some event ∧ event.payload = datagram.udp.payload ∧
      reassembled.observations =
        observations ++ (arrivals steps ++ [last]).map Arrival.observation := by
  induction steps generalizing assembler seen observations with
  | nil =>
    have isFragment := fragments last (by simp)
    obtain ⟨part, inspected, carries, _, _⟩ := isFragment.inspect outbound
    have action : Step.action? outbound (.arrival last) = some (.push part
        (last.disposition part) last.observation last.observationBytes last.now) := by
      rw [Step.action?, inspected]
    rw [nil_append, calls, filterMap_cons_some action] at within
    have admits := within.1 carries.key
    obtain ⟨after, reassembled, event, result, events, payload, packets⟩ :=
      (collecting.push accounted isFragment.cut carries (Arrival.disposed carries) admits
        last.observation).2 complete
    refine ⟨reassembled, event, ?_, events, payload, packets⟩
    rw [nil_append, UdpFragmentAssembler.feed, inspected]
    dsimp only
    rw [result]
    rfl
  | cons step _ ih =>
    cases step with
    | other action =>
      obtain ⟨after, result, afterAccounted, afterCollecting⟩ :=
        collecting.next accounted (others action mem_cons_self)
      have advanced : (machine Observation fragmentLifetimeOverride).step (.ok assembler)
          action = .ok after := result
      obtain ⟨reassembled, event, results, found⟩ := ih afterCollecting
        afterAccounted fragments
        (fun other member => others other (mem_cons_of_mem _ member))
        (advanced ▸ within.2) incomplete complete
      refine ⟨reassembled, event, ?_, found⟩
      rw [cons_append, UdpFragmentAssembler.feed, result]
      exact results
    | arrival arrival =>
      have isFragment := fragments arrival (by simp [arrivals])
      obtain ⟨part, inspected, carries, _, _⟩ := isFragment.inspect outbound
      have action : Step.action? outbound (.arrival arrival) = some (.push part
          (arrival.disposition part) arrival.observation arrival.observationBytes
          arrival.now) := by
        rw [Step.action?, inspected]
      rw [cons_append, calls, filterMap_cons_some action] at within
      have admits := within.1 carries.key
      have missing : ¬∀ other ∈ fragmentation.cuts, other ∈ seen ++ [arrival.packet.cut] := by
        obtain ⟨cut, member, unseen⟩ := incomplete
        intro all
        refine unseen ?_
        rcases mem_append.mp (all cut member) with old | _
        · exact mem_append_left _ old
        grind [arrivals, arrivedCuts]
      obtain ⟨after, result, afterAccounted, afterCollecting⟩ :=
        (collecting.push accounted isFragment.cut carries (Arrival.disposed carries) admits
          arrival.observation).1 missing
      have advanced : (machine Observation fragmentLifetimeOverride).step (.ok assembler)
          (.push part (arrival.disposition part) arrival.observation arrival.observationBytes
            arrival.now) = .ok after := by
        change (assembler.pushWithObservation _ _ _ _ _ >>= fun _ => _) = _
        rw [result]
        rfl
      have shift : ∀ others : List (Arrival Observation),
          seen ++ arrivedCuts (arrival :: others) =
            seen ++ [arrival.packet.cut] ++ arrivedCuts others := by
        simp [arrivedCuts]
      obtain ⟨reassembled, event, results, events, payload, packets⟩ := ih
        afterCollecting afterAccounted
        (fun other member => fragments other (mem_cons_of_mem _ member))
        (fun other member => others other (mem_cons_of_mem _ member))
        (advanced ▸ within.2) (shift _ ▸ incomplete) (shift _ ▸ complete)
      refine ⟨reassembled, event, ?_, events, payload, ?_⟩
      · rw [cons_append, UdpFragmentAssembler.feed, inspected]
        dsimp only
        rw [result, Outcome.ok_bind, results]
        rfl
      · rw [packets]
        simp [arrivals]

end

/-- A query of sixteen octets from `192.0.2.10:4660` to `198.51.100.20:53`. -/
def query : Datagram where
  envelope := .v4
    ⟨0, 7, 0, 64, 0, ⟨[192, 0, 2, 10], rfl⟩, ⟨[198, 51, 100, 20], rfl⟩, 0, ⟨[], rfl⟩⟩ rfl
  udp := ⟨4660, 53, 0, [1, 2, 3, 4, 5, 6, 7, 8], [], by decide⟩
  fits := by decide

/-- The query with its header and its payload in fragments of their own. -/
def queryFragmentation : Fragmentation query where
  identification := 7
  pieces := [[0x12, 0x34, 0, 53, 0, 16, 0, 0], [1, 2, 3, 4, 5, 6, 7, 8]]
  whole := by decide
  nonempty := by decide
  aligned := by decide
  headers := by decide
  divided := by decide

/-- The packet of one of the fragments, with a padding of its own. -/
def queryPacket (fragment : UInt16) (body padding : Bytes) : FragmentPacket where
  head := .v4 ⟨0, 7, fragment, 64, 0, ⟨[192, 0, 2, 10], rfl⟩, ⟨[198, 51, 100, 20], rfl⟩, 0,
    ⟨[], rfl⟩⟩
  body
  padding

theorem isFragment_first (padding : Bytes) :
    IsFragment queryFragmentation (queryPacket 0x2000 [0x12, 0x34, 0, 53, 0, 16, 0, 0] padding) :=
  ⟨(by decide : (⟨0, [0x12, 0x34, 0, 53, 0, 16, 0, 0], true⟩ : Cut UInt8) ∈
      queryFragmentation.cuts), fun _ => rfl, rfl, (by decide : 28 < 65536)⟩

theorem isFragment_second (padding : Bytes) :
    IsFragment queryFragmentation (queryPacket 1 [1, 2, 3, 4, 5, 6, 7, 8] padding) :=
  ⟨(by decide : (⟨8, [1, 2, 3, 4, 5, 6, 7, 8], false⟩ : Cut UInt8) ∈ queryFragmentation.cuts),
    fun _ => rfl, rfl, (by decide : 28 < 65536)⟩

def querySelection : Selection where
  target := ⟨4200, .v4 ⟨[198, 51, 100, 20], rfl⟩ 53⟩
  direction := .up
  clientAddress := .v4 ⟨[192, 0, 2, 10], rfl⟩ 4660
  capturedAtMilliseconds := 0

/-- The second fragment comes first and twice, with a check for expired groups in between. -/
def outOfOrder : List (Step Nat) :=
  [ .arrival ⟨queryPacket 1 [1, 2, 3, 4, 5, 6, 7, 8] [0, 0], querySelection, 1, 30, 0⟩,
    .other (.pollExpired 5),
    .arrival ⟨queryPacket 1 [1, 2, 3, 4, 5, 6, 7, 8] [], querySelection, 2, 28, 7⟩ ]

def firstFragment : Arrival Nat :=
  ⟨queryPacket 0x2000 [0x12, 0x34, 0, 53, 0, 16, 0, 0] [], querySelection, 3, 28, 9⟩

end UdpFragmentAssembler

end SprakCapture.ProcessCapture
