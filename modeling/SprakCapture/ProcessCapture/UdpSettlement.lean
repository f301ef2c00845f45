import SprakCapture.ProcessCapture.FragmentRewrite

/-!
# What becomes of packets

A decision about a datagram settles every packet that the datagram came in: the packet
is sent, it is dropped, or it comes back to be sent unchanged. This holds for arbitrary
packets, since a packet that cannot be rewritten is an error that hands back the group.
Packets are followed by their capture numbers, which rewriting keeps.
-/

namespace SprakCapture.ProcessCapture

open Data List Data.Outcome Outcome UdpObservationError
open Outcome (bind_eq_ok ok_bind)

/-- The capture numbers of packets. -/
def sequences (observations : List PendingUdpObservation) : List UInt64 :=
  observations.map PendingUdpObservation.captureSequence

/-- The packet that a terminal is about. -/
def Terminal.captureSequence : Terminal → UInt64
  | .reinjected observation => observation.captureSequence
  | .dropped observation => observation.captureSequence

/-- The capture numbers of the packets that were settled. -/
def settledSequences (terminals : List Terminal) : List UInt64 :=
  terminals.map Terminal.captureSequence

@[simp] theorem sequences_append (first second : List PendingUdpObservation) :
    sequences (first ++ second) = sequences first ++ sequences second :=
  map_append

@[simp] theorem settledSequences_append (first second : List Terminal) :
    settledSequences (first ++ second) = settledSequences first ++ settledSequences second :=
  map_append

@[simp] theorem settledSequences_dropped (observations : List PendingUdpObservation) :
    settledSequences (observations.map .dropped) = sequences observations := by
  simp [settledSequences, sequences, Terminal.captureSequence]

/-! ### Inspected packets -/

/-- What the inspection of a fragment guarantees. -/
structure Inspects (packet : Bytes) (part : UdpFragmentPart) : Prop where
  headers : 20 ≤ part.packetPayloadOffset
  inside : part.packetPayloadOffset ≤ packet.length
  family : part.key.sourceAddress.isIpv4 = part.key.destinationAddress.isIpv4
  placed : (firstFragmentTuple part).isSome = true → part.payloadOffset = 0

variable {part : UdpFragmentPart} {packet : Bytes}

theorem fragmentPart_inspects {key : UdpFragmentKey} {payloadOffset : Nat} {moreFragments : Bool}
    {fragmentPayload : Bytes} {packetBytes : Nat} {udpHeaderOffset : Option Nat}
    {packetPayloadOffset : Nat}
    (inspected : fragmentPart key payloadOffset moreFragments fragmentPayload packetBytes
      udpHeaderOffset packetPayloadOffset = .ok (.fragment part))
    (headers : 20 ≤ packetPayloadOffset) (inside : packetPayloadOffset ≤ packet.length)
    (family : key.sourceAddress.isIpv4 = key.destinationAddress.isIpv4)
    (placed : udpHeaderOffset.isSome = true → payloadOffset = 0) : Inspects packet part := by
  unfold fragmentPart at inspected
  simp only [bind_eq_ok] at inspected
  obtain ⟨_, _, inspected⟩ := inspected
  cases udpHeaderOffset with
  | none =>
    cases inspected
    exact ⟨headers, inside, family, by rintro ⟨⟩⟩
  | some =>
    simp only [bind_eq_ok] at inspected
    obtain ⟨_, _, _, _, _, _, result⟩ := inspected
    cases result
    exact ⟨headers, inside, family, fun _ => placed rfl⟩

variable {outbound : Bool}

theorem inspectIpv4Fragment_inspects
    (inspected : inspectIpv4Fragment packet outbound = .ok (.fragment part)) :
    Inspects packet part := by
  unfold inspectIpv4Fragment at inspected
  simp only [bind_eq_ok, raiseIf_eq_ok] at inspected
  obtain ⟨_, _, _, _, _, _, _, _, _, _, _, _, fragment, _, inspected⟩ := inspected
  split at inspected
  · cases inspected
  · simp only [bind_eq_ok] at inspected
    obtain ⟨_, _, _, _, _, _, _, _, result⟩ := inspected
    refine fragmentPart_inspects result (by omega) (by omega) rfl ?_
    simp

variable {source destination : Octets 16}

variable {Error : Type} {bytes : Bytes} {packetEnd index offset : Nat}

theorem inspectFragmentHeader_inspects (headers : 40 ≤ offset)
    (inspected : inspectFragmentHeader packet outbound packetEnd source destination offset =
      .ok (.fragment part)) : Inspects packet part := by
  unfold inspectFragmentHeader at inspected
  simp only [bind_eq_ok] at inspected
  obtain ⟨_, _, fragment, _, _, sliced, _, _, _, located, _, _, result⟩ :=
    inspected
  obtain ⟨_, _, _⟩ := slice_eq_ok.mp sliced
  refine fragmentPart_inspects result (by omega) (by omega) rfl ?_
  intro isSome
  unfold firstUdpHeaderOffset at located
  split at located
  · rename_i start
    exact start
  · cases located
    cases isSome

theorem fragmentChain_inspects {position : ChainPosition} {fragment : UdpPacketFragment}
    (loops : LoopsTo (fragmentChainStep packet outbound packetEnd source destination)
      position fragment) (headers : 40 ≤ position.offset) (isFragment : fragment = .fragment part) :
    Inspects packet part := by
  induction loops with
  | @done position fragment result =>
    subst isFragment
    unfold fragmentChainStep at result
    split at result
    · cases result
    split at result
    · simp only [bind_eq_ok] at result
      obtain ⟨_, _, _, _, _, _, result⟩ := result
      cases result
    split at result
    · obtain ⟨_, inspected, same⟩ := bind_eq_ok.mp result
      cases same
      exact inspectFragmentHeader_inspects headers inspected
    · cases result
  | next result _ ih =>
    have progress := (fragmentChainStep_next.mp result).2.progress
    exact ih (by omega) isFragment

theorem inspectIpv6Fragment_inspects
    (inspected : inspectIpv6Fragment packet outbound = .ok (.fragment part)) :
    Inspects packet part := by
  unfold inspectIpv6Fragment at inspected
  simp only [bind_eq_ok] at inspected
  obtain ⟨_, _, _, _, _, _, _, _, _, _, _, _, _, _, result⟩ := inspected
  exact fragmentChain_inspects (loopsTo_of_loop result) (le_refl _) rfl

theorem inspectUdpFragment_inspects
    (inspected : inspectUdpFragment packet outbound = .ok (.fragment part)) :
    Inspects packet part := by
  unfold inspectUdpFragment at inspected
  split at inspected
  · cases inspected
  split at inspected
  · exact inspectIpv4Fragment_inspects inspected
  · split at inspected
    · exact inspectIpv6Fragment_inspects inspected
    · cases inspected

/-! ### Errors of rewriting -/

/-- Errors about a packet or about its processing; the packet is still there. -/
def UdpObservationError.Restorable : UdpObservationError → Prop
  | .packet _ => True
  | .processing _ => True
  | _ => False

theorem failsOnly_overwrite {allowed : Error → Prop} {bytes patch : Bytes} {offset : Nat}
    (fits : offset + patch.length ≤ bytes.length) :
    (overwrite bytes offset patch).FailsOnly allowed := by
  rw [overwrite_of_fits fits]
  exact failsOnly_ok _

/-- An overwritten string keeps its length and the octets in front. -/
theorem overwrite_keeps {patch written : Bytes} {offset : Nat}
    (result : (overwrite bytes offset patch : Outcome Error Bytes) = .ok written)
    (behind : 0 < offset) : written.length = bytes.length ∧ written[0]? = bytes[0]? := by
  unfold overwrite at result
  split at result
  · rename_i fits
    cases result
    refine ⟨length_splice fits, ?_⟩
    rw [getElem?_splice fits, if_neg (by omega)]
  · cases result

theorem exists_byteAt (inside : index < bytes.length) :
    ∃ byte, (byteAt bytes index : Outcome Error UInt8) = .ok byte :=
  ⟨_, byteAt_eq_ok.mpr (getElem?_eq_getElem inside)⟩

theorem exists_u16At (inside : index + 1 < bytes.length) :
    ∃ value, (u16At bytes index : Outcome Error UInt16) = .ok value :=
  ⟨_, u16At_eq_ok.mpr ⟨_, _, getElem?_eq_getElem (by omega), getElem?_eq_getElem inside, rfl⟩⟩

theorem failsOnly_writeIpPacketLength (long : 8 ≤ packet.length) :
    (writeIpPacketLength packet).FailsOnly Restorable := by
  obtain ⟨_, read⟩ := @exists_byteAt _ packet 0 (by omega)
  unfold writeIpPacketLength
  rw [read]
  refine failsOnly_ite (fun _ => ?_) fun _ => ?_
  · refine failsOnly_guard trivial fun _ => failsOnly_overwrite ?_
    rw [length_u16ToBe]
    omega
  · refine failsOnly_ite (fun _ => ?_) fun _ => failsOnly_raise trivial
    refine failsOnly_guard trivial fun _ => failsOnly_overwrite ?_
    rw [length_u16ToBe]
    omega

/-- A packet whose length could be written has a known IP version. -/
theorem writeIpPacketLength_eq_ok {packet written : Bytes}
    (result : writeIpPacketLength packet = .ok written) :
    written.length = packet.length ∧
      ∃ first : UInt8, written[0]? = some first ∧ (first >>> 4 = 4 ∨ first >>> 4 = 6) := by
  obtain ⟨first, read, result⟩ := bind_eq_ok.mp result
  split at result
  · rename_i ipv4
    obtain ⟨_, _, result⟩ := bind_eq_ok.mp result
    obtain ⟨length, front⟩ := overwrite_keeps result (by omega)
    exact ⟨length, first, front.trans (byteAt_eq_ok.mp read), .inl ipv4⟩
  · split at result
    · rename_i ipv6
      obtain ⟨_, _, result⟩ := bind_eq_ok.mp result
      obtain ⟨length, front⟩ := overwrite_keeps result (by omega)
      exact ⟨length, first, front.trans (byteAt_eq_ok.mp read), .inr ipv6⟩
    · cases result

theorem failsOnly_writeFragmentPacketLength {fragmentPayloadOffset : Nat}
    (long : 20 ≤ packet.length) (inside : fragmentPayloadOffset ≤ packet.length)
    (moreFragments : Bool) :
    (writeFragmentPacketLength packet fragmentPayloadOffset moreFragments).FailsOnly
      Restorable := by
  refine failsOnly_bind (failsOnly_writeIpPacketLength (by omega)) fun written result => ?_
  obtain ⟨length, _, read, version⟩ := writeIpPacketLength_eq_ok result
  rw [byteAt_eq_ok.mpr read]
  refine failsOnly_ite (fun _ => ?_) fun notIpv4 => ?_
  · obtain ⟨field, fieldRead⟩ := @exists_u16At _ written 6 (by omega)
    rw [fieldRead]
    exact failsOnly_overwrite (by rw [length_u16ToBe]; omega)
  rw [if_pos (version.resolve_left notIpv4)]
  refine failsOnly_guard trivial fun _ => ?_
  obtain ⟨field, fieldRead⟩ :=
    @exists_u16At _ written (fragmentPayloadOffset - 8 + 2) (by omega)
  dsimp only
  rw [fieldRead]
  exact failsOnly_overwrite (by rw [length_u16ToBe]; omega)

variable (divert : Divert)

theorem failsOnly_recalculated (noUdp : Bool) (packet : Bytes) :
    (recalculated divert noUdp packet).FailsOnly Restorable := by
  unfold recalculated
  split
  · exact failsOnly_ok _
  · exact failsOnly_raise trivial

theorem failsOnly_inspectFragmentOf (observation : PendingUdpObservation) (notFragment : String) :
    (inspectFragmentOf observation notFragment).FailsOnly Restorable := by
  refine failsOnly_bind ?_ fun fragment _ => ?_
  · exact (safe_inspectUdpFragment _ _).failsOnly.mapError fun _ _ => trivial
  · cases fragment with
    | whole => exact failsOnly_raise trivial
    | fragment part => exact failsOnly_ok part

theorem inspectFragmentOf_eq_ok {observation : PendingUdpObservation} {notFragment : String}
    (result : inspectFragmentOf observation notFragment = .ok part) :
    inspectUdpFragment observation.packet observation.outbound = .ok (.fragment part) := by
  obtain ⟨fragment, inspected, result⟩ := bind_eq_ok.mp result
  cases fragment with
  | whole => cases result
  | fragment =>
    cases result
    exact mapError_eq_ok.mp inspected

theorem failsOnly_rewriteFragmentPayload (bytes : Bytes) (observation : PendingUdpObservation) :
    (rewriteFragmentPayload divert bytes observation).FailsOnly Restorable := by
  refine failsOnly_bind (failsOnly_inspectFragmentOf _ _) fun part found => ?_
  have inspects := inspectUdpFragment_inspects (inspectFragmentOf_eq_ok found)
  have headers := inspects.headers
  have inside := inspects.inside
  refine failsOnly_ite (fun _ => failsOnly_ok _) fun _ => ?_
  have headRead : (slice observation.packet 0 part.packetPayloadOffset :
      Outcome UdpObservationError Bytes) = .ok (observation.packet.take part.packetPayloadOffset) :=
    slice_eq_ok.mpr ⟨by omega, inside, by rw [drop_zero, Nat.sub_zero]⟩
  have headLength : (observation.packet.take part.packetPayloadOffset).length =
      part.packetPayloadOffset := by
    rw [length_take]
    omega
  rw [headRead, ok_bind, slice_eq_ok.mpr ⟨by omega, by omega, rfl⟩, ok_bind]
  refine failsOnly_bind (failsOnly_writeFragmentPacketLength ?_ ?_ _) fun _ _ => ?_
  · rw [length_append]
    omega
  · rw [length_append]
    omega
  · exact failsOnly_bind (failsOnly_recalculated _ _ _) fun _ _ => failsOnly_ok _

variable {observation rewritten : PendingUdpObservation}

theorem rewriteFragmentPayload_captureSequence {divert : Divert} {bytes : Bytes}
    (result : rewriteFragmentPayload divert bytes observation = .ok (some rewritten)) :
    rewritten.captureSequence = observation.captureSequence := by
  obtain ⟨_, _, result⟩ := bind_eq_ok.mp result
  dsimp only at result
  split at result
  · cases result
  · simp only [bind_eq_ok] at result
    obtain ⟨_, _, _, _, _, _, _, _, result⟩ := result
    cases result
    rfl

variable (packets : List PendingUdpObservation)

theorem failsOnly_fragmentTransportMetadata :
    (fragmentTransportMetadata packets).FailsOnly Restorable := by
  induction packets with
  | nil => exact failsOnly_raise trivial
  | cons _ _ ih =>
    refine failsOnly_bind (failsOnly_inspectFragmentOf _ _) fun _ _ => ?_
    split
    · exact ih
    · split
      · exact failsOnly_raise trivial
      · exact failsOnly_ok _

/-- The addresses of a group have one family. -/
theorem fragmentTransportMetadata_family {packets : List PendingUdpObservation}
    {transport : FragmentTransport} (result : fragmentTransportMetadata packets = .ok transport) :
    transport.sourceAddress.isIpv4 = transport.destinationAddress.isIpv4 := by
  induction packets with
  | nil => cases result
  | cons _ _ ih =>
    obtain ⟨_, found, result⟩ := bind_eq_ok.mp result
    have inspects := inspectUdpFragment_inspects (inspectFragmentOf_eq_ok found)
    split at result
    · exact ih result
    rename_i tuple
    split at result
    · cases result
    · cases result
      simp only [firstFragmentTuple, Option.bind_eq_bind, Option.bind_eq_some_iff] at tuple
      obtain ⟨_, _, _, _, rfl, _, rfl, _⟩ := tuple
      exact inspects.family

theorem failsOnly_buildFragmentableUdpBytes (udpHeaderOffset : Nat) (payload : Bytes)
    (checksum : UInt16) :
    (buildFragmentableUdpBytes packets udpHeaderOffset payload checksum).FailsOnly
      fun _ => True := by
  unfold buildFragmentableUdpBytes
  split
  · exact failsOnly_raise trivial
  split
  · exact failsOnly_raise trivial
  rename_i part _ headerBytes sourceAddress known
  have length : headerBytes.length = udpHeaderOffset + 8 := by
    grind [fragmentPayloadPrefix]
  refine failsOnly_bind ?_ fun written result => ?_
  · refine failsOnly_ite (fun _ => failsOnly_overwrite ?_) fun _ =>
      failsOnly_raise trivial
    rw [length_u16ToBe]
    omega
  · have writtenLength : written.length = udpHeaderOffset + 8 := by
      unfold writeUdpLength at result
      split at result
      · rw [(overwrite_keeps result (by omega)).1, length]
      · cases result
    obtain ⟨_, read⟩ := @exists_u16At _ written (udpHeaderOffset + 6) (by omega)
    rw [read, ok_bind]
    refine failsOnly_bind (failsOnly_overwrite ?_) fun _ _ => failsOnly_ok _
    rw [length_u16ToBe]
    omega

/-! ### Fragment groups -/

/-- An entry of a rewritten group keeps the capture number. -/
def KeepsSequence (entry : PendingUdpObservation × Option PendingUdpObservation) : Prop :=
  ∀ rewritten, entry.2 = some rewritten → rewritten.captureSequence = entry.1.captureSequence

theorem keepsSequence_entries {divert : Divert} {bytes : Bytes}
    {translate : UdpObservationError → UdpObservationError} {packets : List PendingUdpObservation}
    {entries : List (PendingUdpObservation × Option PendingUdpObservation)}
    (related : List.Forall₂ (fun original entry => (do
      let rewritten ← (rewriteFragmentPayload divert bytes original).mapError translate
      pure (original, rewritten)) = Except.ok entry) packets entries) :
    entries.map Prod.fst = packets ∧ ∀ entry ∈ entries, KeepsSequence entry := by
  induction related with
  | nil => exact ⟨rfl, by simp⟩
  | @cons original entry _ _ rewrote _ ih =>
    obtain ⟨rewritten, result, same⟩ := bind_eq_ok.mp rewrote
    cases same
    refine ⟨congrArg (original :: ·) ih.1, ?_⟩
    intro entry member
    rcases mem_cons.mp member with rfl | member
    · rintro _ rfl
      exact rewriteFragmentPayload_captureSequence (mapError_eq_ok.mp result)
    · exact ih.2 entry member

/-- A group is rewritten packet by packet, or an error hands back all of it. -/
theorem rewriteFragments_cases {payload : Bytes} (bounded : payload.length + 8 < 65536) :
    (∃ entries, rewriteFragments divert packets payload = .ok entries ∧
        entries.map Prod.fst = packets ∧ ∀ entry ∈ entries, KeepsSequence entry) ∨
      ∃ detail, rewriteFragments divert packets payload = .raise (.restore detail packets) := by
  have restored : ∀ error : UdpObservationError, error.Restorable →
      ∃ detail, error.restoring packets = .restore detail packets := by
    intro error restorable
    cases error with
    | packet detail | processing detail => exact ⟨detail, rfl⟩
    | _ => cases restorable
  have fails : (rewriteFragments divert packets payload).FailsOnly
      fun error => ∃ detail, error = .restore detail packets := by
    refine failsOnly_bind
      ((failsOnly_fragmentTransportMetadata packets).mapError restored) fun transport found => ?_
    have family := fragmentTransportMetadata_family (mapError_eq_ok.mp found)
    obtain ⟨_, summed⟩ := udpChecksum_eq_ok family transport.sourcePort transport.destinationPort bounded
    rw [summed, ok_bind]
    refine failsOnly_bind
      ((failsOnly_buildFragmentableUdpBytes _ _ _ _).mapError fun detail _ => ⟨detail, rfl⟩)
      fun bytes _ => ?_
    refine failsOnly_mapM fun original _ => ?_
    exact failsOnly_bind
      ((failsOnly_rewriteFragmentPayload divert bytes original).mapError restored)
      fun _ _ => failsOnly_ok _
  rcases fails.cases with ⟨entries, result⟩ | ⟨error, result, detail, rfl⟩
  · refine .inl ⟨entries, result, ?_⟩
    unfold rewriteFragments at result
    simp only [bind_eq_ok] at result
    obtain ⟨_, _, _, _, bytes, _, results⟩ := result
    exact keepsSequence_entries (forall₂_of_mapM_eq_ok results)
  · exact .inr ⟨detail, result⟩

/-- Sending goes through, or hands back what was not sent. -/
theorem sendRewritten_cases {packets : List (PendingUdpObservation × PendingUdpObservation)}
    (kept : ∀ entry ∈ packets, entry.2.captureSequence = entry.1.captureSequence) :
    ((sendRewritten divert packets).result = .ok () ∧
        settledSequences (sendRewritten divert packets).terminals =
          sequences (packets.map Prod.fst)) ∨
      ∃ detail unsent, (sendRewritten divert packets).result = .raise (.restore detail unsent) ∧
        settledSequences (sendRewritten divert packets).terminals ++ sequences unsent =
          sequences (packets.map Prod.fst) := by
  induction packets with
  | nil => exact .inl ⟨rfl, rfl⟩
  | cons entry _ ih =>
    obtain ⟨original, rewritten⟩ := entry
    have same : rewritten.captureSequence = original.captureSequence := kept _ mem_cons_self
    rw [sendRewritten]
    cases divert.send rewritten with
    | error detail => exact .inr ⟨detail, _, rfl, rfl⟩
    | ok =>
      rcases ih fun other member => kept other (.tail _ member) with
        ⟨result, settled⟩ | ⟨detail, unsent, result, settled⟩
      · refine .inl ⟨result, ?_⟩
        change rewritten.captureSequence :: settledSequences _ = original.captureSequence :: _
        rw [same, settled]
        rfl
      · refine .inr ⟨detail, unsent, result, ?_⟩
        change rewritten.captureSequence :: (settledSequences _ ++ sequences unsent) =
          original.captureSequence :: _
        rw [same, settled]
        rfl

/-- Every packet of a group is kept or left behind. -/
theorem kept_tail_perm (entries : List (PendingUdpObservation × Option PendingUdpObservation)) :
    ((keptPackets entries).map Prod.fst ++ tailPackets entries).Perm (entries.map Prod.fst) := by
  induction entries with
  | nil => exact .refl _
  | cons entry rest ih =>
    obtain ⟨original, rewritten⟩ := entry
    cases rewritten with
    | some => simpa [keptPackets, tailPackets] using ih
    | none =>
      have tail : tailPackets ((original, none) :: rest) = original :: tailPackets rest := by
        simp [tailPackets]
      have kept : keptPackets ((original, none) :: rest) = keptPackets rest := by
        simp [keptPackets]
      grind

theorem keptPackets_sequence {entries : List (PendingUdpObservation × Option PendingUdpObservation)}
    (keeps : ∀ entry ∈ entries, KeepsSequence entry) :
    ∀ entry ∈ keptPackets entries, entry.2.captureSequence = entry.1.captureSequence := by
  intro entry member
  obtain ⟨source, sourceMember, found⟩ := mem_filterMap.mp member
  obtain ⟨rewritten, rewrote, rfl⟩ := Option.map_eq_some_iff.mp found
  exact keeps source sourceMember rewritten rewrote

/-- A decision makes a payload longer than it was captured. -/
def UdpDatagramDecision.Expands (event : UdpDatagramEvent) : UdpDatagramDecision → Prop
  | .forward payload _ => event.payload.length < payload.length
  | _ => False

/-- A decision about a group that does not expand its payload settles every packet of it, or
hands the rest back. -/
theorem applyFragmentDecision_cases (observations : List PendingUdpObservation)
    {event : UdpDatagramEvent} (bounded : event.payload.length + 8 < 65536)
    (decision : UdpDatagramDecision) :
    (decision.Expands event ∧ ∃ detail,
        applyFragmentDecision divert observations event decision =
          ⟨.raise (.processing detail), []⟩) ∨
      (∃ forwarded, (applyFragmentDecision divert observations event decision).result =
          .ok forwarded ∧
        (settledSequences
          (applyFragmentDecision divert observations event decision).terminals).Perm
            (sequences observations)) ∨
      ∃ detail unsent, (applyFragmentDecision divert observations event decision).result =
          .raise (.restore detail unsent) ∧
        (settledSequences
          (applyFragmentDecision divert observations event decision).terminals ++
            sequences unsent).Perm (sequences observations) := by
  cases decision with
  | drop | close =>
    exact .inr (.inl ⟨none, rfl, by rw [applyFragmentDecision, settledSequences_dropped]⟩)
  | forward payload =>
    have order : (sequences (observations.insertionSort captureOrder)).Perm
        (sequences observations) :=
      (perm_insertionSort captureOrder observations).map _
    rw [applyFragmentDecision]
    split
    · rename_i expands
      exact .inl ⟨expands, _, rfl⟩
    rcases rewriteFragments_cases divert (observations.insertionSort captureOrder)
        (show payload.length + 8 < 65536 by omega) with
      ⟨entries, result, originals, keeps⟩ | ⟨detail, result⟩
    · rw [result]
      dsimp only
      have shared : (sequences ((keptPackets entries).map Prod.fst) ++
          sequences (tailPackets entries)).Perm (sequences observations) := by
        rw [← sequences_append]
        exact ((kept_tail_perm entries).map _).trans (originals ▸ order)
      rcases sendRewritten_cases divert (keptPackets_sequence keeps) with
        ⟨sent, settled⟩ | ⟨detail, unsent, sent, settled⟩
      · simp_all
      · refine .inr (.inr ⟨detail, unsent, by rw [sent]; rfl, ?_⟩)
        rw [settledSequences_append, settledSequences_dropped]
        grind
    · rw [result]
      exact .inr (.inr ⟨detail, _, rfl, order⟩)

/-! ### Whole packets -/

theorem failsOnly_replaceWholeUdpPayload {packet payload : Bytes} {parsed : ObservedUdpPacket}
    (found : parseUdpPacket packet = .ok (some parsed)) :
    (replaceWholeUdpPayload packet parsed payload).FailsOnly Restorable := by
  obtain ⟨header, ordered, inside⟩ := parseUdpPacket_range found
  have headRead : (slice packet 0 parsed.payloadOffset : Outcome UdpObservationError Bytes) =
      .ok (packet.take parsed.payloadOffset) :=
    slice_eq_ok.mpr ⟨by omega, by omega, by rw [drop_zero, Nat.sub_zero]⟩
  have headLength : (packet.take parsed.payloadOffset).length = parsed.payloadOffset := by
    rw [length_take]
    omega
  unfold replaceWholeUdpPayload
  rw [checkedSub_of_le header, ok_bind, checkedSub_of_le ordered,
    ok_bind, checkedSub_of_le (by omega), ok_bind, headRead,
    ok_bind, slice_eq_ok.mpr ⟨inside, le_refl _, rfl⟩, ok_bind]
  refine failsOnly_bind ?_ fun _ result => failsOnly_writeIpPacketLength ?_
  · refine @FailsOnly.mapError _ _ (fun _ => True) _ _ ?_ _ _ fun _ _ => trivial
    refine failsOnly_ite (fun _ => failsOnly_overwrite ?_) fun _ =>
      failsOnly_raise trivial
    grind [length_u16ToBe]
  · have length := mapError_eq_ok.mp result
    unfold writeUdpLength at length
    split at length
    · rw [(overwrite_keeps length (by omega)).1]
      simp only [length_append]
      omega
    · cases length

theorem failsOnly_rewriteWhole (observation : PendingUdpObservation) (payload : Bytes) :
    (rewriteWhole divert observation payload).FailsOnly Restorable := by
  refine failsOnly_bind
    ((safe_parseUdpPacket _).failsOnly.mapError fun _ _ => trivial) fun parsed found => ?_
  cases parsed with
  | none => exact failsOnly_raise trivial
  | some parsed =>
    refine failsOnly_bind (failsOnly_replaceWholeUdpPayload (mapError_eq_ok.mp found)) fun _ _ => ?_
    exact failsOnly_bind (failsOnly_recalculated _ _ _) fun _ _ => failsOnly_ok _

theorem rewriteWhole_captureSequence {divert : Divert} {payload : Bytes}
    (result : rewriteWhole divert observation payload = .ok rewritten) :
    rewritten.captureSequence = observation.captureSequence := by
  obtain ⟨parsed, _, result⟩ := bind_eq_ok.mp result
  cases parsed with
  | none => cases result
  | some parsed =>
    simp only [bind_eq_ok] at result
    obtain ⟨_, _, _, _, result⟩ := result
    cases result
    rfl

/-- A decision about a whole packet settles it, or leaves it for the caller. -/
theorem applyWholePacketDecision_cases {divert : Divert}
    (sends : ∀ observation, divert.send observation = .ok ()) (observation : PendingUdpObservation)
    (event : UdpDatagramEvent) (decision : UdpDatagramDecision) :
    (∃ error, applyWholePacketDecision divert observation event decision = ⟨.raise error, []⟩ ∧
        error.Restorable) ∨
      ∃ forwarded, (applyWholePacketDecision divert observation event decision).result =
          .ok forwarded ∧
        settledSequences (applyWholePacketDecision divert observation event decision).terminals =
          [observation.captureSequence] := by
  cases decision with
  | drop | close => exact .inr ⟨none, rfl, rfl⟩
  | forward payload =>
    rw [applyWholePacketDecision]
    split
    · exact .inl ⟨_, rfl, trivial⟩
    rcases (failsOnly_rewriteWhole divert observation payload).cases with
      ⟨_, result⟩ | ⟨error, result, restorable⟩
    · rw [result]
      dsimp only
      rw [sends]
      exact .inr ⟨_, rfl, congrArg (· :: []) (rewriteWhole_captureSequence result)⟩
    · rw [result]
      exact .inl ⟨error, rfl, restorable⟩

end SprakCapture.ProcessCapture
