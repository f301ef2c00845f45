import SprakCapture.ProcessCapture.FragmentRoundTrip
import SprakCapture.ProcessCapture.UdpResolver
import SprakCapture.ProcessCapture.UdpSettlement

/-!
# One end for every packet

Every packet that the resolver takes over is to end once: it is sent, dropped by a
decision, or kept to be sent unchanged. The account is a balance of capture numbers:
those of the packets that ended and of the packets still held are together those of
the packets taken over. Steps that lose packets exist; `Lossless` says when a step is
none of them, and a run of such steps keeps the balance.
-/

namespace SprakCapture.ProcessCapture

open Data List Data.Outcome UdpFragmentAssembler Settled ResolverState
open Outcome (ok_bind)

/-! ### The assembler -/

namespace UdpFragmentAssembler

variable {Observation : Type}

/-- The packets that the assembler holds. -/
def pending (assembler : UdpFragmentAssembler Observation) : List Observation :=
  assembler.drainPendingObservations.1

theorem pending_eq (assembler : UdpFragmentAssembler Observation) :
    assembler.pending = assembler.faultObservations ++
      assembler.groups.values.flatMap FragmentGroup.observations := rfl

@[simp] theorem pending_drained (assembler : UdpFragmentAssembler Observation) :
    assembler.drainPendingObservations.2.pending = [] := by
  simp [pending, drainPendingObservations]

/-- A part is stored without a loss: no group has expired, every budget allows the part, and it
agrees with its group. -/
structure Keeps (assembler : UdpFragmentAssembler Observation) (part : UdpFragmentPart)
    (observationBytes : Nat) (now : Instant) : Prop where
  alive : ∀ group ∈ assembler.groups.values, now < group.expiresAt
  room : assembler.HasRoom part.key
  bytes : assembler.bufferedBytes + assembler.newBytes part ≤ maximumBufferedFragmentBytes
  observations : assembler.bufferedObservations < maximumBufferedFragmentObservations
  observationBytes : assembler.bufferedObservationBytes + observationBytes ≤
    maximumBufferedObservationBytes
  agrees : assembler.conflict part = .ok ()

section

variable {slack : Nat} {assembler : UdpFragmentAssembler Observation} {part : UdpFragmentPart}
  {disposition : Option UdpFragmentDisposition} {observation : Observation}
  {observationBytes : Nat} {now : Instant}

/-- Where no group has expired, none is dropped. -/
theorem pruneExpired_of_alive (alive : ∀ group ∈ assembler.groups.values, now < group.expiresAt) :
    assembler.pruneExpired now = .ok (.ok (), assembler) := by
  have fresh : ¬∃ group ∈ assembler.groups.values, group.expiresAt ≤ now := by
    simp_all
  have noneRequired : ¬(assembler.groups.values.any fun group =>
      decide (group.expiresAt ≤ now) && !group.isIgnored) = true := by
    grind
  have noKeys : assembler.expiredKeys now = [] := by
    refine eq_nil_iff_forall_not_mem.mpr fun key member => ?_
    obtain ⟨group, found, expired⟩ := mem_expiredKeys.mp member
    exact fresh ⟨group, Table.mem_values.mpr ⟨key, found⟩, expired⟩
  unfold pruneExpired
  rw [if_neg noneRequired, noKeys]
  rfl

/-- A part that is kept goes straight to its group. -/
theorem Accounted.push_keeps (accounted : assembler.Accounted slack)
    (keeps : assembler.Keeps part observationBytes now)
    (disposition : Option UdpFragmentDisposition) (observation : Observation) :
    assembler.pushWithObservation part disposition observation observationBytes now =
      assembler.storeObservation part disposition observation observationBytes
        (assembler.newBytes part) now := by
  obtain ⟨granted, reserved, reservation, _, _, _, unchanged⟩ :=
    accounted.reserveGroup_spec part.key
  rw [(unchanged keeps.room).1, (unchanged keeps.room).2] at reservation
  have withinBytes : exceedsBytes (assembler.newBytes part) assembler = false := by
    have bytes := keeps.bytes
    simp only [exceedsBytes, decide_eq_false_iff_not]
    omega
  have withinObservations : exceedsObservations observationBytes assembler = false := by
    have observations := keeps.observations
    have bytes := keeps.observationBytes
    grind [exceedsObservations]
  unfold pushWithObservation
  rw [pruneExpired_of_alive keeps.alive, ok_bind]
  dsimp only
  rw [reservation, ok_bind, accounted.reserveWhile_eq part.key withinBytes, ok_bind]
  rw [accounted.reserveWhile_eq part.key withinObservations, ok_bind]
  simp only [Bool.not_true, Bool.false_eq_true, if_false]
  rw [keeps.agrees]

/-- The length field of a datagram bounds the payload of its event. -/
theorem assembleGroup_bounded {group : FragmentGroup Observation}
    {reassembled : ReassembledUdpDatagram Observation} {event : UdpDatagramEvent}
    (assembled : assembleGroup group = .ok reassembled) (events : reassembled.event = some event) :
    event.payload.length + 8 < 65536 := by
  obtain ⟨disposition, _, assembled⟩ := Outcome.bind_eq_ok.mp assembled
  cases disposition with
  | ignored =>
    cases assembled
    cases events
  | selected target direction clientAddress capturedAtMilliseconds =>
    dsimp only at assembled
    split at assembled
    · cases assembled
    simp only [Outcome.bind_eq_ok] at assembled
    obtain ⟨_, _, udpLength, _, _, length, payload, sliced, assembled⟩ := assembled
    cases assembled
    obtain ⟨_, _, rfl⟩ := slice_eq_ok.mp sliced
    have bounded := udpLength.toNat_lt
    grind

/-- The packets of the groups of other keys. -/
def otherObservations (assembler : UdpFragmentAssembler Observation) (key : UdpFragmentKey) :
    List Observation :=
  (assembler.groups.erase key).values.flatMap FragmentGroup.observations

/-- The packets held are the faults, those of one group and those of the others. -/
theorem pending_perm (assembler : UdpFragmentAssembler Observation) (key : UdpFragmentKey)
    (now : Instant) :
    assembler.pending.Perm (assembler.faultObservations ++
      ((assembler.groupFor key now).observations ++ assembler.otherObservations key)) := by
  rw [groupFor, otherObservations]
  apply List.Perm.append_left
  cases found : assembler.groups.get? key with
  | none =>
    rw [Table.erase_of_get?_eq_none found]
    exact .refl _
  | some group => exact (Table.values_perm_of_get? found).flatMap_right _

theorem pending_stored (assembler : UdpFragmentAssembler Observation) (part : UdpFragmentPart)
    (disposition : Option UdpFragmentDisposition) (observation : Observation)
    (observationBytes : Nat) (now : Instant) :
    (assembler.stored part disposition observation observationBytes now).pending =
      assembler.faultObservations ++
        ((assembler.storedGroup part disposition observation observationBytes now).observations ++
          assembler.otherObservations part.key) := by
  rfl

theorem pending_stored_without (assembler : UdpFragmentAssembler Observation)
    (part : UdpFragmentPart) (disposition : Option UdpFragmentDisposition)
    (observation : Observation) (observationBytes : Nat) (now : Instant) :
    ((assembler.stored part disposition observation observationBytes now).without
        part.key).pending =
      assembler.faultObservations ++ assembler.otherObservations part.key := by
  rw [pending_eq, groups_without, faultObservations_without, UdpFragmentAssembler.stored,
    withStored]
  rw [Table.erase_insert_self]
  rfl

/-- What a push of a part that is kept does: nothing is lost. -/
theorem Accounted.push_keeps_cases (accounted : assembler.Accounted slack)
    (keeps : assembler.Keeps part observationBytes now)
    (placed : disposition.isSome = true → part.payloadOffset = 0) (observation : Observation) :
    ∃ pushed, assembler.pushWithObservation part disposition observation observationBytes now =
        .ok pushed ∧ pushed.assembler.Accounted slack ∧
      ((pushed.assembler.pending.Perm (assembler.pending ++ [observation]) ∧
          (pushed.result = .ok none ∨ ∃ error, pushed.result = .error error)) ∨
        ∃ reassembled, pushed.result = .ok (some reassembled) ∧
          isComplete (assembler.storedGroup part disposition observation observationBytes now) =
            true ∧
          assembleGroup (assembler.storedGroup part disposition observation observationBytes now) =
            .ok reassembled ∧
          reassembled.observations = (assembler.groupFor part.key now).observations ++
            [observation] ∧
          (reassembled.observations ++ pushed.assembler.pending).Perm
            (assembler.pending ++ [observation])) := by
  have held := assembler.pending_perm part.key now
  have arrived : (assembler.faultObservations ++
      ((assembler.storedGroup part disposition observation observationBytes now).observations ++
        assembler.otherObservations part.key)).Perm (assembler.pending ++ [observation]) := by
    change (_ ++ ((_ ++ [observation]) ++ _)).Perm _
    refine .trans ?_ (held.append_right [observation]).symm
    rw [append_assoc, append_assoc, append_assoc]
    exact .append_left _ (.append_left _ perm_append_comm)
  rw [accounted.push_keeps keeps]
  obtain ⟨storedAccounted, cases⟩ := @Accounted.storeObservation_cases _ _ _ _
    _ observation observationBytes now accounted keeps.room keeps.agrees
  rcases cases with ⟨present, later, _⟩ | ⟨_, _, result⟩ |
    ⟨_, complete, ⟨reassembled, assembled, result⟩ | ⟨error, failed, result⟩⟩
  · exact absurd (placed present) later
  · grind [pending_stored]
  · obtain ⟨other, otherAssembled, observations⟩ | ⟨error, failed⟩ :=
      assembleGroup_cases (disposition_of_isComplete complete)
    · rw [assembled] at otherAssembled
      cases otherAssembled
      refine ⟨_, result, storedAccounted.without part.key, .inr ⟨reassembled, rfl, complete,
        assembled, observations, ?_⟩⟩
      rw [pending_stored_without, observations]
      refine .trans ?_ arrived
      rw [← append_assoc, ← append_assoc]
      exact .append_right _ perm_append_comm
    · rw [assembled] at failed
      cases failed
  · refine ⟨_, result, (storedAccounted.without part.key).withFaults _,
      .inl ⟨?_, .inr ⟨error, rfl⟩⟩⟩
    rw [pending_eq, groups_without, UdpFragmentAssembler.stored, UdpFragmentAssembler.withStored]
    rw [Table.erase_insert_self, append_assoc]
    exact arrived

end

end UdpFragmentAssembler

/-! ### Packets sent unchanged -/

/-- The driver accepts every packet. -/
def Divert.Sends (divert : Divert) : Prop := ∀ observation, divert.send observation = .ok ()

theorem sendOriginals_of_sends {divert : Divert} (sends : divert.Sends)
    (observations : List PendingUdpObservation) :
    sendOriginals divert observations = observations.map .reinjected := by
  induction observations with
  | nil => rfl
  | cons observation rest ih => rw [sendOriginals, sends, map_cons, ← ih]

variable {pending : List PendingUdpObservation}

/-- Packets with distinct numbers are only sorted. -/
theorem flushOrder_of_nodup (distinct : (sequences pending).Nodup) :
    flushOrder pending = pending.insertionSort captureOrder := by
  apply destutter_of_isChain
  apply List.Pairwise.isChain
  have sorted : (sequences (pending.insertionSort captureOrder)).Nodup :=
    ((perm_insertionSort captureOrder pending).map _).nodup_iff.mpr distinct
  exact pairwise_map.mp sorted

/-- Everything that is flushed is sent. -/
theorem settledSequences_flush {divert : Divert} (sends : divert.Sends)
    (distinct : (sequences pending).Nodup) :
    (settledSequences (flushOriginalPackets divert pending)).Perm (sequences pending) := by
  unfold flushOriginalPackets
  rw [sendOriginals_of_sends sends, flushOrder_of_nodup distinct]
  have reinjected : settledSequences
      ((pending.insertionSort captureOrder).map Terminal.reinjected) =
        sequences (pending.insertionSort captureOrder) := by
    simp [settledSequences, sequences, Terminal.captureSequence]
  rw [reinjected]
  exact (perm_insertionSort captureOrder pending).map _

/-! ### One packet -/

/-- The packets that the result of a packet leaves to the loop. -/
def handedBack (observation : PendingUdpObservation) :
    Except UdpObservationError Unit → List PendingUdpObservation
  | .ok () => []
  | .error (.packet _) => [observation]
  | .error (.owner _) => [observation]
  | .error (.processing _) => [observation]
  | .error (.restore _ packets) => packets
  | .error (.send _) => []
  | .error (.recording _) => []

/-- A computation accounts for packets: they are settled or handed back. Packets that the loop
has to send itself can be sent. -/
structure Settles (divert : Divert) (observation : PendingUdpObservation)
    (packets : List PendingUdpObservation) (result : Except UdpObservationError Unit)
    (terminals : List Terminal) : Prop where
  balance : (settledSequences terminals ++ sequences (handedBack observation result)).Perm
    (sequences packets)
  sends : ∀ detail, result = .error (.packet detail) → divert.send observation = .ok ()

/-- A datagram that was put together can be answered: the packets of a process that is not
selected can be sent, and the data plane decides without making the payload longer. A group
of one packet can also be handed back. -/
def Answerable (divert : Divert) (context : UdpObservationContext)
    (reassembled : ReassembledUdpDatagram PendingUdpObservation) : Prop :=
  match reassembled.event with
  | none => divert.Sends
  | some event => reassembled.observations.length ≤ 1 ∨
      ∃ decision, processDatagram context event = .ok decision ∧ ¬decision.Expands event

variable {Value : Type} {settled : Settled Value} {part : UdpFragmentPart}

section

variable {divert : Divert} {context : UdpObservationContext}

theorem processDatagram_cases (context : UdpObservationContext) (event : UdpDatagramEvent) :
    (∃ decision, processDatagram context event = .ok decision) ∨
      ∃ detail, processDatagram context event = .raise (.processing detail) := by
  unfold processDatagram
  split
  · exact .inl ⟨_, rfl⟩
  · split
    · exact .inl ⟨_, rfl⟩
    · exact .inr ⟨_, rfl⟩

theorem appendUdpEvent_cases (context : UdpObservationContext) (event : UdpDatagramEvent) :
    appendUdpEvent context event = .ok () ∨
      ∃ detail, appendUdpEvent context event = .raise (.recording detail) := by
  unfold appendUdpEvent
  split
  · exact .inr ⟨_, rfl⟩
  · split
    · exact .inl rfl
    · exact .inr ⟨_, rfl⟩

/-- A forwarded datagram is recorded after its packets are settled. -/
def recordForwarded (context : UdpObservationContext) : Option UdpDatagramEvent → Settled Unit
  | none => .of (pure ())
  | some forwarded => .of (appendUdpEvent context forwarded)

/-- Recording settles nothing, and its failure hands nothing back. -/
theorem recordForwarded_reported (context : UdpObservationContext)
    (forwarded : Option UdpDatagramEvent) :
    (recordForwarded context forwarded).terminals = [] ∧
      ∃ result, Outcome.reported (recordForwarded context forwarded).result = .ok result ∧
        (result = .ok () ∨ ∃ detail, result = .error (.recording detail)) := by
  cases forwarded with
  | none => exact ⟨rfl, _, rfl, .inl rfl⟩
  | some event =>
    refine ⟨rfl, ?_⟩
    change ∃ result, Outcome.reported (appendUdpEvent context event) = .ok result ∧ _
    rcases appendUdpEvent_cases context event with recorded | ⟨detail, failed⟩
    · rw [recorded]
      exact ⟨_, rfl, .inl rfl⟩
    · rw [failed]
      exact ⟨_, rfl, .inr ⟨detail, rfl⟩⟩

variable {observation : PendingUdpObservation} {packets : List PendingUdpObservation}

/-- A computation ends with a result that accounts for packets. -/
def Settled.Accounts (settled : Settled Unit) (divert : Divert)
    (observation : PendingUdpObservation) (packets : List PendingUdpObservation) : Prop :=
  ∃ result, Outcome.reported settled.result = .ok result ∧
    Settles divert observation packets result settled.terminals

theorem Settled.of_andThen_of_ok {outcome : Outcome UdpObservationError Value} {value : Value}
    {next : Value → Settled Unit} (result : outcome = .ok value) :
    (of outcome).andThen next = next value := by
  rw [result]
  rfl

/-- Settled packets stay settled, whatever becomes of the record. -/
theorem accounts_recordForwarded {settled : Settled (Option UdpDatagramEvent)}
    {forwarded : Option UdpDatagramEvent} (result : settled.result = .ok forwarded)
    (balance : (settledSequences settled.terminals).Perm (sequences packets)) :
    (settled.andThen (recordForwarded context)).Accounts divert observation packets := by
  obtain ⟨terminals, recorded, reported, cases⟩ := recordForwarded_reported context forwarded
  unfold Settled.Accounts andThen
  rw [result]
  dsimp only
  rw [terminals]
  refine ⟨recorded, reported, ?_⟩
  rcases cases with rfl | ⟨detail, rfl⟩
  · refine ⟨?_, by simp⟩
    simpa [handedBack, sequences] using balance
  · refine ⟨?_, by simp⟩
    simpa [handedBack, sequences] using balance

variable {error : UdpObservationError}

/-- An error before anything is settled hands back what it names. -/
theorem accounts_raise (next : Value → Settled Unit) (result : settled.result = .raise error)
    (balance : (settledSequences settled.terminals ++
      sequences (handedBack observation (.error error))).Perm (sequences packets))
    (sends : ∀ detail, error = .packet detail → divert.send observation = .ok ()) :
    (settled.andThen next).Accounts divert observation packets := by
  unfold Settled.Accounts andThen
  rw [result]
  exact ⟨.error error, rfl, balance, fun detail same => sends detail (Except.error.inj same)⟩

/-- Every packet of a datagram that can be answered is settled or handed back. -/
theorem settleReassembled_accounts {reassembled : ReassembledUdpDatagram PendingUdpObservation}
    {earlier : List PendingUdpObservation}
    (observations : reassembled.observations = earlier ++ [observation])
    (distinct : (sequences reassembled.observations).Nodup)
    (bounded : ∀ event, reassembled.event = some event → event.payload.length + 8 < 65536)
    (answerable : Answerable divert context reassembled) :
    (settleReassembled divert context reassembled).Accounts divert observation
      reassembled.observations := by
  unfold Answerable at answerable
  unfold settleReassembled
  cases events : reassembled.event with
  | none =>
    rw [events] at answerable
    refine ⟨.ok (), rfl, ?_, by simp⟩
    simpa [handedBack, sequences] using settledSequences_flush answerable distinct
  | some event =>
    rw [events] at answerable
    -- What hands back the current packet alone loses nothing of a group of one packet.
    have single : reassembled.observations.length ≤ 1 → reassembled.observations = [observation] := by
      intro short
      rw [observations, length_append, length_singleton] at short
      have empty : earlier = [] := length_eq_zero_iff.mp (by omega)
      rw [observations, empty, nil_append]
    change ((of (processDatagram context event)).andThen fun decision =>
      (applyFragmentDecision divert reassembled.observations event decision).andThen
        (recordForwarded context)).Accounts divert observation reassembled.observations
    rcases processDatagram_cases context event with ⟨decision, decided⟩ | ⟨detail, failed⟩
    · rw [of_andThen_of_ok decided]
      rcases applyFragmentDecision_cases divert reassembled.observations (bounded event events)
          decision with
        ⟨expands, detail, result⟩ | ⟨forwarded, result, balance⟩ | ⟨detail, unsent, result, balance⟩
      · rcases answerable with short | ⟨other, otherDecided, shorter⟩
        · refine accounts_raise _ (congrArg Settled.result result) ?_ (by simp)
          rw [result, single short]
          exact .refl _
        simp_all
      · exact accounts_recordForwarded result balance
      · exact accounts_raise _ result balance (by simp)
    · rcases answerable with short | ⟨other, otherDecided, _⟩
      · refine accounts_raise _ failed ?_ (by simp)
        rw [single short]
        exact .refl _
      · rw [failed] at otherDecided
        cases otherDecided

/-- An error that hands back the packet at hand. -/
def UdpObservationError.HandsBack (observation : PendingUdpObservation)
    (error : UdpObservationError) : Prop :=
  handedBack observation (.error error) = [observation]

theorem UdpObservationError.Restorable.handsBack (restorable : error.Restorable)
    (observation : PendingUdpObservation) : error.HandsBack observation := by
  cases error with
  | packet detail | processing detail => rfl
  | _ => cases restorable

/-- A step that fails before anything is settled hands back its packet. -/
theorem accounts_handsBack (sends : divert.Sends) (next : Value → Settled Unit)
    (result : settled = ⟨.raise error, []⟩) (handsBack : error.HandsBack observation) :
    (settled.andThen next).Accounts divert observation [observation] := by
  refine accounts_raise next (congrArg Settled.result result) ?_ fun _ _ => sends _
  rw [result, handsBack]
  exact .refl _

theorem failsOnly_observeUdpPacket (context : UdpObservationContext)
    (observation : PendingUdpObservation) :
    (observeUdpPacketWithAssociationWait context observation).FailsOnly
      (UdpObservationError.HandsBack observation) := by
  refine failsOnly_bind
    ((safe_parseUdpPacket _).failsOnly.mapError fun _ _ => rfl) fun parsed _ => ?_
  cases parsed with
  | none => exact failsOnly_ok _
  | some parsed =>
    dsimp only
    unfold observeUdpTuple
    split
    · exact failsOnly_ok _
    · exact failsOnly_raise rfl

/-- The event of a packet is there or not, and reading it does not fail. -/
theorem udpDatagramEvent_eq_ok (packet : Bytes) (target : OriginalTarget)
    (direction : UdpDatagramDirection) (capturedAtMilliseconds : UInt64) :
    ∃ event, udpDatagramEvent packet target direction capturedAtMilliseconds = .ok event := by
  unfold udpDatagramEvent
  split
  · rename_i parsed found
    obtain ⟨_, ordered, inside⟩ := parseUdpPacket_range found
    rw [slice_eq_ok.mpr ⟨ordered, inside, rfl⟩]
    exact ⟨_, rfl⟩
  · exact ⟨none, rfl⟩

theorem settleSelected_accounts (sends : divert.Sends) (context : UdpObservationContext)
    (observation : PendingUdpObservation) (target : OriginalTarget)
    (direction : UdpDatagramDirection) :
    (settleSelected divert context observation target direction).Accounts divert observation
      [observation] := by
  obtain ⟨found, read⟩ := udpDatagramEvent_eq_ok observation.packet
    (withIpv6Scope target observation.interfaceIndex) direction observation.capturedAtMilliseconds
  unfold settleSelected
  rw [of_andThen_of_ok read]
  cases found with
  | none => exact ⟨_, rfl, .refl _, fun _ _ => sends _⟩
  | some event =>
    change ((of (processDatagram context event)).andThen fun decision =>
      (applyWholePacketDecision divert observation event decision).andThen
        (recordForwarded context)).Accounts divert observation [observation]
    rcases processDatagram_cases context event with ⟨decision, decided⟩ | ⟨detail, failed⟩
    · rw [of_andThen_of_ok decided]
      rcases applyWholePacketDecision_cases sends observation event decision with
        ⟨error, result, restorable⟩ | ⟨forwarded, result, settled⟩
      · exact accounts_handsBack sends _ result (restorable.handsBack _)
      · refine accounts_recordForwarded result ?_
        rw [settled]
        exact .refl _
    · exact accounts_handsBack sends _ (congrArg of failed) rfl

/-- A whole packet is settled or handed back. -/
theorem settleWhole_accounts (sends : divert.Sends) (context : UdpObservationContext)
    (observation : PendingUdpObservation) :
    (settleWhole divert context observation).Accounts divert observation [observation] := by
  have sent : (⟨pure (), [.reinjected observation]⟩ : Settled Unit).Accounts divert observation
      [observation] := ⟨.ok (), rfl, .refl _, by simp⟩
  unfold settleWhole
  rcases (failsOnly_observeUdpPacket context observation).cases with
    ⟨direction, observed⟩ | ⟨error, failed, handsBack⟩
  · have passes := sends observation
    grind [of_andThen_of_ok, settleSelected_accounts]
  · exact accounts_handsBack sends _ (congrArg of failed) handsBack

/-! ### Packets and fragments -/

/-- A packet is processed without a loss. A fragment whose process is known has to be kept, and
the datagram it completes has to be answered; for other packets the driver has to send. -/
def LosslessPacket (fragments : UdpFragmentAssembler PendingUdpObservation)
    (observation : PendingUdpObservation) (divert : Divert) (context : UdpObservationContext)
    (now : Instant) : Prop :=
  match inspectUdpFragment observation.packet observation.outbound with
  | .ok (.fragment part) =>
    ∀ disposition, fragmentDisposition context observation part = .ok disposition →
      fragments.Keeps part observation.packet.length now ∧
      ∀ reassembled,
        isComplete (fragments.storedGroup part disposition observation
          observation.packet.length now) = true →
        assembleGroup (fragments.storedGroup part disposition observation
          observation.packet.length now) = .ok reassembled →
        Answerable divert context reassembled
  | _ => divert.Sends

/-- What processing a packet leads to accounts for it and for the packets held before. -/
structure Processed.Accounts (processed : Processed) (slack : Nat)
    (fragments : UdpFragmentAssembler PendingUdpObservation) (divert : Divert)
    (observation : PendingUdpObservation) (packets : List PendingUdpObservation) : Prop where
  accounted : processed.fragments.Accounted slack
  settles : Settles divert observation packets processed.result processed.terminals
  balance : (packets ++ processed.fragments.pending).Perm (fragments.pending ++ [observation])

variable {slack : Nat} {fragments : UdpFragmentAssembler PendingUdpObservation} {now : Instant}

/-- A computation about some of the packets leaves the rest in the assembler. -/
theorem Settled.Accounts.processed {settled : Settled Unit}
    (accounts : settled.Accounts divert observation packets)
    {after : UdpFragmentAssembler PendingUdpObservation} (accounted : after.Accounted slack)
    (balance : (packets ++ after.pending).Perm (fragments.pending ++ [observation])) :
    ∃ processed packets, settled.processed after = .ok processed ∧
      processed.Accounts slack fragments divert observation packets := by
  obtain ⟨result, reported, settles⟩ := accounts
  unfold Settled.processed
  rw [reported]
  exact ⟨_, packets, rfl, accounted, settles, balance⟩

theorem failsOnly_fragmentDisposition (context : UdpObservationContext)
    (observation : PendingUdpObservation) (part : UdpFragmentPart) :
    (fragmentDisposition context observation part).FailsOnly
      fun error => ∃ detail, error = .owner detail := by
  unfold fragmentDisposition
  split
  · exact failsOnly_ok _
  refine failsOnly_bind ?_ fun direction _ => ?_
  · unfold observeUdpTuple
    split
    · exact failsOnly_ok _
    · exact failsOnly_raise ⟨_, rfl⟩
  · split
    · exact failsOnly_ok _
    · exact failsOnly_ok _
    · exact failsOnly_ok _

/-- Only a first fragment has a disposition. -/
theorem fragmentDisposition_isSome {disposition : Option UdpFragmentDisposition}
    (result : fragmentDisposition context observation part = .ok disposition)
    (isSome : disposition.isSome = true) : (firstFragmentTuple part).isSome = true := by
  unfold fragmentDisposition at result
  split at result
  · cases result
    cases isSome
  · rename_i tuple
    rw [tuple]
    rfl

theorem processFragment_accounts (accounted : fragments.Accounted slack)
    (distinct : (sequences (fragments.pending ++ [observation])).Nodup)
    (inspected : inspectUdpFragment observation.packet observation.outbound =
      .ok (.fragment part)) (lossless : LosslessPacket fragments observation divert context now) :
    ∃ processed packets,
      processFragment divert context now fragments observation part = .ok processed ∧
        processed.Accounts slack fragments divert observation packets := by
  unfold LosslessPacket at lossless
  rw [inspected] at lossless
  unfold processFragment
  rcases (failsOnly_fragmentDisposition context observation part).cases with
    ⟨disposition, found⟩ | ⟨error, failed, detail, rfl⟩
  · obtain ⟨keeps, answered⟩ := lossless disposition found
    have placed : disposition.isSome = true → part.payloadOffset = 0 := fun isSome =>
      (inspectUdpFragment_inspects inspected).placed (fragmentDisposition_isSome found isSome)
    rw [found, reported_ok, ok_bind]
    dsimp only
    obtain ⟨pushed, result, pushedAccounted, cases⟩ :=
      accounted.push_keeps_cases keeps placed observation
    rw [result, ok_bind]
    rcases cases with ⟨held, stored | ⟨error, fault⟩⟩ |
      ⟨reassembled, returned, complete, assembled, observations, balance⟩
    · rw [stored]
      exact ⟨_, [], rfl, pushedAccounted, ⟨.refl _, by simp⟩, held⟩
    · rw [fault]
      exact ⟨_, [], rfl, pushedAccounted, ⟨.refl _, by simp⟩, held⟩
    rw [returned]
    have reassembledDistinct : (sequences reassembled.observations).Nodup := by
      have all := (balance.map PendingUdpObservation.captureSequence).nodup_iff.mpr distinct
      rw [map_append] at all
      exact (nodup_append.mp all).1
    exact (settleReassembled_accounts observations reassembledDistinct
      (fun _ => assembleGroup_bounded assembled)
      (answered reassembled complete assembled)).processed pushedAccounted balance
  · rw [failed]
    exact ⟨_, [observation], rfl, accounted, ⟨.refl _, by simp⟩, perm_append_comm⟩

/-- A packet that is processed without a loss is accounted for. -/
theorem processUdpObservation_accounts (accounted : fragments.Accounted slack)
    (distinct : (sequences (fragments.pending ++ [observation])).Nodup)
    (lossless : LosslessPacket fragments observation divert context now) :
    ∃ processed packets,
      processUdpObservation divert context now fragments observation = .ok processed ∧
        processed.Accounts slack fragments divert observation packets := by
  unfold processUdpObservation
  rcases (safe_inspectUdpFragment observation.packet observation.outbound).failsOnly.cases with
    ⟨inspection, inspected⟩ | ⟨error, failed, _⟩
  · rw [inspected]
    cases inspection with
    | fragment part => exact processFragment_accounts accounted distinct inspected lossless
    | whole =>
      unfold LosslessPacket at lossless
      rw [inspected] at lossless
      exact (settleWhole_accounts lossless context observation).processed accounted perm_append_comm
  · unfold LosslessPacket at lossless
    rw [failed] at lossless
    rw [failed]
    exact ⟨_, [observation], rfl, accounted, ⟨.refl _, fun _ _ => lossless observation⟩,
      perm_append_comm⟩

end

/-! ### Steps of the loop -/

/-- The packets that an input brings. -/
def ResolverInput.intercepted : ResolverInput → List PendingUdpObservation
  | .received observation _ _ _ => [observation]
  | .finish emergency _ => emergency
  | _ => []

namespace ResolverState

/-- The packets that were taken over and are kept to be sent unchanged. -/
def held (state : ResolverState) : List PendingUdpObservation :=
  state.unresolved ++ state.fragments.pending

/-- The numbers of the packets that the resolver can account for. -/
def accountedSequences (state : ResolverState) : List UInt64 :=
  settledSequences state.terminals ++ sequences state.held

/-- Every packet that was taken over has ended or is held, exactly once, and after the end
of the resolver none is held. -/
structure ExactlyOnce (state : ResolverState) : Prop where
  distinct : state.accountedSequences.Nodup
  balance : state.accountedSequences.Perm (sequences state.consumed)
  finished : state.phase = .finished → state.held = []

/-- A step that loses no packet: a packet is processed without a loss, a pause finds no expired
group of a process that is not selected unless it also reports an expired group, and at the
end the driver sends. -/
def Lossless (state : ResolverState) (input : ResolverInput) : Prop :=
  match state.phase, input with
  | .running, .received observation divert context now =>
    LosslessPacket state.fragments observation divert context now
  | .running, .timeout now _ =>
    state.fragments.ExpiredRequired now ∨
      ∀ group ∈ state.fragments.groups.values, now < group.expiresAt
  | .draining, .finish _ divert => divert.Sends
  | _, _ => True

/-- The invariant of runs without a loss. -/
structure Sound (state : ResolverState) : Prop where
  accounted : ∃ slack, state.fragments.Accounted slack
  balance : state.accountedSequences.Perm (sequences state.consumed)
  finished : state.phase = .finished → state.held = []

section

variable {state : ResolverState} {observation : PendingUdpObservation} {divert : Divert}

theorem accountedSequences_leave (state : ResolverState) (packets : List PendingUdpObservation) :
    (state.leave packets).accountedSequences.Perm
      (state.accountedSequences ++ sequences packets) := by
  have drained : (state.leave packets).held =
      state.unresolved ++ packets ++ state.fragments.pending := by
    unfold held leave
    rw [pending_drained, append_nil]
    rfl
  have moved : (state.unresolved ++ packets ++ state.fragments.pending).Perm
      (state.held ++ packets) := by
    grind [held]
  unfold accountedSequences
  rw [drained, append_assoc (settledSequences _), ← sequences_append]
  exact .append_left _ (moved.map _)

/-- What the loop does with a result keeps account of the packets handed back. -/
theorem answer_accounts (accounted : ∃ slack, state.fragments.Accounted slack)
    (running : state.phase = .running) {result : Except UdpObservationError Unit}
    (sends : ∀ detail, result = .error (.packet detail) → divert.send observation = .ok ()) :
    (∃ slack, (state.answer observation divert result).fragments.Accounted slack) ∧
      (state.answer observation divert result).accountedSequences.Perm
        (state.accountedSequences ++ sequences (handedBack observation result)) ∧
      (state.answer observation divert result).consumed = state.consumed ∧
      (state.answer observation divert result).phase ≠ .finished := by
  obtain ⟨slack, counted⟩ := accounted
  have left : ∀ packets : List PendingUdpObservation,
      (∃ slack, (state.leave packets).fragments.Accounted slack) ∧
        (state.leave packets).accountedSequences.Perm
          (state.accountedSequences ++ sequences packets) ∧
        (state.leave packets).consumed = state.consumed ∧
        (state.leave packets).phase ≠ .finished := fun packets =>
    ⟨⟨_, counted.drained⟩, state.accountedSequences_leave packets, rfl, by simp [leave]⟩
  cases result with
  | ok nothing =>
    grind [answer, handedBack, sequences]
  | error error =>
    cases error with
    | packet detail =>
      rw [answer, sends detail rfl]
      refine ⟨⟨slack, counted⟩, ?_, rfl, ?_⟩
      · unfold accountedSequences
        rw [settledSequences_append, append_assoc, append_assoc]
        exact .append_left _ perm_append_comm
      · simp [running]
    | owner detail | processing detail => exact left [observation]
    | restore detail packets => exact left packets
    | send detail | recording detail => exact left []

/-- A packet that is processed without a loss keeps the balance. -/
theorem Sound.receive (sound : state.Sound) (running : state.phase = .running)
    (distinct : (sequences (state.consumed ++ [observation])).Nodup)
    {context : UdpObservationContext} {now : Instant}
    (lossless : LosslessPacket state.fragments observation divert context now) :
    ∃ after, state.receive observation divert context now = .ok after ∧ after.Sound ∧
      after.consumed = state.consumed ++ [observation] := by
  obtain ⟨slack, counted⟩ := sound.accounted
  have arrived : (state.accountedSequences ++ sequences [observation]).Perm
      (sequences (state.consumed ++ [observation])) := by
    rw [sequences_append]
    exact sound.balance.append_right _
  have pendingDistinct : (sequences (state.fragments.pending ++ [observation])).Nodup := by
    grind [accountedSequences, held, sequences_append]
  obtain ⟨processed, packets, result, accounts⟩ :=
    processUdpObservation_accounts counted pendingDistinct lossless
  let next : ResolverState :=
    { state with
      fragments := processed.fragments
      consumed := state.consumed ++ [observation]
      terminals := state.terminals ++ processed.terminals }
  obtain ⟨nextAccounted, balance, consumed, unfinished⟩ :=
    @answer_accounts next _ _ ⟨slack, accounts.accounted⟩ running _ accounts.settles.sends
  refine ⟨next.answer observation divert processed.result, ?_, ⟨nextAccounted, ?_, ?_⟩, consumed⟩
  · unfold ResolverState.receive
    rw [result]
    rfl
  · rw [consumed]
    refine balance.trans (.trans ?_ arrived)
    have settled := accounts.settles.balance
    have kept := accounts.balance.map PendingUdpObservation.captureSequence
    simp only [map_append] at kept
    simp only [perm_iff_count, count_append] at settled kept ⊢
    intro number
    have settledCount := settled number
    have keptCount := kept number
    simp only [next, accountedSequences, held, settledSequences_append, sequences_append,
      count_append]
    simp only [sequences] at settledCount ⊢
    omega
  · exact fun finished => absurd finished unfinished

/-- A pause that drops no group keeps the balance. -/
theorem Sound.pause (sound : state.Sound) (running : state.phase = .running) {now : Instant}
    (lossless : state.fragments.ExpiredRequired now ∨
      ∀ group ∈ state.fragments.groups.values, now < group.expiresAt) (stopRequested : Bool) :
    ∃ after, state.pause now stopRequested = .ok after ∧ after.Sound ∧
      after.consumed = state.consumed := by
  obtain ⟨slack, counted⟩ := sound.accounted
  unfold ResolverState.pause UdpFragmentAssembler.pollExpired
  rcases lossless with required | alive
  · rcases counted.pruneExpired_cases now with ⟨_, failed⟩ | ⟨notRequired, _⟩
    · rw [failed]
      refine ⟨_, rfl, ⟨⟨_, counted.drained⟩, ?_, by simp [leave]⟩, rfl⟩
      have balance := state.accountedSequences_leave []
      rw [show sequences [] = [] from rfl, append_nil] at balance
      exact balance.trans sound.balance
    · exact absurd required notRequired
  · rw [pruneExpired_of_alive alive]
    refine ⟨_, rfl, ⟨⟨slack, counted⟩, sound.balance, ?_⟩, rfl⟩
    grind

/-- At the end everything that is held is sent. -/
theorem Sound.conclude (sound : state.Sound) {emergency : List PendingUdpObservation}
    (distinct : (sequences (state.consumed ++ emergency)).Nodup) (sends : divert.Sends) :
    (state.conclude emergency divert).Sound := by
  obtain ⟨slack, counted⟩ := sound.accounted
  have empty : (state.conclude emergency divert).held = [] := by
    unfold held ResolverState.conclude
    rw [pending_drained]
    rfl
  have arrived : (state.accountedSequences ++ sequences emergency).Perm
      (sequences (state.consumed ++ emergency)) := by
    rw [sequences_append]
    exact sound.balance.append_right _
  have gathered : (sequences (state.unresolved ++ emergency ++ state.fragments.pending)).Perm
      (sequences state.held ++ sequences emergency) := by
    grind [held, sequences_append]
  have all := arrived.nodup_iff.mpr distinct
  unfold accountedSequences at all arrived
  rw [append_assoc] at all arrived
  have pendingDistinct := gathered.nodup_iff.mpr (nodup_append.mp all).2.1
  refine ⟨⟨_, counted.drained⟩, ?_, fun _ => empty⟩
  unfold accountedSequences
  rw [empty, show sequences [] = [] from rfl, append_nil]
  refine .trans ?_ arrived
  unfold ResolverState.conclude
  rw [settledSequences_append]
  exact .append_left _ ((settledSequences_flush sends pendingDistinct).trans gathered)

end

/-- A step without a loss keeps the balance, and takes over at most what it is given. -/
theorem Sound.next {state : ResolverState} (sound : state.Sound) {input : ResolverInput}
    (distinct : (sequences (state.consumed ++ input.intercepted)).Nodup)
    (lossless : state.Lossless input) :
    ∃ after, state.next input = .ok after ∧ after.Sound ∧
      after.consumed.Sublist (state.consumed ++ input.intercepted) := by
  have idle : state.Sound ∧ state.consumed.Sublist (state.consumed ++ input.intercepted) :=
    ⟨sound, sublist_append_left _ _⟩
  unfold Lossless at lossless
  unfold ResolverState.next
  cases phase : state.phase with
  | running =>
    rw [phase] at lossless
    cases input with
    | received observation divert context now =>
      obtain ⟨after, result, afterSound, consumed⟩ := sound.receive phase distinct lossless
      exact ⟨after, result, afterSound, consumed ▸ List.Sublist.refl _⟩
    | timeout now stopRequested =>
      obtain ⟨after, result, afterSound, consumed⟩ := sound.pause phase lossless stopRequested
      simp_all
    | disconnected =>
      exact ⟨_, rfl, ⟨sound.accounted, sound.balance, nofun⟩, idle.2⟩
    | finish emergency divert => exact ⟨state, rfl, idle⟩
  | draining =>
    rw [phase] at lossless
    cases input with
    | received observation divert context now =>
      refine ⟨_, rfl, ⟨sound.accounted, ?_, ?_⟩, List.Sublist.refl _⟩
      · have balance := sound.balance
        simp only [accountedSequences, held, sequences_append, perm_iff_count,
          count_append] at balance ⊢
        intro number
        have counts := balance number
        omega
      · nofun
    | timeout now stopRequested | disconnected => exact ⟨state, rfl, idle⟩
    | finish emergency divert =>
      exact ⟨_, rfl, sound.conclude distinct lossless, List.Sublist.refl _⟩
  | finished => exact ⟨state, rfl, idle⟩

theorem sound_initial : initial.Sound where
  accounted := ⟨0, accounted_empty none⟩
  balance := .refl _
  finished := nofun

end ResolverState

/-! ### Runs -/

/-- The step of a machine that has not failed loses no packet. -/
def Lossless (outcome : Outcome Empty ResolverState) (input : ResolverInput) : Prop :=
  match outcome with
  | .ok state => state.Lossless input
  | .error _ => True

theorem sound_runFrom {inputs : List ResolverInput} {state : ResolverState} (sound : state.Sound)
    (distinct : (sequences (state.consumed ++ inputs.flatMap ResolverInput.intercepted)).Nodup)
    (lossless : runUdpResolver.Guarded Lossless (.ok state) inputs) :
    ∃ after, runUdpResolver.runFrom (.ok state) inputs = .ok after ∧ after.Sound ∧
      (sequences after.consumed).Nodup := by
  induction inputs generalizing state with
  | nil =>
    simp_all
  | cons input inputs ih =>
    rw [flatMap_cons, ← append_assoc] at distinct
    have headDistinct : (sequences (state.consumed ++ input.intercepted)).Nodup := by
      grind [sequences_append]
    obtain ⟨now, later⟩ := lossless
    obtain ⟨middle, stepped, middleSound, consumed⟩ := sound.next headDistinct now
    have step : runUdpResolver.step (.ok state) input = .ok middle := stepped
    rw [Machine.runFrom_cons, step]
    rw [step] at later
    refine ih middleSound (distinct.sublist ?_) later
    exact (consumed.append_right _).map _

/-- In a run without a losing step over packets with distinct numbers, every packet that was
taken over has ended or is held, exactly once. -/
theorem exactlyOnce_run {inputs : List ResolverInput}
    (distinct : (sequences (inputs.flatMap ResolverInput.intercepted)).Nodup)
    (lossless : runUdpResolver.Guarded Lossless runUdpResolver.initial inputs) :
    ∃ state, runUdpResolver.run inputs = .ok state ∧ state.ExactlyOnce := by
  obtain ⟨state, result, sound, consumed⟩ :=
    sound_runFrom ResolverState.sound_initial distinct lossless
  exact ⟨state, result, sound.balance.nodup_iff.mpr consumed, sound.balance, sound.finished⟩

/-- Nothing belongs to a selected process. -/
def bypassContext : UdpObservationContext where
  observeUdpTupleWithAssociationWait _ _ := .ok .bypass
  udpDatagramProcessor := none
  udpDatagramSink := none

/-- A later fragment with eight octets of its own. -/
def laterFragment (captureSequence : UInt64) (body : Bytes) : PendingUdpObservation :=
  ⟨captureSequence, (queryPacket 1 body []).encode, true, 4, 0⟩

def headerFragment (captureSequence : UInt64) : PendingUdpObservation :=
  ⟨captureSequence, (queryPacket 0x2000 [0x12, 0x34, 0, 53, 0, 16, 0, 0]
    []).encode, true, 4, 0⟩

/-- The fragments of one datagram in the wrong order, and one of another datagram at the end. -/
def reorderedFragments : List ResolverInput :=
  [ .received (laterFragment 1 [1, 2, 3, 4, 5, 6, 7, 8]) ipv4Driver
      bypassContext 0,
    .timeout 1 false,
    .received (headerFragment 2) ipv4Driver bypassContext 2,
    .received (laterFragment 3 [1, 2, 3, 4, 5, 6, 7, 8]) ipv4Driver
      bypassContext 3,
    .disconnected,
    .finish [] ipv4Driver ]

theorem exactlyOnce_reorderedFragments :
    ∃ state, runUdpResolver.run reorderedFragments = .ok state ∧ state.ExactlyOnce := by
  refine exactlyOnce_run (by decide) ⟨?_, ?_, ?_, ?_, trivial, fun _ => rfl, trivial⟩
  · rintro disposition found
    cases found
    refine ⟨⟨by decide, by decide, by decide, by decide, by decide, by decide⟩, ?_⟩
    nofun
  · exact .inr (by decide)
  · rintro disposition found
    cases found
    refine ⟨⟨by decide, by decide, by decide, by decide, by decide, by decide⟩, ?_⟩
    intro reassembled complete assembled
    cases assembled
    exact fun _ => rfl
  · rintro disposition found
    cases found
    refine ⟨⟨by decide, by decide, by decide, by decide, by decide, by decide⟩, ?_⟩
    nofun

/-- Two fragments of a datagram whose process is not known yet, with different octets in the same
place. -/
def conflictingFragments : List ResolverInput :=
  [ .received (laterFragment 1 [1, 2, 3, 4, 5, 6, 7, 8]) ipv4Driver
      bypassContext 0,
    .received (laterFragment 2 [9, 2, 3, 4, 5, 6, 7, 8]) ipv4Driver
      bypassContext 0,
    .disconnected,
    .finish [] ipv4Driver ]

/-- Both fragments are gone: neither was sent or dropped by a decision, and none is held. -/
theorem not_exactlyOnce_conflictingFragments :
    (sequences (conflictingFragments.flatMap ResolverInput.intercepted)).Nodup ∧
      ¬∃ state, runUdpResolver.run conflictingFragments = .ok state ∧ state.ExactlyOnce := by
  refine ⟨by decide, ?_⟩
  rintro ⟨state, result, exactlyOnce⟩
  have counted : (runUdpResolver.run conflictingFragments).map
      (fun state => (state.accountedSequences, sequences state.consumed)) = .ok ([], [1, 2]) := by
    decide
  rw [result] at counted
  have counts : (state.accountedSequences, sequences state.consumed) = ([], [1, 2]) :=
    Except.ok.inj counted
  have balance := exactlyOnce.balance
  simp_all

end SprakCapture.ProcessCapture
