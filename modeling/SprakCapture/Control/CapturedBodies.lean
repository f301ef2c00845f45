import SprakCapture.Capture.PacketIndex
import SprakCapture.Socks5.CaptureAccounting

/-!
# Bodies of SOCKS sessions

The streams of a session are shared with its relay, which goes on while a snapshot waits to be
recorded. `storeCapturedBodies` freezes the packets of a direction first, reads the stream after
it, and cuts both to the number of bytes that the snapshot tells. `storeCapturedBody_rejected_iff`
says when the recording rejects the packets.
-/

namespace SprakCapture.Control

open Data Socks5 Capture List Capture.RecordingSession

/-! ### Captured packets -/

/-- A relayed block, with the state in which it finds the budget of all streams. -/
structure CapturedBlock where
  budget : CapturedBytesBudget
  direction : TrafficDirection
  payload : Bytes
  capturedAtMilliseconds : UInt64

/-- The streams of a session after some blocks. -/
def captureBlocks (streams : CapturedStreams) (blocks : List CapturedBlock) : CapturedStreams :=
  blocks.foldl (fun streams block =>
    (streams.capture block.budget block.direction block.payload
      block.capturedAtMilliseconds).2) streams

/-- `u64::saturating_add`. -/
def saturatingAdd (left right : Nat) : Nat := min (left + right) (2 ^ 64 - 1)

/-- The packets within the first bytes of a stream, of which some are stored. -/
def retainPackets (originalBytes bodyLength : Nat) : Nat → List CapturedPacket → List CapturedPacket
  | _, [] => []
  | observed, packet :: rest =>
    let observedOriginalBytes := saturatingAdd observed packet.originalBytes
    if observedOriginalBytes ≤ originalBytes ∧
        packet.storedOffsetBytes + packet.storedBytes ≤ bodyLength then
      packet :: retainPackets originalBytes bodyLength observedOriginalBytes rest
    else retainPackets originalBytes bodyLength observedOriginalBytes rest

/-- A captured packet as the recording knows it, with the changes made to it on the way. -/
def toStreamPacket (modifications : CapturedPacket → List StreamPacketModification)
    (packet : CapturedPacket) : StreamPacket where
  sequence := UInt64.ofNat packet.sequence
  capturedAtMilliseconds := packet.capturedAtMilliseconds
  storedOffsetBytes := packet.storedOffsetBytes
  storedBytes := packet.storedBytes
  originalBytes := packet.originalBytes
  truncated := decide (packet.originalBytes > packet.storedBytes)
  action := if (modifications packet).isEmpty then .forward else .replace
  modifications := modifications packet

/-- What is read of one direction of a session: the counter of the snapshot, the counter when the
direction was stored last, the packets at first and the stream after them. -/
structure DirectionCapture where
  originalBytes : Nat
  previousOriginalBytes : Nat
  packets : List CapturedPacket
  capturedBytes : Bytes

namespace DirectionCapture

/-- The stream up to the bytes that the snapshot tells. -/
def bodyBytes (direction : DirectionCapture) : Bytes :=
  direction.capturedBytes.take direction.originalBytes

def retained (direction : DirectionCapture) : List CapturedPacket :=
  retainPackets direction.originalBytes direction.bodyBytes.length 0 direction.packets

/-- Nothing was relayed since the direction was stored. -/
def unchanged (direction : DirectionCapture) : Bool :=
  direction.originalBytes == 0 || direction.originalBytes == direction.previousOriginalBytes

/-- The body of a direction. A stream that is not decoded counts as binary. -/
def bodyWrite (direction : DirectionCapture) : BodyWrite where
  bytes := direction.bodyBytes
  originalBytes := direction.originalBytes
  contentType := ⟨"application/octet-stream".toList, 0⟩
  encoding := ⟨"binary".toList, 0⟩

/-- The packet list of a direction. -/
def streamPackets (direction : DirectionCapture)
    (modifications : CapturedPacket → List StreamPacketModification) : Buffer StreamPacket where
  items := direction.retained.map (toStreamPacket modifications)
  spare := 0

end DirectionCapture

/-! ### Storing a session -/

section Storing

variable (env : Environment) (modifications : CapturedPacket → List StreamPacketModification)

/-- One turn of the loop: the body of a direction and then its packets. -/
def storeCapturedBody (session : RecordingSession) (transactionId : Uuid) (side : MessageSide)
    (direction : DirectionCapture) (scripts : List Await × List Await) :
    Except Stop Unit × RecordingSession :=
  if direction.unchanged then (.ok (), session)
  else
    match session.storeBody env transactionId side direction.bodyWrite scripts.1 with
    | (.error stop, session) => (.error stop, session)
    | (.ok _, session) =>
      session.storeStreamPackets env transactionId side (direction.streamPackets modifications)
        scripts.2

/-- Both directions of a session. -/
def storeCapturedBodies (session : RecordingSession) (transactionId : Uuid)
    (up down : DirectionCapture) (upScripts downScripts : List Await × List Await) :
    Except Stop Unit × RecordingSession :=
  match storeCapturedBody env modifications session transactionId .request up upScripts with
  | (.error stop, session) => (.error stop, session)
  | (.ok (), session) =>
    storeCapturedBody env modifications session transactionId .response down downScripts

end Storing

/-! ### Packets of a stream -/

/-- A packet says no more than the block it comes from. -/
def Truthful (packet : CapturedPacket) : Prop :=
  0 < packet.storedBytes ∧ packet.storedBytes ≤ packet.originalBytes

variable {streams : CapturedStreams}

open DirectionCapture

/-- A block adds at most one packet to the index, and a truthful one. -/
theorem truthful_capture (faithful : Faithful streams)
    (truthful : ∀ packet ∈ streams.capturedPackets.packets, Truthful packet)
    (block : CapturedBlock) :
    ∀ packet ∈ (streams.capture block.budget block.direction block.payload
        block.capturedAtMilliseconds).2.capturedPackets.packets,
      Truthful packet := by
  have appends := @append_spec block.budget _ block.payload
    capturedStreamPrefixLimit (faithful.consistent block.direction)
  have stored := appends.stored_le
  have shorter : (block.payload.take (capturedStreamPrefixLimit -
      (streams.stream block.direction).length)).length ≤ block.payload.length := by
    rw [length_take]
    exact Nat.min_le_right _ _
  rw [capturedPackets_capture]
  unfold CapturedPacketStorage.append
  split
  · exact truthful
  rename_i positive
  split <;>
    · intro packet member
      rcases mem_append.mp member with before | isNew
      · exact truthful packet before
      · rw [mem_singleton.mp isNew]
        exact ⟨Nat.pos_of_ne_zero positive, Nat.le_trans stored shorter⟩

/-- Every packet of a session is truthful. -/
theorem truthful_captureBlocks (faithful : Faithful streams)
    (truthful : ∀ packet ∈ streams.capturedPackets.packets, Truthful packet)
    (blocks : List CapturedBlock) :
    ∀ packet ∈ (captureBlocks streams blocks).capturedPackets.packets, Truthful packet := by
  induction blocks generalizing streams with
  | nil => exact truthful
  | cons block blocks ih =>
    exact ih
      (faithful.capture block.budget block.direction block.payload block.capturedAtMilliseconds)
      (truthful_capture faithful truthful block)

theorem mem_retainPackets {originalBytes bodyLength observed : Nat}
    {packets : List CapturedPacket} {packet : CapturedPacket}
    (member : packet ∈ retainPackets originalBytes bodyLength observed packets) :
    packet ∈ packets := by
  induction packets generalizing observed with
  | nil => cases member
  | cons _ packets ih =>
    unfold retainPackets at member
    dsimp only at member
    split at member
    · rcases mem_cons.mp member with rfl | later
      · exact mem_cons_self
      · exact .tail _ (ih later)
    · exact .tail _ (ih member)

/-- A truthful packet is valid for a body exactly if it ends within it. -/
theorem validPacket_toStreamPacket {modifications : CapturedPacket → List StreamPacketModification}
    {packet : CapturedPacket} (truthful : Truthful packet) (bodyLength : Nat) :
    RecordingSession.validPacket bodyLength (toStreamPacket modifications packet) = false ↔
      bodyLength < packet.storedOffsetBytes + packet.storedBytes := by
  obtain ⟨positive, within⟩ := truthful
  rw [← Bool.not_eq_true, validPacket_iff]
  simp [toStreamPacket, positive, within]

/-! ### When packets are rejected -/

section Rejecting

variable {env : Environment} {modifications : CapturedPacket → List StreamPacketModification}
  {session : RecordingSession} {transactionId : Uuid} {side : MessageSide}
  {direction : DirectionCapture}

/-- The part of a body that the limits let in holds all packets of the direction. -/
def DirectionCapture.Fits (direction : DirectionCapture) (session : RecordingSession)
    (transactionId : Uuid) (side : MessageSide) : Prop :=
  ∀ packet ∈ direction.retained, packet.storedOffsetBytes + packet.storedBytes ≤
    session.state.bodyRoom transactionId side direction.bodyBytes.length

instance (direction : DirectionCapture) (session : RecordingSession) (transactionId : Uuid)
    (side : MessageSide) : Decidable (direction.Fits session transactionId side) :=
  inferInstanceAs (Decidable (∀ packet ∈ direction.retained, _ ≤ _))

/-- A turn is rejected exactly if the limits cut the stored body within its packets. -/
theorem storeCapturedBody_rejected_iff (truthful : ∀ packet ∈ direction.packets, Truthful packet)
    (scripts : List Await × List Await) :
    (storeCapturedBody env modifications session transactionId side direction scripts).1 =
        .error (.error .invalidBodyLength) ↔
      direction.unchanged = false ∧
        (∃ handle, (session.storeBody env transactionId side direction.bodyWrite scripts.1).1 =
          .ok handle) ∧
        ¬ direction.Fits session transactionId side := by
  have lengths : direction.bodyWrite.bytes.length ≤ direction.bodyWrite.originalBytes := by
    simp [bodyWrite, bodyBytes]
  obtain ⟨noLength, stored⟩ := storeBody_spec lengths
  unfold storeCapturedBody
  cases unchanged : direction.unchanged with
  | true => simp
  | false =>
    rw [if_neg Bool.false_ne_true]
    cases outcome : session.storeBody env transactionId side direction.bodyWrite scripts.1 with
    | mk result =>
      rw [outcome] at noLength stored
      cases result with
      | error =>
        simp_all
      | ok handle =>
        obtain ⟨opened, room⟩ := stored handle rfl
        rw [storeStreamPackets_rejects_iff, opened, room]
        simp only [true_and, Option.some.injEq, exists_eq_left', DirectionCapture.Fits,
          not_forall, Nat.not_le, exists_prop, Except.ok.injEq, exists_eq',
          streamPackets, List.mem_map, exists_exists_and_eq_and]
        refine exists_congr fun packet => and_congr_right fun member => ?_
        exact validPacket_toStreamPacket (truthful packet (mem_retainPackets member)) _

/-- A body that is stored for a direction holds its packets. -/
def DirectionCapture.StoredWithin (env : Environment) (direction : DirectionCapture)
    (session : RecordingSession) (transactionId : Uuid) (side : MessageSide)
    (script : List Await) : Prop :=
  direction.unchanged = false →
    (∃ handle, (session.storeBody env transactionId side direction.bodyWrite script).1 =
      .ok handle) → direction.Fits session transactionId side

theorem storeCapturedBody_accepted_iff (truthful : ∀ packet ∈ direction.packets, Truthful packet)
    (scripts : List Await × List Await) :
    (storeCapturedBody env modifications session transactionId side direction scripts).1 ≠
        .error (.error .invalidBodyLength) ↔
      direction.StoredWithin env session transactionId side scripts.1 := by
  rw [ne_eq, storeCapturedBody_rejected_iff truthful]
  constructor
  · intro accepted changed stored
    by_contra beyond
    exact accepted ⟨changed, stored, beyond⟩
  · rintro within ⟨changed, stored, beyond⟩
    exact beyond (within changed stored)

/-- The packets of both directions are accepted exactly if every body that is stored holds
them. -/
theorem storeCapturedBodies_accepted_iff {up down : DirectionCapture}
    (upTruthful : ∀ packet ∈ up.packets, Truthful packet)
    (downTruthful : ∀ packet ∈ down.packets, Truthful packet)
    (upScripts downScripts : List Await × List Await) :
    (storeCapturedBodies env modifications session transactionId up down upScripts
        downScripts).1 ≠ .error (.error .invalidBodyLength) ↔
      up.StoredWithin env session transactionId .request upScripts.1 ∧
        ((storeCapturedBody env modifications session transactionId .request up upScripts).1 =
            .ok () →
          down.StoredWithin env
            (storeCapturedBody env modifications session transactionId .request up upScripts).2
            transactionId .response downScripts.1) := by
  have upAccepted := @storeCapturedBody_accepted_iff env modifications session transactionId
    .request up upTruthful upScripts
  unfold storeCapturedBodies
  cases outcome : storeCapturedBody env modifications session transactionId .request up
      upScripts with
  | mk result =>
    rw [outcome] at upAccepted
    cases result with
    | error =>
      simp_all
    | ok =>
      have upWithin := upAccepted.mp nofun
      refine (storeCapturedBody_accepted_iff downTruthful downScripts).trans ?_
      exact ⟨fun within => ⟨upWithin, fun _ => within⟩, fun both => both.2 rfl⟩

/-- What `storeCapturedBodies` reads of one direction of a session, whose relay may go on between
the packets and the bytes. -/
def DirectionCapture.ReadFrom (direction : DirectionCapture) (side : TrafficDirection) : Prop :=
  ∃ blocks later, direction.packets =
      (captureBlocks .empty blocks).capturedPackets.forDirection side ∧
    direction.capturedBytes =
      ((captureBlocks (captureBlocks .empty blocks) later).stream side).toVec

theorem DirectionCapture.ReadFrom.truthful {side : TrafficDirection}
    (isRead : direction.ReadFrom side) : ∀ packet ∈ direction.packets, Truthful packet := by
  obtain ⟨blocks, _, packets, -⟩ := isRead
  intro packet member
  rw [packets] at member
  exact truthful_captureBlocks faithful_empty nofun blocks packet (mem_filter.mp member).1

end Rejecting

end SprakCapture.Control
