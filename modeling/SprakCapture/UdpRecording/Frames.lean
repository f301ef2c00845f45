import Mathlib.Data.Finset.Basic
import SprakCapture.ProcessCapture.UdpFragment

/-!
# Frames of the UDP spool

A spool file is a sequence of frames: two little-endian lengths, a header in JSON and
the payload of one datagram. `scanExistingFrames` and `validateCursorBoundary` walk a
file when the spool is opened and `readFrame` parses the frame at an offset. The JSON
text itself is a parameter, of which only the round trip is known.

The lemmas at the end say what these readers find in a file that holds the encodings
of some frames and nothing else.
-/

namespace SprakCapture.UdpRecording

open Data List Data.Outcome
open Outcome (raiseIf ok_bind)
open ProcessCapture (SocketAddr UdpDatagramDirection UdpDatagramEvent UdpDatagramModification)

/-- The two length fields before a header. -/
def frameLengthBytes : Nat := 8

/-- The longest header that is written or accepted. -/
def maximumHeaderBytes : Nat := 1024 * 1024

/-- The longest payload that is written or accepted. -/
def maximumPayloadBytes : Nat := 65535

/-- One more than the greatest 64-bit number; what `checked_add` may not reach. -/
def u64Limit : Nat := 2 ^ 64

/-- What a frame says about its datagram. -/
structure SpoolHeader where
  sequence : UInt64
  recordingProcessGeneration : String
  recordingEpoch : UInt64
  processId : UInt32
  clientAddress : SocketAddr
  targetAddress : SocketAddr
  direction : UdpDatagramDirection
  capturedAtMilliseconds : UInt64
  modifications : List UdpDatagramModification
deriving DecidableEq

/-- The content of the cursor file of a segment. -/
structure PersistedCursor where
  recordingGeneration : String
  segmentId : UInt64
  sequence : UInt64
  readOffset : UInt64
deriving DecidableEq

/-- The JSON encoding of headers and cursors, which reads back what it wrote. -/
structure SpoolCodec where
  encodeHeader : SpoolHeader → Bytes
  decodeHeader : Bytes → Option SpoolHeader
  encodeCursor : PersistedCursor → Bytes
  decodeCursor : Bytes → Option PersistedCursor
  decodeHeader_encodeHeader : ∀ header, decodeHeader (encodeHeader header) = some header
  decodeCursor_encodeCursor : ∀ cursor, decodeCursor (encodeCursor cursor) = some cursor

/-- Why a call on the spool fails. -/
inductive SpoolError where
  | emptyGeneration
  | unexpectedEnd
  | headerLengthInvalid
  | payloadLengthInvalid
  | headerDamaged
  | truncatedFrameHeader
  | truncatedFrame
  | sequenceExhausted
  | cursorDamaged
  | cursorOutOfRange
  | cursorInsideFrame
  | cursorSequenceMismatch
  | totalLengthOverflow
  | segmentsExhausted
  | segmentExists
  | spoolClosed
  | headerTooLong
  | payloadTooLong
  | pendingOverflow
  | spoolFull
  | writeOffsetOverflow
  | noSegment
  | acknowledgementOutOfRange
  | acknowledgementChanged
  | pendingUnderflow
  | alreadyRetiring
  | segmentFileReleased
  | retirementChanged
deriving DecidableEq, Repr

/-! ### Reading -/

/-- `read_exact` of a number of bytes at an offset. -/
def readExact (file : Bytes) (offset count : Nat) : Outcome SpoolError Bytes :=
  if ((file.drop offset).take count).length = count then
    .ok ((file.drop offset).take count)
  else
    Outcome.raise .unexpectedEnd

/-- A little-endian length field. -/
def readU32 (file : Bytes) (offset : Nat) : Outcome SpoolError UInt32 := do
  match ← readExact file offset 4 with
  | [first, second, third, fourth] => pure (u32FromLe first second third fourth)
  | _ => Outcome.raise .unexpectedEnd

/-- The bounds on both lengths of a frame. -/
def validateFrameLengths (headerLength payloadLength : Nat) : Outcome SpoolError Unit := do
  raiseIf (headerLength = 0 ∨ maximumHeaderBytes < headerLength) .headerLengthInvalid
  raiseIf (maximumPayloadBytes < payloadLength) .payloadLengthInvalid

/-- Both validated lengths of the frame at an offset. -/
def readFrameLengths (file : Bytes) (offset : Nat) : Outcome SpoolError (Nat × Nat) := do
  let headerLength ← readU32 file offset
  let payloadLength ← readU32 file (offset + 4)
  validateFrameLengths headerLength.toNat payloadLength.toNat
  pure (headerLength.toNat, payloadLength.toNat)

/-- The header of the frame at an offset. -/
def readHeader (codec : SpoolCodec) (file : Bytes) (offset headerLength : Nat) :
    Outcome SpoolError SpoolHeader := do
  let headerBytes ← readExact file (offset + frameLengthBytes) headerLength
  match codec.decodeHeader headerBytes with
  | some header => pure header
  | none => Outcome.raise .headerDamaged

/-- The progress of `scanExistingFrames`. -/
structure FrameScan where
  offset : Nat
  nextSequence : Nat
  processGenerations : Finset String
deriving DecidableEq

/-- One turn of `scanExistingFrames`. File offsets stay below the length of a file plus
one frame, so that their checked additions do not overflow. -/
def scanFrame (codec : SpoolCodec) (file : Bytes) (scan : FrameScan) :
    Outcome SpoolError (FrameScan ⊕ FrameScan) :=
  if scan.offset < file.length then do
    raiseIf (file.length - scan.offset < frameLengthBytes) .truncatedFrameHeader
    let lengths ← readFrameLengths file scan.offset
    let endOffset := scan.offset + frameLengthBytes + lengths.1 + lengths.2
    raiseIf (file.length < endOffset) .truncatedFrame
    let header ← readHeader codec file scan.offset lengths.1
    raiseIf (u64Limit ≤ header.sequence.toNat + 1) .sequenceExhausted
    pure (.inl
      { offset := endOffset
        nextSequence := header.sequence.toNat + 1
        processGenerations :=
          if header.recordingProcessGeneration = "" then scan.processGenerations
          else insert header.recordingProcessGeneration scan.processGenerations })
  else
    pure (.inr scan)

/-- The length of a file, the sequence after its last frame and the generations that its
frames name. A file that ends inside a frame is refused. -/
def scanExistingFrames (codec : SpoolCodec) (file : Bytes) :
    Outcome SpoolError (Nat × Nat × Finset String) := do
  let scan ← Outcome.loop (scanFrame codec file) (file.length + 1)
    { offset := 0, nextSequence := 1, processGenerations := ∅ }
  pure (file.length, scan.nextSequence, scan.processGenerations)

/-- One turn of `validateCursorBoundary`: the offset and the sequence of the last frame. -/
def validateFrame (codec : SpoolCodec) (file : Bytes) (cursor : PersistedCursor)
    (walk : Nat × Option UInt64) :
    Outcome SpoolError ((Nat × Option UInt64) ⊕ (Nat × Option UInt64)) :=
  if walk.1 < cursor.readOffset.toNat then do
    let lengths ← readFrameLengths file walk.1
    let endOffset := walk.1 + frameLengthBytes + lengths.1 + lengths.2
    raiseIf (cursor.readOffset.toNat < endOffset) .cursorInsideFrame
    let header ← readHeader codec file walk.1 lengths.1
    pure (.inl (endOffset, some header.sequence))
  else
    pure (.inr walk)

/-- The cursor stands at the end of a frame that has the sequence it names. -/
def validateCursorBoundary (codec : SpoolCodec) (file : Bytes) (cursor : PersistedCursor) :
    Outcome SpoolError Unit := do
  let walk ← Outcome.loop (validateFrame codec file cursor) (cursor.readOffset.toNat + 1) (0, none)
  raiseIf (walk.1 ≠ cursor.readOffset.toNat ∨ walk.2 ≠ some cursor.sequence)
    .cursorSequenceMismatch

/-- A frame that was read and not yet acknowledged. -/
structure SpoolEntry where
  sequence : UInt64
  event : UdpDatagramEvent
  segmentId : Nat
  endOffset : Nat
  frameBytes : Nat
  recordingProcessGeneration : String
  recordingEpoch : UInt64
deriving DecidableEq

/-- The part of `readNext` that parses the frame at the read offset of a segment. -/
def readFrame (codec : SpoolCodec) (file : Bytes) (segmentId readOffset : Nat) :
    Outcome SpoolError SpoolEntry := do
  let lengths ← readFrameLengths file readOffset
  let header ← readHeader codec file readOffset lengths.1
  let payload ← readExact file (readOffset + frameLengthBytes + lengths.1) lengths.2
  let endOffset := readOffset + frameLengthBytes + lengths.1 + lengths.2
  pure
    { sequence := header.sequence
      recordingProcessGeneration := header.recordingProcessGeneration
      recordingEpoch := header.recordingEpoch
      event :=
        { processId := header.processId
          clientAddress := header.clientAddress
          targetAddress := header.targetAddress
          direction := header.direction
          payload := payload
          capturedAtMilliseconds := header.capturedAtMilliseconds
          modifications := header.modifications }
      segmentId := segmentId
      endOffset := endOffset
      frameBytes := endOffset - readOffset }

/-! ### Frames and files -/

/-- One frame of a spool file. -/
structure SpoolFrame where
  header : SpoolHeader
  payload : Bytes
deriving DecidableEq

namespace SpoolFrame

variable (codec : SpoolCodec)

/-- The bytes that appending a frame writes. -/
def bytes (frame : SpoolFrame) : Bytes :=
  u32ToLe (UInt32.ofNat (codec.encodeHeader frame.header).length) ++
    u32ToLe (UInt32.ofNat frame.payload.length) ++ codec.encodeHeader frame.header ++ frame.payload

/-- The length of a frame in a file. -/
def size (frame : SpoolFrame) : Nat :=
  frameLengthBytes + (codec.encodeHeader frame.header).length + frame.payload.length

/-- A frame that appending does not refuse. -/
structure Writable (frame : SpoolFrame) : Prop where
  header_pos : 0 < (codec.encodeHeader frame.header).length
  header_le : (codec.encodeHeader frame.header).length ≤ maximumHeaderBytes
  payload_le : frame.payload.length ≤ maximumPayloadBytes
  sequence_lt : frame.header.sequence.toNat + 1 < u64Limit

/-- What reading the frame at an offset of a segment gives. -/
def entry (segmentId readOffset : Nat) (frame : SpoolFrame) : SpoolEntry where
  sequence := frame.header.sequence
  recordingProcessGeneration := frame.header.recordingProcessGeneration
  recordingEpoch := frame.header.recordingEpoch
  event :=
    { processId := frame.header.processId
      clientAddress := frame.header.clientAddress
      targetAddress := frame.header.targetAddress
      direction := frame.header.direction
      payload := frame.payload
      capturedAtMilliseconds := frame.header.capturedAtMilliseconds
      modifications := frame.header.modifications }
  segmentId := segmentId
  endOffset := readOffset + frame.size codec
  frameBytes := frame.size codec

end SpoolFrame

/-- The content of a file with the given frames. -/
def framesBytes (codec : SpoolCodec) (frames : List SpoolFrame) : Bytes :=
  frames.flatMap (SpoolFrame.bytes codec)

/-- The length of a file with the given frames. -/
def framesSize (codec : SpoolCodec) (frames : List SpoolFrame) : Nat :=
  (frames.map (SpoolFrame.size codec)).sum

/-! ### What the readers find -/

open SpoolFrame

theorem readExact_of_drop {file : Bytes} {offset : Nat} (before range after : Bytes)
    (content : file.drop offset = before ++ range ++ after) :
    readExact file (offset + before.length) range.length = .ok range := by
  have located : file.drop (offset + before.length) = range ++ after := by
    rw [← drop_drop, content, append_assoc, drop_left]
  simp [readExact, located]

theorem readU32_of_drop {file : Bytes} {offset : Nat} {value : UInt32} (before after : Bytes)
    (content : file.drop offset = before ++ u32ToLe value ++ after) :
    readU32 file (offset + before.length) = .ok value := by
  obtain ⟨_, _, _, _, written, readBack⟩ := exists_u32ToLe value
  have found := readExact_of_drop before (u32ToLe value) after content
  rw [length_u32ToLe, written] at found
  rw [readU32, found]
  exact congrArg Except.ok readBack

variable {codec : SpoolCodec}

namespace SpoolFrame

variable {frame : SpoolFrame} {file rest : Bytes} {offset : Nat}

@[simp] theorem length_bytes (frame : SpoolFrame) :
    (frame.bytes codec).length = frame.size codec := by
  simp only [bytes, size, length_append, length_u32ToLe, frameLengthBytes]

variable (writable : frame.Writable codec)
include writable

theorem frameLengthBytes_lt_size : frameLengthBytes < frame.size codec := by
  have := writable.header_pos
  unfold size
  omega

theorem Writable.toNat_headerLength :
    (UInt32.ofNat (codec.encodeHeader frame.header).length).toNat =
      (codec.encodeHeader frame.header).length := by
  have := writable.header_le
  rw [UInt32.toNat_ofNat']
  unfold maximumHeaderBytes at this
  omega

theorem Writable.toNat_payloadLength :
    (UInt32.ofNat frame.payload.length).toNat = frame.payload.length := by
  have := writable.payload_le
  rw [UInt32.toNat_ofNat']
  unfold maximumPayloadBytes at this
  omega

theorem Writable.validateFrameLengths_eq :
    validateFrameLengths (codec.encodeHeader frame.header).length frame.payload.length =
      .ok () := by
  have positive := writable.header_pos
  have headerBound := writable.header_le
  have payloadBound := writable.payload_le
  rw [validateFrameLengths, raiseIf_of_not _ (by omega), ok_bind, raiseIf_of_not _ (by omega)]

/-- The length fields of a frame are read whether or not the frame is complete. -/
theorem Writable.readFrameLengths_of_fields (content : file.drop offset =
      u32ToLe (UInt32.ofNat (codec.encodeHeader frame.header).length) ++
        u32ToLe (UInt32.ofNat frame.payload.length) ++ rest) :
    readFrameLengths file offset =
      .ok ((codec.encodeHeader frame.header).length, frame.payload.length) := by
  have headerLength : readU32 file offset =
      .ok (UInt32.ofNat (codec.encodeHeader frame.header).length) := by
    refine readU32_of_drop [] (u32ToLe (UInt32.ofNat frame.payload.length) ++ rest) ?_
    simpa using content
  have payloadLength : readU32 file (offset + 4) = .ok (UInt32.ofNat frame.payload.length) :=
    readU32_of_drop (u32ToLe (UInt32.ofNat (codec.encodeHeader frame.header).length)) rest content
  rw [readFrameLengths, headerLength, ok_bind, payloadLength, ok_bind,
    writable.toNat_headerLength, writable.toNat_payloadLength, writable.validateFrameLengths_eq]
  rfl

variable (content : file.drop offset = frame.bytes codec ++ rest)
include content

theorem Writable.readFrameLengths_eq :
    readFrameLengths file offset =
      .ok ((codec.encodeHeader frame.header).length, frame.payload.length) := by
  exact writable.readFrameLengths_of_fields content

omit writable

theorem readHeader_eq :
    readHeader codec file offset (codec.encodeHeader frame.header).length = .ok frame.header := by
  have found : readExact file (offset + frameLengthBytes)
      (codec.encodeHeader frame.header).length = .ok (codec.encodeHeader frame.header) := by
    refine readExact_of_drop
      (u32ToLe (UInt32.ofNat (codec.encodeHeader frame.header).length) ++
        u32ToLe (UInt32.ofNat frame.payload.length))
      (codec.encodeHeader frame.header) (frame.payload ++ rest) ?_
    simpa [bytes] using content
  rw [readHeader, found, ok_bind, codec.decodeHeader_encodeHeader]
  rfl

omit content

/-- Reading where a frame was written gives the frame back. -/
theorem Writable.readFrame_eq (writable : frame.Writable codec)
    (content : file.drop offset = frame.bytes codec ++ rest) (segmentId : Nat) :
    readFrame codec file segmentId offset = .ok (frame.entry codec segmentId offset) := by
  have payload : readExact file
      (offset + frameLengthBytes + (codec.encodeHeader frame.header).length)
      frame.payload.length = .ok frame.payload := by
    have found := readExact_of_drop
      (u32ToLe (UInt32.ofNat (codec.encodeHeader frame.header).length) ++
        u32ToLe (UInt32.ofNat frame.payload.length) ++ codec.encodeHeader frame.header)
      frame.payload rest content
    rw [length_append, length_append, ← Nat.add_assoc] at found
    exact found
  rw [readFrame, writable.readFrameLengths_eq content, ok_bind, readHeader_eq content, payload]
  have stop : offset + frameLengthBytes + (codec.encodeHeader frame.header).length +
      frame.payload.length = offset + frame.size codec := by
    unfold size
    omega
  simp only [stop, Nat.add_sub_cancel_left]
  rfl

end SpoolFrame

variable {frame : SpoolFrame} {rest : Bytes} {cursor : PersistedCursor}

section Files

variable {frames before after : List SpoolFrame} {file : Bytes}

@[simp] theorem framesBytes_nil : framesBytes codec [] = [] := rfl

@[simp] theorem framesBytes_cons (frame : SpoolFrame) (frames : List SpoolFrame) :
    framesBytes codec (frame :: frames) = frame.bytes codec ++ framesBytes codec frames := rfl

@[simp] theorem framesBytes_append (before after : List SpoolFrame) :
    framesBytes codec (before ++ after) = framesBytes codec before ++ framesBytes codec after :=
  flatMap_append

@[simp] theorem framesSize_nil : framesSize codec [] = 0 := rfl

@[simp] theorem framesSize_cons (frame : SpoolFrame) (frames : List SpoolFrame) :
    framesSize codec (frame :: frames) = frame.size codec + framesSize codec frames := by
  simp [framesSize]

@[simp] theorem framesSize_append (before after : List SpoolFrame) :
    framesSize codec (before ++ after) = framesSize codec before + framesSize codec after := by
  simp [framesSize]

@[simp] theorem length_framesBytes (frames : List SpoolFrame) :
    (framesBytes codec frames).length = framesSize codec frames := by
  induction frames with
  | nil => rfl
  | cons _ frames ih => simp [ih]

theorem drop_framesBytes (before after : List SpoolFrame) :
    (framesBytes codec (before ++ after)).drop (framesSize codec before) =
      framesBytes codec after := by
  simp

/-- What a scan has found once it is past one more frame. -/
def FrameScan.past (codec : SpoolCodec) (scan : FrameScan) (frame : SpoolFrame) : FrameScan where
  offset := scan.offset + frame.size codec
  nextSequence := frame.header.sequence.toNat + 1
  processGenerations :=
    if frame.header.recordingProcessGeneration = "" then scan.processGenerations
    else insert frame.header.recordingProcessGeneration scan.processGenerations

variable {offset : Nat}

theorem length_eq_of_drop_cons (writable : frame.Writable codec)
    (content : file.drop offset = frame.bytes codec ++ rest) :
    file.length = offset + frame.size codec + rest.length := by
  have lengths := congrArg List.length content
  rw [length_drop, length_append, length_bytes] at lengths
  have := frameLengthBytes_lt_size writable
  omega

theorem drop_past_frame (content : file.drop offset = frame.bytes codec ++ rest) :
    file.drop (offset + frame.size codec) = rest := by
  rw [← drop_drop, content, ← length_bytes, drop_left]

variable {turns : Nat} {scan : FrameScan}

theorem scanFrame_eq (writable : frame.Writable codec)
    (content : file.drop scan.offset = frame.bytes codec ++ rest) :
    scanFrame codec file scan = .ok (.inl (scan.past codec frame)) := by
  have fileLength := length_eq_of_drop_cons writable content
  have headed := frameLengthBytes_lt_size writable
  have sequenceFits := writable.sequence_lt
  have stop : scan.offset + frameLengthBytes + (codec.encodeHeader frame.header).length +
      frame.payload.length = scan.offset + frame.size codec := by
    unfold size
    omega
  rw [scanFrame, if_pos (by omega), raiseIf_of_not _ (by omega), ok_bind,
    writable.readFrameLengths_eq content, ok_bind]
  simp only [stop]
  rw [raiseIf_of_not _ (by omega), ok_bind, readHeader_eq content,
    ok_bind, raiseIf_of_not _ (by omega)]
  rfl

variable (writable : ∀ frame ∈ frames, frame.Writable codec)
include writable

/-- A scan passes over the frames of a file one by one. -/
theorem loop_scanFrame (enough : frames.length < turns)
    (content : file.drop scan.offset = framesBytes codec frames) :
    Outcome.loop (scanFrame codec file) turns scan =
      .ok (frames.foldl (FrameScan.past codec) scan) := by
  induction frames generalizing scan turns with
  | nil =>
    obtain ⟨turns, rfl⟩ : ∃ count, turns = count + 1 := ⟨turns - 1, by simp at enough; omega⟩
    have atEnd : file.length ≤ scan.offset := drop_eq_nil_iff.mp content
    rw [Outcome.loop, scanFrame, if_neg (by omega)]
    rfl
  | cons frame frames ih =>
    obtain ⟨turns, rfl⟩ : ∃ count, turns = count + 1 := ⟨turns - 1, by omega⟩
    rw [Outcome.loop, scanFrame_eq (writable frame mem_cons_self) content]
    refine ih (fun other member => writable other (.tail _ member)) ?_ (drop_past_frame content)
    simp only [length_cons] at enough
    omega

theorem length_le_framesSize : frames.length ≤ framesSize codec frames := by
  induction frames with
  | nil => exact Nat.le_refl 0
  | cons frame frames ih =>
    have rest := ih fun other member => writable other (.tail _ member)
    have := frameLengthBytes_lt_size (writable frame mem_cons_self)
    rw [length_cons, framesSize_cons]
    omega

/-- The sequence that follows a list of frames. -/
def sequenceAfter (frames : List SpoolFrame) : Nat :=
  match frames.getLast? with
  | none => 1
  | some frame => frame.header.sequence.toNat + 1

/-- The generations that a scan of a list of frames reports. -/
def generationsOf (codec : SpoolCodec) (frames : List SpoolFrame) : Finset String :=
  (frames.foldl (FrameScan.past codec) ⟨0, 1, ∅⟩).processGenerations

/-- A file of complete frames is accepted, with the sequence after its last frame. -/
theorem scanExistingFrames_eq :
    scanExistingFrames codec (framesBytes codec frames) =
      .ok (framesSize codec frames, sequenceAfter frames, generationsOf codec frames) := by
  have enough : frames.length < (framesBytes codec frames).length + 1 := by
    have := length_le_framesSize writable
    rw [length_framesBytes]
    omega
  have scanned := @loop_scanFrame _ _ (framesBytes codec frames) _ ⟨0, 1, ∅⟩ writable enough rfl
  rw [scanExistingFrames, scanned, ok_bind, length_framesBytes]
  have next : (frames.foldl (FrameScan.past codec) ⟨0, 1, ∅⟩).nextSequence =
      sequenceAfter frames := by
    rcases eq_nil_or_concat frames with rfl | ⟨_, _, rfl⟩
    · rfl
    · simp [FrameScan.past, sequenceAfter]
  rw [next]
  rfl

omit writable

theorem validateFrame_eq {walk : Nat × Option UInt64} (writable : frame.Writable codec)
    (inside : walk.1 + frame.size codec ≤ cursor.readOffset.toNat)
    (content : file.drop walk.1 = framesBytes codec (frame :: frames)) :
    validateFrame codec file cursor walk =
      .ok (.inl (walk.1 + frame.size codec, some frame.header.sequence)) := by
  have headed := frameLengthBytes_lt_size writable
  have stop : walk.1 + frameLengthBytes + (codec.encodeHeader frame.header).length +
      frame.payload.length = walk.1 + frame.size codec := by
    unfold size
    omega
  rw [validateFrame, if_pos (by omega), writable.readFrameLengths_eq content, ok_bind]
  simp only [stop]
  rw [raiseIf_of_not _ (by omega), readHeader_eq content]
  rfl

/-- The walk to a cursor passes over the frames before it. -/
theorem loop_validateFrame {cursor : PersistedCursor} {walk : Nat × Option UInt64}
    (writable : ∀ frame ∈ before, frame.Writable codec) (enough : before.length < turns)
    (content : file.drop walk.1 = framesBytes codec (before ++ after))
    (atBoundary : cursor.readOffset.toNat = walk.1 + framesSize codec before) :
    Outcome.loop (validateFrame codec file cursor) turns walk =
      .ok (cursor.readOffset.toNat,
        (before.getLast?.map fun frame => frame.header.sequence).or walk.2) := by
  induction before generalizing walk turns with
  | nil =>
    obtain ⟨turns, rfl⟩ : ∃ count, turns = count + 1 := ⟨turns - 1, by simp at enough; omega⟩
    rw [framesSize_nil] at atBoundary
    rw [Outcome.loop, validateFrame, if_neg (by omega), atBoundary]
    rfl
  | cons frame before ih =>
    obtain ⟨turns, rfl⟩ : ∃ count, turns = count + 1 := ⟨turns - 1, by omega⟩
    rw [framesSize_cons, ← Nat.add_assoc] at atBoundary
    rw [cons_append] at content
    rw [Outcome.loop, validateFrame_eq (writable frame mem_cons_self) (by omega) content, ok_bind]
    simp only [length_cons] at enough
    have rest := @ih turns
      (walk.1 + frame.size codec, some frame.header.sequence)
      (fun other member => writable other (.tail _ member)) (by omega)
      (drop_past_frame (by rw [content, framesBytes_cons])) atBoundary
    grind

theorem validateCursorBoundary_eq {last : SpoolFrame}
    (writable : ∀ frame ∈ before, frame.Writable codec)
    (atBoundary : cursor.readOffset.toNat = framesSize codec before)
    (lastFrame : before.getLast? = some last) (sequence : cursor.sequence = last.header.sequence) :
    validateCursorBoundary codec (framesBytes codec (before ++ after)) cursor = .ok () := by
  have enough : before.length < cursor.readOffset.toNat + 1 := by
    have := length_le_framesSize writable
    omega
  have walked := @loop_validateFrame _ _ _ (framesBytes codec (before ++ after))
    _ _ (0, none) writable enough rfl (by rw [atBoundary, Nat.zero_add])
  rw [validateCursorBoundary, walked, lastFrame, sequence]
  exact raiseIf_of_not _ (by simp)

end Files

end SprakCapture.UdpRecording
