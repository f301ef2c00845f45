import SprakCapture.Data.Recorded
import SprakCapture.UdpRecording.Frames

/-!
# The UDP recording spool

The spool keeps captured datagrams in numbered segment files until a transaction holds
them. A writer thread appends; a reader thread reads the oldest frame and acknowledges
it, which replaces the cursor file of the segment and deletes a segment once it is read.
Both run over one directory, which outlives them.

Every call lists the file operations it performs, so that a process can die between any
two of them. `SpoolSystem` is the directory with the spool that is open on it, if there
is one. Its actions are the calls of the two threads, cut at the points where the state
lock is free: appends and closing interleave with every stage of an acknowledgement and
of the retirement of a segment. File writes succeed; deletions may fail.
-/

namespace SprakCapture.UdpRecording

open Data Data.Outcome Data.Recorded
open ProcessCapture (UdpDatagramEvent)

/-- The bytes of unacknowledged frames that the spool accepts. -/
def maximumSpoolBytes : Nat := 2 * 1024 * 1024 * 1024

/-- The length beyond which a segment takes no further frame. -/
def maximumSegmentBytes : Nat := 64 * 1024 * 1024

/-! ### The directory -/

/-- The segment files and cursor files of the capture directory, by segment number. The
temporary file of a cursor replacement is not listed: opening deletes it unread. -/
structure Directory where
  segments : OrderedTable Nat Bytes
  cursors : OrderedTable Nat Bytes

/-- A change to one file of the directory. -/
inductive FileOperation where
  | createSegment (segmentId : Nat)
  | writeFrame (segmentId offset : Nat) (bytes : Bytes)
  | removeSegment (segmentId : Nat)
  | replaceCursor (segmentId : Nat) (content : Bytes)
  | removeCursor (segmentId : Nat)
deriving DecidableEq

/-- The directory after one file operation. -/
def Directory.apply (directory : Directory) : FileOperation → Directory
  | .createSegment segmentId =>
    { directory with segments := directory.segments.insert segmentId [] }
  | .writeFrame segmentId offset bytes =>
    match directory.segments.get? segmentId with
    | some file =>
      { directory with
        segments := directory.segments.insert segmentId (splice file offset bytes) }
    | none => directory
  | .removeSegment segmentId => { directory with segments := directory.segments.erase segmentId }
  | .replaceCursor segmentId content =>
    { directory with cursors := directory.cursors.insert segmentId content }
  | .removeCursor segmentId => { directory with cursors := directory.cursors.erase segmentId }

/-- A call that may end between any two of its file operations. -/
abbrev FileProgram := Recorded FileOperation SpoolError

/-! ### The state of an open spool -/

/-- One segment file of an open spool. `fileHeld` says whether the spool holds its handle. -/
structure SpoolSegment where
  id : Nat
  fileHeld : Bool
  length : Nat
  readOffset : Nat
deriving DecidableEq

/-- The state behind the lock of the spool. -/
structure SpoolState where
  segments : List SpoolSegment
  nextSegmentId : Nat
  nextSequence : Nat
  pendingBytes : Nat
  closed : Bool
  retiringSegmentId : Option Nat
  retirementBlocked : Bool
  processGenerations : Finset String
deriving DecidableEq

/-- An open spool. -/
structure UdpRecordingSpool where
  recordingGeneration : String
  state : SpoolState
deriving DecidableEq

/-- A captured datagram with the process generation and clear epoch of its capture. -/
structure CapturedUdpDatagram where
  event : UdpDatagramEvent
  recordingProcessGeneration : String
  recordingEpoch : UInt64
deriving DecidableEq

/-- The part of an entry that acknowledging it needs. -/
structure SpoolAcknowledgement where
  sequence : UInt64
  segmentId : Nat
  endOffset : Nat
  frameBytes : Nat
deriving DecidableEq

def SpoolEntry.acknowledgement (entry : SpoolEntry) : SpoolAcknowledgement where
  sequence := entry.sequence
  segmentId := entry.segmentId
  endOffset := entry.endOffset
  frameBytes := entry.frameBytes

/-- A new, empty segment. The file must not exist yet. -/
def createSegment (directory : Directory) (segmentId : Nat) : FileProgram SpoolSegment :=
  if (directory.segments.get? segmentId).isSome then
    ofOutcome (Outcome.raise .segmentExists)
  else do
    Recorded.perform (.createSegment segmentId)
    pure { id := segmentId, fileHeld := true, length := 0, readOffset := 0 }

/-! ### Opening -/

/-- The acknowledged boundary of a segment. A cursor of another generation is deleted and
the segment is read from its start. -/
def loadPersistedCursor (codec : SpoolCodec) (directory : Directory) (file : Bytes)
    (recordingGeneration : String) (segmentId segmentLength : Nat) : FileProgram Nat :=
  match directory.cursors.get? segmentId with
  | none => pure 0
  | some bytes =>
    match codec.decodeCursor bytes with
    | none => ofOutcome (Outcome.raise .cursorDamaged)
    | some cursor =>
      if cursor.recordingGeneration ≠ recordingGeneration then do
        Recorded.perform (.removeCursor segmentId)
        pure 0
      else do
        ofOutcome (raiseIf (cursor.segmentId.toNat ≠ segmentId ∨
          cursor.readOffset.toNat = 0 ∨ segmentLength < cursor.readOffset.toNat)
          .cursorOutOfRange)
        ofOutcome (validateCursorBoundary codec file cursor)
        pure cursor.readOffset.toNat

/-- Delete a segment that was acknowledged to its end but not deleted. -/
def removeRecoveredSegment (directory : Directory) (segmentId : Nat) : FileProgram Unit := do
  Recorded.perform (.removeSegment segmentId)
  if (directory.cursors.get? segmentId).isSome then
    Recorded.perform (.removeCursor segmentId)
  else
    pure ()

/-- What opening has recovered from the segments it has visited. -/
structure Recovery where
  segments : List SpoolSegment
  pendingBytes : Nat
  nextSequence : Nat
  nextSegmentId : Nat
  processGenerations : Finset String

/-- Recover one segment. -/
def recoverSegment (codec : SpoolCodec) (directory : Directory) (recordingGeneration : String)
    (recovery : Recovery) (segment : Nat × Bytes) : FileProgram Recovery := do
  let scanned ← ofOutcome (scanExistingFrames codec segment.2)
  let readOffset ← loadPersistedCursor codec directory segment.2 recordingGeneration segment.1
    scanned.1
  ofOutcome (raiseIf
    (u64Limit ≤ recovery.pendingBytes + (scanned.1 - readOffset)) .totalLengthOverflow)
  ofOutcome (raiseIf (u64Limit ≤ segment.1 + 1) .segmentsExhausted)
  let visited : Recovery :=
    { segments := recovery.segments
      pendingBytes := recovery.pendingBytes + (scanned.1 - readOffset)
      nextSequence := max recovery.nextSequence scanned.2.1
      nextSegmentId := segment.1 + 1
      processGenerations := recovery.processGenerations ∪ scanned.2.2 }
  if readOffset = scanned.1 ∧ 0 < scanned.1 then do
    removeRecoveredSegment directory segment.1
    pure visited
  else
    pure
      { visited with
        segments := recovery.segments ++
          [{ id := segment.1, fileHeld := true, length := scanned.1, readOffset := readOffset }] }

/-- The deletions of cursor files that belong to no segment. -/
def cleanupInterruptedCursorFiles (directory : Directory) : List FileOperation :=
  (directory.cursors.entries.filter fun cursor =>
    (directory.segments.get? cursor.1).isNone).map fun cursor => .removeCursor cursor.1

/-- Open the spool of a directory. -/
def createWithSegmentRemover (codec : SpoolCodec) (directory : Directory)
    (recordingGeneration : String) : FileProgram UdpRecordingSpool := do
  ofOutcome (raiseIf (recordingGeneration = "") .emptyGeneration)
  performAll (cleanupInterruptedCursorFiles directory)
  let cleaned := (cleanupInterruptedCursorFiles directory).foldl Directory.apply directory
  let recovery ← cleaned.segments.entries.foldlM (recoverSegment codec cleaned recordingGeneration)
    { segments := [], pendingBytes := 0, nextSequence := 1, nextSegmentId := 1,
      processGenerations := ∅ }
  let spoolOf := fun (segments : List SpoolSegment) (nextSegmentId : Nat) =>
    ({ recordingGeneration := recordingGeneration
       state :=
        { segments := segments
          nextSegmentId := nextSegmentId
          nextSequence := recovery.nextSequence
          pendingBytes := recovery.pendingBytes
          closed := false
          retiringSegmentId := none
          retirementBlocked := false
          processGenerations := recovery.processGenerations } } : UdpRecordingSpool)
  if recovery.segments = [] then do
    let segment ← createSegment cleaned recovery.nextSegmentId
    ofOutcome
      (raiseIf (u64Limit ≤ recovery.nextSegmentId + 1) .segmentsExhausted)
    pure (spoolOf [segment] (recovery.nextSegmentId + 1))
  else
    pure (spoolOf recovery.segments recovery.nextSegmentId)

/-! ### Appending -/

/-- A frame together with the segment it was written to. -/
structure PlacedFrame where
  segmentId : Nat
  frame : SpoolFrame
deriving DecidableEq

/-- A call under the state lock: the state it leaves, its file operations and its result. -/
structure SpoolCall (Value : Type) where
  state : SpoolState
  operations : List FileOperation
  result : Outcome SpoolError Value

/-- The frame that a captured datagram is written as. -/
def CapturedUdpDatagram.frame (captured : CapturedUdpDatagram) (sequence : Nat) : SpoolFrame where
  header :=
    { sequence := UInt64.ofNat sequence
      recordingProcessGeneration := captured.recordingProcessGeneration
      recordingEpoch := captured.recordingEpoch
      processId := captured.event.processId
      clientAddress := captured.event.clientAddress
      targetAddress := captured.event.targetAddress
      direction := captured.event.direction
      capturedAtMilliseconds := captured.event.capturedAtMilliseconds
      modifications := captured.event.modifications }
  payload := captured.event.payload

/-- The checks of an append between fixing the sequence and choosing the segment. -/
def admitFrame (codec : SpoolCodec) (state : SpoolState) (frame : SpoolFrame) :
    Outcome SpoolError Unit := do
  raiseIf (2 ^ 32 ≤ (codec.encodeHeader frame.header).length) .headerTooLong
  raiseIf (2 ^ 32 ≤ frame.payload.length) .payloadTooLong
  validateFrameLengths (codec.encodeHeader frame.header).length frame.payload.length
  raiseIf (u64Limit ≤ state.pendingBytes + frame.size codec) .pendingOverflow
  raiseIf (maximumSpoolBytes < state.pendingBytes + frame.size codec) .spoolFull

/-- The last segment has frames and no room for one more. -/
def SpoolState.shouldRotate (state : SpoolState) (frameBytes : Nat) : Bool :=
  state.segments.getLast?.any fun segment =>
    0 < segment.length && maximumSegmentBytes < segment.length + frameBytes

/-- Write a frame at the end of the last segment and account for it. -/
def writeFrame (codec : SpoolCodec) (state : SpoolState) (frame : SpoolFrame) :
    SpoolCall PlacedFrame :=
  match state.segments.getLast? with
  | none => ⟨state, [], .error .absent⟩
  | some segment =>
    if !segment.fileHeld then
      ⟨state, [], .error .absent⟩
    else
      let operation := FileOperation.writeFrame segment.id segment.length (frame.bytes codec)
      if u64Limit ≤ segment.length + frame.size codec then
        ⟨state, [operation], Outcome.raise .writeOffsetOverflow⟩
      else
        { state :=
            { state with
              segments := state.segments.dropLast ++
                [{ segment with length := segment.length + frame.size codec }]
              pendingBytes := state.pendingBytes + frame.size codec
              nextSequence := state.nextSequence + 1 }
          operations := [operation]
          result := .ok { segmentId := segment.id, frame := frame } }

/-- Start a new segment, then write the frame to it. -/
def rotateAndWrite (codec : SpoolCodec) (directory : Directory) (state : SpoolState)
    (frame : SpoolFrame) : SpoolCall PlacedFrame :=
  if u64Limit ≤ state.nextSegmentId + 1 then
    ⟨state, [], Outcome.raise .segmentsExhausted⟩
  else
    let numbered := { state with nextSegmentId := state.nextSegmentId + 1 }
    let created := createSegment directory state.nextSegmentId
    match created.result with
    | .error fault => ⟨numbered, created.operations, .error fault⟩
    | .ok segment =>
      let written :=
        writeFrame codec { numbered with segments := state.segments ++ [segment] } frame
      ⟨written.state, created.operations ++ written.operations, written.result⟩

/-- Append a captured datagram. -/
def appendCapturedEvent (codec : SpoolCodec) (directory : Directory) (state : SpoolState)
    (captured : CapturedUdpDatagram) : SpoolCall PlacedFrame :=
  if state.closed then
    ⟨state, [], Outcome.raise .spoolClosed⟩
  else if u64Limit ≤ state.nextSequence + 1 then
    ⟨state, [], Outcome.raise .sequenceExhausted⟩
  else
    let frame := captured.frame state.nextSequence
    let named :=
      { state with
        processGenerations := insert captured.recordingProcessGeneration state.processGenerations }
    match admitFrame codec named frame with
    | .error fault => ⟨named, [], .error fault⟩
    | .ok () =>
      if named.shouldRotate (frame.size codec) then
        rotateAndWrite codec directory named frame
      else
        writeFrame codec named frame

/-! ### Reading -/

/-- How one pass through the loop of `readNext` ends. -/
inductive ReadPass where
  /-- The reader waits for a change. -/
  | waits
  /-- The call returns without an entry. -/
  | ends
  /-- The first segment is read and has to be retired before the next pass. -/
  | retires
  /-- The call returns an entry. -/
  | found (entry : SpoolEntry)
  /-- The call fails. -/
  | fails (fault : Fault SpoolError)
deriving DecidableEq

/-- One pass through the loop of `readNext`. -/
def readNextPass (codec : SpoolCodec) (directory : Directory) (state : SpoolState) : ReadPass :=
  if state.retiringSegmentId.isSome then .waits
  else
    match state.segments with
    | [] => .ends
    | front :: rest =>
      if front.readOffset = front.length then
        if state.retirementBlocked then .ends
        else if rest = [] ∧ ¬state.closed then .waits
        else .retires
      else
        let file := if front.fileHeld then directory.segments.get? front.id else none
        match Outcome.expect file >>= fun file =>
            readFrame codec file front.id front.readOffset with
        | .ok entry => .found entry
        | .error fault => .fails fault

/-- Mark the first segment as being retired and take its file handle. -/
def beginSegmentRetirement (state : SpoolState) : SpoolState × Outcome SpoolError Nat :=
  if state.retiringSegmentId.isSome then
    (state, Outcome.raise .alreadyRetiring)
  else
    match state.segments with
    | [] => (state, Outcome.raise .noSegment)
    | front :: rest =>
      if !front.fileHeld then
        (state, Outcome.raise .segmentFileReleased)
      else
        ({ state with
           segments := { front with fileHeld := false } :: rest
           retiringSegmentId := some front.id
           retirementBlocked := false }, .ok front.id)

/-- Begin to retire a first segment that is read and takes no more frames. -/
def retireCompletedFront (state : SpoolState) : SpoolState × Outcome SpoolError (Option Nat) :=
  if state.retiringSegmentId.isSome then
    (state, .ok none)
  else
    match state.segments with
    | [] => (state, .ok none)
    | front :: rest =>
      if front.readOffset ≠ front.length ∨ rest = [] ∧ ¬state.closed then
        (state, .ok none)
      else
        ((beginSegmentRetirement state).1, (beginSegmentRetirement state).2.map some)

/-- The segment under retirement is still the first one. -/
def validateRetiringSegment (state : SpoolState) (segmentId : Nat) : Bool :=
  state.retiringSegmentId = some segmentId ∧
    (state.segments.head?.map fun segment => segment.id) = some segmentId

/-- The end of a retirement whose segment file was deleted. -/
def commitRetirement (state : SpoolState) (segmentId : Nat) :
    SpoolState × Outcome SpoolError Unit :=
  if validateRetiringSegment state segmentId then
    ({ state with
       segments := state.segments.tail
       retiringSegmentId := none
       retirementBlocked := false }, .ok ())
  else
    (state, Outcome.raise .retirementChanged)

/-- The end of a retirement whose segment file could not be deleted. -/
def restoreRetirement (state : SpoolState) (segmentId : Nat) :
    SpoolState × Outcome SpoolError Unit :=
  if validateRetiringSegment state segmentId then
    ({ state with
       segments := state.segments.modifyHead fun segment => { segment with fileHeld := true }
       retiringSegmentId := none
       retirementBlocked := true }, .ok ())
  else
    (state, Outcome.raise .retirementChanged)

/-! ### Acknowledging -/

/-- The boundary of an acknowledgement lies in the unread part of the first segment. -/
def checkAcknowledgement (state : SpoolState) (acknowledgement : SpoolAcknowledgement)
    (error : SpoolError) : Outcome SpoolError Unit :=
  match state.segments with
  | [] => Outcome.raise .noSegment
  | front :: _ =>
    raiseIf (front.id ≠ acknowledgement.segmentId ∨
      acknowledgement.endOffset ≤ front.readOffset ∨ front.length < acknowledgement.endOffset) error

/-- The first part of `acknowledge`: check the boundary and replace the cursor file. -/
def persistAcknowledgement (codec : SpoolCodec) (spool : UdpRecordingSpool)
    (acknowledgement : SpoolAcknowledgement) : FileProgram Unit := do
  ofOutcome
    (checkAcknowledgement spool.state acknowledgement .acknowledgementOutOfRange)
  Recorded.perform (.replaceCursor acknowledgement.segmentId (codec.encodeCursor
    { recordingGeneration := spool.recordingGeneration
      segmentId := UInt64.ofNat acknowledgement.segmentId
      sequence := acknowledgement.sequence
      readOffset := UInt64.ofNat acknowledgement.endOffset }))

/-- The second part of `acknowledge`: advance the boundary in memory, and begin to retire
the segment if this was its last frame and no more can follow. -/
def commitAcknowledgement (state : SpoolState) (acknowledgement : SpoolAcknowledgement) :
    SpoolState × Outcome SpoolError (Option Nat) :=
  match checkAcknowledgement state acknowledgement .acknowledgementChanged with
  | .error fault => (state, .error fault)
  | .ok () =>
    let advanced :=
      { state with
        segments := state.segments.modifyHead fun segment =>
          { segment with readOffset := acknowledgement.endOffset } }
    if state.pendingBytes < acknowledgement.frameBytes then
      (advanced, Outcome.raise .pendingUnderflow)
    else
      let settled :=
        { advanced with pendingBytes := state.pendingBytes - acknowledgement.frameBytes }
      if (settled.segments.head?.any fun segment => segment.readOffset = segment.length) ∧
          (1 < settled.segments.length ∨ settled.closed) then
        ((beginSegmentRetirement settled).1, (beginSegmentRetirement settled).2.map some)
      else
        (settled, .ok none)

/-! ### The directory and the spool on it -/

/-- Where the reader thread stands in a call that it has begun. -/
inductive ReaderStage where
  | idle
  /-- The cursor file is replaced and the boundary in memory is not yet advanced. -/
  | acknowledging (acknowledgement : SpoolAcknowledgement)
  /-- The first segment is marked as being retired; its file is to be deleted. -/
  | retiring (segmentId : Nat)
  /-- The segment file is deleted; its cursor file and its node are left. -/
  | retired (segmentId : Nat)
deriving DecidableEq

/-- The frame that an entry was read from. -/
def SpoolEntry.placed (entry : SpoolEntry) : PlacedFrame where
  segmentId := entry.segmentId
  frame :=
    { header :=
        { sequence := entry.sequence
          recordingProcessGeneration := entry.recordingProcessGeneration
          recordingEpoch := entry.recordingEpoch
          processId := entry.event.processId
          clientAddress := entry.event.clientAddress
          targetAddress := entry.event.targetAddress
          direction := entry.event.direction
          capturedAtMilliseconds := entry.event.capturedAtMilliseconds
          modifications := entry.event.modifications }
      payload := entry.event.payload }

/-- The capture directory, the spool that is open on it, and the history of both. -/
structure SpoolSystem where
  directory : Directory
  spool : Option UdpRecordingSpool
  stage : ReaderStage
  /-- The entries that reading has returned since the spool was opened. -/
  issued : List SpoolEntry
  /-- Every frame that was ever appended, in order. -/
  appended : List PlacedFrame
  /-- The frames whose acknowledgement reached the cursor file, in order. -/
  acknowledged : List PlacedFrame

/-- What the threads of the spool, and the end of their process, can do. -/
inductive SpoolAction where
  /-- Open the spool of the directory. -/
  | reopen
  /-- Open the spool and die after some of the file operations. -/
  | reopenInterrupted (operations : Nat)
  | append (captured : CapturedUdpDatagram)
  /-- Die in an append, after creating the segment it rotates to if it does. -/
  | appendInterrupted (captured : CapturedUdpDatagram)
  /-- One pass of `readNext`. -/
  | readNext
  /-- The first part of `acknowledge`, for an entry that was issued. -/
  | acknowledge (issue : Nat) (persists : Bool)
  /-- The second part of `acknowledge`. -/
  | commitAcknowledgement
  | removeSegment (succeeds : Bool)
  | finishRetirement (cursorRemoved : Bool)
  | close
  /-- The process ends, or the service drops its spool. -/
  | crash
deriving DecidableEq

namespace SpoolSystem

/-- The system without an open spool, over another directory. -/
def dropSpool (system : SpoolSystem) (directory : Directory) : SpoolSystem :=
  { system with directory := directory, spool := none, stage := .idle, issued := [] }

/-- The system with another state behind the lock. -/
def withState (system : SpoolSystem) (spool : UdpRecordingSpool) (state : SpoolState) :
    SpoolSystem :=
  { system with spool := some { spool with state := state } }

/-- Where the reader goes on after it may have begun to retire a segment. -/
def stageAfter : Outcome SpoolError (Option Nat) → ReaderStage
  | .ok (some segmentId) => .retiring segmentId
  | .ok none => .idle
  | .error _ => .idle

def reopen (codec : SpoolCodec) (generation : String) (system : SpoolSystem) : SpoolSystem :=
  let program := createWithSegmentRemover codec system.directory generation
  { system with
    directory := program.operations.foldl Directory.apply system.directory
    spool := program.result.toOption
    stage := .idle
    issued := [] }

def reopenInterrupted (codec : SpoolCodec) (generation : String) (system : SpoolSystem)
    (operations : Nat) : SpoolSystem :=
  let program := createWithSegmentRemover codec system.directory generation
  system.dropSpool ((program.operations.take operations).foldl Directory.apply system.directory)

def append (codec : SpoolCodec) (system : SpoolSystem) (spool : UdpRecordingSpool)
    (captured : CapturedUdpDatagram) : SpoolSystem :=
  let call := appendCapturedEvent codec system.directory spool.state captured
  { system.withState spool call.state with
    directory := call.operations.foldl Directory.apply system.directory
    appended := system.appended ++ call.result.toOption.toList }

def appendInterrupted (codec : SpoolCodec) (system : SpoolSystem) (spool : UdpRecordingSpool)
    (captured : CapturedUdpDatagram) : SpoolSystem :=
  let call := appendCapturedEvent codec system.directory spool.state captured
  system.dropSpool (call.operations.dropLast.foldl Directory.apply system.directory)

def readNext (codec : SpoolCodec) (system : SpoolSystem) (spool : UdpRecordingSpool) :
    SpoolSystem :=
  match readNextPass codec system.directory spool.state with
  | .found entry => { system with issued := system.issued ++ [entry] }
  | .retires =>
    { system.withState spool (retireCompletedFront spool.state).1 with
      stage := stageAfter (retireCompletedFront spool.state).2 }
  | .waits => system
  | .ends => system
  | .fails _ => system

def acknowledge (codec : SpoolCodec) (system : SpoolSystem) (spool : UdpRecordingSpool)
    (entry : SpoolEntry) (persists : Bool) : SpoolSystem :=
  let program := persistAcknowledgement codec spool entry.acknowledgement
  match program.result with
  | .error _ => system
  | .ok () =>
    if persists then
      { system with
        directory := program.operations.foldl Directory.apply system.directory
        stage := .acknowledging entry.acknowledgement
        acknowledged := system.acknowledged ++ [entry.placed] }
    else
      system

def settle (system : SpoolSystem) (spool : UdpRecordingSpool)
    (acknowledgement : SpoolAcknowledgement) : SpoolSystem :=
  let outcome := UdpRecording.commitAcknowledgement spool.state acknowledgement
  { system.withState spool outcome.1 with stage := stageAfter outcome.2 }

def removeSegment (system : SpoolSystem) (spool : UdpRecordingSpool) (segmentId : Nat)
    (succeeds : Bool) : SpoolSystem :=
  if succeeds then
    { system with
      directory := system.directory.apply (.removeSegment segmentId)
      stage := .retired segmentId }
  else
    { system.withState spool (restoreRetirement spool.state segmentId).1 with stage := .idle }

def finishRetirement (system : SpoolSystem) (spool : UdpRecordingSpool) (segmentId : Nat)
    (cursorRemoved : Bool) : SpoolSystem :=
  { system.withState spool (commitRetirement spool.state segmentId).1 with
    directory :=
      if cursorRemoved then system.directory.apply (.removeCursor segmentId)
      else system.directory
    stage := .idle }

/-- One action. An action that its thread cannot take now changes nothing. -/
def step (codec : SpoolCodec) (generation : String) (system : SpoolSystem) :
    SpoolAction → SpoolSystem
  | .reopen => if system.spool.isSome then system else system.reopen codec generation
  | .reopenInterrupted operations =>
    if system.spool.isSome then system
    else system.reopenInterrupted codec generation operations
  | .append captured =>
    match system.spool with
    | none => system
    | some spool => system.append codec spool captured
  | .appendInterrupted captured =>
    match system.spool with
    | none => system
    | some spool => system.appendInterrupted codec spool captured
  | .readNext =>
    match system.spool, system.stage with
    | some spool, .idle => system.readNext codec spool
    | _, _ => system
  | .acknowledge issue persists =>
    match system.spool, system.stage, system.issued[issue]? with
    | some spool, .idle, some entry => system.acknowledge codec spool entry persists
    | _, _, _ => system
  | .commitAcknowledgement =>
    match system.spool, system.stage with
    | some spool, .acknowledging acknowledgement => system.settle spool acknowledgement
    | _, _ => system
  | .removeSegment succeeds =>
    match system.spool, system.stage with
    | some spool, .retiring segmentId => system.removeSegment spool segmentId succeeds
    | _, _ => system
  | .finishRetirement cursorRemoved =>
    match system.spool, system.stage with
    | some spool, .retired segmentId => system.finishRetirement spool segmentId cursorRemoved
    | _, _ => system
  | .close =>
    match system.spool with
    | none => system
    | some spool => system.withState spool { spool.state with closed := true }
  | .crash => system.dropSpool system.directory

/-- A directory without spool files, before any process has opened it. -/
def fresh : SpoolSystem where
  directory := ⟨∅, ∅⟩
  spool := none
  stage := .idle
  issued := []
  appended := []
  acknowledged := []

/-- The system of one recording generation. -/
def machine (codec : SpoolCodec) (generation : String) : Machine SpoolSystem SpoolAction where
  initial := fresh
  step := step codec generation

end SpoolSystem

end SprakCapture.UdpRecording
