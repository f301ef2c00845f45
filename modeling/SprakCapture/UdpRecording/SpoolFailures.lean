import SprakCapture.UdpRecording.SpoolRuns

/-!
# Appends that fail, and the processes on one directory

The spool of the preceding modules belongs to one process and its writes succeed. Here
the file operations of an append may fail part of the way, which leaves the start of a
frame behind the last segment, and the directory outlives the processes that open it,
each with a generation of its own. A file with the start of a frame at its end stays
readable for the spool that wrote it; no later process opens a directory with one.
-/

namespace SprakCapture.UdpRecording

open Data List Data.Outcome Data.Recorded Directory OrderedTable SpoolSystem
open Recorded (meets_bind meets_pure)

/-! ### Failing appends -/

/-- Which file operation of an append fails. -/
inductive AppendFailure where
  /-- The segment to rotate to cannot be created. -/
  | createSegment
  /-- The write of the frame ends after some of its bytes. -/
  | writeFrame (written : Nat)
deriving DecidableEq

/-- A write to the last segment that ends before the last byte of the frame. -/
def writeStart (codec : SpoolCodec) (state : SpoolState) (frame : SpoolFrame) (written : Nat) :
    List FileOperation :=
  match state.segments.getLast? with
  | none => []
  | some segment =>
    [.writeFrame segment.id segment.length ((frame.bytes codec).dropLast.take written)]

/-- `appendCapturedEvent` when one of its file operations fails: the state it leaves and the
operations that were performed. -/
def appendFailing (codec : SpoolCodec) (directory : Directory) (state : SpoolState)
    (captured : CapturedUdpDatagram) (failure : AppendFailure) : SpoolState × List FileOperation :=
  if state.closed then (state, [])
  else if u64Limit ≤ state.nextSequence + 1 then (state, [])
  else
    let frame := captured.frame state.nextSequence
    let named :=
      { state with
        processGenerations := insert captured.recordingProcessGeneration state.processGenerations }
    match admitFrame codec named frame with
    | .error _ => (named, [])
    | .ok () =>
      if named.shouldRotate (frame.size codec) then
        if u64Limit ≤ named.nextSegmentId + 1 then (named, [])
        else
          let numbered := { named with nextSegmentId := named.nextSegmentId + 1 }
          let created := createSegment directory named.nextSegmentId
          match failure, created.result with
          | .createSegment, _ => (numbered, [])
          | .writeFrame _, .error _ => (numbered, created.operations)
          | .writeFrame written, .ok segment =>
            let rotated := { numbered with segments := named.segments ++ [segment] }
            (rotated, created.operations ++ writeStart codec rotated frame written)
      else
        match failure with
        | .createSegment => (named, [])
        | .writeFrame written => (named, writeStart codec named frame written)

/-! ### The lifetime of a directory -/

/-- The capture directory under the processes that open it. -/
structure SpoolLifetime where
  system : SpoolSystem
  /-- The generation of the current process. -/
  generation : String
  /-- A file operation of an append failed, after which the writer only closes the spool. -/
  writerStopped : Bool

/-- What happens to the directory and to the spool on it. -/
inductive LifetimeAction where
  /-- An action of the spool in which no write fails. -/
  | act (action : SpoolAction)
  | appendFails (captured : CapturedUdpDatagram) (failure : AppendFailure)
  /-- The process ends and another one starts. -/
  | restart (generation : String)
deriving DecidableEq

/-- The actions of the writer that touch files. -/
def SpoolAction.isAppend : SpoolAction → Bool
  | .append _ => true
  | .appendInterrupted _ => true
  | .reopen => false
  | .reopenInterrupted _ => false
  | .readNext => false
  | .acknowledge _ _ => false
  | .commitAcknowledgement => false
  | .removeSegment _ => false
  | .finishRetirement _ => false
  | .close => false
  | .crash => false

namespace SpoolLifetime

def act (codec : SpoolCodec) (lifetime : SpoolLifetime) (action : SpoolAction) : SpoolLifetime :=
  let system := lifetime.system.step codec lifetime.generation action
  { lifetime with
    system := system
    writerStopped := lifetime.writerStopped && system.spool.isSome }

def appendFails (codec : SpoolCodec) (lifetime : SpoolLifetime) (spool : UdpRecordingSpool)
    (captured : CapturedUdpDatagram) (failure : AppendFailure) : SpoolLifetime :=
  let failed := appendFailing codec lifetime.system.directory spool.state captured failure
  { lifetime with
    system :=
      { lifetime.system.withState spool failed.1 with
        directory := failed.2.foldl Directory.apply lifetime.system.directory }
    writerStopped := true }

/-- One action. A writer that has stopped appends no more. -/
def step (codec : SpoolCodec) (lifetime : SpoolLifetime) : LifetimeAction → SpoolLifetime
  | .act action =>
    if lifetime.writerStopped && action.isAppend then lifetime
    else lifetime.act codec action
  | .appendFails captured failure =>
    match lifetime.system.spool with
    | none => lifetime
    | some spool =>
      if lifetime.writerStopped then lifetime
      else lifetime.appendFails codec spool captured failure
  | .restart generation =>
    { system := lifetime.system.dropSpool lifetime.system.directory
      generation := generation
      writerStopped := false }

/-- A directory without spool files, before the first process. -/
def fresh : SpoolLifetime where
  system := SpoolSystem.fresh
  generation := ""
  writerStopped := false

def machine (codec : SpoolCodec) : Machine SpoolLifetime LifetimeAction where
  initial := fresh
  step := step codec

end SpoolLifetime

/-! ### Files that opening refuses -/

/-- A segment file of the directory does not hold whole frames. -/
def Refused (codec : SpoolCodec) (directory : Directory) : Prop :=
  ∃ id file fault, directory.segments.get? id = some file ∧
    scanExistingFrames codec file = .error fault

variable {snapshot state : Directory} {recovery : Recovery}

section Refusal

variable {codec : SpoolCodec} {generation : String} {id : Nat} {file : Bytes}

/-- The segment file stays where it is. -/
def Keeps (id : Nat) (file : Bytes) (directory : Directory) : Prop :=
  directory.segments.get? id = some file

variable {directory : Directory}

section

variable (keeps : Keeps id file directory)
include keeps

theorem keeps_removeCursor (cursor : Nat) :
    Keeps id file (directory.apply (.removeCursor cursor)) := keeps

theorem keeps_removeSegment {other : Nat} (different : id ≠ other) :
    Keeps id file (directory.apply (.removeSegment other)) := by
  simp only [Keeps, apply, get?_erase, if_neg different]
  exact keeps

theorem throughout_removeCursors_keeps (cursors : List Nat) :
    Throughout apply (Keeps id file) directory
        (cursors.map FileOperation.removeCursor) ∧
      Keeps id file ((cursors.map FileOperation.removeCursor).foldl apply directory) := by
  induction cursors generalizing directory with
  | nil => exact ⟨keeps, keeps⟩
  | cons cursor cursors ih =>
    obtain ⟨throughout, final⟩ := ih (keeps_removeCursor keeps cursor)
    exact ⟨⟨keeps, throughout⟩, final⟩

end

/-- Recovering another segment leaves the file. -/
theorem recoverSegment_keeps {segment : Nat × Bytes} (different : id ≠ segment.1)
    (keeps : Keeps id file state) :
    Recorded.Meets apply (Keeps id file) state
      (recoverSegment codec snapshot generation recovery segment)
      (fun _ final => Keeps id file final) (fun _ => True) := by
  refine meets_bind (meets_ofOutcome keeps (fun _ _ => keeps) fun _ _ => trivial) ?_
  intro _ _ kept
  refine @Recorded.meets_bind _ _ _ _ _ _ _ _ _ _ _ (fun _ final => Keeps id file final) _ ?_ ?_
  · unfold loadPersistedCursor
    split
    · exact meets_pure kept kept
    split
    · exact meets_ofOutcome kept (fun _ _ => kept) fun _ _ => trivial
    split
    · refine meets_perform_bind kept ?_
      exact meets_pure (keeps_removeCursor kept _) (keeps_removeCursor kept _)
    refine meets_bind (meets_ofOutcome kept (fun _ _ => kept) fun _ _ => trivial) ?_
    intro _ _ stillKept
    refine meets_bind (meets_ofOutcome stillKept (fun _ _ => stillKept) fun _ _ => trivial) ?_
    intro _ _ finallyKept
    exact meets_pure finallyKept finallyKept
  · intro _ _ loadedKept
    refine meets_bind (meets_ofOutcome loadedKept (fun _ _ => loadedKept) fun _ _ => trivial) ?_
    intro _ _ countedKept
    refine meets_bind (meets_ofOutcome countedKept (fun _ _ => countedKept) fun _ _ => trivial) ?_
    intro _ _ numberedKept
    split
    · refine @Recorded.meets_bind _ _ _ _ _ _ _ _ _ _ _ (fun _ final => Keeps id file final) _ ?_ ?_
      · have removed := keeps_removeSegment numberedKept different
        refine meets_perform_bind numberedKept ?_
        split
        · exact Recorded.meets_perform removed removed removed
        · exact meets_pure removed removed
      · intro _ final finalKept
        exact meets_pure finalKept finalKept
    · exact meets_pure numberedKept numberedKept

/-- Recovery does not get past a file that is refused. -/
theorem recoverSegments_refused {entries : List (Nat × Bytes)} {fault : Fault SpoolError}
    (damaged : scanExistingFrames codec file = .error fault) (member : (id, file) ∈ entries)
    (ascending : entries.Pairwise fun left right => left.1 < right.1)
    (keeps : Keeps id file state) :
    Recorded.Meets apply (Keeps id file) state
      (entries.foldlM (recoverSegment codec snapshot generation) recovery)
      (fun _ _ => False) (fun _ => True) := by
  induction entries generalizing state recovery with
  | nil => cases member
  | cons _ entries =>
    obtain ⟨below, ascending⟩ := pairwise_cons.mp ascending
    rw [foldlM_cons]
    rcases mem_cons.mp member with rfl | later
    · rw [recoverSegment, damaged]
      exact ⟨keeps, by rintro _ ⟨⟩, fun _ _ => trivial⟩
    · refine meets_bind (recoverSegment_keeps (below _ later).ne' keeps) ?_
      simp_all

theorem cleanup_segments (directory : Directory) :
    (cleanedDirectory directory).segments = directory.segments := by
  have unchanged : ∀ (cursors : List Nat) (start : Directory),
      ((cursors.map FileOperation.removeCursor).foldl apply start).segments = start.segments := by
    intro cursors
    induction cursors with
    | nil => exact fun _ => rfl
    | cons _ cursors ih => exact fun start => ih _
  rw [cleanedDirectory, cleanupInterruptedCursorFiles_eq]
  exact unchanged _ directory

/-- A directory with a refused file is not opened, and keeps the file. -/
theorem createWithSegmentRemover_refused {directory : Directory} {fault : Fault SpoolError}
    (keeps : Keeps id file directory) (damaged : scanExistingFrames codec file = .error fault) :
    Recorded.Meets apply (Keeps id file) directory
      (createWithSegmentRemover codec directory generation) (fun _ _ => False)
      (fun _ => True) := by
  refine meets_bind (meets_ofOutcome keeps (fun _ _ => keeps) fun _ _ => trivial) ?_
  intro _ _ startKeeps
  obtain ⟨throughout, cleaned⟩ :=
    throughout_removeCursors_keeps startKeeps (orphanCursors directory)
  rw [← cleanupInterruptedCursorFiles_eq] at throughout cleaned
  refine meets_performAll_bind throughout ?_
  refine meets_bind (recoverSegments_refused damaged ?_ ?_ cleaned) ?_
  · show (id, file) ∈ (cleanedDirectory directory).segments.entries
    rw [cleanup_segments]
    exact get?_eq_some.mp keeps
  · exact (cleanedDirectory directory).segments.ascending
  · exact fun _ _ impossible => impossible.elim

end Refusal

/-! ### The start of a frame behind a segment -/

/-- The directory differs from an intact one by the start of a frame at the end of one
segment file. -/
def Torn (codec : SpoolCodec) (intact directory : Directory) : Prop :=
  directory.cursors = intact.cursors ∧
    ∃ segment : StoredSegment, ∃ frame : SpoolFrame, ∃ written,
      (∀ other ∈ segment.frames, other.Writable codec) ∧ frame.Writable codec ∧
      0 < written ∧ written < frame.size codec ∧
      intact.segments.get? segment.id = some (framesBytes codec segment.frames) ∧
      directory.segments = intact.segments.insert segment.id
        (framesBytes codec segment.frames ++ (frame.bytes codec).take written)

section Starts

variable {codec : SpoolCodec} {frames : List SpoolFrame} {frame : SpoolFrame} {written : Nat}

/-- A scan stops at the start of a frame. -/
theorem scanFrame_start {file : Bytes} {scan : FrameScan} (writable : frame.Writable codec)
    (begun : 0 < written) (cut : written < frame.size codec)
    (content : file.drop scan.offset = (frame.bytes codec).take written) :
    ∃ fault, scanFrame codec file scan = .error fault := by
  have lengths := congrArg List.length content
  rw [length_drop, length_take, SpoolFrame.length_bytes, Nat.min_eq_left cut.le] at lengths
  rw [scanFrame, if_pos (by omega)]
  by_cases short : file.length - scan.offset < frameLengthBytes
  · refine ⟨.raised .truncatedFrameHeader, ?_⟩
    rw [raiseIf, if_pos short]
    rfl
  rw [raiseIf_of_not _ short, Outcome.ok_bind]
  have whole : frameLengthBytes ≤ written := by omega
  have fields : file.drop scan.offset =
      u32ToLe (UInt32.ofNat (codec.encodeHeader frame.header).length) ++
        u32ToLe (UInt32.ofNat frame.payload.length) ++
          (codec.encodeHeader frame.header ++ frame.payload).take (written - frameLengthBytes) := by
    rw [content, SpoolFrame.bytes, append_assoc, take_append,
      take_of_length_le (by simpa [frameLengthBytes] using whole)]
    simp [frameLengthBytes]
  refine ⟨.raised .truncatedFrame, ?_⟩
  rw [writable.readFrameLengths_of_fields fields, Outcome.ok_bind]
  dsimp only
  have beyond : file.length < scan.offset + frameLengthBytes +
      (codec.encodeHeader frame.header).length + frame.payload.length := by
    unfold SpoolFrame.size at cut
    omega
  rw [raiseIf, if_pos beyond]
  rfl

theorem loop_scanFrame_start {file : Bytes} {turns : Nat} {scan : FrameScan}
    (framesWritable : ∀ other ∈ frames, other.Writable codec)
    (writable : frame.Writable codec) (begun : 0 < written) (cut : written < frame.size codec)
    (content : file.drop scan.offset =
      framesBytes codec frames ++ (frame.bytes codec).take written) :
    ∃ fault, loop (scanFrame codec file) turns scan = .error fault := by
  induction frames generalizing scan turns with
  | nil =>
    cases turns with
    | zero => exact ⟨_, rfl⟩
    | succ turns =>
      obtain ⟨fault, stopped⟩ := scanFrame_start writable begun cut content
      exact ⟨fault, by rw [loop, stopped]; rfl⟩
  | cons first frames ih =>
    cases turns with
    | zero => exact ⟨_, rfl⟩
    | succ turns =>
      rw [framesBytes_cons, append_assoc] at content
      rw [loop, scanFrame_eq (framesWritable first mem_cons_self) content]
      exact ih (fun other member => framesWritable other (.tail _ member)) (drop_past_frame content)

/-- A file that ends with the start of a frame is refused. -/
theorem scanExistingFrames_start (framesWritable : ∀ other ∈ frames, other.Writable codec)
    (writable : frame.Writable codec) (begun : 0 < written) (cut : written < frame.size codec) :
    ∃ fault, scanExistingFrames codec
      (framesBytes codec frames ++ (frame.bytes codec).take written) = .error fault := by
  obtain ⟨fault, stopped⟩ := @loop_scanFrame_start _ _ _ _ _ _ ⟨0, 1, ∅⟩
    framesWritable writable begun cut rfl
  exact ⟨fault, by rw [scanExistingFrames, stopped]; rfl⟩

end Starts

namespace Torn

variable {codec : SpoolCodec} {intact directory : Directory}

section

variable (torn : Torn codec intact directory)
include torn

theorem refused : Refused codec directory := by
  obtain ⟨-, segment, _, _, framesWritable, writable, begun, cut, -, segments⟩ := torn
  obtain ⟨fault, damaged⟩ := scanExistingFrames_start framesWritable writable begun cut
  refine ⟨segment.id, _, fault, ?_, damaged⟩
  rw [segments, get?_insert, if_pos rfl]

/-- Every intact file is the beginning of the file in its place. -/
theorem get?_segment {id : Nat} {file : Bytes} (found : intact.segments.get? id = some file) :
    ∃ tail, directory.segments.get? id = some (file ++ tail) := by
  obtain ⟨-, _, _, _, -, -, -, -, _, segments⟩ := torn
  rw [segments, get?_insert]
  split
  · simp_all
  · exact ⟨[], by rw [found, append_nil]⟩

/-- Changes of the cursor files leave the tear. -/
theorem withCursors (change : OrderedTable Nat Bytes → OrderedTable Nat Bytes) :
    Torn codec { intact with cursors := change intact.cursors }
      { directory with cursors := change directory.cursors } :=
  ⟨congrArg change torn.1, torn.2⟩

/-- Deleting a segment file mends the tear if it is in that file. -/
theorem removeSegment (id : Nat) :
    directory.apply (.removeSegment id) = intact.apply (.removeSegment id) ∨
      Torn codec (intact.apply (.removeSegment id)) (directory.apply (.removeSegment id)) := by
  obtain ⟨cursors, segment, frame, written, framesWritable, writable, begun, cut, intactFile,
    segments⟩ := torn
  by_cases same : segment.id = id
  · left
    simp [apply, cursors, segments, ← same, erase_insert_self]
  right
  refine ⟨cursors, segment, frame, written, framesWritable, writable, begun, cut, ?_, ?_⟩
  · simp only [apply, get?_erase, if_neg same]
    exact intactFile
  · simp [apply, segments, erase_insert_of_ne _ _ same]

end

end Torn

/-- A pass of the reader depends only on the frame that it reads. -/
theorem readNextPass_congr {codec : SpoolCodec} {first second : Directory} {state : SpoolState}
    (same : ∀ front rest, state.segments = front :: rest → front.readOffset ≠ front.length →
      (Outcome.expect (if front.fileHeld then first.segments.get? front.id else none) >>=
        fun file => readFrame codec file front.id front.readOffset) =
      (Outcome.expect (if front.fileHeld then second.segments.get? front.id else none) >>=
        fun file => readFrame codec file front.id front.readOffset)) :
    readNextPass codec first state = readNextPass codec second state := by
  grind [readNextPass]

/-- The reader does not see the tear. -/
theorem Live.readNextPass_torn {codec : SpoolCodec} {intact directory : Directory}
    {spool : UdpRecordingSpool} {stage : ReaderStage} {issued : List SpoolEntry}
    {stored : List StoredSegment} {read : Nat}
    (live : Live codec intact spool stage issued stored read) (idle : stage = .idle)
    (torn : Torn codec intact directory) :
    readNextPass codec directory spool.state = readNextPass codec intact spool.state := by
  subst idle
  refine readNextPass_congr fun _ _ segments unread => ?_
  cases stored with
  | nil => rw [live.segments] at segments; cases segments
  | cons segment stored =>
    rw [live.segments] at segments
    cases segments
    have inside : read < segment.frames.length := by
      refine Nat.lt_of_le_of_ne (live.read_le segment rfl) ?_
      rintro rfl
      exact unread (by simp [frontSegment])
    have current := getElem?_eq_getElem inside
    have file := live.rests.get?_segment (mem_cons_self)
    obtain ⟨tail, tornFile⟩ := torn.get?_segment file
    have plain := live.readFrame_current current []
    have extended := live.readFrame_current current tail
    rw [append_nil] at plain
    simp only [frontSegment, ReaderStage.holdsFront, if_true] at *
    rw [file, tornFile]
    simp [plain, extended]

/-! ### What a failing append leaves -/

namespace Live

variable {codec : SpoolCodec} {directory : Directory} {spool : UdpRecordingSpool}
  {stage : ReaderStage} {issued : List SpoolEntry} {stored : List StoredSegment} {read : Nat}

/-- A segment number that is not used. -/
theorem skipSegmentId (live : Live codec directory spool stage issued stored read)
    (room : spool.state.nextSegmentId + 1 < u64Limit) :
    Live codec directory
      { spool with state := { spool.state with nextSegmentId := spool.state.nextSegmentId + 1 } }
      stage issued stored read where
  contents := live.contents
  segments := live.segments
  read_le := live.read_le
  read_nil := live.read_nil
  pending := live.pending
  segmentsBelow := fun segment member => Nat.lt_succ_of_lt (live.segmentsBelow segment member)
  cursorsBelow := fun cursor member => Nat.lt_succ_of_lt (live.cursorsBelow cursor member)
  nextSegmentId_lt := room
  sequencesBelow := live.sequencesBelow
  nextSequence_lt := live.nextSequence_lt
  active := live.active
  issuedBefore := by
    intro entry member
    obtain ⟨before, below⟩ := live.issuedBefore entry member
    exact ⟨before, Nat.lt_succ_of_lt below⟩
  shape := by
    have shape := live.shape
    cases stage <;> exact shape
  rests := live.rests

/-- The start of a frame behind the last segment. -/
theorem writeStart {front : List StoredSegment} {last : StoredSegment}
    (live : Live codec directory spool stage issued (front ++ [last]) read)
    (isOpen : spool.state.closed = false) {frame : SpoolFrame} (writable : frame.Writable codec)
    (written : Nat) :
    (UdpRecording.writeStart codec spool.state frame written).foldl apply directory =
        directory ∨
      Torn codec directory
        ((UdpRecording.writeStart codec spool.state frame written).foldl apply directory) := by
  have lastInside : front = [] → read ≤ last.frames.length := by
    rintro rfl
    exact live.read_le last rfl
  obtain ⟨_, isLast, nodeId, nodeLength, -⟩ :=
    memorySegments_last lastInside frame
  rw [← live.segments] at isLast
  have onDisk : last ∈ stage.onDisk (front ++ [last]) := by
    rw [onDisk_concat (live.kept_of_open isOpen rfl)]
    exact mem_append_right _ mem_cons_self
  have file := live.rests.get?_segment onDisk
  have start : (frame.bytes codec).dropLast.take written =
      (frame.bytes codec).take (min written (frame.size codec - 1)) := by
    rw [dropLast_eq_take, take_take, SpoolFrame.length_bytes]
  have performed : (UdpRecording.writeStart codec spool.state frame written).foldl apply
      directory =
        { directory with
          segments := directory.segments.insert last.id (framesBytes codec last.frames ++
            (frame.bytes codec).take (min written (frame.size codec - 1))) } := by
    have appended : ∀ patch, splice (framesBytes codec last.frames)
        (framesSize codec last.frames) patch = framesBytes codec last.frames ++ patch := by
      simp [splice, ← length_framesBytes]
    simp [UdpRecording.writeStart, isLast, nodeId, nodeLength, start, apply, file, appended]
  rw [performed]
  rcases Nat.eq_zero_or_pos (min written (frame.size codec - 1)) with none | some
  · left
    rw [none, take_zero, append_nil, insert_self file]
  · right
    exact ⟨rfl, last, frame, _, live.contents.segment_writable
      (mem_append_right _ mem_cons_self), writable, some, by omega, file, rfl⟩

theorem appendFailing (live : Live codec directory spool stage issued stored read)
    (captured : CapturedUdpDatagram) (failure : AppendFailure)
    {failed : SpoolState × List FileOperation}
    (called : UdpRecording.appendFailing codec directory spool.state captured failure = failed) :
    ∃ intact grown, Live codec intact { spool with state := failed.1 } stage issued grown read ∧
      (failed.2.foldl apply directory = intact ∨
        Torn codec intact (failed.2.foldl apply directory)) := by
  subst called
  unfold UdpRecording.appendFailing
  split
  · exact ⟨directory, stored, live, .inl rfl⟩
  rename_i notClosed
  split
  · exact ⟨directory, stored, live, .inl rfl⟩
  have isOpen : spool.state.closed = false := by simpa using notClosed
  have named := live.nameGenerations
    (insert captured.recordingProcessGeneration spool.state.processGenerations)
  obtain ⟨_, last, rfl⟩ :=
    (eq_nil_or_concat stored).resolve_left (live.active isOpen)
  rw [concat_eq_append] at *
  dsimp only
  split
  · exact ⟨directory, _, named, .inl rfl⟩
  rename_i admitted
  obtain ⟨headerPositive, headerBound, payloadBound, -⟩ := admitFrame_eq_ok admitted
  have sequence : (captured.frame spool.state.nextSequence).header.sequence.toNat =
      spool.state.nextSequence := UInt64.toNat_ofNat_of_lt' live.nextSequence_lt
  have writable : (captured.frame spool.state.nextSequence).Writable codec :=
    ⟨headerPositive, headerBound, payloadBound, by rw [sequence]; omega⟩
  split
  · rename_i rotates
    split
    · exact ⟨directory, _, named, .inl rfl⟩
    rename_i full
    have room : spool.state.nextSegmentId + 1 < u64Limit := Nat.lt_of_not_le full
    rw [named.shouldRotate_eq, Bool.and_eq_true, decide_eq_true_eq] at rotates
    have filled : last.frames ≠ [] := by
      intro empty
      rw [empty, framesSize_nil] at rotates
      omega
    obtain ⟨created, rotated⟩ := named.createSegment isOpen room filled
    cases failure with
    | createSegment => exact ⟨directory, _, named.skipSegmentId room, .inl rfl⟩
    | writeFrame written =>
      rw [created]
      refine ⟨_, _, rotated, ?_⟩
      exact rotated.writeStart isOpen writable written
  · cases failure with
    | createSegment => exact ⟨directory, _, named, .inl rfl⟩
    | writeFrame written => exact ⟨directory, _, named, named.writeStart isOpen writable written⟩

end Live

/-! ### Every run -/

/-- The directory is refused, or it belongs to a layout; a tear is possible only under an
open spool whose writer has stopped. -/
inductive Sound (codec : SpoolCodec) (lifetime : SpoolLifetime) : Prop where
  | refused (closed : lifetime.system.spool = none)
      (damaged : Refused codec lifetime.system.directory)
  | intact {stored : List StoredSegment} {read : Nat}
      (layout : Layout codec lifetime.generation lifetime.system stored read)
  | torn {directory : Directory} {stored : List StoredSegment} {read : Nat}
      (layout : Layout codec lifetime.generation { lifetime.system with directory := directory }
        stored read)
      (opened : lifetime.system.spool.isSome) (stopped : lifetime.writerStopped = true)
      (tear : Torn codec directory lifetime.system.directory)

section Runs

variable {codec : SpoolCodec} {generation : String} {system : SpoolSystem}

/-- No action opens a directory that is refused. -/
theorem refused_step (closed : system.spool = none) (damaged : Refused codec system.directory)
    (action : SpoolAction) :
    (system.step codec generation action).spool = none ∧
      Refused codec (system.step codec generation action).directory := by
  obtain ⟨id, file, fault, keeps, scanned⟩ := damaged
  have met := @createWithSegmentRemover_refused _ generation id _ _ _ keeps scanned
  have unchanged : system.spool = none ∧ Refused codec system.directory :=
    ⟨closed, id, file, fault, keeps, scanned⟩
  cases action with
  | reopen =>
    rw [step, closed]
    refine ⟨?_, id, file, fault, ?_, scanned⟩
    · cases result : (createWithSegmentRemover codec system.directory generation).result with
      | ok spool => exact (met.ends spool result).elim
      | error fault => simp [reopen, result, Except.toOption]
    · have kept := met.throughout.take
        (createWithSegmentRemover codec system.directory generation).operations.length
      rw [take_length] at kept
      exact kept
  | reopenInterrupted operations =>
    rw [step, closed]
    exact ⟨rfl, id, file, fault, met.throughout.take operations, scanned⟩
  | crash => exact ⟨rfl, unchanged.2⟩
  | _ => simpa only [step, closed] using unchanged

/-- The same step of a spool over an intact directory and over the torn one. -/
def Mirrors (codec : SpoolCodec) (after mirrored : SpoolSystem) : Prop :=
  ∃ directory, mirrored = { after with directory := directory } ∧
    (after.directory = directory ∨ Torn codec directory after.directory)

variable {spool : UdpRecordingSpool}

theorem persistAcknowledgement_operations {acknowledgement : SpoolAcknowledgement}
    (accepted : (persistAcknowledgement codec spool acknowledgement).result = .ok ()) :
    ∃ content, (persistAcknowledgement codec spool acknowledgement).operations =
      [.replaceCursor acknowledgement.segmentId content] := by
  unfold persistAcknowledgement at accepted ⊢
  cases check : checkAcknowledgement spool.state acknowledgement .acknowledgementOutOfRange with
  | ok => exact ⟨_, rfl⟩
  | error =>
    rw [check] at accepted
    cases accepted

/-- What a reader does over a torn directory, it does over the intact one. -/
theorem mirrors_step {directory : Directory} {spool : UdpRecordingSpool}
    {stored : List StoredSegment} {read : Nat} (opened : system.spool = some spool)
    (live : Live codec directory spool system.stage system.issued stored read)
    (tear : Torn codec directory system.directory) {action : SpoolAction}
    (notAppend : action.isAppend = false) (notCrash : action ≠ .crash) :
    Mirrors codec (system.step codec generation action)
      (({ system with directory := directory } : SpoolSystem).step codec generation action) := by
  obtain ⟨_, _, stage, issued, _, _⟩ := system
  subst opened
  cases action with
  | append captured | appendInterrupted captured => cases notAppend
  | crash => exact absurd rfl notCrash
  | reopen | reopenInterrupted operations | close => exact ⟨directory, rfl, .inr tear⟩
  | readNext =>
    cases stage with
    | idle =>
      have samePass := live.readNextPass_torn rfl tear
      simp only [step, readNext, samePass]
      split <;> exact ⟨directory, rfl, .inr tear⟩
    | _ => exact ⟨directory, rfl, .inr tear⟩
  | acknowledge issue persists =>
    cases stage with
    | idle =>
      cases found : issued[issue]? with
      | none =>
        simp only [step, found]
        exact ⟨directory, rfl, .inr tear⟩
      | some entry =>
        simp only [step, found, acknowledge]
        split
        · exact ⟨directory, rfl, .inr tear⟩
        rename_i accepted
        cases persists with
        | false => exact ⟨directory, rfl, .inr tear⟩
        | true =>
          obtain ⟨content, operations⟩ := persistAcknowledgement_operations accepted
          rw [operations]
          exact ⟨_, rfl, .inr (tear.withCursors fun cursors =>
            cursors.insert entry.acknowledgement.segmentId content)⟩
    | _ => exact ⟨directory, rfl, .inr tear⟩
  | commitAcknowledgement => cases stage <;> exact ⟨directory, rfl, .inr tear⟩
  | removeSegment succeeds =>
    cases stage with
    | retiring segmentId =>
      cases succeeds with
      | true => exact ⟨_, rfl, tear.removeSegment segmentId⟩
      | false => exact ⟨directory, rfl, .inr tear⟩
    | _ => exact ⟨directory, rfl, .inr tear⟩
  | finishRetirement cursorRemoved =>
    cases stage with
    | retired segmentId =>
      cases cursorRemoved with
      | true => exact ⟨_, rfl, .inr (tear.withCursors fun cursors => cursors.erase segmentId)⟩
      | false => exact ⟨directory, rfl, .inr tear⟩
    | _ => exact ⟨directory, rfl, .inr tear⟩

/-- Only the end of a process and an opening change whether a spool is open. -/
theorem isSome_step {spool : UdpRecordingSpool} (opened : system.spool = some spool)
    {action : SpoolAction} (notAppend : action.isAppend = false) (notCrash : action ≠ .crash) :
    (system.step codec generation action).spool.isSome := by
  have unchanged : system.spool.isSome := by rw [opened]; rfl
  cases action with
  | append captured | appendInterrupted captured => cases notAppend
  | crash => exact absurd rfl notCrash
  | reopen | reopenInterrupted => rwa [step, if_pos unchanged]
  | close => simp [step, opened, withState]
  | readNext =>
    simp only [step, readNext]
    repeat' split
    all_goals first | exact unchanged | rfl
  | acknowledge =>
    grind [step, acknowledge]
  | commitAcknowledgement | finishRetirement =>
    simp only [step]
    split
    all_goals first | exact unchanged | rfl
  | removeSegment =>
    simp only [step, removeSegment]
    repeat' split
    all_goals first | exact unchanged | rfl

/-- What a layout says about the spool that is open. -/
theorem Layout.live {stored : List StoredSegment} {read : Nat}
    (layout : Layout codec generation system stored read) (opened : system.spool = some spool) :
    spool.recordingGeneration = generation ∧ ∃ count, read = system.stage.acknowledgedRead count ∧
      Live codec system.directory spool system.stage system.issued stored count := by
  rw [Layout, opened] at layout
  exact layout

theorem layout_of_live {spool : UdpRecordingSpool} {stored : List StoredSegment} {count : Nat}
    (opened : system.spool = some spool) (sameGeneration : spool.recordingGeneration = generation)
    (live : Live codec system.directory spool system.stage system.issued stored count) :
    Layout codec generation system stored (system.stage.acknowledgedRead count) := by
  grind [Layout]

variable {lifetime : SpoolLifetime}

section

variable (sound : Sound codec lifetime)
include sound

theorem sound_act {action : SpoolAction}
    (writes : (lifetime.writerStopped && action.isAppend) = false) :
    Sound codec (lifetime.act codec action) := by
  cases sound with
  | refused closed damaged =>
    obtain ⟨stillClosed, stillDamaged⟩ :=
      refused_step closed damaged action
    exact .refused stillClosed stillDamaged
  | intact layout =>
    obtain ⟨final, count, -, -, -, next, -, -⟩ := leads_step layout action
    exact .intact next
  | torn layout opened stopped tear =>
    obtain ⟨spool, isSpool⟩ := Option.isSome_iff_exists.mp opened
    have notAppend : action.isAppend = false := by
      simp_all
    by_cases crashes : action = .crash
    · subst crashes
      exact .refused rfl tear.refused
    obtain ⟨-, count, -, live⟩ := layout.live isSpool
    obtain ⟨_, mirrored, same⟩ := mirrors_step isSpool live tear notAppend crashes
    obtain ⟨final, _, -, -, -, next, -, -⟩ := leads_step layout action
    rw [mirrored] at next
    have stillOpen := @isSome_step codec lifetime.generation _ _ isSpool _ notAppend crashes
    rcases same with rfl | stillTorn
    · exact .intact next
    · refine .torn next stillOpen ?_ stillTorn
      simp [SpoolLifetime.act, stopped, stillOpen]

theorem sound_appendFails (opened : lifetime.system.spool = some spool)
    (writes : lifetime.writerStopped = false) (captured : CapturedUdpDatagram)
    (failure : AppendFailure) :
    Sound codec (lifetime.appendFails codec spool captured failure) := by
  cases sound with
  | refused closed =>
    rw [opened] at closed
    cases closed
  | torn layout opened stopped tear =>
    rw [writes] at stopped
    cases stopped
  | intact layout =>
    obtain ⟨sameGeneration, count, -, live⟩ := layout.live opened
    obtain ⟨intact, grown, grownLive, same⟩ := live.appendFailing captured failure rfl
    have next := @layout_of_live _ _
      { (lifetime.appendFails codec spool captured failure).system with directory := intact }
      _ _ _ rfl sameGeneration grownLive
    rcases same with equal | tear
    · rw [← equal] at next
      exact .intact next
    · exact .torn next rfl rfl tear

theorem sound_restart (otherGeneration : String) :
    Sound codec (lifetime.step codec (.restart otherGeneration)) := by
  cases sound with
  | refused _ damaged => exact .refused rfl damaged
  | torn layout _ _ tear => exact .refused rfl tear.refused
  | intact layout =>
    obtain ⟨final, count, -, -, -, next, -, -⟩ := leads_step layout .crash
    have rests : Rests codec lifetime.system.directory lifetime.generation final count := next
    obtain ⟨other, otherRests⟩ := rests.regenerate otherGeneration
    exact Sound.intact otherRests

theorem sound_step (action : LifetimeAction) :
    Sound codec (lifetime.step codec action) := by
  cases action with
  | act action =>
    grind [SpoolLifetime.step, sound_act]
  | appendFails =>
    grind [SpoolLifetime.step, sound_appendFails]
  | restart generation => exact sound_restart sound generation

end

theorem sound_run (codec : SpoolCodec) (actions : List LifetimeAction) :
    Sound codec ((SpoolLifetime.machine codec).run actions) :=
  @Machine.invariant_run _ _ (SpoolLifetime.machine codec) _
    (Sound.intact ⟨.nil, rfl, nofun, rfl⟩)
    (fun _ action sound => sound_step sound action) _

end Runs

end SprakCapture.UdpRecording
