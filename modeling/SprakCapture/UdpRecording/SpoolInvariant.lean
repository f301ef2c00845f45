import SprakCapture.UdpRecording.SpoolLayout

/-!
# The invariant of the UDP spool

`Live` relates the state of an open spool to the segments on disk, at every stage of a
call of the reader thread. `Layout` is the same for a directory on which no spool may
be open. `Advances` says in terms of the stored segments what an action does, together
with the frames that the action writes and the frames whose acknowledgement it records;
each action of the two threads is one lemma about both.
-/

namespace SprakCapture.UdpRecording

open Data List

/-! ### Memory and disk -/

/-- The first segment still has its file handle. -/
def ReaderStage.holdsFront : ReaderStage → Bool
  | .idle => true
  | .acknowledging _ => true
  | .retiring _ => false
  | .retired _ => false

/-- The segments on disk, given those in memory. -/
def ReaderStage.onDisk (stored : List StoredSegment) : ReaderStage → List StoredSegment
  | .idle => stored
  | .acknowledging _ => stored
  | .retiring _ => stored
  | .retired _ => stored.tail

/-- The read boundary on disk, given the one in memory. -/
def ReaderStage.onDiskRead (read : Nat) : ReaderStage → Nat
  | .idle => read
  | .acknowledging _ => read + 1
  | .retiring _ => read
  | .retired _ => 0

/-- The number of frames of the first segment in memory whose acknowledgement is recorded. -/
def ReaderStage.acknowledgedRead (read : Nat) : ReaderStage → Nat
  | .idle => read
  | .acknowledging _ => read + 1
  | .retiring _ => read
  | .retired _ => read

/-- The node of a segment of which nothing is read. -/
def unreadSegment (codec : SpoolCodec) (segment : StoredSegment) : SpoolSegment where
  id := segment.id
  fileHeld := true
  length := framesSize codec segment.frames
  readOffset := 0

/-- The node of the first segment. -/
def frontSegment (codec : SpoolCodec) (held : Bool) (segment : StoredSegment) (read : Nat) :
    SpoolSegment where
  id := segment.id
  fileHeld := held
  length := framesSize codec segment.frames
  readOffset := framesSize codec (segment.frames.take read)

/-- The nodes of an open spool. -/
def memorySegments (codec : SpoolCodec) (held : Bool) (read : Nat) :
    List StoredSegment → List SpoolSegment
  | [] => []
  | segment :: stored => frontSegment codec held segment read :: stored.map (unreadSegment codec)

/-- What reading the first unread frame of a segment gives. -/
def currentEntry (codec : SpoolCodec) (segment : StoredSegment) (read : Nat)
    (frame : SpoolFrame) : SpoolEntry :=
  frame.entry codec segment.id (framesSize codec (segment.frames.take read))

/-- An entry that was issued is of a segment that is gone, of a frame that is read, or of
the first unread frame. -/
structure Issued (codec : SpoolCodec) (stored : List StoredSegment) (read : Nat)
    (entry : SpoolEntry) : Prop where
  notLater : ∀ segment ∈ stored.tail, entry.segmentId ≠ segment.id
  inFront : ∀ segment ∈ stored.head?, entry.segmentId = segment.id →
    entry.endOffset ≤ framesSize codec (segment.frames.take read) ∨
      ∃ frame, segment.frames[read]? = some frame ∧ entry = currentEntry codec segment read frame

/-- What a stage says about the state of the spool. -/
def StageShape (codec : SpoolCodec) (state : SpoolState) (stored : List StoredSegment)
    (read : Nat) : ReaderStage → Prop
  | .idle => state.retiringSegmentId = none
  | .acknowledging acknowledgement =>
    state.retiringSegmentId = none ∧
      ∃ segment frame, stored.head? = some segment ∧ segment.frames[read]? = some frame ∧
        acknowledgement = (currentEntry codec segment read frame).acknowledgement
  | .retiring segmentId | .retired segmentId =>
    state.retiringSegmentId = some segmentId ∧
      ∃ segment, stored.head? = some segment ∧ segment.id = segmentId ∧
        read = segment.frames.length ∧ (state.closed = true ∨ 2 ≤ stored.length)

/-- An open spool and its directory hold these segments, of which the first is read up to
a boundary. -/
structure Live (codec : SpoolCodec) (directory : Directory) (spool : UdpRecordingSpool)
    (stage : ReaderStage) (issued : List SpoolEntry) (stored : List StoredSegment) (read : Nat) :
    Prop where
  contents : Contents codec stored
  segments : spool.state.segments = memorySegments codec stage.holdsFront read stored
  read_le : ∀ segment ∈ stored.head?, read ≤ segment.frames.length
  read_nil : stored = [] → read = 0
  pending : spool.state.pendingBytes = framesSize codec ((storedFrames stored).drop read)
  segmentsBelow : ∀ segment ∈ stored, segment.id < spool.state.nextSegmentId
  cursorsBelow : ∀ cursor ∈ directory.cursors.entries, cursor.1 < spool.state.nextSegmentId
  nextSegmentId_lt : spool.state.nextSegmentId < u64Limit
  sequencesBelow : ∀ frame ∈ storedFrames stored,
    frame.header.sequence.toNat < spool.state.nextSequence
  nextSequence_lt : spool.state.nextSequence < u64Limit
  active : spool.state.closed = false → stored ≠ []
  issuedBefore : ∀ entry ∈ issued, Issued codec stored read entry ∧
    entry.segmentId < spool.state.nextSegmentId
  shape : StageShape codec spool.state stored read stage
  rests : Rests codec directory spool.recordingGeneration (stage.onDisk stored)
    (stage.onDiskRead read)

/-- The directory of a system holds these segments, and so does the spool on it, if one
is open; the acknowledgements of the first frames are recorded. -/
def Layout (codec : SpoolCodec) (generation : String) (system : SpoolSystem)
    (stored : List StoredSegment) (read : Nat) : Prop :=
  match system.spool with
  | none => Rests codec system.directory generation stored read
  | some spool =>
    spool.recordingGeneration = generation ∧
      ∃ count, read = system.stage.acknowledgedRead count ∧
        Live codec system.directory spool system.stage system.issued stored count

/-! ### What actions do to the stored segments -/

/-- What an action of an open spool does to the segments and to the boundary of the
recorded acknowledgements, with the frames it writes and the frames it acknowledges. -/
inductive Advances : List StoredSegment → Nat → List StoredSegment → Nat →
    List PlacedFrame → List PlacedFrame → Prop where
  | stays (stored : List StoredSegment) (read : Nat) : Advances stored read stored read [] []
  | writes {front : List StoredSegment} {last : StoredSegment} {read : Nat} (frame : SpoolFrame)
      (inside : read ≤ (placedFrames (front ++ [last])).length) :
      Advances (front ++ [last]) read (front ++ [⟨last.id, last.frames ++ [frame]⟩]) read
        [⟨last.id, frame⟩] []
  | rotates {stored : List StoredSegment} {read id : Nat} (frames : List SpoolFrame)
      (nonempty : stored ≠ []) (inside : read ≤ (placedFrames stored).length)
      (above : ∀ segment ∈ stored, segment.id < id) :
      Advances stored read (stored ++ [⟨id, frames⟩]) read
        (StoredSegment.placed ⟨id, frames⟩) []
  | marks {segment : StoredSegment} {read : Nat} {frame : SpoolFrame}
      (stored : List StoredSegment) (current : segment.frames[read]? = some frame) :
      Advances (segment :: stored) read (segment :: stored) (read + 1) [] [⟨segment.id, frame⟩]
  | drops (segment : StoredSegment) (stored : List StoredSegment) :
      Advances (segment :: stored) segment.frames.length stored 0 [] []
  /-- A process that dies in an append leaves the segment it started and not the one it
  was deleting. -/
  | rotatesAndDrops {segment : StoredSegment} {stored : List StoredSegment} {id : Nat}
      (above : ∀ other ∈ segment :: stored, other.id < id) :
      Advances (segment :: stored) segment.frames.length (stored ++ [⟨id, []⟩]) 0 [] []

/-! ### Nodes and frames -/

section Nodes

variable {codec : SpoolCodec} {held : Bool} {segment last : StoredSegment}
  {stored front : List StoredSegment} {read : Nat}

@[simp] theorem length_memorySegments (stored : List StoredSegment) :
    (memorySegments codec held read stored).length = stored.length := by
  cases stored with
  | nil => rfl
  | cons _ stored => simp [memorySegments]

theorem memorySegments_concat (nonempty : stored ≠ []) (segment : StoredSegment) :
    memorySegments codec held read (stored ++ [segment]) =
      memorySegments codec held read stored ++ [unreadSegment codec segment] := by
  cases stored with
  | nil => exact absurd rfl nonempty
  | cons _ stored => simp [memorySegments]

/-- The node of the last segment, and the nodes once it has one more frame. -/
theorem memorySegments_last (inside : front = [] → read ≤ last.frames.length) (frame : SpoolFrame) :
    ∃ node, (memorySegments codec held read (front ++ [last])).getLast? = some node ∧
      node.id = last.id ∧ node.length = framesSize codec last.frames ∧
      (node.fileHeld = true ∨ front = [] ∧ node.fileHeld = held) ∧
      (memorySegments codec held read (front ++ [last])).dropLast ++
          [{ node with length := node.length + frame.size codec }] =
        memorySegments codec held read (front ++ [⟨last.id, last.frames ++ [frame]⟩]) := by
  cases front with
  | nil =>
    refine ⟨frontSegment codec held last read, rfl, rfl, rfl, .inr ⟨rfl, rfl⟩, ?_⟩
    simp [memorySegments, frontSegment, take_append_of_le_length (inside rfl)]
  | cons first front =>
    have nonempty : first :: front ≠ [] := cons_ne_nil _ _
    refine ⟨unreadSegment codec last, ?_, rfl, rfl, .inl rfl, ?_⟩
    · rw [memorySegments_concat nonempty, getLast?_concat]
    · rw [memorySegments_concat nonempty, memorySegments_concat nonempty]
      simp [unreadSegment]

@[simp] theorem length_placedFrames (stored : List StoredSegment) :
    (placedFrames stored).length = (storedFrames stored).length := by
  induction stored with
  | nil => rfl
  | cons _ stored ih => simp [ih]

theorem framesSize_take_add_drop (frames : List SpoolFrame) (count : Nat) :
    framesSize codec (frames.take count) + framesSize codec (frames.drop count) =
      framesSize codec frames := by
  rw [← framesSize_append, take_append_drop]

theorem framesSize_take_succ {frames : List SpoolFrame} {frame : SpoolFrame}
    (current : frames[read]? = some frame) :
    framesSize codec (frames.take (read + 1)) =
      framesSize codec (frames.take read) + frame.size codec := by
  rw [take_add_one, current]
  simp

end Nodes

/-! ### Growing segments -/

/-- The segments of the second list are those of the first, the last of them with more
frames, or with one more segment behind them. -/
structure Grows (stored grown : List StoredSegment) : Prop where
  front : ∀ segment, stored.head? = some segment →
    ∃ more, grown.head? = some ⟨segment.id, segment.frames ++ more⟩
  nonempty : stored ≠ []
  length_le : stored.length ≤ grown.length

theorem grows_extend (front : List StoredSegment) (last : StoredSegment) (frame : SpoolFrame) :
    Grows (front ++ [last]) (front ++ [⟨last.id, last.frames ++ [frame]⟩]) where
  front := by
    intro _ first
    cases front with
    | nil =>
      cases first
      exact ⟨[frame], rfl⟩
    | cons _ front =>
      cases first
      exact ⟨[], by simp⟩
  nonempty := append_ne_nil_of_right_ne_nil _ (cons_ne_nil _ _)
  length_le := by simp

theorem grows_concat {stored : List StoredSegment} (nonempty : stored ≠ [])
    (segment : StoredSegment) : Grows stored (stored ++ [segment]) where
  front := by
    intro _ isFirst
    obtain ⟨_, rfl⟩ := head?_eq_some_iff.mp isFirst
    exact ⟨[], by simp⟩
  nonempty := nonempty
  length_le := by simp

section Growth

variable {codec : SpoolCodec} {stored grown : List StoredSegment} {read : Nat}

/-- The first unread frame stays the first unread frame. -/
theorem getElem?_grown {segment : StoredSegment} {frame : SpoolFrame} (more : List SpoolFrame)
    (current : segment.frames[read]? = some frame) :
    (segment.frames ++ more)[read]? = some frame ∧
      currentEntry codec ⟨segment.id, segment.frames ++ more⟩ read frame =
        currentEntry codec segment read frame := by
  grind [currentEntry]

theorem Issued.grow {entry : SpoolEntry} (issued : Issued codec stored read entry)
    (grows : Grows stored grown) (inside : ∀ segment ∈ stored.head?, read ≤ segment.frames.length)
    (notLater : ∀ segment ∈ grown.tail, entry.segmentId ≠ segment.id) :
    Issued codec grown read entry where
  notLater := notLater
  inFront := by
    intro segment first sameId
    obtain ⟨old, _, rfl⟩ := exists_cons_of_ne_nil grows.nonempty
    obtain ⟨more, grownFirst⟩ := grows.front old rfl
    rw [grownFirst] at first
    cases first
    have before := inside old rfl
    rcases issued.inFront old rfl sameId with acknowledged | ⟨frame, current, equal⟩
    · left
      rw [take_append_of_le_length before]
      exact acknowledged
    · right
      obtain ⟨stillCurrent, sameEntry⟩ := @getElem?_grown codec _ _ _ more current
      exact ⟨frame, stillCurrent, equal.trans sameEntry.symm⟩

theorem StageShape.grow {state after : SpoolState} {stage : ReaderStage}
    (shape : StageShape codec state stored read stage) (grows : Grows stored grown)
    (sameRetiring : after.retiringSegmentId = state.retiringSegmentId)
    (isOpen : state.closed = false) (only : 2 ≤ stored.length → grown.head? = stored.head?) :
    StageShape codec after grown read stage := by
  cases stage with
  | idle => exact sameRetiring.trans shape
  | acknowledging =>
    obtain ⟨notRetiring, segment, frame, first, current, equal⟩ := shape
    obtain ⟨more, grownFirst⟩ := grows.front segment first
    obtain ⟨stillCurrent, sameEntry⟩ := getElem?_grown more current
    refine ⟨sameRetiring.trans notRetiring, _, frame, grownFirst, stillCurrent, ?_⟩
    rw [sameEntry]
    exact equal
  | retiring segmentId | retired segmentId =>
    obtain ⟨isRetiring, segment, first, sameId, complete, closed | long⟩ := shape
    · rw [isOpen] at closed
      cases closed
    · exact ⟨sameRetiring.trans isRetiring, segment, (only long).trans first, sameId, complete,
        .inr (long.trans grows.length_le)⟩

end Growth

variable {frame : SpoolFrame}

namespace Live

variable {codec : SpoolCodec} {directory : Directory} {spool : UdpRecordingSpool}
  {stage : ReaderStage} {issued : List SpoolEntry} {stored : List StoredSegment} {read : Nat}

section

variable (live : Live codec directory spool stage issued stored read)
include live

/-- The read frames are frames of the stored segments. -/
theorem read_le_length : read ≤ (storedFrames stored).length := by
  cases stored with
  | nil =>
    rw [live.read_nil rfl]
    exact Nat.zero_le _
  | cons segment stored =>
    have inside := live.read_le segment rfl
    rw [storedFrames_cons, length_append]
    omega

/-- The read frames are frames of the first segment. -/
theorem framesSize_read_le :
    framesSize codec ((storedFrames stored).take read) ≤ maximumSegmentBytes := by
  cases stored with
  | nil =>
    simp
  | cons segment stored =>
    have fits := live.contents.fits segment mem_cons_self
    have split := @framesSize_take_add_drop codec segment.frames read
    rw [storedFrames_cons, take_append_of_le_length (live.read_le segment rfl)]
    omega

theorem acknowledgedRead_le : stage.acknowledgedRead read ≤ (storedFrames stored).length := by
  have bound := live.read_le_length
  cases stage with
  | acknowledging =>
    obtain ⟨-, _, _, first, current, -⟩ := live.shape
    obtain ⟨_, rfl⟩ := head?_eq_some_iff.mp first
    have inside := (List.getElem?_eq_some_iff.mp current).1
    simp only [ReaderStage.acknowledgedRead, storedFrames_cons, length_append]
    omega
  | _ => exact bound

end

/-! ### Appending -/

theorem onDisk_mem (stage : ReaderStage) {segment : StoredSegment}
    (member : segment ∈ stage.onDisk stored) : segment ∈ stored := by
  cases stage with
  | retired segmentId => exact mem_of_mem_tail member
  | _ => exact member

theorem onDisk_contents (contents : Contents codec stored) (stage : ReaderStage) :
    Contents codec (stage.onDisk stored) := by
  cases stage with
  | retired segmentId =>
    cases stored with
    | nil => exact contents
    | cons _ stored => exact contents.tail
  | _ => exact contents

variable {front : List StoredSegment}

/-- A segment at the end is on disk, unless it is the one under retirement. -/
theorem onDisk_concat {stage : ReaderStage} (kept : stage.holdsFront = true ∨ front ≠ [])
    (last : StoredSegment) : stage.onDisk (front ++ [last]) = stage.onDisk front ++ [last] := by
  cases stage with
  | retired segmentId =>
    have nonempty : front ≠ [] := kept.resolve_left (by simp [ReaderStage.holdsFront])
    exact tail_append_of_ne_nil nonempty
  | _ => rfl

variable {last : StoredSegment}

section

variable (live : Live codec directory spool stage issued stored read)
include live

theorem kept_of_open (isOpen : spool.state.closed = false) (split : stored = front ++ [last]) :
    stage.holdsFront = true ∨ front ≠ [] := by
  have several : spool.state.closed = true ∨ 2 ≤ stored.length → front ≠ [] := by
    grind
  cases stage with
  | idle | acknowledging => exact .inl rfl
  | retiring segmentId | retired segmentId =>
    obtain ⟨-, segment, -, -, -, long⟩ := live.shape
    exact .inr (several long)

theorem close :
    Live codec directory { spool with state := { spool.state with closed := true } } stage issued
      stored read := by
  refine ⟨live.contents, live.segments, live.read_le, live.read_nil, live.pending,
    live.segmentsBelow, live.cursorsBelow, live.nextSegmentId_lt, live.sequencesBelow,
    live.nextSequence_lt, nofun, live.issuedBefore, ?_, live.rests⟩
  have shape := live.shape
  cases stage with
  | idle | acknowledging => exact shape
  | retiring segmentId | retired segmentId =>
    obtain ⟨isRetiring, segment, first, sameId, complete, -⟩ := shape
    exact ⟨isRetiring, segment, first, sameId, complete, .inl rfl⟩

/-- The set of generations is independent of the layout. -/
theorem nameGenerations (generations : Finset String) :
    Live codec directory
      { spool with state := { spool.state with processGenerations := generations } }
      stage issued stored read :=
  ⟨live.contents, live.segments, live.read_le, live.read_nil, live.pending, live.segmentsBelow,
    live.cursorsBelow, live.nextSegmentId_lt, live.sequencesBelow, live.nextSequence_lt,
    live.active, live.issuedBefore, live.shape, live.rests⟩

omit live in
/-- Writing a frame that was admitted. -/
theorem writeFrame (live : Live codec directory spool stage issued (front ++ [last]) read)
    (isOpen : spool.state.closed = false) (writable : frame.Writable codec)
    (sequence : frame.header.sequence.toNat = spool.state.nextSequence)
    (admitted : spool.state.pendingBytes + frame.size codec ≤ maximumSpoolBytes)
    (fits : framesSize codec last.frames + frame.size codec ≤ maximumSegmentBytes) :
    ∃ operation, (UdpRecording.writeFrame codec spool.state frame).operations = [operation] ∧
      (UdpRecording.writeFrame codec spool.state frame).result = .ok ⟨last.id, frame⟩ ∧
      Live codec (directory.apply operation)
        { spool with state := (UdpRecording.writeFrame codec spool.state frame).state }
        stage issued (front ++ [⟨last.id, last.frames ++ [frame]⟩]) read := by
  have lastInside : front = [] → read ≤ last.frames.length := by
    rintro rfl
    exact live.read_le last rfl
  obtain ⟨node, isLast, nodeId, nodeLength, nodeHeld, nodes⟩ :=
    @memorySegments_last codec stage.holdsFront last front read lastInside frame
  have kept := live.kept_of_open isOpen rfl
  have held : node.fileHeld = true := by
    rcases nodeHeld with held | ⟨single, same⟩
    · exact held
    · rw [same]
      exact kept.resolve_right fun nonempty => nonempty single
  have noOverflow : ¬u64Limit ≤ node.length + frame.size codec := by
    rw [nodeLength]
    unfold u64Limit
    unfold maximumSegmentBytes at fits
    omega
  rw [← live.segments] at isLast nodes
  have result : UdpRecording.writeFrame codec spool.state frame =
      { state :=
          { spool.state with
            segments := spool.state.segments.dropLast ++
              [{ node with length := node.length + frame.size codec }]
            pendingBytes := spool.state.pendingBytes + frame.size codec
            nextSequence := spool.state.nextSequence + 1 }
        operations := [.writeFrame node.id node.length (frame.bytes codec)]
        result := .ok ⟨node.id, frame⟩ } := by
    simp only [UdpRecording.writeFrame, isLast, held, if_neg noOverflow, Bool.not_true,
      Bool.false_eq_true, if_false]
  have readInside := live.read_le_length
  have frames : storedFrames (front ++ [⟨last.id, last.frames ++ [frame]⟩]) =
      storedFrames (front ++ [last]) ++ [frame] := by simp
  have total : framesSize codec (storedFrames (front ++ [last])) + frame.size codec ≤
      maximumSpoolBytes + maximumSegmentBytes := by
    have readPart := live.framesSize_read_le
    have split := @framesSize_take_add_drop codec (storedFrames (front ++ [last])) read
    rw [live.pending] at admitted
    omega
  have contents := live.contents.extend writable fits
    (by
      intro other member
      rw [sequence]
      exact live.sequencesBelow other member)
    total
  have sequenceLimit := writable.sequence_lt
  rw [result, nodes, nodeId, nodeLength]
  refine ⟨_, rfl, rfl, contents, rfl, ?_, ?_, ?_, ?_, ?_, live.nextSegmentId_lt, ?_, ?_, ?_, ?_,
    ?_, ?_⟩
  · intro segment first
    obtain ⟨old, _, split⟩ := exists_cons_of_ne_nil (grows_extend front last frame).nonempty
    have oldFirst : (front ++ [last]).head? = some old := by rw [split]; rfl
    obtain ⟨_, grownFirst⟩ := (grows_extend front last frame).front old oldFirst
    rw [grownFirst] at first
    cases first
    have inside := live.read_le old oldFirst
    rw [length_append]
    omega
  · intro empty
    exact absurd empty (by simp)
  · rw [frames, drop_append_of_le_length readInside, framesSize_append]
    simp [live.pending]
  · intro segment member
    rcases mem_append.mp member with old | new
    · exact live.segmentsBelow segment (mem_append_left _ old)
    · rw [mem_singleton.mp new]
      exact live.segmentsBelow last (mem_append_right _ mem_cons_self)
  · rw [Directory.cursors_writeFrame]
    exact live.cursorsBelow
  · rw [frames]
    intro other member
    rcases mem_append.mp member with old | new
    · exact Nat.lt_succ_of_lt (live.sequencesBelow other old)
    · rw [mem_singleton.mp new, sequence]
      exact Nat.lt_succ_self _
  · show spool.state.nextSequence + 1 < u64Limit
    omega
  · intro _
    simp
  · intro entry member
    obtain ⟨old, below⟩ := live.issuedBefore entry member
    refine ⟨old.grow (grows_extend front last frame) live.read_le ?_, below⟩
    intro segment inTail
    cases front with
    | nil => cases inTail
    | cons first front =>
      rcases mem_append.mp inTail with before | new
      · exact old.notLater segment (mem_append_left _ before)
      · rw [mem_singleton.mp new]
        exact old.notLater last (mem_append_right _ mem_cons_self)
  · refine live.shape.grow (grows_extend front last frame) rfl isOpen fun long => ?_
    cases front with
    | nil => simp at long
    | cons first front => rfl
  · have onDiskContents := onDisk_contents contents stage
    have rests := live.rests
    rw [onDisk_concat kept] at rests onDiskContents ⊢
    exact rests.writeFrame onDiskContents

/-- No cursor has the number of the next segment. -/
theorem cursor_nextSegmentId : directory.cursors.get? spool.state.nextSegmentId = none := by
  rw [OrderedTable.get?_eq_none]
  intro cursor member
  exact (live.cursorsBelow cursor member).ne

end

/-- Starting a segment behind a last one that has frames. -/
theorem createSegment (live : Live codec directory spool stage issued (front ++ [last]) read)
    (isOpen : spool.state.closed = false) (room : spool.state.nextSegmentId + 1 < u64Limit)
    (filled : last.frames ≠ []) :
    UdpRecording.createSegment directory spool.state.nextSegmentId =
        ⟨[.createSegment spool.state.nextSegmentId],
          .ok (unreadSegment codec ⟨spool.state.nextSegmentId, []⟩)⟩ ∧
      Live codec (directory.apply (.createSegment spool.state.nextSegmentId))
        { spool with
          state :=
            { spool.state with
              nextSegmentId := spool.state.nextSegmentId + 1
              segments := spool.state.segments ++
                [unreadSegment codec ⟨spool.state.nextSegmentId, []⟩] } }
        stage issued (front ++ [last] ++ [⟨spool.state.nextSegmentId, []⟩]) read := by
  have nonempty : front ++ [last] ≠ [] := by simp
  have allFilled : ∀ segment ∈ front ++ [last], segment.frames ≠ [] := by
    intro segment member
    rcases mem_append.mp member with before | isLast
    · apply live.contents.filled
      rw [dropLast_concat]
      exact before
    · rw [mem_singleton.mp isLast]
      exact filled
  have absent : directory.segments.get? spool.state.nextSegmentId = none := by
    apply live.rests.get?_segment_eq_none
    intro segment member
    exact (live.segmentsBelow segment (onDisk_mem stage member)).ne
  have grows := grows_concat nonempty ⟨spool.state.nextSegmentId, []⟩
  have sameFirst : (front ++ [last] ++ [(⟨spool.state.nextSegmentId, []⟩ : StoredSegment)]).head? =
      (front ++ [last]).head? := head?_append_of_ne_nil _ nonempty
  have frames : storedFrames (front ++ [last] ++ [⟨spool.state.nextSegmentId, []⟩]) =
      storedFrames (front ++ [last]) := by simp
  refine ⟨?_, live.contents.concat live.segmentsBelow live.nextSegmentId_lt allFilled, ?_, ?_, ?_,
    ?_, ?_, ?_, room, ?_, live.nextSequence_lt, ?_, ?_, ?_, ?_⟩
  · rw [UdpRecording.createSegment, if_neg (by rw [absent]; simp)]
    rfl
  · rw [memorySegments_concat nonempty, ← live.segments]
  · rw [sameFirst]
    exact live.read_le
  · intro empty
    exact absurd empty (by simp)
  · rw [frames]
    exact live.pending
  · intro segment member
    rcases mem_append.mp member with before | isNew
    · exact Nat.lt_succ_of_lt (live.segmentsBelow segment before)
    · rw [mem_singleton.mp isNew]
      exact Nat.lt_succ_self _
  · intro cursor member
    exact Nat.lt_succ_of_lt (live.cursorsBelow cursor member)
  · rw [frames]
    exact live.sequencesBelow
  · simp
  · intro entry member
    obtain ⟨before, below⟩ := live.issuedBefore entry member
    refine ⟨before.grow grows live.read_le ?_, Nat.lt_succ_of_lt below⟩
    intro segment inTail
    rw [tail_append_of_ne_nil nonempty] at inTail
    rcases mem_append.mp inTail with old | isNew
    · exact before.notLater segment old
    · rw [mem_singleton.mp isNew]
      exact below.ne
  · exact live.shape.grow grows rfl isOpen fun _ => sameFirst
  · have kept : stage.holdsFront = true ∨ front ++ [last] ≠ [] := .inr nonempty
    rw [onDisk_concat kept]
    apply live.rests.createSegment
    · exact fun segment member => live.segmentsBelow segment (onDisk_mem stage member)
    · exact live.nextSegmentId_lt
    · exact fun segment member => allFilled segment (onDisk_mem stage member)
    · exact live.cursor_nextSegmentId

end Live

/-- What an admitted frame meets. -/
theorem admitFrame_eq_ok {codec : SpoolCodec} {state : SpoolState}
    (admitted : admitFrame codec state frame = .ok ()) :
    0 < (codec.encodeHeader frame.header).length ∧
      (codec.encodeHeader frame.header).length ≤ maximumHeaderBytes ∧
      frame.payload.length ≤ maximumPayloadBytes ∧
      state.pendingBytes + frame.size codec ≤ maximumSpoolBytes := by
  obtain ⟨_, _, rest⟩ := Outcome.bind_eq_ok.mp admitted
  obtain ⟨_, _, rest⟩ := Outcome.bind_eq_ok.mp rest
  obtain ⟨_, validated, rest⟩ := Outcome.bind_eq_ok.mp rest
  obtain ⟨_, _, notFull⟩ := Outcome.bind_eq_ok.mp rest
  obtain ⟨_, headerValid, payloadValid⟩ := Outcome.bind_eq_ok.mp validated
  rw [Outcome.raiseIf_eq_ok] at headerValid payloadValid notFull
  omega

variable {call : SpoolCall PlacedFrame}

namespace Live

variable {codec : SpoolCodec} {directory : Directory} {spool : UdpRecordingSpool}
  {stage : ReaderStage} {issued : List SpoolEntry} {stored : List StoredSegment} {read : Nat}

/-- The spool rotates when its last segment has frames and too little room. -/
theorem shouldRotate_eq {front : List StoredSegment} {last : StoredSegment}
    (live : Live codec directory spool stage issued (front ++ [last]) read) (frame : SpoolFrame) :
    spool.state.shouldRotate (frame.size codec) =
      (decide (0 < framesSize codec last.frames) &&
        decide (maximumSegmentBytes < framesSize codec last.frames + frame.size codec)) := by
  have lastInside : front = [] → read ≤ last.frames.length := by
    rintro rfl
    exact live.read_le last rfl
  obtain ⟨_, isLast, -, nodeLength, -⟩ :=
    memorySegments_last lastInside frame
  rw [← live.segments] at isLast
  rw [SpoolState.shouldRotate, isLast, Option.any_some, nodeLength]

/-- What a frame that was written does to the counters. -/
theorem writeFrame_counters {state : SpoolState} {placed : PlacedFrame}
    (written : (UdpRecording.writeFrame codec state frame).result = .ok placed) :
    (UdpRecording.writeFrame codec state frame).state.nextSequence = state.nextSequence + 1 ∧
      (UdpRecording.writeFrame codec state frame).state.nextSegmentId = state.nextSegmentId ∧
      (UdpRecording.writeFrame codec state frame).state.closed = state.closed := by
  unfold UdpRecording.writeFrame at written ⊢
  split at written
  · cases written
  split at written
  · cases written
  split at written
  · cases written
  grind

/-- The counters after a frame was appended. -/
structure Appended (before after : SpoolState) : Prop where
  nextSequence : after.nextSequence = before.nextSequence + 1
  nextSegmentId : after.nextSegmentId ≤ before.nextSegmentId + 1
  closed : after.closed = before.closed

variable (live : Live codec directory spool stage issued stored read)
  (captured : CapturedUdpDatagram)
include live

/-- An admitted frame is written to the last segment, or to a segment that is started for it
as long as there are numbers for one. -/
theorem append_admitted (isOpen : spool.state.closed = false)
    (sequences : spool.state.nextSequence + 1 < u64Limit)
    (admitted : admitFrame codec spool.state (captured.frame spool.state.nextSequence) = .ok ())
    (isFrame : captured.frame spool.state.nextSequence = frame)
    (called : appendCapturedEvent codec directory spool.state captured = call) :
    (u64Limit ≤ spool.state.nextSegmentId + 1 ∧ ∃ fault, call.operations = [] ∧
      call.result = .error fault ∧
      Live codec directory { spool with state := call.state } stage issued stored read) ∨
    (Appended spool.state call.state ∧ ∃ front last operation, stored = front ++ [last] ∧
      call.operations = [operation] ∧ call.result = .ok ⟨last.id, frame⟩ ∧
      Live codec (directory.apply operation) { spool with state := call.state } stage issued
        (front ++ [⟨last.id, last.frames ++ [frame]⟩]) read) ∨
    (Appended spool.state call.state ∧ (∀ last ∈ stored.getLast?, last.frames ≠ []) ∧
      ∃ id operation rotated, stored ≠ [] ∧
      (∀ segment ∈ stored, segment.id < id) ∧ call.operations = [.createSegment id, operation] ∧
      call.result = .ok ⟨id, frame⟩ ∧
      Live codec (directory.apply (.createSegment id)) { spool with state := rotated } stage issued
        (stored ++ [⟨id, []⟩]) read ∧
      Live codec ((directory.apply (.createSegment id)).apply operation)
        { spool with state := call.state } stage issued (stored ++ [⟨id, [frame]⟩]) read) := by
  subst called
  have named := live.nameGenerations
    (insert captured.recordingProcessGeneration spool.state.processGenerations)
  obtain ⟨front, last, rfl⟩ :=
    (eq_nil_or_concat stored).resolve_left (live.active isOpen)
  rw [concat_eq_append] at *
  obtain ⟨headerPositive, headerBound, payloadBound, pendingBound⟩ := admitFrame_eq_ok admitted
  have sequence : (captured.frame spool.state.nextSequence).header.sequence.toNat =
      spool.state.nextSequence := UInt64.toNat_ofNat_of_lt' live.nextSequence_lt
  rw [isFrame] at headerPositive headerBound payloadBound pendingBound sequence admitted
  have writable : frame.Writable codec :=
    ⟨headerPositive, headerBound, payloadBound, by rw [sequence]; omega⟩
  have sizeBound : frame.size codec ≤ maximumSegmentBytes := by
    unfold SpoolFrame.size frameLengthBytes maximumSegmentBytes
    unfold maximumHeaderBytes at headerBound
    unfold maximumPayloadBytes at payloadBound
    omega
  have sameAdmitted : admitFrame codec
      { spool.state with
        processGenerations :=
          insert captured.recordingProcessGeneration spool.state.processGenerations } frame =
      .ok () := admitted
  rw [appendCapturedEvent, if_neg (by rw [isOpen]; simp), if_neg (Nat.not_le.mpr sequences)]
  dsimp only
  rw [isFrame, sameAdmitted]
  dsimp only
  split
  · rename_i rotates
    rw [named.shouldRotate_eq, Bool.and_eq_true, decide_eq_true_eq] at rotates
    unfold rotateAndWrite
    split
    · rename_i full
      exact .inl ⟨full, _, rfl, rfl, named⟩
    rename_i full
    have room : spool.state.nextSegmentId + 1 < u64Limit := Nat.lt_of_not_le full
    have filled : last.frames ≠ [] := by
      intro empty
      rw [empty, framesSize_nil] at rotates
      omega
    obtain ⟨created, rotated⟩ := named.createSegment isOpen room filled
    rw [created]
    obtain ⟨operation, operations, result, written⟩ := rotated.writeFrame isOpen writable sequence
      pendingBound (by simpa using sizeBound)
    obtain ⟨nextSequence, nextSegmentId, closed⟩ := writeFrame_counters result
    have lastFilled : ∀ segment ∈ (front ++ [last]).getLast?, segment.frames ≠ [] := by
      rw [getLast?_concat]
      rintro segment ⟨⟩
      exact filled
    refine .inr (.inr ⟨⟨nextSequence, nextSegmentId.le, closed⟩, lastFilled,
      spool.state.nextSegmentId, operation, _, append_ne_nil_of_right_ne_nil _ (cons_ne_nil _ _),
      live.segmentsBelow, ?_, result, rotated, written⟩)
    exact congrArg (FileOperation.createSegment spool.state.nextSegmentId :: ·) operations
  · rename_i stays
    rw [named.shouldRotate_eq, Bool.and_eq_true, decide_eq_true_eq, decide_eq_true_eq] at stays
    obtain ⟨operation, operations, result, written⟩ := named.writeFrame isOpen writable sequence
      pendingBound (by omega)
    obtain ⟨nextSequence, nextSegmentId, closed⟩ := writeFrame_counters result
    exact .inr (.inl ⟨⟨nextSequence, nextSegmentId.le.trans (Nat.le_succ _), closed⟩, front, last,
      operation, rfl, operations, result, written⟩)

/-- An append is refused, writes a frame to the last segment, or starts a segment and
writes the frame there. -/
theorem append_cases (called : appendCapturedEvent codec directory spool.state captured = call) :
    (∃ fault, call.operations = [] ∧ call.result = .error fault ∧
      Live codec directory { spool with state := call.state } stage issued stored read) ∨
    (∃ front last frame operation, stored = front ++ [last] ∧ call.operations = [operation] ∧
      call.result = .ok ⟨last.id, frame⟩ ∧
      Live codec (directory.apply operation) { spool with state := call.state } stage issued
        (front ++ [⟨last.id, last.frames ++ [frame]⟩]) read) ∨
    ∃ id frame operation rotated, stored ≠ [] ∧ (∀ segment ∈ stored, segment.id < id) ∧
      call.operations = [.createSegment id, operation] ∧ call.result = .ok ⟨id, frame⟩ ∧
      Live codec (directory.apply (.createSegment id)) { spool with state := rotated } stage issued
        (stored ++ [⟨id, []⟩]) read ∧
      Live codec ((directory.apply (.createSegment id)).apply operation)
        { spool with state := call.state } stage issued (stored ++ [⟨id, [frame]⟩]) read := by
  by_cases isOpen : spool.state.closed = false
  · by_cases sequences : spool.state.nextSequence + 1 < u64Limit
    · cases admission : admitFrame codec spool.state
          (captured.frame spool.state.nextSequence) with
      | ok =>
        rcases live.append_admitted captured isOpen sequences admission rfl called with
          ⟨-, refused⟩ | ⟨-, front, last, operation, written⟩ |
          ⟨-, -, id, operation, rotated, written⟩
        · exact .inl refused
        · exact .inr (.inl ⟨front, last, _, operation, written⟩)
        · exact .inr (.inr ⟨id, _, operation, rotated, written⟩)
      | error fault =>
        have refused : admitFrame codec
            { spool.state with
              processGenerations :=
                insert captured.recordingProcessGeneration spool.state.processGenerations }
            (captured.frame spool.state.nextSequence) = .error fault := admission
        subst called
        rw [appendCapturedEvent, if_neg (by rw [isOpen]; simp), if_neg (Nat.not_le.mpr sequences)]
        dsimp only
        rw [refused]
        exact .inl ⟨_, rfl, rfl, live.nameGenerations _⟩
    · subst called
      rw [appendCapturedEvent, if_neg (by rw [isOpen]; simp), if_pos (Nat.le_of_not_lt sequences)]
      exact .inl ⟨_, rfl, rfl, live⟩
  · subst called
    rw [appendCapturedEvent, if_pos (by simpa using isOpen)]
    exact .inl ⟨_, rfl, rfl, live⟩

end Live

end SprakCapture.UdpRecording
