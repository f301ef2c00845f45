import SprakCapture.UdpRecording.SpoolInvariant

/-!
# The reader of the UDP spool

The reader thread issues the first unread frame, records its acknowledgement and retires
segments that are read to their end. Each of its steps keeps the invariant of the spool;
an acknowledgement is accepted only for the first unread frame.
-/

namespace SprakCapture.UdpRecording

open Data List

section Sizes

variable {codec : SpoolCodec} {segment : StoredSegment} {read : Nat}

variable {frame : SpoolFrame}

theorem endOffset_currentEntry (current : segment.frames[read]? = some frame) :
    (currentEntry codec segment read frame).endOffset =
      framesSize codec (segment.frames.take (read + 1)) :=
  (framesSize_take_succ current).symm

theorem framesSize_take_le (frames : List SpoolFrame) (count : Nat) :
    framesSize codec (frames.take count) ≤ framesSize codec frames := by
  have split := @framesSize_take_add_drop codec frames count
  omega

theorem size_pos (writable : frame.Writable codec) : 0 < frame.size codec := by
  have := SpoolFrame.frameLengthBytes_lt_size writable
  omega

/-- A boundary that is not at the end leaves a frame behind it. -/
theorem framesSize_take_lt {frames : List SpoolFrame}
    (writable : ∀ frame ∈ frames, frame.Writable codec) (current : frames[read]? = some frame) :
    framesSize codec (frames.take read) < framesSize codec frames := by
  have next := @framesSize_take_succ codec _ _ _ current
  have bound := @framesSize_take_le codec frames (read + 1)
  have positive := size_pos (writable frame (mem_of_getElem? current))
  omega

/-- The nodes of segments of which nothing is read. -/
theorem memorySegments_zero (stored : List StoredSegment) :
    memorySegments codec true 0 stored = stored.map (unreadSegment codec) := by
  cases stored with
  | nil | cons _ stored => rfl

end Sizes

variable {segmentId : Nat} {entry : SpoolEntry}

namespace Live

variable {codec : SpoolCodec} {directory : Directory} {spool : UdpRecordingSpool}
  {issued : List SpoolEntry} {segment : StoredSegment} {stored : List StoredSegment} {read : Nat}

variable {stage : ReaderStage}

theorem segment_writable (live : Live codec directory spool stage issued (segment :: stored) read) :
    ∀ frame ∈ segment.frames, frame.Writable codec :=
  live.contents.segment_writable mem_cons_self

/-! ### Reading -/

theorem readNextPass_nil (live : Live codec directory spool .idle issued [] read) :
    readNextPass codec directory spool.state = .ends := by
  have idle : spool.state.retiringSegmentId = none := live.shape
  have segments : spool.state.segments = [] := live.segments
  rw [readNextPass, idle, segments]
  rfl

variable {frame : SpoolFrame}

theorem readFrame_current (live : Live codec directory spool stage issued (segment :: stored) read)
    (current : segment.frames[read]? = some frame) (tail : Bytes) :
    readFrame codec (framesBytes codec segment.frames ++ tail) segment.id
        (framesSize codec (segment.frames.take read)) =
      .ok (currentEntry codec segment read frame) := by
  have split : segment.frames =
      segment.frames.take read ++ frame :: segment.frames.drop (read + 1) := by
    have atRead := (List.getElem?_eq_some_iff.mp current).2
    rw [← atRead, cons_getElem_drop_succ, take_append_drop]
  have content : (framesBytes codec segment.frames).drop
      (framesSize codec (segment.frames.take read)) =
        frame.bytes codec ++ framesBytes codec (segment.frames.drop (read + 1)) := by
    grind [drop_framesBytes, framesBytes_cons]
  have extended : (framesBytes codec segment.frames ++ tail).drop
      (framesSize codec (segment.frames.take read)) =
        frame.bytes codec ++ (framesBytes codec (segment.frames.drop (read + 1)) ++ tail) := by
    grind [length_framesBytes, framesSize_take_le]
  have writable := live.segment_writable frame (mem_of_getElem? current)
  exact writable.readFrame_eq extended segment.id

/-- Reading returns the first unread frame of the first segment. -/
theorem readNextPass_current
    (live : Live codec directory spool .idle issued (segment :: stored) read)
    (current : segment.frames[read]? = some frame) :
    readNextPass codec directory spool.state = .found (currentEntry codec segment read frame) := by
  have idle : spool.state.retiringSegmentId = none := live.shape
  have segments := live.segments
  have file : directory.segments.get? segment.id = some (framesBytes codec segment.frames) :=
    live.rests.get?_segment mem_cons_self
  have unread : ¬(frontSegment codec true segment read).readOffset =
      (frontSegment codec true segment read).length :=
    (framesSize_take_lt live.segment_writable current).ne
  have parsed := live.readFrame_current current []
  rw [append_nil] at parsed
  rw [readNextPass, idle, segments]
  simp only [ReaderStage.holdsFront, memorySegments, if_neg unread, Option.isSome_none,
    Bool.false_eq_true, if_false]
  simp [frontSegment, file, parsed]

theorem readNextPass_complete
    (live : Live codec directory spool .idle issued (segment :: stored) segment.frames.length) :
    readNextPass codec directory spool.state = if spool.state.retirementBlocked then .ends
      else if stored = [] ∧ spool.state.closed = false then .waits
      else .retires := by
  have idle : spool.state.retiringSegmentId = none := live.shape
  have complete : (frontSegment codec true segment segment.frames.length).readOffset =
      (frontSegment codec true segment segment.frames.length).length := by
    simp [frontSegment]
  rw [readNextPass, idle, live.segments]
  simp [ReaderStage.holdsFront, memorySegments, if_pos complete]

/-- An entry that reading returned may be issued. -/
theorem issue (live : Live codec directory spool .idle issued (segment :: stored) read)
    (current : segment.frames[read]? = some frame) :
    Live codec directory spool .idle (issued ++ [currentEntry codec segment read frame])
      (segment :: stored) read where
  contents := live.contents
  segments := live.segments
  read_le := live.read_le
  read_nil := live.read_nil
  pending := live.pending
  segmentsBelow := live.segmentsBelow
  cursorsBelow := live.cursorsBelow
  nextSegmentId_lt := live.nextSegmentId_lt
  sequencesBelow := live.sequencesBelow
  nextSequence_lt := live.nextSequence_lt
  active := live.active
  shape := live.shape
  rests := live.rests
  issuedBefore := by
    intro entry member
    rcases mem_append.mp member with before | isNew
    · exact live.issuedBefore entry before
    rw [mem_singleton.mp isNew]
    refine ⟨⟨?_, ?_⟩, live.segmentsBelow segment mem_cons_self⟩
    · intro _ inTail
      exact (live.contents.id_lt inTail).ne
    · intro _ isFirst _
      cases isFirst
      exact .inr ⟨frame, current, rfl⟩

/-! ### Acknowledging -/

/-- An acknowledgement that passes the check is of the first unread frame. -/
theorem current_of_accepted {error : SpoolError}
    (live : Live codec directory spool stage issued stored read) (member : entry ∈ issued)
    (accepted : checkAcknowledgement spool.state entry.acknowledgement error = .ok ()) :
    ∃ segment rest frame, stored = segment :: rest ∧ segment.frames[read]? = some frame ∧
      entry = currentEntry codec segment read frame := by
  cases stored with
  | nil =>
    rw [checkAcknowledgement, live.segments] at accepted
    cases accepted
  | cons segment rest =>
    rw [checkAcknowledgement, live.segments] at accepted
    simp only [memorySegments, Outcome.raiseIf_eq_ok, not_or, not_not, not_le] at accepted
    obtain ⟨sameId, beyond, -⟩ := accepted
    rcases (live.issuedBefore entry member).1.inFront segment rfl sameId.symm with
      behind | ⟨frame, _, _⟩
    · exact absurd beyond (not_lt.mpr behind)
    simp_all

/-- The acknowledgement of the first unread frame passes the check. -/
theorem checkAcknowledgement_current
    (live : Live codec directory spool stage issued (segment :: stored) read)
    (current : segment.frames[read]? = some frame) (error : SpoolError) :
    checkAcknowledgement spool.state (currentEntry codec segment read frame).acknowledgement error =
      .ok () := by
  have positive := size_pos (live.segment_writable frame (mem_of_getElem? current))
  have bound := @framesSize_take_le codec segment.frames (read + 1)
  have next := @framesSize_take_succ codec _ _ _ current
  rw [checkAcknowledgement, live.segments]
  apply Outcome.raiseIf_of_not
  simp only [frontSegment, SpoolEntry.acknowledgement, currentEntry, SpoolFrame.entry]
  omega

/-- The cursor that acknowledging the first unread frame writes. -/
theorem marks_current (generation : String) (current : segment.frames[read]? = some frame) :
    Marks codec generation segment (read + 1) (codec.encodeCursor
      { recordingGeneration := generation
        segmentId := UInt64.ofNat segment.id
        sequence := frame.header.sequence
        readOffset := UInt64.ofNat (currentEntry codec segment read frame).endOffset }) := by
  have inside := (List.getElem?_eq_some_iff.mp current).1
  refine ⟨inside, frame, ?_, ?_⟩
  · rw [take_add_one, current]
    simp
  · rw [endOffset_currentEntry current]

/-- Recording the acknowledgement of the first unread frame. -/
theorem acknowledge (live : Live codec directory spool .idle issued (segment :: stored) read)
    (current : segment.frames[read]? = some frame) :
    ∃ content, persistAcknowledgement codec spool
        (currentEntry codec segment read frame).acknowledgement =
          ⟨[.replaceCursor segment.id content], .ok ()⟩ ∧
      Live codec (directory.apply (.replaceCursor segment.id content)) spool
        (.acknowledging (currentEntry codec segment read frame).acknowledgement) issued
        (segment :: stored) read := by
  have persisted : persistAcknowledgement codec spool
      (currentEntry codec segment read frame).acknowledgement =
        ⟨[.replaceCursor segment.id (codec.encodeCursor
          { recordingGeneration := spool.recordingGeneration
            segmentId := UInt64.ofNat segment.id
            sequence := frame.header.sequence
            readOffset := UInt64.ofNat (currentEntry codec segment read frame).endOffset })],
          .ok ()⟩ := by
    rw [persistAcknowledgement, live.checkAcknowledgement_current current]
    rfl
  refine ⟨_, persisted, live.contents, live.segments, live.read_le, live.read_nil, live.pending,
    live.segmentsBelow, ?_, live.nextSegmentId_lt, live.sequencesBelow, live.nextSequence_lt,
    live.active, live.issuedBefore, ⟨live.shape, segment, frame, rfl, current, rfl⟩, ?_⟩
  · intro cursor member
    rcases OrderedTable.mem_insert.mp member with rfl | ⟨before, -⟩
    · exact live.segmentsBelow segment mem_cons_self
    · exact live.cursorsBelow cursor before
  · exact live.rests.replaceCursor (marks_current spool.recordingGeneration current)

/-! ### Retiring -/

section

variable (live : Live codec directory spool .idle issued (segment :: stored) segment.frames.length)
include live

/-- Beginning to retire a first segment that is read. -/
theorem beginSegmentRetirement (finished : spool.state.closed = true ∨ stored ≠ []) :
    (UdpRecording.beginSegmentRetirement spool.state).2 = .ok segment.id ∧
      Live codec directory
        { spool with state := (UdpRecording.beginSegmentRetirement spool.state).1 }
        (.retiring segment.id) issued (segment :: stored) segment.frames.length := by
  have idle : spool.state.retiringSegmentId = none := live.shape
  have segments := live.segments
  have begun : UdpRecording.beginSegmentRetirement spool.state =
      ({ spool.state with
         segments := memorySegments codec false segment.frames.length (segment :: stored)
         retiringSegmentId := some segment.id
         retirementBlocked := false }, .ok segment.id) := by
    rw [UdpRecording.beginSegmentRetirement, idle, segments]
    rfl
  have several : spool.state.closed = true ∨ 2 ≤ (segment :: stored).length := by
    refine finished.imp_right fun nonempty => ?_
    have := length_pos_iff.mpr nonempty
    rw [length_cons]
    omega
  rw [begun]
  exact ⟨rfl, live.contents, rfl, live.read_le, live.read_nil, live.pending, live.segmentsBelow,
    live.cursorsBelow, live.nextSegmentId_lt, live.sequencesBelow, live.nextSequence_lt,
    live.active, live.issuedBefore, ⟨rfl, segment, rfl, rfl, rfl, several⟩, live.rests⟩

theorem retireCompletedFront (finished : ¬(stored = [] ∧ spool.state.closed = false)) :
    (UdpRecording.retireCompletedFront spool.state).2 = .ok (some segment.id) ∧
      Live codec directory
        { spool with state := (UdpRecording.retireCompletedFront spool.state).1 }
        (.retiring segment.id) issued (segment :: stored) segment.frames.length := by
  have idle : spool.state.retiringSegmentId = none := live.shape
  have closedOrMore : spool.state.closed = true ∨ stored ≠ [] := by
    by_cases last : stored = []
    · refine .inl (Bool.eq_true_of_not_eq_false fun isOpen => ?_)
      exact finished ⟨last, isOpen⟩
    · exact .inr last
  obtain ⟨begun, retiring⟩ := live.beginSegmentRetirement closedOrMore
  have delegated : UdpRecording.retireCompletedFront spool.state =
      ((UdpRecording.beginSegmentRetirement spool.state).1,
        (UdpRecording.beginSegmentRetirement spool.state).2.map some) := by
    rw [UdpRecording.retireCompletedFront, idle, live.segments]
    simp [memorySegments, frontSegment, if_neg finished]
  rw [delegated]
  refine ⟨?_, retiring⟩
  rw [begun]
  rfl

end

theorem validateRetiringSegment_eq
    (live : Live codec directory spool stage issued (segment :: stored) read)
    (isRetiring : spool.state.retiringSegmentId = some segment.id) :
    validateRetiringSegment spool.state segment.id = true := by
  rw [validateRetiringSegment, isRetiring, live.segments]
  simp [memorySegments, frontSegment]

theorem removeSegment (live : Live codec directory spool (.retiring segmentId) issued stored read) :
    Live codec (directory.apply (.removeSegment segmentId)) spool (.retired segmentId) issued
      stored read := by
  obtain ⟨isRetiring, segment, first, rfl, complete, finished⟩ := live.shape
  obtain ⟨_, rfl⟩ := head?_eq_some_iff.mp first
  exact ⟨live.contents, live.segments, live.read_le, live.read_nil, live.pending,
    live.segmentsBelow, live.cursorsBelow, live.nextSegmentId_lt, live.sequencesBelow,
    live.nextSequence_lt, live.active, live.issuedBefore,
    ⟨isRetiring, segment, first, rfl, complete, finished⟩, live.rests.removeSegment⟩

/-- Putting the segment back when its file cannot be deleted. -/
theorem restoreRetirement
    (live : Live codec directory spool (.retiring segmentId) issued stored read) :
    Live codec directory
      { spool with state := (UdpRecording.restoreRetirement spool.state segmentId).1 }
      .idle issued stored read := by
  obtain ⟨isRetiring, segment, first, rfl, _, _⟩ := live.shape
  obtain ⟨rest, rfl⟩ := head?_eq_some_iff.mp first
  have restored : UdpRecording.restoreRetirement spool.state segment.id =
      ({ spool.state with
         segments := memorySegments codec true read (segment :: rest)
         retiringSegmentId := none
         retirementBlocked := true }, .ok ()) := by
    rw [UdpRecording.restoreRetirement, if_pos (live.validateRetiringSegment_eq isRetiring),
      live.segments]
    rfl
  rw [restored]
  exact ⟨live.contents, rfl, live.read_le, live.read_nil, live.pending, live.segmentsBelow,
    live.cursorsBelow, live.nextSegmentId_lt, live.sequencesBelow, live.nextSequence_lt,
    live.active, live.issuedBefore, rfl, live.rests⟩

theorem Issued.tail (issued : Issued codec (segment :: stored) read entry) :
    Issued codec stored 0 entry where
  notLater := fun other member => issued.notLater other (mem_of_mem_tail member)
  inFront := fun other first sameId =>
    absurd sameId (issued.notLater other (mem_of_mem_head? first))

/-- The end of a retirement: the next segment comes to the front. -/
theorem finishRetirement (live : Live codec directory spool (.retired segmentId) issued stored read)
    (cursorRemoved : Bool) :
    ∃ segment rest, stored = segment :: rest ∧ read = segment.frames.length ∧
      Live codec
        (if cursorRemoved then directory.apply (.removeCursor segmentId) else directory)
        { spool with state := (commitRetirement spool.state segmentId).1 } .idle issued rest 0 := by
  obtain ⟨isRetiring, segment, first, rfl, rfl, finished⟩ := live.shape
  obtain ⟨rest, rfl⟩ := head?_eq_some_iff.mp first
  have committed : commitRetirement spool.state segment.id =
      ({ spool.state with
         segments := memorySegments codec true 0 rest
         retiringSegmentId := none
         retirementBlocked := false }, .ok ()) := by
    rw [commitRetirement, if_pos (live.validateRetiringSegment_eq isRetiring), live.segments,
      memorySegments_zero]
    rfl
  rw [committed]
  refine ⟨segment, rest, rfl, rfl, live.contents.tail, rfl, fun _ _ => Nat.zero_le _, fun _ => rfl,
    ?_, fun other member => live.segmentsBelow other (.tail _ member), ?_, live.nextSegmentId_lt,
    fun frame member => live.sequencesBelow frame (mem_append_right _ member),
    live.nextSequence_lt, ?_, ?_, rfl, ?_⟩
  · have pending := live.pending
    simp_all
  · intro cursor member
    apply live.cursorsBelow cursor
    cases cursorRemoved with
    | false => exact member
    | true => exact (OrderedTable.mem_erase.mp member).1
  · rintro _ rfl
    rcases finished with _ | long
    · simp_all
    · simp at long
  · intro entry member
    obtain ⟨before, below⟩ := live.issuedBefore entry member
    exact ⟨Issued.tail before, below⟩
  · cases cursorRemoved with
    | false => exact live.rests
    | true => exact live.rests.removeCursor segment.id (.inl rfl)

/-- Advancing the boundary in memory after the acknowledgement is recorded. -/
theorem commitAcknowledgement {acknowledgement : SpoolAcknowledgement}
    (live : Live codec directory spool (.acknowledging acknowledgement) issued stored read) :
    Live codec directory
      { spool with
        state := (UdpRecording.commitAcknowledgement spool.state acknowledgement).1 }
      (SpoolSystem.stageAfter (UdpRecording.commitAcknowledgement spool.state acknowledgement).2)
      issued stored (read + 1) := by
  obtain ⟨notRetiring, segment, frame, first, current, rfl⟩ := live.shape
  obtain ⟨rest, rfl⟩ := head?_eq_some_iff.mp first
  have inside := (List.getElem?_eq_some_iff.mp current).1
  have pending : framesSize codec ((storedFrames (segment :: rest)).drop read) =
      frame.size codec + framesSize codec ((storedFrames (segment :: rest)).drop (read + 1)) := by
    have allCurrent : (storedFrames (segment :: rest))[read]? = some frame := by
      rw [storedFrames_cons, getElem?_append_left inside]
      exact current
    obtain ⟨bound, atRead⟩ := List.getElem?_eq_some_iff.mp allCurrent
    rw [drop_eq_getElem_cons bound, atRead, framesSize_cons]
  have enough : ¬spool.state.pendingBytes <
      (currentEntry codec segment read frame).acknowledgement.frameBytes := by
    rw [live.pending, pending]
    simp [SpoolEntry.acknowledgement, currentEntry, SpoolFrame.entry]
  let settled : SpoolState :=
    { spool.state with
      segments := memorySegments codec true (read + 1) (segment :: rest)
      pendingBytes := framesSize codec ((storedFrames (segment :: rest)).drop (read + 1)) }
  have advanced : Live codec directory { spool with state := settled } .idle issued
      (segment :: rest) (read + 1) := by
    refine ⟨live.contents, rfl, ?_, by rintro ⟨⟩, rfl, live.segmentsBelow, live.cursorsBelow,
      live.nextSegmentId_lt, live.sequencesBelow, live.nextSequence_lt, live.active, ?_,
      notRetiring, live.rests⟩
    · intro other isFirst
      cases isFirst
      exact inside
    · intro entry member
      obtain ⟨before, below⟩ := live.issuedBefore entry member
      refine ⟨⟨before.notLater, ?_⟩, below⟩
      intro other isFirst sameId
      cases isFirst
      left
      rcases before.inFront segment rfl sameId with _ | ⟨_, stillCurrent, equal⟩
      · have next := @framesSize_take_succ codec _ _ _ current
        omega
      · rw [equal, endOffset_currentEntry stillCurrent]
  have computed : UdpRecording.commitAcknowledgement spool.state
      (currentEntry codec segment read frame).acknowledgement =
        if (settled.segments.head?.any fun segment => segment.readOffset = segment.length) ∧
            (1 < settled.segments.length ∨ settled.closed) then
          ((UdpRecording.beginSegmentRetirement settled).1,
            (UdpRecording.beginSegmentRetirement settled).2.map some)
        else (settled, .ok none) := by
    have nodes : (spool.state.segments.modifyHead fun node =>
        { node with readOffset :=
          (currentEntry codec segment read frame).acknowledgement.endOffset }) =
          memorySegments codec true (read + 1) (segment :: rest) := by
      have boundary := @endOffset_currentEntry codec _ _ _ current
      rw [live.segments]
      simp [memorySegments, frontSegment, SpoolEntry.acknowledgement, boundary, ReaderStage.holdsFront]
    have rest : spool.state.pendingBytes -
        (currentEntry codec segment read frame).acknowledgement.frameBytes =
          framesSize codec ((storedFrames (segment :: rest)).drop (read + 1)) := by
      rw [live.pending, pending]
      exact Nat.add_sub_cancel_left _ _
    rw [UdpRecording.commitAcknowledgement, live.checkAcknowledgement_current current]
    rw [if_neg enough, nodes, rest]
  rw [computed]
  split
  · rename_i retires
    obtain ⟨atEnd, finished⟩ := retires
    have complete : read + 1 = segment.frames.length := by
      by_contra notComplete
      obtain ⟨next, follows⟩ : ∃ next, segment.frames[read + 1]? = some next :=
        ⟨_, getElem?_eq_getElem (by omega)⟩
      have less := framesSize_take_lt live.segment_writable follows
      simp only [settled, memorySegments, frontSegment, head?_cons, Option.any_some,
        decide_eq_true_eq] at atEnd
      omega
    rw [complete] at advanced ⊢
    have several : settled.closed = true ∨ rest ≠ [] := by
      rcases finished with long | closed
      · right
        rintro rfl
        simp [settled] at long
      · exact .inl closed
    obtain ⟨begun, retiring⟩ := advanced.beginSegmentRetirement several
    rw [begun]
    exact retiring
  · exact advanced

end Live

end SprakCapture.UdpRecording
