import SprakCapture.UdpRecording.SampleCodec
import SprakCapture.UdpRecording.SpoolFailures

/-!
# The UDP spool as a queue

`backlog` parses the unread part of every segment of an open spool. In every run the
acknowledged frames followed by the backlog are the appended frames, reading returns the
first entry of the backlog, and opening the directory again brings the backlog back.
-/

namespace SprakCapture.UdpRecording

open Data List SpoolSystem

/-- The entries in a file between two offsets. -/
def readEntries (codec : SpoolCodec) (file : Bytes) (segmentId length : Nat) :
    Nat → Nat → Outcome SpoolError (List SpoolEntry)
  | 0, _ => .error .diverged
  | turns + 1, offset =>
    if offset < length then do
      let entry ← readFrame codec file segmentId offset
      let later ← readEntries codec file segmentId length turns entry.endOffset
      pure (entry :: later)
    else
      pure []

/-- The entries that are still to be read, in order. -/
def backlog (codec : SpoolCodec) (directory : Directory) :
    List SpoolSegment → Outcome SpoolError (List SpoolEntry)
  | [] => pure []
  | segment :: segments => do
      let entries ←
        if segment.readOffset < segment.length then
          Outcome.expect (directory.segments.get? segment.id) >>= fun file =>
            readEntries codec file segment.id segment.length (segment.length + 1) segment.readOffset
        else
          pure []
      let later ← backlog codec directory segments
      pure (entries ++ later)

variable {stored : List StoredSegment} {segment : StoredSegment} {read : Nat}
  {issued : List SpoolEntry} {stage : ReaderStage}

section Backlogs

variable {codec : SpoolCodec} {directory : Directory}

/-- The entries of consecutive frames. -/
def entriesFrom (codec : SpoolCodec) (segmentId : Nat) : Nat → List SpoolFrame → List SpoolEntry
  | _, [] => []
  | offset, frame :: frames =>
    frame.entry codec segmentId offset ::
      entriesFrom codec segmentId (offset + frame.size codec) frames

theorem map_placed_entriesFrom (segmentId offset : Nat) (frames : List SpoolFrame) :
    (entriesFrom codec segmentId offset frames).map SpoolEntry.placed =
      StoredSegment.placed ⟨segmentId, frames⟩ := by
  induction frames generalizing offset with
  | nil => rfl
  | cons _ frames ih =>
    rw [entriesFrom, map_cons, ih]
    rfl

theorem readEntries_eq {file : Bytes} {segmentId length turns offset : Nat}
    {frames : List SpoolFrame} (writable : ∀ frame ∈ frames, frame.Writable codec)
    (content : file.drop offset = framesBytes codec frames)
    (stop : length = offset + framesSize codec frames) (enough : frames.length < turns) :
    readEntries codec file segmentId length turns offset =
      .ok (entriesFrom codec segmentId offset frames) := by
  induction frames generalizing offset turns with
  | nil =>
    obtain ⟨turns, rfl⟩ : ∃ count, turns = count + 1 := ⟨turns - 1, by simp at enough; omega⟩
    rw [framesSize_nil] at stop
    rw [readEntries, if_neg (by omega)]
    rfl
  | cons frame frames ih =>
    obtain ⟨turns, rfl⟩ : ∃ count, turns = count + 1 := ⟨turns - 1, by omega⟩
    have current := writable frame mem_cons_self
    have positive := size_pos current
    rw [framesSize_cons] at stop
    rw [length_cons] at enough
    have later := @ih turns _
      (fun other member => writable other (.tail _ member)) (drop_past_frame content) (by omega)
      (by omega)
    rw [readEntries, if_pos (by omega), current.readFrame_eq content]
    show (readEntries codec file segmentId length turns (offset + frame.size codec) >>= _) = _
    rw [later]
    rfl

/-- The unread part of one segment. -/
theorem readEntries_segment (writable : ∀ frame ∈ segment.frames, frame.Writable codec) :
    readEntries codec (framesBytes codec segment.frames) segment.id
        (framesSize codec segment.frames) (framesSize codec segment.frames + 1)
        (framesSize codec (segment.frames.take read)) =
      .ok (entriesFrom codec segment.id (framesSize codec (segment.frames.take read))
        (segment.frames.drop read)) := by
  have split := @framesSize_take_add_drop codec segment.frames read
  have counted := length_le_framesSize writable
  refine readEntries_eq (fun frame member => writable frame (mem_of_mem_drop member)) ?_
    split.symm ?_
  · have dropped := @drop_framesBytes codec (segment.frames.take read) (segment.frames.drop read)
    simp_all
  · rw [length_drop]
    omega

/-- A segment with frames to read, or without. -/
theorem unread_or_complete {segment : StoredSegment} {read : Nat}
    (writable : ∀ frame ∈ segment.frames, frame.Writable codec) :
    framesSize codec (segment.frames.take read) < framesSize codec segment.frames ∨
      ¬framesSize codec (segment.frames.take read) < framesSize codec segment.frames ∧
        segment.frames.drop read = [] := by
  rcases Nat.lt_or_ge read segment.frames.length with inside | complete
  · exact .inl (framesSize_take_lt writable (getElem?_eq_getElem inside))
  · refine .inr ⟨?_, drop_eq_nil_of_le complete⟩
    rw [take_of_length_le complete]
    exact Nat.lt_irrefl _

/-- The backlog of a first segment and of those behind it. -/
theorem backlog_cons {segment : StoredSegment} {read : Nat} {held : Bool}
    {segments : List SpoolSegment} {later : List SpoolEntry}
    (writable : ∀ frame ∈ segment.frames, frame.Writable codec)
    (file : read < segment.frames.length →
      directory.segments.get? segment.id = some (framesBytes codec segment.frames))
    (rest : backlog codec directory segments = .ok later) :
    backlog codec directory (frontSegment codec held segment read :: segments) =
      .ok (entriesFrom codec segment.id (framesSize codec (segment.frames.take read))
        (segment.frames.drop read) ++ later) := by
  rw [backlog, rest]
  simp only [frontSegment]
  rcases @unread_or_complete _ _ read writable with unread | ⟨complete, nothing⟩
  · have inside : read < segment.frames.length := by
      by_contra beyond
      rw [take_of_length_le (by omega)] at unread
      exact Nat.lt_irrefl _ unread
    simp only [unread, file inside, Outcome.expect_some, Outcome.ok_bind,
      readEntries_segment writable]
    rfl
  · simp only [complete, nothing]
    rfl

/-- The entries of segments of which nothing is read. -/
def storedEntries (codec : SpoolCodec) (stored : List StoredSegment) : List SpoolEntry :=
  stored.flatMap fun segment => entriesFrom codec segment.id 0 segment.frames

theorem map_placed_storedEntries (stored : List StoredSegment) :
    (storedEntries codec stored).map SpoolEntry.placed = placedFrames stored := by
  induction stored with
  | nil => rfl
  | cons _ stored ih =>
    rw [storedEntries, flatMap_cons, map_append, map_placed_entriesFrom, placedFrames_cons, ← ih]
    rfl

theorem backlog_unread (contents : Contents codec stored)
    (files : ∀ segment ∈ stored,
      directory.segments.get? segment.id = some (framesBytes codec segment.frames)) :
    backlog codec directory (stored.map (unreadSegment codec)) =
      .ok (storedEntries codec stored) := by
  induction stored with
  | nil => rfl
  | cons segment stored ih =>
    have rest := ih contents.tail fun other member => files other (.tail _ member)
    exact @backlog_cons _ _ _ 0 _ _ _
      (contents.segment_writable mem_cons_self)
      (fun _ => files segment mem_cons_self) rest

variable {spool : UdpRecordingSpool}

/-- The backlog of an open spool is what it has not read. -/
theorem Live.backlog_eq (live : Live codec directory spool stage issued (segment :: stored) read) :
    backlog codec directory spool.state.segments =
      .ok (entriesFrom codec segment.id (framesSize codec (segment.frames.take read))
        (segment.frames.drop read) ++ storedEntries codec stored) := by
  have rests := live.rests
  have files : (read < segment.frames.length →
      directory.segments.get? segment.id = some (framesBytes codec segment.frames)) ∧
        ∀ other ∈ stored,
          directory.segments.get? other.id = some (framesBytes codec other.frames) := by
    cases stage with
    | retired segmentId =>
      obtain ⟨-, _, isFirst, -, _, -⟩ := live.shape
      cases isFirst
      refine ⟨fun _ => ?_, fun other member => rests.get?_segment member⟩
      omega
    | _ =>
      exact ⟨fun _ => rests.get?_segment mem_cons_self,
        fun other member => rests.get?_segment (.tail _ member)⟩
  rw [live.segments]
  exact backlog_cons live.segment_writable files.1 (backlog_unread live.contents.tail files.2)

/-- The frames of the backlog are the stored frames behind the boundary. -/
theorem Live.map_placed_backlog (live : Live codec directory spool stage issued stored read) :
    ∃ entries, backlog codec directory spool.state.segments = .ok entries ∧
      entries.map SpoolEntry.placed = (placedFrames stored).drop read := by
  cases stored with
  | nil =>
    rw [live.segments, live.read_nil rfl]
    exact ⟨[], rfl, rfl⟩
  | cons segment stored =>
    have inside := live.read_le segment rfl
    refine ⟨_, live.backlog_eq, ?_⟩
    rw [map_append, map_placed_entriesFrom, map_placed_storedEntries, placedFrames_cons,
      drop_append_of_le_length (by simpa using inside)]
    simp [StoredSegment.placed]

end Backlogs

/-! ### First in, first out -/

/-- What makes the spool a queue, in one state of the system. -/
structure Fifo (codec : SpoolCodec) (generation : String) (system : SpoolSystem) : Prop where
  /-- The acknowledged frames are the first of the appended frames. -/
  acknowledgedFirst : system.acknowledged <+: system.appended
  /-- The backlog of an open spool is the rest of them. -/
  pending : ∀ spool, system.spool = some spool → system.stage = .idle →
    ∃ entries, backlog codec system.directory spool.state.segments = .ok entries ∧
      system.appended = system.acknowledged ++ entries.map SpoolEntry.placed
  /-- An entry that reading returns is the first of the backlog. -/
  reads : ∀ spool entry, system.spool = some spool → system.stage = .idle →
    readNextPass codec system.directory spool.state = .found entry →
      ∃ later, backlog codec system.directory spool.state.segments = .ok (entry :: later)
  /-- Reading returns the first entry of the backlog, at once or after it has retired the
  first segment, unless a deletion has failed since the spool was opened. -/
  yields : ∀ spool entry later, system.spool = some spool → system.stage = .idle →
    spool.state.retirementBlocked = false →
    backlog codec system.directory spool.state.segments = .ok (entry :: later) →
      (system.step codec generation .readNext).issued = system.issued ++ [entry] ∨
      ∀ cursorRemoved, ((SpoolSystem.machine codec generation).runFrom system
        [.readNext, .removeSegment true, .finishRetirement cursorRemoved, .readNext]).issued =
          system.issued ++ [entry]
  /-- Opening the directory brings back exactly the frames that are not acknowledged,
  unless the segment numbers are used up. -/
  reopens : system.spool = none → generation ≠ "" →
    (∀ file ∈ system.directory.segments.entries, file.1 + 2 < u64Limit) →
      ∃ spool entries, (system.step codec generation .reopen).spool = some spool ∧
        backlog codec (system.step codec generation .reopen).directory spool.state.segments =
          .ok entries ∧
        system.appended = system.acknowledged ++ entries.map SpoolEntry.placed

variable {state : SpoolState} {later : List SpoolEntry} {frame : SpoolFrame} {entry : SpoolEntry}
  {segmentId : Nat}

section Fifo

variable {codec : SpoolCodec} {generation : String} {system : SpoolSystem}
  {spool : UdpRecordingSpool}

section

variable (accounted : Accounted codec generation system)
include accounted

/-- What an idle open spool has to do with its history. -/
theorem Accounted.live (opened : system.spool = some spool) (idle : system.stage = .idle) :
    spool.recordingGeneration = generation ∧ ∃ stored read gone,
      Live codec system.directory spool .idle system.issued stored read ∧
        History system.appended system.acknowledged stored read gone := by
  obtain ⟨stored, read, gone, layout, history⟩ := accounted
  rw [Layout, opened] at layout
  obtain ⟨sameGeneration, count, rfl, live⟩ := layout
  rw [idle] at live history
  exact ⟨sameGeneration, stored, count, gone, live, history⟩

omit accounted in
theorem History.appended_split {appended acknowledged gone : List PlacedFrame}
    (history : History appended acknowledged stored read gone) :
    appended = acknowledged ++ (placedFrames stored).drop read := by
  rw [history.appended_eq, history.acknowledged_eq, append_assoc, take_append_drop]

theorem Accounted.acknowledged_prefix : system.acknowledged <+: system.appended := by
  obtain ⟨_, _, _, -, history⟩ := accounted
  exact ⟨_, history.appended_split.symm⟩

theorem Accounted.pending (opened : system.spool = some spool) (idle : system.stage = .idle) :
    ∃ entries, backlog codec system.directory spool.state.segments = .ok entries ∧
      system.appended = system.acknowledged ++ entries.map SpoolEntry.placed := by
  obtain ⟨-, _, _, _, live, history⟩ := accounted.live opened idle
  obtain ⟨entries, parsed, placed⟩ := live.map_placed_backlog
  refine ⟨entries, parsed, ?_⟩
  rw [placed]
  exact history.appended_split

omit accounted in
/-- The first entry of the backlog is the first unread frame. -/
theorem Live.backlog_current {directory : Directory}
    (live : Live codec directory spool stage issued (segment :: stored) read)
    (current : segment.frames[read]? = some frame) :
    ∃ later, backlog codec directory spool.state.segments =
      .ok (currentEntry codec segment read frame :: later) := by
  have whole := live.backlog_eq
  obtain ⟨inside, atRead⟩ := List.getElem?_eq_some_iff.mp current
  rw [drop_eq_getElem_cons inside, atRead] at whole
  exact ⟨_, whole⟩

theorem Accounted.reads {entry : SpoolEntry} (opened : system.spool = some spool)
    (idle : system.stage = .idle)
    (found : readNextPass codec system.directory spool.state = .found entry) :
    ∃ later, backlog codec system.directory spool.state.segments = .ok (entry :: later) := by
  obtain ⟨-, stored, read, _, live, -⟩ := accounted.live opened idle
  cases stored with
  | nil =>
    rw [live.readNextPass_nil] at found
    cases found
  | cons segment stored =>
    rcases Nat.lt_or_ge read segment.frames.length with inside | complete
    · have current : segment.frames[read]? = some segment.frames[read] :=
        getElem?_eq_getElem inside
      rw [live.readNextPass_current current] at found
      cases found
      exact live.backlog_current current
    · obtain rfl : read = segment.frames.length :=
        Nat.le_antisymm (live.read_le segment rfl) complete
      rw [live.readNextPass_complete] at found
      grind

end

/-- A spool whose first segment has frames to read issues the first of them. -/
theorem issued_readNext (opened : system.spool = some spool) (idle : system.stage = .idle)
    {entry : SpoolEntry} (found : readNextPass codec system.directory spool.state = .found entry) :
    (system.step codec generation .readNext).issued = system.issued ++ [entry] := by
  simp [step, opened, idle, readNext, found]

/-- The segment behind a first one that is read has frames, if any segment has. -/
theorem Contents.next_filled {segment next : StoredSegment}
    (contents : Contents codec (segment :: next :: stored))
    (unread : placedFrames (next :: stored) ≠ []) : next.frames ≠ [] := by
  cases stored with
  | nil =>
    intro empty
    apply unread
    simp [StoredSegment.placed, empty]
  | cons _ stored => exact contents.filled next (.tail _ (.head _))

/-- An idle spool issues the first unread frame of its first segment. -/
theorem Live.issued_current
    (live : Live codec system.directory spool .idle system.issued (segment :: stored) read)
    (opened : system.spool = some spool) (idle : system.stage = .idle)
    (current : segment.frames[read]? = some frame) :
    ((machine codec generation).runFrom system [.readNext]).issued =
      system.issued ++ [currentEntry codec segment read frame] :=
  @issued_readNext _ generation _ _ opened idle _ (live.readNextPass_current current)

theorem step_removeSegment (opened : system.spool = some spool)
    (retiring : system.stage = .retiring segmentId) :
    (machine codec generation).step system (.removeSegment true) =
      { system with
        directory := system.directory.apply (.removeSegment segmentId)
        stage := .retired segmentId } := by
  simp [machine, step, opened, retiring, removeSegment]

theorem step_finishRetirement (opened : system.spool = some spool)
    (retired : system.stage = .retired segmentId) (cursorRemoved : Bool) :
    (machine codec generation).step system (.finishRetirement cursorRemoved) =
      system.finishRetirement spool segmentId cursorRemoved := by
  simp [machine, step, opened, retired]

theorem Live.issued_after_retirement
    (live : Live codec system.directory spool .idle system.issued (segment :: stored)
      segment.frames.length) (opened : system.spool = some spool) (idle : system.stage = .idle)
    (unblocked : spool.state.retirementBlocked = false)
    (behind : entry :: later = storedEntries codec stored) (cursorRemoved : Bool) :
    ((machine codec generation).runFrom system
      [.readNext, .removeSegment true, .finishRetirement cursorRemoved, .readNext]).issued =
        system.issued ++ [entry] := by
  obtain ⟨next, rest, rfl⟩ : ∃ next rest, stored = next :: rest := by
    cases stored with
    | nil => cases behind
    | cons next rest => exact ⟨next, rest, rfl⟩
  have filled : next.frames ≠ [] := by
    refine live.contents.next_filled ?_
    grind [map_placed_storedEntries]
  obtain ⟨frame, frames, nextFrames⟩ := exists_cons_of_ne_nil filled
  have current : next.frames[0]? = some frame := by rw [nextFrames]; rfl
  have isFirst : entry = currentEntry codec next 0 frame := by
    rw [storedEntries, flatMap_cons, nextFrames] at behind
    exact (List.cons.inj behind).1
  have finished : ¬(next :: rest = [] ∧ spool.state.closed = false) := by simp
  obtain ⟨begun, retiring⟩ := live.retireCompletedFront finished
  have passes : readNextPass codec system.directory spool.state = .retires := by
    rw [live.readNextPass_complete, unblocked]
    simp
  obtain ⟨_, _, split, -, ready⟩ := retiring.removeSegment.finishRetirement cursorRemoved
  cases split
  have first : (machine codec generation).step system .readNext =
      { system.withState spool (UdpRecording.retireCompletedFront spool.state).1 with
        stage := .retiring segment.id } := by
    simp [machine, step, opened, idle, readNext, passes, begun, stageAfter]
  rw [Machine.runFrom_cons, first, Machine.runFrom_cons, Machine.runFrom_cons, isFirst]
  exact ready.issued_current rfl rfl current

theorem Accounted.yields (accounted : Accounted codec generation system)
    (opened : system.spool = some spool) (idle : system.stage = .idle)
    (unblocked : spool.state.retirementBlocked = false)
    (parsed : backlog codec system.directory spool.state.segments = .ok (entry :: later)) :
    (system.step codec generation .readNext).issued = system.issued ++ [entry] ∨
      ∀ cursorRemoved, ((machine codec generation).runFrom system
        [.readNext, .removeSegment true, .finishRetirement cursorRemoved, .readNext]).issued =
          system.issued ++ [entry] := by
  obtain ⟨-, stored, read, _, live, -⟩ := accounted.live opened idle
  cases stored with
  | nil =>
    rw [live.segments] at parsed
    cases parsed
  | cons segment stored =>
    rcases Nat.lt_or_ge read segment.frames.length with inside | complete
    · left
      have current : segment.frames[read]? = some segment.frames[read] :=
        getElem?_eq_getElem inside
      obtain ⟨_, first⟩ := live.backlog_current current
      rw [parsed] at first
      cases first
      exact issued_readNext opened idle (live.readNextPass_current current)
    · right
      intro cursorRemoved
      obtain rfl : read = segment.frames.length :=
        Nat.le_antisymm (live.read_le segment rfl) complete
      have whole := live.backlog_eq
      rw [parsed, drop_length] at whole
      exact live.issued_after_retirement opened idle unblocked (Except.ok.inj whole) cursorRemoved

/-- Unless the segment numbers are used up, a directory at rest is opened. -/
theorem Rests.opens (rests : Rests codec system.directory generation stored read)
    (named : generation ≠ "")
    (room : ∀ file ∈ system.directory.segments.entries, file.1 + 2 < u64Limit) :
    ∃ spool final count, (system.reopen codec generation).spool = some spool ∧
      Live codec (system.reopen codec generation).directory spool .idle [] final count := by
  have met := createWithSegmentRemover_meets rests named
  cases result : (createWithSegmentRemover codec system.directory generation).result with
  | error fault =>
    obtain ⟨-, segment, member, exhausted⟩ := met.fails fault result
    have below := room (segment.id, framesBytes codec segment.frames)
      (by rw [rests.files]; exact List.mem_map_of_mem member)
    exact absurd below (Nat.not_lt.mpr exhausted)
  | ok spool =>
    obtain ⟨-, -, -, final, count, -, live⟩ := met.ends spool result
    refine ⟨spool, final, count, ?_, ?_⟩
    · simp [reopen, result, Except.toOption]
    · simpa [reopen] using live

theorem Accounted.reopens (accounted : Accounted codec generation system)
    (closed : system.spool = none) (named : generation ≠ "")
    (room : ∀ file ∈ system.directory.segments.entries, file.1 + 2 < u64Limit) :
    ∃ spool entries, (system.step codec generation .reopen).spool = some spool ∧
      backlog codec (system.step codec generation .reopen).directory spool.state.segments =
        .ok entries ∧
      system.appended = system.acknowledged ++ entries.map SpoolEntry.placed := by
  have next := accounted_step accounted .reopen
  obtain ⟨_, _, _, layout, -⟩ := accounted
  rw [Layout, closed] at layout
  have reopened : system.step codec generation .reopen = system.reopen codec generation := by
    rw [step, closed]
    rfl
  rw [reopened] at next ⊢
  obtain ⟨spool, _, _, opened, -⟩ := layout.opens named room
  obtain ⟨entries, parsed, split⟩ := next.pending opened rfl
  exact ⟨spool, entries, opened, parsed, split⟩

/-! ### Deletions that fail -/

theorem writeFrame_retirementBlocked (state : SpoolState) (frame : SpoolFrame) :
    (writeFrame codec state frame).state.retirementBlocked = state.retirementBlocked := by
  grind [writeFrame]

theorem appendCapturedEvent_retirementBlocked (directory : Directory) (state : SpoolState)
    (captured : CapturedUdpDatagram) :
    (appendCapturedEvent codec directory state captured).state.retirementBlocked =
      state.retirementBlocked := by
  grind [appendCapturedEvent, rotateAndWrite, writeFrame_retirementBlocked]

theorem beginSegmentRetirement_unblocked (unblocked : state.retirementBlocked = false) :
    (beginSegmentRetirement state).1.retirementBlocked = false := by
  grind [beginSegmentRetirement]

theorem retireCompletedFront_unblocked (unblocked : state.retirementBlocked = false) :
    (retireCompletedFront state).1.retirementBlocked = false := by
  grind [retireCompletedFront, beginSegmentRetirement_unblocked]

theorem commitAcknowledgement_unblocked (acknowledgement : SpoolAcknowledgement)
    (unblocked : state.retirementBlocked = false) :
    (commitAcknowledgement state acknowledgement).1.retirementBlocked = false := by
  grind [commitAcknowledgement, beginSegmentRetirement_unblocked]

theorem commitRetirement_unblocked (segmentId : Nat) (unblocked : state.retirementBlocked = false) :
    (commitRetirement state segmentId).1.retirementBlocked = false := by
  rw [commitRetirement]
  split
  · rfl
  · exact unblocked

/-- No deletion has failed since the spool was opened. -/
def SpoolSystem.Unblocked (system : SpoolSystem) : Prop :=
  ∀ spool, system.spool = some spool → spool.state.retirementBlocked = false

theorem SpoolSystem.unblocked_of_closed (closed : system.spool = none) : system.Unblocked := by
  intro spool opened
  rw [closed] at opened
  cases opened

theorem SpoolSystem.unblocked_of_open (opened : system.spool = some spool)
    (unblocked : spool.state.retirementBlocked = false) : system.Unblocked := by
  intro _ same
  rw [opened] at same
  cases same
  exact unblocked

variable (accounted : Accounted codec generation system)
include accounted

theorem Accounted.reopen_unblocked (closed : system.spool = none) :
    (system.reopen codec generation).Unblocked := by
  intro spool opened
  have result : (createWithSegmentRemover codec system.directory generation).result =
      .ok spool := by
    revert opened
    cases result : (createWithSegmentRemover codec system.directory generation).result with
    | error | ok => simp [reopen, result, Except.toOption]
  by_cases named : generation = ""
  · subst named
    cases result
  · obtain ⟨_, _, _, layout, -⟩ := accounted
    rw [Layout, closed] at layout
    exact ((createWithSegmentRemover_meets layout named).ends spool result).2.2.1

/-- Only a deletion that fails blocks retirement. -/
theorem Accounted.unblocked_step (unblocked : system.Unblocked) {action : SpoolAction}
    (deletes : action ≠ .removeSegment false) :
    (system.step codec generation action).Unblocked := by
  cases opened : system.spool with
  | none =>
    cases action with
    | reopen =>
      rw [step, opened]
      exact accounted.reopen_unblocked opened
    | reopenInterrupted operations =>
      rw [step, opened]
      exact unblocked_of_closed rfl
    | crash => exact unblocked_of_closed rfl
    | _ =>
      simp only [step, opened]
      exact unblocked
  | some spool =>
    have now := unblocked spool opened
    cases action with
    | reopen | reopenInterrupted operations => grind [step]
    | append captured =>
      simp only [step, opened]
      refine unblocked_of_open rfl ?_
      exact (appendCapturedEvent_retirementBlocked _ _ _).trans now
    | appendInterrupted captured =>
      simp only [step, opened]
      exact unblocked_of_closed rfl
    | readNext =>
      simp only [step, opened]
      cases idle : system.stage <;> try exact unblocked
      simp only [readNext]
      split <;> try exact unblocked
      exact unblocked_of_open rfl (retireCompletedFront_unblocked now)
    | acknowledge =>
      simp only [step]
      split <;> try exact unblocked
      simp only [acknowledge]
      split <;> try exact unblocked
      split <;> exact unblocked
    | commitAcknowledgement =>
      simp only [step, opened]
      cases stage : system.stage <;> try exact unblocked
      exact unblocked_of_open rfl (commitAcknowledgement_unblocked _ now)
    | removeSegment succeeds =>
      cases succeeds with
      | false => exact absurd rfl deletes
      | true =>
        simp only [step, opened]
        cases stage : system.stage <;> exact unblocked
    | finishRetirement =>
      simp only [step, opened]
      cases stage : system.stage <;> try exact unblocked
      exact unblocked_of_open rfl (commitRetirement_unblocked _ now)
    | close =>
      simp only [step, opened]
      exact unblocked_of_open rfl now
    | crash => exact unblocked_of_closed rfl

theorem Accounted.fifo :
    Fifo codec generation system where
  acknowledgedFirst := accounted.acknowledged_prefix
  pending := fun _ opened idle => accounted.pending opened idle
  reads := fun _ _ opened idle found => accounted.reads opened idle found
  yields := fun _ _ _ opened idle unblocked parsed =>
    accounted.yields opened idle unblocked parsed
  reopens := fun closed named room => accounted.reopens closed named room

omit accounted

/-- In every run the spool is a queue, and reading is blocked only once a deletion has
failed. -/
theorem spoolFifo_run (codec : SpoolCodec) (generation : String) (actions : List SpoolAction) :
    Fifo codec generation ((SpoolSystem.machine codec generation).run actions) ∧
      ((∀ action ∈ actions, action ≠ .removeSegment false) →
        ((SpoolSystem.machine codec generation).run actions).Unblocked) := by
  refine ⟨(accounted_run codec generation actions).fifo, ?_⟩
  intro _
  induction actions using List.reverseRecOn with
  | nil => exact unblocked_of_closed rfl
  | append_singleton actions action =>
    rw [Machine.run_concat]
    refine (accounted_run codec generation actions).unblocked_step ?_ ?_
    · simp_all
    simp_all

theorem map_frame_placedFrames (stored : List StoredSegment) :
    (placedFrames stored).map PlacedFrame.frame = storedFrames stored := by
  induction stored with
  | nil => rfl
  | cons segment stored ih =>
    rw [placedFrames_cons, map_append, ih]
    simp [StoredSegment.placed, storedFrames, Function.comp_def]

end Fifo

end SprakCapture.UdpRecording
