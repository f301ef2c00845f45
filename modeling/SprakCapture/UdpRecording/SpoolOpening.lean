import SprakCapture.UdpRecording.SpoolReader

/-!
# Opening the UDP spool

Opening deletes cursor files without a segment, recovers every segment, deletes a first
segment that was acknowledged to its end, and creates a segment when none is left. At
whatever file operation it stops, the directory holds the same unacknowledged frames.
-/

namespace SprakCapture.UdpRecording

open Data List Data.OrderedTable Data.Outcome Data.Recorded Directory Recorded Recovery
open FileOperation (removeCursor)
open Recorded (meets_pure meets_bind)

/-- What opening a directory does to the segments in it. -/
inductive Recovers : List StoredSegment → Nat → List StoredSegment → Nat → Prop where
  | kept (stored : List StoredSegment) (read : Nat) : Recovers stored read stored read
  | dropped {segment : StoredSegment} (filled : segment.frames ≠ []) (stored : List StoredSegment) :
      Recovers (segment :: stored) segment.frames.length stored 0
  | restarted {segment : StoredSegment} (filled : segment.frames ≠ []) :
      Recovers [segment] segment.frames.length [⟨segment.id + 1, []⟩] 0
  | created : Recovers [] 0 [⟨1, []⟩] 0

/-- A directory that an interrupted opening may leave. -/
def Recovering (codec : SpoolCodec) (generation : String) (stored : List StoredSegment)
    (read : Nat) (directory : Directory) : Prop :=
  ∃ after count, Recovers stored read after count ∧ Rests codec directory generation after count

/-- Opening fails only once the segment numbers are used up. -/
def Exhausted (stored : List StoredSegment) (fault : Fault SpoolError) : Prop :=
  fault = .raised .segmentsExhausted ∧ ∃ segment ∈ stored, u64Limit ≤ segment.id + 2

section Cleanup

variable {codec : SpoolCodec} {directory : Directory} {generation : String}
  {stored : List StoredSegment} {read : Nat}

/-- Deleting cursors that belong to no segment. -/
theorem throughout_removeCursors {ids : List Nat}
    (rests : Rests codec directory generation stored read)
    (orphans : ∀ id ∈ ids, ∀ segment ∈ stored, segment.id ≠ id) :
    Throughout apply (Recovering codec generation stored read) directory
        (ids.map removeCursor) ∧
      Rests codec ((ids.map removeCursor).foldl apply directory) generation stored read := by
  induction ids generalizing directory with
  | nil => exact ⟨⟨stored, read, .kept stored read, rests⟩, rests⟩
  | cons id ids ih =>
    have removed := rests.removeCursor id (.inr (orphans id mem_cons_self))
    obtain ⟨throughout, final⟩ := ih removed fun other member => orphans other (.tail _ member)
    exact ⟨⟨⟨stored, read, .kept stored read, rests⟩, throughout⟩, final⟩

theorem mem_cursors_removeCursors {ids : List Nat} {cursor : Nat × Bytes} :
    cursor ∈ ((ids.map removeCursor).foldl apply directory).cursors.entries ↔
      cursor ∈ directory.cursors.entries ∧ cursor.1 ∉ ids := by
  induction ids generalizing directory with
  | nil => simp
  | cons _ ids ih =>
    simp [ih, apply, mem_erase, and_assoc]

/-- The numbers of the cursors that opening deletes first. -/
def orphanCursors (directory : Directory) : List Nat :=
  (directory.cursors.entries.filter fun cursor =>
    (directory.segments.get? cursor.1).isNone).map Prod.fst

theorem cleanupInterruptedCursorFiles_eq (directory : Directory) :
    cleanupInterruptedCursorFiles directory = (orphanCursors directory).map removeCursor := by
  simp [cleanupInterruptedCursorFiles, orphanCursors]

/-- The directory after the cursors without a segment are deleted. -/
def cleanedDirectory (directory : Directory) : Directory :=
  (cleanupInterruptedCursorFiles directory).foldl Directory.apply directory

/-- The cleanup leaves the cursors of stored segments and no others. -/
theorem cleanup (rests : Rests codec directory generation stored read) :
    Throughout apply (Recovering codec generation stored read) directory
        (cleanupInterruptedCursorFiles directory) ∧
      Rests codec (cleanedDirectory directory) generation stored read ∧
      ∀ cursor ∈ (cleanedDirectory directory).cursors.entries,
        ∃ segment ∈ stored, segment.id = cursor.1 := by
  have orphans : ∀ id ∈ orphanCursors directory, ∀ segment ∈ stored, segment.id ≠ id := by
    intro id member segment inside same
    obtain ⟨cursor, filtered, rfl⟩ := List.mem_map.mp member
    have absent := (mem_filter.mp filtered).2
    rw [← same, rests.get?_segment inside] at absent
    cases absent
  rw [cleanedDirectory, cleanupInterruptedCursorFiles_eq]
  obtain ⟨throughout, final⟩ := throughout_removeCursors rests orphans
  refine ⟨throughout, final, fun cursor member => ?_⟩
  obtain ⟨before, notOrphan⟩ := mem_cursors_removeCursors.mp member
  by_contra foreign
  apply notOrphan
  refine List.mem_map.mpr ⟨cursor, mem_filter.mpr ⟨before, ?_⟩, rfl⟩
  rw [rests.get?_segment_eq_none fun segment inside same => foreign ⟨segment, inside, same⟩]
  rfl

end Cleanup

section Segments

variable {codec : SpoolCodec} {directory : Directory} {generation : String}
  {segment : StoredSegment} {stored : List StoredSegment} {read : Nat}

theorem loadPersistedCursor_front
    (rests : Rests codec directory generation (segment :: stored) read) :
    ∃ operations, loadPersistedCursor codec directory (framesBytes codec segment.frames) generation
        segment.id (framesSize codec segment.frames) =
          ⟨operations, .ok (framesSize codec (segment.frames.take read))⟩ ∧
      (operations = [] ∨ operations = [.removeCursor segment.id] ∧ read = 0) := by
  have fits := rests.contents.fits segment mem_cons_self
  have numbered := rests.contents.numbered segment mem_cons_self
  have writable : ∀ frame ∈ segment.frames, frame.Writable codec :=
    rests.contents.segment_writable mem_cons_self
  rcases rests.boundary with ⟨content, found, inside, last, lastFrame, rfl⟩ | ⟨rfl, foreign⟩
  · refine ⟨[], ?_, .inl rfl⟩
    have bound := @framesSize_take_le codec segment.frames read
    have sizeLimit : framesSize codec (segment.frames.take read) < 2 ^ 64 := by
      unfold maximumSegmentBytes at fits
      omega
    have positive : 0 < framesSize codec (segment.frames.take read) := by
      have member := mem_of_getLast? lastFrame
      have counted := @length_le_framesSize _ (segment.frames.take read) fun frame inside =>
        writable frame (mem_of_mem_take inside)
      have := length_pos_of_mem member
      omega
    have offset : (UInt64.ofNat (framesSize codec (segment.frames.take read))).toNat =
        framesSize codec (segment.frames.take read) := UInt64.toNat_ofNat_of_lt' sizeLimit
    have sameId : (UInt64.ofNat segment.id).toNat = segment.id :=
      UInt64.toNat_ofNat_of_lt' numbered
    have validated : validateCursorBoundary codec (framesBytes codec segment.frames)
        { recordingGeneration := generation
          segmentId := UInt64.ofNat segment.id
          sequence := last.header.sequence
          readOffset := UInt64.ofNat (framesSize codec (segment.frames.take read)) } = .ok () := by
      have split : framesBytes codec segment.frames =
          framesBytes codec (segment.frames.take read ++ segment.frames.drop read) := by
        rw [take_append_drop]
      grind [validateCursorBoundary_eq]
    rw [loadPersistedCursor, found]
    simp only [codec.decodeCursor_encodeCursor, ne_eq, not_true_eq_false, validated, offset]
    rw [raiseIf_of_not _ (by omega)]
    rfl
  · cases found : directory.cursors.get? segment.id with
    | none => exact ⟨[], by rw [loadPersistedCursor, found]; rfl, .inl rfl⟩
    | some content =>
      obtain ⟨_, _, different, -, last, -, rfl⟩ := foreign content found
      refine ⟨[.removeCursor segment.id], ?_, .inr ⟨rfl, rfl⟩⟩
      rw [loadPersistedCursor, found]
      simp only [codec.decodeCursor_encodeCursor, ne_eq, different]
      rfl

/-- The number after those of the visited segments. -/
def nextIdAfter (visited : List StoredSegment) : Nat :=
  match visited.getLast? with
  | none => 1
  | some segment => segment.id + 1

/-- What a recovery says about the segments it has visited and those of them it kept. -/
structure Visited (codec : SpoolCodec) (recovery : Recovery) (visited kept : List StoredSegment)
    (read : Nat) : Prop where
  segments : recovery.segments = memorySegments codec true read kept
  read_le : ∀ segment ∈ kept.head?, read ≤ segment.frames.length
  read_nil : kept = [] → read = 0
  pending : recovery.pendingBytes = framesSize codec ((storedFrames kept).drop read)
  isSuffix : kept <:+ visited
  next : recovery.nextSegmentId = nextIdAfter visited
  next_lt : recovery.nextSegmentId < u64Limit
  below : ∀ segment ∈ visited, segment.id < recovery.nextSegmentId
  sequencesBelow : ∀ frame ∈ storedFrames visited,
    frame.header.sequence.toNat < recovery.nextSequence
  sequence_lt : recovery.nextSequence < u64Limit

/-- Frames in ascending order come before the sequence after them. -/
theorem lt_sequenceAfter {frames : List SpoolFrame} {frame : SpoolFrame}
    (ordered : frames.Pairwise fun left right =>
      left.header.sequence.toNat < right.header.sequence.toNat) (member : frame ∈ frames) :
    frame.header.sequence.toNat < sequenceAfter frames := by
  obtain ⟨_, last, rfl⟩ :=
    (eq_nil_or_concat frames).resolve_left (ne_nil_of_mem member)
  rw [concat_eq_append] at *
  rw [sequenceAfter, getLast?_concat]
  rcases mem_append.mp member with before | _
  · have less := (pairwise_append.mp ordered).2.2 frame before last mem_cons_self
    exact Nat.lt_succ_of_lt less
  simp_all

theorem sequenceAfter_lt {frames : List SpoolFrame}
    (writable : ∀ frame ∈ frames, frame.Writable codec) : sequenceAfter frames < u64Limit := by
  unfold sequenceAfter
  split
  · exact Nat.one_lt_two_pow (by decide)
  · rename_i last isLast
    exact (writable last (mem_of_getLast? isLast)).sequence_lt

variable {recovery : Recovery} {visited kept : List StoredSegment}

/-- A recovery goes on with a segment that it keeps. -/
theorem Visited.concat (known : Visited codec recovery visited kept read)
    (contents : Contents codec (visited ++ [segment])) (room : segment.id + 1 < u64Limit)
    {boundary : Nat} (boundaryInside : boundary ≤ segment.frames.length)
    (isFirst : kept ≠ [] → boundary = 0) (generations : Finset String) :
    Visited codec
      { segments := recovery.segments ++
          [{ id := segment.id, fileHeld := true, length := framesSize codec segment.frames,
             readOffset := framesSize codec (segment.frames.take boundary) }]
        pendingBytes := recovery.pendingBytes +
          (framesSize codec segment.frames - framesSize codec (segment.frames.take boundary))
        nextSequence := max recovery.nextSequence (sequenceAfter segment.frames)
        nextSegmentId := segment.id + 1
        processGenerations := generations }
      (visited ++ [segment]) (kept ++ [segment]) (read + boundary) := by
  have splitSize := @framesSize_take_add_drop codec segment.frames boundary
  have ordered := contents.ordered
  rw [storedFrames_append, pairwise_append] at ordered
  have unread : framesSize codec segment.frames -
      framesSize codec (segment.frames.take boundary) =
        framesSize codec (segment.frames.drop boundary) := by omega
  have isLast : (visited ++ [segment]).getLast? = some segment := getLast?_concat
  have writable : ∀ frame ∈ segment.frames, frame.Writable codec :=
    contents.segment_writable (mem_append_right _ mem_cons_self)
  refine ⟨?_, ?_, ?_, ?_, ?_, ?_, room, ?_, ?_, ?_⟩
  · cases kept with
    | nil =>
      rw [known.segments, known.read_nil rfl]
      simp [memorySegments, frontSegment]
    | cons first kept =>
      rw [memorySegments_concat (cons_ne_nil _ _), known.segments, isFirst (cons_ne_nil _ _)]
      simp [unreadSegment]
  · intro first isFront
    cases kept with
    | nil =>
      cases isFront
      rw [known.read_nil rfl]
      omega
    | cons other kept =>
      cases isFront
      have inside := known.read_le first rfl
      rw [isFirst (cons_ne_nil _ _)]
      exact inside
  · intro empty
    exact absurd empty (by simp)
  · rw [unread, known.pending]
    cases kept with
    | nil =>
      rw [known.read_nil rfl]
      simp
    | cons first kept =>
      have inside := known.read_le first rfl
      have whole : read ≤ (storedFrames (first :: kept)).length := by
        rw [storedFrames_cons, length_append]
        omega
      rw [isFirst (cons_ne_nil _ _), storedFrames_append]
      show _ = framesSize codec ((storedFrames (first :: kept) ++ storedFrames [segment]).drop read)
      rw [drop_append_of_le_length whole]
      simp
  · obtain ⟨before, rfl⟩ := known.isSuffix
    exact ⟨before, by simp⟩
  · rw [nextIdAfter, isLast]
  · intro other member
    rcases mem_append.mp member with old | isNew
    · have less := (pairwise_append.mp contents.ascending).2.2 other old segment mem_cons_self
      exact Nat.lt_succ_of_lt less
    · rw [mem_singleton.mp isNew]
      exact Nat.lt_succ_self _
  · intro frame member
    rw [storedFrames_append] at member
    rcases mem_append.mp member with old | isNew
    · exact (known.sequencesBelow frame old).trans_le (le_max_left _ _)
    have inSegment : frame ∈ segment.frames := by simpa using isNew
    have segmentOrdered : segment.frames.Pairwise fun left right =>
        left.header.sequence.toNat < right.header.sequence.toNat := by
      simpa using ordered.2.1
    exact (lt_sequenceAfter segmentOrdered inSegment).trans_le (le_max_right _ _)
  · exact max_lt known.sequence_lt (sequenceAfter_lt writable)

/-- The visited segments and one more stay far below the limit of a length. -/
theorem Visited.pending_lt (known : Visited codec recovery visited kept read)
    (contents : Contents codec (visited ++ [segment])) {unread : Nat}
    (bound : unread ≤ framesSize codec segment.frames) :
    ¬u64Limit ≤ recovery.pendingBytes + unread := by
  have total := contents.total
  have splitSize := @framesSize_take_add_drop codec (storedFrames kept) read
  obtain ⟨_, rfl⟩ := known.isSuffix
  grind [maximumSpoolBytes, maximumSegmentBytes, u64Limit, known.pending, storedFrames_append,
    framesSize_append, storedFrames_cons]

variable {during : Directory → Prop} {state : Directory}

/-- Recovering a segment without a cursor keeps it. -/
theorem recoverSegment_later {visited kept all : List StoredSegment}
    (known : Visited codec recovery visited kept read)
    (contents : Contents codec (visited ++ [segment])) (member : segment ∈ all)
    (unmarked : directory.cursors.get? segment.id = none) (holds : during state) :
    Meets apply during state
      (recoverSegment codec directory generation recovery
        (segment.id, framesBytes codec segment.frames))
      (fun recovered final =>
        final = state ∧ Visited codec recovered (visited ++ [segment]) (kept ++ [segment]) read)
      (Exhausted all) := by
  have writable : ∀ frame ∈ segment.frames, frame.Writable codec :=
    contents.segment_writable (mem_append_right _ mem_cons_self)
  have loaded : loadPersistedCursor codec directory (framesBytes codec segment.frames) generation
      segment.id (framesSize codec segment.frames) = ofOutcome (.ok 0) := by
    rw [loadPersistedCursor, unmarked]
    rfl
  have noOverflow := known.pending_lt contents (Nat.sub_le (framesSize codec segment.frames) 0)
  have unread : ¬(0 = framesSize codec segment.frames ∧ 0 < framesSize codec segment.frames) := by
    omega
  rw [recoverSegment, scanExistingFrames_eq writable, ofOutcome_ok_bind, loaded,
    ofOutcome_ok_bind, raiseIf_of_not _ noOverflow]
  by_cases room : u64Limit ≤ segment.id + 1
  · rw [Outcome.raiseIf, if_pos room]
    refine meets_error holds ⟨rfl, segment, member, ?_⟩
    omega
  · rw [raiseIf_of_not _ room, if_neg unread]
    refine meets_pure holds ⟨rfl, ?_⟩
    exact known.concat contents (Nat.lt_of_not_le room) (Nat.zero_le _) (fun _ => rfl) _

/-- Recovering the segments behind the first keeps them all. -/
theorem recoverSegments_later {visited kept rest all : List StoredSegment}
    (known : Visited codec recovery visited kept read) (contents : Contents codec (visited ++ rest))
    (members : ∀ segment ∈ rest, segment ∈ all)
    (unmarked : ∀ segment ∈ rest, directory.cursors.get? segment.id = none) (holds : during state) :
    Meets apply during state
      ((rest.map fun segment => (segment.id, framesBytes codec segment.frames)).foldlM
        (recoverSegment codec directory generation) recovery)
      (fun recovered final =>
        final = state ∧ Visited codec recovered (visited ++ rest) (kept ++ rest) read)
      (Exhausted all) := by
  induction rest generalizing recovery visited kept with
  | nil =>
    refine meets_pure holds ⟨rfl, ?_⟩
    rw [append_nil, append_nil]
    exact known
  | cons segment rest =>
    have regroup : ∀ segments : List StoredSegment,
        segments ++ segment :: rest = segments ++ [segment] ++ rest := by simp
    rw [regroup] at contents
    have first : Contents codec (visited ++ [segment]) := contents.initial
    refine meets_bind (recoverSegment_later known first
      (members segment mem_cons_self) (unmarked segment mem_cons_self) holds) ?_
    grind

/-- The recovery before any segment is visited. -/
def Recovery.initial : Recovery where
  segments := []
  pendingBytes := 0
  nextSequence := 1
  nextSegmentId := 1
  processGenerations := ∅

theorem visited_initial : Visited codec initial [] [] 0 where
  segments := rfl
  read_le := nofun
  read_nil := fun _ => rfl
  pending := rfl
  isSuffix := suffix_rfl
  next := rfl
  next_lt := Nat.one_lt_two_pow (by decide)
  below := nofun
  sequencesBelow := nofun
  sequence_lt := Nat.one_lt_two_pow (by decide)

/-- The first segment is gone once it was read to its end. -/
theorem visited_dropped (contents : Contents codec [segment]) (room : segment.id + 1 < u64Limit)
    (generations : Finset String) :
    Visited codec
      { segments := initial.segments
        pendingBytes := initial.pendingBytes +
          (framesSize codec segment.frames - framesSize codec segment.frames)
        nextSequence := max initial.nextSequence (sequenceAfter segment.frames)
        nextSegmentId := segment.id + 1
        processGenerations := generations } [segment] [] 0 := by
  have kept := (visited_initial).concat contents room
    (Nat.le_refl segment.frames.length) (fun nonempty => absurd rfl nonempty) generations
  refine ⟨rfl, nofun, fun _ => rfl, ?_, nil_suffix, kept.next, room,
    kept.below, kept.sequencesBelow, kept.sequence_lt⟩
  rw [Nat.sub_self]
  rfl

variable {failing : Fault SpoolError → Prop}

/-- The boundary of the first segment is loaded without losing it. -/
theorem loadPersistedCursor_meets
    (rests : Rests codec directory generation (segment :: stored) read) :
    Meets apply (Recovering codec generation (segment :: stored) read) directory
      (loadPersistedCursor codec directory (framesBytes codec segment.frames) generation segment.id
        (framesSize codec segment.frames))
      (fun readOffset middle => readOffset = framesSize codec (segment.frames.take read) ∧
        Rests codec middle generation (segment :: stored) read ∧
        ∀ cursor ∈ middle.cursors.entries, cursor ∈ directory.cursors.entries)
      failing := by
  have holds : Recovering codec generation (segment :: stored) read directory :=
    ⟨_, _, .kept _ _, rests⟩
  obtain ⟨_, loaded, deletes⟩ := loadPersistedCursor_front rests
  rw [loaded]
  rcases deletes with rfl | ⟨rfl, unread⟩
  · exact meets_pure holds ⟨rfl, rests, fun _ member => member⟩
  have removed := rests.removeCursor segment.id (.inl unread)
  refine ⟨⟨holds, _, _, .kept _ _, removed⟩, ?_, nofun⟩
  intro readOffset equal
  cases equal
  exact ⟨rfl, removed, fun cursor member => (mem_erase.mp member).1⟩

/-- Deleting a recovered segment leaves the segments behind it. -/
theorem removeRecoveredSegment_meets (snapshot : Directory)
    (rests : Rests codec directory generation (segment :: stored) segment.frames.length)
    (filled : segment.frames ≠ []) :
    Meets apply
      (Recovering codec generation (segment :: stored) segment.frames.length) directory
      (removeRecoveredSegment snapshot segment.id)
      (fun _ final => Rests codec final generation stored 0 ∧
        ∀ cursor ∈ final.cursors.entries, cursor ∈ directory.cursors.entries)
      failing := by
  have holds : Recovering codec generation (segment :: stored) segment.frames.length directory :=
    ⟨_, _, .kept _ _, rests⟩
  have removed := rests.removeSegment
  have removedHolds : Recovering codec generation (segment :: stored) segment.frames.length
      (directory.apply (.removeSegment segment.id)) :=
    ⟨_, _, .dropped filled stored, removed⟩
  refine meets_perform_bind holds ?_
  split
  · have cleaned := removed.removeCursor segment.id (.inl rfl)
    refine meets_perform removedHolds ⟨_, _, .dropped filled stored, cleaned⟩
      ⟨cleaned, fun cursor member => ?_⟩
    exact (mem_erase.mp member).1
  · exact meets_pure removedHolds ⟨removed, fun _ member => member⟩

theorem recoverSegment_front (rests : Rests codec directory generation (segment :: stored) read) :
    Meets apply (Recovering codec generation (segment :: stored) read) directory
      (recoverSegment codec directory generation initial
        (segment.id, framesBytes codec segment.frames))
      (fun recovered final => ∃ kept count, Visited codec recovered [segment] kept count ∧
        Recovers (segment :: stored) read (kept ++ stored) count ∧
        Rests codec final generation (kept ++ stored) count ∧
        ∀ cursor ∈ final.cursors.entries, cursor ∈ directory.cursors.entries)
      (Exhausted (segment :: stored)) := by
  have contents : Contents codec [segment] := Contents.initial rests.contents
  have writable : ∀ frame ∈ segment.frames, frame.Writable codec :=
    contents.segment_writable mem_cons_self
  have noOverflow := (visited_initial).pending_lt contents
    (Nat.sub_le (framesSize codec segment.frames) (framesSize codec (segment.frames.take read)))
  rw [recoverSegment, scanExistingFrames_eq writable, ofOutcome_ok_bind]
  refine meets_bind (loadPersistedCursor_meets rests) ?_
  rintro _ middle ⟨rfl, middleRests, subset⟩
  have holds : Recovering codec generation (segment :: stored) read middle :=
    ⟨_, _, .kept _ _, middleRests⟩
  have inside := middleRests.boundary.read_le
  rw [raiseIf_of_not _ noOverflow, ofOutcome_ok_bind]
  by_cases room : u64Limit ≤ segment.id + 1
  · rw [Outcome.raiseIf, if_pos room]
    refine meets_error holds ⟨rfl, segment, mem_cons_self, ?_⟩
    omega
  rw [raiseIf_of_not _ room, ofOutcome_ok_bind]
  split
  · have filled : segment.frames ≠ [] := by
      intro _
      simp_all
    obtain rfl : read = segment.frames.length := by
      by_contra notComplete
      obtain ⟨next, follows⟩ : ∃ next, segment.frames[read]? = some next :=
        ⟨_, getElem?_eq_getElem (by omega)⟩
      have less := framesSize_take_lt writable follows
      omega
    refine meets_bind (removeRecoveredSegment_meets directory middleRests filled) ?_
    rintro - final ⟨finalRests, finalSubset⟩
    refine meets_pure ⟨_, _, .dropped filled stored, finalRests⟩
      ⟨[], 0, ?_, .dropped filled stored, finalRests,
        fun cursor member => subset cursor (finalSubset cursor member)⟩
    rw [take_length]
    exact visited_dropped contents (Nat.lt_of_not_le room) _
  · refine meets_pure holds ⟨[segment], read, ?_, .kept _ _, middleRests, subset⟩
    have kept := (visited_initial).concat contents (Nat.lt_of_not_le room) inside
      (fun nonempty => absurd rfl nonempty)
      (initial.processGenerations ∪ generationsOf codec segment.frames)
    rw [Nat.zero_add] at kept
    exact kept

/-- Recovering all segments. -/
theorem recoverSegments_meets (rests : Rests codec directory generation stored read) :
    Meets apply (Recovering codec generation stored read) directory
      (directory.segments.entries.foldlM (recoverSegment codec directory generation) initial)
      (fun recovered final => ∃ kept count, Visited codec recovered stored kept count ∧
        Recovers stored read kept count ∧ Rests codec final generation kept count ∧
        ∀ cursor ∈ final.cursors.entries, cursor ∈ directory.cursors.entries)
      (Exhausted stored) := by
  have holds : Recovering codec generation stored read directory := ⟨_, _, .kept _ _, rests⟩
  rw [rests.files]
  cases stored with
  | nil =>
    have unread : read = 0 := rests.boundary
    rw [unread] at rests holds ⊢
    exact meets_pure holds ⟨[], 0, visited_initial, .kept _ _, rests, fun _ member => member⟩
  | cons _ stored =>
    refine meets_bind (recoverSegment_front rests) ?_
    rintro recovered _ ⟨kept, count, known, recovers, middleRests, _⟩
    refine (recoverSegments_later known rests.contents
      (fun _ member => mem_cons_of_mem _ member) rests.unmarked
      ⟨_, _, recovers, middleRests⟩).weaken ?_
    grind

/-- The spool that a recovery leads to, with its segments and the next number. -/
def Recovery.spool (recovery : Recovery) (generation : String) (segments : List SpoolSegment)
    (nextSegmentId : Nat) : UdpRecordingSpool where
  recordingGeneration := generation
  state :=
    { segments := segments
      nextSegmentId := nextSegmentId
      nextSequence := recovery.nextSequence
      pendingBytes := recovery.pendingBytes
      closed := false
      retiringSegmentId := none
      retirementBlocked := false
      processGenerations := recovery.processGenerations }

/-- A spool opened on segments that were kept. -/
theorem Visited.live {count : Nat} (known : Visited codec recovery visited kept count)
    (nonempty : kept ≠ []) (rests : Rests codec directory generation kept count)
    (cursors : ∀ cursor ∈ directory.cursors.entries, ∃ segment ∈ visited, segment.id = cursor.1) :
    Live codec directory (recovery.spool generation recovery.segments recovery.nextSegmentId)
      .idle [] kept count := by
  refine ⟨rests.contents, known.segments, known.read_le, known.read_nil, known.pending, ?_, ?_,
    known.next_lt, ?_, known.sequence_lt, fun _ => nonempty,
    (fun _ member => nomatch member), rfl, rests⟩
  · exact fun segment member => known.below segment (known.isSuffix.subset member)
  · intro cursor member
    obtain ⟨segment, inside, same⟩ := cursors cursor member
    rw [← same]
    exact known.below segment inside
  · intro frame member
    obtain ⟨segment, inside, inFrames⟩ := mem_storedFrames.mp member
    exact known.sequencesBelow frame
      (mem_storedFrames_of_mem (known.isSuffix.subset inside) inFrames)

/-- With no segment kept, opening goes on with a new one. -/
theorem Recovers.create (recovers : Recovers stored read [] 0) :
    Recovers stored read [⟨nextIdAfter stored, []⟩] 0 := by
  cases recovers with
  | kept => exact .created
  | dropped filled => exact .restarted filled

/-- A spool opened on a new segment. -/
theorem Visited.live_created {visited : List StoredSegment}
    (known : Visited codec recovery visited [] 0) (room : recovery.nextSegmentId + 1 < u64Limit)
    (rests : Rests codec directory generation [⟨recovery.nextSegmentId, []⟩] 0)
    (cursors : ∀ cursor ∈ directory.cursors.entries, ∃ segment ∈ visited, segment.id = cursor.1) :
    Live codec directory
      (recovery.spool generation
        [{ id := recovery.nextSegmentId, fileHeld := true, length := 0, readOffset := 0 }]
        (recovery.nextSegmentId + 1)) .idle [] [⟨recovery.nextSegmentId, []⟩] 0 := by
  refine ⟨rests.contents, rfl, fun _ _ => Nat.zero_le _, fun _ => rfl, known.pending, ?_, ?_, room,
    (fun _ member => nomatch member), known.sequence_lt, fun _ => cons_ne_nil _ _,
    (fun _ member => nomatch member), rfl, rests⟩
  · intro segment member
    rw [mem_singleton.mp member]
    exact Nat.lt_succ_self _
  · intro cursor member
    obtain ⟨segment, inside, same⟩ := cursors cursor member
    rw [← same]
    exact Nat.lt_succ_of_lt (known.below segment inside)

/-- Creating a segment and going on. -/
theorem createSegment_bind {Value : Type} {after : Value → Directory → Prop} {id : Nat}
    {next : SpoolSegment → FileProgram Value} (absent : directory.segments.get? id = none)
    (holds : during state)
    (rest : Meets apply during (state.apply (.createSegment id))
      (next { id := id, fileHeld := true, length := 0, readOffset := 0 }) after failing) :
    Meets apply during state (createSegment directory id >>= next) after failing := by
  have program : createSegment directory id =
      ⟨[.createSegment id], .ok { id := id, fileHeld := true, length := 0, readOffset := 0 }⟩ := by
    rw [createSegment, absent]
    rfl
  rw [program]
  exact ⟨⟨holds, rest.throughout⟩, rest.ends, rest.fails⟩

/-- Opening a directory: wherever it is cut short the directory holds the same
unacknowledged frames, and the spool that it returns holds them too. -/
theorem createWithSegmentRemover_meets (rests : Rests codec directory generation stored read)
    (named : generation ≠ "") :
    Meets apply (Recovering codec generation stored read) directory
      (createWithSegmentRemover codec directory generation)
      (fun spool final => spool.recordingGeneration = generation ∧
        spool.state.closed = false ∧ spool.state.retirementBlocked = false ∧
        ∃ after count, Recovers stored read after count ∧
          Live codec final spool .idle [] after count)
      (Exhausted stored) := by
  obtain ⟨throughout, cleaned, cursors⟩ := cleanup rests
  rw [createWithSegmentRemover, raiseIf_of_not _ named, ofOutcome_ok_bind]
  refine meets_performAll_bind throughout ?_
  refine meets_bind (recoverSegments_meets cleaned) ?_
  rintro recovery final ⟨kept, count, known, recovers, finalRests, subset⟩
  have holds : Recovering codec generation stored read final := ⟨_, _, recovers, finalRests⟩
  have finalCursors : ∀ cursor ∈ final.cursors.entries, ∃ segment ∈ stored,
      segment.id = cursor.1 := fun cursor member => cursors cursor (subset cursor member)
  split
  · rename_i empty
    obtain rfl : kept = [] := by
      rw [known.segments] at empty
      exact length_eq_zero_iff.mp (by rw [← length_memorySegments kept, empty]; rfl)
    obtain rfl := known.read_nil rfl
    have absent : (cleanedDirectory directory).segments.get? recovery.nextSegmentId = none :=
      cleaned.get?_segment_eq_none fun segment member => (known.below segment member).ne
    have noCursor : final.cursors.get? recovery.nextSegmentId = none := by
      rw [get?_eq_none]
      intro cursor member
      obtain ⟨segment, inside, same⟩ := finalCursors cursor member
      rw [← same]
      exact (known.below segment inside).ne
    have created := finalRests.createSegment (by simp) known.next_lt (by simp) noCursor
    have restarts := recovers.create
    rw [← known.next] at restarts
    have createdHolds : Recovering codec generation stored read
        (final.apply (.createSegment recovery.nextSegmentId)) := ⟨_, _, restarts, created⟩
    refine createSegment_bind absent holds ?_
    by_cases room : u64Limit ≤ recovery.nextSegmentId + 1
    · rw [Outcome.raiseIf, if_pos room]
      refine meets_error createdHolds ⟨rfl, ?_⟩
      rw [known.next, nextIdAfter] at room
      split at room
      · exact absurd room (by decide)
      grind
    · rw [raiseIf_of_not _ room]
      refine meets_pure createdHolds ⟨rfl, rfl, rfl, _, 0, restarts, ?_⟩
      exact known.live_created (Nat.lt_of_not_le room) created finalCursors
  · refine meets_pure holds ⟨rfl, rfl, rfl, kept, count, recovers, ?_⟩
    refine known.live ?_ finalRests finalCursors
    rintro rfl
    rename_i nonempty
    exact nonempty known.segments

end Segments

end SprakCapture.UdpRecording
