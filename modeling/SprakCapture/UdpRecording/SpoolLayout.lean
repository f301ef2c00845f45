import SprakCapture.UdpRecording.Spool

/-!
# What a spool directory holds

`Rests` relates the bytes of a directory to the frames in them: the segment files in
ascending order, each the encoding of its frames, and a cursor that marks some frames
of the first segment as read. The lemmas below follow `Rests` through every file
operation that the spool performs, in the circumstances in which it performs it.
-/

namespace SprakCapture.UdpRecording

open Data List Data.OrderedTable Directory
open OrderedTable (get?_erase get?_insert)

/-- A segment file, seen as the frames in it. -/
structure StoredSegment where
  id : Nat
  frames : List SpoolFrame

/-- The frames of a segment with the number of the segment. -/
def StoredSegment.placed (segment : StoredSegment) : List PlacedFrame :=
  segment.frames.map fun frame => ⟨segment.id, frame⟩

/-- The frames of some segments in order. -/
def storedFrames (stored : List StoredSegment) : List SpoolFrame :=
  stored.flatMap StoredSegment.frames

/-- The frames of some segments in order, with the numbers of their segments. -/
def placedFrames (stored : List StoredSegment) : List PlacedFrame :=
  stored.flatMap StoredSegment.placed

variable {frame : SpoolFrame}

section Frames

variable {segment : StoredSegment} {stored front : List StoredSegment}

@[simp] theorem storedFrames_nil : storedFrames [] = [] := rfl

@[simp] theorem storedFrames_cons (segment : StoredSegment) (stored : List StoredSegment) :
    storedFrames (segment :: stored) = segment.frames ++ storedFrames stored := rfl

@[simp] theorem storedFrames_append (front stored : List StoredSegment) :
    storedFrames (front ++ stored) = storedFrames front ++ storedFrames stored :=
  flatMap_append

@[simp] theorem placedFrames_nil : placedFrames [] = [] := rfl

@[simp] theorem placedFrames_cons (segment : StoredSegment) (stored : List StoredSegment) :
    placedFrames (segment :: stored) = segment.placed ++ placedFrames stored := rfl

@[simp] theorem placedFrames_append (front stored : List StoredSegment) :
    placedFrames (front ++ stored) = placedFrames front ++ placedFrames stored :=
  flatMap_append

@[simp] theorem StoredSegment.length_placed (segment : StoredSegment) :
    segment.placed.length = segment.frames.length :=
  length_map _

theorem mem_storedFrames :
    frame ∈ storedFrames stored ↔ ∃ segment ∈ stored, frame ∈ segment.frames :=
  mem_flatMap

theorem mem_storedFrames_of_mem (member : segment ∈ stored) (inside : frame ∈ segment.frames) :
    frame ∈ storedFrames stored :=
  mem_storedFrames.mpr ⟨segment, member, inside⟩

end Frames

/-- Segments as the spool writes them. -/
structure Contents (codec : SpoolCodec) (stored : List StoredSegment) : Prop where
  writable : ∀ frame ∈ storedFrames stored, frame.Writable codec
  fits : ∀ segment ∈ stored, framesSize codec segment.frames ≤ maximumSegmentBytes
  numbered : ∀ segment ∈ stored, segment.id < u64Limit
  ascending : stored.Pairwise fun left right => left.id < right.id
  /-- Only the last segment may be empty. -/
  filled : ∀ segment ∈ stored.dropLast, segment.frames ≠ []
  ordered : (storedFrames stored).Pairwise fun left right =>
    left.header.sequence.toNat < right.header.sequence.toNat
  /-- The read part of the first segment stays on disk beside the unread frames. -/
  total : framesSize codec (storedFrames stored) ≤ maximumSpoolBytes + maximumSegmentBytes

namespace Contents

variable {codec : SpoolCodec} {segment last : StoredSegment} {stored front : List StoredSegment}

theorem nil : Contents codec [] where
  writable := nofun
  fits := nofun
  numbered := nofun
  ascending := .nil
  filled := nofun
  ordered := .nil
  total := Nat.zero_le _

theorem tail (contents : Contents codec (segment :: stored)) : Contents codec stored where
  writable := fun frame member =>
    contents.writable frame (mem_append_right _ member)
  fits := fun other member => contents.fits other (.tail _ member)
  numbered := fun other member => contents.numbered other (.tail _ member)
  ascending := (pairwise_cons.mp contents.ascending).2
  filled := by
    intro other member
    apply contents.filled other
    cases stored with
    | nil => cases member
    | cons _ stored => exact .tail _ member
  ordered := (pairwise_append.mp contents.ordered).2.1
  total := by
    have bound := contents.total
    rw [storedFrames_cons, framesSize_append] at bound
    omega

/-- The first segments of a spool, without those behind them. -/
theorem initial (contents : Contents codec (front ++ stored)) : Contents codec front where
  writable := fun frame member =>
    contents.writable frame (by rw [storedFrames_append]; exact mem_append_left _ member)
  fits := fun other member => contents.fits other (mem_append_left _ member)
  numbered := fun other member => contents.numbered other (mem_append_left _ member)
  ascending := (pairwise_append.mp contents.ascending).1
  filled := by
    intro other member
    apply contents.filled other
    cases stored with
    | nil =>
      rw [append_nil]
      exact member
    | cons _ stored =>
      rw [dropLast_append_of_ne_nil (cons_ne_nil _ _)]
      exact mem_append_left _ (dropLast_subset _ member)
  ordered := by
    have ordered := contents.ordered
    rw [storedFrames_append] at ordered
    exact (pairwise_append.mp ordered).1
  total := by
    have bound := contents.total
    rw [storedFrames_append, framesSize_append] at bound
    omega

theorem id_lt (contents : Contents codec (segment :: stored)) {other : StoredSegment}
    (member : other ∈ stored) : segment.id < other.id :=
  (pairwise_cons.mp contents.ascending).1 other member

theorem segment_writable (contents : Contents codec stored) (member : segment ∈ stored) :
    ∀ frame ∈ segment.frames, frame.Writable codec :=
  fun frame inside => contents.writable frame (mem_storedFrames_of_mem member inside)

theorem concat (contents : Contents codec stored) {id : Nat}
    (above : ∀ segment ∈ stored, segment.id < id) (limit : id < u64Limit)
    (filled : ∀ segment ∈ stored, segment.frames ≠ []) :
    Contents codec (stored ++ [⟨id, []⟩]) where
  writable := by simpa using contents.writable
  fits := by
    intro segment member
    rcases mem_append.mp member with old | new
    · exact contents.fits segment old
    · rw [mem_singleton.mp new]
      exact Nat.zero_le _
  numbered := by
    intro segment member
    rcases mem_append.mp member with old | new
    · exact contents.numbered segment old
    · rw [mem_singleton.mp new]
      exact limit
  ascending := by
    refine pairwise_append.mpr ⟨contents.ascending, pairwise_singleton _ _, ?_⟩
    intro segment member _ new
    rw [mem_singleton.mp new]
    exact above segment member
  filled := by
    rw [dropLast_concat]
    exact filled
  ordered := by simpa using contents.ordered
  total := by simpa using contents.total

theorem extend (contents : Contents codec (front ++ [last])) (writable : frame.Writable codec)
    (fits : framesSize codec last.frames + frame.size codec ≤ maximumSegmentBytes)
    (later : ∀ other ∈ storedFrames (front ++ [last]),
      other.header.sequence.toNat < frame.header.sequence.toNat)
    (total : framesSize codec (storedFrames (front ++ [last])) + frame.size codec ≤
      maximumSpoolBytes + maximumSegmentBytes) :
    Contents codec (front ++ [⟨last.id, last.frames ++ [frame]⟩]) := by
  have frames : storedFrames (front ++ [⟨last.id, last.frames ++ [frame]⟩]) =
      storedFrames (front ++ [last]) ++ [frame] := by simp
  refine ⟨?_, ?_, ?_, ?_, ?_, ?_, ?_⟩
  · rw [frames]
    intro other member
    rcases mem_append.mp member with old | new
    · exact contents.writable other old
    · rw [mem_singleton.mp new]
      exact writable
  · intro segment member
    rcases mem_append.mp member with old | new
    · exact contents.fits segment (mem_append_left _ old)
    simp_all
  · intro segment member
    rcases mem_append.mp member with old | new
    · exact contents.numbered segment (mem_append_left _ old)
    · rw [mem_singleton.mp new]
      exact contents.numbered last (mem_append_right _ mem_cons_self)
  · obtain ⟨_, -, _⟩ := pairwise_append.mp contents.ascending
    grind
  · have filled := contents.filled
    simp_all
  · rw [frames]
    refine pairwise_append.mpr ⟨contents.ordered, pairwise_singleton _ _, ?_⟩
    simp_all
  · rw [frames, framesSize_append]
    simpa using total

end Contents

/-- The cursor content that marks the first frames of a segment as read. -/
def Marks (codec : SpoolCodec) (generation : String) (segment : StoredSegment) (read : Nat)
    (content : Bytes) : Prop :=
  read ≤ segment.frames.length ∧
    ∃ last, (segment.frames.take read).getLast? = some last ∧
      content = codec.encodeCursor
        { recordingGeneration := generation
          segmentId := UInt64.ofNat segment.id
          sequence := last.header.sequence
          readOffset := UInt64.ofNat (framesSize codec (segment.frames.take read)) }

/-- How many frames of the first segment are read, for one generation. A cursor of another
generation marks none. -/
def Boundary (codec : SpoolCodec) (cursors : OrderedTable Nat Bytes) (generation : String) :
    List StoredSegment → Nat → Prop
  | [], read => read = 0
  | segment :: _, read =>
    (∃ content, cursors.get? segment.id = some content ∧
      Marks codec generation segment read content) ∨
    read = 0 ∧ ∀ content, cursors.get? segment.id = some content →
      ∃ other count, other ≠ generation ∧ Marks codec other segment count content

/-- The directory holds these segments, of which the first is read up to a boundary. -/
structure Rests (codec : SpoolCodec) (directory : Directory) (generation : String)
    (stored : List StoredSegment) (read : Nat) : Prop where
  contents : Contents codec stored
  files : directory.segments.entries =
    stored.map fun segment => (segment.id, framesBytes codec segment.frames)
  unmarked : ∀ segment ∈ stored.tail, directory.cursors.get? segment.id = none
  boundary : Boundary codec directory.cursors generation stored read

section Boundaries

variable {codec : SpoolCodec} {generation : String} {cursors other : OrderedTable Nat Bytes}
  {segment last : StoredSegment} {stored front : List StoredSegment} {read : Nat} {content : Bytes}

/-- A cursor keeps its meaning when frames are appended to its segment. -/
theorem Marks.extend (marks : Marks codec generation segment read content)
    (frames : List SpoolFrame) :
    Marks codec generation ⟨segment.id, segment.frames ++ frames⟩ read content := by
  obtain ⟨inside, last, lastFrame, equal⟩ := marks
  have sameFrames : (segment.frames ++ frames).take read = segment.frames.take read :=
    take_append_of_le_length inside
  refine ⟨?_, last, ?_, ?_⟩
  · rw [length_append]
    omega
  · rw [sameFrames]
    exact lastFrame
  · rw [sameFrames]
    exact equal

theorem Boundary.read_le (boundary : Boundary codec cursors generation (segment :: stored) read) :
    read ≤ segment.frames.length := by
  rcases boundary with ⟨_, -, marks⟩ | ⟨rfl, -⟩
  · exact marks.1
  · exact Nat.zero_le _

theorem boundary_zero (none : ∀ segment ∈ stored.head?, cursors.get? segment.id = none) :
    Boundary codec cursors generation stored 0 := by
  cases stored with
  | nil => rfl
  | cons segment stored =>
    refine .inr ⟨rfl, fun _ found => ?_⟩
    rw [none segment rfl] at found
    cases found

theorem Boundary.congr (boundary : Boundary codec cursors generation stored read)
    (same : ∀ segment ∈ stored.head?, other.get? segment.id = cursors.get? segment.id) :
    Boundary codec other generation stored read := by
  cases stored with
  | nil => exact boundary
  | cons segment stored =>
    grind [Boundary]

/-- The same directory, read by another generation. -/
theorem Boundary.regenerate (boundary : Boundary codec cursors generation stored read)
    (otherGeneration : String) : ∃ count, Boundary codec cursors otherGeneration stored count := by
  cases stored with
  | nil => exact ⟨0, rfl⟩
  | cons segment stored =>
    have marked : ∀ content, cursors.get? segment.id = some content →
        ∃ writer count, Marks codec writer segment count content := by
      intro content found
      rcases boundary with ⟨_, _, marks⟩ | ⟨-, foreign⟩
      · grind
      · obtain ⟨writer, count, -, marks⟩ := foreign content found
        exact ⟨writer, count, marks⟩
    by_cases own : ∃ content count, cursors.get? segment.id = some content ∧
        Marks codec otherGeneration segment count content
    · obtain ⟨content, count, found, marks⟩ := own
      exact ⟨count, .inl ⟨content, found, marks⟩⟩
    · refine ⟨0, .inr ⟨rfl, fun content found => ?_⟩⟩
      grind

end Boundaries

theorem Directory.cursors_writeFrame (directory : Directory) (segmentId offset : Nat)
    (bytes : Bytes) :
    (directory.apply (.writeFrame segmentId offset bytes)).cursors = directory.cursors := by
  simp only [apply]
  split <;> rfl

namespace Rests

variable {codec : SpoolCodec} {directory : Directory} {generation : String}
  {segment last : StoredSegment} {stored front : List StoredSegment} {read : Nat}

section

variable (rests : Rests codec directory generation stored read)
include rests

theorem regenerate (otherGeneration : String) :
    ∃ count, Rests codec directory otherGeneration stored count := by
  obtain ⟨count, boundary⟩ := rests.boundary.regenerate otherGeneration
  exact ⟨count, rests.contents, rests.files, rests.unmarked, boundary⟩

theorem get?_segment (member : segment ∈ stored) :
    directory.segments.get? segment.id = some (framesBytes codec segment.frames) := by
  rw [get?_eq_some, rests.files]
  exact List.mem_map_of_mem member

/-- A segment file belongs to a stored segment. -/
theorem get?_segment_eq_none {id : Nat} (absent : ∀ segment ∈ stored, segment.id ≠ id) :
    directory.segments.get? id = none := by
  rw [get?_eq_none, rests.files]
  intro _ member
  obtain ⟨segment, inside, rfl⟩ := List.mem_map.mp member
  exact absent segment inside

/-- Deleting a cursor that marks nothing. -/
theorem removeCursor (id : Nat) (unread : read = 0 ∨ ∀ segment ∈ stored, segment.id ≠ id) :
    Rests codec (directory.apply (.removeCursor id)) generation stored read where
  contents := rests.contents
  files := rests.files
  unmarked := by
    intro segment member
    simp only [apply, get?_erase]
    split
    · rfl
    · exact rests.unmarked segment member
  boundary := by
    rcases unread with rfl | absent
    · cases stored with
      | nil => rfl
      | cons segment stored =>
        by_cases same : segment.id = id
        · apply boundary_zero
          intro first isFirst
          cases isFirst
          simp only [apply, get?_erase, if_pos same]
        · refine rests.boundary.congr fun first isFirst => ?_
          cases isFirst
          simp only [apply, get?_erase, if_neg same]
    · refine rests.boundary.congr fun first isFirst => ?_
      have different := absent first (mem_of_mem_head? isFirst)
      simp only [apply, get?_erase, if_neg different]

omit rests in
/-- Deleting the first segment leaves the others, of which nothing is read. -/
theorem removeSegment (rests : Rests codec directory generation (segment :: stored) read) :
    Rests codec (directory.apply (.removeSegment segment.id)) generation stored 0 where
  contents := rests.contents.tail
  files := entries_erase_first rests.files
  unmarked := fun other member => rests.unmarked other (mem_of_mem_tail member)
  boundary := by
    apply boundary_zero
    intro first isFirst
    exact rests.unmarked first (mem_of_mem_head? isFirst)

theorem createSegment {id : Nat} (above : ∀ segment ∈ stored, segment.id < id)
    (limit : id < u64Limit) (filled : ∀ segment ∈ stored, segment.frames ≠ [])
    (noCursor : directory.cursors.get? id = none) :
    Rests codec (directory.apply (.createSegment id)) generation (stored ++ [⟨id, []⟩]) read where
  contents := rests.contents.concat above limit filled
  files := by
    have keysAbove : ∀ entry ∈ directory.segments.entries, entry.1 < id := by
      rw [rests.files]
      intro entry member
      obtain ⟨segment, inside, rfl⟩ := List.mem_map.mp member
      exact above segment inside
    simp only [apply, entries_insert_above keysAbove, rests.files,
      map_append, map_cons, map_nil, framesBytes_nil]
  unmarked := by
    intro segment member
    cases stored with
    | nil => cases member
    | cons first stored =>
      rcases mem_append.mp member with old | new
      · exact rests.unmarked segment old
      · rw [mem_singleton.mp new]
        exact noCursor
  boundary := by
    cases stored with
    | nil =>
      have unread : read = 0 := rests.boundary
      rw [unread]
      apply boundary_zero
      intro first isFirst
      cases isFirst
      exact noCursor
    | cons first stored => exact rests.boundary

end

/-- A frame written at the end of the last segment. -/
theorem writeFrame (rests : Rests codec directory generation (front ++ [last]) read)
    (contents : Contents codec (front ++ [⟨last.id, last.frames ++ [frame]⟩])) :
    Rests codec (directory.apply (.writeFrame last.id (framesSize codec last.frames)
      (frame.bytes codec))) generation (front ++ [⟨last.id, last.frames ++ [frame]⟩]) read where
  contents := contents
  files := by
    have found := rests.get?_segment (mem_append_right front mem_cons_self)
    have entries := rests.files
    rw [map_append, map_cons, map_nil] at entries
    have written : splice (framesBytes codec last.frames) (framesSize codec last.frames)
        (frame.bytes codec) = framesBytes codec (last.frames ++ [frame]) := by
      simp [splice, ← length_framesBytes]
    simp only [apply, found, entries_insert_last entries, written, map_append, map_cons, map_nil]
  unmarked := by
    intro segment member
    rw [cursors_writeFrame]
    cases front with
    | nil => cases member
    | cons first front =>
      rcases mem_append.mp member with old | new
      · exact rests.unmarked segment (mem_append_left _ old)
      · rw [mem_singleton.mp new]
        exact rests.unmarked last (mem_append_right _ mem_cons_self)
  boundary := by
    rw [cursors_writeFrame]
    cases front with
    | cons first front => exact rests.boundary
    | nil =>
      rcases rests.boundary with ⟨content, found, marks⟩ | ⟨rfl, foreign⟩
      · exact .inl ⟨content, found, marks.extend [frame]⟩
      · refine .inr ⟨rfl, fun content found => ?_⟩
        obtain ⟨other, count, different, marks⟩ := foreign content found
        exact ⟨other, count, different, marks.extend [frame]⟩

/-- A cursor that marks more of the first segment. -/
theorem replaceCursor (rests : Rests codec directory generation (segment :: stored) read)
    {content : Bytes} {count : Nat} (marks : Marks codec generation segment count content) :
    Rests codec (directory.apply (.replaceCursor segment.id content)) generation
      (segment :: stored) count where
  contents := rests.contents
  files := rests.files
  unmarked := by
    intro other member
    have different : other.id ≠ segment.id := (rests.contents.id_lt member).ne'
    simp only [apply, get?_insert, if_neg different]
    exact rests.unmarked other member
  boundary := by
    refine .inl ⟨content, ?_, marks⟩
    simp only [apply, get?_insert, if_pos]

end Rests

end SprakCapture.UdpRecording
