import SprakCapture.UdpRecording.SampleCodec
import SprakCapture.UdpRecording.SpoolFailures

/-!
# The size accounting of the UDP spool

An open spool counts the bytes that are not acknowledged. The count is the sum over its
segments of what lies behind the read offset, in every state that the processes on a
directory can reach, whatever fails. A process that starts over an earlier one's directory
forgets what of the first segment was acknowledged, so that the count may then lie above
the budget of the spool, by no more than one segment.
-/

namespace SprakCapture.UdpRecording

open Data List Data.Machine Data.Outcome SpoolSystem SpoolLifetime

/-- The bytes of a file up to the length of its segment are frames, and the read offset lies
between two of them. -/
def AtBoundary (codec : SpoolCodec) (file : Bytes) (segment : SpoolSegment) : Prop :=
  ∃ before after tail, (∀ frame ∈ before ++ after, frame.Writable codec) ∧
    file = framesBytes codec (before ++ after) ++ tail ∧
    segment.readOffset = framesSize codec before ∧
    segment.length = framesSize codec (before ++ after)

/-- The accounts of an open spool. -/
structure Booked (codec : SpoolCodec) (system : SpoolSystem) (spool : UdpRecordingSpool) :
    Prop where
  pending : spool.state.pendingBytes =
    (spool.state.segments.map fun segment => segment.length - segment.readOffset).sum
  /-- Every segment but one whose file was just deleted is read up to a frame boundary. -/
  boundary : ∀ segment ∈ spool.state.segments, system.stage ≠ .retired segment.id →
    ∃ file, system.directory.segments.get? segment.id = some file ∧ AtBoundary codec file segment
  retiring : ∀ segmentId ∈ spool.state.retiringSegmentId,
    ∃ segment ∈ spool.state.segments.head?, segment.id = segmentId ∧
      segment.readOffset = segment.length
  limit : spool.state.pendingBytes ≤ maximumSpoolBytes + maximumSegmentBytes

/-! ### The accounts of a layout -/

section Accounts

variable {codec : SpoolCodec} {directory : Directory} {spool : UdpRecordingSpool}
  {stage : ReaderStage} {issued : List SpoolEntry} {stored : List StoredSegment} {read : Nat}

theorem sum_unread (stored : List StoredSegment) :
    ((stored.map (unreadSegment codec)).map fun segment =>
      segment.length - segment.readOffset).sum = framesSize codec (storedFrames stored) := by
  induction stored with
  | nil => rfl
  | cons segment stored ih =>
    rw [map_cons, map_cons, sum_cons, ih, storedFrames_cons, framesSize_append]
    rfl

theorem Live.pending_eq_sum (live : Live codec directory spool stage issued stored read) :
    spool.state.pendingBytes =
      (spool.state.segments.map fun segment => segment.length - segment.readOffset).sum := by
  rw [live.pending, live.segments]
  cases stored with
  | nil => simp [memorySegments]
  | cons segment stored =>
    have inside := live.read_le segment rfl
    have split := @framesSize_take_add_drop codec segment.frames read
    grind [memorySegments, frontSegment, sum_unread, storedFrames_cons, framesSize_append]

/-- The node of a stored segment. -/
theorem mem_memorySegments {held : Bool} {node : SpoolSegment}
    (member : node ∈ memorySegments codec held read stored)
    (inside : ∀ segment ∈ stored.head?, read ≤ segment.frames.length) :
    ∃ segment ∈ stored, node.id = segment.id ∧
      ∃ count ≤ segment.frames.length,
        node.readOffset = framesSize codec (segment.frames.take count) ∧
        node.length = framesSize codec segment.frames := by
  cases stored with
  | nil => cases member
  | cons first stored =>
    rcases mem_cons.mp member with rfl | later
    · exact ⟨first, mem_cons_self, rfl, read, inside first rfl, rfl, rfl⟩
    · obtain ⟨segment, isStored, rfl⟩ := List.mem_map.mp later
      exact ⟨segment, .tail _ isStored, rfl, 0, Nat.zero_le _, rfl, rfl⟩

/-- A stored segment is on disk unless its file was just deleted. -/
theorem Live.mem_onDisk (live : Live codec directory spool stage issued stored read)
    {segment : StoredSegment} (member : segment ∈ stored) (present : stage ≠ .retired segment.id) :
    segment ∈ stage.onDisk stored := by
  have shape := live.shape
  cases stage with
  | retired segmentId =>
    obtain ⟨-, _, isFirst, rfl, -⟩ := shape
    obtain ⟨_, rfl⟩ := head?_eq_some_iff.mp isFirst
    rcases mem_cons.mp member with rfl | later
    · exact absurd rfl present
    · exact later
  | _ => exact member

/-- Every file that is there begins with the frames of its segment. -/
theorem Live.booked {system : SpoolSystem} {intact : Directory} {count : Nat}
    (live : Live codec intact spool system.stage system.issued stored count)
    (files : ∀ id file, intact.segments.get? id = some file →
      ∃ tail, system.directory.segments.get? id = some (file ++ tail)) :
    Booked codec system spool where
  pending := live.pending_eq_sum
  boundary := by
    intro node member present
    rw [live.segments] at member
    obtain ⟨segment, isStored, sameId, read, _, offset, length⟩ :=
      mem_memorySegments member live.read_le
    rw [sameId] at present ⊢
    obtain ⟨tail, found⟩ := files _ _ (live.rests.get?_segment (live.mem_onDisk isStored present))
    refine ⟨_, found, segment.frames.take read, segment.frames.drop read, tail, ?_, ?_, offset, ?_⟩
    · rw [take_append_drop]
      exact live.contents.segment_writable isStored
    · rw [take_append_drop]
    · rw [take_append_drop]
      exact length
  retiring := by
    intro _ isRetiring
    have shape := live.shape
    have complete : ∀ segment, stored.head? = some segment → count = segment.frames.length →
        ∃ node ∈ spool.state.segments.head?, node.id = segment.id ∧
          node.readOffset = node.length := by
      intro segment first atEnd
      obtain ⟨_, rfl⟩ := head?_eq_some_iff.mp first
      rw [live.segments]
      refine ⟨_, rfl, rfl, ?_⟩
      rw [frontSegment, atEnd, take_length]
    cases reached : system.stage with
    | idle =>
      rw [reached] at shape
      rw [show spool.state.retiringSegmentId = none from shape] at isRetiring
      cases isRetiring
    | acknowledging =>
      rw [reached] at shape
      rw [shape.1] at isRetiring
      cases isRetiring
    | retiring other | retired other =>
      rw [reached] at shape
      obtain ⟨same, segment, first, rfl, atEnd, -⟩ := shape
      rw [same] at isRetiring
      cases isRetiring
      exact complete segment first atEnd
  limit := by
    have total := live.contents.total
    have split := @framesSize_take_add_drop codec (storedFrames stored) count
    rw [live.pending]
    omega

theorem Sound.booked {lifetime : SpoolLifetime} (sound : Sound codec lifetime)
    (opened : lifetime.system.spool = some spool) : Booked codec lifetime.system spool := by
  cases sound with
  | refused closed =>
    rw [opened] at closed
    cases closed
  | intact layout =>
    obtain ⟨-, count, -, live⟩ := layout.live opened
    exact live.booked fun id file found => ⟨[], by rw [found, append_nil]⟩
  | torn layout _ _ tear =>
    obtain ⟨-, count, -, live⟩ := layout.live opened
    exact Live.booked live fun id file found => tear.get?_segment found

end Accounts

/-! ### The budget -/

/-- The bytes of the frames that are not acknowledged. -/
def unreadBytes (codec : SpoolCodec) (stored : List StoredSegment) (read : Nat) : Nat :=
  framesSize codec ((storedFrames stored).drop read)

section Unread

variable {codec : SpoolCodec} {stored after : List StoredSegment} {read count : Nat}
  {written marked : List PlacedFrame}

theorem unreadBytes_mono (stored : List StoredSegment) (inside : read ≤ count) :
    unreadBytes codec stored count ≤ unreadBytes codec stored read := by
  have split := @framesSize_take_add_drop codec ((storedFrames stored).drop read) (count - read)
  rw [drop_drop, Nat.add_sub_cancel' inside] at split
  unfold unreadBytes
  omega

theorem unreadBytes_dropped (segment : StoredSegment) (stored : List StoredSegment) :
    unreadBytes codec (segment :: stored) segment.frames.length = unreadBytes codec stored 0 := by
  grind [unreadBytes, storedFrames_cons]

/-- Only a frame that is written adds to the unread bytes. -/
theorem Evolves.unreadBytes_le (evolves : Evolves stored read after count written marked)
    (noneWritten : written = []) :
    unreadBytes codec after count ≤ unreadBytes codec stored read := by
  cases evolves with
  | advances advance =>
    cases advance with
    | stays => exact Nat.le_refl _
    | writes _ inside => cases noneWritten
    | rotates frames _ inside above =>
      have empty : frames = [] := map_eq_nil_iff.mp noneWritten
      rw [empty]
      simp [unreadBytes]
    | marks stored => exact unreadBytes_mono _ (Nat.le_succ _)
    | drops _ stored => rw [unreadBytes_dropped]
    | rotatesAndDrops above =>
      simp [unreadBytes]
  | recovers recovery =>
    cases recovery with
    | kept => exact Nat.le_refl _
    | dropped filled stored => rw [unreadBytes_dropped]
    | restarted filled | created => exact Nat.zero_le _

end Unread

variable (state : SpoolState) (acknowledgement : SpoolAcknowledgement)

section Calls

variable {codec : SpoolCodec}

theorem writeFrame_pending (state : SpoolState) (frame : SpoolFrame) :
    (∃ fault, (writeFrame codec state frame).result = .error fault) ∧
        (writeFrame codec state frame).state.pendingBytes = state.pendingBytes ∨
      (writeFrame codec state frame).state.pendingBytes =
        state.pendingBytes + frame.size codec := by
  unfold writeFrame
  split
  · exact .inl ⟨⟨_, rfl⟩, rfl⟩
  split
  · exact .inl ⟨⟨_, rfl⟩, rfl⟩
  · split
    · exact .inl ⟨⟨_, rfl⟩, rfl⟩
    · exact .inr rfl

/-- An append leaves the count as it is, or within the budget. -/
theorem appendCapturedEvent_pending (directory : Directory) (state : SpoolState)
    (captured : CapturedUdpDatagram) :
    (∃ fault, (appendCapturedEvent codec directory state captured).result = .error fault) ∧
        (appendCapturedEvent codec directory state captured).state.pendingBytes =
          state.pendingBytes ∨
      (appendCapturedEvent codec directory state captured).state.pendingBytes ≤
        maximumSpoolBytes := by
  unfold appendCapturedEvent
  split
  · exact .inl ⟨⟨_, rfl⟩, rfl⟩
  split
  · exact .inl ⟨⟨_, rfl⟩, rfl⟩
  dsimp only
  split
  · exact .inl ⟨⟨_, rfl⟩, rfl⟩
  rename_i admitted
  obtain ⟨-, -, -, fits⟩ := admitFrame_eq_ok admitted
  have bounded : ∀ before : SpoolState, before.pendingBytes = state.pendingBytes →
      (∃ fault, (writeFrame codec before (captured.frame state.nextSequence)).result =
          .error fault) ∧
        (writeFrame codec before (captured.frame state.nextSequence)).state.pendingBytes =
          state.pendingBytes ∨
      (writeFrame codec before (captured.frame state.nextSequence)).state.pendingBytes ≤
        maximumSpoolBytes := by
    intro before same
    rcases writeFrame_pending before (captured.frame state.nextSequence) with
      refused | written
    · left
      rw [← same]
      exact refused
    · right
      rw [written, same]
      exact fits
  grind [rotateAndWrite]

theorem beginSegmentRetirement_pending :
    (beginSegmentRetirement state).1.pendingBytes = state.pendingBytes := by
  grind [beginSegmentRetirement]

theorem retireCompletedFront_pending :
    (retireCompletedFront state).1.pendingBytes = state.pendingBytes := by
  grind [retireCompletedFront, beginSegmentRetirement_pending]

theorem commitAcknowledgement_pending :
    (commitAcknowledgement state acknowledgement).1.pendingBytes ≤ state.pendingBytes := by
  grind [commitAcknowledgement, beginSegmentRetirement_pending]

theorem appendFailing_pending (directory : Directory) (state : SpoolState)
    (captured : CapturedUdpDatagram) (failure : AppendFailure) :
    (appendFailing codec directory state captured failure).1.pendingBytes = state.pendingBytes := by
  grind [appendFailing]

end Calls

/-- The spool is within its budget; while none is open, what it would find is. -/
def WithinBudget (codec : SpoolCodec) (lifetime : SpoolLifetime) : Prop :=
  match lifetime.system.spool with
  | some spool => spool.state.pendingBytes ≤ maximumSpoolBytes
  | none => Refused codec lifetime.system.directory ∨
      ∃ stored read, Rests codec lifetime.system.directory lifetime.generation stored read ∧
        unreadBytes codec stored read ≤ maximumSpoolBytes

section Budget

variable {codec : SpoolCodec} {generation : String} {system : SpoolSystem}
  {spool : UdpRecordingSpool}

/-- No action of an open spool takes its count above the budget. -/
theorem pending_step (opened : system.spool = some spool)
    (within : spool.state.pendingBytes ≤ maximumSpoolBytes) (action : SpoolAction) :
    ∀ after ∈ (system.step codec generation action).spool,
      after.state.pendingBytes ≤ maximumSpoolBytes := by
  have unchanged : ∀ after ∈ system.spool, after.state.pendingBytes ≤ maximumSpoolBytes := by
    rw [opened]
    rintro after ⟨⟩
    exact within
  have isSome : system.spool.isSome := by rw [opened]; rfl
  cases action with
  | reopen | reopenInterrupted => rwa [SpoolSystem.step, if_pos isSome]
  | crash => rintro after ⟨⟩
  | close =>
    simp only [SpoolSystem.step, opened]
    rintro after ⟨⟩
    exact within
  | append captured =>
    simp only [SpoolSystem.step, opened]
    rintro after ⟨⟩
    rcases appendCapturedEvent_pending system.directory spool.state captured with
      ⟨-, same⟩ | bounded
    · exact same.trans_le within
    · exact bounded
  | appendInterrupted captured =>
    simp only [SpoolSystem.step, opened]
    rintro after ⟨⟩
  | readNext =>
    simp only [SpoolSystem.step, opened]
    split
    · rename_i current idle equal isIdle
      cases equal
      unfold SpoolSystem.readNext
      split
      · exact unchanged
      · rintro after ⟨⟩
        exact (retireCompletedFront_pending spool.state).trans_le within
      all_goals exact unchanged
    · exact unchanged
  | acknowledge =>
    grind [SpoolSystem.step, SpoolSystem.acknowledge]
  | commitAcknowledgement =>
    simp only [SpoolSystem.step, opened]
    split
    · rename_i current acknowledgement equal isStage
      rintro after ⟨⟩
      grind [commitAcknowledgement_pending]
    · exact unchanged
  | removeSegment =>
    simp only [SpoolSystem.step, opened]
    split
    · rename_i current segmentId equal isStage
      cases equal
      unfold SpoolSystem.removeSegment
      split
      · exact unchanged
      · rintro after ⟨⟩
        unfold restoreRetirement
        split <;> exact within
    · exact unchanged
  | finishRetirement =>
    simp only [SpoolSystem.step, opened]
    split
    · rename_i current segmentId equal isStage
      rintro after ⟨⟩
      grind [commitRetirement]
    · exact unchanged

variable {stored : List StoredSegment} {read : Nat}

/-- A step that appends nothing adds nothing to the unread bytes. -/
theorem Leads.unreadBytes_le {after : SpoolSystem}
    (leads : Leads codec generation system after stored read)
    (same : after.appended = system.appended) :
    ∃ final count, Layout codec generation after final count ∧
      unreadBytes codec final count ≤ unreadBytes codec stored read := by
  obtain ⟨final, count, written, _, evolves, layout, appended, -⟩ := leads
  have noneWritten : written = [] := by
    simp_all
  exact ⟨final, count, layout, evolves.unreadBytes_le noneWritten⟩

variable {lifetime : SpoolLifetime}

theorem within_of_closed {stored : List StoredSegment} {read : Nat}
    (closed : lifetime.system.spool = none)
    (layout : Layout codec lifetime.generation lifetime.system stored read)
    (within : unreadBytes codec stored read ≤ maximumSpoolBytes) : WithinBudget codec lifetime := by
  grind [Layout, WithinBudget]

theorem within_of_pending (opened : lifetime.system.spool = some spool)
    (within : spool.state.pendingBytes ≤ maximumSpoolBytes) : WithinBudget codec lifetime := by
  rw [WithinBudget, opened]
  exact within

theorem WithinBudget.pending (within : WithinBudget codec lifetime)
    (opened : lifetime.system.spool = some spool) :
    spool.state.pendingBytes ≤ maximumSpoolBytes := by
  rw [WithinBudget, opened] at within
  exact within

theorem within_of_refused (closed : lifetime.system.spool = none)
    (damaged : Refused codec lifetime.system.directory) : WithinBudget codec lifetime := by
  rw [WithinBudget, closed]
  exact .inl damaged

/-- While no spool is open, the unread bytes stay within the budget. -/
theorem within_act_closed (closed : lifetime.system.spool = none)
    (within : WithinBudget codec lifetime) (action : SpoolAction) :
    WithinBudget codec (lifetime.act codec action) := by
  have unchanged := within
  rw [WithinBudget, closed] at within
  rcases within with damaged | ⟨stored, read, rests, bound⟩
  · obtain ⟨stillClosed, stillDamaged⟩ :=
      refused_step closed damaged action
    exact within_of_refused stillClosed stillDamaged
  have layout : Layout codec lifetime.generation lifetime.system stored read := by
    rw [Layout, closed]
    exact rests
  have leads := leads_step layout action
  cases action with
  | reopen =>
    have isReopen : lifetime.system.step codec lifetime.generation .reopen =
        lifetime.system.reopen codec lifetime.generation := by
      rw [SpoolSystem.step, closed]
      rfl
    rw [isReopen] at leads
    obtain ⟨final, count, after, le⟩ := leads.unreadBytes_le rfl
    cases opened : (lifetime.system.reopen codec lifetime.generation).spool with
    | none =>
      refine within_of_closed ?_ ?_ (le.trans bound)
      · rw [act, isReopen]
        exact opened
      · rw [act, isReopen]
        exact after
    | some spool =>
      obtain ⟨-, _, same, live⟩ := after.live opened
      refine @within_of_pending _ spool _ ?_ ?_
      · rw [act, isReopen]
        exact opened
      · rw [live.pending]
        rw [same] at le
        exact le.trans bound
  | reopenInterrupted operations =>
    have isInterrupted : lifetime.system.step codec lifetime.generation
        (.reopenInterrupted operations) =
          lifetime.system.reopenInterrupted codec lifetime.generation operations := by
      rw [SpoolSystem.step, closed]
      rfl
    rw [isInterrupted] at leads
    obtain ⟨final, count, after, le⟩ := leads.unreadBytes_le rfl
    refine within_of_closed ?_ ?_ (le.trans bound)
    · rw [act, isInterrupted]
      rfl
    · rw [act, isInterrupted]
      exact after
  | crash =>
    obtain ⟨final, count, after, le⟩ := leads.unreadBytes_le rfl
    exact within_of_closed rfl after (le.trans bound)
  | _ => simpa only [act, SpoolSystem.step, closed, WithinBudget] using unchanged

/-- The end of a process leaves no more unread bytes than its spool counted. -/
theorem within_dropSpool {directory : Directory} (opened : lifetime.system.spool = some spool)
    (layout : Layout codec lifetime.generation lifetime.system stored read)
    (within : spool.state.pendingBytes ≤ maximumSpoolBytes)
    (leads : Leads codec lifetime.generation lifetime.system
      (lifetime.system.dropSpool directory) stored read) (stopped : Bool) :
    WithinBudget codec ⟨lifetime.system.dropSpool directory, lifetime.generation, stopped⟩ := by
  obtain ⟨final, count, after, le⟩ := leads.unreadBytes_le rfl
  obtain ⟨-, current, rfl, live⟩ := layout.live opened
  refine within_of_closed rfl after (le.trans ?_)
  have counted : unreadBytes codec stored current ≤ maximumSpoolBytes := by
    rw [unreadBytes, ← live.pending]
    exact within
  refine (unreadBytes_mono stored ?_).trans counted
  cases lifetime.system.stage with
  | acknowledging => exact Nat.le_succ current
  | _ => exact Nat.le_refl current

theorem within_act_open (sound : Sound codec lifetime) (opened : lifetime.system.spool = some spool)
    (within : spool.state.pendingBytes ≤ maximumSpoolBytes) {action : SpoolAction}
    (writes : (lifetime.writerStopped && action.isAppend) = false) :
    WithinBudget codec (lifetime.act codec action) := by
  have bounded := @pending_step codec lifetime.generation _ _ opened within action
  cases after : (lifetime.system.step codec lifetime.generation action).spool with
  | some next => exact within_of_pending after (bounded next after)
  | none =>
    have ending : action = .crash ∨ ∃ captured, action = .appendInterrupted captured := by
      by_cases crashes : action = .crash
      · exact .inl crashes
      by_cases appends : action.isAppend = true
      · cases action with
        | appendInterrupted captured => exact .inr ⟨captured, rfl⟩
        | append captured =>
          rw [SpoolSystem.step, opened] at after
          cases after
        | _ => cases appends
      · have stillOpen := @isSome_step codec lifetime.generation _ _ opened _
          (by simpa using appends) crashes
        rw [after] at stillOpen
        cases stillOpen
    cases sound with
    | refused closed =>
      rw [opened] at closed
      cases closed
    | torn layout _ stopped tear =>
      rcases ending with rfl | ⟨captured, rfl⟩
      · exact within_of_refused rfl tear.refused
      · rw [stopped] at writes
        cases writes
    | intact layout =>
      have leads := leads_step layout action
      rcases ending with rfl | ⟨captured, rfl⟩
      · exact within_dropSpool opened layout within leads _
      have isInterrupted : lifetime.system.step codec lifetime.generation
          (.appendInterrupted captured) =
            lifetime.system.appendInterrupted codec spool captured := by
        rw [SpoolSystem.step, opened]
      rw [isInterrupted] at leads
      rw [act, isInterrupted]
      exact within_dropSpool opened layout within leads _

/-- The process stays the same. -/
def LifetimeAction.staysInProcess : LifetimeAction → Bool
  | .act _ => true
  | .appendFails _ _ => true
  | .restart _ => false

theorem within_step (sound : Sound codec lifetime) (within : WithinBudget codec lifetime)
    {action : LifetimeAction} (stays : action.staysInProcess = true) :
    WithinBudget codec (lifetime.step codec action) := by
  cases action with
  | restart => cases stays
  | act action =>
    rw [SpoolLifetime.step]
    split
    · exact within
    rename_i writes
    cases opened : lifetime.system.spool with
    | none => exact within_act_closed opened within action
    | some spool =>
      exact within_act_open sound opened (within.pending opened) (by simpa using writes)
  | appendFails captured failure =>
    rw [SpoolLifetime.step]
    split
    · exact within
    rename_i spool opened
    split
    · exact within
    exact (appendFailing_pending _ _ _ _).trans_le (within.pending opened)

/-- The bytes of all segment files. -/
def Directory.storedBytes (directory : Directory) : Nat := directory.segments.total List.length

theorem Rests.storedBytes_eq {directory : Directory}
    (rests : Rests codec directory generation stored read) :
    directory.storedBytes = framesSize codec (storedFrames stored) := by
  have lengths : ∀ segments : List StoredSegment,
      ((segments.map fun segment => (segment.id, framesBytes codec segment.frames)).map
        fun entry => entry.2.length).sum = framesSize codec (storedFrames segments) := by
    intro segments
    induction segments with
    | nil => rfl
    | cons segment segments =>
      simp_all
  rw [Directory.storedBytes, OrderedTable.total, OrderedTable.values, rests.files, ← lengths,
    List.map_map]
  rfl

/-- A process that finds no more than the budget starts within it. -/
theorem within_restart (sound : Sound codec lifetime)
    (small : lifetime.system.directory.storedBytes ≤ maximumSpoolBytes) (otherGeneration : String) :
    WithinBudget codec (lifetime.step codec (.restart otherGeneration)) := by
  cases sound_restart sound otherGeneration with
  | refused closed damaged => exact within_of_refused closed damaged
  | torn layout opened => cases opened
  | @intact stored read layout =>
    have rests : Rests codec lifetime.system.directory otherGeneration stored read := layout
    refine within_of_closed rfl layout ?_
    have all := @unreadBytes_mono codec 0 _ stored (Nat.zero_le read)
    rw [rests.storedBytes_eq] at small
    exact all.trans small

end Budget

/-- What holds of the accounts after a run of the processes on a directory. -/
structure Accounting (codec : SpoolCodec) (actions : List LifetimeAction) : Prop where
  booked : ∀ spool ∈ ((SpoolLifetime.machine codec).run actions).system.spool,
    Booked codec ((SpoolLifetime.machine codec).run actions).system spool
  /-- An append that is accepted leaves the spool within its budget. -/
  accepted : ∀ spool ∈ ((SpoolLifetime.machine codec).run actions).system.spool,
    ∀ captured placed,
      (appendCapturedEvent codec ((SpoolLifetime.machine codec).run actions).system.directory
        spool.state captured).result = .ok placed →
      (appendCapturedEvent codec ((SpoolLifetime.machine codec).run actions).system.directory
        spool.state captured).state.pendingBytes ≤ maximumSpoolBytes
  /-- A process that finds no more than the budget in the directory stays within it. -/
  budget : ∀ before generation after, actions = before ++ .restart generation :: after →
    (∀ action ∈ after, action.staysInProcess = true) →
    ((SpoolLifetime.machine codec).run before).system.directory.storedBytes ≤ maximumSpoolBytes →
    ∀ spool ∈ ((SpoolLifetime.machine codec).run actions).system.spool,
      spool.state.pendingBytes ≤ maximumSpoolBytes

/-- The accounts of the spool hold after every run. -/
theorem spoolAccounting_run (codec : SpoolCodec) (actions : List LifetimeAction) :
    Accounting codec actions where
  booked := fun spool opened => (sound_run codec actions).booked opened
  accepted := by
    intro spool opened captured _ accepted
    rcases @appendCapturedEvent_pending codec
      ((SpoolLifetime.machine codec).run actions).system.directory spool.state captured with
      ⟨⟨_, refused⟩, -⟩ | bounded
    · rw [refused] at accepted
      cases accepted
    · exact bounded
  budget := by
    rintro before generation after rfl stays small spool opened
    have start := within_restart (sound_run codec before) small generation
    have startSound := sound_step (sound_run codec before) (.restart generation)
    have final := @guarded_runFrom _ _ (SpoolLifetime.machine codec)
      (fun _ action => action.staysInProcess = true)
      (fun lifetime => Sound codec lifetime ∧ WithinBudget codec lifetime)
      (fun lifetime action holds stays =>
        ⟨sound_step holds.1 action, within_step holds.1 holds.2 stays⟩)
      _ ⟨startSound, start⟩ after ((SpoolLifetime.machine codec).guarded_of_forall stays)
    rw [run_append, runFrom_cons] at opened
    exact final.2.pending opened

/-! ### A spool above its budget -/

variable {captured : CapturedUdpDatagram} {bound : Nat}

section Overrun

variable {codec : SpoolCodec} {lifetime : SpoolLifetime} {spool : UdpRecordingSpool}
  {stored : List StoredSegment} {read : Nat}

/-- An open spool whose reader is idle, with some of its frames read. -/
structure Filled (codec : SpoolCodec) (lifetime : SpoolLifetime) (spool : UdpRecordingSpool)
    (stored : List StoredSegment) (read : Nat) : Prop where
  opened : lifetime.system.spool = some spool
  idle : lifetime.system.stage = .idle
  writes : lifetime.writerStopped = false
  accepts : spool.state.closed = false
  generation : spool.recordingGeneration = lifetime.generation
  live : Live codec lifetime.system.directory spool .idle lifetime.system.issued stored read
  nextSequence : spool.state.nextSequence = (storedFrames stored).length + 1
  nextSegmentId : spool.state.nextSegmentId ≤ (storedFrames stored).length + 2

/-- A datagram of any sequence can be written, and its frames are not longer than a bound. -/
structure Small (codec : SpoolCodec) (captured : CapturedUdpDatagram) (bound : Nat) : Prop where
  header_pos : ∀ sequence, 0 < (codec.encodeHeader (captured.frame sequence).header).length
  header_le : ∀ sequence,
    (codec.encodeHeader (captured.frame sequence).header).length ≤ maximumHeaderBytes
  payload_le : captured.event.payload.length ≤ maximumPayloadBytes
  size_le : ∀ sequence, (captured.frame sequence).size codec ≤ bound

theorem Small.mono {bound larger : Nat} (small : Small codec captured bound) (le : bound ≤ larger) :
    Small codec captured larger :=
  { small with size_le := fun sequence => (small.size_le sequence).trans le }

/-- A small datagram is admitted while there is room for it. -/
theorem Small.admitFrame (small : Small codec captured bound) {state : SpoolState} (sequence : Nat)
    (room : state.pendingBytes + bound ≤ maximumSpoolBytes) :
    admitFrame codec state (captured.frame sequence) = .ok () := by
  have headerPositive := small.header_pos sequence
  have headerBound := small.header_le sequence
  have size := small.size_le sequence
  have payloadBound : (captured.frame sequence).payload.length ≤ maximumPayloadBytes :=
    small.payload_le
  have headerLimit : maximumHeaderBytes < 2 ^ 32 := by decide
  have payloadLimit : maximumPayloadBytes < 2 ^ 32 := by decide
  have spoolLimit : maximumSpoolBytes < u64Limit := by decide
  rw [UdpRecording.admitFrame, raiseIf_of_not _ (by omega), Outcome.ok_bind,
    raiseIf_of_not _ (by omega), Outcome.ok_bind, validateFrameLengths,
    raiseIf_of_not _ (by omega), Outcome.ok_bind, raiseIf_of_not _ (by omega),
    Outcome.ok_bind, raiseIf_of_not _ (by omega), Outcome.ok_bind,
    raiseIf_of_not _ (by omega)]

section

variable (filled : Filled codec lifetime spool stored read)
include filled

/-- The budget leaves no room for so many frames that a number would run out. -/
theorem Filled.numbers :
    (storedFrames stored).length + 4 < u64Limit := by
  have counted := length_le_framesSize filled.live.contents.writable
  have total := filled.live.contents.total
  have limits : maximumSpoolBytes + maximumSegmentBytes + 4 < u64Limit := by decide
  omega

/-- Appending a datagram for which there is room. -/
theorem Filled.append (small : Small codec captured bound)
    (room : spool.state.pendingBytes + bound ≤ maximumSpoolBytes) :
    ∃ next grown, Filled codec (lifetime.step codec (.act (.append captured))) next grown read ∧
      storedFrames grown =
        storedFrames stored ++ [captured.frame ((storedFrames stored).length + 1)] ∧
      (∀ id, stored = [⟨id, []⟩] → grown = [⟨id, [captured.frame 1]⟩]) := by
  have sequence := filled.nextSequence
  have segment := filled.nextSegmentId
  have numbers := filled.numbers
  have stepped : lifetime.step codec (.act (.append captured)) =
      { lifetime with
        system := lifetime.system.append codec spool captured
        writerStopped := false } := by
    simp [SpoolLifetime.step, act, SpoolSystem.step, filled.opened, filled.writes]
  have admitted := small.admitFrame (spool.state.nextSequence) room
  rw [← sequence]
  generalize outcome : appendCapturedEvent codec lifetime.system.directory spool.state captured =
    appending
  have appended : ∀ {grown : List StoredSegment} {directory : Directory},
      appending.operations.foldl Directory.apply lifetime.system.directory = directory →
      Live.Appended spool.state appending.state →
      storedFrames grown = storedFrames stored ++ [captured.frame spool.state.nextSequence] →
      Live codec directory { spool with state := appending.state } .idle lifetime.system.issued
        grown read →
      Filled codec (lifetime.step codec (.act (.append captured)))
        { spool with state := appending.state } grown read := by
    rintro grown directory rfl counters frames live
    rw [stepped]
    subst outcome
    refine ⟨rfl, filled.idle, rfl, counters.closed.trans filled.accepts, filled.generation, live,
      ?_, ?_⟩
    · rw [counters.nextSequence, frames, length_append, length_singleton]
      omega
    · exact counters.nextSegmentId.trans (by simp_all)
  rcases filled.live.append_admitted captured filled.accepts (by omega) admitted rfl outcome with
    ⟨_, -⟩ | ⟨counters, front, last, operation, rfl, operations, -, live⟩ |
    ⟨counters, lastFilled, id, operation, _, _, _, operations, -, -, live⟩
  · omega
  · refine ⟨_, _, appended (by rw [operations]; rfl) counters (by simp) live, by simp, ?_⟩
    rintro id single
    obtain ⟨rfl, rfl⟩ : front = [] ∧ last = ⟨id, []⟩ := by
      cases front with
      | nil => exact ⟨rfl, singleton_inj.mp single⟩
      | cons _ front => simp at single
    rw [sequence]
    rfl
  · refine ⟨_, _, appended (by rw [operations]; rfl) counters (by simp) live, by simp, ?_⟩
    rintro id rfl
    exact absurd rfl (lastFilled ⟨id, []⟩ rfl)

/-- Appending a datagram until there is no room for it. -/
theorem Filled.fill (small : Small codec captured bound) :
    ∃ count next grown,
      Filled codec ((SpoolLifetime.machine codec).runFrom lifetime
        (List.replicate count (.act (.append captured)))) next grown read ∧
      storedFrames stored <+: storedFrames grown ∧
      maximumSpoolBytes < next.state.pendingBytes + bound := by
  induction room : maximumSpoolBytes - spool.state.pendingBytes using Nat.strong_induction_on
    generalizing lifetime spool stored with
  | _ room ih =>
    by_cases full : maximumSpoolBytes < spool.state.pendingBytes + bound
    · exact ⟨0, spool, stored, filled, prefix_rfl, full⟩
    obtain ⟨next, grown, nextFilled, frames, -⟩ := filled.append small (by omega)
    have positive := small.size_le 0
    rw [SpoolFrame.size, frameLengthBytes] at positive
    have grows : spool.state.pendingBytes < next.state.pendingBytes := by
      rw [nextFilled.live.pending, filled.live.pending, frames,
        drop_append_of_le_length filled.live.read_le_length, framesSize_append, framesSize_cons,
        SpoolFrame.size, frameLengthBytes]
      omega
    obtain ⟨count, final, all, finalFilled, longer, full⟩ :=
      ih _ (by omega) nextFilled rfl
    refine ⟨count + 1, final, all, finalFilled, ?_, full⟩
    exact (frames ▸ prefix_append _ _).trans longer

end

theorem filled_start (codec : SpoolCodec) {generation : String} (named : generation ≠ "") :
    ∃ spool, Filled codec
      ((SpoolLifetime.machine codec).run [.restart generation, .act .reopen]) spool [⟨1, []⟩] 0 := by
  have rests : Rests codec fresh.directory generation [] 0 :=
    ⟨.nil, rfl, nofun, rfl⟩
  have met := createWithSegmentRemover_meets rests named
  have opening : createWithSegmentRemover codec fresh.directory generation =
      ⟨[.createSegment 1], .ok
        { recordingGeneration := generation
          state :=
            { segments := [⟨1, true, 0, 0⟩]
              nextSegmentId := 2
              nextSequence := 1
              pendingBytes := 0
              closed := false
              retiringSegmentId := none
              retirementBlocked := false
              processGenerations := ∅ } }⟩ := by
    rw [createWithSegmentRemover, raiseIf_of_not _ named]
    rfl
  obtain ⟨-, -, -, after, count, recovers, live⟩ := met.ends _ (by rw [opening])
  obtain ⟨rfl, rfl⟩ : after = [⟨1, []⟩] ∧ count = 0 := by
    cases recovers with
    | kept => exact absurd rfl (live.active rfl)
    | created => exact ⟨rfl, rfl⟩
  rw [opening] at live
  have stepped : (SpoolLifetime.machine codec).run [.restart generation, .act .reopen] =
      { system := fresh.reopen codec generation
        generation := generation
        writerStopped := false } := rfl
  rw [stepped, reopen, opening]
  exact ⟨_, rfl, rfl, rfl, rfl, rfl, live, rfl, Nat.le_refl 2⟩

theorem SpoolLifetime.step_act (writes : lifetime.writerStopped = false) (action : SpoolAction) :
    lifetime.step codec (.act action) =
      { lifetime with
        system := lifetime.system.step codec lifetime.generation action
        writerStopped := false } := by
  simp [step, act, writes]

theorem beginSegmentRetirement_counters :
    (beginSegmentRetirement state).1.nextSequence = state.nextSequence ∧
      (beginSegmentRetirement state).1.nextSegmentId = state.nextSegmentId ∧
      (beginSegmentRetirement state).1.closed = state.closed := by
  grind [beginSegmentRetirement]

theorem commitAcknowledgement_counters :
    (commitAcknowledgement state acknowledgement).1.nextSequence = state.nextSequence ∧
      (commitAcknowledgement state acknowledgement).1.nextSegmentId = state.nextSegmentId ∧
      (commitAcknowledgement state acknowledgement).1.closed = state.closed := by
  grind [commitAcknowledgement, beginSegmentRetirement_counters]

theorem Filled.acknowledgeFirst {id : Nat} {frame : SpoolFrame}
    (filled : Filled codec lifetime spool [⟨id, [frame]⟩] 0)
    (unissued : lifetime.system.issued = []) :
    ∃ next, Filled codec ((SpoolLifetime.machine codec).runFrom lifetime
      [.act .readNext, .act (.acknowledge 0 true), .act .commitAcknowledgement]) next
        [⟨id, [frame]⟩] 1 := by
  obtain ⟨⟨directory, _, _, issued, appended, acknowledged⟩, generation, _⟩ :=
    lifetime
  obtain ⟨rfl, rfl, rfl, accepts, sameGeneration, live, nextSequence, nextSegmentId⟩ := filled
  obtain rfl : issued = [] := unissued
  have isCurrent : (⟨id, [frame]⟩ : StoredSegment).frames[0]? = some frame := rfl
  have found := live.readNextPass_current isCurrent
  have issue := live.issue isCurrent
  obtain ⟨content, persisted, acknowledging⟩ := issue.acknowledge isCurrent
  have settled := acknowledging.commitAcknowledgement
  obtain ⟨sameSequence, sameSegmentId, sameClosed⟩ := commitAcknowledgement_counters spool.state
    (currentEntry codec ⟨id, [frame]⟩ 0 frame).acknowledgement
  have idle : stageAfter (commitAcknowledgement spool.state
      (currentEntry codec ⟨id, [frame]⟩ 0 frame).acknowledgement).2 = .idle := by
    cases reached : stageAfter (commitAcknowledgement spool.state
        (currentEntry codec ⟨id, [frame]⟩ 0 frame).acknowledgement).2 with
    | idle => rfl
    | acknowledging other | retired other =>
      unfold stageAfter at reached
      split at reached <;> cases reached
    | retiring other =>
      have shape := settled.shape
      rw [reached] at shape
      obtain ⟨-, _, -, -, -, _ | long⟩ := shape
      · simp_all
      · simp at long
  rw [idle] at settled
  refine ⟨{ spool with state := (commitAcknowledgement spool.state
    (currentEntry codec ⟨id, [frame]⟩ 0 frame).acknowledgement).1 }, ?_⟩
  have stepped : (SpoolLifetime.machine codec).runFrom
      ⟨⟨directory, some spool, .idle, [], appended, acknowledged⟩, generation, false⟩
      [.act .readNext, .act (.acknowledge 0 true), .act .commitAcknowledgement] =
      ⟨⟨directory.apply (.replaceCursor id content),
        some { spool with state := (commitAcknowledgement spool.state
          (currentEntry codec ⟨id, [frame]⟩ 0 frame).acknowledgement).1 }, .idle,
        [currentEntry codec ⟨id, [frame]⟩ 0 frame], appended,
        acknowledged ++ [(currentEntry codec ⟨id, [frame]⟩ 0 frame).placed]⟩, generation, false⟩ := by
    simp [SpoolLifetime.machine, step_act, SpoolSystem.step,
      readNext, found, acknowledge, persisted, settle,
      withState, idle]
  rw [stepped]
  exact ⟨rfl, rfl, rfl, sameClosed.trans accepts, sameGeneration, settled,
    sameSequence.trans nextSequence, sameSegmentId.trans_le nextSegmentId⟩

/-- Opening keeps segments of which nothing is read. -/
theorem Recovers.of_unread {after : List StoredSegment} {count : Nat}
    (recovers : Recovers stored read after count) (unread : read = 0) (nonempty : stored ≠ []) :
    after = stored ∧ count = 0 := by
  cases recovers with
  | kept => exact ⟨rfl, unread⟩
  | dropped filled stored | restarted filled => exact absurd (length_eq_zero_iff.mp unread) filled
  | created => exact absurd rfl nonempty

/-- A process of another generation finds all frames of the spool unread. -/
theorem Filled.restart (filled : Filled codec lifetime spool stored read) (someRead : 0 < read)
    {other : String} (foreign : lifetime.generation ≠ other) (named : other ≠ "") :
    ∃ next, ((SpoolLifetime.machine codec).runFrom lifetime
        [.restart other, .act .reopen]).system.spool = some next ∧
      next.state.pendingBytes = framesSize codec (storedFrames stored) := by
  have rests : Rests codec lifetime.system.directory lifetime.generation stored read := by
    rw [← filled.generation]
    exact filled.live.rests
  have nonempty : stored ≠ [] := filled.live.active filled.accepts
  have forgotten : Rests codec lifetime.system.directory other stored 0 := by
    refine ⟨rests.contents, rests.files, rests.unmarked, ?_⟩
    cases stored with
    | nil => exact absurd rfl nonempty
    | cons segment stored =>
      rcases rests.boundary with ⟨_, _, _⟩ | ⟨_, -⟩
      · refine .inr ⟨rfl, fun _ _ => ?_⟩
        grind
      · omega
  have met := createWithSegmentRemover_meets forgotten named
  have stepped : (SpoolLifetime.machine codec).runFrom lifetime [.restart other, .act .reopen] =
      { system := (lifetime.system.dropSpool lifetime.system.directory).reopen codec other
        generation := other
        writerStopped := false } := rfl
  rw [stepped]
  cases result : (createWithSegmentRemover codec lifetime.system.directory other).result with
  | error fault =>
    obtain ⟨-, segment, member, _⟩ := met.fails fault result
    have below := filled.live.segmentsBelow segment member
    have := filled.nextSegmentId
    have := filled.numbers
    omega
  | ok next =>
    obtain ⟨-, -, -, _, _, recovers, live⟩ := met.ends next result
    refine ⟨next, ?_, ?_⟩
    · simp [reopen, dropSpool, result, Except.toOption]
    · obtain ⟨rfl, rfl⟩ := recovers.of_unread rfl nonempty
      rw [live.pending, drop_zero]

theorem generation_step {action : LifetimeAction} (stays : action.staysInProcess = true) :
    (lifetime.step codec action).generation = lifetime.generation := by
  cases action with
  | restart generation => cases stays
  | act action =>
    rw [SpoolLifetime.step]
    split <;> rfl
  | appendFails =>
    rw [SpoolLifetime.step]
    split
    · rfl
    · split <;> rfl

theorem generation_runFrom {actions : List LifetimeAction}
    (stays : ∀ action ∈ actions, action.staysInProcess = true) :
    ((SpoolLifetime.machine codec).runFrom lifetime actions).generation = lifetime.generation :=
  @guarded_runFrom _ _ (machine codec)
    _
    (fun later => later.generation = lifetime.generation)
    (fun _ _ same staysNow => (generation_step staysNow).trans same) _ rfl _
    ((SpoolLifetime.machine codec).guarded_of_forall stays)

/-- After the first datagram is acknowledged there is room for others in its place. A process
that starts over the full spool counts the first datagram again. -/
theorem exists_overrun {first second : CapturedUdpDatagram}
    (smallFirst : Small codec first maximumSpoolBytes)
    (smallSecond : Small codec second ((first.frame 1).size codec)) :
    ∃ actions, ∃ spool ∈ ((SpoolLifetime.machine codec).run actions).system.spool,
      maximumSpoolBytes < spool.state.pendingBytes := by
  obtain ⟨spool, opened⟩ := @filled_start codec "g" (by decide)
  have empty : spool.state.pendingBytes = 0 := opened.live.pending
  obtain ⟨_, _, appended, -, single⟩ := opened.append smallFirst (by omega)
  obtain rfl := single 1 rfl
  obtain ⟨_, acknowledged⟩ := appended.acknowledgeFirst rfl
  obtain ⟨count, _, _, filled, ⟨_, frames⟩, isFull⟩ := acknowledged.fill smallSecond
  obtain ⟨next, isOpen, pending⟩ := Filled.restart filled Nat.one_pos (by
      rw [generation_runFrom, generation_runFrom]
      · show "g" ≠ "h"
        decide
      · decide
      · intro _ member
        rw [eq_of_mem_replicate member]
        rfl) (by decide)
  refine ⟨[.restart "g", .act .reopen] ++ [.act (.append first)] ++
    [.act .readNext, .act (.acknowledge 0 true), .act .commitAcknowledgement] ++
    List.replicate count (.act (.append second)) ++ [.restart "h", .act .reopen], next, ?_, ?_⟩
  · rw [Machine.run_append, Machine.run_append, Machine.run_append]
    exact isOpen
  · rw [filled.live.pending, ← frames] at isFull
    rw [pending, ← frames]
    simp only [storedFrames_cons, storedFrames_nil, singleton_append, drop_succ_cons,
      drop_zero, framesSize_cons] at isFull ⊢
    omega

end Overrun

theorem small_plainDatagram {payload : Bytes} (short : payload.length ≤ maximumPayloadBytes) :
    Small sampleCodec (plainDatagram payload) (234 + payload.length) where
  header_pos := fun sequence => by
    have := (length_plainHeader (UInt64.ofNat sequence)).1
    show 0 < (sampleCodec.encodeHeader (plainHeader (UInt64.ofNat sequence))).length
    omega
  header_le := fun sequence => by
    have := (length_plainHeader (UInt64.ofNat sequence)).2
    show (sampleCodec.encodeHeader (plainHeader (UInt64.ofNat sequence))).length ≤ _
    unfold maximumHeaderBytes
    omega
  payload_le := short
  size_le := fun sequence => by
    have := (length_plainHeader (UInt64.ofNat sequence)).2
    show frameLengthBytes +
      (sampleCodec.encodeHeader (plainHeader (UInt64.ofNat sequence))).length + payload.length ≤ _
    unfold frameLengthBytes
    omega

theorem size_plainDatagram (payload : Bytes) (sequence : Nat) :
    214 + payload.length ≤ ((plainDatagram payload).frame sequence).size sampleCodec := by
  have := (length_plainHeader (UInt64.ofNat sequence)).1
  show 214 + payload.length ≤ frameLengthBytes +
    (sampleCodec.encodeHeader (plainHeader (UInt64.ofNat sequence))).length + payload.length
  unfold frameLengthBytes
  omega

/-- The count does not stay within the budget in every reachable state. -/
theorem not_pending_le_maximumSpoolBytes :
    ¬ ∀ (codec : SpoolCodec) (actions : List LifetimeAction),
      ∀ spool ∈ ((SpoolLifetime.machine codec).run actions).system.spool,
        spool.state.pendingBytes ≤ maximumSpoolBytes := by
  have firstShort : (List.replicate 65000 0 : Bytes).length ≤ maximumPayloadBytes := by
    rw [length_replicate]
    decide
  have secondShort : (List.replicate 60000 0 : Bytes).length ≤ maximumPayloadBytes := by
    rw [length_replicate]
    decide
  have smallFirst : Small sampleCodec (plainDatagram (List.replicate 65000 0))
      maximumSpoolBytes := by
    refine (small_plainDatagram firstShort).mono ?_
    rw [length_replicate]
    decide
  have smallSecond : Small sampleCodec (plainDatagram (List.replicate 60000 0))
      (((plainDatagram (List.replicate 65000 0)).frame 1).size sampleCodec) := by
    refine (small_plainDatagram secondShort).mono ?_
    have size := size_plainDatagram (List.replicate 65000 0) 1
    rw [length_replicate] at size ⊢
    omega
  obtain ⟨actions, spool, _, _⟩ := exists_overrun smallFirst smallSecond
  grind

end SprakCapture.UdpRecording
