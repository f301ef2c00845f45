import SprakCapture.UdpRecording.SpoolOpening

/-!
# Runs of the UDP spool

Every action leads from one layout to another, and `Evolves` says how: as an action of
the threads of an open spool, or as an opening. From this follows, for every run, that
the acknowledged frames followed by the frames still to be read are the appended frames.
-/

namespace SprakCapture.UdpRecording

open Data List Option SpoolSystem StoredSegment
open SpoolSystem (dropSpool withState stageAfter)
open ReaderStage (acknowledgedRead)

/-- What one action does to the stored segments. -/
inductive Evolves (stored : List StoredSegment) (read : Nat) (after : List StoredSegment)
    (count : Nat) (written marked : List PlacedFrame) : Prop where
  | advances (advance : Advances stored read after count written marked)
  | recovers (recovery : Recovers stored read after count) (noneWritten : written = [])
      (noneMarked : marked = [])

variable (captured : CapturedUdpDatagram) {stage : ReaderStage} {segmentId : Nat}

section Steps

variable {codec : SpoolCodec} {generation : String} {system : SpoolSystem}
  {spool : UdpRecordingSpool} {stored : List StoredSegment} {read : Nat}

variable {directory : Directory} {issued : List SpoolEntry}

/-- What an open spool leaves on disk when its process dies. -/
theorem Live.crash (live : Live codec directory spool stage issued stored read) :
    ∃ after count, Advances stored (stage.acknowledgedRead read) after count [] [] ∧
      Rests codec directory spool.recordingGeneration after count := by
  have rests := live.rests
  cases stage with
  | idle | retiring segmentId => exact ⟨stored, read, .stays _ _, rests⟩
  | acknowledging => exact ⟨stored, read + 1, .stays _ _, rests⟩
  | retired segmentId =>
    obtain ⟨-, segment, first, -, complete, -⟩ := live.shape
    obtain ⟨rest, rfl⟩ := head?_eq_some_iff.mp first
    rw [complete]
    exact ⟨rest, 0, .drops segment rest, rests⟩

/-- What it leaves when it dies between starting a segment and writing to it. -/
theorem Live.crash_rotated {id : Nat} {rotated : UdpRecordingSpool} (nonempty : stored ≠ [])
    (inside : stage.acknowledgedRead read ≤ (placedFrames stored).length)
    (above : ∀ segment ∈ stored, segment.id < id)
    (live : Live codec directory rotated stage issued (stored ++ [⟨id, []⟩]) read) :
    ∃ after count, Advances stored (stage.acknowledgedRead read) after count [] [] ∧
      Rests codec directory rotated.recordingGeneration after count := by
  have rests := live.rests
  have rotates : Advances stored (stage.acknowledgedRead read) (stored ++ [⟨id, []⟩])
      (stage.acknowledgedRead read) [] [] := .rotates [] nonempty inside above
  cases stage with
  | retired segmentId =>
    obtain ⟨-, segment, first, -, complete, -⟩ := live.shape
    obtain ⟨_, rest, rfl⟩ := exists_cons_of_ne_nil nonempty
    cases first
    refine ⟨rest ++ [⟨id, []⟩], 0, ?_, rests⟩
    rw [complete]
    exact .rotatesAndDrops above
  | _ => exact ⟨_, _, rotates, rests⟩

/-- The result of an action on a system. -/
def Leads (codec : SpoolCodec) (generation : String) (system after : SpoolSystem)
    (stored : List StoredSegment) (read : Nat) : Prop :=
  ∃ final count written marked, Evolves stored read final count written marked ∧
    Layout codec generation after final count ∧
    after.appended = system.appended ++ written ∧
    after.acknowledged = system.acknowledged ++ marked

theorem leads_self (layout : Layout codec generation system stored read) :
    Leads codec generation system system stored read :=
  ⟨stored, read, [], [], .advances (.stays _ _), layout, by simp, by simp⟩

theorem leads_dropSpool {after : List StoredSegment} {count : Nat}
    (evolves : Evolves stored read after count [] [])
    (rests : Rests codec directory generation after count) :
    Leads codec generation system (system.dropSpool directory) stored read :=
  ⟨after, count, [], [], evolves, rests, by simp [dropSpool], by simp [dropSpool]⟩

/-- A step of an open spool that neither writes nor acknowledges a frame. -/
theorem leads_live {after : SpoolSystem} {final : List StoredSegment} {count : Nat}
    (opened : after.spool = some spool) (sameGeneration : spool.recordingGeneration = generation)
    (live : Live codec after.directory spool after.stage after.issued final count)
    (evolves : Evolves stored read final (after.stage.acknowledgedRead count) [] [])
    (sameAppended : after.appended = system.appended)
    (sameAcknowledged : after.acknowledged = system.acknowledged) :
    Leads codec generation system after stored read := by
  refine ⟨final, _, [], [], evolves, ?_, ?_, ?_⟩
  · grind [Layout]
  · rw [append_nil]
    exact sameAppended
  · rw [append_nil]
    exact sameAcknowledged

/-! ### Opening -/

theorem createWithSegmentRemover_unnamed (codec : SpoolCodec) (directory : Directory) :
    createWithSegmentRemover codec directory "" = ⟨[], Outcome.raise .emptyGeneration⟩ := rfl

theorem leads_reopen (rests : Rests codec system.directory generation stored read) :
    Leads codec generation system (system.reopen codec generation) stored read := by
  by_cases named : generation = ""
  · subst named
    refine ⟨stored, read, [], [], .advances (.stays _ _), ?_, ?_, ?_⟩
    · exact rests
    · simp [reopen]
    · simp [reopen]
  · have met := createWithSegmentRemover_meets rests named
    cases result : (createWithSegmentRemover codec system.directory generation).result with
    | error =>
      obtain ⟨final, count, recovers, finalRests⟩ := met.throughout.take
        (createWithSegmentRemover codec system.directory generation).operations.length
      rw [take_length] at finalRests
      refine ⟨final, count, [], [], .recovers recovers rfl rfl, ?_, by simp [reopen],
        by simp [reopen]⟩
      simp only [reopen, result]
      exact finalRests
    | ok spool =>
      obtain ⟨sameGeneration, -, -, final, count, recovers, live⟩ := met.ends spool result
      refine ⟨final, count, [], [], .recovers recovers rfl rfl, ?_, by simp [reopen],
        by simp [reopen]⟩
      simp only [reopen, result]
      exact ⟨sameGeneration, count, rfl, live⟩

theorem leads_reopenInterrupted
    (rests : Rests codec system.directory generation stored read) (operations : Nat) :
    Leads codec generation system (system.reopenInterrupted codec generation operations)
      stored read := by
  by_cases named : generation = ""
  · subst named
    refine leads_dropSpool (.advances (.stays _ _)) ?_
    rw [createWithSegmentRemover_unnamed]
    simpa using rests
  · obtain ⟨_, _, recovers, finalRests⟩ :=
      (createWithSegmentRemover_meets rests named).throughout.take operations
    exact leads_dropSpool (.recovers recovers rfl rfl) finalRests

/-! ### The writer -/

section Open

variable (sameGeneration : spool.recordingGeneration = generation)
  (live : Live codec system.directory spool system.stage system.issued stored read)

include sameGeneration live

theorem leads_append :
    Leads codec generation system (system.append codec spool captured) stored
      (system.stage.acknowledgedRead read) := by
  have inside : system.stage.acknowledgedRead read ≤ (placedFrames stored).length := by
    rw [length_placedFrames]
    exact live.acknowledgedRead_le
  rcases live.append_cases captured rfl with
    ⟨_, operations, result, after⟩ |
    ⟨_, _, frame, operation, rfl, operations, result, after⟩ |
    ⟨_, frame, operation, _, nonempty, above, operations, result, -, after⟩
  · refine ⟨stored, _, [], [], .advances (.stays _ _), ?_, ?_, by simp [append, withState]⟩
    · grind [Layout, append, withState]
    · simp [append, result, Except.toOption]
  · refine ⟨_, _, _, [], .advances (.writes frame inside), ?_, ?_, by simp [append, withState]⟩
    · grind [Layout, append, withState]
    · simp [append, result, Except.toOption]
  · refine ⟨_, _, _, [], .advances (.rotates [frame] nonempty inside above), ?_, ?_,
      by simp [append, withState]⟩
    · grind [Layout, append, withState]
    · simp [append, result, Except.toOption, placed]

theorem leads_crash :
    Leads codec generation system (system.dropSpool system.directory) stored
      (system.stage.acknowledgedRead read) := by
  obtain ⟨_, _, advance, rests⟩ := live.crash
  rw [sameGeneration] at rests
  exact leads_dropSpool (.advances advance) rests

theorem leads_appendInterrupted :
    Leads codec generation system (system.appendInterrupted codec spool captured) stored
      (system.stage.acknowledgedRead read) := by
  have inside : system.stage.acknowledgedRead read ≤ (placedFrames stored).length := by
    rw [length_placedFrames]
    exact live.acknowledgedRead_le
  have crashed : Leads codec generation system (system.dropSpool system.directory) stored
      (system.stage.acknowledgedRead read) := leads_crash sameGeneration live
  unfold appendInterrupted
  dsimp only
  rcases live.append_cases captured rfl with
    ⟨_, operations, -⟩ | ⟨_, _, frame, operation, rfl, operations, -⟩ |
    ⟨_, frame, operation, _, nonempty, above, operations, -, started, -⟩
  · rw [operations]
    exact crashed
  · rw [operations]
    exact crashed
  · rw [operations]
    obtain ⟨_, _, advance, rests⟩ := Live.crash_rotated nonempty inside above started
    rw [show spool.recordingGeneration = generation from sameGeneration] at rests
    exact leads_dropSpool (.advances advance) rests

theorem leads_close :
    Leads codec generation system (system.withState spool { spool.state with closed := true })
      stored (system.stage.acknowledgedRead read) := by
  exact leads_live rfl sameGeneration live.close (.advances (.stays _ _)) rfl rfl

end Open

/-! ### The reader -/

section Reader

variable (sameGeneration : spool.recordingGeneration = generation)

include sameGeneration

theorem leads_readNext (opened : system.spool = some spool) (idle : system.stage = .idle)
    (live : Live codec system.directory spool .idle system.issued stored read) :
    Leads codec generation system (system.readNext codec spool) stored read := by
  have unchanged : Leads codec generation system system stored read := by
    apply leads_self
    unfold Layout
    rw [opened, idle]
    exact ⟨sameGeneration, read, rfl, live⟩
  unfold readNext
  cases stored with
  | nil =>
    rw [live.readNextPass_nil]
    exact unchanged
  | cons segment rest =>
    rcases Nat.lt_or_ge read segment.frames.length with inside | complete
    · have current : segment.frames[read]? = some segment.frames[read] :=
        getElem?_eq_getElem inside
      rw [live.readNextPass_current current]
      have issued := live.issue current
      rw [← idle] at issued
      refine leads_live opened sameGeneration issued ?_ rfl rfl
      rw [idle]
      exact .advances (.stays _ _)
    · obtain rfl : read = segment.frames.length :=
        Nat.le_antisymm (live.read_le segment rfl) complete
      rw [live.readNextPass_complete]
      by_cases blocked : spool.state.retirementBlocked = true
      · rw [if_pos blocked]
        exact unchanged
      rw [if_neg blocked]
      by_cases waits : rest = [] ∧ spool.state.closed = false
      · rw [if_pos waits]
        exact unchanged
      rw [if_neg waits]
      obtain ⟨begun, retiring⟩ := live.retireCompletedFront waits
      rw [begun]
      exact leads_live rfl sameGeneration retiring (.advances (.stays _ _)) rfl rfl

theorem leads_acknowledge (opened : system.spool = some spool) (idle : system.stage = .idle)
    (live : Live codec system.directory spool .idle system.issued stored read) {entry : SpoolEntry}
    (member : entry ∈ system.issued) (persists : Bool) :
    Leads codec generation system (system.acknowledge codec spool entry persists) stored read := by
  have unchanged : Leads codec generation system system stored read := by
    apply leads_self
    unfold Layout
    rw [opened, idle]
    exact ⟨sameGeneration, read, rfl, live⟩
  unfold acknowledge
  dsimp only
  split
  · exact unchanged
  rename_i accepted
  cases persists with
  | false => exact unchanged
  | true =>
    have checked : checkAcknowledgement spool.state entry.acknowledgement
        .acknowledgementOutOfRange = .ok () := by
      cases check : checkAcknowledgement spool.state entry.acknowledgement
          .acknowledgementOutOfRange with
      | ok => rfl
      | error =>
        rw [persistAcknowledgement, check] at accepted
        cases accepted
    obtain ⟨_, rest, _, rfl, current, rfl⟩ := live.current_of_accepted member checked
    obtain ⟨_, persisted, acknowledging⟩ := live.acknowledge current
    refine ⟨_, _, [], _, .advances (.marks rest current), ?_, by simp, rfl⟩
    simp only [opened, persisted]
    exact ⟨sameGeneration, read, rfl, acknowledging⟩

theorem leads_settle {acknowledgement : SpoolAcknowledgement}
    (live : Live codec system.directory spool (.acknowledging acknowledgement) system.issued
      stored read) :
    Leads codec generation system (system.settle spool acknowledgement) stored (read + 1) := by
  have settled := live.commitAcknowledgement
  refine leads_live rfl sameGeneration settled ?_ rfl rfl
  have sameBoundary : (stageAfter
      (commitAcknowledgement spool.state acknowledgement).2).acknowledgedRead (read + 1) =
        read + 1 := by
    unfold stageAfter
    split <;> rfl
  show Evolves stored (read + 1) stored ((stageAfter
    (commitAcknowledgement spool.state acknowledgement).2).acknowledgedRead (read + 1)) [] []
  rw [sameBoundary]
  exact .advances (.stays _ _)

theorem leads_removeSegment (opened : system.spool = some spool)
    (live : Live codec system.directory spool (.retiring segmentId) system.issued stored read)
    (succeeds : Bool) :
    Leads codec generation system (system.removeSegment spool segmentId succeeds) stored read := by
  cases succeeds with
  | true =>
    exact leads_live opened sameGeneration live.removeSegment (.advances (.stays _ _)) rfl rfl
  | false =>
    exact leads_live rfl sameGeneration live.restoreRetirement (.advances (.stays _ _)) rfl rfl

theorem leads_finishRetirement
    (live : Live codec system.directory spool (.retired segmentId) system.issued stored read)
    (cursorRemoved : Bool) :
    Leads codec generation system (system.finishRetirement spool segmentId cursorRemoved)
      stored read := by
  obtain ⟨segment, rest, rfl, rfl, finished⟩ := live.finishRetirement cursorRemoved
  exact leads_live rfl sameGeneration finished (.advances (.drops segment rest)) rfl rfl

end Reader

theorem leads_step (layout : Layout codec generation system stored read) (action : SpoolAction) :
    Leads codec generation system (system.step codec generation action) stored read := by
  have unchanged := leads_self layout
  cases opened : system.spool with
  | none =>
    have rests : Rests codec system.directory generation stored read := by
      rw [Layout, opened] at layout
      exact layout
    cases action with
    | reopen =>
      rw [step, opened]
      exact leads_reopen rests
    | reopenInterrupted operations =>
      rw [step, opened]
      exact leads_reopenInterrupted rests operations
    | crash => exact leads_dropSpool (.advances (.stays _ _)) rests
    | _ => simpa only [step, opened] using unchanged
  | some spool =>
    obtain ⟨sameGeneration, count, rfl, live⟩ : spool.recordingGeneration = generation ∧
        ∃ count, read = system.stage.acknowledgedRead count ∧
          Live codec system.directory spool system.stage system.issued stored count := by
      rw [Layout, opened] at layout
      exact layout
    cases action with
    | reopen => simpa only [step, opened, isSome_some, if_true] using unchanged
    | reopenInterrupted operations =>
      grind [step]
    | crash => exact leads_crash sameGeneration live
    | append captured =>
      grind [step, leads_append]
    | appendInterrupted captured =>
      grind [step, leads_appendInterrupted]
    | close => simpa only [step, opened] using leads_close sameGeneration live
    | readNext =>
      cases stage : system.stage with
      | idle =>
        rw [stage] at live
        simpa only [step, opened, stage, acknowledgedRead] using
          leads_readNext sameGeneration opened stage live
      | _ => simpa only [step, opened, stage] using unchanged
    | acknowledge issue persists =>
      cases stage : system.stage with
      | idle =>
        cases found : system.issued[issue]? with
        | none => simpa only [step, opened, stage, found] using unchanged
        | some =>
          rw [stage] at live
          simpa only [step, opened, stage, found, acknowledgedRead] using
            leads_acknowledge sameGeneration opened stage live
              (mem_of_getElem? found) persists
      | _ => simpa only [step, opened, stage] using unchanged
    | commitAcknowledgement =>
      cases stage : system.stage with
      | acknowledging acknowledgement =>
        rw [stage] at live
        simpa only [step, opened, stage, acknowledgedRead] using
          leads_settle sameGeneration live
      | _ => simpa only [step, opened, stage] using unchanged
    | removeSegment succeeds =>
      cases stage : system.stage with
      | retiring segmentId =>
        rw [stage] at live
        simpa only [step, opened, stage, acknowledgedRead] using
          leads_removeSegment sameGeneration opened live succeeds
      | _ => simpa only [step, opened, stage] using unchanged
    | finishRetirement cursorRemoved =>
      cases stage : system.stage with
      | retired segmentId =>
        rw [stage] at live
        simpa only [step, opened, stage, acknowledgedRead] using
          leads_finishRetirement sameGeneration live cursorRemoved
      | _ => simpa only [step, opened, stage] using unchanged

end Steps

/-! ### The history of a run -/

/-- The frames that are gone from the directory, followed by the stored ones, are the
appended frames; those gone and the read ones are the acknowledged frames. -/
structure History (appended acknowledged : List PlacedFrame) (stored : List StoredSegment)
    (read : Nat) (gone : List PlacedFrame) : Prop where
  appended_eq : appended = gone ++ placedFrames stored
  acknowledged_eq : acknowledged = gone ++ (placedFrames stored).take read

section Histories

variable {stored after : List StoredSegment} {read count : Nat}
  {appended acknowledged gone written marked : List PlacedFrame}

section

variable (history : History appended acknowledged stored read gone)
include history

theorem History.advance (advance : Advances stored read after count written marked) :
    ∃ left, History (appended ++ written) (acknowledged ++ marked) after count left := by
  obtain ⟨rfl, rfl⟩ := history
  cases advance with
  | stays => exact ⟨gone, by simp, by simp⟩
  | @writes front last read frame inside =>
    have frames : placedFrames (front ++ [⟨last.id, last.frames ++ [frame]⟩]) =
        placedFrames (front ++ [last]) ++ [⟨last.id, frame⟩] := by
      simp [placed]
    refine ⟨gone, ?_, ?_⟩
    · rw [frames, append_assoc]
    grind
  | rotates frames _ inside above =>
    refine ⟨gone, by simp, ?_⟩
    simp_all
  | @marks segment read frame stored current =>
    refine ⟨gone, by simp, ?_⟩
    have placedCurrent : (placedFrames (segment :: stored))[read]? = some ⟨segment.id, frame⟩ := by
      have inside := (List.getElem?_eq_some_iff.mp current).1
      rw [placedFrames_cons, getElem?_append_left (by simpa using inside),
        placed, getElem?_map, current]
      rfl
    rw [take_add_one, placedCurrent, toList_some, append_assoc]
  | drops segment stored => exact ⟨gone ++ segment.placed, by simp, by simp⟩
  | @rotatesAndDrops segment stored id above =>
    refine ⟨gone ++ segment.placed, ?_, by simp⟩
    simp [placed]

theorem History.recover (recovers : Recovers stored read after count) :
    ∃ left, History appended acknowledged after count left := by
  obtain ⟨rfl, rfl⟩ := history
  cases recovers with
  | kept => exact ⟨gone, rfl, rfl⟩
  | @dropped segment filled stored => exact ⟨gone ++ segment.placed, by simp, by simp⟩
  | @restarted segment filled =>
    exact ⟨gone ++ segment.placed, by simp [placed], by simp⟩
  | created => exact ⟨gone, by simp [placed], by simp⟩

theorem History.evolve (evolves : Evolves stored read after count written marked) :
    ∃ left, History (appended ++ written) (acknowledged ++ marked) after count left := by
  cases evolves with
  | advances advance => exact history.advance advance
  | recovers recovery noneWritten noneMarked =>
    rw [noneWritten, noneMarked, append_nil, append_nil]
    exact history.recover recovery

end

end Histories

/-- A layout with the history that led to it. -/
def Accounted (codec : SpoolCodec) (generation : String) (system : SpoolSystem) : Prop :=
  ∃ stored read gone, Layout codec generation system stored read ∧
    History system.appended system.acknowledged stored read gone

theorem accounted_fresh (codec : SpoolCodec) (generation : String) :
    Accounted codec generation fresh :=
  ⟨[], 0, [], ⟨.nil, rfl, nofun, rfl⟩, rfl, rfl⟩

theorem accounted_step {codec : SpoolCodec} {generation : String} {system : SpoolSystem}
    (accounted : Accounted codec generation system) (action : SpoolAction) :
    Accounted codec generation (system.step codec generation action) := by
  obtain ⟨_, _, _, layout, history⟩ := accounted
  obtain ⟨final, count, _, _, evolves, next, appended, acknowledged⟩ :=
    leads_step layout action
  obtain ⟨left, nextHistory⟩ := history.evolve evolves
  rw [← appended, ← acknowledged] at nextHistory
  exact ⟨final, count, left, next, nextHistory⟩

/-- Every run leaves the directory and the spool accounted for. -/
theorem accounted_run (codec : SpoolCodec) (generation : String) (actions : List SpoolAction) :
    Accounted codec generation ((machine codec generation).run actions) :=
  @Machine.invariant_run _ _ (machine codec generation) _
    (accounted_fresh codec generation) (fun _ action accounted => accounted_step accounted action)
    _

end SprakCapture.UdpRecording
