import SprakCapture.Capture.RecordingChains

/-!
# Finished transactions

A transaction that was committed, blocked, failed or cancelled keeps its status, its
headers and its bodies until it is removed, and it does not come back after that. Only
the annotations of the user and the packets can still change.
-/

namespace SprakCapture.Capture

open Data RecordingSession

variable {env : Environment} {record : TransactionRecord}

namespace RecordingSession

open RecordingStateInner

/-- A known transaction is as it was, or it is gone. -/
structure Keeps (transactionId : Uuid) (before : TransactionRecord) (session : RecordingSession) :
    Prop where
  known : transactionId ∈ session.bodyStore.known
  untouched : ∀ {after}, session.state.transactions.get? transactionId = some after →
    Untouched before after

/-- A known transaction is gone. -/
structure Gone (transactionId : Uuid) (session : RecordingSession) : Prop where
  known : transactionId ∈ session.bodyStore.known
  absent : session.state.transactions.get? transactionId = none

/-- A record that is replaced, seen from after the replacement. -/
theorem get?_of_withRecord {state : RecordingStateInner} {replaced identifier : Uuid}
    {before after record : TransactionRecord}
    (found : state.transactions.get? replaced = some before)
    (stored : (state.withRecord replaced after).transactions.get? identifier = some record) :
    state.transactions.get? identifier = some before ∧ record = after ∨
      state.transactions.get? identifier = some record := by
  grind [RecordingStateInner.withRecord]

variable {before after : RecordingSession} {transactionId : Uuid}

theorem record_of_edit (edit : SessionEdit env before after)
    (known : transactionId ∈ before.bodyStore.known)
    (stored : after.state.transactions.get? transactionId = some record) :
    ∃ earlier, before.state.transactions.get? transactionId = some earlier ∧
      (earlier.summary.status ≠ .pending → Untouched earlier record) := by
  have same : before.state.transactions.get? transactionId = some record →
      ∃ earlier, before.state.transactions.get? transactionId = some earlier ∧
        (earlier.summary.status ≠ .pending → Untouched earlier record) :=
    fun stored => ⟨record, stored, fun _ => .refl record⟩
  cases edit with
  | evict => exact same (get?_of_evict stored)
  | amend replaced _ _ found amends =>
    rcases get?_of_withRecord found stored with ⟨earlier, rfl⟩ | unchanged
    · exact ⟨_, earlier, amends.untouched⟩
    · exact same unchanged
  | finish replaced _ _ _ found finishes =>
    rw [insertResponseEntityEntry_eq] at stored
    rcases get?_of_withRecord found (get?_of_evict stored) with ⟨earlier, rfl⟩ | unchanged
    · exact ⟨_, earlier, fun finished => absurd finishes.pending finished⟩
    · exact same unchanged
  | register replaced _ _ _ _ _ _ found registers =>
    rcases get?_of_withRecord found stored with ⟨earlier, rfl⟩ | unchanged
    · exact ⟨_, earlier, fun finished => absurd registers.pending finished⟩
    · exact same unchanged
  | enroll =>
    unfold RecordingStateInner.enroll at stored
    rw [Table.get?_insert] at stored
    split at stored
    · rename_i equal
      rw [equal] at known
      exact absurd known (env.fresh _)
    · exact same stored
  | removeAll => cases stored
  | _ => exact same stored

theorem Keeps.edit (finished : record.summary.status ≠ .pending)
    (edit : SessionEdit env before after) (keeps : Keeps transactionId record before) :
    Keeps transactionId record after where
  known := edit.known keeps.known
  untouched := by
    intro _ stored
    obtain ⟨_, found, untouched⟩ := record_of_edit edit keeps.known stored
    have kept := keeps.untouched found
    exact kept.trans (untouched (kept.status ▸ finished))

theorem Gone.edit (edit : SessionEdit env before after) (gone : Gone transactionId before) :
    Gone transactionId after where
  known := edit.known gone.known
  absent := by
    by_contra present
    obtain ⟨_, stored⟩ := Option.ne_none_iff_exists'.mp present
    obtain ⟨_, found, _⟩ := record_of_edit edit gone.known stored
    rw [gone.absent] at found
    cases found

end RecordingSession

/-- A finished transaction is untouched as long as it is stored, and once it is gone it does not
come back. -/
theorem finished_untouched_run (env : Environment) (configuration : RecordingConfiguration)
    (startedAtMilliseconds : UInt64) (first later : List RecordingAction) {transactionId : Uuid}
    {record : TransactionRecord}
    (found : ((recordingMachine env configuration startedAtMilliseconds).run
      first).state.transactions.get? transactionId = some record)
    (finished : record.summary.status ≠ .pending) :
    (∀ after, ((recordingMachine env configuration startedAtMilliseconds).run
        (first ++ later)).state.transactions.get? transactionId = some after →
      Untouched record after) ∧
    (((recordingMachine env configuration startedAtMilliseconds).run
        (first ++ later)).state.transactions.get? transactionId = none →
      ∀ more, ((recordingMachine env configuration startedAtMilliseconds).run
        (first ++ later ++ more)).state.transactions.get? transactionId = none) := by
  have shaped := @shaped_run env configuration startedAtMilliseconds
  have keeps := @edits_runFrom env configuration startedAtMilliseconds
    (RecordingSession.Keeps transactionId record)
    (fun edit _ keeps => keeps.edit finished edit) _ (shaped first)
    ⟨(shaped first).known found, fun stored => by
      rw [found] at stored
      cases stored
      exact .refl record⟩ later
  rw [← Machine.run_append] at keeps
  refine ⟨fun after stored => keeps.untouched stored, fun absent more => ?_⟩
  have gone := @edits_runFrom env configuration startedAtMilliseconds
    (RecordingSession.Gone transactionId) (fun edit _ gone => gone.edit edit) _
    (shaped (first ++ later)) ⟨keeps.known, absent⟩ more
  rw [← Machine.run_append] at gone
  exact gone.absent

/-- A transaction that was committed is annotated, and a second commit is refused. -/
theorem finished_untouched_commit :
    ∃ after, (smallMachine.run
        ([.beginTransaction .plain [], .commit 2 ⟨206, 1, .empty⟩] ++
          [.updateUserFields 2 ⟨some ⟨['n'], 0⟩, none, none⟩,
            .commit 2 ⟨404, 2, .empty⟩])).state.transactions.get? 2 = some after ∧
      after.summary.statusCode = some 206 := by
  have shown : ((smallMachine.run [.beginTransaction .plain [],
      .commit 2 ⟨206, 1, .empty⟩]).state.transactions.get? 2).map
        (fun record => (record.summary.status, record.summary.statusCode)) =
      some (.complete, some 206) := by decide +kernel
  obtain ⟨record, found, fields⟩ := Option.map_eq_some_iff.mp shown
  obtain ⟨status, statusCode⟩ := Prod.mk.inj fields
  have finished : record.summary.status ≠ .pending := by
    rw [status]
    decide
  have kept : ((smallMachine.run
      ([.beginTransaction .plain [], .commit 2 ⟨206, 1, .empty⟩] ++
        [.updateUserFields 2 ⟨some ⟨['n'], 0⟩, none, none⟩,
          .commit 2 ⟨404, 2, .empty⟩])).state.transactions.get? 2).isSome = true := by
    decide +kernel
  obtain ⟨after, later⟩ := Option.isSome_iff_exists.mp kept
  have untouched := (finished_untouched_run .counting .small 0
    [.beginTransaction .plain [], .commit 2 ⟨206, 1, .empty⟩]
    [.updateUserFields 2 ⟨some ⟨['n'], 0⟩, none, none⟩, .commit 2 ⟨404, 2, .empty⟩]
    found finished).1 after later
  have sameCode := congrArg TransactionSummary.statusCode untouched.summary
  exact ⟨after, later, sameCode.trans statusCode⟩

end SprakCapture.Capture
