import SprakCapture.Capture.RecordingEdits

/-!
# The chain of each call

The calls of the session are followed to their edits, first the cleanup that most of
them contain and then the calls themselves (`step_edits`).
-/

namespace SprakCapture.Capture

open Data List BodyStore RecordingStateInner BodyRef

variable {env : Environment}

/-! ### Cleanups -/

namespace RecordingSession

/-- The session with another body store. -/
def withStore (session : RecordingSession) (bodyStore : BodyStore) : RecordingSession :=
  { session with bodyStore }

section

variable (session : RecordingSession)
include session

theorem background_edits (await : Await) :
    SessionEdits env session (session.withStore (session.bodyStore.background env await)) := by
  have folded : ∀ (events : List StoreEvent) (session : RecordingSession),
      SessionEdits env session
        (session.withStore (events.foldl (event env) session.bodyStore)) := by
    intro events
    induction events with
    | nil => exact fun _ => .refl
    | cons first _ ih =>
      intro session
      exact .head (.event session first) (ih _)
  exact folded await.background session

/-- The file of a queued body is deleted. -/
theorem remove_edits {body : BodyRef} (queued : body ∈ session.state.cleanupQueue)
    (script : List Await) :
    SessionEdits env session (session.withStore (session.bodyStore.remove env body script).2.1) := by
  unfold remove
  split
  · exact .refl
  rename_i path spilled
  cases script with
  | nil => exact .refl
  | cons await =>
    have file : body.file = some path.name := by
      unfold file
      rw [spilled]
    have others := @background_edits env session await
    have deleted := others.tail (.deleteFile _ path.name (.inr ⟨body, queued, file⟩))
    dsimp only
    cases await.result with
    | done => exact deleted
    | failed => exact others
    | dropped =>
      dsimp only
      split
      · exact deleted
      · exact others

omit session in
theorem drainQueue_edits (queue : List BodyRef) (session : RecordingSession)
    (same : session.state.cleanupQueue = queue) (script : List Await) :
    SessionEdits env session (drainQueue env queue session script).2.1 := by
  induction queue generalizing session script with
  | nil => exact .refl
  | cons body rest ih =>
    have removed := @remove_edits env session body (same ▸ mem_cons_self) script
    unfold drainQueue
    cases outcome : session.bodyStore.remove env body script with
    | mk result after =>
      rw [outcome] at removed
      cases result with
      | error => exact removed
      | ok =>
        have charged := (removed.tail (.dequeue _ body rest same)).tail
          (.charge _ (session.state.totalMetadataBytes.saturatingSub
            (cleanupBodyReferenceMetadataBytes env.layout body)))
        exact charged.trans (ih _ rfl after.2)

theorem cleanupOrphanedSpills_edits (script : List Await) :
    SessionEdits env session
      (session.withStore (session.bodyStore.cleanupOrphanedSpills env script).2.1) := by
  induction script generalizing session with
  | nil =>
    unfold cleanupOrphanedSpills
    split <;> exact .refl
  | cons await _ ih =>
    unfold cleanupOrphanedSpills
    split
    · exact .refl
    rename_i name others orphans
    have background := @background_edits env session await
    have orphan : name ∈ (session.bodyStore.background env await).orphanedSpills :=
      (grows_background env _ await).orphans (orphans ▸ mem_cons_self)
    have deleted := background.tail (.deleteFile _ name (.inl orphan))
    cases await.result with
    | done => exact (deleted.tail (.forgetOrphans _ (· != name))).trans (ih _)
    | failed => exact background
    | dropped =>
      dsimp only
      split
      · exact deleted
      · exact background

section

variable (unused : session.state.directoryCleanupPending = true ∨ session.state.transactions = ∅)
include unused

/-- The directory is removed only while no transaction can be in it. -/
theorem removeDirectory_edits (script : List Await) :
    SessionEdits env session
      (session.withStore (session.bodyStore.removeDirectory env script).2.1) := by
  unfold removeDirectory
  cases script with
  | nil => exact .refl
  | cons await =>
    have background := @background_edits env session await
    dsimp only
    cases await.result with
    | _ => exact background.tail (.deleteFiles _ _ unused)

theorem clear_edits (script : List Await) :
    SessionEdits env session (session.withStore (session.bodyStore.clear env script).2.1) := by
  have removed := @removeDirectory_edits env _ unused script
  unfold clear
  cases outcome : session.bodyStore.removeDirectory env script with
  | mk result after =>
    obtain ⟨_, remaining⟩ := after
    rw [outcome] at removed
    cases result with
    | error => exact removed
    | ok =>
      cases remaining with
      | nil => exact removed
      | cons await =>
        have background := removed.trans (background_edits _ await)
        dsimp only
        cases await.result with
        | done =>
          have forgotten := background.tail (.forgetOrphans _ fun _ => false)
          simpa [withStore] using forgotten
        | failed | dropped => exact background

theorem close_edits (script : List Await) :
    SessionEdits env session (session.withStore (session.bodyStore.close env script).2.1) := by
  have removed := @removeDirectory_edits env _ unused script
  unfold BodyStore.close
  cases outcome : session.bodyStore.removeDirectory env script with
  | mk result =>
    rw [outcome] at removed
    cases result with
    | error => exact removed
    | ok =>
      have forgotten := removed.tail (.forgetOrphans _ fun _ => false)
      simpa [withStore] using forgotten

end

theorem clearDirectory_edits (script : List Await) :
    SessionEdits env session (clearDirectory env session script).2.1 := by
  unfold clearDirectory
  split
  · rename_i pending
    have cleared := @clear_edits env _ (.inl pending) script
    cases outcome : session.bodyStore.clear env script with
    | mk result =>
      rw [outcome] at cleared
      cases result with
      | error => exact cleared
      | ok => exact cleared.tail (.cleared _)
  · exact .refl

theorem drainCleanupQueueLocked_edits (script : List Await) :
    SessionEdits env session (drainCleanupQueueLocked env session script).2.1 := by
  have drained := @drainQueue_edits env session.state.cleanupQueue _ rfl script
  unfold drainCleanupQueueLocked
  cases outcome : drainQueue env session.state.cleanupQueue session script with
  | mk result after =>
    obtain ⟨middle, remaining⟩ := after
    rw [outcome] at drained
    cases result with
    | error stop => exact drained
    | ok value =>
      have cleaned := drained.trans (cleanupOrphanedSpills_edits middle remaining)
      dsimp only
      cases orphans : middle.bodyStore.cleanupOrphanedSpills env remaining with
      | mk result after =>
        rw [orphans] at cleaned
        cases result with
        | error stop => exact cleaned
        | ok value => exact cleaned.trans (clearDirectory_edits _ _)

end

/-- What a cleanup leaves alone. -/
structure Cleans (before after : RecordingStateInner) : Prop where
  transactions : after.transactions = before.transactions
  order : after.order = before.order
  nextSequence : after.nextSequence = before.nextSequence
  recordingSessionId : after.recordingSessionId = before.recordingSessionId
  totalBodyBytes : after.totalBodyBytes = before.totalBodyBytes
  limits : after.limits = before.limits
  closed : after.closed = before.closed

theorem Cleans.refl (state : RecordingStateInner) : Cleans state state :=
  ⟨rfl, rfl, rfl, rfl, rfl, rfl, rfl⟩

theorem drainQueue_cleans (queue : List BodyRef) (session : RecordingSession)
    (script : List Await) :
    Cleans session.state (drainQueue env queue session script).2.1.state := by
  induction queue generalizing session script with
  | nil => exact .refl _
  | cons body rest ih =>
    unfold drainQueue
    cases session.bodyStore.remove env body script with
    | mk result after =>
      cases result with
      | error => exact .refl _
      | ok =>
        have later := ih
          { bodyStore := after.1
            state :=
              { session.state with
                cleanupQueue := rest
                totalMetadataBytes := session.state.totalMetadataBytes.saturatingSub
                  (cleanupBodyReferenceMetadataBytes env.layout body) } } after.2
        exact ⟨later.transactions, later.order, later.nextSequence,
          later.recordingSessionId, later.totalBodyBytes, later.limits, later.closed⟩

theorem drainCleanupQueueLocked_cleans (session : RecordingSession) (script : List Await) :
    Cleans session.state (drainCleanupQueueLocked env session script).2.1.state ∧
      ((drainCleanupQueueLocked env session script).1 = .ok () →
        (drainCleanupQueueLocked env session script).2.1.state.directoryCleanupPending =
          false) := by
  have drained := @drainQueue_cleans env session.state.cleanupQueue session script
  unfold drainCleanupQueueLocked
  cases outcome : drainQueue env session.state.cleanupQueue session script with
  | mk result after =>
    obtain ⟨middle, remaining⟩ := after
    rw [outcome] at drained
    cases result with
    | error stop => exact ⟨drained, nofun⟩
    | ok value =>
      dsimp only
      cases middle.bodyStore.cleanupOrphanedSpills env remaining with
      | mk result after =>
        cases result with
        | error stop => exact ⟨drained, nofun⟩
        | ok value =>
          dsimp only
          unfold clearDirectory
          split
          · cases after.1.clear env after.2 with
            | mk result =>
              cases result with
              | error stop => exact ⟨drained, nofun⟩
              | ok value =>
                exact ⟨⟨drained.transactions, drained.order, drained.nextSequence,
                  drained.recordingSessionId, drained.totalBodyBytes, drained.limits,
                  drained.closed⟩, fun _ => rfl⟩
          simp_all

theorem finishWith_edits {Result : Type} (result : Result) (session : RecordingSession)
    (script : List Await) : SessionEdits env session (finishWith env result session script).2 := by
  have drained := @drainCleanupQueueLocked_edits env session script
  grind [finishWith]

/-- A call that begins with a cleanup goes on with the same transactions. -/
theorem startWith_edits {Result : Type} {session : RecordingSession} {script : List Await}
    {continuation : RecordingSession → List Await → Except Stop Result × RecordingSession}
    (shaped : session.Shaped)
    (continued : ∀ (middle : RecordingSession) (script : List Await), middle.Shaped →
      SessionEdits env middle (continuation middle script).2) :
    SessionEdits env session (startWith env session script continuation).2 := by
  have drained := @drainCleanupQueueLocked_edits env session script
  unfold startWith
  cases session.state.ensureOpen with
  | error error => exact .refl
  | ok value =>
    cases outcome : drainCleanupQueueLocked env session script with
    | mk result =>
      rw [outcome] at drained
      cases result with
      | error => exact drained
      | ok value => exact drained.trans (continued _ _ (drained.preserve Shaped.edit shaped))

end RecordingSession

/-! ### Replacements -/

variable {record : TransactionRecord} {transactionId : Uuid}

namespace RecordingStateInner

variable {layout : Layout} {state : RecordingStateInner}

theorem evict_eq (layout : Layout) (state : RecordingStateInner) (transactionIds : List Uuid) :
    state.evict layout transactionIds =
      (state.removeTransactions layout transactionIds).2.recharge
        (state.cleanupQueue ++ (state.removeTransactions layout transactionIds).1)
        (state.evict layout transactionIds).totalMetadataBytes := by
  unfold evict enqueueBodyReferences recharge
  rw [cleanupQueue_removeTransactions]

theorem replaceWithinMetadataBudget_cases (shaped : Shaped state)
    (found : state.transactions.get? transactionId = some record) (oldBytes newBytes : Nat)
    (change : TransactionRecord → TransactionRecord) :
    state.replaceWithinMetadataBudget layout transactionId oldBytes newBytes change =
        (.error .metadataMemoryBudgetExceeded, state) ∨
      ∃ plan, state.Evictable plan ∧ transactionId ∉ plan ∧
        state.replaceWithinMetadataBudget layout transactionId oldBytes newBytes change =
          (.ok (state.removeTransactions layout plan).1,
            { (state.removeTransactions layout plan).2.withRecord transactionId (change record) with
              totalMetadataBytes := ((state.totalMetadataBytes.saturatingSub
                oldBytes).saturatingSub (state.plannedBytes (transactionMetadataBytes layout)
                  plan)).saturatingAdd newBytes }) := by
  obtain ⟨planned, notPlanned⟩ := planMetadata_planned layout state transactionId state.order
    (state.totalMetadataBytes.bytes + (newBytes - oldBytes) - state.metadataMemoryBudgetBytes)
  unfold replaceWithinMetadataBudget planMetadataBudgetEvictions
  dsimp only
  split
  · exact .inl rfl
  refine .inr ⟨_, planned.evictable shaped, notPlanned, ?_⟩
  have kept : (state.removeTransactions layout (planMetadata layout state transactionId
      state.order (state.totalMetadataBytes.bytes + (newBytes - oldBytes) -
        state.metadataMemoryBudgetBytes))).2.transactions.get? transactionId = some record := by
    rw [get?_removeTransactions, if_neg notPlanned]
    exact found
  rw [kept]
  rfl

theorem replaceSummaryWithinMetadataBudget_cases (shaped : Shaped state) {transactionId : Uuid}
    {record : TransactionRecord}
    (found : state.transactions.get? transactionId = some record) (summary : TransactionSummary)
    (summaryBytes : Nat) :
    (∃ error, state.replaceSummaryWithinMetadataBudget layout transactionId summary summaryBytes =
        (.error error, state)) ∨
      ∃ plan total, state.Evictable plan ∧ transactionId ∉ plan ∧
        state.replaceSummaryWithinMetadataBudget layout transactionId summary summaryBytes =
          (.ok (state.removeTransactions layout plan).1,
            { (state.removeTransactions layout plan).2.withRecord transactionId
                { record with summary, summaryStorageBytes := summaryBytes } with
              totalMetadataBytes := total }) := by
  unfold replaceSummaryWithinMetadataBudget
  split
  · exact .inl ⟨_, rfl⟩
  rw [found]
  rcases replaceWithinMetadataBudget_cases shaped found _ _ _ with
    refused | ⟨plan, evictable, kept, replaced⟩
  · exact .inl ⟨_, refused⟩
  · exact .inr ⟨plan, _, evictable, kept, replaced⟩

theorem enforceAllLimits_recharge (shaped : Shaped state) (layout : Layout)
    (queue : List BodyRef) (total : Balance) :
    ∃ limited after, state.Evictable limited ∧
      (state.recharge queue total).enforceAllLimits layout =
        ((state.removeTransactions layout limited).1,
          (state.removeTransactions layout limited).2.recharge queue after) := by
  have planned := planLimits_planned (state.recharge queue total) state.order
    state.transactions.size state.totalBodyBytes
  obtain ⟨after, removed⟩ := removeTransactions_recharge layout
    (planLimits (state.recharge queue total) state.order state.transactions.size
      state.totalBodyBytes) state queue total
  exact ⟨_, after, Planned.evictable ⟨planned.sublist, planned.finished⟩ shaped, removed⟩

end RecordingStateInner

variable {state : RecordingStateInner} {plan : List Uuid}

namespace RecordingSession

open RecordingStateInner

theorem evict_edits (session : RecordingSession) (evictable : session.state.Evictable plan) :
    SessionEdits env session { session with state := session.state.evict env.layout plan } :=
  .single (.evict session plan evictable)

theorem get?_evict_kept {layout : Layout} {state : RecordingStateInner} {transactionId : Uuid}
    {record : TransactionRecord} (found : state.transactions.get? transactionId = some record)
    {plan : List Uuid} (kept : transactionId ∉ plan) :
    (state.evict layout plan).transactions.get? transactionId = some record := by
  rw [get?_evict, if_neg kept]
  exact found

theorem evict_amend_edits (session : RecordingSession) {before after : TransactionRecord}
    (found : session.state.transactions.get? transactionId = some before)
    (amends : Amends before after) (evictable : session.state.Evictable plan)
    (kept : transactionId ∉ plan) :
    SessionEdits env session
      { session with
        state := (session.state.evict env.layout plan).withRecord transactionId after } :=
  (session.evict_edits evictable).tail
    (.amend _ transactionId before after (get?_evict_kept found kept) amends)

theorem replaceWithinMetadataBudget_edits {session : RecordingSession} (shaped : session.Shaped)
    {transactionId : Uuid} {record : TransactionRecord}
    (found : session.state.transactions.get? transactionId = some record)
    (oldBytes newBytes : Nat) {change : TransactionRecord → TransactionRecord}
    (amends : Amends record (change record)) :
    SessionEdits env session (session.withState (settle env.layout
      (session.state.replaceWithinMetadataBudget env.layout transactionId oldBytes newBytes
        change))) := by
  rcases replaceWithinMetadataBudget_cases shaped.state found oldBytes newBytes change with
    refused | ⟨_, evictable, kept, replaced⟩
  · rw [refused]
    exact .refl
  · rw [replaced]
    have edits : SessionEdits env session _ :=
      session.evict_amend_edits found amends evictable kept
    exact edits.charged rfl rfl

variable {session : RecordingSession} {summary : TransactionSummary} {summaryBytes : Nat}

theorem replaceSummaryWithinMetadataBudget_edits (shaped : session.Shaped)
    (found : session.state.transactions.get? transactionId = some record)
    (amends : Amends record { record with summary, summaryStorageBytes := summaryBytes }) :
    SessionEdits env session (session.withState (settle env.layout
      (session.state.replaceSummaryWithinMetadataBudget env.layout transactionId summary
        summaryBytes))) := by
  unfold replaceSummaryWithinMetadataBudget
  split
  · exact .refl
  · rw [found]
    exact replaceWithinMetadataBudget_edits shaped found _ _ amends

/-- The end of a transaction, with the evictions before and after it. -/
theorem finalizeSummaryWithinLimits_edits (shaped : session.Shaped)
    (found : session.state.transactions.get? transactionId = some record)
    (finishes : Finishes record { record with summary, summaryStorageBytes := summaryBytes }) :
    SessionEdits env session (session.withState (settle env.layout
      (session.state.finalizeSummaryWithinLimits env.layout transactionId summary
        summaryBytes))) := by
  unfold finalizeSummaryWithinLimits
  rcases replaceSummaryWithinMetadataBudget_cases shaped.state found summary summaryBytes with
    ⟨_, refused⟩ | ⟨plan, total, evictable, kept, replaced⟩
  · rw [refused]
    exact .refl
  rw [replaced]
  have foundEvicted := @get?_evict_kept env.layout _ _ _ found _ kept
  generalize { record with summary, summaryStorageBytes := summaryBytes } = after at finishes
  have evicted : SessionEdits env session _ := session.evict_edits evictable
  have shapedFinished := (shaped.state.evict env.layout plan).withRecord foundEvicted
    finishes.transactionId
  -- The limits are enforced before the bodies of the first evictions are queued.
  have unqueued : { (session.state.removeTransactions env.layout plan).2.withRecord
      transactionId after with totalMetadataBytes := total } =
      ((session.state.evict env.layout plan).withRecord transactionId after).recharge
        session.state.cleanupQueue total := by
    have queue := cleanupQueue_removeTransactions env.layout session.state plan
    rw [evict_eq]
    unfold recharge withRecord
    dsimp only
    rw [queue]
  rw [unqueued]
  obtain ⟨limited, _, limitedEvictable, enforced⟩ := enforceAllLimits_recharge
    shapedFinished env.layout session.state.cleanupQueue total
  have finishing := evicted.tail
    (.finish _ transactionId record after limited foundEvicted finishes limitedEvictable)
  dsimp only
  rw [enforced]
  have enqueued : evict env.layout ((session.state.evict env.layout plan).withRecord
      transactionId after) limited = _ := evict_eq ..
  have queue : ((session.state.evict env.layout plan).withRecord transactionId
      after).cleanupQueue = session.state.cleanupQueue ++
        (session.state.removeTransactions env.layout plan).1 :=
    congrArg cleanupQueue (evict_eq env.layout session.state plan)
  rw [enqueued, insertResponseEntityEntry_recharge, queue, append_assoc] at finishing
  refine SessionEdits.charged finishing ?_ rfl
  rw [insertResponseEntityEntry_recharge]
  rfl

/-! ### Calls on the state -/

theorem pendingRecord_eq_ok (result : state.pendingRecord transactionId = .ok record) :
    state.transactions.get? transactionId = some record ∧ record.summary.status = .pending := by
  grind [pendingRecord]

theorem openPendingRecord_eq_ok (result : state.openPendingRecord transactionId = .ok record) :
    state.transactions.get? transactionId = some record ∧ record.summary.status = .pending := by
  grind [openPendingRecord, pendingRecord_eq_ok]

theorem applyTransactionUpdate_place (summary : TransactionSummary) (update : TransactionUpdate) :
    (applyTransactionUpdate summary update).transactionId = summary.transactionId ∧
      (applyTransactionUpdate summary update).sequence = summary.sequence ∧
      (applyTransactionUpdate summary update).status = summary.status := by
  obtain ⟨method, location, statusCode, contentType, flags⟩ := update
  cases method <;> cases location <;> cases statusCode <;> cases contentType <;> cases flags <;>
    exact ⟨rfl, rfl, rfl⟩

theorem update_edits (shaped : session.Shaped) (transactionId : Uuid) (update : TransactionUpdate) :
    SessionEdits env session
      (session.withState (session.state.update env.layout transactionId update)) := by
  unfold RecordingStateInner.update
  split
  · exact .refl
  rename_i record result
  obtain ⟨found, pending⟩ := openPendingRecord_eq_ok result
  obtain ⟨identifier, sequence, status⟩ := applyTransactionUpdate_place record.summary.clone update
  refine replaceSummaryWithinMetadataBudget_edits shaped found ?_
  exact ⟨identifier, sequence, status, rfl, rfl, fun finished => absurd pending finished⟩

theorem updateProgress_edits (session : RecordingSession) (transactionId : Uuid)
    (update : TransactionProgressUpdate) :
    SessionEdits env session
      (session.withState (session.state.updateProgress transactionId update)) := by
  unfold updateProgress
  split
  · exact .refl
  · rename_i record result
    obtain ⟨found, pending⟩ := openPendingRecord_eq_ok result
    refine .single (.amend session transactionId record _ found ?_)
    exact ⟨rfl, rfl, rfl, rfl, rfl, fun finished => absurd pending finished⟩

theorem Text.clone_clone (text : Text) : text.clone.clone = text.clone := rfl

theorem TransactionError.clone_clone (error : TransactionError) :
    error.clone.clone = error.clone := by
  simp [TransactionError.clone, Text.clone_clone]

theorem protocolFields_applyUserUpdate (summary : TransactionSummary)
    (update : TransactionUserUpdate) :
    (applyUserUpdate summary.clone update).protocolFields = summary.protocolFields := by
  simp [applyUserUpdate, TransactionSummary.protocolFields, TransactionSummary.clone,
    Text.clone_clone, TransactionError.clone_clone, Function.comp_def]

theorem updateUserFields_edits (shaped : session.Shaped) (transactionId : Uuid)
    (update : TransactionUserUpdate) :
    SessionEdits env session
      (session.withState (session.state.updateUserFields env.layout transactionId update)) := by
  unfold updateUserFields
  cases session.state.ensureOpen with
  | error error => exact .refl
  | ok =>
    cases found : session.state.transactions.get? transactionId with
    | none => exact .refl
    | some =>
      refine replaceSummaryWithinMetadataBudget_edits shaped found ?_
      exact ⟨rfl, rfl, rfl, rfl, rfl, fun _ =>
        ⟨protocolFields_applyUserUpdate .., rfl, rfl, rfl, rfl, rfl, rfl⟩⟩

theorem finish_edits (shaped : session.Shaped) (transactionId : Uuid)
    {change : TransactionSummary → TransactionSummary}
    (changes : ∀ summary, (change summary).status ≠ .pending ∧
      (change summary).transactionId = summary.transactionId ∧
      (change summary).sequence = summary.sequence) :
    SessionEdits env session
      (session.withState (session.state.finish env.layout transactionId change)) := by
  unfold finish
  split
  · exact .refl
  rename_i record result
  obtain ⟨found, pending⟩ := openPendingRecord_eq_ok result
  obtain ⟨finished, identifier, sequence⟩ := changes record.summary.clone
  refine finalizeSummaryWithinLimits_edits shaped found ?_
  exact ⟨pending, finished, identifier, sequence, rfl, rfl⟩

/-! ### Calls that wait for files -/

theorem admitRecord_edits (session : RecordingSession) (input : BeginTransaction)
    (newTransactionBytes : Nat) (script : List Await) :
    SessionEdits env session (admitRecord env input newTransactionBytes session script).2 := by
  have drained := @drainCleanupQueueLocked_edits env session script
  have cleans := @drainCleanupQueueLocked_cleans env session script
  unfold admitRecord
  cases outcome : drainCleanupQueueLocked env session script with
  | mk result =>
    rw [outcome] at drained cleans
    cases result with
    | error => exact drained
    | ok =>
      dsimp only
      split
      · exact drained.tail (.enroll _ input newTransactionBytes (cleans.2 rfl))
      · exact drained.tail (.configure _ _ _ _ _ _)

theorem beginTransaction_edits (shaped : session.Shaped) (input : BeginTransaction)
    (script : List Await) :
    SessionEdits env session (session.beginTransaction env input script).2 := by
  refine startWith_edits shaped fun middle script shaped => ?_
  split
  · exact .refl
  split
  · exact .refl
  have planned := planAdmission_planned env.layout middle.state
    (transactionMetadataBytes env.layout (middle.state.newRecord env.layout
      (env.newV4 middle.bodyStore.known) input)) middle.state.order
    middle.state.transactions.size middle.state.totalMetadataBytes.bytes
  have evicted : SessionEdits env middle _ :=
    middle.evict_edits (planned.evictable shaped.state)
  exact evicted.trans (admitRecord_edits ..)

theorem storeHeaders_edits (shaped : session.Shaped) (transactionId : Uuid) (side : MessageSide)
    (headers : List HeaderField) (script : List Await) :
    SessionEdits env session (session.storeHeaders env transactionId side headers script).2 := by
  refine startWith_edits shaped fun middle script shaped => ?_
  dsimp only
  split
  · exact .refl
  rename_i record result
  obtain ⟨found, pending⟩ := pendingRecord_eq_ok result
  obtain ⟨planned, kept⟩ := planMetadata_planned env.layout middle.state transactionId
    middle.state.order (middle.state.totalMetadataBytes.bytes +
      ((boundHeaders env.layout headers maximumCounter).storedBytes -
        headerStorageBytes env.layout (record.headers side).items
          (record.headers side).capacity) - middle.state.metadataMemoryBudgetBytes)
  have foundEvicted := @get?_evict_kept env.layout _ _ _ found _ kept
  have amends : ∀ bounded, Amends record (record.withHeaders side bounded).refreshTruncatedFlag :=
    fun bounded => by
      cases side with
      | request | response =>
        exact ⟨rfl, rfl, rfl, rfl, rfl, fun finished => absurd pending finished⟩
  have amended : ∀ bounded, SessionEdits env middle _ := fun bounded =>
    middle.evict_amend_edits found (amends bounded) (planned.evictable shaped.state) kept
  unfold planMetadataBudgetEvictions
  unfold evict at foundEvicted amended
  rw [foundEvicted]
  refine Relation.ReflTransGen.trans ?_ (finishWith_edits () _ script)
  exact (amended _).charged rfl rfl

/-- The body store writes a body, or fails and leaves a file to clean up. -/
theorem store_edits (session : RecordingSession) (transactionId : Uuid) (side : MessageSide)
    (bytes : List UInt8) (handle : BodyHandleMeta) (script : List Await) {stop : Stop}
    (failed : (session.bodyStore.store env transactionId side bytes handle script).1 =
      .error stop) :
    SessionEdits env session (session.withStore
      (session.bodyStore.store env transactionId side bytes handle script).2.1) := by
  unfold store at failed ⊢
  split
  · rfl
  rename_i large
  rw [if_neg large] at failed
  cases script with
  | nil => exact .refl
  | cons await =>
    have background := @background_edits env session await
    dsimp only at failed ⊢
    cases result : await.result with
    | done =>
      rw [result] at failed
      cases failed
    | failed | dropped => exact background.tail (.abandon _ _ _ rfl)

theorem store_placed (session : RecordingSession) (transactionId : Uuid) (side : MessageSide)
    (bytes : List UInt8) (handle : BodyHandleMeta) (script : List Await) {body : BodyRef}
    (stored : (session.bodyStore.store env transactionId side bytes handle script).1 = .ok body) :
    body.handle = handle ∧ ∃ middle, (∀ state : RecordingStateInner, SessionEdits env
        { session with state } { state, bodyStore := middle }) ∧
      Placed env middle transactionId [body]
        (session.bodyStore.store env transactionId side bytes handle script).2.1 := by
  unfold store at stored ⊢
  split
  · rename_i small
    rw [if_pos small] at stored
    cases stored
    exact ⟨rfl, session.bodyStore, fun _ => .refl, .memory _ rfl⟩
  · rename_i large
    rw [if_neg large] at stored
    cases script with
    | nil => cases stored
    | cons await =>
      dsimp only at stored ⊢
      cases result : await.result with
      | done =>
        rw [result] at stored
        cases stored
        exact ⟨rfl, session.bodyStore.background env await,
          fun state => background_edits { session with state } await, .written _ _ rfl rfl⟩
      | failed | dropped =>
        rw [result] at stored
        cases stored

theorem replaceBody_perm (record : TransactionRecord) (side : MessageSide) (body : BodyRef) :
    ∃ kept, record.bodyReferences.Perm (kept ++ (record.body side).toList) ∧
      (record.replaceBody side body).bodyReferences.Perm (kept ++ [body]) := by
  cases side with
  | request => exact ⟨record.responseBody.toList, perm_append_comm, perm_append_comm⟩
  | response => exact ⟨record.requestBody.toList, .refl _, .refl _⟩

theorem registerBody_edits {session : RecordingSession} {transactionId : Uuid}
    {record : TransactionRecord}
    (found : session.state.transactions.get? transactionId = some record)
    (pending : record.summary.status = .pending) (side : MessageSide) {plan : List Uuid}
    (evictable : session.state.Evictable plan) (kept : transactionId ∉ plan)
    {handle : BodyHandleMeta} {stagedBody : BodyRef} {written : BodyStore}
    (size : stagedBody.handle.storedBytes = handle.storedBytes)
    (small : handle.storedBytes ≤ session.state.limits.maxBodyBytes)
    (fits : handle.storedBytes ≤ session.state.limits.maxTotalBodyBytes -
      (session.state.totalBodyBytes - storedBytes (record.body side).toList -
        session.state.plannedBytes transactionBodyBytes plan))
    (placed : Placed env session.bodyStore transactionId [stagedBody] written)
    (script : List Await) :
    SessionEdits env session
      (registerBody env { session with bodyStore := written } transactionId side
        ((record.body side).map clone) plan handle stagedBody script).2 := by
  obtain ⟨others, bodiesBefore, bodiesAfter⟩ := replaceBody_perm record side stagedBody
  have foundEvicted := @get?_evict_kept env.layout _ _ _ found _ kept
  have limits := (evict_frame env.layout session.state plan).limits
  have total := (totals_removeTransactions env.layout evictable.distinct session.state).2
  have dropped : storedBytes ((record.body side).toList) =
      ((record.body side).map clone).elim 0 fun body => body.handle.storedBytes := by
    cases record.body side with
    | none => rfl
    | some body => exact Nat.add_zero _
  have cloned : ((record.body side).map clone).toList =
      (record.body side).toList.map clone := by
    cases record.body side with
    | none | some body => rfl
  have added : storedBytes [stagedBody] = handle.storedBytes := (Nat.add_zero _).trans size
  have registers : Registers (session.state.evict env.layout plan).limits
      (session.state.evict env.layout plan).totalBodyBytes record
      (withBodySize (record.replaceBody side stagedBody) side
        handle.originalBytes).refreshTruncatedFlag others (record.body side).toList
      [stagedBody] := by
    refine ⟨pending, ?_, ?_, ?_, bodiesBefore, ?_, ?_, ?_⟩
    · cases side with
      | request | response => exact pending
    · cases side with
      | request | response => rfl
    · cases side with
      | request | response => rfl
    · cases side with
      | request | response => exact bodiesAfter
    · intro body member
      rw [mem_singleton.mp member, size, limits]
      exact small
    · have totalEvicted : (session.state.evict env.layout plan).totalBodyBytes = _ := total
      rw [added, limits, totalEvicted, Nat.sub_right_comm]
      exact fits
  have edits : SessionEdits env session _ := (session.evict_edits evictable).tail
    (.register _ transactionId record _ others _ _ written foundEvicted registers placed)
  unfold registerBody
  unfold evict at foundEvicted
  dsimp only [enqueueBodyReferences] at foundEvicted ⊢
  rw [foundEvicted]
  refine Relation.ReflTransGen.trans ?_ (finishWith_edits _ _ script)
  refine edits.charged ?_ rfl
  have queue : session.state.cleanupQueue ++
        (session.state.removeTransactions env.layout plan).1 ++
          (record.body side).toList.map clone =
      session.state.cleanupQueue ++ ((session.state.removeTransactions env.layout plan).1 ++
        ((record.body side).map clone).toList) := by
    rw [cloned, append_assoc]
  rw [dropped, added, evict_eq]
  unfold enqueueBodyReferences recharge
  dsimp only [withRecord]
  rw [queue, cleanupQueue_removeTransactions]

theorem storeBody_edits (shaped : session.Shaped) (transactionId : Uuid) (side : MessageSide)
    (body : BodyWrite) (script : List Await) :
    SessionEdits env session (session.storeBody env transactionId side body script).2 := by
  unfold storeBody
  split
  · exact .refl
  refine startWith_edits shaped fun middle script shaped => ?_
  dsimp only
  split
  · exact .refl
  rename_i record result
  obtain ⟨found, pending⟩ := pendingRecord_eq_ok result
  have oldBytes : ((record.body side).map clone).elim 0
      (fun body => body.handle.storedBytes) = storedBytes (record.body side).toList := by
    cases record.body side with
    | none => rfl
    | some body => exact (Nat.add_zero _).symm
  rw [oldBytes]
  generalize desired : min body.bytes.length middle.state.limits.maxBodyBytes = desiredBytes
  obtain ⟨planned, kept⟩ := planBodies_planned middle.state transactionId middle.state.order
    (middle.state.totalBodyBytes - storedBytes (record.body side).toList + desiredBytes -
      middle.state.limits.maxTotalBodyBytes)
  unfold planBodyBudgetEvictions
  generalize planBodies middle.state transactionId middle.state.order _ = plan at planned kept ⊢
  generalize sized : min desiredBytes _ = storedSize
  split
  · rename_i stop after _ failed
    have edits := store_edits middle transactionId side _ _ script (by rw [failed])
    rw [failed] at edits
    exact edits
  · rename_i stagedBody written rest stored
    obtain ⟨handle, between, background, placed⟩ := store_placed middle transactionId side _ _ script (by rw [stored])
    rw [stored] at placed
    refine (background middle.state).trans ?_
    have small : storedSize ≤ middle.state.limits.maxBodyBytes := by omega
    refine @registerBody_edits _ { middle with bodyStore := between } _ _
      found pending _ _ (planned.evictable shaped.state) kept _ _ _
      (by rw [handle]; rfl) small ?_ placed _
    dsimp only
    omega

theorem storeBodySpools_edits (session : RecordingSession)
    (transactionId requestSpool responseSpool : Uuid) (contentType encoding : Text)
    (removed : Bool × Bool) (script : List Await) :
    SessionEdits env session (session.storeBodySpools env transactionId requestSpool responseSpool
      contentType encoding removed script).2 := by
  have dropped : SessionEdits env session
      (session.dropSpools requestSpool responseSpool removed) :=
    .tail (.single (.event session (.dropSpool requestSpool removed.1)))
      (.event _ (.dropSpool responseSpool removed.2))
  have staged : ∀ {suffix : Uuid} {spool : Spool},
      session.stagedSpool transactionId suffix = some spool →
      session.bodyStore.spools.get? suffix = some spool ∧ spool.stage = .staged transactionId := by
    intro suffix spool found
    obtain ⟨located, stage⟩ := Option.filter_eq_some_iff.mp found
    exact ⟨located, of_decide_eq_true stage⟩
  unfold storeBodySpools
  split
  · rename_i request response requestStaged responseStaged
    obtain ⟨requestFound, requestStage⟩ := staged requestStaged
    obtain ⟨responseFound, responseStage⟩ := staged responseStaged
    split
    · exact .refl
    rename_i different
    split
    · exact dropped
    rename_i record result
    obtain ⟨found, pending⟩ := openPendingRecord_eq_ok result
    dsimp only
    split
    · exact dropped
    rename_i within
    refine Relation.ReflTransGen.trans ?_ (finishWith_edits _ _ script)
    refine .single (.register session transactionId record _ [] record.bodyReferences
      [session.spoolBody (spoolHandle transactionId .request contentType encoding
          request.writtenBytes) requestSpool request,
        session.spoolBody (spoolHandle transactionId .response contentType encoding
          response.writtenBytes) responseSpool response]
      _ found ⟨pending, ?_, ?_, ?_, .refl _, ?_, ?_, ?_⟩
      (.spools _ _ requestSpool responseSpool request response different requestFound
        responseFound requestStage responseStage rfl rfl))
    · exact pending
    · rfl
    · rfl
    · exact .refl _
    · intro _ member
      rcases mem_pair.mp member with rfl | rfl
      · exact not_lt.mp fun large => within (.inl large)
      · exact not_lt.mp fun large => within (.inr (.inl large))
    · exact not_lt.mp fun large => within (.inr (.inr large))
  · exact .refl

theorem storeStreamPackets_edits (shaped : session.Shaped) (transactionId : Uuid)
    (side : MessageSide) (packets : Buffer StreamPacket) (script : List Await) :
    SessionEdits env session
      (session.storeStreamPackets env transactionId side packets script).2 := by
  unfold storeStreamPackets
  cases session.state.ensureOpen with
  | error error => exact .refl
  | ok =>
    cases found : session.state.transactions.get? transactionId with
    | none => exact .refl
    | some record =>
      have amends : Amends record (record.withPackets side packets) := by
        cases side with
        | request | response =>
          exact ⟨rfl, rfl, rfl, rfl, rfl, fun _ => ⟨rfl, rfl, rfl, rfl, rfl, rfl, rfl⟩⟩
      have edits := @replaceWithinMetadataBudget_edits env _ shaped _ _
        found (transactionMetadataBytes env.layout record)
        (transactionMetadataBytes env.layout (record.clone.withPackets side packets))
        (fun record => record.withPackets side packets) amends
      dsimp only
      split
      · unfold replaceStreamPacketsWithinMetadataBudget
        rw [found]
        dsimp only
        split
        · rename_i refused
          rw [refused] at edits
          exact edits
        · rename_i replaced
          rw [replaced] at edits
          exact edits.trans (finishWith_edits () _ script)
      · exact .refl

/-! ### Every call -/

theorem clearSession_edits (session : RecordingSession) (script : List Await) :
    SessionEdits env session (session.clearSession env script).2 := by
  unfold clearSession
  cases session.state.ensureOpen with
  | error error => exact .refl
  | ok =>
    have removed : SessionEdits env session _ := .single (.removeAll session)
    exact (removed.tail (.requestClear _ rfl)).trans (finishWith_edits () _ script)

theorem close_call_edits (session : RecordingSession) (script : List Await) :
    SessionEdits env session (session.close env script).2 := by
  unfold close
  split
  · exact .refl
  have removed : SessionEdits env session _ := .single (.removeAll session)
  have drained := removed.trans (drainCleanupQueueLocked_edits _ script)
  have cleans := (@drainCleanupQueueLocked_cleans env (session.removeEverything env) script).1
  cases outcome : drainCleanupQueueLocked env (session.removeEverything env) script with
  | mk result after =>
    obtain ⟨middle, remaining⟩ := after
    rw [outcome] at drained cleans
    cases result with
    | error stop => exact drained
    | ok value =>
      have closed := drained.trans (close_edits middle (.inr cleans.transactions) remaining)
      dsimp only
      cases deleted : middle.bodyStore.close env remaining with
      | mk result after =>
        rw [deleted] at closed
        cases result with
        | error stop => exact closed
        | ok value => exact closed.tail (.configure _ _ _ _ true _)

theorem step_edits {session : RecordingSession} (shaped : session.Shaped)
    (action : RecordingAction) : SessionEdits env session (session.step env action) := by
  have configured : ∀ recordingState ignoreLocations recordTunnelMetadata,
      SessionEdits env session
        { session with
          state :=
            { session.state with recordingState, ignoreLocations, recordTunnelMetadata } } :=
    fun recordingState ignoreLocations recordTunnelMetadata => .single
      (.configure session recordingState ignoreLocations recordTunnelMetadata
        session.state.closed session.state.droppedCount)
  have recording : ∀ recordingState,
      SessionEdits env session (session.setRecordingState recordingState).2 := by
    grind [setRecordingState]
  cases action with
  | startRecording => exact recording .recording
  | pauseRecording => exact recording .paused
  | beginTransaction input script => exact beginTransaction_edits shaped input script
  | update transactionId update => exact update_edits shaped transactionId update
  | updateProgress transactionId update => exact updateProgress_edits session transactionId update
  | updateUserFields transactionId update =>
    exact updateUserFields_edits shaped transactionId update
  | commit transactionId completion | block transactionId completion
  | fail transactionId error endAtMilliseconds | cancel transactionId error endAtMilliseconds =>
    exact finish_edits shaped transactionId fun _ => ⟨(nofun), rfl, rfl⟩
  | storeHeaders transactionId side headers script =>
    exact storeHeaders_edits shaped transactionId side headers script
  | storeBody transactionId side body script =>
    exact storeBody_edits shaped transactionId side body script
  | createBodySpool transactionId side opened =>
    unfold step createBodySpool
    dsimp only
    split
    · exact .refl
    · exact .single (.event session (.createSpool transactionId side opened))
  | storeBodySpools transactionId requestSpool responseSpool contentType encoding removed script =>
    exact storeBodySpools_edits session transactionId requestSpool responseSpool contentType
      encoding removed script
  | storeStreamPackets transactionId side packets script =>
    exact storeStreamPackets_edits shaped transactionId side packets script
  | setIgnoreLocations =>
    grind [step, setIgnoreLocations]
  | setRecordTunnelMetadata =>
    grind [step, setRecordTunnelMetadata]
  | updateSettings update script =>
    unfold step updateSettings
    dsimp only
    split
    · exact .refl
    split
    · exact .refl
    · split
      · exact .refl
      · exact (configured ..).trans (finishWith_edits () _ script)
  | clearSession script => exact clearSession_edits session script
  | close script => exact close_call_edits session script
  | cleanupPendingBodies script =>
    grind [step, cleanupPendingBodies, finishWith_edits]
  | storeEvent event => exact .single (.event session event)

theorem shaped_run (configuration : RecordingConfiguration) (startedAtMilliseconds : UInt64)
    (actions : List RecordingAction) :
    ((recordingMachine env configuration startedAtMilliseconds).run actions).Shaped := by
  refine Machine.invariant_run ?_ ?_ actions
  · refine ⟨⟨nodup_nil, fun _ => ⟨not_mem_nil.elim, ?_⟩, ?_⟩, ?_⟩
    · rintro ⟨_, found⟩
      cases found
    · nofun
    · nofun
  · exact fun _ action shaped => (step_edits shaped action).preserve Shaped.edit shaped

variable {configuration : RecordingConfiguration} {startedAtMilliseconds : UInt64}
  {invariant : RecordingSession → Prop}

theorem edits_runFrom (preserved : ∀ {before after}, SessionEdit env before after → before.Shaped →
      invariant before → invariant after) {session : RecordingSession} (shaped : session.Shaped)
    (holds : invariant session) (actions : List RecordingAction) :
    invariant ((recordingMachine env configuration startedAtMilliseconds).runFrom session
      actions) := by
  have both := @Machine.invariant_runFrom _ _
    (recordingMachine env configuration startedAtMilliseconds)
    (fun session => session.Shaped ∧ invariant session)
  refine (both ?_ ⟨shaped, holds⟩ actions).2
  rintro session action ⟨shaped, holds⟩
  have kept : ∀ {before after}, SessionEdit env before after →
      before.Shaped ∧ invariant before → after.Shaped ∧ invariant after :=
    fun edit both => ⟨both.1.edit edit, preserved edit both.1 both.2⟩
  exact (step_edits shaped action).preserve kept ⟨shaped, holds⟩

theorem edits_run
    (initial : invariant (recordingMachine env configuration startedAtMilliseconds).initial)
    (preserved : ∀ {before after}, SessionEdit env before after → before.Shaped →
      invariant before → invariant after) (actions : List RecordingAction) :
    invariant ((recordingMachine env configuration startedAtMilliseconds).run actions) :=
  edits_runFrom preserved (shaped_run configuration startedAtMilliseconds []) initial actions

end RecordingSession

end SprakCapture.Capture
