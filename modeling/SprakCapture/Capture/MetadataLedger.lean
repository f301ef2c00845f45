import SprakCapture.Capture.RecordingChains

/-!
# The total of the metadata

`totalMetadataBytes` is adjusted by differences at every change of a record or of the
cleanup queue. It stays what the stored transactions and the queued bodies add up to,
and nothing is ever cut off below zero, as long as no stream packets are stored in a
record that was allocated with room to spare: `storeStreamPackets` measures a clone of
the record, and a clone has no room to spare.
-/

namespace SprakCapture.Capture

open Data RecordingSession Balance RecordingStateInner TransactionRecord

/-! ### Balances without losses -/

theorem Balance.saturatingSub_exact (rest bytes : Nat) :
    saturatingSub ⟨bytes + rest, 0⟩ bytes = ⟨rest, 0⟩ := by
  simp [saturatingSub]

theorem Balance.saturatingAdd_exact (bytes more : Nat) :
    Balance.saturatingAdd ⟨bytes, 0⟩ more = ⟨bytes + more, 0⟩ := rfl

/-- What the stored transactions and the queued bodies are charged for. -/
def metadataDue (layout : Layout) (state : RecordingStateInner) : Nat :=
  state.transactions.total (transactionMetadataBytes layout) +
    (state.cleanupQueue.map (cleanupBodyReferenceMetadataBytes layout)).sum

/-- The total is what is due, and nothing was cut off on the way. -/
def Exact (layout : Layout) (state : RecordingStateInner) : Prop :=
  state.totalMetadataBytes = ⟨metadataDue layout state, 0⟩

variable {record : TransactionRecord}

namespace Exact

open RecordingStateInner

variable {layout : Layout} {state : RecordingStateInner}

/-! ### Changes of the state -/

theorem congr (exact : Exact layout state) {after : RecordingStateInner}
    (total : after.totalMetadataBytes = state.totalMetadataBytes)
    (transactions : after.transactions = state.transactions)
    (queue : after.cleanupQueue = state.cleanupQueue) : Exact layout after := by
  unfold Exact metadataDue at *
  rw [total, transactions, queue]
  exact exact

theorem enqueue (exact : Exact layout state) (bodies : List BodyRef) :
    Exact layout (state.enqueueBodyReferences layout bodies) := by
  grind [Exact, metadataDue, enqueueBodyReferences, saturatingAdd_exact]

theorem remove (exact : Exact layout state) {transactionIds : List Uuid}
    (distinct : transactionIds.Nodup) :
    Exact layout (state.removeTransactions layout transactionIds).2 := by
  have total := (totals_removeTransactions layout distinct state).1
  have summed := total_removeTransactions layout distinct state (transactionMetadataBytes layout)
  unfold Exact metadataDue at *
  rw [total, exact, summed, cleanupQueue_removeTransactions, Nat.add_assoc]
  exact saturatingSub_exact ..

theorem evict (exact : Exact layout state) {transactionIds : List Uuid}
    (distinct : transactionIds.Nodup) : Exact layout (state.evict layout transactionIds) :=
  (exact.remove distinct).enqueue _

/-- A record is replaced, and the total is adjusted by the difference of two of their parts. -/
theorem withRecord (exact : Exact layout state) {transactionId : Uuid}
    {before after : TransactionRecord}
    (found : state.transactions.get? transactionId = some before) {old new : Nat}
    (part : old ≤ transactionMetadataBytes layout before)
    (difference : transactionMetadataBytes layout after + old =
      transactionMetadataBytes layout before + new) :
    Exact layout
      { state.withRecord transactionId after with
        totalMetadataBytes :=
          (state.totalMetadataBytes.saturatingSub old).saturatingAdd new } := by
  have present := Table.total_eq_of_get? (transactionMetadataBytes layout) found
  have inserted := Table.total_insert state.transactions transactionId after
    (transactionMetadataBytes layout)
  unfold Exact metadataDue saturatingSub Balance.saturatingAdd at *
  unfold RecordingStateInner.withRecord
  rw [exact]
  dsimp only
  congr 1
  · omega
  · omega

theorem withRecord_same (exact : Exact layout state) {transactionId : Uuid}
    {before after : TransactionRecord} (found : state.transactions.get? transactionId = some before)
    (same : transactionMetadataBytes layout after = transactionMetadataBytes layout before) :
    Exact layout (state.withRecord transactionId after) := by
  have adjusted := Exact.withRecord exact found (Nat.zero_le _) (by rw [same])
  rw [saturatingSub_zero] at adjusted
  exact adjusted.congr rfl rfl rfl

/-! ### Replacements -/

theorem replace (exact : Exact layout state) (shaped : state.Shaped) {transactionId : Uuid}
    {record : TransactionRecord}
    (found : state.transactions.get? transactionId = some record) {oldBytes newBytes : Nat}
    {change : TransactionRecord → TransactionRecord}
    (old : oldBytes = transactionMetadataBytes layout record)
    (new : newBytes = transactionMetadataBytes layout (change record)) :
    Exact layout (state.replaceWithinMetadataBudget layout transactionId oldBytes newBytes
      change).2 := by
  rcases replaceWithinMetadataBudget_cases shaped found oldBytes newBytes change with
    refused | ⟨plan, evictable, kept, replaced⟩
  · rw [refused]
    exact exact
  rw [replaced]
  have foundKept : (state.removeTransactions layout plan).2.transactions.get? transactionId =
      some record := by
    rw [get?_removeTransactions, if_neg kept]
    exact found
  have changed := @Exact.withRecord _ _ (exact.remove evictable.distinct) _
    _ _ foundKept _ newBytes (le_of_eq old)
    (by rw [old, new, Nat.add_comm])
  -- The two amounts are subtracted the other way round, which makes no difference.
  rw [(totals_removeTransactions layout evictable.distinct state).1,
    saturatingSub_saturatingSub, Nat.add_comm,
    ← saturatingSub_saturatingSub] at changed
  exact changed

theorem settle {outcome : Except CaptureError (List BodyRef) × RecordingStateInner}
    (exact : Exact layout outcome.2) : Exact layout (settle layout outcome).2 := by
  obtain ⟨result, _⟩ := outcome
  cases result with
  | error error => exact exact
  | ok bodies => exact exact.enqueue bodies

theorem transactionMetadataBytes_summary (layout : Layout) (record : TransactionRecord)
    (summary : TransactionSummary) (summaryBytes : Nat) :
    transactionMetadataBytes layout record - record.summaryStorageBytes -
        (if record.summary.status = .pending then 0 else bodyReferenceMetadataBytes record) -
        responseEntityIndexMetadataBytes layout record.summary record.responseHeaders.items
          record.responseBody +
      summaryBytes +
      (if summary.status = .pending then 0 else bodyReferenceMetadataBytes record) +
      responseEntityIndexMetadataBytes layout summary record.responseHeaders.items
        record.responseBody =
    transactionMetadataBytes layout { record with summary, summaryStorageBytes := summaryBytes } := by
  have same : bodyReferenceMetadataBytes
      { record with summary, summaryStorageBytes := summaryBytes } =
      bodyReferenceMetadataBytes record := rfl
  unfold transactionMetadataBytes
  dsimp only
  rw [same]
  omega

theorem replaceSummary (exact : Exact layout state) (shaped : state.Shaped) {transactionId : Uuid}
    (found : state.transactions.get? transactionId = some record) (summary : TransactionSummary)
    (summaryBytes : Nat) :
    Exact layout (state.replaceSummaryWithinMetadataBudget layout transactionId summary
      summaryBytes).2 := by
  unfold replaceSummaryWithinMetadataBudget
  split
  · exact exact
  · rw [found]
    exact exact.replace shaped found rfl (transactionMetadataBytes_summary ..)

theorem finalize (exact : Exact layout state) (shaped : state.Shaped) {transactionId : Uuid}
    (found : state.transactions.get? transactionId = some record) (summary : TransactionSummary)
    (summaryBytes : Nat) :
    Exact layout (state.finalizeSummaryWithinLimits layout transactionId summary
      summaryBytes).2 := by
  have replaced := exact.replaceSummary shaped found summary summaryBytes
  unfold finalizeSummaryWithinLimits
  rcases replaceSummaryWithinMetadataBudget_cases shaped found summary summaryBytes with ⟨_, refused⟩ | ⟨plan, _, _, _, accepted⟩
  · rw [refused]
    exact exact
  rw [accepted] at replaced ⊢
  have distinct := (shaped.evict layout plan).distinct
  dsimp only
  rw [insertResponseEntityEntry_eq]
  refine Exact.congr (replaced.remove ?_) rfl rfl rfl
  exact distinct.sublist (planLimits_planned ..).sublist

/-! ### Calls on the state -/

variable {transactionId : Uuid}

section

variable (exact : Exact layout state)
include exact

theorem update (shaped : state.Shaped) (update : TransactionUpdate) :
    Exact layout (state.update layout transactionId update).2 := by
  unfold RecordingStateInner.update
  split
  · exact exact
  · rename_i record result
    obtain ⟨found, _⟩ := openPendingRecord_eq_ok result
    exact (exact.replaceSummary shaped found _ _).settle

theorem updateUserFields (shaped : state.Shaped) (update : TransactionUserUpdate) :
    Exact layout (state.updateUserFields layout transactionId update).2 := by
  unfold RecordingStateInner.updateUserFields
  split
  · exact exact
  · split
    · exact exact
    · rename_i record found
      exact (exact.replaceSummary shaped found _ _).settle

theorem finish (shaped : state.Shaped) (change : TransactionSummary → TransactionSummary) :
    Exact layout (state.finish layout transactionId change).2 := by
  unfold RecordingStateInner.finish
  split
  · exact exact
  · rename_i record result
    obtain ⟨found, _⟩ := openPendingRecord_eq_ok result
    exact (exact.finalize shaped found _ _).settle

omit exact in
theorem indexBytes_pending (layout : Layout) {summary : TransactionSummary}
    (pending : summary.status = .pending) (headers : List HeaderField) (body : Option BodyRef) :
    responseEntityIndexMetadataBytes layout summary headers body = 0 := by
  unfold responseEntityIndexMetadataBytes
  rw [if_pos]
  left
  rw [pending]
  decide

omit exact in
/-- What a pending transaction is charged for. -/
theorem transactionMetadataBytes_pending (layout : Layout)
    (pending : record.summary.status = .pending) :
    transactionMetadataBytes layout record =
      (layout.sizeOfTransactionRecord - layout.sizeOfTransactionSummary) +
        record.summaryStorageBytes + (layout.sizeOfString + uuidBytes) * 2 +
        layout.sizeOfUsize * 2 +
        headerStorageBytes layout record.requestHeaders.items record.requestHeaders.capacity +
        headerStorageBytes layout record.responseHeaders.items record.responseHeaders.capacity +
        streamPacketStorageBytes layout record.requestPackets +
        streamPacketStorageBytes layout record.responsePackets := by
  grind [transactionMetadataBytes, indexBytes_pending]

omit exact in
theorem transactionMetadataBytes_congr (layout : Layout) {before after : TransactionRecord}
    (pending : before.summary.status = .pending) (stillPending : after.summary.status = .pending)
    (summaryBytes : after.summaryStorageBytes = before.summaryStorageBytes)
    (requestHeaders : after.requestHeaders = before.requestHeaders)
    (responseHeaders : after.responseHeaders = before.responseHeaders)
    (requestPackets : after.requestPackets = before.requestPackets)
    (responsePackets : after.responsePackets = before.responsePackets) :
    transactionMetadataBytes layout after = transactionMetadataBytes layout before := by
  grind [transactionMetadataBytes_pending]

theorem updateProgress (update : TransactionProgressUpdate) :
    Exact layout (state.updateProgress transactionId update).2 := by
  unfold RecordingStateInner.updateProgress
  split
  · exact exact
  · rename_i record result
    obtain ⟨found, pending⟩ := openPendingRecord_eq_ok result
    exact exact.withRecord_same found
      (transactionMetadataBytes_congr layout pending pending rfl rfl rfl rfl rfl)

theorem enroll (fresh : state.transactions.get? transactionId = none) {bytes : Nat}
    (charged : bytes = transactionMetadataBytes layout record) :
    Exact layout (state.enroll transactionId record bytes) := by
  have inserted := Table.total_insert state.transactions transactionId record
    (transactionMetadataBytes layout)
  rw [Table.erase_of_get?_eq_none fresh] at inserted
  unfold Exact metadataDue at *
  unfold RecordingStateInner.enroll
  dsimp only
  rw [exact, saturatingAdd_exact]
  congr 1
  omega

end

end Exact

namespace RecordingSession

open RecordingStateInner

variable {env : Environment} {session : RecordingSession}

/-! ### Cleanups -/

theorem drainQueue_exact (queue : List BodyRef) (session : RecordingSession)
    (same : session.state.cleanupQueue = queue) (script : List Await)
    (exact : Exact env.layout session.state) :
    Exact env.layout (drainQueue env queue session script).2.1.state := by
  induction queue generalizing session script with
  | nil => exact exact
  | cons body _ ih =>
    unfold drainQueue
    cases session.bodyStore.remove env body script with
    | mk result after =>
      cases result with
      | error => exact exact
      | ok =>
        refine ih _ rfl after.2 ?_
        unfold Exact metadataDue at *
        rw [exact, same, List.map_cons, List.sum_cons, Nat.add_left_comm]
        exact saturatingSub_exact ..

theorem drainCleanupQueueLocked_exact (session : RecordingSession) (script : List Await)
    (exact : Exact env.layout session.state) :
    Exact env.layout (drainCleanupQueueLocked env session script).2.1.state := by
  have drained := drainQueue_exact session.state.cleanupQueue session rfl script exact
  unfold drainCleanupQueueLocked
  cases outcome : drainQueue env session.state.cleanupQueue session script with
  | mk result after =>
    obtain ⟨middle, remaining⟩ := after
    rw [outcome] at drained
    cases result with
    | error stop => exact drained
    | ok value =>
      dsimp only
      cases middle.bodyStore.cleanupOrphanedSpills env remaining with
      | mk result after =>
        cases result with
        | error stop => exact drained
        | ok value =>
          dsimp only
          unfold clearDirectory
          split
          · cases after.1.clear env after.2 with
            | mk result =>
              cases result with
              | error stop => exact drained
              | ok value => exact drained.congr rfl rfl rfl
          · exact drained

theorem finishWith_exact {Result : Type} (result : Result) (session : RecordingSession)
    (script : List Await) (exact : Exact env.layout session.state) :
    Exact env.layout (finishWith env result session script).2.state := by
  have drained := drainCleanupQueueLocked_exact session script exact
  grind [finishWith]

theorem startWith_exact {Result : Type} {script : List Await}
    {continuation : RecordingSession → List Await → Except Stop Result × RecordingSession}
    (shaped : session.Shaped) (exact : Exact env.layout session.state)
    (continued : ∀ (middle : RecordingSession) (script : List Await), middle.Shaped →
      Exact env.layout middle.state → Exact env.layout (continuation middle script).2.state) :
    Exact env.layout (startWith env session script continuation).2.state := by
  have drained := drainCleanupQueueLocked_exact session script exact
  have edits := @drainCleanupQueueLocked_edits env session script
  unfold startWith
  cases session.state.ensureOpen with
  | error error => exact exact
  | ok value =>
    cases outcome : drainCleanupQueueLocked env session script with
    | mk result =>
      rw [outcome] at drained edits
      cases result with
      | error => exact drained
      | ok value => exact continued _ _ (edits.preserve Shaped.edit shaped) drained

theorem removeEverything_exact (exact : Exact env.layout session.state) :
    Exact env.layout (session.removeEverything env).state := by
  have emptied : Exact env.layout
      ((session.state.removeAllTransactions env.layout).2.markCollectionChanged) := by
    unfold Exact metadataDue at *
    unfold removeAllTransactions markCollectionChanged
    rw [exact, Table.total_empty, Nat.zero_add]
    exact saturatingSub_exact ..
  exact emptied.enqueue _

/-! ### Calls that wait for files -/

theorem newRecord_bytes (layout : Layout) {before after : RecordingStateInner}
    (transactionId other : Uuid) (input : BeginTransaction) :
    transactionMetadataBytes layout (before.newRecord layout transactionId input) =
      transactionMetadataBytes layout (after.newRecord layout other input) := rfl

theorem admitRecord_exact (shaped : session.Shaped) (exact : Exact env.layout session.state)
    {input : BeginTransaction} {newTransactionBytes : Nat} {state : RecordingStateInner}
    {transactionId : Uuid}
    (charged : newTransactionBytes =
      transactionMetadataBytes env.layout (state.newRecord env.layout transactionId input))
    (script : List Await) :
    Exact env.layout (admitRecord env input newTransactionBytes session script).2.state := by
  have drained := drainCleanupQueueLocked_exact session script exact
  have edits := @drainCleanupQueueLocked_edits env session script
  unfold admitRecord
  cases outcome : drainCleanupQueueLocked env session script with
  | mk result =>
    rw [outcome] at drained edits
    cases result with
    | error => exact drained
    | ok =>
      have shapedAfter := edits.preserve Shaped.edit shaped
      dsimp only
      split
      · exact drained.enroll (shapedAfter.fresh env)
          (charged.trans (newRecord_bytes env.layout _ _ input))
      · exact drained.congr rfl rfl rfl

theorem beginTransaction_exact (shaped : session.Shaped) (exact : Exact env.layout session.state)
    (input : BeginTransaction) (script : List Await) :
    Exact env.layout (session.beginTransaction env input script).2.state := by
  refine startWith_exact shaped exact fun middle script shaped exact => ?_
  split
  · exact exact
  split
  · exact exact
  have planned := planAdmission_planned env.layout middle.state
    (transactionMetadataBytes env.layout (middle.state.newRecord env.layout
      (env.newV4 middle.bodyStore.known) input)) middle.state.order
    middle.state.transactions.size middle.state.totalMetadataBytes.bytes
  have evictable := planned.evictable shaped.state
  have edit := @SessionEdit.evict env _ _ evictable
  exact admitRecord_exact (shaped.edit edit) (exact.evict evictable.distinct) rfl script

theorem withHeaders_bytes (layout : Layout) (pending : record.summary.status = .pending)
    (side : MessageSide) {bounded : BoundedHeaders}
    (measured : bounded.storedBytes =
      headerStorageBytes layout bounded.headers.items bounded.headers.capacity) :
    transactionMetadataBytes layout (record.withHeaders side bounded).refreshTruncatedFlag +
        headerStorageBytes layout (record.headers side).items (record.headers side).capacity =
      transactionMetadataBytes layout record + bounded.storedBytes := by
  have still : (record.withHeaders side bounded).refreshTruncatedFlag.summary.status =
      .pending := by
    cases side with
    | request | response => exact pending
  rw [Exact.transactionMetadataBytes_pending layout pending,
    Exact.transactionMetadataBytes_pending layout still]
  cases side with
  | request | response =>
    dsimp only [refreshTruncatedFlag, withHeaders, headers]
    omega

theorem storeHeaders_exact (shaped : session.Shaped) (exact : Exact env.layout session.state)
    (transactionId : Uuid) (side : MessageSide) (headers : List HeaderField) (script : List Await) :
    Exact env.layout (session.storeHeaders env transactionId side headers script).2.state := by
  refine startWith_exact shaped exact fun middle script shaped exact => ?_
  dsimp only
  split
  · exact exact
  rename_i record result
  obtain ⟨found, pending⟩ := pendingRecord_eq_ok result
  obtain ⟨planned, kept⟩ := planMetadata_planned env.layout middle.state transactionId
    middle.state.order (middle.state.totalMetadataBytes.bytes +
      ((boundHeaders env.layout headers maximumCounter).storedBytes -
        headerStorageBytes env.layout (record.headers side).items
          (record.headers side).capacity) - middle.state.metadataMemoryBudgetBytes)
  have foundEvicted := @get?_evict_kept env.layout _ _ _ found _ kept
  have evicted := exact.evict (planned.evictable shaped.state).distinct
  unfold planMetadataBudgetEvictions
  unfold evict at foundEvicted evicted
  rw [foundEvicted]
  refine finishWith_exact () _ script ?_
  have part : headerStorageBytes env.layout (record.headers side).items
      (record.headers side).capacity ≤ transactionMetadataBytes env.layout record := by
    rw [Exact.transactionMetadataBytes_pending env.layout pending]
    cases side with
    | request | response =>
      dsimp only [TransactionRecord.headers]
      omega
  refine evicted.withRecord foundEvicted part (withHeaders_bytes env.layout pending side ?_)
  split <;> rfl

theorem registerBody_exact (exact : Exact env.layout session.state) {transactionId : Uuid}
    {record : TransactionRecord}
    (found : session.state.transactions.get? transactionId = some record)
    (pending : record.summary.status = .pending) (side : MessageSide) {oldBody : Option BodyRef}
    {plan : List Uuid} (distinct : plan.Nodup) (kept : transactionId ∉ plan)
    (handle : BodyHandleMeta) (stagedBody : BodyRef) (script : List Await) :
    Exact env.layout (registerBody env session transactionId side oldBody plan handle stagedBody
      script).2.state := by
  have removed := exact.remove distinct
  have foundKept : (session.state.removeTransactions env.layout plan).2.transactions.get?
      transactionId = some record := by
    rw [get?_removeTransactions, if_neg kept]
    exact found
  have same : transactionMetadataBytes env.layout (withBodySize (record.replaceBody side
      stagedBody) side handle.originalBytes).refreshTruncatedFlag =
      transactionMetadataBytes env.layout record := by
    cases side with
    | request | response =>
      exact Exact.transactionMetadataBytes_congr env.layout pending pending rfl rfl rfl rfl rfl
  unfold registerBody
  dsimp only
  rw [foundKept]
  refine finishWith_exact _ _ script (Exact.enqueue ?_ _)
  exact (removed.withRecord_same foundKept same).congr rfl rfl rfl

theorem storeBody_exact (shaped : session.Shaped) (exact : Exact env.layout session.state)
    (transactionId : Uuid) (side : MessageSide) (body : BodyWrite) (script : List Await) :
    Exact env.layout (session.storeBody env transactionId side body script).2.state := by
  unfold storeBody
  split
  · exact exact
  refine startWith_exact shaped exact fun middle script shaped exact => ?_
  dsimp only
  split
  · exact exact
  rename_i record result
  obtain ⟨found, pending⟩ := pendingRecord_eq_ok result
  split
  · exact exact
  rename_i stagedBody written rest _
  obtain ⟨planned, kept⟩ := planBodies_planned middle.state transactionId middle.state.order
    (middle.state.totalBodyBytes - ((record.body side).map BodyRef.clone).elim 0
      (fun body => body.handle.storedBytes) + min body.bytes.length
        middle.state.limits.maxBodyBytes - middle.state.limits.maxTotalBodyBytes)
  exact @registerBody_exact _ { middle with bodyStore := written } exact _
    _ found pending _ _ _ (planned.evictable shaped.state).distinct kept _
    _ _

theorem storeBodySpools_exact (exact : Exact env.layout session.state)
    (transactionId requestSpool responseSpool : Uuid) (contentType encoding : Text)
    (removed : Bool × Bool) (script : List Await) :
    Exact env.layout (session.storeBodySpools env transactionId requestSpool responseSpool
      contentType encoding removed script).2.state := by
  unfold storeBodySpools
  split
  · split
    · exact exact
    split
    · exact exact
    rename_i record result
    obtain ⟨found, pending⟩ := openPendingRecord_eq_ok result
    dsimp only
    split
    · exact exact
    · refine finishWith_exact _ _ script (Exact.enqueue ?_ _)
      refine Exact.congr (Exact.withRecord_same exact found ?_) rfl rfl rfl
      exact Exact.transactionMetadataBytes_congr env.layout pending pending rfl rfl rfl rfl rfl
  · exact exact

/-- A clone of the record that packets are stored in costs what the record costs. -/
def MeasuredByClone (env : Environment) (session : RecordingSession) : RecordingAction → Prop
  | .storeStreamPackets transactionId side packets _ =>
    (session.state.transactions.get? transactionId).map (fun record =>
        transactionMetadataBytes env.layout (record.clone.withPackets side packets)) =
      (session.state.transactions.get? transactionId).map fun record =>
        transactionMetadataBytes env.layout (record.withPackets side packets)
  | _ => True

/-- Packets are stored in a record that a clone measures correctly. -/
theorem storeStreamPackets_exact (shaped : session.Shaped) (exact : Exact env.layout session.state)
    (transactionId : Uuid) (side : MessageSide) (packets : Buffer StreamPacket)
    (script : List Await)
    (measured : MeasuredByClone env session
      (.storeStreamPackets transactionId side packets script)) :
    Exact env.layout
      (session.storeStreamPackets env transactionId side packets script).2.state := by
  unfold storeStreamPackets
  cases session.state.ensureOpen with
  | error error => exact exact
  | ok =>
    cases found : session.state.transactions.get? transactionId with
    | none => exact exact
    | some record =>
      unfold MeasuredByClone at measured
      dsimp only at measured
      rw [found] at measured
      have replaced := @Exact.replace _ _ exact shaped.state
        _ _ found _ _ (fun record => record.withPackets side packets) rfl
        (Option.some.inj measured)
      dsimp only
      split
      · unfold replaceStreamPacketsWithinMetadataBudget
        rw [found]
        dsimp only
        split
        · simp_all
        · rename_i accepted
          rw [accepted] at replaced
          exact finishWith_exact () _ script (replaced.enqueue _)
      · exact exact

theorem close_exact (exact : Exact env.layout session.state) (script : List Await) :
    Exact env.layout (session.close env script).2.state := by
  unfold close
  split
  · exact exact
  have drained := drainCleanupQueueLocked_exact _ script (removeEverything_exact exact)
  cases outcome : drainCleanupQueueLocked env (session.removeEverything env) script with
  | mk result after =>
    obtain ⟨middle, remaining⟩ := after
    rw [outcome] at drained
    cases result with
    | error stop => exact drained
    | ok value =>
      dsimp only
      cases middle.bodyStore.close env remaining with
      | mk result after =>
        cases result with
        | error stop => exact drained
        | ok value => exact drained.congr rfl rfl rfl

/-! ### Every call -/

theorem step_exact (shaped : session.Shaped) (exact : Exact env.layout session.state)
    (action : RecordingAction) (measured : MeasuredByClone env session action) :
    Exact env.layout (session.step env action).state := by
  have recording : ∀ recordingState,
      Exact env.layout (session.setRecordingState recordingState).2.state := by
    intro recordingState
    unfold setRecordingState
    split
    · exact exact
    · exact exact.congr rfl rfl rfl
  cases action with
  | startRecording => exact recording .recording
  | pauseRecording => exact recording .paused
  | beginTransaction input script => exact beginTransaction_exact shaped exact input script
  | update transactionId update => exact exact.update shaped.state update
  | updateProgress transactionId update => exact exact.updateProgress update
  | updateUserFields transactionId update => exact exact.updateUserFields shaped.state update
  | storeHeaders transactionId side headers script =>
    exact storeHeaders_exact shaped exact transactionId side headers script
  | storeBody transactionId side body script =>
    exact storeBody_exact shaped exact transactionId side body script
  | createBodySpool transactionId side =>
    grind [step, createBodySpool]
  | storeBodySpools transactionId requestSpool responseSpool contentType encoding removed script =>
    exact storeBodySpools_exact exact transactionId requestSpool responseSpool contentType
      encoding removed script
  | storeStreamPackets transactionId side packets script =>
    exact storeStreamPackets_exact shaped exact transactionId side packets script measured
  | setIgnoreLocations =>
    unfold step setIgnoreLocations
    dsimp only
    split
    · exact exact
    · split
      · exact exact
      · exact exact.congr rfl rfl rfl
  | setRecordTunnelMetadata =>
    unfold step setRecordTunnelMetadata
    dsimp only
    split
    · exact exact
    · exact exact.congr rfl rfl rfl
  | updateSettings update script =>
    unfold step updateSettings
    dsimp only
    split
    · exact exact
    split
    · exact exact
    · split
      · exact exact
      · exact finishWith_exact () _ script (exact.congr rfl rfl rfl)
  | clearSession script =>
    unfold step clearSession
    dsimp only
    split
    · exact exact
    · exact finishWith_exact () _ script ((removeEverything_exact exact).congr rfl rfl rfl)
  | close script => exact close_exact exact script
  | cleanupPendingBodies script =>
    grind [step, cleanupPendingBodies, finishWith_exact]
  | storeEvent => exact exact
  | _ => exact exact.finish shaped.state _

end RecordingSession

/-- In every run whose stream packets go to records that a clone measures correctly, the total is
what the stored transactions and the queue add up to, and nothing was cut off below zero. -/
theorem metadataLedger_run (env : Environment) (configuration : RecordingConfiguration)
    (startedAtMilliseconds : UInt64) {actions : List RecordingAction}
    (measured : (recordingMachine env configuration startedAtMilliseconds).Guarded
      (RecordingSession.MeasuredByClone env)
      (recordingMachine env configuration startedAtMilliseconds).initial actions) :
    Exact env.layout
      ((recordingMachine env configuration startedAtMilliseconds).run actions).state := by
  have both := @Machine.guarded_run _ _
    (recordingMachine env configuration startedAtMilliseconds) (RecordingSession.MeasuredByClone env)
    (fun session => session.Shaped ∧ Exact env.layout session.state)
    ⟨shaped_run configuration startedAtMilliseconds [], rfl⟩
  refine (both ?_ measured).2
  rintro session action ⟨shaped, exact⟩ measured
  exact ⟨(RecordingSession.step_edits shaped action).preserve RecordingSession.Shaped.edit shaped,
    step_exact shaped exact action measured⟩

/-- Headers without room to spare, and packets. -/
theorem metadataLedger_tightHeaders :
    Exact .wide (smallMachine.run
      [.beginTransaction .plain [], .storeHeaders 2 .request [⟨⟨['a'], 0⟩, ⟨['b'], 0⟩⟩] [],
        .storeStreamPackets 2 .request ⟨[], 3⟩ []]).state := by
  refine metadataLedger_run .counting .small 0 ⟨trivial, trivial, ?_, trivial⟩
  unfold RecordingSession.MeasuredByClone
  decide +kernel

/-- A header whose value has five bytes to spare: the packets take these bytes off the total, and
the record still has them. -/
theorem not_metadataLedger_spareHeaders :
    ¬ Exact .wide (smallMachine.run
      [.beginTransaction .plain [], .storeHeaders 2 .request [⟨⟨['a'], 0⟩, ⟨['b'], 5⟩⟩] [],
        .storeStreamPackets 2 .request ⟨[], 3⟩ []]).state := by
  unfold Exact
  decide +kernel

end SprakCapture.Capture
