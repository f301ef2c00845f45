import SprakCapture.Capture.RecordingCalls

/-!
# What the calls of the recording session do

Every call is a chain of edits (`SessionEdit`): a call that is dropped or fails has made
a beginning of its chain. An edit says of each part of the session what became of it, so
the invariants of the session are shown edit by edit.
-/

namespace SprakCapture.Capture

open Data List

/-! ### Balances -/

variable (balance : Balance)

namespace Balance

theorem saturatingSub_saturatingSub (first second : Nat) :
    (balance.saturatingSub first).saturatingSub second = balance.saturatingSub (first + second) := by
  grind [saturatingSub]

@[simp] theorem saturatingSub_zero : balance.saturatingSub 0 = balance := by
  simp [saturatingSub]

end Balance

namespace RecordingStateInner

variable {layout : Layout} {state : RecordingStateInner}

/-! ### Removal -/

/-- Two states differ at most in the records, the index and the totals. -/
structure SameFrame (before after : RecordingStateInner) : Prop where
  recordingSessionId : after.recordingSessionId = before.recordingSessionId
  nextSequence : after.nextSequence = before.nextSequence
  collectionVersion : after.collectionVersion = before.collectionVersion
  metadataMemoryBudgetBytes : after.metadataMemoryBudgetBytes = before.metadataMemoryBudgetBytes
  limits : after.limits = before.limits
  order : after.order = before.order
  cleanupQueue : after.cleanupQueue = before.cleanupQueue
  directoryCleanupPending : after.directoryCleanupPending = before.directoryCleanupPending

theorem SameFrame.trans {before middle after : RecordingStateInner}
    (first : SameFrame before middle) (second : SameFrame middle after) : SameFrame before after :=
  ⟨second.recordingSessionId.trans first.recordingSessionId,
    second.nextSequence.trans first.nextSequence,
    second.collectionVersion.trans first.collectionVersion,
    second.metadataMemoryBudgetBytes.trans first.metadataMemoryBudgetBytes,
    second.limits.trans first.limits, second.order.trans first.order,
    second.cleanupQueue.trans first.cleanupQueue,
    second.directoryCleanupPending.trans first.directoryCleanupPending⟩

/-- The index is all that an entry is removed from. -/
theorem removeResponseEntityEntry_eq (state : RecordingStateInner) (record : TransactionRecord) :
    removeResponseEntityEntry state record =
      { state with
        responseEntityIndex := (removeResponseEntityEntry state record).responseEntityIndex } := by
  unfold removeResponseEntityEntry
  split
  · rfl
  · split <;> rfl

theorem insertResponseEntityEntry_eq (state : RecordingStateInner) (transactionId : Uuid) :
    insertResponseEntityEntry state transactionId =
      { state with
        responseEntityIndex :=
          (insertResponseEntityEntry state transactionId).responseEntityIndex } := by
  unfold insertResponseEntityEntry
  split <;> rfl

theorem dropRecord_eq (layout : Layout) (state : RecordingStateInner) (transactionId : Uuid)
    (record : TransactionRecord) :
    state.dropRecord layout transactionId record =
      { state with
        transactions := state.transactions.erase transactionId
        responseEntityIndex := (removeResponseEntityEntry
          { state with transactions := state.transactions.erase transactionId }
            record).responseEntityIndex
        totalBodyBytes := state.totalBodyBytes - transactionBodyBytes record
        totalMetadataBytes := state.totalMetadataBytes.saturatingSub
          (transactionMetadataBytes layout record)
        droppedCount := saturatingSucc state.droppedCount } := by
  unfold dropRecord
  rw [removeResponseEntityEntry_eq]

theorem dropRecord_frame (layout : Layout) (state : RecordingStateInner) (transactionId : Uuid)
    (record : TransactionRecord) : SameFrame state (state.dropRecord layout transactionId record) := by
  rw [dropRecord_eq]
  exact ⟨rfl, rfl, rfl, rfl, rfl, rfl, rfl, rfl⟩

/-- A fact that survives the removal of one stored record survives the loop. -/
theorem dropRecords_preserve {invariant : RecordingStateInner → Prop}
    (preserved : ∀ {state transactionId record},
      state.transactions.get? transactionId = some record → invariant state →
      invariant (state.dropRecord layout transactionId record))
    (transactionIds : List Uuid) (holds : invariant state) :
    invariant (dropRecords layout transactionIds state).2.2 := by
  induction transactionIds generalizing state with
  | nil => exact holds
  | cons transactionId =>
    grind [dropRecords]

theorem dropRecords_frame (layout : Layout) (transactionIds : List Uuid)
    (state : RecordingStateInner) :
    SameFrame state (dropRecords layout transactionIds state).2.2 := by
  refine dropRecords_preserve (fun _ frame => frame.trans (dropRecord_frame ..)) transactionIds ?_
  exact ⟨rfl, rfl, rfl, rfl, rfl, rfl, rfl, rfl⟩

theorem get?_dropRecords (layout : Layout) (transactionIds : List Uuid)
    (state : RecordingStateInner) (identifier : Uuid) :
    (dropRecords layout transactionIds state).2.2.transactions.get? identifier =
      if identifier ∈ transactionIds then none else state.transactions.get? identifier := by
  induction transactionIds generalizing state with
  | nil => rfl
  | cons transactionId =>
    unfold dropRecords
    cases found : state.transactions.get? transactionId with
    | none =>
      grind
    | some =>
      grind [dropRecord_eq]

variable {transactionId : Uuid}

theorem plannedBytes_cons_none (absent : state.transactions.get? transactionId = none)
    (weight : TransactionRecord → Nat) (rest : List Uuid) :
    state.plannedBytes weight (transactionId :: rest) = state.plannedBytes weight rest := by
  simp [plannedBytes, absent]

variable {record : TransactionRecord}

theorem plannedBytes_cons_some (found : state.transactions.get? transactionId = some record)
    (weight : TransactionRecord → Nat) (rest : List Uuid) :
    state.plannedBytes weight (transactionId :: rest) =
      weight record + state.plannedBytes weight rest := by
  simp [plannedBytes, found]

/-- The removal of one record leaves the plans for others alone. -/
theorem plannedBytes_dropRecord (layout : Layout) (state : RecordingStateInner) {rest : List Uuid}
    (others : transactionId ∉ rest) (record : TransactionRecord)
    (weight : TransactionRecord → Nat) :
    (state.dropRecord layout transactionId record).plannedBytes weight rest =
      state.plannedBytes weight rest := by
  unfold plannedBytes
  congr 2
  refine filterMap_congr fun _ _ => ?_
  grind [dropRecord_eq]

variable {transactionIds : List Uuid}

/-- The loop takes the planned bytes off the totals. -/
theorem totals_dropRecords (layout : Layout) (distinct : transactionIds.Nodup)
    (state : RecordingStateInner) :
    (dropRecords layout transactionIds state).2.2.totalMetadataBytes =
        state.totalMetadataBytes.saturatingSub
          (state.plannedBytes (transactionMetadataBytes layout) transactionIds) ∧
      (dropRecords layout transactionIds state).2.2.totalBodyBytes =
        state.totalBodyBytes - state.plannedBytes transactionBodyBytes transactionIds := by
  induction transactionIds generalizing state with
  | nil => exact ⟨(Balance.saturatingSub_zero _).symm, rfl⟩
  | cons transactionId _ ih =>
    obtain ⟨notAgain, distinctRest⟩ := nodup_cons.mp distinct
    unfold dropRecords
    cases found : state.transactions.get? transactionId with
    | none =>
      rw [plannedBytes_cons_none found, plannedBytes_cons_none found]
      exact ih distinctRest state
    | some record =>
      obtain ⟨metadata, bodies⟩ := ih distinctRest (state.dropRecord layout transactionId record)
      rw [metadata, bodies, plannedBytes_dropRecord layout state notAgain,
        plannedBytes_dropRecord layout state notAgain, plannedBytes_cons_some found,
        plannedBytes_cons_some found, dropRecord_eq]
      exact ⟨Balance.saturatingSub_saturatingSub .., Nat.sub_sub ..⟩

/-- What the loop takes out of the table is what was planned. -/
theorem total_dropRecords (layout : Layout) (distinct : transactionIds.Nodup)
    (state : RecordingStateInner) (weight : TransactionRecord → Nat) :
    state.transactions.total weight = state.plannedBytes weight transactionIds +
      (dropRecords layout transactionIds state).2.2.transactions.total weight := by
  induction transactionIds generalizing state with
  | nil => exact (Nat.zero_add _).symm
  | cons transactionId _ ih =>
    obtain ⟨notAgain, distinctRest⟩ := nodup_cons.mp distinct
    unfold dropRecords
    cases found : state.transactions.get? transactionId with
    | none =>
      rw [plannedBytes_cons_none found]
      exact ih distinctRest state
    | some record =>
      have others := ih distinctRest (state.dropRecord layout transactionId record)
      rw [plannedBytes_dropRecord layout state notAgain] at others
      rw [plannedBytes_cons_some found, Table.total_eq_of_get? weight found, Nat.add_assoc, ← others,
        dropRecord_eq]

theorem bodies_dropRecords (layout : Layout) (transactionIds : List Uuid)
    (state : RecordingStateInner) :
    (state.transactions.values.flatMap TransactionRecord.bodyReferences).Perm
      ((dropRecords layout transactionIds state).1 ++
        (dropRecords layout transactionIds state).2.2.transactions.values.flatMap
          TransactionRecord.bodyReferences) := by
  induction transactionIds generalizing state with
  | nil => exact .refl _
  | cons transactionId _ ih =>
    unfold dropRecords
    cases found : state.transactions.get? transactionId with
    | none => exact ih state
    | some record =>
      have first := (Table.values_perm_of_get? found).flatMap_right TransactionRecord.bodyReferences
      have others := ih (state.dropRecord layout transactionId record)
      rw [append_assoc]
      refine first.trans ?_
      refine List.Perm.append_left _ ?_
      have erased : (state.dropRecord layout transactionId record).transactions =
          state.transactions.erase transactionId := by rw [dropRecord_eq]
      rw [erased] at others
      exact others

/-- The state with another queue and another total of the metadata. -/
def recharge (state : RecordingStateInner) (queue : List BodyRef) (total : Balance) :
    RecordingStateInner :=
  { state with
    cleanupQueue := queue
    totalMetadataBytes := total }

/-- Neither the queue nor the metadata matter to the loop. -/
theorem dropRecords_recharge (layout : Layout) (transactionIds : List Uuid)
    (state : RecordingStateInner) (queue : List BodyRef) (total : Balance) :
    ∃ after, dropRecords layout transactionIds (state.recharge queue total) =
      ((dropRecords layout transactionIds state).1, (dropRecords layout transactionIds state).2.1,
        (dropRecords layout transactionIds state).2.2.recharge queue after) := by
  induction transactionIds generalizing state total with
  | nil => exact ⟨total, rfl⟩
  | cons transactionId _ ih =>
    unfold dropRecords
    have sameRecords : (state.recharge queue total).transactions = state.transactions := rfl
    rw [sameRecords]
    cases state.transactions.get? transactionId with
    | none => exact ih state total
    | some record =>
      have dropped : (state.recharge queue total).dropRecord layout transactionId record =
          (state.dropRecord layout transactionId record).recharge queue
            (total.saturatingSub (transactionMetadataBytes layout record)) := by
        have entry : (removeResponseEntityEntry
            { state.recharge queue total with
              transactions := state.transactions.erase transactionId }
            record).responseEntityIndex =
            (removeResponseEntityEntry
              { state with transactions := state.transactions.erase transactionId }
              record).responseEntityIndex := by
          grind [removeResponseEntityEntry, recharge]
        rw [dropRecord_eq, dropRecord_eq]
        dsimp only [recharge] at entry ⊢
        rw [entry]
      obtain ⟨after, _⟩ := ih
        (state.dropRecord layout transactionId record)
        (total.saturatingSub (transactionMetadataBytes layout record))
      simp_all

theorem removeTransactions_recharge (layout : Layout) (transactionIds : List Uuid)
    (state : RecordingStateInner) (queue : List BodyRef) (total : Balance) :
    ∃ after, (state.recharge queue total).removeTransactions layout transactionIds =
      ((state.removeTransactions layout transactionIds).1,
        (state.removeTransactions layout transactionIds).2.recharge queue after) := by
  unfold removeTransactions
  split
  · exact ⟨total, rfl⟩
  obtain ⟨after, result⟩ := dropRecords_recharge layout transactionIds
    { state with
      order := state.order.filter fun identifier => !transactionIds.contains identifier }
    queue total
  refine ⟨after, ?_⟩
  dsimp only [recharge] at result ⊢
  rw [result]
  split <;> rfl

theorem insertResponseEntityEntry_recharge (state : RecordingStateInner) (transactionId : Uuid)
    (queue : List BodyRef) (total : Balance) :
    insertResponseEntityEntry (state.recharge queue total) transactionId =
      (insertResponseEntityEntry state transactionId).recharge queue total := by
  unfold insertResponseEntityEntry
  have sameRecords : (state.recharge queue total).transactions = state.transactions := rfl
  rw [sameRecords]
  cases (state.transactions.get? transactionId).bind responseEntityEntry with
  | none | some => rfl

/-! ### Evictions -/

/-- Records give way, and their bodies are queued. -/
def evict (layout : Layout) (state : RecordingStateInner) (transactionIds : List Uuid) :
    RecordingStateInner :=
  (state.removeTransactions layout transactionIds).2.enqueueBodyReferences layout
    (state.removeTransactions layout transactionIds).1

/-- Different transactions that are stored and finished. -/
structure Evictable (state : RecordingStateInner) (transactionIds : List Uuid) : Prop where
  distinct : transactionIds.Nodup
  finished : ∀ transactionId ∈ transactionIds, ∃ record,
    state.transactions.get? transactionId = some record ∧ record.summary.status ≠ .pending

theorem finished?_eq_some :
    state.finished? transactionId = some record ↔
      state.transactions.get? transactionId = some record ∧ record.summary.status ≠ .pending := by
  unfold finished?
  rw [Option.filter_eq_some_iff, bne_iff_ne]

/-- A plan names finished transactions, in their order. -/
structure Planned (state : RecordingStateInner) (order plan : List Uuid) : Prop where
  sublist : plan.Sublist order
  finished : ∀ transactionId ∈ plan, ∃ record, state.finished? transactionId = some record

theorem Planned.nil (state : RecordingStateInner) (order : List Uuid) : Planned state order [] :=
  ⟨nil_sublist _, nofun⟩

theorem Planned.skip {order plan : List Uuid} (planned : Planned state order plan)
    (transactionId : Uuid) : Planned state (transactionId :: order) plan :=
  ⟨planned.sublist.cons transactionId, planned.finished⟩

theorem Planned.take {order plan : List Uuid} (planned : Planned state order plan)
    (finished : state.finished? transactionId = some record) :
    Planned state (transactionId :: order) (transactionId :: plan) := by
  refine ⟨planned.sublist.cons_cons transactionId, fun identifier member => ?_⟩
  rcases mem_cons.mp member with rfl | later
  · exact ⟨record, finished⟩
  · exact planned.finished identifier later

theorem planAdmission_planned (layout : Layout) (state : RecordingStateInner) (newBytes : Nat)
    (order : List Uuid) (count bytes : Nat) :
    Planned state order (planAdmission layout state newBytes order count bytes) := by
  induction order generalizing count bytes with
  | nil => exact .nil ..
  | cons _ _ ih =>
    unfold planAdmission
    split
    · exact .nil ..
    · split
      · exact (ih ..).skip _
      · rename_i finished
        exact (ih ..).take finished

theorem planLimits_planned (state : RecordingStateInner) (order : List Uuid) (count bytes : Nat) :
    Planned state order (planLimits state order count bytes) := by
  induction order generalizing count bytes with
  | nil => exact .nil ..
  | cons _ _ ih =>
    unfold planLimits
    split
    · exact .nil ..
    · split
      · exact (ih ..).skip _
      · rename_i finished
        exact (ih ..).take finished

/-- The transaction at hand does not give way. -/
theorem planBodies_planned (state : RecordingStateInner) (current : Uuid) (order : List Uuid)
    (bytes : Nat) :
    Planned state order (planBodies state current order bytes) ∧
      current ∉ planBodies state current order bytes := by
  induction order generalizing bytes with
  | nil => exact ⟨.nil .., not_mem_nil⟩
  | cons _ _ ih =>
    unfold planBodies
    split
    · exact ⟨.nil .., not_mem_nil⟩
    split
    · exact ⟨(ih _).1.skip _, (ih _).2⟩
    rename_i different
    split
    · exact ⟨(ih _).1.skip _, (ih _).2⟩
    rename_i finished
    refine ⟨(ih _).1.take finished, fun member => ?_⟩
    rcases mem_cons.mp member with same | later
    · exact different same.symm
    · exact (ih _).2 later

theorem planMetadata_planned (layout : Layout) (state : RecordingStateInner) (current : Uuid)
    (order : List Uuid) (bytes : Nat) :
    Planned state order (planMetadata layout state current order bytes) ∧
      current ∉ planMetadata layout state current order bytes := by
  induction order generalizing bytes with
  | nil => exact ⟨.nil .., not_mem_nil⟩
  | cons _ _ ih =>
    unfold planMetadata
    split
    · exact ⟨.nil .., not_mem_nil⟩
    split
    · exact ⟨(ih _).1.skip _, (ih _).2⟩
    rename_i different
    split
    · exact ⟨(ih _).1.skip _, (ih _).2⟩
    rename_i finished
    refine ⟨(ih _).1.take finished, fun member => ?_⟩
    rcases mem_cons.mp member with same | later
    · exact different same.symm
    · exact (ih _).2 later

/-- Every transaction stands in the order exactly once, under its own identifier. -/
structure Shaped (state : RecordingStateInner) : Prop where
  distinct : state.order.Nodup
  listed : ∀ transactionId, transactionId ∈ state.order ↔
    ∃ record, state.transactions.get? transactionId = some record
  named : ∀ {transactionId record}, state.transactions.get? transactionId = some record →
    record.summary.transactionId = transactionId

theorem Planned.evictable {plan : List Uuid} (planned : Planned state state.order plan)
    (shaped : Shaped state) : Evictable state plan where
  distinct := shaped.distinct.sublist planned.sublist
  finished := by
    intro transactionId member
    obtain ⟨record, finished⟩ := planned.finished transactionId member
    exact ⟨record, finished?_eq_some.mp finished⟩

/-- The state whose order has lost some transactions. -/
def unlist (state : RecordingStateInner) (transactionIds : List Uuid) : RecordingStateInner :=
  { state with order := state.order.filter fun identifier => !transactionIds.contains identifier }

/-- Removal is the loop over the transactions that the order has lost, and a new version. -/
theorem removeTransactions_eq (layout : Layout) (state : RecordingStateInner)
    (transactionIds : List Uuid) :
    ∃ collectionVersion, state.removeTransactions layout transactionIds =
      ((dropRecords layout transactionIds (state.unlist transactionIds)).1,
        { (dropRecords layout transactionIds (state.unlist transactionIds)).2.2 with
          collectionVersion }) := by
  unfold removeTransactions
  split
  · rename_i empty
    rw [List.isEmpty_iff.mp empty]
    have kept : state.unlist [] = state := by simp [unlist]
    rw [kept]
    exact ⟨_, rfl⟩
  · dsimp only
    split <;> exact ⟨_, rfl⟩

theorem get?_removeTransactions (layout : Layout) (state : RecordingStateInner)
    (transactionIds : List Uuid) (identifier : Uuid) :
    (state.removeTransactions layout transactionIds).2.transactions.get? identifier =
      if identifier ∈ transactionIds then none else state.transactions.get? identifier := by
  obtain ⟨_, removed⟩ := removeTransactions_eq layout state transactionIds
  rw [removed]
  exact get?_dropRecords ..

/-- Removal takes the planned bytes off the totals. -/
theorem totals_removeTransactions (layout : Layout) (distinct : transactionIds.Nodup)
    (state : RecordingStateInner) :
    (state.removeTransactions layout transactionIds).2.totalMetadataBytes =
        state.totalMetadataBytes.saturatingSub
          (state.plannedBytes (transactionMetadataBytes layout) transactionIds) ∧
      (state.removeTransactions layout transactionIds).2.totalBodyBytes =
        state.totalBodyBytes - state.plannedBytes transactionBodyBytes transactionIds := by
  obtain ⟨_, removed⟩ := removeTransactions_eq layout state transactionIds
  rw [removed]
  exact totals_dropRecords layout distinct _

theorem total_removeTransactions (layout : Layout) (distinct : transactionIds.Nodup)
    (state : RecordingStateInner) (weight : TransactionRecord → Nat) :
    state.transactions.total weight = state.plannedBytes weight transactionIds +
      (state.removeTransactions layout transactionIds).2.transactions.total weight := by
  obtain ⟨_, removed⟩ := removeTransactions_eq layout state transactionIds
  rw [removed]
  exact total_dropRecords layout distinct (state.unlist transactionIds) weight

theorem removeTransactions_frame (layout : Layout) (state : RecordingStateInner)
    (transactionIds : List Uuid) :
    SameFrame
      { state.unlist transactionIds with
        collectionVersion := (state.removeTransactions layout transactionIds).2.collectionVersion }
      (state.removeTransactions layout transactionIds).2 := by
  obtain ⟨_, removed⟩ := removeTransactions_eq layout state transactionIds
  rw [removed]
  have frame := dropRecords_frame layout transactionIds (state.unlist transactionIds)
  exact { frame with collectionVersion := rfl }

theorem cleanupQueue_removeTransactions (layout : Layout) (state : RecordingStateInner)
    (transactionIds : List Uuid) :
    (state.removeTransactions layout transactionIds).2.cleanupQueue = state.cleanupQueue :=
  (removeTransactions_frame ..).cleanupQueue

theorem get?_evict (layout : Layout) (state : RecordingStateInner) (transactionIds : List Uuid)
    (identifier : Uuid) :
    (state.evict layout transactionIds).transactions.get? identifier =
      if identifier ∈ transactionIds then none else state.transactions.get? identifier :=
  get?_removeTransactions ..

theorem order_evict (layout : Layout) (state : RecordingStateInner) (transactionIds : List Uuid) :
    (state.evict layout transactionIds).order =
      state.order.filter fun identifier => !transactionIds.contains identifier :=
  (removeTransactions_frame layout state transactionIds).order

theorem evict_frame (layout : Layout) (state : RecordingStateInner) (transactionIds : List Uuid) :
    SameFrame
      { state with
        order := state.order.filter fun identifier => !transactionIds.contains identifier
        cleanupQueue := state.cleanupQueue ++ (state.removeTransactions layout transactionIds).1
        collectionVersion := (state.evict layout transactionIds).collectionVersion }
      (state.evict layout transactionIds) :=
  { removeTransactions_frame layout state transactionIds with
    collectionVersion := rfl
    cleanupQueue := congrArg (· ++ _) (cleanupQueue_removeTransactions ..) }

theorem Shaped.evict (shaped : Shaped state) (layout : Layout) (transactionIds : List Uuid) :
    Shaped (state.evict layout transactionIds) where
  distinct := by
    rw [order_evict]
    exact shaped.distinct.filter _
  listed := by
    intro identifier
    rw [order_evict, mem_filter, shaped.listed, get?_evict]
    by_cases gone : identifier ∈ transactionIds <;> simp [gone]
  named := by
    intro identifier _ found
    rw [get?_evict] at found
    split at found
    · cases found
    · exact shaped.named found

end RecordingStateInner

end SprakCapture.Capture
