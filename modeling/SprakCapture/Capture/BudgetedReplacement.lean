import SprakCapture.Capture.RecordingChains

/-!
# Replacements within the metadata budget

A summary or the stream packets of one side are replaced only if the new total fits the
budget, and other finished transactions give way for it. The evictions are planned before
anything is changed, and their bodies stay charged until their files are deleted, so that
a replacement is either refused as a whole or fits together with this cleanup.
-/

namespace SprakCapture.Capture

open Data

/-- A replacement that the metadata budget bounds. -/
inductive Replacement where
  | summary (summary : TransactionSummary) (summaryBytes : Nat)
  | streamPackets (side : MessageSide) (packets : Buffer StreamPacket)

variable {transactionIds : List Uuid} {transactionId : Uuid}

namespace RecordingStateInner

variable {layout : Layout} {state : RecordingStateInner}

/-- Carry out a replacement. -/
def replace (layout : Layout) (state : RecordingStateInner) (transactionId : Uuid) :
    Replacement → Except CaptureError (List BodyRef) × RecordingStateInner
  | .summary summary summaryBytes =>
    state.replaceSummaryWithinMetadataBudget layout transactionId summary summaryBytes
  | .streamPackets side packets =>
    state.replaceStreamPacketsWithinMetadataBudget layout transactionId side packets

/-- The finished transactions other than one, from the oldest on. -/
def otherFinished (state : RecordingStateInner) (transactionId : Uuid) : List Uuid :=
  state.order.filter fun identifier =>
    identifier != transactionId && (state.finished? identifier).isSome

/-- Of the other transactions, only the oldest finished ones were removed. -/
structure RemovesOldest (before after : RecordingStateInner) (transactionId : Uuid)
    (removed : List Uuid) : Prop where
  oldest : removed <+: before.otherFinished transactionId
  others : ∀ identifier, identifier ≠ transactionId → after.transactions.get? identifier =
    if identifier ∈ removed then none else before.transactions.get? identifier
  kept : ∃ record, after.transactions.get? transactionId = some record
  order : after.order = before.order.filter fun identifier => !removed.contains identifier

/-- A replacement is refused without any change, or fits the budget together with the cleanup
it leaves to do. -/
structure Atomic (layout : Layout) (before : RecordingStateInner) (transactionId : Uuid)
    (outcome : Except CaptureError (List BodyRef) × RecordingStateInner) : Prop where
  refused : ∀ error, outcome.1 = .error error → outcome.2 = before
  fits : ∀ removedBodies, outcome.1 = .ok removedBodies →
    (outcome.2.enqueueBodyReferences layout removedBodies).totalMetadataBytes.bytes ≤
      before.metadataMemoryBudgetBytes
  removed : ∀ removedBodies, outcome.1 = .ok removedBodies →
    ∃ removed, RemovesOldest before outcome.2 transactionId removed

/-! ### The plan -/

/-- The plan takes the oldest candidates until enough is freed. -/
theorem planMetadata_prefix (layout : Layout) (state : RecordingStateInner) (current : Uuid)
    (order : List Uuid) (bytes : Nat) :
    planMetadata layout state current order bytes <+:
      order.filter fun identifier =>
        identifier != current && (state.finished? identifier).isSome := by
  induction order generalizing bytes with
  | nil => exact List.prefix_rfl
  | cons =>
    grind [planMetadata]

/-- The bodies that the loop took out weigh as much as was planned. -/
theorem sum_bodies_dropRecords (layout : Layout) (distinct : transactionIds.Nodup)
    (state : RecordingStateInner) (weight : BodyRef → Nat) :
    ((dropRecords layout transactionIds state).1.map weight).sum =
      state.plannedBytes (fun record => (record.bodyReferences.map weight).sum) transactionIds := by
  induction transactionIds generalizing state with
  | nil => rfl
  | cons transactionId _ ih =>
    obtain ⟨notAgain, distinctRest⟩ := List.nodup_cons.mp distinct
    unfold dropRecords
    cases found : state.transactions.get? transactionId with
    | none =>
      rw [plannedBytes_cons_none found]
      exact ih distinctRest state
    | some record =>
      have others := ih distinctRest (state.dropRecord layout transactionId record)
      rw [plannedBytes_dropRecord layout state notAgain] at others
      rw [plannedBytes_cons_some found, List.map_append, List.sum_append, others]

/-- What the removed bodies still cost is what the plan deferred. -/
theorem deferred_removeTransactions (layout : Layout) (distinct : transactionIds.Nodup)
    (state : RecordingStateInner) :
    ((state.removeTransactions layout transactionIds).1.map
        (cleanupBodyReferenceMetadataBytes layout)).sum =
      state.plannedBytes (cleanupBodyReferencesMetadataBytes layout) transactionIds := by
  obtain ⟨_, removed⟩ := removeTransactions_eq layout state transactionIds
  rw [removed]
  exact sum_bodies_dropRecords layout distinct (state.unlist transactionIds)
    (cleanupBodyReferenceMetadataBytes layout)

/-! ### Replacements -/

theorem atomic_of_error (error : CaptureError) :
    Atomic layout state transactionId (.error error, state) :=
  ⟨fun _ _ => rfl, nofun, nofun⟩

/-- A change of a stored record within the budget is atomic. -/
theorem replaceWithinMetadataBudget_atomic (shaped : Shaped state) {record : TransactionRecord}
    (found : state.transactions.get? transactionId = some record) (oldBytes newBytes : Nat)
    (change : TransactionRecord → TransactionRecord) :
    Atomic layout state transactionId
      (state.replaceWithinMetadataBudget layout transactionId oldBytes newBytes change) := by
  have plan := planMetadata_prefix layout state transactionId state.order
    (state.totalMetadataBytes.bytes + (newBytes - oldBytes) - state.metadataMemoryBudgetBytes)
  obtain ⟨planned, notPlanned⟩ := planMetadata_planned layout state transactionId state.order
    (state.totalMetadataBytes.bytes + (newBytes - oldBytes) - state.metadataMemoryBudgetBytes)
  have distinct := (planned.evictable shaped).distinct
  unfold replaceWithinMetadataBudget planMetadataBudgetEvictions
  dsimp only
  generalize planMetadata layout state transactionId state.order
    (state.totalMetadataBytes.bytes + (newBytes - oldBytes) -
      state.metadataMemoryBudgetBytes) = evictionIds at plan planned notPlanned distinct ⊢
  split
  · exact atomic_of_error _
  rename_i within
  have kept : (state.removeTransactions layout evictionIds).2.transactions.get? transactionId =
      some record := by
    rw [get?_removeTransactions, if_neg notPlanned]
    exact found
  rw [kept]
  refine ⟨nofun, ?_, ?_⟩
  · intro removedBodies accepted
    cases accepted
    unfold enqueueBodyReferences
    rw [deferred_removeTransactions layout distinct]
    exact not_lt.mp within
  · intro removedBodies _
    refine ⟨evictionIds, plan, fun _ different => ?_, ⟨change record, ?_⟩, ?_⟩
    · rw [Table.get?_insert, if_neg different, get?_removeTransactions]
    · exact Table.get?_insert_self _ _ _
    · exact order_evict layout state evictionIds

theorem replace_atomic (shaped : Shaped state) (transactionId : Uuid) (replacement : Replacement) :
    Atomic layout state transactionId (state.replace layout transactionId replacement) := by
  cases replacement with
  | summary summary =>
    unfold replace replaceSummaryWithinMetadataBudget
    dsimp only
    split
    · exact atomic_of_error _
    · split
      · exact atomic_of_error _
      · rename_i found
        exact replaceWithinMetadataBudget_atomic shaped found ..
  | streamPackets =>
    unfold replace replaceStreamPacketsWithinMetadataBudget
    dsimp only
    split
    · exact atomic_of_error _
    · rename_i found
      exact replaceWithinMetadataBudget_atomic shaped found ..

end RecordingStateInner

/-- In every reachable session, a replacement that fails changes nothing, and one that succeeds
fits the budget together with the deferred cleanup and removes only the oldest of the other
finished transactions. -/
theorem replacements_atomic (env : Environment) (configuration : RecordingConfiguration)
    (startedAtMilliseconds : UInt64) (actions : List RecordingAction) (transactionId : Uuid)
    (replacement : Replacement) :
    RecordingStateInner.Atomic env.layout
      ((recordingMachine env configuration startedAtMilliseconds).run actions).state transactionId
      (((recordingMachine env configuration startedAtMilliseconds).run actions).state.replace
        env.layout transactionId replacement) :=
  RecordingStateInner.replace_atomic
    (RecordingSession.shaped_run configuration startedAtMilliseconds actions).state transactionId
    replacement

end SprakCapture.Capture
