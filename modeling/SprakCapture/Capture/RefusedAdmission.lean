import SprakCapture.Capture.BudgetedReplacement
import SprakCapture.Capture.LiveFiles

/-!
# Refused admissions

Finished transactions give way to a new one before it is known whether the new one fits.
A record that does not fit even without all of them, such as one with a very long URL, is
refused after the whole history is gone, while a replacement looks at the projected total
first. The refusal is free exactly if no transaction is finished. Pending transactions
never give way.
-/

namespace SprakCapture.Capture

open Data List

variable {env : Environment}

/-! ### Cleanups that go through -/

/-- Some awaits let a call end well, whatever other awaits follow. -/
def Completes {Result : Type} (call : List Await → Except Stop Unit × Result × List Await) : Prop :=
  ∃ awaits after, ∀ rest, call (awaits ++ rest) = (.ok (), after, rest)

/-- A file operation that ends well and that no other task runs beside. -/
def Await.quiet : Await where
  background := []
  result := .done
  deleted := []
  leftover := none
  pathSpare := 0

namespace BodyStore

theorem remove_completes (store : BodyStore) (body : BodyRef) :
    Completes (store.remove env body) := by
  unfold Completes remove
  cases body.storage with
  | memory => exact ⟨[], store, fun _ => rfl⟩
  | spill path => exact ⟨[.quiet], store.removeFile path.name, fun _ => rfl⟩

theorem cleanupOrphanedSpills_completes (store : BodyStore) :
    Completes (store.cleanupOrphanedSpills env) := by
  -- each removal that ends well takes at least one orphan off the list
  induction counted : store.orphanedSpills.length using Nat.strong_induction_on
    generalizing store with
  | h count ih =>
    cases orphans : store.orphanedSpills with
    | nil =>
      refine ⟨[], store, fun rest => ?_⟩
      cases rest with
      | nil | cons _ rest => simp [cleanupOrphanedSpills, orphans]
    | cons name others =>
      have fewer : (store.orphanedSpills.filter (· != name)).length < count := by
        grind
      obtain ⟨awaits, after, completed⟩ := ih _ fewer
        { store.removeFile name with
          orphanedSpills := store.orphanedSpills.filter (· != name) } rfl
      refine ⟨.quiet :: awaits, after, fun rest => ?_⟩
      rw [cleanupOrphanedSpills.eq_def]
      simp only [orphans]
      exact completed rest

theorem clear_completes (store : BodyStore) : Completes (store.clear env) :=
  ⟨[.quiet, .quiet], { store.removeFiles store.files with orphanedSpills := [] }, fun _ => rfl⟩

end BodyStore

namespace RecordingSession

theorem drainQueue_completes (queue : List BodyRef) (session : RecordingSession) :
    Completes (drainQueue env queue session) := by
  induction queue generalizing session with
  | nil => exact ⟨[], session, fun _ => rfl⟩
  | cons body rest ih =>
    obtain ⟨awaits, store, _⟩ := @BodyStore.remove_completes env session.bodyStore body
    obtain ⟨more, after, _⟩ := ih
      { bodyStore := store
        state :=
          { session.state with
            cleanupQueue := rest
            totalMetadataBytes := session.state.totalMetadataBytes.saturatingSub
              (cleanupBodyReferenceMetadataBytes env.layout body) } }
    refine ⟨awaits ++ more, after, fun _ => ?_⟩
    grind [drainQueue]

theorem clearDirectory_completes (session : RecordingSession) :
    Completes (clearDirectory env session) := by
  obtain ⟨awaits, store, cleared⟩ := BodyStore.clear_completes session.bodyStore
  unfold Completes clearDirectory
  split
  · refine ⟨awaits, ⟨{ session.state with directoryCleanupPending := false }, store⟩, fun _ => ?_⟩
    rw [cleared]
  · exact ⟨[], session, fun _ => rfl⟩

/-- Some awaits let a cleanup end well. -/
theorem drainCleanupQueueLocked_completes (session : RecordingSession) :
    Completes (drainCleanupQueueLocked env session) := by
  obtain ⟨first, middle, _⟩ := @drainQueue_completes env session.state.cleanupQueue session
  obtain ⟨second, store, _⟩ := @BodyStore.cleanupOrphanedSpills_completes env middle.bodyStore
  obtain ⟨third, after, _⟩ := @clearDirectory_completes env { middle with bodyStore := store }
  refine ⟨first ++ (second ++ third), after, fun _ => ?_⟩
  unfold drainCleanupQueueLocked
  simp_all

end RecordingSession

namespace RecordingStateInner

variable {layout : Layout} {state : RecordingStateInner}

/-- The state after a cleanup that ended well. -/
def cleaned (layout : Layout) (state : RecordingStateInner) : RecordingStateInner :=
  { state with
    cleanupQueue := []
    totalMetadataBytes := state.totalMetadataBytes.saturatingSub
      (state.cleanupQueue.map (cleanupBodyReferenceMetadataBytes layout)).sum
    directoryCleanupPending := false }

end RecordingStateInner

variable {script rest : List Await}

namespace RecordingSession

variable {session after : RecordingSession}

theorem drainQueue_ok {queue : List BodyRef} (same : session.state.cleanupQueue = queue)
    (ended : drainQueue env queue session script = (.ok (), after, rest)) :
    after.state =
      { session.state with
        cleanupQueue := []
        totalMetadataBytes := session.state.totalMetadataBytes.saturatingSub
          (queue.map (cleanupBodyReferenceMetadataBytes env.layout)).sum } := by
  induction queue generalizing session script with
  | nil =>
    cases ended
    rw [map_nil, sum_nil, Balance.saturatingSub_zero, ← same]
  | cons body _ ih =>
    unfold drainQueue at ended
    cases removed : session.bodyStore.remove env body script with
    | mk result =>
      rw [removed] at ended
      cases result with
      | error => cases ended
      | ok =>
        rw [ih rfl ended, map_cons, sum_cons]
        rw [Balance.saturatingSub_saturatingSub]

theorem drainCleanupQueueLocked_ok
    (ended : drainCleanupQueueLocked env session script = (.ok (), after, rest)) :
    after.state = session.state.cleaned env.layout := by
  unfold drainCleanupQueueLocked at ended
  cases drained : drainQueue env session.state.cleanupQueue session script with
  | mk result remaining =>
    obtain ⟨middle, remaining⟩ := remaining
    rw [drained] at ended
    cases result with
    | error stop => cases ended
    | ok value =>
      have emptied := drainQueue_ok rfl drained
      dsimp only at ended
      cases orphans : middle.bodyStore.cleanupOrphanedSpills env remaining with
      | mk result remaining =>
        rw [orphans] at ended
        cases result with
        | error stop => cases ended
        | ok value =>
          unfold clearDirectory at ended
          dsimp only at ended
          split at ended
          · split at ended
            · cases ended
            · cases ended
              rw [emptied]
              rfl
          · rename_i idle
            cases ended
            rw [emptied] at idle
            have settled := Bool.eq_false_of_not_eq_true idle
            unfold RecordingStateInner.cleaned
            rw [emptied, ← settled]

end RecordingSession

/-! ### The plan -/

variable {newTransactionBytes : Nat} {transactionIds : List Uuid}

namespace RecordingStateInner

variable {layout : Layout} {state : RecordingStateInner}

/-- The finished transactions, from the oldest on. -/
def finishedIds (state : RecordingStateInner) : List Uuid :=
  state.order.filter fun identifier => (state.finished? identifier).isSome

/-- A new record fits once the queue is empty and some transactions are gone. -/
structure FitsWithout (layout : Layout) (state : RecordingStateInner) (newTransactionBytes : Nat)
    (transactionIds : List Uuid) : Prop where
  count : state.transactions.size - transactionIds.length < state.limits.maxTransactions
  metadata :
    state.totalMetadataBytes.bytes -
      (state.cleanupQueue.map (cleanupBodyReferenceMetadataBytes layout)).sum -
      state.plannedBytes (transactionMetadataBytes layout) transactionIds + newTransactionBytes ≤
        state.metadataMemoryBudgetBytes

theorem plannedBytes_append (state : RecordingStateInner) (weight : TransactionRecord → Nat)
    (first second : List Uuid) :
    state.plannedBytes weight (first ++ second) =
      state.plannedBytes weight first + state.plannedBytes weight second := by
  grind [plannedBytes]

/-- More room is left when more transactions are gone. -/
theorem FitsWithout.mono {fewer more : List Uuid}
    (fits : FitsWithout layout state newTransactionBytes fewer) (later : fewer <+: more) :
    FitsWithout layout state newTransactionBytes more := by
  obtain ⟨_, rfl⟩ := later
  have count := fits.count
  have metadata := fits.metadata
  refine ⟨?_, ?_⟩
  · rw [length_append]
    omega
  · rw [plannedBytes_append]
    omega

/-- The plan takes the oldest finished transactions, all of them or until the record fits. -/
theorem planAdmission_stops (layout : Layout) (state : RecordingStateInner)
    (newTransactionBytes : Nat) (order : List Uuid) (count bytes : Nat) :
    let plan := planAdmission layout state newTransactionBytes order count bytes
    let finished := order.filter fun identifier => (state.finished? identifier).isSome
    plan <+: finished ∧ (plan = finished ∨
      count - plan.length < state.limits.maxTransactions ∧
        bytes - state.plannedBytes (transactionMetadataBytes layout) plan + newTransactionBytes ≤
          state.metadataMemoryBudgetBytes) := by
  induction order generalizing count bytes with
  | nil => exact ⟨prefix_rfl, .inl rfl⟩
  | cons _ _ ih =>
    unfold planAdmission
    split
    · rename_i fits
      exact ⟨List.nil_prefix, .inr fits⟩
    split
    · rename_i pending
      rw [filter_cons, if_neg (by simp [pending])]
      exact ih count bytes
    rename_i record finished
    obtain ⟨oldest, stops⟩ := ih (count - 1) (bytes - transactionMetadataBytes layout record)
    rw [filter_cons, if_pos (by simp [finished])]
    refine ⟨(prefix_cons_inj _).mpr oldest, stops.imp (congrArg _) ?_⟩
    rw [length_cons, plannedBytes_cons_some (finished?_eq_some.mp finished).1]
    omega

/-- The evictions for a new record after a cleanup. -/
def admissionPlan (layout : Layout) (state : RecordingStateInner) (newTransactionBytes : Nat) :
    List Uuid :=
  (state.cleaned layout).planTransactionAdmissionEvictions layout newTransactionBytes

theorem admissionPlan_stops (layout : Layout) (state : RecordingStateInner)
    (newTransactionBytes : Nat) :
    state.admissionPlan layout newTransactionBytes <+: state.finishedIds ∧
      (state.admissionPlan layout newTransactionBytes = state.finishedIds ∨
        FitsWithout layout state newTransactionBytes
          (state.admissionPlan layout newTransactionBytes)) := by
  obtain ⟨oldest, stops⟩ := planAdmission_stops layout (state.cleaned layout) newTransactionBytes
    state.order state.transactions.size (state.cleaned layout).totalMetadataBytes.bytes
  exact ⟨oldest, stops.imp id fun fits => ⟨fits.1, fits.2⟩⟩

/-- The record fits after the planned evictions if it fits after any. -/
theorem fitsWithout_admissionPlan_iff :
    FitsWithout layout state newTransactionBytes
        (state.admissionPlan layout newTransactionBytes) ↔
      FitsWithout layout state newTransactionBytes state.finishedIds := by
  obtain ⟨oldest, stops⟩ := admissionPlan_stops layout state newTransactionBytes
  refine ⟨fun fits => fits.mono oldest, fun fits => ?_⟩
  rcases stops with all | enough
  · rw [all]
    exact fits
  · exact enough

theorem admissionPlan_evictable (shaped : Shaped state) (newTransactionBytes : Nat) :
    Evictable (state.cleaned layout) (state.admissionPlan layout newTransactionBytes) :=
  Planned.evictable
    (planAdmission_planned layout (state.cleaned layout) newTransactionBytes state.order
      state.transactions.size (state.cleaned layout).totalMetadataBytes.bytes)
    ⟨shaped.distinct, shaped.listed, shaped.named⟩

theorem plannedBytes_one
    (stored : ∀ transactionId ∈ transactionIds, ∃ record,
      state.transactions.get? transactionId = some record) :
    state.plannedBytes (fun _ => 1) transactionIds = transactionIds.length := by
  induction transactionIds with
  | nil => rfl
  | cons transactionId _ ih =>
    obtain ⟨record, found⟩ := stored transactionId mem_cons_self
    have others := ih fun identifier member =>
      stored identifier (mem_cons_of_mem _ member)
    rw [plannedBytes_cons_some found, others, length_cons, Nat.add_comm]

/-- The admission test after the evictions and the cleanup of their bodies. -/
theorem canAdmitTransaction_evicted (evictable : Evictable (state.cleaned layout) transactionIds)
    (newTransactionBytes : Nat) :
    (((state.cleaned layout).evict layout transactionIds).cleaned layout).canAdmitTransaction
        newTransactionBytes = true ↔
      FitsWithout layout state newTransactionBytes transactionIds := by
  have frame := evict_frame layout (state.cleaned layout) transactionIds
  have counted := total_removeTransactions layout evictable.distinct (state.cleaned layout)
    fun _ => 1
  have stored : ∀ transactionId ∈ transactionIds, ∃ record,
      (state.cleaned layout).transactions.get? transactionId = some record := by
    intro transactionId member
    obtain ⟨record, found, _⟩ := evictable.finished transactionId member
    exact ⟨record, found⟩
  rw [plannedBytes_one stored, ← Table.size_eq_total, ← Table.size_eq_total] at counted
  have size : ((state.cleaned layout).evict layout transactionIds).transactions.size =
      state.transactions.size - transactionIds.length :=
    Nat.eq_sub_of_add_eq' counted.symm
  have bytes : (((state.cleaned layout).evict layout transactionIds).cleaned
      layout).totalMetadataBytes.bytes = state.totalMetadataBytes.bytes -
        (state.cleanupQueue.map (cleanupBodyReferenceMetadataBytes layout)).sum -
        state.plannedBytes (transactionMetadataBytes layout) transactionIds := by
    have total := (totals_removeTransactions layout evictable.distinct (state.cleaned layout)).1
    have queue : ((state.cleaned layout).evict layout transactionIds).cleanupQueue =
        ((state.cleaned layout).removeTransactions layout transactionIds).1 := by
      rw [frame.cleanupQueue]
      exact nil_append _
    unfold cleaned at queue ⊢
    rw [queue]
    unfold evict enqueueBodyReferences
    dsimp only [Balance.saturatingSub, Balance.saturatingAdd]
    rw [Nat.add_sub_cancel]
    exact congrArg Balance.bytes total
  have test : (((state.cleaned layout).evict layout transactionIds).cleaned
      layout).canAdmitTransaction newTransactionBytes = true ↔
      ((state.cleaned layout).evict layout transactionIds).transactions.size <
          ((state.cleaned layout).evict layout transactionIds).limits.maxTransactions ∧
        (((state.cleaned layout).evict layout transactionIds).cleaned
            layout).totalMetadataBytes.bytes + newTransactionBytes ≤
          ((state.cleaned layout).evict layout transactionIds).metadataMemoryBudgetBytes := by
    unfold canAdmitTransaction
    rw [Bool.and_eq_true, decide_eq_true_iff, decide_eq_true_iff]
    rfl
  rw [test, bytes, size, frame.limits, frame.metadataMemoryBudgetBytes]
  exact ⟨fun fits => ⟨fits.1, fits.2⟩, fun fits => ⟨fits.count, fits.metadata⟩⟩

end RecordingStateInner

/-! ### The call -/

/-- A request that is to be recorded if there is room. -/
structure Recordable (env : Environment) (state : RecordingStateInner) (input : BeginTransaction) :
    Prop where
  location : state.shouldRecordFromState env input.location = .ok true
  tunnel : RecordingSession.isTunnel input.protocol = true → state.recordTunnelMetadata = true

/-- Transactions that are stored stay as they are, together with their files and the token. -/
structure SameHistory (before after : RecordingSession) : Prop where
  transactions : after.state.transactions = before.state.transactions
  order : after.state.order = before.state.order
  bodies : ∀ {transactionId record}, before.state.transactions.get? transactionId = some record →
    ∀ body ∈ record.bodyReferences, ∀ name, body.file = some name → name ∈ after.bodyStore.files
  token : after.collectionTokenFromState = before.collectionTokenFromState

/-- Pending transactions stay as they are. -/
def KeepsPending (before after : RecordingStateInner) : Prop :=
  ∀ transactionId record, before.transactions.get? transactionId = some record →
    record.summary.status = .pending → after.transactions.get? transactionId = some record

/-- A call that finds no room for a transaction leaves the history alone, and no call evicts a
pending transaction. -/
structure CostsNothing (env : Environment) (session : RecordingSession) (input : BeginTransaction)
    (script : List Await) : Prop where
  refused : Recordable env session.state input →
    (session.beginTransaction env input script).1 = .ok none →
      SameHistory session (session.beginTransaction env input script).2
  pending : KeepsPending session.state (session.beginTransaction env input script).2.state

namespace RecordingSession

open RecordingStateInner

variable {session : RecordingSession}

/-- What a new record is charged for. -/
def recordBytes (env : Environment) (session : RecordingSession) (input : BeginTransaction) : Nat :=
  transactionMetadataBytes env.layout
    (session.state.newRecord env.layout (env.newV4 session.bodyStore.known) input)

/-- The session at the second cleanup of an admission. -/
def evicted (env : Environment) (session middle : RecordingSession) (input : BeginTransaction) :
    RecordingSession :=
  { middle with
    state := (session.state.cleaned env.layout).evict env.layout
      (session.state.admissionPlan env.layout (session.recordBytes env input)) }

variable {input : BeginTransaction} {middle : RecordingSession}

/-- A request that is to be recorded goes from the first cleanup to the admission. -/
theorem beginTransaction_recordable (unclosed : session.state.closed = false)
    (recordable : Recordable env session.state input)
    (ended : drainCleanupQueueLocked env session script = (.ok (), middle, rest)) :
    session.beginTransaction env input script =
      admitRecord env input (session.recordBytes env input) (session.evicted env middle input)
        rest := by
  have opened : session.state.ensureOpen = .ok () := by
    unfold ensureOpen
    rw [unclosed]
    rfl
  have settled := drainCleanupQueueLocked_ok ended
  have recorded : middle.state.shouldRecordFromState env input.location = .ok true := by
    rw [settled]
    exact recordable.location
  have passed : (!true || (isTunnel input.protocol && !middle.state.recordTunnelMetadata)) =
      false := by
    rw [settled]
    cases tunnel : isTunnel input.protocol with
    | false => rfl
    | true => simp [cleaned, recordable.tunnel tunnel]
  unfold beginTransaction startWith
  rw [opened, ended]
  dsimp only
  rw [recorded]
  dsimp only
  rw [passed, settled]
  rfl

theorem admitRecord_ok
    (ended : drainCleanupQueueLocked env session script = (.ok (), middle, rest)) :
    (admitRecord env input newTransactionBytes session script).1 = .ok none ↔
      ¬ (session.state.cleaned env.layout).canAdmitTransaction newTransactionBytes = true := by
  unfold admitRecord
  rw [← drainCleanupQueueLocked_ok ended]
  grind

theorem admitRecord_refused {script : List Await}
    (refused : (admitRecord env input newTransactionBytes session script).1 = .ok none) :
    ¬ (session.state.cleaned env.layout).canAdmitTransaction newTransactionBytes = true ∧
      (admitRecord env input newTransactionBytes session script).2.state =
        { session.state.cleaned env.layout with
          droppedCount := saturatingSucc session.state.droppedCount } := by
  cases outcome : drainCleanupQueueLocked env session script with
  | mk result _ =>
    cases result with
    | error =>
      grind [admitRecord]
    | ok =>
      have full := (admitRecord_ok outcome).mp refused
      refine ⟨full, ?_⟩
      have settled := drainCleanupQueueLocked_ok outcome
      unfold admitRecord
      rw [outcome]
      dsimp only
      rw [settled, if_neg full]
      rfl

/-! ### Pending transactions -/

theorem keepsPending_drain (session : RecordingSession) (script : List Await) :
    KeepsPending session.state (drainCleanupQueueLocked env session script).2.1.state := by
  intro _ _ found _
  rw [(drainCleanupQueueLocked_cleans session script).1.transactions]
  exact found

theorem keepsPending_evict {state : RecordingStateInner} (layout : Layout)
    (evictable : Evictable state transactionIds) :
    KeepsPending state (state.evict layout transactionIds) := by
  intro transactionId _ found _
  rw [get?_evict, if_neg]
  · exact found
  · intro planned
    obtain ⟨_, _, finished⟩ := evictable.finished transactionId planned
    simp_all

theorem keepsPending_admitRecord (shaped : session.Shaped) (input : BeginTransaction)
    (newTransactionBytes : Nat) (script : List Await) :
    KeepsPending session.state
      (admitRecord env input newTransactionBytes session script).2.state := by
  have drained := @keepsPending_drain env session script
  have edits := @drainCleanupQueueLocked_edits env session script
  unfold admitRecord
  cases outcome : drainCleanupQueueLocked env session script with
  | mk result =>
    rw [outcome] at drained edits
    cases result with
    | error => exact drained
    | ok =>
      have shapedAfter := edits.preserve Shaped.edit shaped
      dsimp only
      split
      · intro transactionId record found pending
        have kept := drained transactionId record found pending
        unfold enroll
        rw [Table.get?_insert, if_neg]
        · exact kept
        · rintro rfl
          rw [shapedAfter.fresh env] at kept
          cases kept
      · exact drained

/-- Pending transactions outlast every call of `beginTransaction`, however it ends. -/
theorem keepsPending_beginTransaction (shaped : session.Shaped) (input : BeginTransaction)
    (script : List Await) :
    KeepsPending session.state (session.beginTransaction env input script).2.state := by
  have drained := @keepsPending_drain env session script
  have edits := @drainCleanupQueueLocked_edits env session script
  unfold beginTransaction startWith
  cases session.state.ensureOpen with
  | error error => exact fun _ _ found _ => found
  | ok value =>
    cases outcome : drainCleanupQueueLocked env session script with
    | mk result after =>
      rw [outcome] at drained edits
      obtain ⟨middle, rest⟩ := after
      cases result with
      | error => exact drained
      | ok value =>
        have shapedMiddle := edits.preserve Shaped.edit shaped
        dsimp only
        split
        · exact drained
        split
        · exact drained
        have planned := planAdmission_planned env.layout middle.state
          (middle.recordBytes env input) middle.state.order
          middle.state.transactions.size middle.state.totalMetadataBytes.bytes
        have evictable := planned.evictable shapedMiddle.state
        have given := @SessionEdit.evict env _ _ evictable
        intro transactionId record found pending
        exact keepsPending_admitRecord (shapedMiddle.edit given) input _ rest
          transactionId record
          (keepsPending_evict env.layout evictable transactionId record
            (drained transactionId record found pending) pending) pending

/-! ### Refusals -/

/-- A refused record does not fit, and the planned transactions are gone. -/
theorem beginTransaction_refused (shaped : session.Shaped) {script : List Await}
    (recordable : Recordable env session.state input)
    (refused : (session.beginTransaction env input script).1 = .ok none) :
    session.state.closed = false ∧
      ¬ FitsWithout env.layout session.state (session.recordBytes env input)
        session.state.finishedIds ∧
      (session.beginTransaction env input script).2.state =
        { ((session.state.cleaned env.layout).evict env.layout (session.state.admissionPlan
              env.layout (session.recordBytes env input))).cleaned env.layout with
          droppedCount := saturatingSucc
            ((session.state.cleaned env.layout).evict env.layout (session.state.admissionPlan
              env.layout (session.recordBytes env input))).droppedCount } := by
  have unclosed : session.state.closed = false := by
    cases closed : session.state.closed with
    | false => rfl
    | true =>
      unfold beginTransaction startWith ensureOpen at refused
      rw [closed] at refused
      cases refused
  refine ⟨unclosed, ?_⟩
  cases outcome : drainCleanupQueueLocked env session script with
  | mk result after =>
    cases result with
    | error =>
      unfold beginTransaction startWith ensureOpen at refused
      rw [unclosed] at refused
      rw [outcome] at refused
      cases refused
    | ok =>
      rw [beginTransaction_recordable unclosed recordable outcome] at refused ⊢
      obtain ⟨full, left⟩ := admitRecord_refused refused
      refine ⟨?_, left⟩
      rw [← fitsWithout_admissionPlan_iff]
      exact fun fits => full ((canAdmitTransaction_evicted
        (admissionPlan_evictable shaped.state _) _).mpr fits)

/-- A record that does not fit is refused if both cleanups go through. -/
theorem exists_refused (shaped : session.Shaped) (unclosed : session.state.closed = false)
    (recordable : Recordable env session.state input)
    (full : ¬ FitsWithout env.layout session.state (session.recordBytes env input)
      session.state.finishedIds) :
    ∃ script, (session.beginTransaction env input script).1 = .ok none := by
  obtain ⟨first, middle, drained⟩ := drainCleanupQueueLocked_completes session
  obtain ⟨second, _, again⟩ :=
    drainCleanupQueueLocked_completes (session.evicted env middle input)
  refine ⟨first ++ (second ++ []), ?_⟩
  rw [beginTransaction_recordable unclosed recordable (drained _)]
  refine (admitRecord_ok (again [])).mpr fun fits => full ?_
  rw [← fitsWithout_admissionPlan_iff]
  exact (canAdmitTransaction_evicted (admissionPlan_evictable shaped.state _) _).mp fits

end RecordingSession

open RecordingSession RecordingStateInner in
/-- In every reachable session, a call to begin a transaction costs nothing, whichever of its file
operations fail, exactly if the session is closed, the request is not to be recorded, no
transaction is finished, or the new record fits once all finished transactions are gone. -/
theorem beginTransaction_costsNothing_iff (env : Environment)
    (configuration : RecordingConfiguration) (startedAtMilliseconds : UInt64)
    (actions : List RecordingAction) (input : BeginTransaction) :
    let session := (recordingMachine env configuration startedAtMilliseconds).run actions
    (∀ script, CostsNothing env session input script) ↔
      session.state.closed = true ∨ ¬ Recordable env session.state input ∨
        session.state.finishedIds = [] ∨
        FitsWithout env.layout session.state (session.recordBytes env input)
          session.state.finishedIds := by
  intro session
  have shaped : session.Shaped := shaped_run configuration startedAtMilliseconds actions
  constructor
  · intro free
    by_contra otherwise
    push Not at otherwise
    obtain ⟨closed, recordable, finished, full⟩ := otherwise
    obtain ⟨script, refused⟩ := exists_refused shaped (Bool.eq_false_of_not_eq_true closed)
      recordable full
    have same := (free script).refused recordable refused
    obtain ⟨_, _, left⟩ := beginTransaction_refused shaped recordable refused
    have planned : session.state.admissionPlan env.layout (session.recordBytes env input) =
        session.state.finishedIds := by
      rcases (admissionPlan_stops env.layout session.state (session.recordBytes env input)).2 with
        everything | enough
      · exact everything
      · exact absurd (fitsWithout_admissionPlan_iff.mp enough) full
    have order : (session.beginTransaction env input script).2.state.order =
        session.state.order.filter fun identifier =>
          !session.state.finishedIds.contains identifier := by
      rw [left, planned]
      exact order_evict env.layout (session.state.cleaned env.layout) session.state.finishedIds
    obtain ⟨oldest, member⟩ := exists_mem_of_ne_nil _ finished
    have stored : oldest ∈ session.state.order := mem_of_mem_filter member
    rw [← same.order, order, mem_filter] at stored
    simp [member] at stored
  · intro condition script
    refine ⟨fun recordable refused => ?_, keepsPending_beginTransaction shaped input script⟩
    obtain ⟨unclosed, full, left⟩ := beginTransaction_refused shaped recordable refused
    have unfinished : session.state.finishedIds = [] := by
      rcases condition with closed | unrecordable | unfinished | fits
      · rw [unclosed] at closed
        cases closed
      · exact absurd recordable unrecordable
      · exact unfinished
      · exact absurd fits full
    have oldest := (admissionPlan_stops env.layout session.state (session.recordBytes env input)).1
    rw [unfinished, prefix_nil] at oldest
    rw [oldest] at left
    have files := (sessionFiles_run env configuration startedAtMilliseconds
      (actions ++ [.beginTransaction input script])).liveFilesKept
    rw [Machine.run_concat] at files
    have same : (session.beginTransaction env input script).2.state.transactions =
        session.state.transactions := by
      rw [left]
      rfl
    refine ⟨same, ?_, fun found => files.present (same ▸ found), ?_⟩
    · rw [left]
      rfl
    · unfold collectionTokenFromState
      rw [left]
      rfl

/-- A request whose URL was allocated with more room than the metadata budget. -/
def BeginTransaction.spacious : BeginTransaction :=
  { BeginTransaction.plain with
    location := { BeginTransaction.plain.location with display := ⟨['h', '/'], 70000⟩ } }

/-- After one finished transaction, a request with a very long URL is refused and takes the
finished one with it. -/
theorem not_costsNothing_spacious :
    ¬ CostsNothing .counting
      (smallMachine.run [.beginTransaction .plain [], .commit 2 ⟨206, 1, .empty⟩]) .spacious
      [] := by
  intro free
  have kept := (free.refused ⟨rfl, fun _ => rfl⟩ (by decide +kernel)).order
  revert kept
  decide +kernel

end SprakCapture.Capture
