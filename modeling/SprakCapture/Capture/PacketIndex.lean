import SprakCapture.Capture.RecordingChains

/-!
# The packet index of a body

A packet list refers to ranges of a body that was stored before it. `storeBody` may cut a
body to the limits of the session; `storeStreamPackets` accepts a packet list only if every
packet lies within what is stored. `storeStreamPackets_rejects_iff` says when it does not.
-/

namespace SprakCapture.Capture

open Data RecordingSession RecordingStateInner BodyStore

/-- A call was dropped, or a file operation failed. -/
def Stop.OfFiles : Stop → Prop
  | .dropped => True
  | .error cause => cause = .io

/-! ### How cleanups end -/

variable {script : List Await} {session : RecordingSession} {transactionId : Uuid}
  {side : MessageSide} {store : BodyStore} {stop : Stop} {handle : BodyHandleMeta} {Result : Type}
  {bytes : List UInt8} (result : Result)

section Cleanups

variable {env : Environment}

theorem remove_ofFiles {body : BodyRef} (failed : (store.remove env body script).1 = .error stop) :
    stop.OfFiles := by
  unfold remove at failed
  split at failed
  · cases failed
  · split at failed
    · cases failed
      trivial
    · split at failed <;> cases failed <;> trivial

theorem drainQueue_ofFiles {queue : List BodyRef}
    (failed : (drainQueue env queue session script).1 = .error stop) :
    stop.OfFiles := by
  induction queue generalizing session script with
  | nil => cases failed
  | cons =>
    grind [drainQueue, remove_ofFiles]

theorem cleanupOrphanedSpills_ofFiles
    (failed : (store.cleanupOrphanedSpills env script).1 = .error stop) : stop.OfFiles := by
  induction script generalizing store with
  | nil =>
    unfold cleanupOrphanedSpills at failed
    split at failed <;> cases failed
    trivial
  | cons _ _ ih =>
    unfold cleanupOrphanedSpills at failed
    split at failed
    · cases failed
    split at failed
    · exact ih failed
    · cases failed
      rfl
    · cases failed
      trivial

theorem removeDirectory_ofFiles (failed : (store.removeDirectory env script).1 = .error stop) :
    stop.OfFiles := by
  unfold removeDirectory at failed
  split at failed
  · cases failed
    trivial
  · split at failed <;> cases failed <;> trivial

theorem clear_ofFiles (failed : (store.clear env script).1 = .error stop) : stop.OfFiles := by
  unfold clear at failed
  cases removed : store.removeDirectory env script with
  | mk result after =>
    obtain ⟨_, remaining⟩ := after
    rw [removed] at failed
    cases result with
    | error =>
      cases failed
      exact removeDirectory_ofFiles (by rw [removed])
    | ok =>
      cases remaining with
      | nil =>
        cases failed
        trivial
      | cons =>
        dsimp only at failed
        split at failed <;> cases failed <;> trivial

theorem drainCleanupQueueLocked_ofFiles
    (failed : (RecordingSession.drainCleanupQueueLocked env session script).1 = .error stop) :
    stop.OfFiles := by
  unfold RecordingSession.drainCleanupQueueLocked at failed
  cases drained : drainQueue env session.state.cleanupQueue session script with
  | mk result after =>
    obtain ⟨middle, remaining⟩ := after
    rw [drained] at failed
    cases result with
    | error other =>
      cases failed
      exact drainQueue_ofFiles (by rw [drained])
    | ok value =>
      dsimp only at failed
      cases cleaned : middle.bodyStore.cleanupOrphanedSpills env remaining with
      | mk result after =>
        obtain ⟨bodyStore, remaining⟩ := after
        rw [cleaned] at failed
        cases result with
        | error other =>
          cases failed
          exact cleanupOrphanedSpills_ofFiles (by rw [cleaned])
        | ok value =>
          dsimp only at failed
          unfold clearDirectory at failed
          split at failed
          · cases cleared : ({ middle with bodyStore } : RecordingSession).bodyStore.clear
                env remaining with
            | mk result after =>
              rw [cleared] at failed
              cases result with
              | error other =>
                cases failed
                exact clear_ofFiles (by rw [cleared])
              | ok value => cases failed
          · cases failed

theorem finishWith_ofFiles {result : Result}
    (failed : (finishWith env result session script).1 = .error stop) :
    stop.OfFiles := by
  unfold finishWith at failed
  cases drained : RecordingSession.drainCleanupQueueLocked env session script with
  | mk outcome =>
    rw [drained] at failed
    cases outcome with
    | error =>
      cases failed
      exact drainCleanupQueueLocked_ofFiles (by rw [drained])
    | ok => cases failed

/-- The last cleanup of a call leaves the transactions as they are. -/
theorem transactions_finishWith (session : RecordingSession) (script : List Await) :
    (finishWith env result session script).2.state.transactions = session.state.transactions := by
  have cleaned := (@drainCleanupQueueLocked_cleans env session script).1
  unfold finishWith
  cases drained : RecordingSession.drainCleanupQueueLocked env session script with
  | mk outcome =>
    rw [drained] at cleaned
    cases outcome with
    | error | ok => exact cleaned.transactions

theorem closed_finishWith (session : RecordingSession) (script : List Await) :
    (finishWith env result session script).2.state.closed = session.state.closed := by
  have cleaned := (@drainCleanupQueueLocked_cleans env session script).1
  unfold finishWith
  cases drained : RecordingSession.drainCleanupQueueLocked env session script with
  | mk outcome =>
    rw [drained] at cleaned
    cases outcome with
    | error | ok => exact cleaned.closed

theorem store_ofFiles
    (failed : (store.store env transactionId side bytes handle script).1 = .error stop) :
    stop.OfFiles := by
  unfold BodyStore.store at failed
  split at failed
  · cases failed
  · split at failed
    · cases failed
      trivial
    · split at failed <;> cases failed <;> trivial

end Cleanups

/-! ### What is stored of a body -/

namespace RecordingStateInner

theorem closed_dropRecords (layout : Layout) (transactionIds : List Uuid)
    (state : RecordingStateInner) :
    (dropRecords layout transactionIds state).2.2.closed = state.closed := by
  induction transactionIds generalizing state with
  | nil => rfl
  | cons =>
    unfold dropRecords
    grind [dropRecord, removeResponseEntityEntry]

theorem closed_removeTransactions (layout : Layout) (state : RecordingStateInner)
    (transactionIds : List Uuid) :
    (state.removeTransactions layout transactionIds).2.closed = state.closed := by
  obtain ⟨_, removed⟩ := removeTransactions_eq layout state transactionIds
  rw [removed]
  exact closed_dropRecords layout transactionIds (state.unlist transactionIds)

/-- The part of a body that the limits of the session let in. -/
def bodyRoom (state : RecordingStateInner) (transactionId : Uuid) (side : MessageSide)
    (length : Nat) : Nat :=
  let oldBodyBytes := ((state.transactions.get? transactionId).bind fun record =>
    record.body side).elim 0 fun body => body.handle.storedBytes
  let desiredBytes := min length state.limits.maxBodyBytes
  let baseTotalBytes := state.totalBodyBytes - oldBodyBytes
  let evictionIds := state.planBodyBudgetEvictions transactionId baseTotalBytes desiredBytes
  min desiredBytes (state.limits.maxTotalBodyBytes -
    (baseTotalBytes - state.plannedBytes transactionBodyBytes evictionIds))

/-- The stored length of the body of one side, for a transaction that exists. -/
def storedBodyBytes (state : RecordingStateInner) (transactionId : Uuid) (side : MessageSide) :
    Option Nat :=
  (state.transactions.get? transactionId).map fun record =>
    (record.body side).elim 0 fun body => body.handle.storedBytes

theorem planBodies_congr {state other : RecordingStateInner} (transactionId : Uuid)
    (transactions : other.transactions = state.transactions) (order : List Uuid)
    (requiredBytes : Nat) :
    planBodies other transactionId order requiredBytes =
      planBodies state transactionId order requiredBytes := by
  induction order generalizing requiredBytes with
  | nil => rfl
  | cons _ _ ih =>
    unfold planBodies finished?
    rw [transactions]
    simp [ih]

/-- A cleanup makes no room for bodies and takes none. -/
theorem bodyRoom_cleans {before after : RecordingStateInner}
    (cleans : Cleans before after) (transactionId : Uuid) (side : MessageSide)
    (length : Nat) :
    after.bodyRoom transactionId side length = before.bodyRoom transactionId side length := by
  unfold bodyRoom planBodyBudgetEvictions plannedBytes
  rw [cleans.transactions, cleans.limits, cleans.totalBodyBytes, cleans.order]
  simp only [planBodies_congr transactionId cleans.transactions]

end RecordingStateInner

variable {packets : Buffer StreamPacket} {state : RecordingStateInner} {contentType encoding : Text}
  {oldBody : Option BodyRef} {evictionIds : List Uuid} {removed : Bool × Bool}
  {stagedBody : BodyRef}

namespace RecordingSession

variable {env : Environment} (record : TransactionRecord)

@[simp] theorem body_refreshTruncatedFlag (side : MessageSide) :
    record.refreshTruncatedFlag.body side = record.body side := by
  cases side <;> rfl

@[simp] theorem body_withBodySize (side other : MessageSide) (originalBytes : Nat) :
    (withBodySize record side originalBytes).body other = record.body other := by
  cases other <;> rfl

@[simp] theorem body_replaceBody (side : MessageSide) (body : BodyRef) :
    (record.replaceBody side body).body side = some body := by
  cases side <;> rfl

theorem handle_store {body : BodyRef}
    (stored : (store.store env transactionId side bytes handle script).1 = .ok body) :
    body.handle = handle := by
  unfold BodyStore.store at stored
  grind

theorem registerBody_stored {handle answer : BodyHandleMeta}
    (answered : (registerBody env session transactionId side oldBody evictionIds handle stagedBody
      script).1 = .ok answer) :
    (registerBody env session transactionId side oldBody evictionIds handle stagedBody
        script).2.state.storedBodyBytes transactionId side = some stagedBody.handle.storedBytes ∧
      (registerBody env session transactionId side oldBody evictionIds handle stagedBody
        script).2.state.closed = session.state.closed := by
  have kept := closed_removeTransactions env.layout session.state evictionIds
  unfold registerBody at answered ⊢
  dsimp only at answered ⊢
  split at answered
  · cases answered
  constructor
  · unfold storedBodyBytes
    rw [transactions_finishWith]
    simp [enqueueBodyReferences]
  · rw [closed_finishWith]
    exact kept

theorem registerBody_invalid (script : List Await) :
    (registerBody env session transactionId side oldBody evictionIds handle stagedBody
      script).1 ≠ .error (.error .invalidBodyLength) := by
  unfold registerBody
  dsimp only
  split
  · nofun
  · intro failed
    cases finishWith_ofFiles failed

/-- A body of which the caller says the true length fails for no other reason than the state of
the session and its files, and the part of it that there is room for becomes the body of its
side. -/
theorem storeBody_spec {session : RecordingSession} {transactionId : Uuid} {side : MessageSide}
    {body : BodyWrite} {script : List Await} (truthful : body.bytes.length ≤ body.originalBytes) :
    (session.storeBody env transactionId side body script).1 ≠
        .error (.error .invalidBodyLength) ∧
      ∀ handle, (session.storeBody env transactionId side body script).1 = .ok handle →
        (session.storeBody env transactionId side body script).2.state.closed = false ∧
          (session.storeBody env transactionId side body script).2.state.storedBodyBytes
              transactionId side =
            some (session.state.bodyRoom transactionId side body.bytes.length) := by
  have cleaned := (@drainCleanupQueueLocked_cleans env session script).1
  unfold storeBody startWith
  rw [if_neg (by omega)]
  split
  · grind [ensureOpen]
  cases drained : drainCleanupQueueLocked env session script with
  | mk outcome after =>
    obtain ⟨middle, remaining⟩ := after
    rw [drained] at cleaned
    cases outcome with
    | error stop =>
      have files : stop.OfFiles := drainCleanupQueueLocked_ofFiles (by rw [drained])
      refine ⟨?_, by rintro _ ⟨⟩⟩
      rintro ⟨⟩
      cases files
    | ok =>
      dsimp only at cleaned ⊢
      cases pending : middle.state.pendingRecord transactionId with
      | error =>
        grind [pendingRecord]
      | ok record =>
        have found := (pendingRecord_eq_ok pending).1
        have room := bodyRoom_cleans cleaned transactionId side body.bytes.length
        dsimp only
        split
        · rename_i stop bodyStore remaining stored
          have files : stop.OfFiles := store_ofFiles (by rw [stored])
          refine ⟨?_, by rintro _ ⟨⟩⟩
          rintro ⟨⟩
          cases files
        · rename_i stagedBody bodyStore remaining stored
          have written := handle_store (by rw [stored])
          constructor
          · exact registerBody_invalid _
          · intro handle answered
            obtain ⟨registered, stays⟩ := registerBody_stored answered
            constructor
            · rw [stays, cleaned.closed]
              grind [ensureOpen]
            · rw [registered, written, ← room]
              simp only [bodyRoom, found, Option.bind_some]
              cases record.body side <;> rfl

/-! ### Packets and bodies -/

theorem validPacket_iff {bodyLength : Nat} {packet : StreamPacket} :
    validPacket bodyLength packet = true ↔
      0 < packet.storedBytes ∧ packet.storedBytes ≤ packet.originalBytes ∧
        packet.truncated = decide (packet.storedBytes < packet.originalBytes) ∧
        packet.storedOffsetBytes + packet.storedBytes ≤ bodyLength := by
  unfold validPacket
  simp [and_assoc]

theorem replacePackets_invalid {layout : Layout} :
    (state.replaceStreamPacketsWithinMetadataBudget layout transactionId side packets).1 ≠
      .error .invalidBodyLength := by
  grind [replaceStreamPacketsWithinMetadataBudget, replaceWithinMetadataBudget]

/-- Packets are rejected for their ranges exactly if one of them is not valid for the stored
body of a transaction that is there. -/
theorem storeStreamPackets_rejects_iff :
    (session.storeStreamPackets env transactionId side packets script).1 =
        .error (.error .invalidBodyLength) ↔
      session.state.closed = false ∧ ∃ bodyLength,
        session.state.storedBodyBytes transactionId side = some bodyLength ∧
        ∃ packet ∈ packets.items, validPacket bodyLength packet = false := by
  unfold storeStreamPackets ensureOpen storedBodyBytes
  cases closed : session.state.closed with
  | true => simp
  | false =>
    cases found : session.state.transactions.get? transactionId with
    | none => simp
    | some =>
      simp only [Bool.false_eq_true, if_false, Option.map_some, Option.some.injEq]
      split
      · constructor
        · intro rejected
          split at rejected
          · grind [replacePackets_invalid]
          · cases finishWith_ofFiles rejected
        simp_all
      · rename_i invalid
        simpa using invalid

theorem storedBodyBytes_storeStreamPackets
    (stored : (session.storeStreamPackets env transactionId side packets script).1 = .ok ())
    (other : MessageSide) :
    (session.storeStreamPackets env transactionId side packets script).2.state.storedBodyBytes
        transactionId other = session.state.storedBodyBytes transactionId other := by
  unfold storeStreamPackets at stored ⊢
  split at stored
  · cases stored
  split at stored
  · cases stored
  rename_i record found
  dsimp only at stored ⊢
  split at stored
  · rename_i valid
    rw [if_pos valid]
    split at stored
    · cases stored
    rename_i removedBodies state replaced
    unfold storedBodyBytes
    rw [transactions_finishWith, found]
    unfold replaceStreamPacketsWithinMetadataBudget at replaced
    rw [found] at replaced
    unfold replaceWithinMetadataBudget at replaced
    dsimp only at replaced
    split at replaced
    · cases replaced
    split at replaced
    · cases replaced
    rename_i kept remains
    cases replaced
    rw [get?_removeTransactions] at remains
    split at remains
    · cases remains
    rw [found] at remains
    cases remains
    dsimp only [enqueueBodyReferences]
    rw [Table.get?_insert_self]
    cases side <;> cases other <;> rfl
  · cases stored

theorem openPendingRecord_invalid :
    state.openPendingRecord transactionId ≠ .error .invalidBodyLength := by
  unfold openPendingRecord ensureOpen pendingRecord
  grind

/-- Spools are not rejected for their length. -/
theorem storeBodySpools_invalid {transactionId requestSpool responseSpool : Uuid} :
    (session.storeBodySpools env transactionId requestSpool responseSpool contentType encoding
      removed script).1 ≠ .error (.error .invalidBodyLength) := by
  unfold storeBodySpools
  split
  · split
    · nofun
    split
    · grind [openPendingRecord_invalid]
    dsimp only
    split
    · nofun
    · intro failed
      cases finishWith_ofFiles failed
  · nofun

theorem storeBodySpools_stored {transactionId requestSpool responseSpool : Uuid}
    {handles : BodyHandleMeta × BodyHandleMeta}
    (stored : (session.storeBodySpools env transactionId requestSpool responseSpool contentType
      encoding removed script).1 = .ok handles) :
    ∃ request response, session.stagedSpool transactionId requestSpool = some request ∧
      session.stagedSpool transactionId responseSpool = some response ∧
      (session.storeBodySpools env transactionId requestSpool responseSpool contentType encoding
        removed script).2.state.storedBodyBytes transactionId .request = some request.writtenBytes ∧
      (session.storeBodySpools env transactionId requestSpool responseSpool contentType encoding
        removed script).2.state.storedBodyBytes transactionId .response =
          some response.writtenBytes := by
  unfold storeBodySpools at stored ⊢
  split at stored
  · rename_i request response isRequest isResponse
    refine ⟨request, response, isRequest, isResponse, ?_⟩
    split at stored
    · cases stored
    rename_i different
    rw [if_neg different]
    split at stored
    · cases stored
    dsimp only at stored ⊢
    split at stored
    · cases stored
    rename_i record found within
    rw [if_neg within]
    unfold storedBodyBytes
    rw [transactions_finishWith]
    dsimp only [enqueueBodyReferences]
    rw [Table.get?_insert_self]
    exact ⟨rfl, rfl⟩
  · cases stored

end RecordingSession

end SprakCapture.Capture
