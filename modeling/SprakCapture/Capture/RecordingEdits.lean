import SprakCapture.Capture.RecordingEffects

/-!
# Calls of the recording session as chains of edits

An edit is one change of the session that other calls could observe, whatever happens to
the call afterwards. The total of the metadata may change in every edit (`charge`); it
has an account of its own.
-/

namespace SprakCapture.Capture

open Data List

/-! ### Changes of one record -/

/-- The content of a summary without what the user maintains. -/
def TransactionSummary.protocolFields (summary : TransactionSummary) : TransactionSummary :=
  { summary.clone with
    notes := .empty
    tags := .empty
    appliedTools := .empty }

/-- What stays as it is once a transaction is finished. -/
structure Untouched (before after : TransactionRecord) : Prop where
  summary : after.summary.protocolFields = before.summary.protocolFields
  requestHeaders : after.requestHeaders = before.requestHeaders
  responseHeaders : after.responseHeaders = before.responseHeaders
  requestHeadersTruncated : after.requestHeadersTruncated = before.requestHeadersTruncated
  responseHeadersTruncated : after.responseHeadersTruncated = before.responseHeadersTruncated
  requestBody : after.requestBody = before.requestBody
  responseBody : after.responseBody = before.responseBody

theorem Untouched.refl (record : TransactionRecord) : Untouched record record :=
  ⟨rfl, rfl, rfl, rfl, rfl, rfl, rfl⟩

theorem Untouched.trans {first second third : TransactionRecord} (one : Untouched first second)
    (two : Untouched second third) : Untouched first third :=
  ⟨two.summary.trans one.summary, two.requestHeaders.trans one.requestHeaders,
    two.responseHeaders.trans one.responseHeaders,
    two.requestHeadersTruncated.trans one.requestHeadersTruncated,
    two.responseHeadersTruncated.trans one.responseHeadersTruncated,
    two.requestBody.trans one.requestBody, two.responseBody.trans one.responseBody⟩

variable {before after : TransactionRecord}

theorem Untouched.status (untouched : Untouched before after) :
    after.summary.status = before.summary.status := by
  have same := congrArg TransactionSummary.status untouched.summary
  exact same

/-- A change that concerns neither the place of a transaction nor its status nor its bodies. -/
structure Amends (before after : TransactionRecord) : Prop where
  transactionId : after.summary.transactionId = before.summary.transactionId
  sequence : after.summary.sequence = before.summary.sequence
  status : after.summary.status = before.summary.status
  requestBody : after.requestBody = before.requestBody
  responseBody : after.responseBody = before.responseBody
  untouched : before.summary.status ≠ .pending → Untouched before after

/-- A transaction ends. -/
structure Finishes (before after : TransactionRecord) : Prop where
  pending : before.summary.status = .pending
  finished : after.summary.status ≠ .pending
  transactionId : after.summary.transactionId = before.summary.transactionId
  sequence : after.summary.sequence = before.summary.sequence
  requestBody : after.requestBody = before.requestBody
  responseBody : after.responseBody = before.responseBody

theorem Amends.bodyReferences (amends : Amends before after) :
    after.bodyReferences = before.bodyReferences := by
  unfold TransactionRecord.bodyReferences
  rw [amends.requestBody, amends.responseBody]

theorem Finishes.bodyReferences (finishes : Finishes before after) :
    after.bodyReferences = before.bodyReferences := by
  unfold TransactionRecord.bodyReferences
  rw [finishes.requestBody, finishes.responseBody]

/-- The stored bytes of bodies. -/
def storedBytes (bodies : List BodyRef) : Nat := (bodies.map fun body => body.handle.storedBytes).sum

/-- A pending transaction exchanges the bodies `dropped` for `added`. -/
structure Registers (limits : RecordingLimits) (totalBodyBytes : Nat)
    (before after : TransactionRecord) (kept dropped added : List BodyRef) : Prop where
  pending : before.summary.status = .pending
  stillPending : after.summary.status = .pending
  transactionId : after.summary.transactionId = before.summary.transactionId
  sequence : after.summary.sequence = before.summary.sequence
  bodiesBefore : before.bodyReferences.Perm (kept ++ dropped)
  bodiesAfter : after.bodyReferences.Perm (kept ++ added)
  small : ∀ body ∈ added, body.handle.storedBytes ≤ limits.maxBodyBytes
  fits : storedBytes added ≤ limits.maxTotalBodyBytes - (totalBodyBytes - storedBytes dropped)

/-- Where new bodies come from: memory, a new file, or two spools. -/
inductive Placed (env : Environment) (store : BodyStore) (transactionId : Uuid) :
    List BodyRef → BodyStore → Prop where
  | memory (body : BodyRef) (file : body.file = none) : Placed env store transactionId [body] store
  | written (body : BodyRef) (name : SpillName) (file : body.file = some name)
      (fresh : name.suffix = env.newV4 store.known) :
      Placed env store transactionId [body]
        { store with
          known := env.newV4 store.known :: store.known
          files := name :: store.files }
  | spools (request response : BodyRef) (first second : Uuid) (firstSpool secondSpool : Spool)
      (different : first ≠ second)
      (firstFound : store.spools.get? first = some firstSpool)
      (secondFound : store.spools.get? second = some secondSpool)
      (firstStaged : firstSpool.stage = .staged transactionId)
      (secondStaged : secondSpool.stage = .staged transactionId)
      (requestFile : request.file = some (firstSpool.path first))
      (responseFile : response.file = some (secondSpool.path second)) :
      Placed env store transactionId [request, response]
        { store with spools := (store.spools.erase first).erase second }

/-! ### Edits -/

/-- The session with another record of a transaction. -/
def RecordingStateInner.withRecord (state : RecordingStateInner) (transactionId : Uuid)
    (record : TransactionRecord) : RecordingStateInner :=
  { state with transactions := state.transactions.insert transactionId record }

/-- One change of the session. -/
inductive SessionEdit (env : Environment) : RecordingSession → RecordingSession → Prop where
  | charge (session : RecordingSession) (total : Balance) :
      SessionEdit env session
        { session with state := { session.state with totalMetadataBytes := total } }
  | configure (session : RecordingSession) (recordingState : RecordingState)
      (ignoreLocations : List LocationPattern) (recordTunnelMetadata closed : Bool)
      (droppedCount : Nat) :
      SessionEdit env session
        { session with
          state :=
            { session.state with
              recordingState, ignoreLocations, recordTunnelMetadata, closed, droppedCount } }
  | evict (session : RecordingSession) (transactionIds : List Uuid)
      (evictable : session.state.Evictable transactionIds) :
      SessionEdit env session
        { session with state := session.state.evict env.layout transactionIds }
  | amend (session : RecordingSession) (transactionId : Uuid) (before after : TransactionRecord)
      (found : session.state.transactions.get? transactionId = some before)
      (amends : Amends before after) :
      SessionEdit env session
        { session with state := session.state.withRecord transactionId after }
  | finish (session : RecordingSession) (transactionId : Uuid) (before after : TransactionRecord)
      (limited : List Uuid)
      (found : session.state.transactions.get? transactionId = some before)
      (finishes : Finishes before after)
      (evictable : (session.state.withRecord transactionId after).Evictable limited) :
      SessionEdit env session
        { session with
          state := insertResponseEntityEntry
            ((session.state.withRecord transactionId after).evict env.layout limited)
            transactionId }
  | register (session : RecordingSession) (transactionId : Uuid)
      (before after : TransactionRecord) (kept dropped added : List BodyRef)
      (bodyStore : BodyStore)
      (found : session.state.transactions.get? transactionId = some before)
      (registers : Registers session.state.limits session.state.totalBodyBytes before after kept
        dropped added)
      (placed : Placed env session.bodyStore transactionId added bodyStore) :
      SessionEdit env session
        { bodyStore
          state := { session.state.withRecord transactionId after with
            totalBodyBytes := session.state.totalBodyBytes - storedBytes dropped +
              storedBytes added }.enqueueBodyReferences env.layout (dropped.map BodyRef.clone) }
  | enroll (session : RecordingSession) (input : BeginTransaction) (newTransactionBytes : Nat)
      (idle : session.state.directoryCleanupPending = false) :
      SessionEdit env session
        { state := session.state.enroll (env.newV4 session.bodyStore.known)
            (session.state.newRecord env.layout (env.newV4 session.bodyStore.known) input)
            newTransactionBytes
          bodyStore :=
            { session.bodyStore with
              known := env.newV4 session.bodyStore.known :: session.bodyStore.known } }
  | removeAll (session : RecordingSession) : SessionEdit env session (session.removeEverything env)
  | requestClear (session : RecordingSession) (empty : session.state.transactions = ∅) :
      SessionEdit env session
        { session with state := { session.state with directoryCleanupPending := true } }
  | dequeue (session : RecordingSession) (body : BodyRef) (rest : List BodyRef)
      (queue : session.state.cleanupQueue = body :: rest) :
      SessionEdit env session
        { session with state := { session.state with cleanupQueue := rest } }
  | deleteFile (session : RecordingSession) (name : SpillName)
      (unused : name ∈ session.bodyStore.orphanedSpills ∨
        ∃ body ∈ session.state.cleanupQueue, body.file = some name) :
      SessionEdit env session { session with bodyStore := session.bodyStore.removeFile name }
  | deleteFiles (session : RecordingSession) (deleted : List SpillName)
      (unused : session.state.directoryCleanupPending = true ∨ session.state.transactions = ∅) :
      SessionEdit env session { session with bodyStore := session.bodyStore.removeFiles deleted }
  | forgetOrphans (session : RecordingSession) (keep : SpillName → Bool) :
      SessionEdit env session
        { session with
          bodyStore :=
            { session.bodyStore with
              orphanedSpills := session.bodyStore.orphanedSpills.filter keep } }
  | cleared (session : RecordingSession) :
      SessionEdit env session
        { session with state := { session.state with directoryCleanupPending := false } }
  | event (session : RecordingSession) (event : StoreEvent) :
      SessionEdit env session { session with bodyStore := session.bodyStore.event env event }
  | abandon (session : RecordingSession) (name : SpillName) (leftover : Option Bool)
      (fresh : name.suffix = env.newV4 session.bodyStore.known) :
      SessionEdit env session
        { session with
          bodyStore := { session.bodyStore with
            known := env.newV4 session.bodyStore.known :: session.bodyStore.known }.abandon name
              leftover }

/-- Zero or more edits. -/
abbrev SessionEdits (env : Environment) := Relation.ReflTransGen (SessionEdit env)

namespace SessionEdits

variable {env : Environment}

/-- A fact preserved by every edit is preserved by a chain of edits. -/
theorem preserve {invariant : RecordingSession → Prop}
    (preserved : ∀ {before after}, SessionEdit env before after → invariant before →
      invariant after)
    {before after : RecordingSession} (edits : SessionEdits env before after)
    (holds : invariant before) : invariant after := by
  induction edits with
  | refl => exact holds
  | tail _ edit ih => exact preserved edit ih

theorem throughout {invariant fact : RecordingSession → Prop}
    (preserved : ∀ {before after}, SessionEdit env before after → invariant before →
      invariant after)
    (consequence : ∀ {session}, invariant session → fact session)
    {before after : RecordingSession} (edits : SessionEdits env before after)
    (holds : invariant before) :
    Relation.ReflTransGen (fun before after => SessionEdit env before after ∧ fact after)
      before after := by
  induction edits with
  | refl => exact .refl
  | tail initial =>
    have middle := preserve preserved initial holds
    grind

/-- A chain that ends in a session up to the total of the metadata. -/
theorem charged {before after : RecordingSession} (edits : SessionEdits env before after)
    {result : RecordingSession}
    (state : result.state =
      after.state.recharge after.state.cleanupQueue result.state.totalMetadataBytes)
    (bodyStore : result.bodyStore = after.bodyStore) : SessionEdits env before result := by
  have charging : result = { after with
      state := { after.state with totalMetadataBytes := result.state.totalMetadataBytes } } := by
    cases result
    cases bodyStore
    dsimp only at state ⊢
    rw [state]
    rfl
  rw [charging]
  exact edits.tail (.charge after _)

end SessionEdits

/-! ### The shape of the session -/

variable {record : TransactionRecord} {transactionId : Uuid}

namespace RecordingStateInner

variable {state : RecordingStateInner}

section

variable (shaped : Shaped state)
include shaped

theorem Shaped.withRecord {transactionId : Uuid} {before after : TransactionRecord}
    (found : state.transactions.get? transactionId = some before)
    (same : after.summary.transactionId = before.summary.transactionId) :
    Shaped (state.withRecord transactionId after) where
  distinct := shaped.distinct
  listed := by
    intro identifier
    refine (shaped.listed identifier).trans ?_
    unfold RecordingStateInner.withRecord
    dsimp only
    rw [Table.get?_insert]
    split
    · rename_i equal
      subst equal
      exact ⟨fun _ => ⟨_, rfl⟩, fun _ => ⟨_, found⟩⟩
    · rfl
  named := by
    intro identifier _ stored
    unfold RecordingStateInner.withRecord at stored
    dsimp only at stored
    rw [Table.get?_insert] at stored
    split at stored
    · rename_i equal
      cases stored
      rw [same, shaped.named found, equal]
    · exact shaped.named stored

theorem Shaped.congr {after : RecordingStateInner} (order : after.order = state.order)
    (transactions : after.transactions = state.transactions) :
    Shaped after where
  distinct := order ▸ shaped.distinct
  listed := by
    rw [order, transactions]
    exact shaped.listed
  named := by
    rw [transactions]
    exact shaped.named

theorem Shaped.insertResponseEntityEntry (transactionId : Uuid) :
    Shaped (insertResponseEntityEntry state transactionId) := by
  rw [insertResponseEntityEntry_eq]
  exact shaped.congr rfl rfl

theorem Shaped.enroll (fresh : state.transactions.get? transactionId = none)
    (named : record.summary.transactionId = transactionId) (bytes : Nat) :
    Shaped (state.enroll transactionId record bytes) where
  distinct := by
    unfold RecordingStateInner.enroll
    rw [nodup_append]
    refine ⟨shaped.distinct, nodup_singleton _, ?_⟩
    intro first member _ last same
    rw [mem_singleton.mp last] at same
    obtain ⟨other, stored⟩ := (shaped.listed first).mp member
    rw [same, fresh] at stored
    cases stored
  listed := by
    intro identifier
    unfold RecordingStateInner.enroll
    rw [mem_append, mem_singleton, Table.get?_insert, shaped.listed]
    split
    · rename_i equal
      exact ⟨fun _ => ⟨_, rfl⟩, fun _ => .inr equal⟩
    · rename_i different
      exact ⟨fun member => member.resolve_right different, .inl⟩
  named := by
    intro identifier other stored
    unfold RecordingStateInner.enroll at stored
    rw [Table.get?_insert] at stored
    split at stored
    · rename_i equal
      cases stored
      rw [named, equal]
    · exact shaped.named stored

end

theorem shaped_removeAll (session : RecordingSession) (env : Environment) :
    Shaped (session.removeEverything env).state where
  distinct := nodup_nil
  listed := by
    intro _
    constructor
    · nofun
    · rintro ⟨_, found⟩
      cases found
  named := nofun

end RecordingStateInner

/-- The shape of the session, with identifiers that were drawn before. -/
structure RecordingSession.Shaped (session : RecordingSession) : Prop where
  state : session.state.Shaped
  known : ∀ {transactionId record}, session.state.transactions.get? transactionId = some record →
    transactionId ∈ session.bodyStore.known

variable (store : BodyStore)

namespace BodyStore

/-- What a task does to the body store loses no orphan and forgets no UUID. -/
structure Grows (before after : BodyStore) : Prop where
  known : ∀ {uuid}, uuid ∈ before.known → uuid ∈ after.known
  orphans : ∀ {name}, name ∈ before.orphanedSpills → name ∈ after.orphanedSpills

theorem Grows.refl : Grows store store := ⟨id, id⟩

theorem Grows.trans {before middle after : BodyStore} (first : Grows before middle)
    (second : Grows middle after) : Grows before after :=
  ⟨fun known => second.known (first.known known),
    fun orphan => second.orphans (first.orphans orphan)⟩

theorem grows_dropSpool (suffix : Uuid) (removed : Bool) :
    Grows store (store.dropSpool suffix removed) := by
  unfold dropSpool
  split
  · exact .refl store
  · unfold dropGuard
    split
    · exact ⟨id, id⟩
    · exact ⟨id, mem_insert_of_mem⟩

theorem grows_event (env : Environment) (store : BodyStore) (event : StoreEvent) :
    Grows store (store.event env event) := by
  cases event with
  | createSpool =>
    unfold BodyStore.event createSpool
    dsimp only
    split <;> exact ⟨mem_cons_of_mem _, id⟩
  | appendSpool suffix => exact ⟨id, id⟩
  | stageSpool suffix target _ removed =>
    have named : Grows store { store with known := target :: store.known } :=
      ⟨mem_cons_of_mem _, id⟩
    unfold BodyStore.event stageSpool
    dsimp only
    split
    · exact named
    split
    · split
      · exact ⟨mem_cons_of_mem _, id⟩
      · exact named.trans (grows_dropSpool ..)
    · exact named
  | dropSpool suffix removed => exact grows_dropSpool ..

theorem grows_background (env : Environment) (store : BodyStore) (await : Await) :
    Grows store (store.background env await) := by
  have folded : ∀ (events : List StoreEvent) (store : BodyStore),
      Grows store (events.foldl (event env) store) := by
    intro events
    induction events with
    | nil => exact .refl
    | cons first _ ih =>
      intro store
      exact (grows_event env store first).trans (ih _)
  exact folded await.background store

theorem known_abandon (name : SpillName) (leftover : Option Bool) :
    (store.abandon name leftover).known = store.known := by
  unfold abandon
  split <;> rfl

end BodyStore

variable {env : Environment}

theorem Placed.known {store after : BodyStore} {added : List BodyRef}
    (placed : Placed env store transactionId added after) {uuid : Uuid}
    (member : uuid ∈ store.known) : uuid ∈ after.known := by
  cases placed with
  | memory | spools => exact member
  | written => exact mem_cons_of_mem _ member

theorem SessionEdit.known {before after : RecordingSession} (edit : SessionEdit env before after)
    {uuid : Uuid} (member : uuid ∈ before.bodyStore.known) : uuid ∈ after.bodyStore.known := by
  cases edit with
  | register _ _ _ _ _ _ bodyStore _ _ placed => exact placed.known member
  | enroll => exact mem_cons_of_mem _ member
  | event event => exact (BodyStore.grows_event env _ event).known member
  | abandon =>
    rw [BodyStore.known_abandon]
    exact mem_cons_of_mem _ member
  | _ => exact member

variable {state : RecordingStateInner}

namespace RecordingSession

open RecordingStateInner

theorem Shaped.fresh {session : RecordingSession} (shaped : session.Shaped) (env : Environment) :
    session.state.transactions.get? (env.newV4 session.bodyStore.known) = none := by
  by_contra present
  obtain ⟨_, found⟩ := Option.ne_none_iff_exists'.mp present
  exact env.fresh _ (shaped.known found)

theorem Shaped.shrink {before after : RecordingSession} (shaped : before.Shaped)
    (state : after.state.Shaped)
    (records : ∀ {transactionId record}, after.state.transactions.get? transactionId = some record →
      ∃ other, before.state.transactions.get? transactionId = some other)
    (known : ∀ {uuid}, uuid ∈ before.bodyStore.known → uuid ∈ after.bodyStore.known) :
    after.Shaped where
  state := state
  known := by
    intro transactionId record found
    obtain ⟨other, stored⟩ := records found
    exact known (shaped.known stored)

theorem get?_withRecord {transactionId identifier : Uuid} {before after record : TransactionRecord}
    (found : state.transactions.get? transactionId = some before)
    (stored : (state.withRecord transactionId after).transactions.get? identifier = some record) :
    ∃ other, state.transactions.get? identifier = some other := by
  grind [RecordingStateInner.withRecord]

theorem get?_of_evict {layout : Layout} {transactionIds : List Uuid} {identifier : Uuid}
    (stored : (state.evict layout transactionIds).transactions.get? identifier = some record) :
    state.transactions.get? identifier = some record := by
  rw [get?_evict] at stored
  split at stored
  · cases stored
  · exact stored

theorem Shaped.edit {before after : RecordingSession} (edit : SessionEdit env before after)
    (shaped : before.Shaped) : after.Shaped := by
  have same : ∀ {transactionId : Uuid} {record : TransactionRecord},
      before.state.transactions.get? transactionId = some record →
      ∃ other, before.state.transactions.get? transactionId = some other :=
    fun found => ⟨_, found⟩
  have known : ∀ {uuid}, uuid ∈ before.bodyStore.known → uuid ∈ after.bodyStore.known := edit.known
  cases edit with
  | evict =>
    exact shaped.shrink (shaped.state.evict ..) (fun found => ⟨_, get?_of_evict found⟩) known
  | amend transactionId _ _ found amends =>
    exact shaped.shrink (shaped.state.withRecord found amends.transactionId)
      (get?_withRecord found) known
  | finish transactionId _ _ _ found finishes =>
    refine shaped.shrink (((shaped.state.withRecord found finishes.transactionId).evict
      ..).insertResponseEntityEntry _) ?_ known
    intro identifier record stored
    rw [insertResponseEntityEntry_eq] at stored
    exact get?_withRecord found (get?_of_evict stored)
  | register transactionId _ _ _ _ _ bodyStore found registers =>
    exact shaped.shrink
      ((shaped.state.withRecord found registers.transactionId).congr rfl rfl)
      (get?_withRecord found) known
  | enroll _ bytes =>
    refine ⟨shaped.state.enroll (shaped.fresh env) rfl bytes, ?_⟩
    intro identifier record stored
    unfold RecordingStateInner.enroll at stored
    rw [Table.get?_insert] at stored
    split at stored
    · simp_all
    · exact mem_cons_of_mem _ (shaped.known stored)
  | removeAll =>
    exact shaped.shrink (shaped_removeAll before env) nofun known
  | deleteFile | deleteFiles | forgetOrphans | event | abandon =>
    exact shaped.shrink shaped.state same known
  | _ => exact shaped.shrink (shaped.state.congr rfl rfl) same known

end RecordingSession

end SprakCapture.Capture
