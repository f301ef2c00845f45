import SprakCapture.Capture.RecordingSession

/-!
# The calls of the recording session

Each call is a function on the session that also gives its result. A call that fails
may have changed the session before, so the session is returned in every case.
-/

namespace SprakCapture.Capture

open Data

/-! ### Changes of summaries -/

def applyTransactionUpdate (summary : TransactionSummary) (update : TransactionUpdate) :
    TransactionSummary :=
  let summary :=
    match update.method with
    | some method => { summary with method }
    | none => summary
  let summary :=
    match update.location with
    | some location =>
      { summary with
        host := location.host
        port := location.port
        path := location.path
        query := location.query
        urlDisplay := location.display }
    | none => summary
  let summary :=
    match update.statusCode with
    | some statusCode => { summary with statusCode := some statusCode }
    | none => summary
  let summary :=
    match update.contentType with
    | some contentType => { summary with contentType }
    | none => summary
  match update.flags with
  | some flags =>
    { summary with
      flags :=
        { flags with
          bodyTruncated := summary.flags.bodyTruncated
          headersTruncated := summary.flags.headersTruncated } }
  | none => summary

def applyUserUpdate (summary : TransactionSummary) (update : TransactionUserUpdate) :
    TransactionSummary :=
  { summary with
    notes := update.notes.getD summary.notes
    tags := update.tags.getD summary.tags
    appliedTools := update.appliedTools.getD summary.appliedTools }

/-- A field that is not given stays as it is. -/
def applyProgressUpdate (summary : TransactionSummary) (update : TransactionProgressUpdate) :
    TransactionSummary :=
  { summary with
    sizes :=
      { requestHeaderBytes :=
          update.requestHeaderBytes.getD summary.sizes.requestHeaderBytes
        requestBodyBytes := update.requestBodyBytes.getD summary.sizes.requestBodyBytes
        responseHeaderBytes :=
          update.responseHeaderBytes.getD summary.sizes.responseHeaderBytes
        responseBodyBytes := update.responseBodyBytes.getD summary.sizes.responseBodyBytes }
    timings :=
      { summary.timings with
        dnsEndAtMilliseconds :=
          update.dnsEndAtMilliseconds.or summary.timings.dnsEndAtMilliseconds
        connectEndAtMilliseconds :=
          update.connectEndAtMilliseconds.or summary.timings.connectEndAtMilliseconds
        tlsEndAtMilliseconds :=
          update.tlsEndAtMilliseconds.or summary.timings.tlsEndAtMilliseconds
        requestSentAtMilliseconds :=
          update.requestSentAtMilliseconds.or summary.timings.requestSentAtMilliseconds
        responseStartAtMilliseconds :=
          update.responseStartAtMilliseconds.or summary.timings.responseStartAtMilliseconds } }

namespace RecordingStateInner

/-- The common part of the replacements: other finished transactions give way, and the record is
changed if the new total fits the budget. -/
def replaceWithinMetadataBudget (layout : Layout) (state : RecordingStateInner)
    (transactionId : Uuid) (oldTransactionBytes newTransactionBytes : Nat)
    (change : TransactionRecord → TransactionRecord) :
    Except CaptureError (List BodyRef) × RecordingStateInner :=
  let requiredIncrease := newTransactionBytes - oldTransactionBytes
  let evictionIds := state.planMetadataBudgetEvictions layout transactionId requiredIncrease
  let freedBytes := state.plannedBytes (transactionMetadataBytes layout) evictionIds
  let deferredCleanupBytes :=
    state.plannedBytes (cleanupBodyReferencesMetadataBytes layout) evictionIds
  let projectedVisibleBytes :=
    ((state.totalMetadataBytes.saturatingSub oldTransactionBytes).saturatingSub
      freedBytes).saturatingAdd newTransactionBytes
  if projectedVisibleBytes.bytes + deferredCleanupBytes > state.metadataMemoryBudgetBytes then
    (.error .metadataMemoryBudgetExceeded, state)
  else
    let (removedBodies, state) := state.removeTransactions layout evictionIds
    match state.transactions.get? transactionId with
    | none => (.error .transactionNotFound, state)
    | some record =>
      (.ok removedBodies,
        { state with
          transactions := state.transactions.insert transactionId (change record)
          totalMetadataBytes := projectedVisibleBytes })

def replaceStreamPacketsWithinMetadataBudget (layout : Layout) (state : RecordingStateInner)
    (transactionId : Uuid) (side : MessageSide) (packets : Buffer StreamPacket) :
    Except CaptureError (List BodyRef) × RecordingStateInner :=
  match state.transactions.get? transactionId with
  | none => (.error .transactionNotFound, state)
  | some currentRecord =>
    let oldTransactionBytes := transactionMetadataBytes layout currentRecord
    let candidateRecord := currentRecord.clone.withPackets side packets
    let newTransactionBytes := transactionMetadataBytes layout candidateRecord
    state.replaceWithinMetadataBudget layout transactionId oldTransactionBytes
      newTransactionBytes fun record => record.withPackets side packets

def replaceSummaryWithinMetadataBudget (layout : Layout) (state : RecordingStateInner)
    (transactionId : Uuid) (summary : TransactionSummary) (summaryBytes : Nat) :
    Except CaptureError (List BodyRef) × RecordingStateInner :=
  if summaryBytes > maximumTransactionSummaryBytes then
    (.error .metadataMemoryBudgetExceeded, state)
  else
    match state.transactions.get? transactionId with
    | none => (.error .transactionNotFound, state)
    | some currentRecord =>
      let oldTransactionBytes := transactionMetadataBytes layout currentRecord
      let oldIndexBytes := responseEntityIndexMetadataBytes layout currentRecord.summary
        currentRecord.responseHeaders.items currentRecord.responseBody
      let newIndexBytes := responseEntityIndexMetadataBytes layout summary
        currentRecord.responseHeaders.items currentRecord.responseBody
      let oldBodyReferenceBytes :=
        if currentRecord.summary.status = .pending then 0
        else bodyReferenceMetadataBytes currentRecord
      let newBodyReferenceBytes :=
        if summary.status = .pending then 0 else bodyReferenceMetadataBytes currentRecord
      let newTransactionBytes := oldTransactionBytes - currentRecord.summaryStorageBytes -
        oldBodyReferenceBytes - oldIndexBytes + summaryBytes + newBodyReferenceBytes +
        newIndexBytes
      state.replaceWithinMetadataBudget layout transactionId oldTransactionBytes
        newTransactionBytes fun record =>
          { record with
            summary
            summaryStorageBytes := summaryBytes }

/-- A finished transaction enters the index unless the limits removed it. -/
def finalizeSummaryWithinLimits (layout : Layout) (state : RecordingStateInner)
    (transactionId : Uuid) (summary : TransactionSummary) (summaryBytes : Nat) :
    Except CaptureError (List BodyRef) × RecordingStateInner :=
  match state.replaceSummaryWithinMetadataBudget layout transactionId summary summaryBytes with
  | (.error error, state) => (.error error, state)
  | (.ok removedBodies, state) =>
    let (limitedBodies, state) := state.enforceAllLimits layout
    (.ok (removedBodies ++ limitedBodies), insertResponseEntityEntry state transactionId)

def pendingRecord (state : RecordingStateInner) (transactionId : Uuid) :
    Except CaptureError TransactionRecord :=
  match state.transactions.get? transactionId with
  | none => .error .transactionNotFound
  | some record =>
    if record.summary.status = .pending then .ok record else .error .transactionFinished

/-- The record a call of the data plane is about. -/
def openPendingRecord (state : RecordingStateInner) (transactionId : Uuid) :
    Except CaptureError TransactionRecord :=
  match state.ensureOpen with
  | .error error => .error error
  | .ok () => state.pendingRecord transactionId

/-- The end of a call that replaced a record: removed bodies are queued. -/
def settle (layout : Layout) :
    Except CaptureError (List BodyRef) × RecordingStateInner →
      Except CaptureError Unit × RecordingStateInner
  | (.error error, state) => (.error error, state)
  | (.ok removedBodies, state) => (.ok (), state.enqueueBodyReferences layout removedBodies)

def update (layout : Layout) (state : RecordingStateInner) (transactionId : Uuid)
    (update : TransactionUpdate) : Except CaptureError Unit × RecordingStateInner :=
  match state.openPendingRecord transactionId with
  | .error error => (.error error, state)
  | .ok record =>
    let summary := applyTransactionUpdate record.summary.clone update
    settle layout (state.replaceSummaryWithinMetadataBudget layout transactionId summary
      (summaryStorageBytes layout summary))

def updateProgress (state : RecordingStateInner) (transactionId : Uuid)
    (update : TransactionProgressUpdate) : Except CaptureError Unit × RecordingStateInner :=
  match state.openPendingRecord transactionId with
  | .error error => (.error error, state)
  | .ok record =>
    (.ok (),
      { state with
        transactions := state.transactions.insert transactionId
          { record with summary := applyProgressUpdate record.summary update } })

/-- Finished transactions can be annotated, too. -/
def updateUserFields (layout : Layout) (state : RecordingStateInner) (transactionId : Uuid)
    (update : TransactionUserUpdate) : Except CaptureError Unit × RecordingStateInner :=
  match state.ensureOpen with
  | .error error => (.error error, state)
  | .ok () =>
    match state.transactions.get? transactionId with
    | none => (.error .transactionNotFound, state)
    | some record =>
      let summary := applyUserUpdate record.summary.clone update
      settle layout (state.replaceSummaryWithinMetadataBudget layout transactionId summary
        (summaryStorageBytes layout summary))

/-- The common part of the calls that finish a transaction. -/
def finish (layout : Layout) (state : RecordingStateInner) (transactionId : Uuid)
    (change : TransactionSummary → TransactionSummary) :
    Except CaptureError Unit × RecordingStateInner :=
  match state.openPendingRecord transactionId with
  | .error error => (.error error, state)
  | .ok record =>
    let summary := change record.summary.clone
    settle layout (state.finalizeSummaryWithinLimits layout transactionId summary
      (summaryStorageBytes layout summary))

/-- The summary of a transaction with a response. -/
def completed (status : TransactionStatus) (completion : TransactionCompletion)
    (summary : TransactionSummary) : TransactionSummary :=
  { summary with
    status
    statusCode := some completion.statusCode
    contentType := completion.contentType
    timings :=
      { summary.timings with endAtMilliseconds := some completion.endAtMilliseconds } }

/-- The summary of a transaction with an error. -/
def aborted (status : TransactionStatus) (error : TransactionError) (endAtMilliseconds : UInt64)
    (summary : TransactionSummary) : TransactionSummary :=
  { summary with
    status
    error := some error
    timings := { summary.timings with endAtMilliseconds := some endAtMilliseconds } }

def commit (layout : Layout) (state : RecordingStateInner) (transactionId : Uuid)
    (completion : TransactionCompletion) : Except CaptureError Unit × RecordingStateInner :=
  state.finish layout transactionId (completed .complete completion)

def block (layout : Layout) (state : RecordingStateInner) (transactionId : Uuid)
    (completion : TransactionCompletion) : Except CaptureError Unit × RecordingStateInner :=
  state.finish layout transactionId (completed .blocked completion)

def fail (layout : Layout) (state : RecordingStateInner) (transactionId : Uuid)
    (error : TransactionError) (endAtMilliseconds : UInt64) :
    Except CaptureError Unit × RecordingStateInner :=
  state.finish layout transactionId (aborted .failed error endAtMilliseconds)

def cancel (layout : Layout) (state : RecordingStateInner) (transactionId : Uuid)
    (error : TransactionError) (endAtMilliseconds : UInt64) :
    Except CaptureError Unit × RecordingStateInner :=
  state.finish layout transactionId (aborted .cancelled error endAtMilliseconds)

/-! ### Admission and views -/

/-- Whether no pattern to ignore matches. -/
def admitsLocation (env : Environment) (location : ResolvedLocation) :
    List LocationPattern → Except LocationError Bool
  | [] => env.locationMatches .default location
  | pattern :: rest =>
    match env.locationMatches pattern location with
    | .error error => .error error
    | .ok true => .ok false
    | .ok false => admitsLocation env location rest

def shouldRecordFromState (env : Environment) (state : RecordingStateInner)
    (location : ResolvedLocation) : Except CaptureError Bool :=
  if state.recordingState = .paused then .ok false
  else (admitsLocation env location state.ignoreLocations).mapError .location

/-- The record of a transaction that begins. -/
def newRecord (layout : Layout) (state : RecordingStateInner) (transactionId : Uuid)
    (input : BeginTransaction) : TransactionRecord :=
  let summary : TransactionSummary :=
    { transactionId
      recordingSessionId := state.recordingSessionId
      sequence := state.nextSequence
      protocol := input.protocol
      method := input.method
      host := input.location.host
      port := input.location.port
      path := input.location.path
      query := input.location.query
      urlDisplay := input.location.display
      status := .pending
      statusCode := none
      clientAddress := input.clientAddress
      clientProcessName := input.clientProcessName
      clientProcessId := input.clientProcessId
      contentType := input.contentType
      timings := ⟨input.startAtMilliseconds, none, none, none, none, none, none⟩
      sizes := ⟨0, 0, 0, 0⟩
      flags := ⟨false, false, false, false, false, false, false, false, false⟩
      error := none
      notes := .empty
      tags := .empty
      appliedTools := .empty }
  { summary
    summaryStorageBytes := summaryStorageBytes layout summary
    requestHeaders := .empty
    responseHeaders := .empty
    requestBody := none
    responseBody := none
    requestPackets := .empty
    responsePackets := .empty
    requestHeadersTruncated := false
    responseHeadersTruncated := false }

/-- A new transaction is the last one. -/
def enroll (state : RecordingStateInner) (transactionId : Uuid) (record : TransactionRecord)
    (newTransactionBytes : Nat) : RecordingStateInner :=
  { state with
    nextSequence := saturatingSucc state.nextSequence
    order := state.order ++ [transactionId]
    transactions := state.transactions.insert transactionId record
    totalMetadataBytes := state.totalMetadataBytes.saturatingAdd newTransactionBytes }

end RecordingStateInner

structure RecordingSnapshot where
  recordingSessionId : Uuid
  state : RecordingState
  startedAtMilliseconds : UInt64
  transactionCount : Nat
  droppedCount : Nat
  totalBodyBytes : Nat
  totalMetadataBytes : Nat
  metadataMemoryBudgetBytes : Nat
  pendingCleanupCount : Nat
  limits : RecordingLimits
  ignoreLocations : List LocationPattern
  recordTunnelMetadata : Bool

/-- `{recordingSessionId}:{collectionVersion}` -/
structure CollectionToken where
  recordingSessionId : Uuid
  collectionVersion : Nat
deriving DecidableEq

structure RecordingPageView where
  recording : RecordingSnapshot
  collectionToken : CollectionToken
  total : Nat
  offset : Nat
  transactions : List TransactionSummary

namespace RecordingSession

def snapshotFromState (session : RecordingSession) : RecordingSnapshot where
  recordingSessionId := session.state.recordingSessionId
  state := session.state.recordingState
  startedAtMilliseconds := session.state.startedAtMilliseconds
  transactionCount := session.state.transactions.size
  droppedCount := session.state.droppedCount
  totalBodyBytes := session.state.totalBodyBytes
  totalMetadataBytes := session.state.totalMetadataBytes.bytes
  metadataMemoryBudgetBytes := session.state.metadataMemoryBudgetBytes
  pendingCleanupCount := session.state.cleanupQueue.length +
    session.bodyStore.orphanedSpills.length + session.state.directoryCleanupPending.toNat
  limits := session.state.limits
  ignoreLocations := session.state.ignoreLocations
  recordTunnelMetadata := session.state.recordTunnelMetadata

def collectionTokenFromState (session : RecordingSession) : CollectionToken where
  recordingSessionId := session.state.recordingSessionId
  collectionVersion := session.state.collectionVersion

/-- One page of summaries; without an offset, the last one. -/
def pageView (session : RecordingSession) (offset : Option Nat) (limit : Nat)
    (expectedCollectionToken : Option CollectionToken) : Except CaptureError RecordingPageView :=
  match session.state.ensureOpen with
  | .error error => .error error
  | .ok () =>
    let collectionToken := session.collectionTokenFromState
    if expectedCollectionToken.any (· != collectionToken) then .error .collectionChanged
    else
      let total := session.state.order.length
      let pageOffset := offset.getD (total - limit)
      .ok
        { recording := session.snapshotFromState
          collectionToken
          total
          offset := pageOffset
          transactions :=
            (((session.state.order.drop (min pageOffset total)).take limit).filterMap
              session.state.transactions.get?).map TransactionRecord.summary }

/-- The ranges of an entity, by way of the index. -/
def findResponseRangeCandidates (session : RecordingSession)
    (urlDisplay entityTag : List Char) (totalBytes : Nat) (contentEncoding : List Char) :
    Except CaptureError (List ResponseRangeCandidate) :=
  match session.state.ensureOpen with
  | .error error => .error error
  | .ok () =>
    let key : ResponseEntityIndexKey :=
      { urlDisplay, entityTag, totalBytes, contentEncoding := toAsciiLowercase contentEncoding }
    match session.state.responseEntityIndex.get? key with
    | none => .ok []
    | some members =>
      .ok ((members.entries.filterMap fun entry =>
        session.state.transactions.get? (ofLex entry.1).2).filterMap responseRangeCandidate)

/-! ### Calls that wait for files -/

/-- Delete the files of the queue from its front. -/
def drainQueue (env : Environment) : List BodyRef → RecordingSession → List Await →
    Except Stop Unit × RecordingSession × List Await
  | [], session, script => (.ok (), session, script)
  | bodyReference :: rest, session, script =>
    match session.bodyStore.remove env bodyReference script with
    | (.error stop, bodyStore, script) => (.error stop, { session with bodyStore }, script)
    | (.ok (), bodyStore, script) =>
      drainQueue env rest
        { bodyStore
          state :=
            { session.state with
              cleanupQueue := rest
              totalMetadataBytes := session.state.totalMetadataBytes.saturatingSub
                (cleanupBodyReferenceMetadataBytes env.layout bodyReference) } } script

/-- The last part of a cleanup: a directory that is to be cleared is cleared. -/
def clearDirectory (env : Environment) (session : RecordingSession) (script : List Await) :
    Except Stop Unit × RecordingSession × List Await :=
  if session.state.directoryCleanupPending then
    match session.bodyStore.clear env script with
    | (.error stop, bodyStore, script) => (.error stop, { session with bodyStore }, script)
    | (.ok (), bodyStore, script) =>
      (.ok (),
        { bodyStore
          state := { session.state with directoryCleanupPending := false } }, script)
  else (.ok (), session, script)

def drainCleanupQueueLocked (env : Environment) (session : RecordingSession)
    (script : List Await) : Except Stop Unit × RecordingSession × List Await :=
  match drainQueue env session.state.cleanupQueue session script with
  | (.error stop, session, script) => (.error stop, session, script)
  | (.ok (), session, script) =>
    match session.bodyStore.cleanupOrphanedSpills env script with
    | (.error stop, bodyStore, script) => (.error stop, { session with bodyStore }, script)
    | (.ok (), bodyStore, script) => clearDirectory env { session with bodyStore } script

/-- A cleanup at the end of a call, whose result is given up if it fails. -/
def finishWith {Result : Type} (env : Environment) (result : Result) (session : RecordingSession)
    (script : List Await) : Except Stop Result × RecordingSession :=
  match drainCleanupQueueLocked env session script with
  | (.error stop, session, _) => (.error stop, session)
  | (.ok (), session, _) => (.ok result, session)

/-- A cleanup at the beginning of a call on an open session. -/
def startWith {Result : Type} (env : Environment) (session : RecordingSession) (script : List Await)
    (continuation : RecordingSession → List Await → Except Stop Result × RecordingSession) :
    Except Stop Result × RecordingSession :=
  match session.state.ensureOpen with
  | .error error => (.error (.error error), session)
  | .ok () =>
    match drainCleanupQueueLocked env session script with
    | (.error stop, session, _) => (.error stop, session)
    | (.ok (), session, script) => continuation session script

/-- The second half of `beginTransaction`: room was made for a record. Its identifier counts from
here on, since no other task sees it before. -/
def admitRecord (env : Environment) (input : BeginTransaction) (newTransactionBytes : Nat)
    (session : RecordingSession) (script : List Await) :
    Except Stop (Option Uuid) × RecordingSession :=
  match drainCleanupQueueLocked env session script with
  | (.error stop, session, _) => (.error stop, session)
  | (.ok (), session, _) =>
    if session.state.canAdmitTransaction newTransactionBytes then
      let transactionId := env.newV4 session.bodyStore.known
      let record := session.state.newRecord env.layout transactionId input
      (.ok (some transactionId),
        { state := session.state.enroll transactionId record newTransactionBytes
          bodyStore :=
            { session.bodyStore with known := transactionId :: session.bodyStore.known } })
    else
      (.ok none,
        { session with
          state :=
            { session.state with droppedCount := saturatingSucc session.state.droppedCount } })

/-- Whether a protocol is recorded only with tunnel metadata. -/
def isTunnel : TransactionProtocol → Bool
  | .tunnel => true
  | .socks => true
  | _ => false

def beginTransaction (env : Environment) (session : RecordingSession) (input : BeginTransaction)
    (script : List Await) : Except Stop (Option Uuid) × RecordingSession :=
  startWith env session script fun session script =>
    match session.state.shouldRecordFromState env input.location with
    | .error error => (.error (.error error), session)
    | .ok shouldRecord =>
      if !shouldRecord || (isTunnel input.protocol && !session.state.recordTunnelMetadata) then
        (.ok none, session)
      else
        let newTransactionBytes := transactionMetadataBytes env.layout
          (session.state.newRecord env.layout (env.newV4 session.bodyStore.known) input)
        let evictionIds := session.state.planTransactionAdmissionEvictions env.layout
          newTransactionBytes
        let (removedBodies, state) := session.state.removeTransactions env.layout evictionIds
        admitRecord env input newTransactionBytes
          { session with state := state.enqueueBodyReferences env.layout removedBodies } script

def storeHeaders (env : Environment) (session : RecordingSession) (transactionId : Uuid)
    (side : MessageSide) (headers : List HeaderField) (script : List Await) :
    Except Stop Unit × RecordingSession :=
  startWith env session script fun session script =>
    match session.state.pendingRecord transactionId with
    | .error error => (.error (.error error), session)
    | .ok record =>
      let oldHeaderBytes := headerStorageBytes env.layout (record.headers side).items
        (record.headers side).capacity
      let initiallyBounded := boundHeaders env.layout headers maximumCounter
      let requiredIncrease := initiallyBounded.storedBytes - oldHeaderBytes
      let evictionIds := session.state.planMetadataBudgetEvictions env.layout transactionId
        requiredIncrease
      let (removedBodies, state) := session.state.removeTransactions env.layout evictionIds
      let state := state.enqueueBodyReferences env.layout removedBodies
      let availableBytes := state.metadataMemoryBudgetBytes -
        (state.totalMetadataBytes.bytes - oldHeaderBytes)
      let bounded :=
        if initiallyBounded.storedBytes > availableBytes then
          { boundHeaders env.layout initiallyBounded.headers.items availableBytes with
            truncated := true }
        else initiallyBounded
      match state.transactions.get? transactionId with
      | none => (.error (.error .transactionNotFound), { session with state })
      | some record =>
        finishWith env ()
          { session with
            state :=
              { state with
                transactions := state.transactions.insert transactionId
                  (record.withHeaders side bounded).refreshTruncatedFlag
                totalMetadataBytes :=
                  (state.totalMetadataBytes.saturatingSub oldHeaderBytes).saturatingAdd
                    bounded.storedBytes } } script

/-- The size that the summary shows for a body. -/
def withBodySize (record : TransactionRecord) (side : MessageSide) (originalBytes : Nat) :
    TransactionRecord :=
  let sizes : TransactionSizes :=
    match side with
    | .request => { record.summary.sizes with requestBodyBytes := originalBytes }
    | .response => { record.summary.sizes with responseBodyBytes := originalBytes }
  { record with summary := { record.summary with sizes } }

/-- The second half of `storeBody`: the body was written. -/
def registerBody (env : Environment) (session : RecordingSession) (transactionId : Uuid)
    (side : MessageSide) (oldBody : Option BodyRef) (evictionIds : List Uuid)
    (handle : BodyHandleMeta) (stagedBody : BodyRef) (script : List Await) :
    Except Stop BodyHandleMeta × RecordingSession :=
  let (removedBodies, state) := session.state.removeTransactions env.layout evictionIds
  let state :=
    { state with
      totalBodyBytes := state.totalBodyBytes -
        oldBody.elim 0 (fun body => body.handle.storedBytes) + handle.storedBytes }
  match state.transactions.get? transactionId with
  | none => (.error (.error .transactionNotFound), { session with state })
  | some record =>
    let record := (withBodySize (record.replaceBody side stagedBody) side
      handle.originalBytes).refreshTruncatedFlag
    finishWith env handle
      { session with
        state := { state with
          transactions := state.transactions.insert transactionId record
          }.enqueueBodyReferences env.layout (removedBodies ++ oldBody.toList) } script

def storeBody (env : Environment) (session : RecordingSession) (transactionId : Uuid)
    (side : MessageSide) (body : BodyWrite) (script : List Await) :
    Except Stop BodyHandleMeta × RecordingSession :=
  if body.originalBytes < body.bytes.length then (.error (.error .invalidBodyLength), session)
  else
    startWith env session script fun session script =>
      match session.state.pendingRecord transactionId with
      | .error error => (.error (.error error), session)
      | .ok record =>
        let oldBody := (record.body side).map BodyRef.clone
        let oldBodyBytes := oldBody.elim 0 fun body => body.handle.storedBytes
        let desiredBytes := min body.bytes.length session.state.limits.maxBodyBytes
        let baseTotalBytes := session.state.totalBodyBytes - oldBodyBytes
        let evictionIds := session.state.planBodyBudgetEvictions transactionId baseTotalBytes
          desiredBytes
        let freedBytes := session.state.plannedBytes transactionBodyBytes evictionIds
        let retainedBytes := baseTotalBytes - freedBytes
        let availableBytes := session.state.limits.maxTotalBodyBytes - retainedBytes
        let storedBytes := min desiredBytes availableBytes
        let handle : BodyHandleMeta :=
          { transactionId
            side
            contentType := body.contentType
            encoding := body.encoding
            storedBytes
            originalBytes := body.originalBytes
            truncated := decide (body.originalBytes > storedBytes) }
        match session.bodyStore.store env transactionId side (body.bytes.take storedBytes)
            handle.clone script with
        | (.error stop, bodyStore, _) => (.error stop, { session with bodyStore })
        | (.ok stagedBody, bodyStore, script) =>
          registerBody env { session with bodyStore } transactionId side oldBody evictionIds
            handle stagedBody script

/-- `createBodySpool` checks the transaction and then creates the file without the lock. -/
def createBodySpool (env : Environment) (session : RecordingSession) (transactionId : Uuid)
    (side : MessageSide) (opened : Bool) : Except CaptureError Unit × RecordingSession :=
  match session.state.openPendingRecord transactionId with
  | .error error => (.error error, session)
  | .ok _ =>
    (.ok (),
      { session with
        bodyStore := session.bodyStore.createSpool env transactionId side opened })

/-- A spool that was staged for a call about a transaction. -/
def stagedSpool (session : RecordingSession) (transactionId suffix : Uuid) : Option Spool :=
  (session.bodyStore.spools.get? suffix).filter fun spool =>
    decide (spool.stage = .staged transactionId)

/-- The `meta` of a whole body. -/
def spoolHandle (transactionId : Uuid) (side : MessageSide) (contentType encoding : Text)
    (bytes : Nat) : BodyHandleMeta where
  transactionId
  side
  contentType := contentType.clone
  encoding := encoding.clone
  storedBytes := bytes
  originalBytes := bytes
  truncated := false

/-- The body that a staged spool becomes. -/
def spoolBody (session : RecordingSession) (handle : BodyHandleMeta) (suffix : Uuid)
    (spool : Spool) : BodyRef where
  handle
  storage := .spill
    { name := spool.path suffix
      len := session.bodyStore.sessionDirectoryBytes + 1 + (spool.path suffix).len
      spare := 0 }

/-- Both spools of a call that fails are dropped. -/
def dropSpools (session : RecordingSession) (requestSpool responseSpool : Uuid)
    (removed : Bool × Bool) : RecordingSession :=
  { session with
    bodyStore := (session.bodyStore.dropSpool requestSpool removed.1).dropSpool responseSpool
      removed.2 }

/-- The part of `storeBodySpools` after both spools were staged. They are different spools. -/
def storeBodySpools (env : Environment) (session : RecordingSession) (transactionId : Uuid)
    (requestSpool responseSpool : Uuid) (contentType encoding : Text) (removed : Bool × Bool)
    (script : List Await) : Except Stop (BodyHandleMeta × BodyHandleMeta) × RecordingSession :=
  match session.stagedSpool transactionId requestSpool,
      session.stagedSpool transactionId responseSpool with
  | some request, some response =>
    if requestSpool = responseSpool then (.error (.error .io), session)
    else
      match session.state.openPendingRecord transactionId with
      | .error error =>
        (.error (.error error), session.dropSpools requestSpool responseSpool removed)
      | .ok record =>
        let requestBytes := request.writtenBytes
        let responseBytes := response.writtenBytes
        let newBytes := requestBytes + responseBytes
        let retainedBytes := session.state.totalBodyBytes - transactionBodyBytes record
        if requestBytes > session.state.limits.maxBodyBytes ∨
            responseBytes > session.state.limits.maxBodyBytes ∨
            newBytes > session.state.limits.maxTotalBodyBytes - retainedBytes then
          (.error (.error .invalidLimits), session.dropSpools requestSpool responseSpool removed)
        else
          let requestMeta := spoolHandle transactionId .request contentType encoding
            requestBytes
          let responseMeta := spoolHandle transactionId .response contentType encoding
            responseBytes
          let newRecord := (withBodySize (withBodySize
            { record with
              requestBody := some (session.spoolBody requestMeta requestSpool request)
              responseBody := some (session.spoolBody responseMeta responseSpool response) }
            .request requestBytes) .response responseBytes).refreshTruncatedFlag
          finishWith env (requestMeta, responseMeta)
            { bodyStore :=
                { session.bodyStore with
                  spools := (session.bodyStore.spools.erase requestSpool).erase
                    responseSpool }
              state := { session.state with
                transactions := session.state.transactions.insert transactionId newRecord
                totalBodyBytes := retainedBytes + newBytes
                }.enqueueBodyReferences env.layout
                  (record.bodyReferences.map BodyRef.clone) } script
  | _, _ => (.error (.error .io), session)

/-- A packet lies within the stored body and states truthfully whether it was cut. -/
def validPacket (bodyLength : Nat) (packet : StreamPacket) : Bool :=
  !(packet.storedBytes == 0 || packet.originalBytes < packet.storedBytes ||
    packet.truncated != decide (packet.originalBytes > packet.storedBytes) ||
    decide (packet.storedOffsetBytes + packet.storedBytes > bodyLength))

/-- Finished transactions accept packets, too. -/
def storeStreamPackets (env : Environment) (session : RecordingSession) (transactionId : Uuid)
    (side : MessageSide) (packets : Buffer StreamPacket) (script : List Await) :
    Except Stop Unit × RecordingSession :=
  match session.state.ensureOpen with
  | .error error => (.error (.error error), session)
  | .ok () =>
    match session.state.transactions.get? transactionId with
    | none => (.error (.error .transactionNotFound), session)
    | some record =>
      let bodyLength := (record.body side).elim 0 fun body => body.handle.storedBytes
      if packets.items.all (validPacket bodyLength) then
        match session.state.replaceStreamPacketsWithinMetadataBudget env.layout transactionId
            side packets with
        | (.error error, state) => (.error (.error error), { session with state })
        | (.ok removedBodies, state) =>
          finishWith env ()
            { session with
              state := state.enqueueBodyReferences env.layout removedBodies } script
      else (.error (.error .invalidBodyLength), session)

/-! ### Settings, clear and close -/

def setRecordingState (session : RecordingSession) (recordingState : RecordingState) :
    Except CaptureError Unit × RecordingSession :=
  match session.state.ensureOpen with
  | .error error => (.error error, session)
  | .ok () => (.ok (), { session with state := { session.state with recordingState } })

def startRecording (session : RecordingSession) : Except CaptureError Unit × RecordingSession :=
  session.setRecordingState .recording

def pauseRecording (session : RecordingSession) : Except CaptureError Unit × RecordingSession :=
  session.setRecordingState .paused

/-- Limits cannot be changed. -/
def setLimits (session : RecordingSession) (limits : RecordingLimits) : Except CaptureError Unit :=
  match session.state.ensureOpen with
  | .error error => .error error
  | .ok () => if limits ≠ session.state.limits then .error .invalidLimits else .ok ()

/-- The first pattern that is not valid. -/
def validatePatterns (env : Environment) (patterns : List LocationPattern) :
    Except CaptureError Unit :=
  (patterns.forM env.validateLocationPattern).mapError .location

def setIgnoreLocations (env : Environment) (session : RecordingSession)
    (patterns : List LocationPattern) : Except CaptureError Unit × RecordingSession :=
  match validatePatterns env patterns with
  | .error error => (.error error, session)
  | .ok () =>
    match session.state.ensureOpen with
    | .error error => (.error error, session)
    | .ok () =>
      (.ok (), { session with state := { session.state with ignoreLocations := patterns } })

def setRecordTunnelMetadata (session : RecordingSession) (enabled : Bool) :
    Except CaptureError Unit × RecordingSession :=
  match session.state.ensureOpen with
  | .error error => (.error error, session)
  | .ok () =>
    (.ok (), { session with state := { session.state with recordTunnelMetadata := enabled } })

def updateSettings (env : Environment) (session : RecordingSession)
    (update : RecordingSettingsUpdate) (script : List Await) :
    Except Stop Unit × RecordingSession :=
  if update.limits.isSome then (.error (.error .invalidLimits), session)
  else
    match validatePatterns env (update.ignoreLocations.getD []) with
    | .error error => (.error (.error error), session)
    | .ok () =>
      match session.state.ensureOpen with
      | .error error => (.error (.error error), session)
      | .ok () =>
        finishWith env ()
          { session with
            state :=
              { session.state with
                recordingState := update.state.getD session.state.recordingState
                ignoreLocations :=
                  update.ignoreLocations.getD session.state.ignoreLocations
                recordTunnelMetadata :=
                  update.recordTunnelMetadata.getD session.state.recordTunnelMetadata } }
          script

/-- The transactions of a session that is cleared or closed go to the queue. -/
def removeEverything (env : Environment) (session : RecordingSession) : RecordingSession :=
  let (removedBodies, state) := session.state.removeAllTransactions env.layout
  { session with
    state := state.markCollectionChanged.enqueueBodyReferences env.layout removedBodies }

def clearSession (env : Environment) (session : RecordingSession) (script : List Await) :
    Except Stop Unit × RecordingSession :=
  match session.state.ensureOpen with
  | .error error => (.error (.error error), session)
  | .ok () =>
    let session := session.removeEverything env
    finishWith env ()
      { session with state := { session.state with directoryCleanupPending := true } } script

def close (env : Environment) (session : RecordingSession) (script : List Await) :
    Except Stop Unit × RecordingSession :=
  if session.state.closed then (.ok (), session)
  else
    match drainCleanupQueueLocked env (session.removeEverything env) script with
    | (.error stop, session, _) => (.error stop, session)
    | (.ok (), session, script) =>
      match session.bodyStore.close env script with
      | (.error stop, bodyStore, _) => (.error stop, { session with bodyStore })
      | (.ok (), bodyStore, _) =>
        (.ok (), { bodyStore, state := { session.state with closed := true } })

def cleanupPendingBodies (env : Environment) (session : RecordingSession)
    (script : List Await) : Except Stop Unit × RecordingSession :=
  match session.state.ensureOpen with
  | .error error => (.error (.error error), session)
  | .ok () => finishWith env () session script

end RecordingSession

/-! ### Runs -/

/-- A session that has just been created. -/
def RecordingSession.initial (configuration : RecordingConfiguration) (recordingSessionId : Uuid)
    (startedAtMilliseconds : UInt64) : RecordingSession where
  state :=
    { recordingState := .recording
      recordingSessionId
      startedAtMilliseconds
      nextSequence := 1
      droppedCount := 0
      totalBodyBytes := 0
      totalMetadataBytes := ⟨0, 0⟩
      metadataMemoryBudgetBytes := configuration.metadataMemoryBudgetBytes
      collectionVersion := 0
      limits := configuration.limits
      ignoreLocations := configuration.ignoreLocations
      recordTunnelMetadata := configuration.recordTunnelMetadata
      transactions := ∅
      responseEntityIndex := ∅
      order := []
      cleanupQueue := []
      directoryCleanupPending := false
      closed := false }
  bodyStore :=
    { memoryThreshold := configuration.memoryBodyThreshold
      sessionDirectoryBytes := configuration.sessionDirectoryBytes
      files := []
      orphanedSpills := []
      spools := ∅
      known := [recordingSessionId] }

/-- `RecordingSession::new`. -/
def RecordingSession.new (env : Environment) (configuration : RecordingConfiguration)
    (startedAtMilliseconds : UInt64) (directoryCreated : Bool) :
    Except CaptureError RecordingSession :=
  if !configuration.limits.isValid then .error .invalidLimits
  else if configuration.memoryBodyThreshold = 0 then .error .invalidMemoryThreshold
  else if configuration.metadataMemoryBudgetBytes < minimumMetadataMemoryBudgetBytes then
    .error .invalidMetadataMemoryBudget
  else
    match RecordingSession.validatePatterns env configuration.ignoreLocations with
    | .error error => .error error
    | .ok () =>
      if directoryCreated then
        .ok (.initial configuration (env.newV4 []) startedAtMilliseconds)
      else .error .io

/-- A call of the session, or what a task does to the body store between two calls. -/
inductive RecordingAction where
  | startRecording
  | pauseRecording
  | beginTransaction (input : BeginTransaction) (script : List Await)
  | update (transactionId : Uuid) (update : TransactionUpdate)
  | updateProgress (transactionId : Uuid) (update : TransactionProgressUpdate)
  | updateUserFields (transactionId : Uuid) (update : TransactionUserUpdate)
  | commit (transactionId : Uuid) (completion : TransactionCompletion)
  | block (transactionId : Uuid) (completion : TransactionCompletion)
  | fail (transactionId : Uuid) (error : TransactionError) (endAtMilliseconds : UInt64)
  | cancel (transactionId : Uuid) (error : TransactionError) (endAtMilliseconds : UInt64)
  | storeHeaders (transactionId : Uuid) (side : MessageSide) (headers : List HeaderField)
      (script : List Await)
  | storeBody (transactionId : Uuid) (side : MessageSide) (body : BodyWrite)
      (script : List Await)
  | createBodySpool (transactionId : Uuid) (side : MessageSide) (opened : Bool)
  | storeBodySpools (transactionId requestSpool responseSpool : Uuid)
      (contentType encoding : Text) (removed : Bool × Bool) (script : List Await)
  | storeStreamPackets (transactionId : Uuid) (side : MessageSide)
      (packets : Buffer StreamPacket) (script : List Await)
  | setIgnoreLocations (patterns : List LocationPattern)
  | setRecordTunnelMetadata (enabled : Bool)
  | updateSettings (update : RecordingSettingsUpdate) (script : List Await)
  | clearSession (script : List Await)
  | close (script : List Await)
  | cleanupPendingBodies (script : List Await)
  | storeEvent (event : StoreEvent)

namespace RecordingSession

/-- The session after a call on its state alone. -/
def withState {Result : Type} (session : RecordingSession)
    (outcome : Result × RecordingStateInner) : RecordingSession :=
  { session with state := outcome.2 }

def step (env : Environment) (session : RecordingSession) : RecordingAction → RecordingSession
  | .startRecording => session.startRecording.2
  | .pauseRecording => session.pauseRecording.2
  | .beginTransaction input script => (session.beginTransaction env input script).2
  | .update transactionId update =>
    session.withState (session.state.update env.layout transactionId update)
  | .updateProgress transactionId update =>
    session.withState (session.state.updateProgress transactionId update)
  | .updateUserFields transactionId update =>
    session.withState (session.state.updateUserFields env.layout transactionId update)
  | .commit transactionId completion =>
    session.withState (session.state.commit env.layout transactionId completion)
  | .block transactionId completion =>
    session.withState (session.state.block env.layout transactionId completion)
  | .fail transactionId error endAtMilliseconds =>
    session.withState (session.state.fail env.layout transactionId error endAtMilliseconds)
  | .cancel transactionId error endAtMilliseconds =>
    session.withState (session.state.cancel env.layout transactionId error endAtMilliseconds)
  | .storeHeaders transactionId side headers script =>
    (session.storeHeaders env transactionId side headers script).2
  | .storeBody transactionId side body script =>
    (session.storeBody env transactionId side body script).2
  | .createBodySpool transactionId side opened =>
    (session.createBodySpool env transactionId side opened).2
  | .storeBodySpools transactionId requestSpool responseSpool contentType encoding removed
      script =>
      (session.storeBodySpools env transactionId requestSpool responseSpool contentType encoding
        removed script).2
  | .storeStreamPackets transactionId side packets script =>
    (session.storeStreamPackets env transactionId side packets script).2
  | .setIgnoreLocations patterns => (session.setIgnoreLocations env patterns).2
  | .setRecordTunnelMetadata enabled => (session.setRecordTunnelMetadata enabled).2
  | .updateSettings update script => (session.updateSettings env update script).2
  | .clearSession script => (session.clearSession env script).2
  | .close script => (session.close env script).2
  | .cleanupPendingBodies script => (session.cleanupPendingBodies env script).2
  | .storeEvent event => { session with bodyStore := session.bodyStore.event env event }

end RecordingSession

/-- The session as a machine over its calls. -/
def recordingMachine (env : Environment) (configuration : RecordingConfiguration)
    (startedAtMilliseconds : UInt64) : Machine RecordingSession RecordingAction where
  initial := .initial configuration (env.newV4 []) startedAtMilliseconds
  step := .step env

/-! ### A small session -/

/-- The sizes on a machine with 64 bits. -/
def Layout.wide : Layout where
  sizeOfUsize := 8
  sizeOfString := 24
  sizeOfHeaderField := 48
  sizeOfStringPair := 48
  sizeOfTransactionError := 72
  sizeOfTransactionSummary := 600
  sizeOfTransactionRecord := 1000
  sizeOfStreamPacket := 80
  sizeOfBodyRef := 136
  sizeOfIndexKey := 80
  sizeOfIndexMember := 32

theorem le_foldr_max {uuid : Uuid} {known : List Uuid} (member : uuid ∈ known) :
    uuid ≤ known.foldr max 0 := by
  induction known with
  | nil => cases member
  | cons _ _ ih =>
    rcases List.mem_cons.mp member with rfl | later
    · exact Nat.le_max_left ..
    · exact (ih later).trans (Nat.le_max_right ..)

/-- UUIDs are counted, and the only pattern that is asked for is the empty one. -/
def Environment.counting : Environment where
  layout := .wide
  newV4 known := known.foldr max 0 + 1
  fresh _ member := absurd (le_foldr_max member) (Nat.not_succ_le_self _)
  validateLocationPattern _ := .ok ()
  locationMatches _ _ := .ok true

def RecordingConfiguration.small : RecordingConfiguration where
  limits := ⟨10, 1000, 10000⟩
  ignoreLocations := []
  recordTunnelMetadata := true
  memoryBodyThreshold := 2
  metadataMemoryBudgetBytes := 65536
  sessionDirectoryBytes := 20

/-- A request for the root of a host. -/
def BeginTransaction.plain : BeginTransaction where
  protocol := .http
  method := ⟨['G', 'E', 'T'], 0⟩
  location := ⟨⟨['h', 't', 't', 'p'], 0⟩, ⟨['h'], 0⟩, 80, ⟨['/'], 0⟩, .empty, ⟨['h', '/'], 0⟩⟩
  clientAddress := .empty
  clientProcessName := none
  clientProcessId := none
  contentType := .empty
  startAtMilliseconds := 0

/-- A small session. Its own UUID is 1, and its first transaction is 2. -/
def smallMachine : Machine RecordingSession RecordingAction :=
  recordingMachine .counting .small 0

end SprakCapture.Capture
