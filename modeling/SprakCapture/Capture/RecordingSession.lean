import Mathlib.Data.Prod.Lex
import SprakCapture.Capture.BodyStore
import SprakCapture.Capture.ResponseEntity
import SprakCapture.Data.Machine
import SprakCapture.Data.OrderedTable

/-!
# The recording session

A session keeps transactions in the order of their arrival and within budgets for
their number, their bodies and their metadata. Finished transactions make room for new
ones. The bodies of transactions that are gone wait in a queue until their files are
deleted.

Every call takes the lock of the session, so it is a function on the session; calls
that wait for files are given their awaits (`BodyStore`).
-/

namespace SprakCapture.Capture

open Data

/-! ### State -/

structure TransactionRecord where
  summary : TransactionSummary
  summaryStorageBytes : Nat
  requestHeaders : Buffer HeaderField
  responseHeaders : Buffer HeaderField
  requestBody : Option BodyRef
  responseBody : Option BodyRef
  requestPackets : Buffer StreamPacket
  responsePackets : Buffer StreamPacket
  requestHeadersTruncated : Bool
  responseHeadersTruncated : Bool
deriving DecidableEq

/-- What identifies the entity that ranges belong to. -/
structure ResponseEntityIndexKey where
  urlDisplay : List Char
  entityTag : List Char
  totalBytes : Nat
  contentEncoding : List Char
deriving DecidableEq

/-- A counter under saturating subtraction. `lost` adds up what subtractions have cut off below
zero; the program has no such field. -/
structure Balance where
  bytes : Nat
  lost : Nat
deriving DecidableEq

def Balance.saturatingSub (balance : Balance) (bytes : Nat) : Balance where
  bytes := balance.bytes - bytes
  lost := balance.lost + (bytes - balance.bytes)

def Balance.saturatingAdd (balance : Balance) (bytes : Nat) : Balance :=
  { balance with bytes := balance.bytes + bytes }

/-- The greatest `u64`. -/
def maximumCounter : Nat := 2 ^ 64 - 1

/-- `saturating_add(1)` on a `u64`. -/
def saturatingSucc (counter : Nat) : Nat := min (counter + 1) maximumCounter

/-- The members of an entity, in the order of their sequence numbers. -/
abbrev EntityMembers := OrderedTable (Nat ×ₗ Uuid) Unit

structure RecordingStateInner where
  recordingState : RecordingState
  recordingSessionId : Uuid
  startedAtMilliseconds : UInt64
  nextSequence : Nat
  droppedCount : Nat
  totalBodyBytes : Nat
  totalMetadataBytes : Balance
  metadataMemoryBudgetBytes : Nat
  collectionVersion : Nat
  limits : RecordingLimits
  ignoreLocations : List LocationPattern
  recordTunnelMetadata : Bool
  transactions : Table Uuid TransactionRecord
  responseEntityIndex : Table ResponseEntityIndexKey EntityMembers
  order : List Uuid
  cleanupQueue : List BodyRef
  directoryCleanupPending : Bool
  closed : Bool

/-- The session together with its body store. -/
structure RecordingSession where
  state : RecordingStateInner
  bodyStore : BodyStore

/-! ### Records -/

namespace TransactionRecord

def clone (record : TransactionRecord) : TransactionRecord where
  summary := record.summary.clone
  summaryStorageBytes := record.summaryStorageBytes
  requestHeaders := record.requestHeaders.clone HeaderField.clone
  responseHeaders := record.responseHeaders.clone HeaderField.clone
  requestBody := record.requestBody.map BodyRef.clone
  responseBody := record.responseBody.map BodyRef.clone
  requestPackets := record.requestPackets.clone StreamPacket.clone
  responsePackets := record.responsePackets.clone StreamPacket.clone
  requestHeadersTruncated := record.requestHeadersTruncated
  responseHeadersTruncated := record.responseHeadersTruncated

def body (record : TransactionRecord) : MessageSide → Option BodyRef
  | .request => record.requestBody
  | .response => record.responseBody

def replaceBody (record : TransactionRecord) (side : MessageSide) (bodyReference : BodyRef) :
    TransactionRecord :=
  match side with
  | .request => { record with requestBody := some bodyReference }
  | .response => { record with responseBody := some bodyReference }

/-- The bodies of both sides. -/
def bodyReferences (record : TransactionRecord) : List BodyRef :=
  record.requestBody.toList ++ record.responseBody.toList

def refreshTruncatedFlag (record : TransactionRecord) : TransactionRecord :=
  { record with
    summary :=
      { record.summary with
        flags :=
          { record.summary.flags with
            bodyTruncated := record.bodyReferences.any fun body => body.handle.truncated
            headersTruncated :=
              record.requestHeadersTruncated || record.responseHeadersTruncated } } }

def withHeaders (record : TransactionRecord) (side : MessageSide) (bounded : BoundedHeaders) :
    TransactionRecord :=
  match side with
  | .request =>
    { record with
      requestHeaders := bounded.headers
      requestHeadersTruncated := bounded.truncated }
  | .response =>
    { record with
      responseHeaders := bounded.headers
      responseHeadersTruncated := bounded.truncated }

def headers (record : TransactionRecord) : MessageSide → Buffer HeaderField
  | .request => record.requestHeaders
  | .response => record.responseHeaders

def withPackets (record : TransactionRecord) (side : MessageSide) (packets : Buffer StreamPacket) :
    TransactionRecord :=
  match side with
  | .request => { record with requestPackets := packets }
  | .response => { record with responsePackets := packets }

end TransactionRecord

/-- The stored bytes of both bodies. -/
def transactionBodyBytes (record : TransactionRecord) : Nat :=
  (record.bodyReferences.map fun body => body.handle.storedBytes).sum

/-! ### The entity index -/

/-- A finished partial response whose body is complete. -/
def responseRangeCandidate (record : TransactionRecord) : Option ResponseRangeCandidate :=
  if record.summary.status ≠ .complete ∨ record.summary.statusCode ≠ some 206 then none
  else
    (responseContentRange record.responseHeaders.items).bind fun (start, stop, _) =>
    record.responseBody.bind fun body =>
    let rangeBytes := stop - start + 1
    if body.handle.truncated = true ∨ body.handle.originalBytes ≠ rangeBytes ∨
        body.handle.storedBytes ≠ rangeBytes then none
    else some
      { transactionId := record.summary.transactionId
        sequence := record.summary.sequence
        start
        stop
        body := body.handle.clone }

/-- The entity of a record and its range. -/
def responseEntityEntry (record : TransactionRecord) :
    Option (ResponseEntityIndexKey × ResponseRangeCandidate) :=
  (responseRangeCandidate record).bind fun candidate =>
  (strongResponseEntityTag record.responseHeaders.items).bind fun entityTag =>
  (responseContentRange record.responseHeaders.items).map fun (_, _, totalBytes) =>
  ({ urlDisplay := record.summary.urlDisplay.chars
     entityTag
     totalBytes
     contentEncoding := toAsciiLowercase candidate.body.encoding.chars }, candidate)

/-- The place of a candidate among the members of its entity. -/
def ResponseRangeCandidate.member (candidate : ResponseRangeCandidate) : Nat ×ₗ Uuid :=
  toLex (candidate.sequence, candidate.transactionId)

def insertResponseEntityEntry (state : RecordingStateInner) (transactionId : Uuid) :
    RecordingStateInner :=
  match (state.transactions.get? transactionId).bind responseEntityEntry with
  | none => state
  | some (key, candidate) =>
    { state with
      responseEntityIndex := state.responseEntityIndex.insert key
        (((state.responseEntityIndex.get? key).getD ∅).insert candidate.member ()) }

def removeResponseEntityEntry (state : RecordingStateInner) (record : TransactionRecord) :
    RecordingStateInner :=
  match responseEntityEntry record with
  | none => state
  | some (key, candidate) =>
    match state.responseEntityIndex.get? key with
    | none => state
    | some members =>
      let members := members.erase candidate.member
      { state with
        responseEntityIndex :=
          if members.entries.isEmpty then state.responseEntityIndex.erase key
          else state.responseEntityIndex.insert key members }

/-! ### Metadata -/

section

variable (layout : Layout)

/-- What the index holds for a transaction. -/
def responseEntityIndexMetadataBytes (summary : TransactionSummary)
    (responseHeaders : List HeaderField) (responseBody : Option BodyRef) : Nat :=
  if summary.status ≠ .complete ∨ summary.statusCode ≠ some 206 then 0
  else
    match strongResponseEntityTag responseHeaders, responseContentRange responseHeaders,
        responseBody with
    | some entityTag, some (start, stop, _), some body =>
      let rangeBytes := stop - start + 1
      if body.handle.truncated = true ∨ body.handle.originalBytes ≠ rangeBytes ∨
          body.handle.storedBytes ≠ rangeBytes then 0
      else
        layout.sizeOfIndexKey + summary.urlDisplay.capacity + utf8Bytes entityTag +
          body.handle.encoding.capacity + layout.sizeOfIndexMember + uuidBytes +
          layout.sizeOfUsize * 8
    | _, _, _ => 0

def streamPacketStorageBytes (packets : Buffer StreamPacket) : Nat :=
  layout.sizeOfStreamPacket * packets.capacity +
    (packets.items.map fun packet => (packet.modifications.map fun change =>
      change.originalBytes.capacity + change.modifiedBytes.capacity).sum).sum

def bodyReferenceMetadataBytes (record : TransactionRecord) : Nat :=
  (record.bodyReferences.map BodyRef.metadataStorageBytes).sum

/-- What a transaction is charged for. Pending ones are not charged for their bodies. -/
def transactionMetadataBytes (record : TransactionRecord) : Nat :=
  (layout.sizeOfTransactionRecord - layout.sizeOfTransactionSummary) +
    record.summaryStorageBytes + (layout.sizeOfString + uuidBytes) * 2 + layout.sizeOfUsize * 2 +
    responseEntityIndexMetadataBytes layout record.summary record.responseHeaders.items
      record.responseBody +
    headerStorageBytes layout record.requestHeaders.items record.requestHeaders.capacity +
    headerStorageBytes layout record.responseHeaders.items record.responseHeaders.capacity +
    streamPacketStorageBytes layout record.requestPackets +
    streamPacketStorageBytes layout record.responsePackets +
    if record.summary.status = .pending then 0 else bodyReferenceMetadataBytes record

def cleanupBodyReferenceMetadataBytes (bodyReference : BodyRef) : Nat :=
  layout.sizeOfBodyRef + bodyReference.metadataStorageBytes

/-- What is still charged for when a transaction is gone and its files are not. -/
def cleanupBodyReferencesMetadataBytes (record : TransactionRecord) : Nat :=
  (record.bodyReferences.map (cleanupBodyReferenceMetadataBytes layout)).sum

end

/-! ### Removal -/

namespace RecordingStateInner

/-- The offsets of earlier pages are void. -/
def markCollectionChanged (state : RecordingStateInner) : RecordingStateInner :=
  { state with collectionVersion := saturatingSucc state.collectionVersion }

def ensureOpen (state : RecordingStateInner) : Except CaptureError Unit :=
  if state.closed then .error .sessionClosed else .ok ()

/-- Bodies of transactions that are gone wait for the deletion of their files. -/
def enqueueBodyReferences (layout : Layout) (state : RecordingStateInner)
    (bodyReferences : List BodyRef) : RecordingStateInner :=
  { state with
    totalMetadataBytes := state.totalMetadataBytes.saturatingAdd
      (bodyReferences.map (cleanupBodyReferenceMetadataBytes layout)).sum
    cleanupQueue := state.cleanupQueue ++ bodyReferences }

/-- Take one record out of the table, the index and the totals. -/
def dropRecord (layout : Layout) (state : RecordingStateInner) (transactionId : Uuid)
    (record : TransactionRecord) : RecordingStateInner :=
  let state := removeResponseEntityEntry
    { state with transactions := state.transactions.erase transactionId } record
  { state with
    totalBodyBytes := state.totalBodyBytes - transactionBodyBytes record
    totalMetadataBytes := state.totalMetadataBytes.saturatingSub
      (transactionMetadataBytes layout record)
    droppedCount := saturatingSucc state.droppedCount }

/-- The loop of `removeTransactions`: the bodies, and whether a transaction was there. -/
def dropRecords (layout : Layout) : List Uuid → RecordingStateInner →
    List BodyRef × Bool × RecordingStateInner
  | [], state => ([], false, state)
  | transactionId :: rest, state =>
    match state.transactions.get? transactionId with
    | none => dropRecords layout rest state
    | some record =>
      let (bodies, _, state) := dropRecords layout rest
        (state.dropRecord layout transactionId record)
      (record.bodyReferences ++ bodies, true, state)

def removeTransactions (layout : Layout) (state : RecordingStateInner)
    (transactionIds : List Uuid) : List BodyRef × RecordingStateInner :=
  if transactionIds.isEmpty then ([], state)
  else
    let (bodies, removedAny, state) := dropRecords layout transactionIds
      { state with
        order := state.order.filter fun identifier => !transactionIds.contains identifier }
    (bodies, if removedAny then state.markCollectionChanged else state)

def removeAllTransactions (layout : Layout) (state : RecordingStateInner) :
    List BodyRef × RecordingStateInner :=
  let removedRecords := state.transactions.values
  (removedRecords.flatMap TransactionRecord.bodyReferences,
    { state with
      responseEntityIndex := ∅
      transactions := ∅
      order := []
      totalBodyBytes := 0
      totalMetadataBytes := state.totalMetadataBytes.saturatingSub
        (removedRecords.map (transactionMetadataBytes layout)).sum })

/-! ### Plans of evictions -/

/-- A finished transaction, which may give way. -/
def finished? (state : RecordingStateInner) (transactionId : Uuid) : Option TransactionRecord :=
  (state.transactions.get? transactionId).filter fun record => record.summary.status != .pending

def canAdmitTransaction (state : RecordingStateInner) (newTransactionBytes : Nat) : Bool :=
  state.transactions.size < state.limits.maxTransactions &&
    state.totalMetadataBytes.bytes + newTransactionBytes ≤ state.metadataMemoryBudgetBytes

/-- The oldest finished transactions that give way to a new one. -/
def planAdmission (layout : Layout) (state : RecordingStateInner) (newTransactionBytes : Nat) :
    List Uuid → Nat → Nat → List Uuid
  | [], _, _ => []
  | transactionId :: rest, retainedCount, retainedMetadataBytes =>
    if retainedCount < state.limits.maxTransactions ∧
        retainedMetadataBytes + newTransactionBytes ≤ state.metadataMemoryBudgetBytes then []
    else
      match state.finished? transactionId with
      | none => planAdmission layout state newTransactionBytes rest retainedCount
          retainedMetadataBytes
      | some record =>
        transactionId :: planAdmission layout state newTransactionBytes rest
          (retainedCount - 1) (retainedMetadataBytes - transactionMetadataBytes layout record)

def planTransactionAdmissionEvictions (layout : Layout) (state : RecordingStateInner)
    (newTransactionBytes : Nat) : List Uuid :=
  planAdmission layout state newTransactionBytes state.order state.transactions.size
    state.totalMetadataBytes.bytes

/-- The oldest finished transactions that exceed the limits. -/
def planLimits (state : RecordingStateInner) : List Uuid → Nat → Nat → List Uuid
  | [], _, _ => []
  | transactionId :: rest, retainedCount, retainedBodyBytes =>
    if retainedCount ≤ state.limits.maxTransactions ∧
        retainedBodyBytes ≤ state.limits.maxTotalBodyBytes then []
    else
      match state.finished? transactionId with
      | none => planLimits state rest retainedCount retainedBodyBytes
      | some record =>
        transactionId :: planLimits state rest (retainedCount - 1)
          (retainedBodyBytes - transactionBodyBytes record)

def enforceAllLimits (layout : Layout) (state : RecordingStateInner) :
    List BodyRef × RecordingStateInner :=
  state.removeTransactions layout
    (planLimits state state.order state.transactions.size state.totalBodyBytes)

/-- The oldest other finished transactions whose bodies give way. -/
def planBodies (state : RecordingStateInner) (currentTransactionId : Uuid) :
    List Uuid → Nat → List Uuid
  | [], _ => []
  | transactionId :: rest, requiredBytes =>
    if requiredBytes = 0 then []
    else if transactionId = currentTransactionId then
      planBodies state currentTransactionId rest requiredBytes
    else
      match state.finished? transactionId with
      | none => planBodies state currentTransactionId rest requiredBytes
      | some record =>
        transactionId :: planBodies state currentTransactionId rest
          (requiredBytes - transactionBodyBytes record)

def planBodyBudgetEvictions (state : RecordingStateInner) (currentTransactionId : Uuid)
    (baseTotalBytes desiredBytes : Nat) : List Uuid :=
  planBodies state currentTransactionId state.order
    (baseTotalBytes + desiredBytes - state.limits.maxTotalBodyBytes)

/-- The oldest other finished transactions whose metadata give way. -/
def planMetadata (layout : Layout) (state : RecordingStateInner) (currentTransactionId : Uuid) :
    List Uuid → Nat → List Uuid
  | [], _ => []
  | transactionId :: rest, requiredBytes =>
    if requiredBytes = 0 then []
    else if transactionId = currentTransactionId then
      planMetadata layout state currentTransactionId rest requiredBytes
    else
      match state.finished? transactionId with
      | none => planMetadata layout state currentTransactionId rest requiredBytes
      | some record =>
        transactionId :: planMetadata layout state currentTransactionId rest
          (requiredBytes - (transactionMetadataBytes layout record -
            cleanupBodyReferencesMetadataBytes layout record))

def planMetadataBudgetEvictions (layout : Layout) (state : RecordingStateInner)
    (currentTransactionId : Uuid) (requiredIncrease : Nat) : List Uuid :=
  planMetadata layout state currentTransactionId state.order
    (state.totalMetadataBytes.bytes + requiredIncrease - state.metadataMemoryBudgetBytes)

/-- The sum of a weight over the transactions of a plan. -/
def plannedBytes (state : RecordingStateInner) (weight : TransactionRecord → Nat)
    (evictionIds : List Uuid) : Nat :=
  ((evictionIds.filterMap state.transactions.get?).map weight).sum

end RecordingStateInner

end SprakCapture.Capture
