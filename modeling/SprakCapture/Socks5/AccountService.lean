import SprakCapture.Data.SharedTable
import SprakCapture.Socks5.SessionRegistry

/-!
# The client of the account service

Connections authenticate with the account service concurrently, the data plane counts their
traffic without a lock, and one worker reports the counts in batches. The client is a
machine whose steps are the lock regions and atomic accesses of these tasks, so that its runs
are the interleavings of the tasks. A step that its task cannot take leaves the state alone.

Lease ids are UUIDs of the account service. A response that repeats an id is not a step.
-/

namespace SprakCapture.Socks5

open Data

structure AuthenticationResponse where
  serviceInstanceId : String
  accountId : String
  leaseId : String
  username : String
  policyRevision : Int
  maxUploadBytesPerSecond : Int
  maxDownloadBytesPerSecond : Int

/-- What the controller of an account holds besides its count of leases: its revision and the
rates of its two schedules. -/
structure TrafficPolicy where
  policyRevision : Int
  uploadBytesPerSecond : Int
  downloadBytesPerSecond : Int

namespace TrafficPolicy

def new (response : AuthenticationResponse) : TrafficPolicy where
  policyRevision := response.policyRevision
  uploadBytesPerSecond := response.maxUploadBytesPerSecond
  downloadBytesPerSecond := response.maxDownloadBytesPerSecond

/-- Only a newer revision changes the policy. -/
def update (policy : TrafficPolicy) (revision upload download : Int) : TrafficPolicy :=
  if revision ≤ policy.policyRevision then policy
  else
    { policyRevision := revision
      uploadBytesPerSecond := upload
      downloadBytesPerSecond := download }

theorem policyRevision_le_update (policy : TrafficPolicy) (revision upload download : Int) :
    policy.policyRevision ≤ (policy.update revision upload download).policyRevision := by
  grind [update]

end TrafficPolicy

/-- The sum of the bytes recorded in a direction, as the counters add them. -/
def recordedBytes (records : List (TrafficDirection × Nat)) (direction : TrafficDirection) : Nat :=
  records.foldl (fun total record =>
    if record.1 = direction then saturatingAdd total record.2 else total) 0

/-- A lease. `records` is the history of its calls of `record`; `controller` refers to the
controller of its account. -/
structure LeaseState where
  serviceInstanceId : String
  accountId : String
  leaseId : String
  connectionId : String
  username : String
  uploadedBytes : Nat
  downloadedBytes : Nat
  controller : Nat
  revoked : Bool
  finalPending : Bool
  records : List (TrafficDirection × Nat)

namespace LeaseState

def record (lease : LeaseState) (direction : TrafficDirection) (byteCount : Nat) : LeaseState :=
  match direction with
  | .up =>
    { lease with
      uploadedBytes := saturatingAdd lease.uploadedBytes byteCount
      records := lease.records ++ [(direction, byteCount)] }
  | .down =>
    { lease with
      downloadedBytes := saturatingAdd lease.downloadedBytes byteCount
      records := lease.records ++ [(direction, byteCount)] }

def finish (lease : LeaseState) : LeaseState := { lease with finalPending := true }

def revoke (lease : LeaseState) : LeaseState := { lease with revoked := true }

/-- The lease as a user of the controller of its account. -/
def user (lease : LeaseState) : String × Nat := (lease.accountId, lease.controller)

end LeaseState

structure LeaseProgress where
  leaseId : String
  connectionId : String
  uploadedBytes : Nat
  downloadedBytes : Nat
  final : Bool
deriving DecidableEq

structure SynchronizationRequest where
  serviceInstanceId : String
  batchId : String
  leases : List LeaseProgress

structure SynchronizationResult where
  leaseId : String
  policyRevision : Int
  maxUploadBytesPerSecond : Int
  maxDownloadBytesPerSecond : Int
  revoked : Bool

structure SynchronizationResponse where
  serviceInstanceId : String
  leases : List SynchronizationResult

/-- Where a call of `authenticate` stands once it has its response. -/
inductive AuthenticationPhase where
  | adopting
  /-- It found another instance and has yet to empty the ledger. -/
  | draining
  /-- It has yet to release the controllers of these leases. -/
  | releasing (removed : List LeaseState)
  /-- It holds a controller and has yet to bring it up to date. -/
  | revising (controller : Nat)
  | inserting (controller : Nat)

structure AuthenticationCall where
  connectionId : String
  response : AuthenticationResponse
  phase : AuthenticationPhase

namespace AuthenticationCall

/-- The leases of a call that count as users of controllers. -/
def users (call : AuthenticationCall) : List (String × Nat) :=
  match call.phase with
  | .releasing removed => removed.map LeaseState.user
  | .revising controller => [(call.response.accountId, controller)]
  | .inserting controller => [(call.response.accountId, controller)]
  | _ => []

/-- The lease that a call puts into the ledger. -/
def lease (call : AuthenticationCall) (controller : Nat) : LeaseState where
  serviceInstanceId := call.response.serviceInstanceId
  accountId := call.response.accountId
  leaseId := call.response.leaseId
  connectionId := call.connectionId
  username := call.response.username
  uploadedBytes := 0
  downloadedBytes := 0
  controller := controller
  revoked := false
  finalPending := false
  records := []

end AuthenticationCall

/-- Where the synchronisation worker stands. While it builds a batch or applies a response it
holds the lock of the ledger. -/
inductive WorkerPhase where
  | idle
  /-- It loads the counters of the first of the remaining leases, then its final flag. -/
  | building (request : SynchronizationRequest) (uploaded downloaded : Option Nat)
      (remaining : List String)
  | sent (request : SynchronizationRequest)
  /-- It has yet to release the controller of a lease that it has taken out. -/
  | applying (request : SynchronizationRequest) (results : List SynchronizationResult)
      (confirmed : Option LeaseState)

namespace WorkerPhase

/-- The worker holds the lock of the ledger. -/
def locksLeases : WorkerPhase → Bool
  | building .. => true
  | applying .. => true
  | _ => false

/-- The lease that the worker has taken out and not yet released. -/
def users : WorkerPhase → List (String × Nat)
  | applying _ _ (some lease) => [lease.user]
  | _ => []

end WorkerPhase

/-- The client with its tasks. The last fields are history: the instance that issued each lease,
the ids that entered the ledger, every batch with the ids in the ledger when it was built, the
leases that an instance change took out with the instance current at that moment, and the
leases that were dropped on a confirmed final report with that report. -/
structure AccountServiceClient where
  controllers : SharedTable String TrafficPolicy
  leases : Table String LeaseState
  serviceInstanceId : Option String
  calls : Table String AuthenticationCall
  worker : WorkerPhase
  issued : Table String String
  entered : List String
  batches : List (SynchronizationRequest × List String)
  discarded : List (LeaseState × Option String)
  reported : List (LeaseState × LeaseProgress)

namespace AccountServiceClient

def new : AccountServiceClient where
  controllers := .empty
  leases := ∅
  serviceInstanceId := none
  calls := ∅
  worker := .idle
  issued := ∅
  entered := []
  batches := []
  discarded := []
  reported := []

/-- The ids in the ledger. -/
def leaseIds (client : AccountServiceClient) : List String := client.leases.toList.map Prod.fst

/-- The next phase of a call. -/
def advance (client : AccountServiceClient) (call : AuthenticationCall)
    (phase : AuthenticationPhase) : AccountServiceClient :=
  { client with calls := client.calls.insert call.response.leaseId { call with phase } }

/-! ### Authentication -/

/-- A call of `authenticate` has its response. -/
def respond (client : AccountServiceClient) (connectionId : String)
    (response : AuthenticationResponse) : AccountServiceClient :=
  if client.issued.contains response.leaseId then client
  else
    { client with
      issued := client.issued.insert response.leaseId response.serviceInstanceId
      calls := client.calls.insert response.leaseId
        { connectionId, response, phase := .adopting } }

/-- The first lock region of `adoptServiceInstance`. -/
def adopt (client : AccountServiceClient) (call : AuthenticationCall) : AccountServiceClient :=
  let changed := client.serviceInstanceId.any (· ≠ call.response.serviceInstanceId)
  { client.advance call (if changed then .draining else .releasing []) with
    serviceInstanceId := some call.response.serviceInstanceId }

/-- The second lock region of `adoptServiceInstance`. -/
def drain (client : AccountServiceClient) (call : AuthenticationCall) : AccountServiceClient :=
  { client.advance call (.releasing (client.leases.values.map LeaseState.revoke)) with
    leases := ∅
    discarded := client.discarded ++
      client.leases.values.map fun lease => (lease, client.serviceInstanceId) }

/-- `releaseController`, of one lease that the call has taken out. -/
def releaseNext (client : AccountServiceClient) (call : AuthenticationCall) :
    List LeaseState → AccountServiceClient
  | [] => client
  | lease :: rest =>
    { client.advance call (.releasing rest) with
      controllers := client.controllers.release lease.accountId lease.controller }

/-- The lock region of `authenticate` that takes the controller of the account. -/
def join (client : AccountServiceClient) (call : AuthenticationCall) : AccountServiceClient :=
  { client.advance call (.revising (client.controllers.reference call.response.accountId)) with
    controllers := client.controllers.acquire call.response.accountId (.new call.response) }

/-- `AccountTrafficController::update`, of a controller that is in use. -/
def updateController (client : AccountServiceClient) (controller : Nat)
    (revision upload download : Int) : AccountServiceClient :=
  { client with
    controllers := client.controllers.adjust controller (·.update revision upload download) }

def revise (client : AccountServiceClient) (call : AuthenticationCall) (controller : Nat) :
    AccountServiceClient :=
  (client.advance call (.inserting controller)).updateController controller
    call.response.policyRevision call.response.maxUploadBytesPerSecond
    call.response.maxDownloadBytesPerSecond

/-- The end of `authenticate`. -/
def insert (client : AccountServiceClient) (call : AuthenticationCall) (controller : Nat) :
    AccountServiceClient :=
  { client with
    calls := client.calls.erase call.response.leaseId
    leases := client.leases.insert call.response.leaseId (call.lease controller)
    entered := client.entered ++ [call.response.leaseId] }

/-! ### Synchronisation -/

/-- `buildSynchronizationRequest` has taken the lock; the hash map lists its leases in an order
of its own. -/
def beginBatch (client : AccountServiceClient) (batchId : String) (order : List String) :
    AccountServiceClient :=
  match order.head?.bind client.leases.get? with
  | none => client
  | some first =>
    if order.Perm client.leaseIds then
      { client with
        worker := .building
          { serviceInstanceId := first.serviceInstanceId, batchId, leases := [] }
          none none order }
    else client

/-- The next atomic load of `buildSynchronizationRequest`, of the first remaining lease. -/
def load (request : SynchronizationRequest) (uploaded downloaded : Option Nat)
    (lease : LeaseState) (rest : List String) : WorkerPhase :=
  match uploaded, downloaded with
  | none, _ => .building request (some lease.uploadedBytes) none (lease.leaseId :: rest)
  | some uploaded, none =>
    .building request (some uploaded) (some lease.downloadedBytes) (lease.leaseId :: rest)
  | some uploaded, some downloaded =>
    .building
      { request with
        leases := request.leases ++
          [{ leaseId := lease.leaseId
             connectionId := lease.connectionId
             uploadedBytes := uploaded
             downloadedBytes := downloaded
             final := lease.finalPending }] }
      none none rest

/-- The batch is complete and the lock is given back. -/
def send (client : AccountServiceClient) (request : SynchronizationRequest) :
    AccountServiceClient :=
  { client with
    worker := .sent request
    batches := client.batches ++ [(request, client.leaseIds)] }

/-- A response to the batch; one of another instance is a failure of the round. -/
def answer (client : AccountServiceClient) (request : SynchronizationRequest)
    (response : SynchronizationResponse) : AccountServiceClient :=
  if response.serviceInstanceId = request.serviceInstanceId then
    { client with worker := .applying request response.leases none }
  else client

/-- The final report of a lease in a batch. -/
def finalReport? (request : SynchronizationRequest) (leaseId : String) : Option LeaseProgress :=
  request.leases.find? fun progress => progress.leaseId = leaseId ∧ progress.final = true

/-- One result of a response, up to the release of the controller. -/
def applyResult (client : AccountServiceClient) (request : SynchronizationRequest)
    (result : SynchronizationResult) (rest : List SynchronizationResult) : AccountServiceClient :=
  match client.leases.get? result.leaseId with
  | none => { client with worker := .applying request rest none }
  | some lease =>
    let updated := client.updateController lease.controller result.policyRevision
      result.maxUploadBytesPerSecond result.maxDownloadBytesPerSecond
    let current := if result.revoked then lease.revoke else lease
    match finalReport? request result.leaseId with
    | none =>
      { updated with
        leases := client.leases.insert result.leaseId current
        worker := .applying request rest none }
    | some report =>
      { updated with
        leases := client.leases.erase result.leaseId
        worker := .applying request rest (some current)
        reported := client.reported ++ [(current, report)] }

/-- `releaseController`, of a lease whose final report was confirmed. -/
def releaseConfirmed (client : AccountServiceClient) (request : SynchronizationRequest)
    (results : List SynchronizationResult) (lease : LeaseState) : AccountServiceClient :=
  { client with
    controllers := client.controllers.release lease.accountId lease.controller
    worker := .applying request results none }

/-- The round has failed: the leases of the batch are revoked. -/
def giveUp (client : AccountServiceClient) (request : SynchronizationRequest) :
    AccountServiceClient :=
  { client with
    leases := request.leases.foldl (fun leases progress =>
      leases.modify progress.leaseId LeaseState.revoke) client.leases
    worker := .idle }

/-! ### Steps -/

inductive Action where
  | respond (connectionId : String) (response : AuthenticationResponse)
  | adopt (leaseId : String)
  | drain (leaseId : String)
  | releaseNext (leaseId : String)
  | join (leaseId : String)
  | revise (leaseId : String)
  | insert (leaseId : String)
  | beginBatch (batchId : String) (order : List String)
  | load
  | send
  | answer (response : SynchronizationResponse)
  | applyNext
  | giveUp
  | record (leaseId : String) (direction : TrafficDirection) (byteCount : Nat)
  | finish (leaseId : String)

/-- A step of an authentication, in the phase that it stands in. -/
def stepCall (client : AccountServiceClient) (action : Action) (call : AuthenticationCall) :
    AccountServiceClient :=
  match action, call.phase with
  | .adopt _, .adopting => client.adopt call
  | .drain _, .draining => if client.worker.locksLeases then client else client.drain call
  | .releaseNext _, .releasing removed => client.releaseNext call removed
  | .join _, .releasing [] => client.join call
  | .revise _, .revising controller => client.revise call controller
  | .insert _, .inserting controller =>
    if client.worker.locksLeases then client else client.insert call controller
  | _, _ => client

/-- A step of the authentication that a lease id belongs to. -/
def stepAuthentication (client : AccountServiceClient) (action : Action) (leaseId : String) :
    AccountServiceClient :=
  match client.calls.get? leaseId with
  | some call => client.stepCall action call
  | none => client

/-- A step of the worker. -/
def stepWorker (client : AccountServiceClient) (action : Action) : AccountServiceClient :=
  match action, client.worker with
  | .beginBatch batchId order, .idle => client.beginBatch batchId order
  | .load, .building request uploaded downloaded (leaseId :: rest) =>
    match client.leases.get? leaseId with
    | some lease => { client with worker := load request uploaded downloaded lease rest }
    | none => client
  | .send, .building request _ _ [] => client.send request
  | .answer response, .sent request => client.answer request response
  | .applyNext, .applying request results (some lease) =>
    client.releaseConfirmed request results lease
  | .applyNext, .applying request (result :: rest) none => client.applyResult request result rest
  | .applyNext, .applying _ [] none => { client with worker := .idle }
  | .giveUp, .sent request => client.giveUp request
  | _, _ => client

def step (client : AccountServiceClient) (action : Action) : AccountServiceClient :=
  match action with
  | .respond connectionId response => client.respond connectionId response
  | .adopt leaseId | .drain leaseId | .releaseNext leaseId | .join leaseId | .revise leaseId
  | .insert leaseId => client.stepAuthentication action leaseId
  | .record leaseId direction byteCount =>
    { client with leases := client.leases.modify leaseId (·.record direction byteCount) }
  | .finish leaseId => { client with leases := client.leases.modify leaseId LeaseState.finish }
  | _ => client.stepWorker action

/-- The runs of a client from its start. -/
def machine : Machine AccountServiceClient Action where
  initial := new
  step := step

end AccountServiceClient

end SprakCapture.Socks5
