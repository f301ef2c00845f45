import SprakCapture.AccountService.UsageStore
import SprakCapture.Data.IpText

/-!
# Lease registry

The registry keeps the leases of the running service in memory: what each has reported, what of
it is in the database, and a window of batches that have been answered. A method is one region
of its lock.

Lease ids are UUIDs. The digest of a request is a parameter.
-/

namespace SprakCapture.AccountService

open Data Data.IpText

/-! ### Messages -/

structure LeaseAuthenticationRequest where
  connectionId : String
  username : String
  password : String
  sourceIp : String
deriving DecidableEq

structure LeaseProgress where
  leaseId : String
  connectionId : String
  uploadedBytes : Nat
  downloadedBytes : Nat
  final : Bool
deriving DecidableEq

structure LeaseSynchronizationRequest where
  serviceInstanceId : String
  batchId : String
  leases : List LeaseProgress
deriving DecidableEq

structure LeaseSynchronizationResult where
  leaseId : String
  acknowledgedUploadedBytes : Nat
  acknowledgedDownloadedBytes : Nat
  policyRevision : Int
  maxUploadBytesPerSecond : Int
  maxDownloadBytesPerSecond : Int
  revoked : Bool
  errorCode : Option String
deriving DecidableEq

structure LeaseSynchronizationResponse where
  serviceInstanceId : String
  batchId : String
  leases : List LeaseSynchronizationResult
deriving DecidableEq

inductive AccountServiceError where
  | accountNotFound
  | socksAuthenticationFailed
  | validation (message : String)
  | stateConflict (message : String)
  | database
deriving DecidableEq

/-! ### State -/

structure LeaseState where
  leaseId : String
  accountId : String
  connectionId : String
  sourceIp : String
  lastHeartbeatAt : Int
  policy : AccountPolicy
  policyRevision : Int
  uploadedBytes : Nat
  downloadedBytes : Nat
  persistedUploadedBytes : Nat
  persistedDownloadedBytes : Nat
  finalPending : Bool
  revoked : Bool
deriving DecidableEq

structure BatchRecord (Digest : Type) where
  requestDigest : Digest
  response : LeaseSynchronizationResponse
deriving DecidableEq

structure LeaseRegistry (Digest : Type) where
  leases : Table String LeaseState
  batches : Table String (BatchRecord Digest)
  batchOrder : List String

def leaseHeartbeatTimeoutMilliseconds : Int := 8000

def maximumRememberedBatches : Nat := 4096

/-! ### Leases -/

/-- The text of a source; an IPv4 address in IPv6 form counts as that address. -/
def normalizeSourceIp (sourceIp : String) : Except AccountServiceError String :=
  match IpAddr.parse sourceIp.toList with
  | none => .error (.validation "sourceIp 不是有效 IP 地址")
  | some (.v4 address) => .ok (String.ofList (IpAddr.formatIpv4 address.toNat))
  | some (.v6 groups) =>
    if isIpv4Mapped groups then
      .ok (String.ofList (IpAddr.formatIpv4 (groups.getD 6 0 * 65536 + groups.getD 7 0)))
    else .ok (String.ofList (IpAddr.formatIpv6 groups))

def LeaseState.timedOut (lease : LeaseState) (now : Int) : Bool :=
  leaseHeartbeatTimeoutMilliseconds < now - lease.lastHeartbeatAt

/-- The lease has traffic that is not in the database. -/
def LeaseState.hasPending (lease : LeaseState) : Bool :=
  lease.uploadedBytes ≠ lease.persistedUploadedBytes ||
    lease.downloadedBytes ≠ lease.persistedDownloadedBytes

/-- Drop the leases that have timed out; one with pending traffic waits for its commit. -/
def purgeExpiredLeases (leases : Table String LeaseState) (now : Int) : Table String LeaseState :=
  let marked := leases.mapValues fun lease =>
    if lease.timedOut now then { lease with revoked := true, finalPending := true } else lease
  marked.retain fun _ lease => !lease.timedOut now || lease.hasPending

def activeLeases (leases : Table String LeaseState) (accountId : String) : List LeaseState :=
  leases.values.filter fun lease => lease.accountId = accountId && !lease.revoked

def onlineIps (leases : List LeaseState) : List String := (leases.map (·.sourceIp)).dedup

def missingLeaseResult (leaseId : String) : LeaseSynchronizationResult where
  leaseId := leaseId
  acknowledgedUploadedBytes := 0
  acknowledgedDownloadedBytes := 0
  policyRevision := 0
  maxUploadBytesPerSecond := 0
  maxDownloadBytesPerSecond := 0
  revoked := true
  errorCode := some "leaseNotFound"

/-- The result that acknowledges the totals of a lease. -/
def LeaseState.result (lease : LeaseState) (revoked : Bool) (errorCode : Option String) :
    LeaseSynchronizationResult where
  leaseId := lease.leaseId
  acknowledgedUploadedBytes := lease.uploadedBytes
  acknowledgedDownloadedBytes := lease.downloadedBytes
  policyRevision := lease.policyRevision
  maxUploadBytesPerSecond := lease.policy.maxUploadBytesPerSecond
  maxDownloadBytesPerSecond := lease.policy.maxDownloadBytesPerSecond
  revoked := revoked
  errorCode := errorCode

/-- One report of a batch. Totals that go back revoke the lease and are not taken. -/
def synchronizeLease (now : Int) (leases : Table String LeaseState) (progress : LeaseProgress) :
    Table String LeaseState × LeaseSynchronizationResult :=
  match leases.get? progress.leaseId with
  | none => (leases, missingLeaseResult progress.leaseId)
  | some lease =>
    if lease.connectionId ≠ progress.connectionId then
      (leases, missingLeaseResult progress.leaseId)
    else if progress.uploadedBytes < lease.uploadedBytes ∨
        progress.downloadedBytes < lease.downloadedBytes then
      (leases.insert progress.leaseId { lease with revoked := true },
        lease.result true (some "nonMonotonicUsage"))
    else
      let updated := { lease with
        uploadedBytes := progress.uploadedBytes
        downloadedBytes := progress.downloadedBytes
        lastHeartbeatAt := now
        revoked := lease.revoked || lease.policy.disabled || lease.policy.expired now }
      (leases.insert progress.leaseId
          { updated with finalPending := updated.finalPending || progress.final },
        updated.result updated.revoked none)

/-- The reports of a batch, in order. -/
def synchronizeLeases (now : Int) (leases : Table String LeaseState) :
    List LeaseProgress → Table String LeaseState × List LeaseSynchronizationResult
  | [] => (leases, [])
  | progress :: rest =>
    let (leases, result) := synchronizeLease now leases progress
    let (leases, results) := synchronizeLeases now leases rest
    (leases, result :: results)

/-! ### Pending usage -/

def maximumIncrement : Nat := 2 ^ 63 - 1

/-- Add the pending traffic of one lease to the increment of its account. -/
def addPending (usageByAccount : Table String UsageIncrement) (lease : LeaseState) :
    Table String UsageIncrement :=
  let uploadedDelta := lease.uploadedBytes - lease.persistedUploadedBytes
  let downloadedDelta := lease.downloadedBytes - lease.persistedDownloadedBytes
  if uploadedDelta = 0 ∧ downloadedDelta = 0 then usageByAccount
  else
    let usage := (usageByAccount.get? lease.accountId).getD {}
    usageByAccount.insert lease.accountId
      { usage with
        uploadedBytes :=
          min (usage.uploadedBytes + min uploadedDelta maximumIncrement) maximumIncrement
        downloadedBytes :=
          min (usage.downloadedBytes + min downloadedDelta maximumIncrement) maximumIncrement }

/-- The traffic of all leases that is not in the database, by account. -/
def pendingUsage (leases : Table String LeaseState) : Table String UsageIncrement :=
  leases.values.foldl addPending ∅

namespace LeaseRegistry

variable {Digest : Type} [DecidableEq Digest]

def new : LeaseRegistry Digest where
  leases := ∅
  batches := ∅
  batchOrder := []

/-- Remember a batch; a full window loses its oldest. -/
def rememberBatch (registry : LeaseRegistry Digest) (batchId : String) (record : BatchRecord Digest) :
    LeaseRegistry Digest :=
  let room : LeaseRegistry Digest :=
    match registry.batchOrder with
    | expired :: rest =>
      if maximumRememberedBatches ≤ registry.batches.size then
        { registry with batches := registry.batches.erase expired, batchOrder := rest }
      else registry
    | [] => registry
  { room with
    batches := room.batches.insert batchId record
    batchOrder := room.batchOrder ++ [batchId] }

/-- Create a lease within the limits of its account. Also a refused one purges. -/
def createLease (registry : LeaseRegistry Digest) (account : StoredAccount)
    (request : LeaseAuthenticationRequest) (now : Int) (leaseId : String) :
    LeaseRegistry Digest × Except AccountServiceError Unit :=
  match normalizeSourceIp request.sourceIp with
  | .error error => (registry, .error error)
  | .ok sourceIp =>
    let purged := { registry with leases := purgeExpiredLeases registry.leases now }
    let accountLeases := activeLeases purged.leases account.accountId
    let online := onlineIps accountLeases
    if 0 < account.policy.maxConnections ∧ account.policy.maxConnections ≤ accountLeases.length then
      (purged, .error .socksAuthenticationFailed)
    else if sourceIp ∉ online ∧ 0 < account.policy.maxOnlineIps ∧
        account.policy.maxOnlineIps ≤ online.length then
      (purged, .error .socksAuthenticationFailed)
    else
      ({ purged with
          leases := purged.leases.insert leaseId
            { leaseId
              accountId := account.accountId
              connectionId := request.connectionId
              sourceIp
              lastHeartbeatAt := now
              policy := account.policy
              policyRevision := account.policyRevision
              uploadedBytes := 0
              downloadedBytes := 0
              persistedUploadedBytes := 0
              persistedDownloadedBytes := 0
              finalPending := false
              revoked := false } },
        .ok ())

/-- Answer a batch. A remembered one is answered as before; both come with what is pending. -/
def synchronize (digest : LeaseSynchronizationRequest → Digest) (serviceInstanceId : String)
    (registry : LeaseRegistry Digest) (request : LeaseSynchronizationRequest) (now : Int) :
    Except AccountServiceError
      (LeaseRegistry Digest × LeaseSynchronizationResponse × Table String UsageIncrement) :=
  if request.serviceInstanceId ≠ serviceInstanceId then
    .error (.stateConflict "账号服务实例标识已变化")
  else match registry.batches.get? request.batchId with
    | some record =>
      if record.requestDigest ≠ digest request then
        .error (.stateConflict "同一批次标识提交了不同租约内容")
      else .ok (registry, record.response, pendingUsage registry.leases)
    | none =>
      let (leases, results) :=
        synchronizeLeases now (purgeExpiredLeases registry.leases now) request.leases
      let response : LeaseSynchronizationResponse :=
        { serviceInstanceId, batchId := request.batchId, leases := results }
      let remembered := { registry with leases }.rememberBatch request.batchId
        { requestDigest := digest request, response }
      .ok (remembered, response, pendingUsage leases)

/-- Everything pending is in the database: move the watermarks and drop the final leases. -/
def confirmUsageCommitted (registry : LeaseRegistry Digest) (batchId : String) :
    Except AccountServiceError (LeaseRegistry Digest) :=
  if registry.batches.contains batchId then
    let settled := registry.leases.mapValues fun lease =>
      { lease with
        persistedUploadedBytes := lease.uploadedBytes
        persistedDownloadedBytes := lease.downloadedBytes }
    .ok { registry with leases := settled.retain fun _ lease => !lease.finalPending }
  else .error (.stateConflict "租约同步批次已经离开幂等窗口")

/-- Give the leases of an account its new policy; revoke them when they exceed it. -/
def reconcileAccount (registry : LeaseRegistry Digest) (account : StoredAccount)
    (serverTime : Int) : LeaseRegistry Digest :=
  let active := activeLeases registry.leases account.accountId
  let exceedsConnections :=
    0 < account.policy.maxConnections && account.policy.maxConnections < active.length
  let exceedsIps :=
    0 < account.policy.maxOnlineIps && account.policy.maxOnlineIps < (onlineIps active).length
  let revokeAll := account.policy.disabled || account.policy.expired serverTime ||
    exceedsConnections || exceedsIps
  { registry with
    leases := registry.leases.mapValues fun lease =>
      if lease.accountId = account.accountId then
        { lease with
          policy := account.policy
          policyRevision := account.policyRevision
          revoked := lease.revoked || revokeAll }
      else lease }

def revokeAccount (registry : LeaseRegistry Digest) (accountId : String) : LeaseRegistry Digest :=
  { registry with
    leases := registry.leases.mapValues fun lease =>
      if lease.accountId = accountId && !lease.revoked then { lease with revoked := true }
      else lease }

def removeAccount (registry : LeaseRegistry Digest) (accountId : String) : LeaseRegistry Digest :=
  { registry with leases := registry.leases.retain fun _ lease => lease.accountId ≠ accountId }

/-- Every view of the leases purges first. -/
def purge (registry : LeaseRegistry Digest) (now : Int) : LeaseRegistry Digest :=
  { registry with leases := purgeExpiredLeases registry.leases now }

end LeaseRegistry

end SprakCapture.AccountService
