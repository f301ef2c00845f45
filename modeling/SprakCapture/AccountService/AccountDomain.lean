import SprakCapture.AccountService.LeaseRegistry
import SprakCapture.Data.Machine

/-!
# Operations of the account service

Authentication, synchronisation and changes of accounts hold one lock from their first region
to their last, so that there is one such operation at a time. Disconnecting an account and
reading the leases do not take it and may come between two regions. The service is a machine
whose steps are the regions of the registry and the transactions of the database; a transaction
commits or changes nothing.
-/

namespace SprakCapture.AccountService

open Data

/-- Where the operation that holds the lock stands. -/
inductive Operation where
  | idle
  /-- An authentication has been refused and is yet to be counted. -/
  | rejecting (accountId : String)
  /-- A lease has been created and is yet to be counted. -/
  | accepting (accountId : String)
  /-- A batch has its response, and its usage is yet to be written. -/
  | applying (request : LeaseSynchronizationRequest) (response : LeaseSynchronizationResponse)
      (usage : Table String UsageIncrement)
  /-- The usage of a batch is written, and the registry is yet to be told. -/
  | confirming (request : LeaseSynchronizationRequest) (response : LeaseSynchronizationResponse)
  /-- Accounts have new policies, and their leases are yet to get them. -/
  | reconciling (accounts : List StoredAccount)
  | revoking (accountId : String)
  | removing (accountIds : List String)

/-- The service. The last fields are history: the leases that were created with their accounts,
the batches that were not answered from the window with their responses, what each call of
`synchronizeLeases` returned, and the accounts that were deleted. -/
structure AccountDomain (Digest : Type) where
  store : AccountStore
  registry : LeaseRegistry Digest
  serviceInstanceId : String
  operation : Operation
  created : List (String × String)
  processed : List (LeaseSynchronizationRequest × LeaseSynchronizationResponse)
  answers : List (LeaseSynchronizationRequest ×
    Except AccountServiceError LeaseSynchronizationResponse)
  deleted : List String

/-- What the service takes from outside: the digest of requests and the check of passwords. -/
structure Cryptography (Digest : Type) where
  digest : LeaseSynchronizationRequest → Digest
  verifyPassword : String → String → String → Bool

inductive AccountAction where
  | createAccount (account : StoredAccount) (now : Int)
  | updateAccounts (changes : List (String × Int × Option AccountPolicy))
  | reconcile (now : Int)
  | replacePassword (accountId : String) (password : Option (String × String))
  | revoke
  | deleteAccount (accountId : String)
  | deleteAccounts (selections : List (String × Int))
  | remove
  | authenticate (request : LeaseAuthenticationRequest) (now : Int) (leaseId : String)
  | synchronize (request : LeaseSynchronizationRequest) (now : Int)
  | applyUsage (now : Int) (commits : Bool)
  | confirm
  | disconnect (accountId : String)
  | view (now : Int)

/-- An authentication is valid for an account that is enabled, by its password if it has one. -/
def validateAccountAuthentication (verifyPassword : String → String → String → Bool)
    (account : StoredAccount) (password : String) (serverTime : Int) : Bool :=
  !password.isEmpty && !account.policy.disabled && !account.policy.expired serverTime &&
    match account.password with
    | none => true
    | some (hash, salt) => verifyPassword password hash salt

namespace AccountDomain

variable {Digest : Type}

def new (store : AccountStore) (serviceInstanceId : String) : AccountDomain Digest where
  store := store
  registry := .new
  serviceInstanceId := serviceInstanceId
  operation := .idle
  created := []
  processed := []
  answers := []
  deleted := []

/-! ### Operations on accounts -/

def createAccount (domain : AccountDomain Digest) (account : StoredAccount) (now : Int) :
    AccountDomain Digest :=
  match domain.store.createAccount account now with
  | some store => { domain with store }
  | none => domain

def updateAccounts (domain : AccountDomain Digest)
    (changes : List (String × Int × Option AccountPolicy)) : AccountDomain Digest :=
  match domain.store.updateAccountsBatch changes with
  | some (store, accounts) => { domain with store, operation := .reconciling accounts }
  | none => domain

def reconcile (domain : AccountDomain Digest) (accounts : List StoredAccount) (now : Int) :
    AccountDomain Digest :=
  match accounts with
  | [] => { domain with operation := .idle }
  | account :: rest =>
    { domain with
      registry := domain.registry.reconcileAccount account now
      operation := .reconciling rest }

def replacePassword (domain : AccountDomain Digest) (accountId : String)
    (password : Option (String × String)) : AccountDomain Digest :=
  match domain.store.replaceAccountPassword accountId password with
  | some store => { domain with store, operation := .revoking accountId }
  | none => domain

def deleteAccount (domain : AccountDomain Digest) (accountId : String) : AccountDomain Digest :=
  match domain.store.deleteAccount accountId with
  | some store =>
    { domain with
      store
      operation := .removing [accountId]
      deleted := accountId :: domain.deleted }
  | none => domain

def deleteAccounts (domain : AccountDomain Digest) (selections : List (String × Int)) :
    AccountDomain Digest :=
  match domain.store.deleteAccountsBatch selections with
  | some store =>
    { domain with
      store
      operation := .removing (selections.map Prod.fst)
      deleted := selections.map Prod.fst ++ domain.deleted }
  | none => domain

def remove (domain : AccountDomain Digest) (accountIds : List String) : AccountDomain Digest :=
  match accountIds with
  | [] => { domain with operation := .idle }
  | accountId :: rest =>
    { domain with
      registry := domain.registry.removeAccount accountId
      operation := .removing rest }

/-! ### Authentication and synchronisation -/

/-- `authenticateLease` up to its transaction. -/
def authenticate (cryptography : Cryptography Digest) (domain : AccountDomain Digest)
    (request : LeaseAuthenticationRequest) (now : Int) (leaseId : String) : AccountDomain Digest :=
  match domain.store.accountByUsername request.username with
  | none => domain
  | some account =>
    if !validateAccountAuthentication cryptography.verifyPassword account request.password now
    then { domain with operation := .rejecting account.accountId }
    else if leaseId ∈ domain.created.map Prod.fst then domain
    else match domain.registry.createLease account request now leaseId with
      | (registry, .error _) => { domain with registry }
      | (registry, .ok ()) =>
        { domain with
          registry
          operation := .accepting account.accountId
          created := (leaseId, account.accountId) :: domain.created }

/-- `synchronizeLeases` up to its transaction. -/
def synchronize [DecidableEq Digest] (cryptography : Cryptography Digest)
    (domain : AccountDomain Digest) (request : LeaseSynchronizationRequest) (now : Int) :
    AccountDomain Digest :=
  match domain.registry.synchronize cryptography.digest domain.serviceInstanceId request now with
  | .error error => { domain with answers := (request, .error error) :: domain.answers }
  | .ok (registry, response, usage) =>
    { domain with
      registry
      operation := .applying request response usage
      processed :=
        if domain.registry.batches.contains request.batchId then domain.processed
        else (request, response) :: domain.processed }

/-- The transaction of `applyUsage`; without usage there is none. -/
def commitUsage (domain : AccountDomain Digest) (usage : Table String UsageIncrement) (now : Int)
    (commits : Bool) : Option AccountStore :=
  if usage.size = 0 then some domain.store
  else if commits then domain.store.applyUsage usage now
  else none

/-- Write one increment of an authentication; it ends whether or not that succeeds. -/
def countAuthentication (domain : AccountDomain Digest) (accountId : String)
    (increment : UsageIncrement) (now : Int) (commits : Bool) : AccountDomain Digest :=
  { domain with
    store := (domain.commitUsage (Table.insert ∅ accountId increment) now commits).getD domain.store
    operation := .idle }

/-- The transaction of the current operation. -/
def applyUsage (domain : AccountDomain Digest) (now : Int) (commits : Bool) :
    AccountDomain Digest :=
  match domain.operation with
  | .rejecting accountId =>
    domain.countAuthentication accountId { rejectedAuthentications := 1 } now commits
  | .accepting accountId =>
    domain.countAuthentication accountId { acceptedConnections := 1 } now commits
  | .applying request response usage =>
    match domain.commitUsage usage now commits with
    | some store => { domain with store, operation := .confirming request response }
    | none =>
      { domain with
        operation := .idle
        answers := (request, .error .database) :: domain.answers }
  | _ => domain

/-- The end of `synchronizeLeases`. -/
def confirm (domain : AccountDomain Digest) (request : LeaseSynchronizationRequest)
    (response : LeaseSynchronizationResponse) : AccountDomain Digest :=
  match domain.registry.confirmUsageCommitted request.batchId with
  | .ok registry =>
    { domain with
      registry
      operation := .idle
      answers := (request, .ok response) :: domain.answers }
  | .error error =>
    { domain with
      operation := .idle
      answers := (request, .error error) :: domain.answers }

/-! ### Steps -/

/-- The first region of an operation, which takes the lock. -/
def begin [DecidableEq Digest] (cryptography : Cryptography Digest)
    (domain : AccountDomain Digest) : AccountAction → AccountDomain Digest
  | .createAccount account now => domain.createAccount account now
  | .updateAccounts changes => domain.updateAccounts changes
  | .replacePassword accountId password => domain.replacePassword accountId password
  | .deleteAccount accountId => domain.deleteAccount accountId
  | .deleteAccounts selections => domain.deleteAccounts selections
  | .authenticate request now leaseId => domain.authenticate cryptography request now leaseId
  | .synchronize request now => domain.synchronize cryptography request now
  | _ => domain

/-- The next region of the current operation, or a region of a task without the lock. -/
def step [DecidableEq Digest] (cryptography : Cryptography Digest)
    (domain : AccountDomain Digest) (action : AccountAction) : AccountDomain Digest :=
  match action, domain.operation with
  | .disconnect accountId, _ =>
    if domain.store.accounts.contains accountId then
      { domain with registry := domain.registry.revokeAccount accountId }
    else domain
  | .view now, _ => { domain with registry := domain.registry.purge now }
  | .applyUsage now commits, _ => domain.applyUsage now commits
  | .confirm, .confirming request response => domain.confirm request response
  | .reconcile now, .reconciling accounts => domain.reconcile accounts now
  | .revoke, .revoking accountId =>
    { domain with
      registry := domain.registry.revokeAccount accountId
      operation := .idle }
  | .remove, .removing accountIds => domain.remove accountIds
  | action, .idle => domain.begin cryptography action
  | _, _ => domain

end AccountDomain

/-- The service from its start on a database. -/
def accountMachine {Digest : Type} [DecidableEq Digest] (cryptography : Cryptography Digest)
    (store : AccountStore) (serviceInstanceId : String) :
    Machine (AccountDomain Digest) AccountAction where
  initial := .new store serviceInstanceId
  step := AccountDomain.step cryptography

end SprakCapture.AccountService
