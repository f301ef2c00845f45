import SprakCapture.AccountService.AccountDomain
import SprakCapture.AccountService.LeaseMethods

/-!
# Traffic is counted once

At every moment the counter of an account and the pending traffic of its leases make up what
was acknowledged. The one moment when they make up more is between a transaction and the report
to the registry that it is done, when the counter alone has it all.
-/

namespace SprakCapture.AccountService

open Data List AccountDomain AccountStore LeaseRegistry

variable {Digest : Type}

/-! ### What was acknowledged and what is written -/

/-- The transaction of a batch is done, and the registry does not know. -/
def Operation.Written : Operation → Prop
  | .confirming _ _ => True
  | _ => False

/-- The operation is not a synchronisation. -/
def Operation.Quiet : Operation → Prop
  | .applying _ _ _ => False
  | .confirming _ _ => False
  | _ => True

namespace AccountDomain

/-- All results of batches that were not answered from the window. -/
def acknowledged (domain : AccountDomain Digest) : List LeaseSynchronizationResult :=
  domain.processed.flatMap fun batch => batch.2.leases

/-- The sum, over the leases that were created for an account, of the largest total that was
acknowledged for the lease. -/
def acknowledgedTotal (domain : AccountDomain Digest) (accountId : String)
    (direction : Direction) : Nat :=
  createdTotal domain.created accountId (largestAcknowledged domain.acknowledged · direction)

/-- The part of an account's total that is in the database. -/
def inDatabase (domain : AccountDomain Digest) (accountId : String) (direction : Direction) : Nat :=
  match domain.operation with
  | .confirming _ _ => domain.acknowledgedTotal accountId direction
  | _ =>
    createdTotal domain.created accountId
      (settled domain.registry.leases domain.acknowledged · direction)

/-- A batch that was not answered from the window has this response. -/
def Answered (digest : LeaseSynchronizationRequest → Digest) (domain : AccountDomain Digest)
    (batchId : String) (record : BatchRecord Digest) : Prop :=
  ∃ original, (original, record.response) ∈ domain.processed ∧ original.batchId = batchId ∧
    original.serviceInstanceId = domain.serviceInstanceId ∧ digest original = record.requestDigest

theorem inDatabase_of_not_written {domain : AccountDomain Digest}
    (notWritten : ¬domain.operation.Written) (accountId : String) (direction : Direction) :
    domain.inDatabase accountId direction =
      createdTotal domain.created accountId
        (settled domain.registry.leases domain.acknowledged · direction) := by
  rw [inDatabase]
  split
  · next isConfirming =>
      rw [isConfirming] at notWritten
      exact absurd trivial notWritten
  · rfl

end AccountDomain

theorem Operation.Quiet.not_written {operation : Operation} (quiet : operation.Quiet) :
    ¬operation.Written := by
  cases operation <;> first | exact id | exact quiet.elim

/-- The books of the service: what the database has grown by since the start. -/
structure Balanced (digest : LeaseSynchronizationRequest → Digest) (start : AccountStore)
    (domain : AccountDomain Digest) : Prop where
  books : Books domain.registry.leases domain.created domain.acknowledged
  consistent : domain.store.Consistent
  counted : ∀ accountId direction, accountId ∉ domain.deleted →
    domain.acknowledgedTotal accountId direction ≤ maximumIncrement →
      domain.store.counted accountId direction.column =
        start.counted accountId direction.column + domain.inDatabase accountId direction
  usage : ∀ request response usage, domain.operation = .applying request response usage →
    ∀ accountId direction, accountId ∉ domain.deleted →
      incrementOf usage accountId direction.column =
        min maximumIncrement (pendingTotal domain.registry.leases accountId direction)
  applying : ∀ request response usage, domain.operation = .applying request response usage →
    domain.registry.batches.get? request.batchId =
      some { requestDigest := digest request, response }
  confirming : ∀ request response, domain.operation = .confirming request response →
    domain.registry.batches.get? request.batchId =
      some { requestDigest := digest request, response }
  answered : ∀ batchId record, domain.registry.batches.get? batchId = some record →
    domain.Answered digest batchId record
  removing : ∀ accountIds, domain.operation = .removing accountIds →
    ∀ accountId ∈ accountIds, accountId ∈ domain.deleted

namespace Balanced

variable {cryptography : Cryptography Digest} {digest : LeaseSynchronizationRequest → Digest}
  {start : AccountStore} {domain after : AccountDomain Digest}

/-- A step that reports nothing and settles nothing. It may change the operation to one that is
not a synchronisation, unless the registry still has to hear of a transaction. -/
theorem keep (balanced : Balanced digest start domain)
    (keeps : Keeps after.deleted domain.registry.leases after.registry.leases)
    (batches : after.registry.batches = domain.registry.batches)
    (created : after.created = domain.created) (processed : after.processed = domain.processed)
    (instanceId : after.serviceInstanceId = domain.serviceInstanceId)
    (deleted : ∀ accountId ∈ domain.deleted, accountId ∈ after.deleted)
    (consistent : after.store.Consistent)
    (counted : ∀ accountId (direction : Direction), accountId ∉ after.deleted →
      after.store.counted accountId direction.column =
        domain.store.counted accountId direction.column)
    (operation : after.operation = domain.operation ∨
      ¬domain.operation.Written ∧ after.operation.Quiet)
    (removing : ∀ accountIds, after.operation = .removing accountIds →
      ∀ accountId ∈ accountIds, accountId ∈ after.deleted) :
    Balanced digest start after := by
  have acknowledged : after.acknowledged = domain.acknowledged := by
    rw [acknowledged, acknowledged, processed]
  have total : ∀ accountId direction,
      after.acknowledgedTotal accountId direction = domain.acknowledgedTotal accountId direction := by
    simp [acknowledgedTotal, acknowledged, created]
  have isSettled : ∀ accountId direction, accountId ∉ after.deleted →
      createdTotal after.created accountId
          (settled after.registry.leases after.acknowledged · direction) =
        createdTotal domain.created accountId
          (settled domain.registry.leases domain.acknowledged · direction) := by
    intro accountId direction notDeleted
    rw [created, acknowledged]
    exact createdTotal_congr fun _ listed =>
      keeps.settled_eq balanced.books listed notDeleted direction
  have inDatabase : ∀ accountId direction, accountId ∉ after.deleted →
      after.inDatabase accountId direction = domain.inDatabase accountId direction := by
    intro accountId direction notDeleted
    rcases operation with same | ⟨notWritten, quiet⟩
    · rw [inDatabase, inDatabase, same, total, isSettled accountId direction notDeleted]
    · rw [inDatabase_of_not_written quiet.not_written, inDatabase_of_not_written notWritten,
        isSettled accountId direction notDeleted]
  refine
    { books := ?_, consistent, counted := ?_, usage := ?_, applying := ?_, confirming := ?_
      answered := ?_, removing }
  · rw [created, acknowledged]
    exact keeps.books balanced.books
  · intro accountId direction notDeleted bounded
    rw [counted accountId direction notDeleted, inDatabase accountId direction notDeleted]
    exact balanced.counted accountId direction (fun isDeleted => notDeleted (deleted _ isDeleted))
      (total accountId direction ▸ bounded)
  · intro request response usage isApplying accountId direction notDeleted
    rcases operation with same | ⟨_, quiet⟩
    · rw [keeps.pendingTotal_eq balanced.books notDeleted]
      exact balanced.usage request response usage (same ▸ isApplying) accountId direction
        fun isDeleted => notDeleted (deleted _ isDeleted)
    · rw [isApplying] at quiet
      exact quiet.elim
  · intro request response usage isApplying
    rcases operation with same | ⟨_, quiet⟩
    · rw [batches]
      exact balanced.applying request response usage (same ▸ isApplying)
    · rw [isApplying] at quiet
      exact quiet.elim
  · intro request response isConfirming
    rcases operation with same | ⟨_, quiet⟩
    · rw [batches]
      exact balanced.confirming request response (same ▸ isConfirming)
    · rw [isConfirming] at quiet
      exact quiet.elim
  · intro batchId record found
    rw [batches] at found
    rw [Answered, processed, instanceId]
    exact balanced.answered batchId record found

theorem keepLeases (balanced : Balanced digest start domain) (operation : Operation)
    {store : AccountStore} (consistent : store.Consistent)
    (counted : ∀ accountId column, store.counted accountId column =
      domain.store.counted accountId column)
    (notWritten : ¬domain.operation.Written) (quiet : operation.Quiet)
    (notRemoving : ∀ accountIds, operation ≠ .removing accountIds)
    (answers : List (LeaseSynchronizationRequest ×
      Except AccountServiceError LeaseSynchronizationResponse)) :
    Balanced digest start { domain with store, operation, answers } :=
  balanced.keep (.refl _) rfl rfl rfl rfl (fun _ member => member) consistent
    (fun accountId _ _ => counted accountId _) (.inr ⟨notWritten, quiet⟩)
    fun accountIds isRemoving => absurd isRemoving (notRemoving accountIds)

/-! ### Accounts -/

theorem not_written_of_idle (idle : domain.operation = .idle) : ¬domain.operation.Written := by
  rw [idle]
  exact id

variable (balanced : Balanced digest start domain)
include balanced

theorem createAccount (account : StoredAccount) (now : Int) :
    Balanced digest start (domain.createAccount account now) := by
  rw [AccountDomain.createAccount]
  split
  · next _ created =>
      obtain ⟨consistent, _, _, counted⟩ :=
        createAccount_eq_some balanced.consistent created
      exact balanced.keep (.refl _) rfl rfl rfl rfl (fun _ member => member) consistent
        (fun accountId _ _ => counted accountId _) (.inl rfl) balanced.removing
  · exact balanced

variable (idle : domain.operation = .idle)
include idle

theorem updateAccounts (changes : List (String × Int × Option AccountPolicy)) :
    Balanced digest start (domain.updateAccounts changes) := by
  rw [AccountDomain.updateAccounts]
  split
  · next _ accounts updated =>
      have rewrites := rewrites_updateAccountsBatch updated
      exact balanced.keepLeases (.reconciling accounts) (rewrites.consistent balanced.consistent)
        rewrites.counted (not_written_of_idle idle) trivial (by simp) domain.answers
  · exact balanced

variable (accountId : String)

theorem replacePassword (password : Option (String × String)) :
    Balanced digest start (domain.replacePassword accountId password) := by
  rw [AccountDomain.replacePassword]
  split
  · next _ replaced =>
      have rewrites := rewrites_replaceAccountPassword replaced
      exact balanced.keepLeases (.revoking accountId) (rewrites.consistent balanced.consistent)
        rewrites.counted (not_written_of_idle idle) trivial (by simp) domain.answers
  · exact balanced

theorem delete (accountIds : List String) :
    Balanced digest start { domain with
      store := accountIds.foldl AccountStore.removeAccount domain.store
      operation := .removing accountIds
      deleted := accountIds ++ domain.deleted } := by
  obtain ⟨consistent, _, counted⟩ :=
    foldl_removeAccount balanced.consistent accountIds
  refine balanced.keep (.refl _) rfl rfl rfl rfl (fun _ member => mem_append_right _ member)
    consistent (fun accountId _ notDeleted => ?_)
    (.inr ⟨not_written_of_idle idle, trivial⟩) fun _ isRemoving accountId member => ?_
  · exact counted accountId _ fun member => notDeleted (mem_append_left _ member)
  · cases isRemoving
    exact mem_append_left _ member

theorem deleteAccount : Balanced digest start (domain.deleteAccount accountId) := by
  rw [AccountDomain.deleteAccount, AccountStore.deleteAccount]
  by_cases exists_ : domain.store.accounts.contains accountId = true
  · rw [if_pos exists_]
    exact balanced.delete idle [accountId]
  · rw [if_neg exists_]
    exact balanced

theorem deleteAccounts (selections : List (String × Int)) :
    Balanced digest start (domain.deleteAccounts selections) := by
  rw [AccountDomain.deleteAccounts, deleteAccountsBatch]
  split
  · next _ deleted =>
      split at deleted
      · cases deleted
        exact balanced.delete idle (selections.map Prod.fst)
      · cases deleted
  · exact balanced

omit idle

/-- A method of the registry that reports and settles nothing, in an operation on accounts. -/
theorem registry {registry : LeaseRegistry Digest} {operation : Operation}
    (keeps : Keeps domain.deleted domain.registry.leases registry.leases)
    (batches : registry.batches = domain.registry.batches)
    (sameOperation : operation = domain.operation ∨ ¬domain.operation.Written ∧ operation.Quiet)
    (removing : ∀ accountIds, operation = .removing accountIds →
      ∀ accountId ∈ accountIds, accountId ∈ domain.deleted) :
    Balanced digest start { domain with registry, operation } :=
  balanced.keep keeps batches rfl rfl rfl (fun _ member => member) balanced.consistent
    (fun _ _ _ => rfl) sameOperation removing

theorem reconcile {accounts : List StoredAccount}
    (isReconciling : domain.operation = .reconciling accounts) (now : Int) :
    Balanced digest start (domain.reconcile accounts now) := by
  have notWritten : ¬domain.operation.Written := by
    rw [isReconciling]
    exact id
  cases accounts with
  | nil => exact balanced.registry (.refl _) rfl (.inr ⟨notWritten, trivial⟩) (by simp)
  | cons account =>
    exact balanced.registry (.reconcileAccount _ account now) rfl (.inr ⟨notWritten, trivial⟩)
      (by simp)

theorem remove {accountIds : List String} (isRemoving : domain.operation = .removing accountIds) :
    Balanced digest start (domain.remove accountIds) := by
  have notWritten : ¬domain.operation.Written := by
    rw [isRemoving]
    exact id
  have deleted := balanced.removing accountIds isRemoving
  cases accountIds with
  | nil => exact balanced.registry (.refl _) rfl (.inr ⟨notWritten, trivial⟩) (by simp)
  | cons accountId =>
    refine balanced.registry (.removeAccount _ (deleted accountId mem_cons_self)) rfl
      (.inr ⟨notWritten, trivial⟩) fun _ _ _ _ => ?_
    simp_all

/-! ### Authentication -/

omit balanced

theorem commitUsage_eq_some (consistent : domain.store.Consistent)
    {usage : Table String UsageIncrement} {now : Int} {commits : Bool} {store : AccountStore}
    (committed : domain.commitUsage usage now commits = some store) :
    store.Consistent ∧ ∀ accountId column, store.counted accountId column =
      domain.store.counted accountId column + incrementOf usage accountId column := by
  rw [commitUsage] at committed
  split at committed
  · next empty =>
      cases committed
      refine ⟨consistent, fun accountId column => ?_⟩
      rw [incrementOf, Table.size_eq_zero_iff.mp empty]
      rfl
  · split at committed
    · obtain ⟨kept, _, grown⟩ := applyUsage_eq_some consistent committed
      exact ⟨kept, grown⟩
    · cases committed

section

variable (balanced : Balanced digest start domain)
include balanced

theorem countAuthentication (notWritten : ¬domain.operation.Written) (accountId : String)
    {increment : UsageIncrement}
    (noTraffic : ∀ direction : Direction, increment.column direction.column = 0) (now : Int)
    (commits : Bool) :
    Balanced digest start (domain.countAuthentication accountId increment now commits) := by
  rw [AccountDomain.countAuthentication]
  cases committed : domain.commitUsage (Table.insert ∅ accountId increment) now commits with
  | none =>
    exact balanced.keepLeases .idle balanced.consistent (fun _ _ => rfl) notWritten trivial
      (by simp) domain.answers
  | some =>
    obtain ⟨consistent, grown⟩ := commitUsage_eq_some balanced.consistent committed
    refine balanced.keep (.refl _) rfl rfl rfl rfl (fun _ member => member) consistent
      (fun _ direction _ => ?_) (.inr ⟨notWritten, trivial⟩) (by simp)
    rw [Option.getD_some, grown, incrementOf, Table.get?_insert]
    split
    · simp_all
    · rfl

theorem insertLease (notWritten : ¬domain.operation.Written) {registry : LeaseRegistry Digest}
    {lease : LeaseState} (fresh : lease.leaseId ∉ domain.created.map Prod.fst)
    (zero : ∀ direction, lease.total direction = 0 ∧ lease.persisted direction = 0)
    (leases : registry.leases = domain.registry.leases.insert lease.leaseId lease)
    (batches : registry.batches = domain.registry.batches) :
    Balanced digest start { domain with
      registry
      operation := .accepting lease.accountId
      created := (lease.leaseId, lease.accountId) :: domain.created } := by
  have books := balanced.books
  have same : ∀ accountId (amount : String → Nat), amount lease.leaseId = 0 →
      createdTotal ((lease.leaseId, lease.accountId) :: domain.created) accountId amount =
        createdTotal domain.created accountId amount := by
    intro accountId amount isZero
    rw [createdTotal, map_cons, sum_cons, isZero, ite_self, Nat.zero_add]
    rfl
  have absent : domain.registry.leases.get? lease.leaseId = none := by
    cases found : domain.registry.leases.get? lease.leaseId with
    | none => rfl
    | some old => exact absurd (List.mem_map_of_mem (books.known lease.leaseId old found)) fresh
  have isSettled : ∀ accountId (direction : Direction),
      createdTotal ((lease.leaseId, lease.accountId) :: domain.created) accountId
          (settled registry.leases domain.acknowledged · direction) =
        createdTotal domain.created accountId
          (settled domain.registry.leases domain.acknowledged · direction) := by
    intro accountId direction
    rw [leases]
    simp only [books.settled_insert fresh fun direction => (zero direction).2]
    refine same accountId _ ?_
    rw [settled, absent]
    exact books.unseen lease.leaseId direction fresh
  refine
    { books := ?_, consistent := balanced.consistent, counted := ?_, usage := by simp
      applying := by simp, confirming := by simp, answered := ?_, removing := by simp }
  · rw [leases]
    exact books.insert fresh (fun direction => (zero direction).1) fun direction =>
      (zero direction).2
  · intro accountId direction notDeleted bounded
    rw [acknowledgedTotal, same _ _ (books.unseen _ direction fresh)] at bounded
    change domain.store.counted accountId direction.column =
      start.counted accountId direction.column +
        createdTotal ((lease.leaseId, lease.accountId) :: domain.created) accountId
          (settled registry.leases domain.acknowledged · direction)
    rw [isSettled, ← inDatabase_of_not_written notWritten]
    exact balanced.counted accountId direction notDeleted bounded
  · intro batchId record found
    rw [batches] at found
    exact balanced.answered batchId record found

theorem authenticate (idle : domain.operation = .idle) (cryptography : Cryptography Digest)
    (request : LeaseAuthenticationRequest) (now : Int) (leaseId : String) :
    Balanced digest start (domain.authenticate cryptography request now leaseId) := by
  have notWritten := not_written_of_idle idle
  rw [AccountDomain.authenticate]
  split
  · exact balanced
  next account _ =>
    split
    · exact balanced.keepLeases (.rejecting account.accountId) balanced.consistent
        (fun _ _ => rfl) notWritten trivial (by simp) domain.answers
    split
    · exact balanced
    next fresh =>
      obtain ⟨batches, ⟨_, failed, keeps⟩ | ⟨done, _, rfl, account_eq, zero, leases⟩⟩ :=
        createLease_eq domain.deleted domain.registry account request now leaseId
      · split
        · next registry _ result =>
            rw [result] at batches keeps
            exact balanced.registry keeps batches (.inl rfl) balanced.removing
        · next result =>
            rw [result] at failed
            cases failed
      · split
        · next result =>
            rw [result] at done
            cases done
        next registry result =>
          rw [result] at batches leases
          rw [← account_eq]
          have purged := balanced.registry (.purgeExpiredLeases domain.registry.leases now)
            (show (domain.registry.purge now).batches = _ from rfl) (.inl rfl) balanced.removing
          exact purged.insertLease notWritten fresh zero leases batches

end

/-! ### Synchronisation -/

theorem acknowledgedTotal_mono {created : List (String × String)}
    (results earlier : List LeaseSynchronizationResult) (accountId : String)
    (direction : Direction) :
    createdTotal created accountId (largestAcknowledged earlier · direction) ≤
      createdTotal created accountId (largestAcknowledged (results ++ earlier) · direction) := by
  simp [largestAcknowledged_append, createdTotal_mono]

/-- A batch gets its response and waits for its transaction. -/
theorem apply (balanced : Balanced digest start domain) (notWritten : ¬domain.operation.Written)
    {registry : LeaseRegistry Digest} {request : LeaseSynchronizationRequest}
    {response : LeaseSynchronizationResponse}
    {processed : List (LeaseSynchronizationRequest × LeaseSynchronizationResponse)}
    (books : Books registry.leases domain.created (processed.flatMap fun batch => batch.2.leases))
    (isSettled : ∀ leaseId direction,
      settled registry.leases (processed.flatMap fun batch => batch.2.leases) leaseId direction =
        settled domain.registry.leases domain.acknowledged leaseId direction)
    (grows : ∀ accountId direction, domain.acknowledgedTotal accountId direction ≤
      createdTotal domain.created accountId
        (largestAcknowledged (processed.flatMap fun batch => batch.2.leases) · direction))
    (remembered : registry.batches.get? request.batchId =
      some { requestDigest := digest request, response })
    (answered : ∀ batchId record, registry.batches.get? batchId = some record →
      Answered digest { domain with processed } batchId record) :
    Balanced digest start { domain with
      registry
      operation := .applying request response (pendingUsage registry.leases)
      processed } where
  books := books
  consistent := balanced.consistent
  counted accountId direction notDeleted bounded := by
    have inDatabase := balanced.counted accountId direction notDeleted
      ((grows accountId direction).trans bounded)
    rw [inDatabase_of_not_written notWritten] at inDatabase
    change domain.store.counted accountId direction.column =
      start.counted accountId direction.column +
        createdTotal domain.created accountId
          (settled registry.leases (processed.flatMap fun batch => batch.2.leases) · direction)
    simp only [isSettled]
    exact inDatabase
  usage other otherResponse usage isApplying accountId direction _ := by
    cases isApplying
    exact incrementOf_pendingUsage registry.leases accountId direction
  applying other otherResponse usage isApplying := by
    cases isApplying
    exact remembered
  confirming _ _ isConfirming := by cases isConfirming
  answered := answered
  removing _ isRemoving := by cases isRemoving

theorem synchronize [DecidableEq Digest] (balanced : Balanced cryptography.digest start domain)
    (idle : domain.operation = .idle) (request : LeaseSynchronizationRequest) (now : Int) :
    Balanced cryptography.digest start (domain.synchronize cryptography request now) := by
  have notWritten := not_written_of_idle idle
  rw [AccountDomain.synchronize]
  split
  · exact balanced.keep (.refl _) rfl rfl rfl rfl (fun _ member => member) balanced.consistent
      (fun _ _ _ => rfl) (.inl rfl) balanced.removing
  next registry response _ ok =>
    obtain ⟨instanceId, rfl, remembered, ⟨inWindow, rfl⟩ | ⟨notInWindow, reports, others⟩⟩ :=
      synchronize_eq_ok balanced.books.key ok
    · rw [if_pos inWindow]
      exact balanced.apply notWritten balanced.books (fun _ _ => rfl) (fun _ _ => Nat.le_refl _)
        remembered balanced.answered
    rw [if_neg (by rw [notInWindow]; exact Bool.false_ne_true)]
    have purged := balanced.registry (.purgeExpiredLeases domain.registry.leases now)
      (show (domain.registry.purge now).batches = _ from rfl) (.inl rfl) balanced.removing
    refine purged.apply notWritten (reports.books purged.books)
      (fun leaseId direction => reports.settled_eq leaseId direction)
      (acknowledgedTotal_mono response.leases domain.acknowledged) remembered
      fun batchId record found => ?_
    by_cases same : batchId = request.batchId
    · subst same
      cases remembered.symm.trans found
      exact ⟨request, mem_cons_self, rfl, instanceId, rfl⟩
    · obtain ⟨original, listed, rest⟩ :=
        balanced.answered batchId record (others batchId record found same)
      exact ⟨original, mem_cons_of_mem _ listed, rest⟩

/-- The transaction of a batch brings the database up to everything that was acknowledged. -/
theorem applyUsage (balanced : Balanced digest start domain) (now : Int) (commits : Bool) :
    Balanced digest start (domain.applyUsage now commits) := by
  rw [AccountDomain.applyUsage]
  split
  · next accountId rejecting =>
      refine balanced.countAuthentication ?_ accountId (fun direction => ?_) now commits
      · rw [rejecting]
        exact id
      · cases direction <;> rfl
  · next accountId accepting =>
      refine balanced.countAuthentication ?_ accountId (fun direction => ?_) now commits
      · rw [accepting]
        exact id
      · cases direction <;> rfl
  · next request response usage isApplying =>
      have notWritten : ¬domain.operation.Written := by
        rw [isApplying]
        exact id
      split
      · next store committed =>
          obtain ⟨consistent, grown⟩ := commitUsage_eq_some balanced.consistent committed
          refine
            { books := balanced.books, consistent, counted := ?_, usage := by simp
              applying := by simp, confirming := ?_, answered := balanced.answered
              removing := by simp }
          · intro accountId direction notDeleted bounded
            have before := balanced.counted accountId direction notDeleted bounded
            have increment :=
              balanced.usage request response usage isApplying accountId direction notDeleted
            have sum := balanced.books.settled_add_pending accountId direction
            rw [inDatabase_of_not_written notWritten] at before
            change domain.acknowledgedTotal accountId direction ≤ maximumIncrement at bounded
            change _ = domain.acknowledgedTotal accountId direction at sum
            change store.counted accountId direction.column =
              start.counted accountId direction.column +
                domain.acknowledgedTotal accountId direction
            rw [grown, before, increment, Nat.min_eq_right (by omega), ← sum, Nat.add_assoc]
          · intro _ _ isConfirming
            cases isConfirming
            exact balanced.applying request response usage isApplying
      · exact balanced.keepLeases .idle balanced.consistent (fun _ _ => rfl) notWritten trivial
          (by simp) _
  · exact balanced

/-- The registry hears of the transaction and settles everything. -/
theorem confirm (balanced : Balanced digest start domain) {request : LeaseSynchronizationRequest}
    {response : LeaseSynchronizationResponse}
    (isConfirming : domain.operation = .confirming request response) :
    Balanced digest start (domain.confirm request response) ∧
      (∀ accountId direction, pendingTotal (domain.confirm request response).registry.leases
        accountId direction = 0) ∧
      (domain.confirm request response).operation = .idle ∧
      (domain.confirm request response).answers = (request, .ok response) :: domain.answers := by
  have remembered := balanced.confirming request response isConfirming
  obtain ⟨books, isSettled, noPending⟩ := balanced.books.confirm
  rw [AccountDomain.confirm, confirmUsageCommitted, if_pos (Table.contains_iff.mpr ⟨_, remembered⟩)]
  refine ⟨?_, noPending, rfl, rfl⟩
  refine
    { books, consistent := balanced.consistent, counted := ?_, usage := by simp
      applying := by simp, confirming := by simp, answered := balanced.answered
      removing := by simp }
  intro accountId direction notDeleted bounded
  have counted := balanced.counted accountId direction notDeleted bounded
  rw [inDatabase, isConfirming] at counted
  change domain.store.counted accountId direction.column =
    start.counted accountId direction.column +
      createdTotal domain.created accountId (settled _ domain.acknowledged · direction)
  simp only [isSettled]
  exact counted

/-! ### Steps and runs -/

theorem step [DecidableEq Digest] (balanced : Balanced cryptography.digest start domain)
    (action : AccountAction) :
    Balanced cryptography.digest start (domain.step cryptography action) := by
  unfold AccountDomain.step
  split
  · split
    · exact balanced.registry (.revokeAccount _ _) rfl (.inl rfl) balanced.removing
    · exact balanced
  · exact balanced.registry (.purgeExpiredLeases _ _)
      (show (domain.registry.purge _).batches = _ from rfl) (.inl rfl) balanced.removing
  · exact balanced.applyUsage _ _
  · next isConfirming => exact (balanced.confirm isConfirming).1
  · next isReconciling => exact balanced.reconcile isReconciling _
  · next isRevoking =>
      refine balanced.registry (.revokeAccount _ _) rfl (.inr ⟨?_, trivial⟩) (by simp)
      rw [isRevoking]
      exact id
  · next isRemoving => exact balanced.remove isRemoving
  · next idle =>
      unfold begin
      split
      · exact balanced.createAccount _ _
      · exact balanced.updateAccounts idle _
      · exact balanced.replacePassword idle _ _
      · exact balanced.deleteAccount idle _
      · exact balanced.deleteAccounts idle _
      · exact balanced.authenticate idle cryptography _ _ _
      · exact balanced.synchronize idle _ _
      · exact balanced
  · exact balanced

theorem start_new (consistent : start.Consistent) (serviceInstanceId : String) :
    Balanced digest start (new start serviceInstanceId) where
  books :=
    { distinct := nodup_nil
      key := by simp [AccountDomain.new, LeaseRegistry.new]
      known := by simp [AccountDomain.new, LeaseRegistry.new]
      total := by simp [AccountDomain.new, LeaseRegistry.new]
      bounded := by simp [AccountDomain.new, LeaseRegistry.new]
      unseen := fun _ _ _ => rfl }
  consistent := consistent
  counted _ _ _ _ := rfl
  usage := by simp [AccountDomain.new]
  applying := by simp [AccountDomain.new]
  confirming := by simp [AccountDomain.new]
  answered := by simp [AccountDomain.new, LeaseRegistry.new]
  removing := by simp [AccountDomain.new]

theorem run [DecidableEq Digest] (consistent : start.Consistent) (serviceInstanceId : String)
    (actions : List AccountAction) :
    Balanced cryptography.digest start
      ((accountMachine cryptography start serviceInstanceId).run actions) :=
  Machine.invariant_run (start_new consistent serviceInstanceId)
    (fun _ action balanced => balanced.step action) actions

end Balanced

end SprakCapture.AccountService
