import SprakCapture.AccountService.LeaseBooks

/-!
# Methods that report and create

A batch of reports raises the totals of leases to what its results acknowledge. The window of
answered batches decides whether a batch is reported at all.
-/

namespace SprakCapture.AccountService

open Data LeaseRegistry

variable {leases after : Table String LeaseState} {created : List (String × String)}
  {results : List LeaseSynchronizationResult}

/-! ### Reporting -/

/-- What the reports of a batch do: a lease ends with the largest of its total and the results
for it, and what is not a lease gets nothing. -/
structure Reports (before after : Table String LeaseState)
    (results : List LeaseSynchronizationResult) : Prop where
  missing : ∀ leaseId, before.get? leaseId = none → after.get? leaseId = none ∧
    ∀ direction, largestAcknowledged results leaseId direction = 0
  raised : ∀ leaseId old, before.get? leaseId = some old →
    ∃ lease, after.get? leaseId = some lease ∧ lease.leaseId = old.leaseId ∧
      lease.accountId = old.accountId ∧ ∀ direction,
        lease.total direction =
            max (old.total direction) (largestAcknowledged results leaseId direction) ∧
          lease.persisted direction = old.persisted direction

theorem largestAcknowledged_singleton (result : LeaseSynchronizationResult) (leaseId : String)
    (direction : Direction) :
    largestAcknowledged [result] leaseId direction =
      if result.leaseId = leaseId then result.acknowledged direction else 0 :=
  Nat.max_zero _

theorem Reports.refl (leases : Table String LeaseState) : Reports leases leases [] where
  missing _ absent := ⟨absent, fun _ => rfl⟩
  raised _ old isOld := ⟨old, isOld, rfl, rfl, fun _ => ⟨(Nat.max_zero _).symm, rfl⟩⟩

theorem Reports.trans {before middle : Table String LeaseState}
    {second : List LeaseSynchronizationResult} (first : Reports before middle results)
    (next : Reports middle after second) : Reports before after (results ++ second) where
  missing leaseId absent := by
    obtain ⟨absentBetween, zero⟩ := first.missing leaseId absent
    obtain ⟨absentAfter, zeroAfter⟩ := next.missing leaseId absentBetween
    refine ⟨absentAfter, fun direction => ?_⟩
    rw [largestAcknowledged_append, zero, zeroAfter, Nat.max_self]
  raised leaseId old isOld := by
    obtain ⟨between, isBetween, sameId, sameAccount, totals⟩ := first.raised leaseId old isOld
    obtain ⟨lease, isLease, sameIdAfter, sameAccountAfter, totalsAfter⟩ :=
      next.raised leaseId between isBetween
    refine ⟨lease, isLease, sameIdAfter.trans sameId, sameAccountAfter.trans sameAccount,
      fun direction => ⟨?_, (totalsAfter direction).2.trans (totals direction).2⟩⟩
    rw [(totalsAfter direction).1, (totals direction).1, largestAcknowledged_append, Nat.max_assoc]

/-- A result without a lease acknowledges nothing. -/
theorem reports_missing (leases : Table String LeaseState) (leaseId : String) :
    Reports leases leases [missingLeaseResult leaseId] := by
  have zero : ∀ other direction,
      largestAcknowledged [missingLeaseResult leaseId] other direction = 0 := by
    intro other direction
    rw [largestAcknowledged_singleton]
    cases direction with
    | uploaded | downloaded => exact ite_self 0
  exact ⟨fun other absent => ⟨absent, zero other⟩, fun other old isOld =>
    ⟨old, isOld, rfl, rfl, fun direction => ⟨by rw [zero, Nat.max_zero], rfl⟩⟩⟩

theorem reports_lease {leaseId : String} {old lease : LeaseState}
    {result : LeaseSynchronizationResult} (isOld : leases.get? leaseId = some old)
    (key : old.leaseId = leaseId) (sameId : lease.leaseId = old.leaseId)
    (sameAccount : lease.accountId = old.accountId)
    (samePersisted : ∀ direction, lease.persisted direction = old.persisted direction)
    (grows : ∀ direction, old.total direction ≤ lease.total direction)
    (resultId : result.leaseId = old.leaseId)
    (acknowledges : ∀ direction, result.acknowledged direction = lease.total direction) :
    Reports leases (leases.insert leaseId lease) [result] where
  missing other absent := by
    have different : other ≠ leaseId := by
      rintro rfl
      rw [isOld] at absent
      cases absent
    refine ⟨by rw [Table.get?_insert, if_neg different, absent], fun direction => ?_⟩
    rw [largestAcknowledged_singleton, resultId, key, if_neg (Ne.symm different)]
  raised other held isHeld := by
    by_cases same : other = leaseId
    · subst same
      cases isOld.symm.trans isHeld
      refine ⟨lease, Table.get?_insert_self .., sameId, sameAccount, fun direction =>
        ⟨?_, samePersisted direction⟩⟩
      rw [largestAcknowledged_singleton, resultId, key, if_pos rfl, acknowledges,
        Nat.max_eq_right (grows direction)]
    · refine ⟨held, by rw [Table.get?_insert, if_neg same, isHeld], rfl, rfl, fun direction =>
        ⟨?_, rfl⟩⟩
      rw [largestAcknowledged_singleton, resultId, key, if_neg (Ne.symm same), Nat.max_zero]

theorem reports_synchronizeLease (now : Int) (progress : LeaseProgress)
    (key : ∀ leaseId lease, leases.get? leaseId = some lease → lease.leaseId = leaseId) :
    Reports leases (synchronizeLease now leases progress).1
      [(synchronizeLease now leases progress).2] := by
  rw [synchronizeLease]
  split
  · exact reports_missing leases progress.leaseId
  next lease found =>
    split
    · exact reports_missing leases progress.leaseId
    split
    -- totals that go back are not taken, and the lease is acknowledged as it was
    · refine reports_lease found (key _ _ found) rfl rfl (fun direction => ?_)
        (fun direction => ?_) rfl (fun direction => ?_)
      · cases direction <;> rfl
      · cases direction <;> exact Nat.le_refl _
      · cases direction <;> rfl
    · next monotone =>
        rw [not_or, Nat.not_lt, Nat.not_lt] at monotone
        refine reports_lease found (key _ _ found) rfl rfl (fun direction => ?_)
          (fun direction => ?_) rfl (fun direction => ?_)
        · cases direction <;> rfl
        · cases direction with
          | uploaded => exact monotone.1
          | downloaded => exact monotone.2
        · cases direction <;> rfl

theorem Reports.key {before : Table String LeaseState} (reports : Reports before after results)
    (key : ∀ leaseId lease, before.get? leaseId = some lease → lease.leaseId = leaseId) :
    ∀ leaseId lease, after.get? leaseId = some lease → lease.leaseId = leaseId := by
  intro leaseId lease found
  cases isOld : before.get? leaseId with
  | none =>
    rw [(reports.missing leaseId isOld).1] at found
    cases found
  | some old =>
    obtain ⟨_, _, _, _⟩ := reports.raised leaseId old isOld
    grind

theorem reports_synchronizeLeases (now : Int) (progress : List LeaseProgress)
    (key : ∀ leaseId lease, leases.get? leaseId = some lease → lease.leaseId = leaseId) :
    Reports leases (synchronizeLeases now leases progress).1
      (synchronizeLeases now leases progress).2 := by
  induction progress generalizing leases with
  | nil => exact .refl leases
  | cons one _ ih =>
    have first := reports_synchronizeLease now one key
    exact first.trans (ih (first.key key))

namespace Reports

variable {before : Table String LeaseState} {earlier : List LeaseSynchronizationResult}

/-- The books take the reports in. -/
theorem books (reports : Reports before after results) (books : Books before created earlier) :
    Books after created (results ++ earlier) where
  distinct := books.distinct
  key := reports.key books.key
  known leaseId lease found := by
    cases isOld : before.get? leaseId with
    | none =>
      rw [(reports.missing leaseId isOld).1] at found
      cases found
    | some old =>
      obtain ⟨held, isHeld, _, sameAccount, _⟩ := reports.raised leaseId old isOld
      cases found.symm.trans isHeld
      rw [sameAccount]
      exact books.known leaseId old isOld
  total leaseId lease direction found := by
    cases isOld : before.get? leaseId with
    | none =>
      rw [(reports.missing leaseId isOld).1] at found
      cases found
    | some old =>
      obtain ⟨held, isHeld, _, _, totals⟩ := reports.raised leaseId old isOld
      cases found.symm.trans isHeld
      rw [(totals direction).1, books.total leaseId old direction isOld,
        largestAcknowledged_append, Nat.max_comm]
  bounded leaseId lease direction found := by
    cases isOld : before.get? leaseId with
    | none =>
      rw [(reports.missing leaseId isOld).1] at found
      cases found
    | some old =>
      obtain ⟨held, isHeld, _, _, totals⟩ := reports.raised leaseId old isOld
      cases found.symm.trans isHeld
      rw [(totals direction).1, (totals direction).2]
      exact (books.bounded leaseId old direction isOld).trans (Nat.le_max_left _ _)
  unseen leaseId direction notCreated := by
    have absent : before.get? leaseId = none := by
      cases isOld : before.get? leaseId with
      | none => rfl
      | some old => exact absurd (List.mem_map_of_mem (books.known leaseId old isOld)) notCreated
    rw [largestAcknowledged_append, (reports.missing leaseId absent).2 direction,
      books.unseen leaseId direction notCreated, Nat.max_self]

theorem settled_eq (reports : Reports before after results) (leaseId : String)
    (direction : Direction) :
    settled after (results ++ earlier) leaseId direction =
      settled before earlier leaseId direction := by
  rw [settled, settled]
  cases isOld : before.get? leaseId with
  | none =>
    obtain ⟨absent, zero⟩ := reports.missing leaseId isOld
    rw [absent, largestAcknowledged_append, zero, Nat.zero_max]
  | some old =>
    obtain ⟨_, isLease, _, _, totals⟩ := reports.raised leaseId old isOld
    rw [isLease]
    exact (totals direction).2

end Reports

namespace LeaseRegistry

variable {Digest : Type}

/-! ### Creating a lease -/

/-- What an attempt to create a lease leaves: the purged leases, or those and a new one. -/
theorem createLease_eq (excused : List String) (registry : LeaseRegistry Digest)
    (account : StoredAccount) (request : LeaseAuthenticationRequest) (now : Int)
    (leaseId : String) :
    (registry.createLease account request now leaseId).1.batches = registry.batches ∧
      ((∃ error, (registry.createLease account request now leaseId).2 = .error error ∧
          Keeps excused registry.leases
            (registry.createLease account request now leaseId).1.leases) ∨
        (registry.createLease account request now leaseId).2 = .ok () ∧
          ∃ lease, lease.leaseId = leaseId ∧ lease.accountId = account.accountId ∧
            (∀ direction, lease.total direction = 0 ∧ lease.persisted direction = 0) ∧
            (registry.createLease account request now leaseId).1.leases =
              (purgeExpiredLeases registry.leases now).insert leaseId lease) := by
  rw [createLease]
  split
  · next error _ => exact ⟨rfl, .inl ⟨error, rfl, .refl _⟩⟩
  dsimp only
  split
  · exact ⟨rfl, .inl ⟨_, rfl, .purgeExpiredLeases _ now⟩⟩
  split
  · exact ⟨rfl, .inl ⟨_, rfl, .purgeExpiredLeases _ now⟩⟩
  · refine ⟨rfl, .inr ⟨rfl, _, rfl, rfl, fun direction => ?_, rfl⟩⟩
    cases direction with
    | uploaded | downloaded => exact ⟨rfl, rfl⟩

/-! ### The window -/

variable {registry : LeaseRegistry Digest}

theorem rememberBatch_get? {batchId other : String} {record found : BatchRecord Digest}
    (remembered : (registry.rememberBatch batchId record).batches.get? other = some found) :
    other = batchId ∧ found = record ∨
      other ≠ batchId ∧ registry.batches.get? other = some found := by
  grind [rememberBatch]

theorem rememberBatch_self (registry : LeaseRegistry Digest) (batchId : String)
    (record : BatchRecord Digest) :
    (registry.rememberBatch batchId record).batches.get? batchId = some record :=
  Table.get?_insert_self ..

theorem rememberBatch_leases (registry : LeaseRegistry Digest) (batchId : String)
    (record : BatchRecord Digest) :
    (registry.rememberBatch batchId record).leases = registry.leases := by
  grind [rememberBatch]

section Synchronize

variable [DecidableEq Digest] {digest : LeaseSynchronizationRequest → Digest}

variable {request : LeaseSynchronizationRequest} {serviceInstanceId : String}
  {record : BatchRecord Digest}

/-- A batch in the window is answered from it, and the registry stays as it is. -/
theorem synchronize_remembered (instanceId : request.serviceInstanceId = serviceInstanceId)
    (remembered : registry.batches.get? request.batchId = some record)
    (sameDigest : record.requestDigest = digest request) (now : Int) :
    registry.synchronize digest serviceInstanceId request now =
      .ok (registry, record.response, pendingUsage registry.leases) := by
  grind [synchronize]

/-- The id of a batch in the window with another digest is refused. -/
theorem synchronize_conflict (remembered : registry.batches.get? request.batchId = some record)
    (differs : record.requestDigest ≠ digest request) (now : Int) :
    ∃ error, registry.synchronize digest serviceInstanceId request now = .error error := by
  rw [synchronize]
  split
  · exact ⟨_, rfl⟩
  · rw [remembered]
    exact ⟨_, if_pos differs⟩

/-- A successful synchronisation: its response is the one that is remembered for the batch, and
it comes with all pending usage. A batch that was not in the window is reported. -/
theorem synchronize_eq_ok {registry after : LeaseRegistry Digest} {now : Int}
    {response : LeaseSynchronizationResponse} {usage : Table String UsageIncrement}
    (key : ∀ leaseId lease, registry.leases.get? leaseId = some lease → lease.leaseId = leaseId)
    (ok : registry.synchronize digest serviceInstanceId request now =
      .ok (after, response, usage)) :
    request.serviceInstanceId = serviceInstanceId ∧ usage = pendingUsage after.leases ∧
      after.batches.get? request.batchId = some { requestDigest := digest request, response } ∧
      (registry.batches.contains request.batchId = true ∧ after = registry ∨
        registry.batches.contains request.batchId = false ∧
          Reports (purgeExpiredLeases registry.leases now) after.leases response.leases ∧
          ∀ batchId found, after.batches.get? batchId = some found → batchId ≠ request.batchId →
            registry.batches.get? batchId = some found) := by
  rw [synchronize] at ok
  split at ok
  · cases ok
  next instanceId =>
    rw [not_not] at instanceId
    refine ⟨instanceId, ?_⟩
    split at ok
    · next record remembered =>
        split at ok
        · cases ok
        next sameDigest =>
          rw [not_not] at sameDigest
          cases ok
          refine ⟨rfl, ?_, .inl ⟨Table.contains_iff.mpr ⟨record, remembered⟩, rfl⟩⟩
          rw [remembered, ← sameDigest]
    · next absent =>
        cases ok
        refine ⟨by rw [rememberBatch_leases], rememberBatch_self .., .inr
          ⟨Table.contains_eq_false.mpr absent, ?_, fun batchId found remembered different => ?_⟩⟩
        · rw [rememberBatch_leases]
          refine reports_synchronizeLeases now request.leases fun leaseId lease found => ?_
          obtain ⟨old, isOld, sameId, _⟩ :=
            (@Keeps.purgeExpiredLeases [] _ _).kept leaseId lease found
          rw [sameId, key leaseId old isOld]
        · rcases rememberBatch_get? remembered with ⟨same, _⟩ | ⟨_, earlier⟩
          · exact absurd same different
          · exact earlier

end Synchronize

end LeaseRegistry

end SprakCapture.AccountService
