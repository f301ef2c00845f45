import SprakCapture.AccountService.TrafficAccounting

/-!
# Resent batches

A batch in the window gets the response it had, whatever else the service does meanwhile, and
adds nothing to what was acknowledged. With the books this says that traffic is counted once.
-/

namespace SprakCapture.AccountService

open Data AccountDomain

variable {Digest : Type} [DecidableEq Digest] {cryptography : Cryptography Digest}
  {start : AccountStore} {earlier domain : AccountDomain Digest}
  {request : LeaseSynchronizationRequest} {response : LeaseSynchronizationResponse}

/-- The service has a response for a request, which it has not returned. Since an earlier state it
has reported nothing and answered nothing. -/
structure Serving (earlier : AccountDomain Digest) (request : LeaseSynchronizationRequest)
    (response : LeaseSynchronizationResponse) (domain : AccountDomain Digest) : Prop where
  operation : (∃ usage, domain.operation = .applying request response usage) ∨
    domain.operation = .confirming request response
  created : domain.created = earlier.created
  processed : domain.processed = earlier.processed
  answers : domain.answers = earlier.answers

/-- The service has just answered a request: with the response, or that the database failed. -/
structure Served (earlier : AccountDomain Digest) (request : LeaseSynchronizationRequest)
    (response : LeaseSynchronizationResponse) (domain : AccountDomain Digest) : Prop where
  operation : domain.operation = .idle
  created : domain.created = earlier.created
  processed : domain.processed = earlier.processed
  answers : domain.answers = (request, .ok response) :: earlier.answers ∨
    domain.answers = (request, .error .database) :: earlier.answers

omit [DecidableEq Digest] in
/-- Nothing was added to what was acknowledged. -/
theorem Served.acknowledgedTotal_eq (served : Served earlier request response domain)
    (accountId : String) (direction : Direction) :
    domain.acknowledgedTotal accountId direction =
      earlier.acknowledgedTotal accountId direction := by
  simp [AccountDomain.acknowledgedTotal, AccountDomain.acknowledged, served.created,
    served.processed]

namespace Serving

variable (serving : Serving earlier request response domain)

include serving

omit [DecidableEq Digest] in
/-- A region of another task leaves a request where it is. -/
theorem registry (registry : LeaseRegistry Digest) :
    Serving earlier request response { domain with registry } :=
  ⟨serving.operation, serving.created, serving.processed, serving.answers⟩

omit [DecidableEq Digest] in
theorem applyUsage (now : Int) (commits : Bool) :
    Serving earlier request response (domain.applyUsage now commits) ∨
      Served earlier request response (domain.applyUsage now commits) := by
  rw [AccountDomain.applyUsage]
  rcases serving.operation with ⟨_, isApplying⟩ | isConfirming
  · rw [isApplying]
    dsimp only
    split
    · exact .inl ⟨.inr rfl, serving.created, serving.processed, serving.answers⟩
    · refine .inr ⟨rfl, serving.created, serving.processed, .inr ?_⟩
      rw [serving.answers]
  · rw [isConfirming]
    exact .inl serving

/-- Until it is answered, a request keeps its response. -/
theorem step (balanced : Balanced cryptography.digest start domain) (action : AccountAction) :
    Serving earlier request response (domain.step cryptography action) ∨
      Served earlier request response (domain.step cryptography action) := by
  have other : ∀ operation, domain.operation = operation →
      (∀ usage, operation ≠ .applying request response usage) →
        operation ≠ .confirming request response → False := by
    rintro operation rfl notApplying notConfirming
    rcases serving.operation with ⟨usage, isApplying⟩ | isConfirming
    · exact notApplying usage isApplying
    · exact notConfirming isConfirming
  unfold AccountDomain.step
  split
  · split
    · exact .inl (serving.registry _)
    · exact .inl serving
  · exact .inl (serving.registry _)
  · exact serving.applyUsage _ _
  · next confirmed confirmedResponse isConfirming =>
      obtain ⟨_, _, idle, answers⟩ := balanced.confirm isConfirming
      have same : confirmed = request ∧ confirmedResponse = response := by
        rcases serving.operation with ⟨usage, isApplying⟩ | isSame
        · cases isConfirming.symm.trans isApplying
        · cases isConfirming.symm.trans isSame
          exact ⟨rfl, rfl⟩
      obtain ⟨rfl, rfl⟩ := same
      rw [serving.answers] at answers
      refine .inr ⟨idle, ?_, ?_, .inl answers⟩
      · rw [← serving.created, confirm]
        split <;> rfl
      · rw [← serving.processed, confirm]
        split <;> rfl
  · simp_all
  · simp_all
  · simp_all
  · simp_all
  · exact .inl serving

theorem run (balanced : Balanced cryptography.digest start domain) (store : AccountStore)
    (serviceInstanceId : String) (later : List AccountAction) :
    Serving earlier request response
        ((accountMachine cryptography store serviceInstanceId).runFrom domain later) ∨
      ∃ first, first <+: later ∧ Served earlier request response
        ((accountMachine cryptography store serviceInstanceId).runFrom domain first) := by
  induction later generalizing domain with
  | nil => exact .inl serving
  | cons action later ih =>
    rcases serving.step balanced action with still | served
    · rcases ih still (balanced.step action) with end_ | ⟨first, initial, served⟩
      · exact .inl end_
      · exact .inr ⟨action :: first, (List.prefix_cons_inj action).mpr initial, served⟩
    · exact .inr ⟨[action], List.prefix_append [action] later, served⟩

end Serving

theorem step_synchronize (idle : domain.operation = .idle) (request : LeaseSynchronizationRequest)
    (now : Int) :
    domain.step cryptography (.synchronize request now) =
      domain.synchronize cryptography request now := by
  unfold step
  rw [idle]
  rfl

variable {record : BatchRecord Digest}

/-- Sending a remembered batch again: it has its response, and what is pending goes to the
database as with any batch. -/
theorem step_resend (idle : domain.operation = .idle)
    (remembered : domain.registry.batches.get? request.batchId = some record)
    (instanceId : request.serviceInstanceId = domain.serviceInstanceId)
    (sameDigest : cryptography.digest request = record.requestDigest) (now : Int) :
    domain.step cryptography (.synchronize request now) =
      { domain with
        operation := .applying request record.response (pendingUsage domain.registry.leases) } := by
  rw [step_synchronize idle, synchronize,
    LeaseRegistry.synchronize_remembered instanceId remembered sameDigest.symm]
  simp_all

/-- Sending other content under the id of a remembered batch. -/
theorem step_conflict (idle : domain.operation = .idle)
    (remembered : domain.registry.batches.get? request.batchId = some record)
    (differs : cryptography.digest request ≠ record.requestDigest) (now : Int) :
    ∃ error, domain.step cryptography (.synchronize request now) =
      { domain with answers := (request, .error error) :: domain.answers } := by
  obtain ⟨error, refused⟩ : ∃ error, domain.registry.synchronize cryptography.digest
      domain.serviceInstanceId request now = .error error :=
    LeaseRegistry.synchronize_conflict remembered (Ne.symm differs) now
  refine ⟨error, ?_⟩
  rw [step_synchronize idle, synchronize, refused]

/-! ### Answers -/

/-- Nothing is answered, or a request is refused. -/
def Unanswered (before after : AccountDomain Digest) : Prop :=
  after.answers = before.answers ∨
    ∃ request error, after.answers = (request, .error error) :: before.answers

theorem unanswered_begin (action : AccountAction) :
    Unanswered domain (domain.begin cryptography action) := by
  unfold begin
  split
  · refine .inl ?_
    rw [createAccount]
    split <;> rfl
  · refine .inl ?_
    rw [updateAccounts]
    split <;> rfl
  · refine .inl ?_
    rw [replacePassword]
    split <;> rfl
  · refine .inl ?_
    rw [deleteAccount]
    split <;> rfl
  · refine .inl ?_
    rw [deleteAccounts]
    split <;> rfl
  · refine .inl ?_
    grind [authenticate]
  · rw [synchronize]
    split
    · exact .inr ⟨_, _, rfl⟩
    · exact .inl rfl
  · exact .inl rfl

omit [DecidableEq Digest] in
theorem unanswered_applyUsage (now : Int) (commits : Bool) :
    Unanswered domain (domain.applyUsage now commits) := by
  rw [AccountDomain.applyUsage]
  split
  · exact .inl rfl
  · exact .inl rfl
  · split
    · exact .inl rfl
    · exact .inr ⟨_, _, rfl⟩
  · exact .inl rfl

/-- A successful answer is the end of a synchronisation. -/
theorem confirming_of_answered {action : AccountAction}
    (answered : (domain.step cryptography action).answers =
      (request, .ok response) :: domain.answers) :
    (∃ request response, domain.operation = .confirming request response) ∧ action = .confirm := by
  have impossible : ¬Unanswered domain (domain.step cryptography action) := by
    rintro (_ | ⟨_, _, refused⟩)
    · simp_all
    · rw [answered] at refused
      cases refused
  unfold step at impossible
  split at impossible
  · split at impossible
    · exact absurd (.inl rfl) impossible
    · exact absurd (.inl rfl) impossible
  · exact absurd (.inl rfl) impossible
  · exact absurd (unanswered_applyUsage _ _) impossible
  · simp_all
  · next accounts _ =>
      refine absurd (.inl ?_) impossible
      cases accounts <;> rfl
  · exact absurd (.inl rfl) impossible
  · next accountIds _ =>
      refine absurd (.inl ?_) impossible
      cases accountIds <;> rfl
  · exact absurd (unanswered_begin _) impossible
  · exact absurd (.inl rfl) impossible

/-- A synchronisation that succeeds leaves nothing pending. -/
theorem Balanced.pendingTotal_of_answered (balanced : Balanced cryptography.digest start domain)
    {action : AccountAction}
    (answered : (domain.step cryptography action).answers =
      (request, .ok response) :: domain.answers) (accountId : String) (direction : Direction) :
    pendingTotal (domain.step cryptography action).registry.leases accountId direction = 0 := by
  obtain ⟨⟨confirmed, confirmedResponse, isConfirming⟩, rfl⟩ := confirming_of_answered answered
  have isConfirm : domain.step cryptography .confirm =
      domain.confirm confirmed confirmedResponse := by
    unfold AccountDomain.step
    rw [isConfirming]
  rw [isConfirm]
  exact (balanced.confirm isConfirming).2.1 accountId direction

/-! ### Counting -/

/-- In every run, while totals stay below 2^63: counters and pending traffic make up what was
acknowledged, a synchronisation that succeeds leaves nothing pending, and counters are the sums of
the daily rows. A remembered batch that is sent again gets its response and adds nothing; its id
with other content is refused and changes nothing. -/
theorem traffic_countedOnce (cryptography : Cryptography Digest) (store : AccountStore)
    (serviceInstanceId : String) (consistent : store.Consistent) (actions : List AccountAction) :
    let machine := accountMachine cryptography store serviceInstanceId
    let domain := machine.run actions
    (∀ accountId direction, accountId ∉ domain.deleted →
      domain.acknowledgedTotal accountId direction < 2 ^ 63 →
        (¬domain.operation.Written →
          domain.store.counted accountId direction.column +
              pendingTotal domain.registry.leases accountId direction =
            store.counted accountId direction.column +
              domain.acknowledgedTotal accountId direction) ∧
        (domain.operation.Written →
          domain.store.counted accountId direction.column =
            store.counted accountId direction.column +
              domain.acknowledgedTotal accountId direction)) ∧
    (∀ action request response, (machine.step domain action).answers =
        (request, .ok response) :: domain.answers →
      ∀ accountId direction,
        pendingTotal (machine.step domain action).registry.leases accountId direction = 0) ∧
    (domain.store.Consistent ∧ ∀ accountId column,
      domain.store.counted accountId column = domain.store.dailyTotal accountId column) ∧
    (domain.operation = .idle → ∀ batchId record,
      domain.registry.batches.get? batchId = some record →
        ∃ original, (original, record.response) ∈ domain.processed ∧ original.batchId = batchId ∧
          (∀ now later, let resent := machine.step domain (.synchronize original now)
            resent = { domain with
              operation :=
                .applying original record.response (pendingUsage domain.registry.leases) } ∧
              (Serving domain original record.response (machine.runFrom resent later) ∨
                ∃ first, first <+: later ∧
                  Served domain original record.response (machine.runFrom resent first) ∧
                  ∀ accountId direction,
                    (machine.runFrom resent first).acknowledgedTotal accountId direction =
                      domain.acknowledgedTotal accountId direction)) ∧
          ∀ request now, request.batchId = batchId →
            cryptography.digest request ≠ cryptography.digest original →
              ∃ error, machine.step domain (.synchronize request now) =
                { domain with answers := (request, .error error) :: domain.answers }) := by
  intro machine domain
  have balanced : Balanced cryptography.digest store domain :=
    Balanced.run consistent serviceInstanceId actions
  refine ⟨fun accountId direction notDeleted bounded => ⟨fun notWritten => ?_, fun written => ?_⟩,
    fun action request response answered => balanced.pendingTotal_of_answered answered,
    ⟨balanced.consistent, balanced.consistent.agrees⟩, fun idle batchId record remembered => ?_⟩
  · have counted := balanced.counted accountId direction notDeleted (Nat.le_sub_one_of_lt bounded)
    have sum := balanced.books.settled_add_pending accountId direction
    rw [AccountDomain.inDatabase_of_not_written notWritten] at counted
    rw [counted, Nat.add_assoc, sum]
    rfl
  · have counted := balanced.counted accountId direction notDeleted (Nat.le_sub_one_of_lt bounded)
    cases isConfirming : domain.operation with
    | confirming request response =>
      rw [AccountDomain.inDatabase, isConfirming] at counted
      exact counted
    | _ =>
      rw [isConfirming] at written
      exact written.elim
  · obtain ⟨original, listed, rfl, instanceId, sameDigest⟩ :=
      balanced.answered batchId record remembered
    refine ⟨original, listed, rfl, fun now later => ?_, fun request now sameId differs => ?_⟩
    · have resent := step_resend idle remembered instanceId sameDigest now
      have serving : Serving domain original record.response
          (domain.step cryptography (.synchronize original now)) := by
        rw [resent]
        exact ⟨.inl ⟨_, rfl⟩, rfl, rfl, rfl⟩
      refine ⟨resent, ?_⟩
      rcases serving.run (balanced.step _) store serviceInstanceId later with
        still | ⟨first, initial, served⟩
      · exact .inl still
      · exact .inr ⟨first, initial, served, served.acknowledgedTotal_eq⟩
    · rw [sameDigest] at differs
      exact step_conflict idle (sameId ▸ remembered) differs now

/-! ### A run -/

def emptyStore : AccountStore where
  accounts := ∅
  usageCounters := ∅
  usageDaily := ∅

theorem consistent_emptyStore : emptyStore.Consistent where
  row _ := rfl
  orphan _ _ := rfl
  agrees _ _ := rfl

def plainCryptography : Cryptography LeaseSynchronizationRequest where
  digest request := request
  verifyPassword password hash _ := password = hash

/-- One batch with one report. -/
def progressBatch (batchId : String) (uploadedBytes : Nat) (final : Bool) :
    LeaseSynchronizationRequest where
  serviceInstanceId := "service"
  batchId := batchId
  leases :=
    [{ leaseId := "lease", connectionId := "connection", uploadedBytes
       downloadedBytes := 20, final }]

/-- The transaction of the first batch fails; a final report under another id makes up for it. -/
def failedThenFinal : List AccountAction :=
  [.createAccount
      { accountId := "account", username := "user", password := none
        policy :=
          { maxUploadBytesPerSecond := -1, maxDownloadBytesPerSecond := -1
            maxConnections := -1, maxOnlineIps := -1, expiresAt := -1 }
        policyRevision := 1 } 0,
    .authenticate
      { connectionId := "connection", username := "user", password := "password"
        sourceIp := "10.0.0.1" } 1000 "lease",
    .applyUsage 1000 true,
    .synchronize (progressBatch "first" 100 false) 2000,
    .applyUsage 2000 false,
    .synchronize (progressBatch "second" 130 true) 3000,
    .applyUsage 3000 true,
    .confirm]

theorem traffic_countedOnce_failedThenFinal :
    let domain := (accountMachine plainCryptography emptyStore "service").run failedThenFinal
    domain.acknowledgedTotal "account" .uploaded = 130 ∧
      domain.store.counted "account" .uploadedBytes +
          pendingTotal domain.registry.leases "account" .uploaded = 130 := by
  intro domain
  have acknowledged : domain.acknowledgedTotal "account" .uploaded = 130 := by decide +kernel
  have counted := (traffic_countedOnce plainCryptography emptyStore "service" consistent_emptyStore
    failedThenFinal).1 "account" .uploaded (by decide +kernel)
    (by change domain.acknowledgedTotal "account" .uploaded < 2 ^ 63; rw [acknowledged]; decide)
  have start : emptyStore.counted "account" .uploadedBytes = 0 := rfl
  refine ⟨acknowledged, (counted.1 ?_).trans ?_⟩
  · exact id
  · change emptyStore.counted "account" .uploadedBytes +
      domain.acknowledgedTotal "account" .uploaded = 130
    rw [start, acknowledged]

end SprakCapture.AccountService
