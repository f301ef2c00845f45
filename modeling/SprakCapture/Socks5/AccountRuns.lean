import SprakCapture.Socks5.AccountService

/-!
# What a step of the account client can do

`Moves` lists every way in which a step changes the client, with what holds before it. The
invariants of the client are shown along `Moves`, one case for each lock region.
-/

namespace SprakCapture.Socks5.AccountServiceClient

open Data List Socks5.LeaseState Table

/-- A step taken in a state leads to another one. -/
inductive Moves (client : AccountServiceClient) : Action → AccountServiceClient → Prop where
  /-- The task of the step cannot take it. -/
  | stays {action} : Moves client action client
  | responds {connectionId response}
      (fresh : client.issued.get? response.leaseId = none) :
      Moves client (.respond connectionId response)
        { client with
          issued := client.issued.insert response.leaseId response.serviceInstanceId
          calls := client.calls.insert response.leaseId
            { connectionId, response, phase := .adopting } }
  | adopts {leaseId call} (found : client.calls.get? leaseId = some call)
      (phase : call.phase = .adopting) :
      Moves client (.adopt leaseId) (client.adopt call)
  | drains {leaseId call} (found : client.calls.get? leaseId = some call)
      (phase : call.phase = .draining) (free : client.worker.locksLeases = false) :
      Moves client (.drain leaseId) (client.drain call)
  | releases {leaseId call lease rest} (found : client.calls.get? leaseId = some call)
      (phase : call.phase = .releasing (lease :: rest)) :
      Moves client (.releaseNext leaseId) (client.releaseNext call (lease :: rest))
  | joins {leaseId call} (found : client.calls.get? leaseId = some call)
      (phase : call.phase = .releasing []) :
      Moves client (.join leaseId) (client.join call)
  | revises {leaseId call controller} (found : client.calls.get? leaseId = some call)
      (phase : call.phase = .revising controller) :
      Moves client (.revise leaseId) (client.revise call controller)
  | inserts {leaseId call controller} (found : client.calls.get? leaseId = some call)
      (phase : call.phase = .inserting controller) (free : client.worker.locksLeases = false) :
      Moves client (.insert leaseId) (client.insert call controller)
  | begins {batchId order leaseId rest first} (idle : client.worker = .idle)
      (ordered : order = leaseId :: rest) (found : client.leases.get? leaseId = some first)
      (complete : order.Perm client.leaseIds) :
      Moves client (.beginBatch batchId order)
        { client with
          worker := .building
            { serviceInstanceId := first.serviceInstanceId, batchId, leases := [] }
            none none order }
  | loads {request uploaded downloaded leaseId rest lease}
      (building : client.worker = .building request uploaded downloaded (leaseId :: rest))
      (found : client.leases.get? leaseId = some lease) :
      Moves client .load { client with worker := load request uploaded downloaded lease rest }
  | sends {request uploaded downloaded}
      (building : client.worker = .building request uploaded downloaded []) :
      Moves client .send (client.send request)
  | answers {request response} (sent : client.worker = .sent request)
      (same : response.serviceInstanceId = request.serviceInstanceId) :
      Moves client (.answer response)
        { client with worker := .applying request response.leases none }
  | frees {request results lease}
      (applying : client.worker = .applying request results (some lease)) :
      Moves client .applyNext (client.releaseConfirmed request results lease)
  | skips {request result rest} (applying : client.worker = .applying request (result :: rest) none)
      (absent : client.leases.get? result.leaseId = none) :
      Moves client .applyNext { client with worker := .applying request rest none }
  | applies {request result rest lease}
      (applying : client.worker = .applying request (result :: rest) none)
      (found : client.leases.get? result.leaseId = some lease)
      (unfinished : finalReport? request result.leaseId = none) :
      Moves client .applyNext
        { client.updateController lease.controller result.policyRevision
            result.maxUploadBytesPerSecond result.maxDownloadBytesPerSecond with
          leases := client.leases.insert result.leaseId
            (if result.revoked then lease.revoke else lease)
          worker := .applying request rest none }
  | drops {request result rest lease report}
      (applying : client.worker = .applying request (result :: rest) none)
      (found : client.leases.get? result.leaseId = some lease)
      (final : finalReport? request result.leaseId = some report) :
      Moves client .applyNext
        { client.updateController lease.controller result.policyRevision
            result.maxUploadBytesPerSecond result.maxDownloadBytesPerSecond with
          leases := client.leases.erase result.leaseId
          worker := .applying request rest
            (some (if result.revoked then lease.revoke else lease))
          reported := client.reported ++
            [(if result.revoked then lease.revoke else lease, report)] }
  | ends {request} (applying : client.worker = .applying request [] none) :
      Moves client .applyNext { client with worker := .idle }
  | givesUp {request} (sent : client.worker = .sent request) :
      Moves client .giveUp (client.giveUp request)
  | records {leaseId direction byteCount} :
      Moves client (.record leaseId direction byteCount)
        { client with leases := client.leases.modify leaseId (·.record direction byteCount) }
  | finishes {leaseId} :
      Moves client (.finish leaseId)
        { client with leases := client.leases.modify leaseId LeaseState.finish }

open Moves

private theorem moves_respond (client : AccountServiceClient) (connectionId : String)
    (response : AuthenticationResponse) :
    Moves client (.respond connectionId response) (client.respond connectionId response) := by
  unfold respond
  cases seen : client.issued.contains response.leaseId with
  | true => exact .stays
  | false => exact .responds (contains_eq_false.mp seen)

variable {leaseId : String} {call : AuthenticationCall} {action : Action}

variable {client : AccountServiceClient}

private theorem moves_call (found : client.calls.get? leaseId = some call)
    (named : action = .adopt leaseId ∨ action = .drain leaseId ∨ action = .releaseNext leaseId ∨
      action = .join leaseId ∨ action = .revise leaseId ∨ action = .insert leaseId) :
    Moves client action (client.stepCall action call) := by
  rcases named with rfl | rfl | rfl | rfl | rfl | rfl <;> cases phase : call.phase
  all_goals simp only [stepCall, phase]
  all_goals try exact .stays
  case inl.adopting => exact .adopts found phase
  case inr.inl.draining =>
    cases free : client.worker.locksLeases with
    | true => exact .stays
    | false => exact .drains found phase free
  case inr.inr.inl.releasing removed =>
    cases removed with
    | nil => exact .stays
    | cons lease rest => exact .releases found phase
  case inr.inr.inr.inl.releasing removed =>
    cases removed with
    | nil => exact .joins found phase
    | cons lease rest => exact .stays
  case inr.inr.inr.inr.inl.revising => exact .revises found phase
  case inr.inr.inr.inr.inr.inserting =>
    cases free : client.worker.locksLeases with
    | true => exact .stays
    | false => exact .inserts found phase free

private theorem moves_authentication
    (named : action = .adopt leaseId ∨ action = .drain leaseId ∨ action = .releaseNext leaseId ∨
      action = .join leaseId ∨ action = .revise leaseId ∨ action = .insert leaseId) :
    Moves client action (client.stepAuthentication action leaseId) := by
  unfold stepAuthentication
  cases found : client.calls.get? leaseId with
  | none => exact .stays
  | some => exact moves_call found named

private theorem moves_beginBatch (idle : client.worker = .idle) (batchId : String)
    (order : List String) :
    Moves client (.beginBatch batchId order) (client.beginBatch batchId order) := by
  unfold beginBatch
  cases order with
  | nil => exact .stays
  | cons leaseId rest =>
    cases found : client.leases.get? leaseId with
    | none =>
      simp only [head?_cons, Option.bind_some, found]
      exact .stays
    | some =>
      simp only [head?_cons, Option.bind_some, found]
      by_cases complete : (leaseId :: rest).Perm client.leaseIds
      · rw [if_pos complete]
        exact .begins idle rfl found complete
      · rw [if_neg complete]
        exact .stays

private theorem moves_load : Moves client .load (client.stepWorker .load) := by
  cases worker : client.worker with
  | building _ _ _ remaining =>
    cases remaining with
    | nil => simpa only [stepWorker, worker] using stays
    | cons leaseId =>
      cases found : client.leases.get? leaseId with
      | none => simpa only [stepWorker, worker, found] using stays
      | some => simpa only [stepWorker, worker, found] using loads worker found
  | _ => simpa only [stepWorker, worker] using stays

private theorem moves_applyNext : Moves client .applyNext (client.stepWorker .applyNext) := by
  cases worker : client.worker with
  | applying request results confirmed =>
    cases confirmed with
    | some lease => simpa only [stepWorker, worker] using frees worker
    | none =>
      cases results with
      | nil => simpa only [stepWorker, worker] using ends worker
      | cons result =>
        simp only [stepWorker, worker, applyResult]
        cases found : client.leases.get? result.leaseId with
        | none => exact .skips worker found
        | some lease =>
          cases final : finalReport? request result.leaseId with
          | none => exact .applies worker found final
          | some => exact .drops worker found final
  | _ => simpa only [stepWorker, worker] using stays

/-- Every step is one of the moves. -/
theorem moves_step (client : AccountServiceClient) (action : Action) :
    Moves client action (client.step action) := by
  cases action with
  | respond connectionId response => exact moves_respond client connectionId response
  | record leaseId => exact .records
  | finish leaseId => exact .finishes
  | load => exact moves_load
  | applyNext => exact moves_applyNext
  | beginBatch batchId order =>
    cases worker : client.worker with
    | idle => simpa only [step, stepWorker, worker] using moves_beginBatch worker batchId order
    | _ => simpa only [step, stepWorker, worker] using stays
  | send =>
    cases worker : client.worker with
    | building request _ _ remaining =>
      cases remaining with
      | nil => simpa only [step, stepWorker, worker] using sends worker
      | cons leaseId => simpa only [step, stepWorker, worker] using stays
    | _ => simpa only [step, stepWorker, worker] using stays
  | answer response =>
    cases worker : client.worker with
    | sent request =>
      simp only [step, stepWorker, worker, answer]
      by_cases same : response.serviceInstanceId = request.serviceInstanceId
      · rw [if_pos same]
        exact .answers worker same
      · rw [if_neg same]
        exact .stays
    | _ => simpa only [step, stepWorker, worker] using stays
  | giveUp =>
    cases worker : client.worker with
    | sent request => simpa only [step, stepWorker, worker] using givesUp worker
    | _ => simpa only [step, stepWorker, worker] using stays
  | _ => exact moves_authentication (by simp)

/-! ### Leases keep their identity -/

/-- What no step changes about a lease. -/
def identity (lease : LeaseState) : String × String × String × Nat :=
  (lease.leaseId, lease.serviceInstanceId, lease.accountId, lease.controller)

variable (lease : LeaseState)

@[simp] theorem identity_record (direction : TrafficDirection) (byteCount : Nat) :
    identity (lease.record direction byteCount) = identity lease := by
  cases direction <;> rfl

@[simp] theorem identity_finish : identity lease.finish = identity lease := rfl

@[simp] theorem identity_revoke : identity lease.revoke = identity lease := rfl

theorem user_eq_of_identity {lease other : LeaseState} (same : identity lease = identity other) :
    lease.user = other.user := by
  grind [identity, user]

/-- Two ledgers hold the same leases, up to their counters and flags. -/
structure SameLeases (before after : Table String LeaseState) : Prop where
  held : ∀ leaseId, (after.get? leaseId).map identity = (before.get? leaseId).map identity
  users : (after.values.map user).Perm (before.values.map user)

namespace SameLeases

variable {before middle after : Table String LeaseState}

theorem refl (leases : Table String LeaseState) : SameLeases leases leases :=
  ⟨fun _ => rfl, List.Perm.refl _⟩

theorem trans (first : SameLeases before middle) (second : SameLeases middle after) :
    SameLeases before after :=
  ⟨fun leaseId => (second.held leaseId).trans (first.held leaseId), second.users.trans first.users⟩

theorem insert {lease other : LeaseState} (found : before.get? leaseId = some lease)
    (same : identity other = identity lease) : SameLeases before (before.insert leaseId other) := by
  refine ⟨fun wanted => ?_, ?_⟩
  · grind
  · have rest := (values_perm_of_get? found).map user
    rw [values_insert, map_cons, user_eq_of_identity same]
    exact rest.symm

theorem modify (leaseId : String) {change : LeaseState → LeaseState}
    (keeps : ∀ lease, identity (change lease) = identity lease) :
    SameLeases before (before.modify leaseId change) := by
  unfold Table.modify
  cases found : before.get? leaseId with
  | none => exact refl before
  | some lease => exact insert found (keeps lease)

theorem foldl_modify (progress : List LeaseProgress) :
    SameLeases before (progress.foldl (fun leases progress =>
      leases.modify progress.leaseId LeaseState.revoke) before) := by
  induction progress generalizing before with
  | nil => exact refl before
  | cons first _ ih => exact (modify first.leaseId identity_revoke).trans ih

/-- A lease of the new ledger stands in the old one. -/
theorem exists_before (same : SameLeases before after) {lease : LeaseState}
    (found : after.get? leaseId = some lease) :
    ∃ earlier, before.get? leaseId = some earlier ∧ identity lease = identity earlier := by
  have equal := same.held leaseId
  rw [found] at equal
  obtain ⟨earlier, held, identical⟩ := Option.map_eq_some_iff.mp equal.symm
  exact ⟨earlier, held, identical.symm⟩

theorem exists_after (same : SameLeases before after) {lease : LeaseState}
    (found : before.get? leaseId = some lease) :
    ∃ later, after.get? leaseId = some later ∧ identity later = identity lease := by
  have equal := same.held leaseId
  simp_all

end SameLeases

/-! ### Every lease id stands for one lease -/

/-- Calls and leases stand under the ids that the service issued to them, and the id of a call
has not been in the ledger. -/
structure Registered (client : AccountServiceClient) : Prop where
  call : ∀ {leaseId call}, client.calls.get? leaseId = some call →
    call.response.leaseId = leaseId ∧
      client.issued.get? leaseId = some call.response.serviceInstanceId ∧
      leaseId ∉ client.entered
  lease : ∀ {leaseId lease}, client.leases.get? leaseId = some lease →
    lease.leaseId = leaseId ∧ client.issued.get? leaseId = some lease.serviceInstanceId ∧
      leaseId ∈ client.entered
  entered : ∀ leaseId ∈ client.entered, ∃ serviceInstanceId,
    client.issued.get? leaseId = some serviceInstanceId

namespace Registered

variable {client : AccountServiceClient}

/-- The id of a call is not in the ledger. -/
theorem absent (registered : client.Registered) (found : client.calls.get? leaseId = some call) :
    client.leases.get? leaseId = none := by
  cases held : client.leases.get? leaseId with
  | none => rfl
  | some lease => exact absurd (registered.lease held).2.2 (registered.call found).2.2

/-- The ledger may change the counters and flags of its leases and lose leases, and a call may
move on. -/
theorem keep (registered : client.Registered) {next : AccountServiceClient}
    (issued : next.issued = client.issued) (entered : next.entered = client.entered)
    (calls : ∀ {leaseId call}, next.calls.get? leaseId = some call →
      ∃ earlier, client.calls.get? leaseId = some earlier ∧ call.response = earlier.response)
    (leases : ∀ {leaseId lease}, next.leases.get? leaseId = some lease →
      ∃ earlier, client.leases.get? leaseId = some earlier ∧ identity lease = identity earlier) :
    next.Registered := by
  refine ⟨?_, ?_, ?_⟩
  · intro leaseId call found
    obtain ⟨earlier, held, same⟩ := calls found
    rw [same, issued, entered]
    exact registered.call held
  · intro leaseId lease found
    obtain ⟨earlier, held, same⟩ := leases found
    simp only [identity, Prod.mk.injEq] at same
    rw [same.1, same.2.1, issued, entered]
    exact registered.lease held
  · rw [issued, entered]
    exact registered.entered

theorem advanced (registered : client.Registered) (found : client.calls.get? leaseId = some call)
    (phase : AuthenticationPhase) {wanted : String} {held : AuthenticationCall}
    (holds : (client.calls.insert call.response.leaseId { call with phase }).get? wanted =
      some held) :
    ∃ earlier, client.calls.get? wanted = some earlier ∧ held.response = earlier.response := by
  rw [(registered.call found).1] at holds
  grind

end Registered

theorem registered_new : new.Registered where
  call := by simp [new]
  lease := by simp [new]
  entered := by simp [new]

variable {client : AccountServiceClient} (registered : client.Registered)
include registered

private theorem registered_respond {connectionId : String} {response : AuthenticationResponse}
    (fresh : client.issued.get? response.leaseId = none) :
    Registered
      { client with
        issued := client.issued.insert response.leaseId response.serviceInstanceId
        calls := client.calls.insert response.leaseId
          { connectionId, response, phase := .adopting } } := by
  have other : ∀ {leaseId serviceInstanceId}, client.issued.get? leaseId = some serviceInstanceId →
      (client.issued.insert response.leaseId response.serviceInstanceId).get? leaseId =
        some serviceInstanceId := by
    intro leaseId serviceInstanceId known
    rw [get?_insert, if_neg, known]
    rintro rfl
    rw [fresh] at known
    cases known
  refine ⟨?_, ?_, ?_⟩
  · intro leaseId call found
    rw [get?_insert] at found
    by_cases same : leaseId = response.leaseId
    · rw [if_pos same] at found
      cases found
      refine ⟨same.symm, by rw [same]; exact get?_insert_self _ _ _, fun member => ?_⟩
      obtain ⟨serviceInstanceId, known⟩ := registered.entered leaseId member
      rw [same, fresh] at known
      cases known
    · rw [if_neg same] at found
      obtain ⟨named, known, unentered⟩ := registered.call found
      exact ⟨named, other known, unentered⟩
  · intro leaseId lease found
    obtain ⟨named, known, entered⟩ := registered.lease found
    exact ⟨named, other known, entered⟩
  · intro leaseId member
    obtain ⟨serviceInstanceId, known⟩ := registered.entered leaseId member
    exact ⟨serviceInstanceId, other known⟩

private theorem registered_insert {controller : Nat}
    (found : client.calls.get? leaseId = some call) :
    (client.insert call controller).Registered := by
  obtain ⟨named, known, _⟩ := registered.call found
  refine ⟨?_, ?_, ?_⟩
  · intro wanted held holds
    dsimp only [insert] at holds ⊢
    rw [named, get?_erase] at holds
    by_cases same : wanted = leaseId
    · rw [if_pos same] at holds
      cases holds
    · rw [if_neg same] at holds
      obtain ⟨heldNamed, heldKnown, _⟩ := registered.call holds
      simp_all
  · intro wanted lease holds
    dsimp only [insert] at holds ⊢
    rw [named, get?_insert] at holds
    rw [named, mem_append, mem_singleton]
    by_cases same : wanted = leaseId
    · rw [if_pos same] at holds
      cases holds
      refine ⟨?_, ?_, .inr same⟩
      · rw [same]
        exact named
      · rw [same]
        exact known
    · rw [if_neg same] at holds
      obtain ⟨heldNamed, heldKnown, entered⟩ := registered.lease holds
      exact ⟨heldNamed, heldKnown, .inl entered⟩
  · intro wanted member
    dsimp only [insert] at member ⊢
    rw [named, mem_append, mem_singleton] at member
    rcases member with earlier | rfl
    · exact registered.entered wanted earlier
    · exact ⟨_, known⟩

theorem registered_step (action : Action) : (client.step action).Registered := by
  have move := client.moves_step action
  generalize client.step action = next at move
  cases move with
  | stays => exact registered
  | responds fresh => exact registered_respond registered fresh
  | inserts found phase free => exact registered_insert registered found
  | adopts found phase | joins found phase | revises found phase | releases found phase =>
    exact registered.keep rfl rfl (fun holds => registered.advanced found _ holds)
      (fun holds => ⟨_, holds, rfl⟩)
  | drains found phase free =>
    refine registered.keep rfl rfl (fun holds => registered.advanced found _ holds) ?_
    intro leaseId lease holds
    simp [drain] at holds
  | begins | loads | sends | answers | frees | skips | ends =>
    exact registered.keep rfl rfl (fun holds => ⟨_, holds, rfl⟩) (fun holds => ⟨_, holds, rfl⟩)
  | applies applying found =>
    refine registered.keep rfl rfl (fun holds => ⟨_, holds, rfl⟩) ?_
    refine (SameLeases.insert found ?_).exists_before
    split <;> rfl
  | drops applying found =>
    refine registered.keep rfl rfl (fun holds => ⟨_, holds, rfl⟩) ?_
    grind
  | givesUp =>
    exact registered.keep rfl rfl (fun holds => ⟨_, holds, rfl⟩)
      (SameLeases.foldl_modify _).exists_before
  | @records leaseId direction byteCount =>
    exact registered.keep rfl rfl (fun holds => ⟨_, holds, rfl⟩)
      (SameLeases.modify leaseId fun lease => identity_record lease direction byteCount).exists_before
  | @finishes leaseId =>
    exact registered.keep rfl rfl (fun holds => ⟨_, holds, rfl⟩)
      (SameLeases.modify leaseId identity_finish).exists_before

end SprakCapture.Socks5.AccountServiceClient
