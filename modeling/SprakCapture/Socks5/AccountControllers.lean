import SprakCapture.Socks5.AccountRuns

/-!
# Controllers count their leases

A lease is live from the moment its authentication takes the controller of the account until
the controller is released: in an authentication that has yet to enter it, in the ledger, in
an authentication that took it out after an instance change, or in the worker that dropped it
on a confirmed report. The table of controllers counts the live leases in every state.
-/

namespace SprakCapture.Socks5.AccountServiceClient

open Data List Data.Table Data.SharedTable Socks5.LeaseState AuthenticationCall AccountServiceClient

/-- The live leases, each as the account and the controller it holds. -/
def liveLeases (client : AccountServiceClient) : List (String × Nat) :=
  client.calls.values.flatMap AuthenticationCall.users ++
    (client.leases.values.map user ++ client.worker.users)

/-- The live leases of the other calls. -/
def otherUsers (client : AccountServiceClient) (leaseId : String) : List (String × Nat) :=
  (client.calls.erase leaseId).values.flatMap AuthenticationCall.users

theorem callUsers_perm {client : AccountServiceClient} {leaseId : String}
    {call : AuthenticationCall} (found : client.calls.get? leaseId = some call) :
    (client.calls.values.flatMap users).Perm (call.users ++ client.otherUsers leaseId) := by
  simpa only [otherUsers, flatMap_cons] using (values_perm_of_get? found).flatMap_right users

/-- A call that moves on replaces its live leases. -/
theorem callUsers_advance {client : AccountServiceClient} (registered : client.Registered)
    {leaseId : String} {call : AuthenticationCall}
    (found : client.calls.get? leaseId = some call) (phase : AuthenticationPhase) :
    (client.calls.insert call.response.leaseId { call with phase }).values.flatMap
        users =
      users { call with phase } ++ client.otherUsers leaseId := by
  rw [(registered.call found).1, values_insert, flatMap_cons, otherUsers]

/-- The table of controllers counts the live leases. -/
def ControllersCount (client : AccountServiceClient) : Prop :=
  client.controllers.Counts client.liveLeases

variable {controller : Nat} {lease : LeaseState}

namespace ControllersCount

variable {client : AccountServiceClient}

variable {call : AuthenticationCall} {leaseId : String} {request : SynchronizationRequest}
  {next : AccountServiceClient}

section

variable (counts : client.ControllersCount)
include counts

/-- The live leases with those of one call in front. -/
theorem split (found : client.calls.get? leaseId = some call) :
    client.controllers.Counts (call.users ++ (client.otherUsers leaseId ++
      (client.leases.values.map user ++ client.worker.users))) := by
  refine counts.perm ?_
  rw [← append_assoc call.users]
  exact (callUsers_perm found).append_right _

section

variable (registered : client.Registered)
include registered

section

variable (found : client.calls.get? leaseId = some call)
include found

theorem adopt (phase : call.phase = .adopting) :
    (client.adopt call).ControllersCount := by
  have before := counts.split found
  have none : call.users = [] := by simp [users, phase]
  rw [none] at before
  refine before.perm ?_
  dsimp only [AccountServiceClient.adopt, advance, liveLeases]
  rw [callUsers_advance registered found]
  split <;> rfl

theorem drain (phase : call.phase = .draining) :
    (client.drain call).ControllersCount := by
  have before := counts.split found
  have none : call.users = [] := by simp [users, phase]
  rw [none] at before
  refine before.perm ?_
  dsimp only [AccountServiceClient.drain, advance, liveLeases]
  have removed : users
      { call with phase := .releasing (client.leases.values.map LeaseState.revoke) } =
        client.leases.values.map user := by
    simp only [users, List.map_map]
    rfl
  have emptied : (∅ : Table String LeaseState).values = [] := rfl
  rw [callUsers_advance registered found, removed, emptied, nil_append, append_assoc]
  exact perm_append_comm_assoc _ _ _

theorem releaseNext {rest : List LeaseState} (phase : call.phase = .releasing (lease :: rest)) :
    (client.releaseNext call (lease :: rest)).ControllersCount := by
  have before := counts.split found
  have users : call.users = lease.user :: rest.map user := by
    simp [users, phase]
  rw [users] at before
  refine before.release.perm ?_
  dsimp only [AccountServiceClient.releaseNext, advance, liveLeases]
  rw [callUsers_advance registered found, append_assoc]
  rfl

theorem join (phase : call.phase = .releasing []) :
    (client.join call).ControllersCount := by
  have before := counts.split found
  have none : call.users = [] := by simp [users, phase]
  rw [none] at before
  refine (before.acquire call.response.accountId (.new call.response)).perm ?_
  dsimp only [AccountServiceClient.join, advance, liveLeases]
  rw [callUsers_advance registered found]
  rfl

theorem revise (phase : call.phase = .revising controller) :
    (client.revise call controller).ControllersCount := by
  have before := counts.split found
  have users : call.users = [(call.response.accountId, controller)] := by
    simp [users, phase]
  rw [users] at before
  refine (before.adjust controller (·.update call.response.policyRevision
    call.response.maxUploadBytesPerSecond call.response.maxDownloadBytesPerSecond)).perm ?_
  dsimp only [AccountServiceClient.revise, updateController, advance, liveLeases]
  rw [callUsers_advance registered found]
  rfl

theorem insert (phase : call.phase = .inserting controller) :
    (client.insert call controller).ControllersCount := by
  have before := counts.split found
  have users : call.users = [(call.response.accountId, controller)] := by
    simp [users, phase]
  rw [users] at before
  refine before.perm ?_
  dsimp only [AccountServiceClient.insert, liveLeases]
  rw [(registered.call found).1, values_insert,
    erase_of_get?_eq_none (registered.absent found), singleton_append]
  exact perm_middle.symm

end

end

omit counts in
/-- Steps that leave the calls, the worker's lease and the identities in the ledger alone. -/
theorem keep (controllers : next.controllers.Counts client.liveLeases)
    (calls : next.calls = client.calls) (leases : SameLeases client.leases next.leases)
    (worker : next.worker.users = client.worker.users) : next.ControllersCount := by
  refine controllers.perm ?_
  unfold liveLeases
  rw [calls, worker]
  exact List.Perm.append_left _ (leases.users.symm.append_right _)

theorem updated (controller : Nat) (revision upload download : Int) :
    (client.updateController controller revision upload download).controllers.Counts
      client.liveLeases :=
  SharedTable.Counts.adjust counts controller (·.update revision upload download)

omit counts in
/-- A confirmed lease moves from the ledger to the worker. -/
theorem drop {lease current : LeaseState} {results rest : List SynchronizationResult}
    (applying : client.worker = .applying request results none)
    (found : client.leases.get? leaseId = some lease) (same : identity current = identity lease)
    (controllers : next.controllers.Counts client.liveLeases) (calls : next.calls = client.calls)
    (leases : next.leases = client.leases.erase leaseId)
    (worker : next.worker = .applying request rest (some current)) : next.ControllersCount := by
  refine controllers.perm ?_
  have ledger := (values_perm_of_get? found).map user
  unfold liveLeases
  grind [WorkerPhase.users, user_eq_of_identity]

theorem releaseConfirmed {results : List SynchronizationResult}
    (applying : client.worker = .applying request results (some lease)) :
    (client.releaseConfirmed request results lease).ControllersCount := by
  have before : client.controllers.Counts
      (lease.user :: (client.calls.values.flatMap users ++ client.leases.values.map user)) := by
    refine counts.perm ?_
    unfold liveLeases
    rw [applying, ← append_assoc]
    exact perm_append_singleton _ _
  refine before.release.perm ?_
  dsimp only [AccountServiceClient.releaseConfirmed, liveLeases, WorkerPhase.users]
  rw [append_nil]

end

end ControllersCount

/-- Every step keeps the counts. -/
theorem controllersCount_step {client : AccountServiceClient} (registered : client.Registered)
    (counts : client.ControllersCount) (action : Action) :
    (client.step action).ControllersCount := by
  have move := client.moves_step action
  generalize client.step action = next at move
  cases move with
  | stays => exact counts
  | @responds _ response fresh =>
    have unknown : client.calls.get? response.leaseId = none := by
      cases held : client.calls.get? response.leaseId with
      | none => rfl
      | some call =>
        have known := (registered.call held).2.1
        rw [fresh] at known
        cases known
    refine SharedTable.Counts.perm counts ?_
    dsimp only [liveLeases]
    rw [values_insert, erase_of_get?_eq_none unknown]
    rfl
  | adopts found phase => exact counts.adopt registered found phase
  | drains found phase free => exact counts.drain registered found phase
  | releases found phase => exact counts.releaseNext registered found phase
  | joins found phase => exact counts.join registered found phase
  | revises found phase => exact counts.revise registered found phase
  | inserts found phase free => exact counts.insert registered found phase
  | begins idle _ found => exact .keep counts rfl (.refl _) (by rw [idle]; rfl)
  | @loads _ uploaded downloaded leaseId _ lease building found =>
    refine .keep counts rfl (.refl _) ?_
    rw [building]
    cases uploaded <;> cases downloaded <;> rfl
  | sends building => exact .keep counts rfl (.refl _) (by rw [building]; rfl)
  | answers sent => exact .keep counts rfl (.refl _) (by rw [sent]; rfl)
  | frees applying => exact counts.releaseConfirmed applying
  | skips applying | ends applying => exact .keep counts rfl (.refl _) (by rw [applying]; rfl)
  | applies applying found =>
    refine .keep (counts.updated _ _ _ _) rfl (.insert found ?_) (by rw [applying]; rfl)
    split <;> rfl
  | drops applying found =>
    refine .drop applying found ?_ (counts.updated _ _ _ _) rfl rfl rfl
    split <;> rfl
  | givesUp sent => exact .keep counts rfl (.foldl_modify _) (by rw [sent]; rfl)
  | @records leaseId direction byteCount =>
    exact .keep counts rfl
      (.modify leaseId fun lease => identity_record lease direction byteCount) rfl
  | @finishes leaseId => exact .keep counts rfl (.modify leaseId identity_finish) rfl

/-! ### Revisions -/

/-- The policies that the controllers hold are at least as new as those of an earlier state. -/
def RevisionsFrom (earlier later : AccountServiceClient) : Prop :=
  ∀ controller policy, earlier.controllers.value? controller = some policy →
    ∃ current, later.controllers.value? controller = some current ∧
      policy.policyRevision ≤ current.policyRevision

theorem RevisionsFrom.of_value? {earlier later : AccountServiceClient}
    (same : ∀ controller policy, earlier.controllers.value? controller = some policy →
      later.controllers.value? controller = some policy) : RevisionsFrom earlier later :=
  fun _ _ held => ⟨_, same _ _ held, Int.le_refl _⟩

theorem RevisionsFrom.trans {first second third : AccountServiceClient}
    (early : RevisionsFrom first second) (late : RevisionsFrom second third) :
    RevisionsFrom first third := by
  intro controller policy held
  obtain ⟨middle, heldMiddle, _⟩ := early controller policy held
  obtain ⟨_, _, _⟩ := late controller middle heldMiddle
  grind

/-- An update never installs an older revision. -/
theorem revisionsFrom_update {client next : AccountServiceClient} {revision upload download : Int}
    (controllers : next.controllers =
      client.controllers.adjust controller (·.update revision upload download)) :
    RevisionsFrom client next := by
  intro wanted policy held
  rw [controllers, value?_adjust, held]
  by_cases same : controller = wanted
  · rw [if_pos same]
    exact ⟨_, rfl, policy.policyRevision_le_update revision upload download⟩
  simp_all

variable (client : AccountServiceClient)

theorem revisionsFrom_step (action : Action) :
    RevisionsFrom client (client.step action) := by
  have move := client.moves_step action
  generalize client.step action = next at move
  cases move with
  | stays | responds | adopts | drains | inserts | begins | loads | sends | answers | skips | ends
  | givesUp | records | finishes => exact .of_value? fun _ _ held => held
  | joins found phase => exact .of_value? fun _ _ held => value?_acquire held
  | revises found phase => exact revisionsFrom_update rfl
  | applies applying found => exact revisionsFrom_update rfl
  | drops applying found => exact revisionsFrom_update rfl
  | releases found phase =>
    exact .of_value? fun _ _ held => (value?_release _ _ _ _).trans held
  | frees applying =>
    exact .of_value? fun _ _ held => (value?_release _ _ _ _).trans held

theorem revisionsFrom_runFrom (actions : List Action) :
    RevisionsFrom client (machine.runFrom client actions) := by
  induction actions generalizing client with
  | nil => exact .of_value? fun _ _ held => held
  | cons action _ ih => exact (revisionsFrom_step client action).trans (ih (client.step action))

/-- In every state that a run reaches, an account has a controller exactly while it has a live
lease, the controller counts the live leases of the account, all of them hold this controller,
and no later state has an older revision in it. Between authentications and applications of
responses the live leases are those of the ledger. -/
theorem controllers_exact (actions more : List Action) :
    let client := machine.run actions
    (∀ account, (client.controllers.entries.get? account).isSome ↔
      ∃ controller, (account, controller) ∈ client.liveLeases) ∧
    (∀ account controller, client.controllers.entries.get? account = some controller →
      ∃ policy, client.controllers.objects[controller]? =
        some (policy, client.liveLeases.countP fun lease => lease.1 = account)) ∧
    (∀ account first second, (account, first) ∈ client.liveLeases →
      (account, second) ∈ client.liveLeases → first = second) ∧
    (∀ controller policy, client.controllers.value? controller = some policy →
      ∃ later, (machine.run (actions ++ more)).controllers.value? controller = some later ∧
        policy.policyRevision ≤ later.policyRevision) ∧
    ((∀ leaseId call, client.calls.get? leaseId = some call → call.users = []) →
      client.worker.users = [] → client.liveLeases = client.leases.values.map user) := by
  have reached : (machine.run actions).Registered ∧ (machine.run actions).ControllersCount := by
    refine @Machine.invariant_run _ _ machine
      (fun client => client.Registered ∧ client.ControllersCount)
      ⟨registered_new, counts_empty⟩ ?_ _
    rintro client action ⟨registered, counts⟩
    exact ⟨registered_step registered action, controllersCount_step registered counts action⟩
  obtain ⟨-, counts⟩ := reached
  refine ⟨counts.isSome_iff, ?_, ?_, ?_, ?_⟩
  · intro account controller found
    exact (counts.counted found).2
  · intro account first second firstMember secondMember
    exact Option.some.inj ((counts.entry firstMember).symm.trans (counts.entry secondMember))
  · intro controller policy held
    rw [machine.run_append]
    exact revisionsFrom_runFrom _ more controller policy held
  · intro quiet idle
    have none : (machine.run actions).calls.values.flatMap AuthenticationCall.users = [] := by
      rw [flatMap_eq_nil_iff]
      intro call member
      obtain ⟨leaseId, found⟩ := mem_values.mp member
      exact quiet leaseId call found
    rw [liveLeases, none, idle, nil_append, append_nil]

end SprakCapture.Socks5.AccountServiceClient
