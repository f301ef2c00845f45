import SprakCapture.Socks5.AccountRuns

/-!
# Batches and service instances

A batch names the instance of one of its leases. `adoptServiceInstance` and the entry of a
lease into the ledger are separate lock regions, so batches are about one instance only in
runs in which no authentication overtakes an instance change.
-/

namespace SprakCapture.Socks5.AccountServiceClient

open Data List Table AccountServiceClient

/-- Some authentication has adopted another instance and has yet to empty the ledger. -/
def Draining (client : AccountServiceClient) : Prop :=
  ∃ leaseId call, client.calls.get? leaseId = some call ∧ call.phase = .draining

/-- An authentication does not overtake an instance change: no other instance is adopted and no
lease is entered before the ledger is emptied, and a lease is entered only while the instance
that issued it is the current one. -/
def Unovertaken (client : AccountServiceClient) : Action → Prop
  | .adopt leaseId =>
    ∀ call ∈ client.calls.get? leaseId,
      client.serviceInstanceId = some call.response.serviceInstanceId ∨ ¬ client.Draining
  | .insert leaseId =>
    ∀ call ∈ client.calls.get? leaseId,
      client.serviceInstanceId = some call.response.serviceInstanceId ∧ ¬ client.Draining
  | _ => True

instance (phase : AuthenticationPhase) : Decidable (phase = .draining) :=
  match phase with
  | .draining => isTrue rfl
  | .adopting | .releasing _ | .revising _ | .inserting _ => isFalse nofun

theorem draining_iff_values {client : AccountServiceClient} :
    client.Draining ↔ ∃ call ∈ client.calls.values, call.phase = .draining := by
  simp only [Draining, mem_values]
  grind

instance (client : AccountServiceClient) : Decidable client.Draining :=
  decidable_of_iff _ draining_iff_values.symm

instance (client : AccountServiceClient) : ∀ action, Decidable (client.Unovertaken action)
  | .adopt _ => Option.decidableForallMem _
  | .insert _ => Option.decidableForallMem _
  | .record _ _ _ | .finish _ | .respond _ _ | .drain _ | .releaseNext _ | .join _ | .revise _
  | .beginBatch _ _ | .load | .send | .answer _ | .applyNext | .giveUp => isTrue trivial

/-- The leases of the ledger are of the current instance; while it is to be emptied, they are of
one instance that is no longer current. -/
structure Uniform (client : AccountServiceClient) : Prop where
  current : ¬ client.Draining → ∀ leaseId lease, client.leases.get? leaseId = some lease →
    client.serviceInstanceId = some lease.serviceInstanceId
  replaced : client.Draining → ∀ leaseId lease, client.leases.get? leaseId = some lease →
    client.serviceInstanceId ≠ some lease.serviceInstanceId
  single : ∀ leaseId lease other otherLease, client.leases.get? leaseId = some lease →
    client.leases.get? other = some otherLease →
      lease.serviceInstanceId = otherLease.serviceInstanceId

/-- Every report of a batch is about a lease of the instance that the batch names. -/
def IssuedBy (issued : Table String String) (request : SynchronizationRequest) : Prop :=
  ∀ report ∈ request.leases, issued.get? report.leaseId = some request.serviceInstanceId

/-- A batch under construction goes through the ledger. -/
structure Builds (client : AccountServiceClient) (request : SynchronizationRequest)
    (remaining : List String) : Prop where
  issued : IssuedBy client.issued request
  uniform : ∀ leaseId ∈ remaining, ∀ lease, client.leases.get? leaseId = some lease →
    lease.serviceInstanceId = request.serviceInstanceId
  complete : (request.leases.map LeaseProgress.leaseId ++ remaining).Perm client.leaseIds

/-- A lease left the ledger on a confirmed final report, or because another instance than the
one that issued it was current. -/
def Departed (client : AccountServiceClient) (leaseId : String) : Prop :=
  (∃ lease report, (lease, report) ∈ client.reported ∧ lease.leaseId = leaseId) ∨
    ∃ lease current, (lease, current) ∈ client.discarded ∧ lease.leaseId = leaseId ∧
      current ≠ some lease.serviceInstanceId

variable {leaseId : String}

variable {client : AccountServiceClient}

theorem mem_leaseIds :
    leaseId ∈ client.leaseIds ↔ ∃ lease, client.leases.get? leaseId = some lease := by
  simp only [leaseIds, List.mem_map, Prod.exists, mem_toList, exists_and_right, exists_eq_right]

theorem nodup_leaseIds (client : AccountServiceClient) : client.leaseIds.Nodup := by
  have keys : client.leaseIds = client.leases.keys := by
    simp [leaseIds, toList, AList.keys, List.keys]
  rw [keys]
  exact client.leases.nodupKeys

variable {next : AccountServiceClient}

/-- Ledgers with the same leases have the same ids. -/
theorem leaseIds_perm (same : SameLeases client.leases next.leases) :
    client.leaseIds.Perm next.leaseIds := by
  rw [perm_ext_iff_of_nodup (nodup_leaseIds client) (nodup_leaseIds next)]
  intro leaseId
  rw [mem_leaseIds, mem_leaseIds]
  constructor
  · rintro ⟨lease, found⟩
    obtain ⟨later, held, -⟩ := same.exists_after found
    exact ⟨later, held⟩
  · rintro ⟨lease, found⟩
    obtain ⟨earlier, held, -⟩ := same.exists_before found
    exact ⟨earlier, held⟩

theorem draining_iff {leaseId : String}
    (others : ∀ wanted, wanted ≠ leaseId → next.calls.get? wanted = client.calls.get? wanted)
    (before : ∀ call, client.calls.get? leaseId = some call → call.phase ≠ .draining)
    (after : ∀ call, next.calls.get? leaseId = some call → call.phase ≠ .draining) :
    next.Draining ↔ client.Draining := by
  constructor
  · rintro ⟨wanted, call, found, phase⟩
    by_cases same : wanted = leaseId
    · exact absurd phase (after call (same ▸ found))
    · exact ⟨wanted, call, (others wanted same) ▸ found, phase⟩
  · rintro ⟨wanted, call, found, phase⟩
    by_cases same : wanted = leaseId
    · exact absurd phase (before call (same ▸ found))
    · exact ⟨wanted, call, (others wanted same).trans found, phase⟩

variable {call : AuthenticationCall}

/-- A call that moves on between phases other than emptying the ledger. -/
theorem draining_advance {client next : AccountServiceClient} (registered : client.Registered)
    (found : client.calls.get? leaseId = some call) (before : call.phase ≠ .draining)
    {phase : AuthenticationPhase} (after : phase ≠ .draining)
    (calls : next.calls = client.calls.insert call.response.leaseId { call with phase }) :
    next.Draining ↔ client.Draining := by
  rw [(registered.call found).1] at calls
  refine @draining_iff _ _ leaseId ?_ ?_ ?_
  · grind
  · simp_all
  simp_all

/-- A client whose ledger, batches and history are about one instance at a time. -/
structure Isolated (client : AccountServiceClient) : Prop where
  uniform : client.Uniform
  building : ∀ request uploaded downloaded remaining,
    client.worker = .building request uploaded downloaded remaining →
      client.Builds request remaining
  batches : ∀ request ids, (request, ids) ∈ client.batches → IssuedBy client.issued request
  discarded : ∀ lease current, (lease, current) ∈ client.discarded →
    current ≠ some lease.serviceInstanceId

theorem isolated_new : new.Isolated where
  uniform :=
    { current := by simp [new]
      replaced := by simp [new]
      single := by simp [new] }
  building := by simp [new]
  batches := by simp [new]
  discarded := by simp [new]

namespace Uniform

variable {client next : AccountServiceClient}

/-- The ledger keeps or loses leases under the same instance. -/
theorem keep (uniform : client.Uniform)
    (leases : ∀ leaseId lease, next.leases.get? leaseId = some lease →
      ∃ earlier, client.leases.get? leaseId = some earlier ∧
        lease.serviceInstanceId = earlier.serviceInstanceId)
    (serviceInstanceId : next.serviceInstanceId = client.serviceInstanceId)
    (draining : next.Draining ↔ client.Draining) : next.Uniform := by
  refine ⟨?_, ?_, ?_⟩
  · intro quiet leaseId lease found
    obtain ⟨earlier, held, same⟩ := leases leaseId lease found
    rw [serviceInstanceId, same]
    exact uniform.current (fun running => quiet (draining.mpr running)) leaseId earlier held
  · intro running leaseId lease found
    obtain ⟨earlier, held, same⟩ := leases leaseId lease found
    rw [serviceInstanceId, same]
    exact uniform.replaced (draining.mp running) leaseId earlier held
  · intro leaseId lease other otherLease found otherFound
    obtain ⟨earlier, held, same⟩ := leases leaseId lease found
    obtain ⟨otherEarlier, otherHeld, otherSame⟩ := leases other otherLease otherFound
    rw [same, otherSame]
    exact uniform.single leaseId earlier other otherEarlier held otherHeld

theorem of_empty (empty : ∀ leaseId, client.leases.get? leaseId = none) : client.Uniform := by
  refine ⟨?_, ?_, ?_⟩
  · simp_all
  · simp_all
  simp_all

/-- Adopting the current instance changes nothing; adopting another one puts the ledger out of
date. -/
theorem adopt (uniform : client.Uniform) (registered : client.Registered)
    (found : client.calls.get? leaseId = some call) (phase : call.phase = .adopting)
    (unovertaken : client.Unovertaken (.adopt leaseId)) : (client.adopt call).Uniform := by
  have adopting : call.phase ≠ .draining := by rw [phase]; exact nofun
  have releasing : AuthenticationPhase.releasing [] ≠ .draining := nofun
  rcases unovertaken call found with same | quiet
  · refine uniform.keep (fun _ lease held => ⟨lease, held, rfl⟩) same.symm ?_
    refine draining_advance registered found adopting releasing ?_
    simp only [AccountServiceClient.adopt, advance, same]
    simp
  · have current := uniform.current quiet
    cases named : client.serviceInstanceId with
    | none =>
      refine of_empty fun wanted => ?_
      cases held : client.leases.get? wanted with
      | none => exact held
      | some lease =>
        have issued := current wanted lease held
        rw [named] at issued
        cases issued
    | some old =>
      by_cases same : old = call.response.serviceInstanceId
      · refine uniform.keep (fun _ lease held => ⟨lease, held, rfl⟩) (by rw [named, same]; rfl) ?_
        refine draining_advance registered found adopting releasing ?_
        simp only [AccountServiceClient.adopt, advance, named, same]
        simp
      · have running : (client.adopt call).Draining := by
          refine ⟨leaseId, { call with phase := .draining }, ?_, rfl⟩
          simp [AccountServiceClient.adopt, advance, named, same, (registered.call found).1]
        refine ⟨fun quiet => absurd running quiet, ?_, uniform.single⟩
        intro _ wanted lease held issued
        have issuedBefore := current wanted lease held
        rw [named] at issuedBefore
        exact same (Option.some.inj (issuedBefore.trans issued.symm))

theorem insert (uniform : client.Uniform) (registered : client.Registered) {controller : Nat}
    (found : client.calls.get? leaseId = some call) (phase : call.phase = .inserting controller)
    (unovertaken : client.Unovertaken (.insert leaseId)) :
    (client.insert call controller).Uniform := by
  obtain ⟨own, quiet⟩ := unovertaken call found
  have draining : (client.insert call controller).Draining ↔ client.Draining := by
    refine @draining_iff _ _ leaseId ?_ ?_ ?_
    · intro wanted different
      dsimp only [AccountServiceClient.insert]
      rw [(registered.call found).1, get?_erase, if_neg different]
    · simp_all
    grind [insert]
  have current : ∀ wanted lease,
      (client.insert call controller).leases.get? wanted = some lease →
        client.serviceInstanceId = some lease.serviceInstanceId := by
    intro wanted lease holds
    dsimp only [AccountServiceClient.insert] at holds
    rw [get?_insert] at holds
    split at holds
    · cases holds
      exact own
    · exact uniform.current quiet wanted lease holds
  refine ⟨fun _ => current, fun running => absurd (draining.mp running) quiet, ?_⟩
  grind

end Uniform

variable {request : SynchronizationRequest}

theorem IssuedBy.mono {issued later : Table String String} (issuedBy : IssuedBy issued request)
    (grows : ∀ leaseId serviceInstanceId, issued.get? leaseId = some serviceInstanceId →
      later.get? leaseId = some serviceInstanceId) : IssuedBy later request :=
  fun report member => grows _ _ (issuedBy report member)

/-- A batch goes on over a ledger with the same leases. -/
theorem Builds.keep {client next : AccountServiceClient} {remaining : List String}
    (builds : client.Builds request remaining)
    (grows : ∀ leaseId serviceInstanceId, client.issued.get? leaseId = some serviceInstanceId →
      next.issued.get? leaseId = some serviceInstanceId)
    (same : SameLeases client.leases next.leases) : next.Builds request remaining where
  issued := builds.issued.mono grows
  uniform leaseId member lease found := by
    obtain ⟨earlier, held, identical⟩ := same.exists_before found
    simp only [identity, Prod.mk.injEq] at identical
    rw [identical.2.1]
    exact builds.uniform leaseId member earlier held
  complete := builds.complete.trans (leaseIds_perm same)

/-- The next load of the worker. -/
theorem Builds.load {client : AccountServiceClient} (registered : client.Registered)
    {uploaded downloaded : Option Nat} {rest : List String} {lease : LeaseState}
    (builds : client.Builds request (leaseId :: rest))
    (found : client.leases.get? leaseId = some lease) {nextRequest : SynchronizationRequest}
    {nextUploaded nextDownloaded : Option Nat} {remaining : List String}
    (loaded : load request uploaded downloaded lease rest =
      .building nextRequest nextUploaded nextDownloaded remaining) :
    client.Builds nextRequest remaining := by
  obtain ⟨named, issued, -⟩ := registered.lease found
  cases uploaded with
  | none =>
    cases loaded
    rwa [named]
  | some =>
    cases downloaded with
    | none =>
      cases loaded
      rwa [named]
    | some =>
      cases loaded
      have own := builds.uniform leaseId mem_cons_self lease found
      refine ⟨?_, ?_, ?_⟩
      · intro report member
        rcases mem_append.mp member with earlier | _
        · exact builds.issued report earlier
        simp_all
      · exact fun wanted member => builds.uniform wanted (mem_cons_of_mem _ member)
      · simpa [named] using builds.complete

namespace Isolated

variable {client next : AccountServiceClient}

/-- A step that leaves the batches and the identities in the ledger alone. -/
theorem keep (isolated : client.Isolated) (uniform : next.Uniform)
    (worker : ∀ request uploaded downloaded remaining,
      next.worker = .building request uploaded downloaded remaining →
        ∃ earlierUploaded earlierDownloaded, client.worker =
          .building request earlierUploaded earlierDownloaded remaining)
    (leases : ∀ request uploaded downloaded remaining,
      next.worker = .building request uploaded downloaded remaining →
        SameLeases client.leases next.leases)
    (grows : ∀ leaseId serviceInstanceId, client.issued.get? leaseId = some serviceInstanceId →
      next.issued.get? leaseId = some serviceInstanceId)
    (batches : next.batches = client.batches) (discarded : next.discarded = client.discarded) :
    next.Isolated := by
  refine ⟨uniform, ?_, ?_, ?_⟩
  · intro request uploaded downloaded remaining now
    obtain ⟨earlierUploaded, earlierDownloaded, before⟩ := worker _ _ _ _ now
    exact (isolated.building _ _ _ _ before).keep grows (leases _ _ _ _ now)
  · intro request ids member
    rw [batches] at member
    exact (isolated.batches request ids member).mono grows
  · rw [discarded]
    exact isolated.discarded

/-- A step of an authentication before it enters its lease. -/
theorem keepLedger (isolated : client.Isolated) (uniform : next.Uniform)
    (worker : next.worker = client.worker) (leases : next.leases = client.leases)
    (issued : next.issued = client.issued) (batches : next.batches = client.batches)
    (discarded : next.discarded = client.discarded) : next.Isolated := by
  refine isolated.keep uniform ?_ ?_ ?_ batches discarded
  · simp_all
  · intro _ _ _ _ _
    rw [leases]
    exact .refl _
  simp_all

end Isolated

variable {client : AccountServiceClient}

private theorem isolated_respond (registered : client.Registered) (isolated : client.Isolated)
    {connectionId : String} {response : AuthenticationResponse}
    (fresh : client.issued.get? response.leaseId = none) :
    Isolated
      { client with
        issued := client.issued.insert response.leaseId response.serviceInstanceId
        calls := client.calls.insert response.leaseId
          { connectionId, response, phase := .adopting } } := by
  refine isolated.keep ?_ (fun _ uploaded downloaded _ now => ⟨uploaded, downloaded, now⟩)
    (fun _ _ _ _ _ => .refl _) ?_ rfl rfl
  · refine isolated.uniform.keep (fun _ lease held => ⟨lease, held, rfl⟩) rfl ?_
    refine @draining_iff _ _ response.leaseId ?_ ?_ ?_
    · intro wanted different
      rw [get?_insert, if_neg different]
    · intro call found
      have known := (registered.call found).2.1
      rw [fresh] at known
      cases known
    · intro call found
      rw [get?_insert_self] at found
      cases found
      exact nofun
  · intro leaseId serviceInstanceId known
    rw [get?_insert, if_neg, known]
    rintro rfl
    rw [fresh] at known
    cases known

private theorem isolated_drain (isolated : client.Isolated)
    (found : client.calls.get? leaseId = some call) (phase : call.phase = .draining)
    (free : client.worker.locksLeases = false) : (client.drain call).Isolated := by
  have running : client.Draining := ⟨leaseId, call, found, phase⟩
  refine ⟨.of_empty fun wanted => rfl, ?_, isolated.batches, ?_⟩
  · intro request uploaded downloaded remaining now
    have locked : client.worker.locksLeases = true := by
      rw [show client.worker = _ from now]
      rfl
    rw [locked] at free
    cases free
  · intro lease current member
    rcases mem_append.mp member with earlier | new
    · exact isolated.discarded lease current earlier
    · obtain ⟨_, held, same⟩ := List.mem_map.mp new
      obtain ⟨wanted, stored⟩ := mem_values.mp held
      obtain ⟨rfl, rfl⟩ := Prod.mk.inj same
      exact isolated.uniform.replaced running wanted _ stored

private theorem isolated_insert (registered : client.Registered) (isolated : client.Isolated)
    {controller : Nat} (found : client.calls.get? leaseId = some call)
    (phase : call.phase = .inserting controller) (free : client.worker.locksLeases = false)
    (unovertaken : client.Unovertaken (.insert leaseId)) :
    (client.insert call controller).Isolated := by
  refine ⟨isolated.uniform.insert registered found phase unovertaken, ?_, isolated.batches,
    isolated.discarded⟩
  intro request uploaded downloaded remaining now
  have locked : client.worker.locksLeases = true := by
    rw [show client.worker = _ from now]
    rfl
  rw [locked] at free
  cases free

private theorem isolated_begin (isolated : client.Isolated) {batchId leaseId : String}
    {order : List String} {first : LeaseState} (found : client.leases.get? leaseId = some first)
    (complete : order.Perm client.leaseIds) :
    Isolated
      { client with
        worker := .building
          { serviceInstanceId := first.serviceInstanceId, batchId, leases := [] }
          none none order } := by
  refine ⟨isolated.uniform.keep (fun _ lease held => ⟨lease, held, rfl⟩) rfl .rfl, ?_,
    isolated.batches, isolated.discarded⟩
  intro request uploaded downloaded remaining now
  cases now
  refine ⟨by simp [IssuedBy], ?_, complete⟩
  intro wanted member lease held
  exact isolated.uniform.single wanted lease leaseId first held found

variable {next : AccountServiceClient}

/-- A call moves on between phases other than emptying the ledger. -/
private theorem isolated_advance (registered : client.Registered) (isolated : client.Isolated)
    (found : client.calls.get? leaseId = some call) (before : call.phase ≠ .draining)
    (phase : AuthenticationPhase) (after : phase ≠ .draining)
    (calls : next.calls = client.calls.insert call.response.leaseId { call with phase })
    (serviceInstanceId : next.serviceInstanceId = client.serviceInstanceId)
    (worker : next.worker = client.worker) (leases : next.leases = client.leases)
    (issued : next.issued = client.issued) (batches : next.batches = client.batches)
    (discarded : next.discarded = client.discarded) : next.Isolated := by
  refine isolated.keepLedger ?_ worker leases issued batches discarded
  refine isolated.uniform.keep ?_ serviceInstanceId
    (draining_advance registered found before after calls)
  simp_all

/-- Leases change in their counters and flags. -/
private theorem isolated_sameLeases (isolated : client.Isolated)
    (same : SameLeases client.leases next.leases) (worker : ∀ request uploaded downloaded remaining,
      next.worker = .building request uploaded downloaded remaining →
        ∃ earlierUploaded earlierDownloaded, client.worker =
          .building request earlierUploaded earlierDownloaded remaining)
    (calls : next.calls = client.calls)
    (serviceInstanceId : next.serviceInstanceId = client.serviceInstanceId)
    (issued : next.issued = client.issued) (batches : next.batches = client.batches)
    (discarded : next.discarded = client.discarded) : next.Isolated := by
  refine isolated.keep (isolated.uniform.keep ?_ serviceInstanceId ?_) worker
    (fun _ _ _ _ _ => same) ?_ batches discarded
  · intro leaseId lease found
    obtain ⟨_, _, _⟩ := same.exists_before found
    grind [identity]
  · unfold Draining
    rw [calls]
  simp_all

theorem isolated_step (registered : client.Registered) (isolated : client.Isolated)
    (action : Action) (unovertaken : client.Unovertaken action) :
    (client.step action).Isolated := by
  have uniform := isolated.uniform
  have move := client.moves_step action
  generalize client.step action = next at move
  cases move with
  | stays => exact isolated
  | responds fresh => exact isolated_respond registered isolated fresh
  | adopts found phase =>
    exact isolated.keepLedger (uniform.adopt registered found phase unovertaken) rfl rfl rfl rfl rfl
  | drains found phase free => exact isolated_drain isolated found phase free
  | inserts found phase free => exact isolated_insert registered isolated found phase free unovertaken
  | releases found phase | joins found phase | revises found phase =>
    exact isolated_advance registered isolated found (by simp [phase]) _ (by simp) rfl rfl rfl rfl
      rfl rfl rfl
  | begins _ _ found complete => exact isolated_begin isolated found complete
  | loads building found =>
    refine ⟨uniform.keep (fun _ lease held => ⟨lease, held, rfl⟩) rfl .rfl, ?_,
      isolated.batches, isolated.discarded⟩
    intro request uploaded downloaded remaining now
    have builds := (isolated.building _ _ _ _ building).load registered found now
    exact builds.keep (fun _ _ known => known) (.refl _)
  | sends building =>
    refine ⟨uniform.keep (fun _ lease held => ⟨lease, held, rfl⟩) rfl .rfl,
      nofun, ?_, isolated.discarded⟩
    intro request ids member
    rcases mem_append.mp member with earlier | new
    · exact isolated.batches request ids earlier
    · cases mem_singleton.mp new
      exact (isolated.building _ _ _ _ building).issued
  | answers | frees | skips | ends =>
    exact isolated.keep (uniform.keep (fun _ lease held => ⟨lease, held, rfl⟩) rfl .rfl)
      nofun nofun
      (fun _ _ known => known) rfl rfl
  | @applies request result _ lease applying found =>
    refine isolated.keep (uniform.keep ?_ rfl .rfl) nofun nofun (fun _ _ known => known) rfl rfl
    intro leaseId held holds
    rw [get?_insert] at holds
    split at holds
    · cases holds
      refine ⟨lease, ‹leaseId = result.leaseId› ▸ found, ?_⟩
      split <;> rfl
    · exact ⟨held, holds, rfl⟩
  | drops applying found =>
    refine isolated.keep (uniform.keep ?_ rfl .rfl) nofun nofun (fun _ _ known => known) rfl rfl
    grind
  | givesUp =>
    exact isolated_sameLeases isolated (.foldl_modify _) nofun rfl rfl
      rfl rfl rfl
  | @records leaseId direction byteCount =>
    exact isolated_sameLeases isolated
      (.modify leaseId fun lease => identity_record lease direction byteCount)
      (fun _ uploaded downloaded _ now => ⟨uploaded, downloaded, now⟩) rfl rfl rfl rfl rfl
  | @finishes leaseId =>
    exact isolated_sameLeases isolated (.modify leaseId identity_finish)
      (fun _ uploaded downloaded _ now => ⟨uploaded, downloaded, now⟩) rfl rfl rfl rfl rfl

/-! ### Leases stay in the batches -/

/-- What has left the ledger stays recorded. -/
theorem departed_step (departed : client.Departed leaseId) (action : Action) :
    (client.step action).Departed leaseId := by
  have grows : (∃ more, (client.step action).reported = client.reported ++ more) ∧
      ∃ more, (client.step action).discarded = client.discarded ++ more := by
    have move := client.moves_step action
    generalize client.step action = next at move
    cases move with
    | drains => exact ⟨⟨[], (append_nil _).symm⟩, _, rfl⟩
    | drops => exact ⟨⟨_, rfl⟩, [], (append_nil _).symm⟩
    | _ => exact ⟨⟨[], (append_nil _).symm⟩, [], (append_nil _).symm⟩
  obtain ⟨⟨_, reported⟩, _, discarded⟩ := grows
  rcases departed with ⟨lease, report, member, named⟩ | ⟨lease, current, member, rest⟩
  · exact .inl ⟨lease, report, by rw [reported]; exact mem_append_left _ member, named⟩
  · exact .inr ⟨lease, current, by rw [discarded]; exact mem_append_left _ member, rest⟩

/-- A lease stays in the ledger until it is confirmed or its instance is replaced. -/
theorem held_step (registered : client.Registered) (isolated : client.Isolated) {lease : LeaseState}
    (held : client.leases.get? leaseId = some lease) (action : Action) :
    (∃ later, (client.step action).leases.get? leaseId = some later) ∨
      (client.step action).Departed leaseId := by
  have named := (registered.lease held).1
  have move := client.moves_step action
  generalize client.step action = next at move
  cases move with
  | stays | responds | adopts | releases | joins | revises | begins | loads | sends | answers
  | frees | skips | ends => exact .inl ⟨lease, held⟩
  | @drains other call found phase free =>
    have member : (lease, client.serviceInstanceId) ∈ (client.drain call).discarded :=
      mem_append_right _ (List.mem_map.mpr ⟨lease, mem_values.mpr ⟨_, held⟩, rfl⟩)
    exact .inr (.inr ⟨lease, _, member, named,
      isolated.uniform.replaced ⟨other, call, found, phase⟩ leaseId lease held⟩)
  | inserts found phase free =>
    grind [insert]
  | applies applying found =>
    grind
  | @drops _ result _ other report applying found =>
    by_cases same : leaseId = result.leaseId
    · refine .inr (.inl ⟨_, report, mem_append_right _ (mem_singleton.mpr rfl), ?_⟩)
      rw [same] at held
      cases held.symm.trans found
      rw [← named]
      split <;> rfl
    grind
  | givesUp =>
    obtain ⟨later, found, -⟩ := (SameLeases.foldl_modify _).exists_after held
    exact .inl ⟨later, found⟩
  | @records other direction byteCount =>
    obtain ⟨later, found, -⟩ := (SameLeases.modify other
      fun lease => identity_record lease direction byteCount).exists_after held
    exact .inl ⟨later, found⟩
  | @finishes other =>
    obtain ⟨later, found, -⟩ := (SameLeases.modify other identity_finish).exists_after held
    exact .inl ⟨later, found⟩

/-- A step completes at most one batch, which has a report on every lease of the ledger. -/
theorem batches_step (isolated : client.Isolated) (action : Action) :
    ∃ more, (client.step action).batches = client.batches ++ more ∧
      ∀ batch ∈ more, ∀ leaseId lease, client.leases.get? leaseId = some lease →
        leaseId ∈ batch.1.leases.map LeaseProgress.leaseId := by
  have move := client.moves_step action
  generalize client.step action = next at move
  cases move with
  | sends building =>
    refine ⟨_, rfl, ?_⟩
    intro batch member leaseId lease held
    have complete := (isolated.building _ _ _ _ building).complete
    rw [append_nil] at complete
    rw [mem_singleton.mp member]
    exact complete.mem_iff.mpr (mem_leaseIds.mpr ⟨lease, held⟩)
  | _ => exact ⟨[], (append_nil _).symm, nofun⟩

theorem departed_runFrom (departed : client.Departed leaseId) (actions : List Action) :
    (machine.runFrom client actions).Departed leaseId :=
  @Machine.invariant_runFrom _ _ machine (fun client => client.Departed leaseId)
    (fun _ action departed => departed_step departed action) _ departed _

/-- A lease of the ledger is in every batch that is completed while it stays there. -/
theorem included_runFrom (registered : client.Registered) (isolated : client.Isolated)
    (held : (∃ lease, client.leases.get? leaseId = some lease) ∨ client.Departed leaseId)
    {actions : List Action} (unovertaken : machine.Guarded Unovertaken client actions) :
    ∃ more, (machine.runFrom client actions).batches = client.batches ++ more ∧
      ((∀ batch ∈ more, leaseId ∈ batch.1.leases.map LeaseProgress.leaseId) ∨
        (machine.runFrom client actions).Departed leaseId) := by
  induction actions generalizing client with
  | nil => exact ⟨[], (append_nil _).symm, .inl nofun⟩
  | cons action rest ih =>
    obtain ⟨now, later⟩ := unovertaken
    obtain ⟨new, grown, included⟩ := batches_step isolated action
    have next : (∃ lease, (client.step action).leases.get? leaseId = some lease) ∨
        (client.step action).Departed leaseId := by
      rcases held with ⟨lease, found⟩ | departed
      · exact held_step registered isolated found action
      · exact .inr (departed_step departed action)
    obtain ⟨more, grownLater, outcome⟩ := ih
      (registered_step registered action) (isolated_step registered isolated action now) next later
    refine ⟨new ++ more, ?_, ?_⟩
    · rw [← append_assoc, ← grown]
      exact grownLater
    · rcases held with ⟨lease, found⟩ | departed
      · rcases outcome with inLater | departed
        · refine .inl fun batch member => ?_
          rcases mem_append.mp member with early | late
          · exact included batch early leaseId lease found
          · exact inLater batch late
        · exact .inr departed
      · exact .inr (departed_runFrom (departed_step departed action) rest)

/-- In every run in which no authentication overtakes an instance change, a batch is about
leases of the instance that it names, and a lease that is in the ledger is in every later batch
until its final report is confirmed or its instance is no longer the current one. -/
theorem batches_isolated {actions : List Action}
    (unovertaken : machine.Guarded Unovertaken machine.initial actions) :
    (∀ request ids, (request, ids) ∈ (machine.run actions).batches →
      ∀ report ∈ request.leases,
        (machine.run actions).issued.get? report.leaseId = some request.serviceInstanceId) ∧
    ∀ first more, actions = first ++ more → ∀ leaseId lease,
      (machine.run first).leases.get? leaseId = some lease →
        ∃ later, (machine.run actions).batches = (machine.run first).batches ++ later ∧
          ((∀ batch ∈ later, leaseId ∈ batch.1.leases.map LeaseProgress.leaseId) ∨
            (machine.run actions).Departed leaseId) := by
  have reached : ∀ {actions}, machine.Guarded Unovertaken machine.initial actions →
      (machine.run actions).Registered ∧ (machine.run actions).Isolated := by
    intro actions guarded
    refine @Machine.guarded_run _ _ _ _
      (fun client => client.Registered ∧ client.Isolated) ⟨registered_new, isolated_new⟩ ?_ _
      guarded
    rintro client action ⟨registered, isolated⟩ guarded
    exact ⟨registered_step registered action, isolated_step registered isolated action guarded⟩
  refine ⟨(reached unovertaken).2.batches, ?_⟩
  rintro first more rfl leaseId lease held
  obtain ⟨before, after⟩ := machine.guarded_append.mp unovertaken
  obtain ⟨registered, isolated⟩ := reached before
  rw [machine.run_append]
  exact included_runFrom registered isolated (.inl ⟨lease, held⟩) after

/-- A response of an instance about one account. -/
def responseOf (serviceInstanceId leaseId : String) : AuthenticationResponse where
  serviceInstanceId := serviceInstanceId
  accountId := "account"
  leaseId := leaseId
  username := "user"
  policyRevision := 1
  maxUploadBytesPerSecond := -1
  maxDownloadBytesPerSecond := -1

/-- The service restarts between two authentications. -/
def replacedInstance : List Action :=
  [.respond "first" (responseOf "old" "a"), .adopt "a", .join "a", .revise "a", .insert "a",
    .respond "second" (responseOf "new" "b"), .adopt "b", .drain "b", .releaseNext "b", .join "b",
    .revise "b", .insert "b", .beginBatch "batch" ["b"], .load, .load, .load, .send]

/-- The batch after the restart is about the new lease only. -/
theorem batches_isolated_replacedInstance :
    (machine.run replacedInstance).batches.length = 1 ∧
      ∀ request ids, (request, ids) ∈ (machine.run replacedInstance).batches →
        ∀ report ∈ request.leases, (machine.run replacedInstance).issued.get? report.leaseId =
          some request.serviceInstanceId :=
  ⟨by decide, (batches_isolated (by decide)).1⟩

/-- The service restarts while a connection authenticates: the lease of the old instance enters
the ledger after that of the new one. -/
def overtaken : List Action :=
  [.respond "first" (responseOf "old" "a"), .respond "second" (responseOf "new" "b"),
    .adopt "a", .join "a", .revise "a",
    .adopt "b", .drain "b", .join "b", .revise "b", .insert "b", .insert "a",
    .beginBatch "batch" ["b", "a"], .load, .load, .load, .load, .load, .load, .send]

/-- The batch names the new instance and has a report on the lease of the old one. -/
theorem not_isolated_overtaken :
    ¬ ∀ request ids, (request, ids) ∈ (machine.run overtaken).batches →
      ∀ report ∈ request.leases,
        (machine.run overtaken).issued.get? report.leaseId = some request.serviceInstanceId := by
  have mixed : ∃ batch ∈ (machine.run overtaken).batches, ∃ report ∈ batch.1.leases,
      (machine.run overtaken).issued.get? report.leaseId ≠ some batch.1.serviceInstanceId := by
    decide
  grind

end SprakCapture.Socks5.AccountServiceClient
