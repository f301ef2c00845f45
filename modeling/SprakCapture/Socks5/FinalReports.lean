import SprakCapture.Socks5.AccountRuns

/-!
# Final reports of leases

The worker loads the two counters of a lease and then its final flag, while the data plane
records and finishes without a lock. A final report is complete if nothing is recorded on a
lease after it was finished and it is not finished between the two loads after more was
recorded; without that the report of a dropped lease may miss bytes.
-/

namespace SprakCapture.Socks5.AccountServiceClient

open Data List Option Data.Table

/-- The counters that the worker has loaded of a lease whose flag it has yet to load. -/
def loadedCounters (client : AccountServiceClient) (leaseId : String) : Option Nat × Option Nat :=
  match client.worker with
  | .building _ uploaded downloaded (current :: _) =>
    if current = leaseId then (uploaded, downloaded) else (none, none)
  | _ => (none, none)

/-- A step of the data plane does not slip into the worker's view of a finished lease: nothing
is recorded on a lease that was finished, and a lease is not finished while the worker has a
counter of it that is out of date and has yet to load the flag. -/
def Undisturbed (client : AccountServiceClient) : Action → Prop
  | .record leaseId _ _ => ∀ lease ∈ client.leases.get? leaseId, lease.finalPending = false
  | .finish leaseId =>
    ∀ lease ∈ client.leases.get? leaseId,
      (∀ count ∈ (client.loadedCounters leaseId).1, count = lease.uploadedBytes) ∧
        ∀ count ∈ (client.loadedCounters leaseId).2, count = lease.downloadedBytes
  | _ => True

instance (client : AccountServiceClient) : ∀ action, Decidable (client.Undisturbed action)
  | .record _ _ _ => Option.decidableForallMem _
  | .finish _ => Option.decidableForallMem _
  | .respond _ _ | .adopt _ | .drain _ | .releaseNext _ | .join _ | .revise _ | .insert _
  | .beginBatch _ _ | .load | .send | .answer _ | .applyNext | .giveUp => isTrue trivial

/-- What a report says about a lease is what was recorded on it. -/
def Complete (entry : LeaseState × LeaseProgress) : Prop :=
  entry.2.uploadedBytes = recordedBytes entry.1.records .up ∧
    entry.2.downloadedBytes = recordedBytes entry.1.records .down

/-- The batch that the worker is at. -/
def request? (client : AccountServiceClient) : Option SynchronizationRequest :=
  match client.worker with
  | .idle => none
  | .building request _ _ _ => some request
  | .sent request => some request
  | .applying request _ _ => some request

/-- The counters of a lease add up its records. -/
def Counted (lease : LeaseState) : Prop :=
  lease.uploadedBytes = recordedBytes lease.records .up ∧
    lease.downloadedBytes = recordedBytes lease.records .down

theorem recordedBytes_concat (records : List (TrafficDirection × Nat))
    (record : TrafficDirection × Nat) (direction : TrafficDirection) :
    recordedBytes (records ++ [record]) direction =
      if record.1 = direction then saturatingAdd (recordedBytes records direction) record.2
      else recordedBytes records direction := by
  simp [recordedBytes]

variable {lease : LeaseState}

theorem Counted.record (counted : Counted lease) (direction : TrafficDirection) (byteCount : Nat) :
    Counted (lease.record direction byteCount) := by
  obtain ⟨up, down⟩ := counted
  cases direction with
  | up | down =>
    exact ⟨by simp [LeaseState.record, recordedBytes_concat, up],
        by simp [LeaseState.record, recordedBytes_concat, down]⟩

/-- A report that is final agrees with the lease, which was finished. -/
def Agrees (report : LeaseProgress) (lease : LeaseState) : Prop :=
  lease.finalPending = true ∧ report.uploadedBytes = lease.uploadedBytes ∧
    report.downloadedBytes = lease.downloadedBytes

/-- Final reports agree with the leases they are about, from the first load on. -/
structure Faithful (client : AccountServiceClient) : Prop where
  counted : ∀ leaseId lease, client.leases.get? leaseId = some lease → Counted lease
  loading : ∀ request uploaded downloaded leaseId rest lease,
    client.worker = .building request uploaded downloaded (leaseId :: rest) →
    client.leases.get? leaseId = some lease → lease.finalPending = true →
      (∀ count, uploaded = some count → count = lease.uploadedBytes) ∧
        ∀ count, downloaded = some count → count = lease.downloadedBytes
  known : ∀ request, client.request? = some request →
    ∀ report ∈ request.leases, report.leaseId ∈ client.entered
  final : ∀ request, client.request? = some request →
    ∀ report ∈ request.leases, report.final = true →
      ∀ lease, client.leases.get? report.leaseId = some lease → Agrees report lease
  reported : ∀ entry ∈ client.reported, Complete entry

theorem faithful_new : new.Faithful where
  counted := by simp [new]
  loading := by simp [new]
  known := by simp [new, request?]
  final := by simp [new, request?]
  reported := by simp [new]

namespace Faithful

variable {client next : AccountServiceClient}

/-- A step that gives the worker no new loads and leaves no lease in the ledger with new
counters or flags. -/
theorem keep (faithful : client.Faithful)
    (leases : ∀ leaseId lease, next.leases.get? leaseId = some lease →
      ∃ earlier, client.leases.get? leaseId = some earlier ∧
        lease.uploadedBytes = earlier.uploadedBytes ∧
        lease.downloadedBytes = earlier.downloadedBytes ∧
        lease.finalPending = earlier.finalPending ∧ lease.records = earlier.records)
    (building : ∀ request uploaded downloaded remaining,
      next.worker = .building request uploaded downloaded remaining →
        uploaded = none ∧ downloaded = none ∨ next.worker = client.worker)
    (request : ∀ request, next.request? = some request →
      request.leases = [] ∨ client.request? = some request)
    (entered : ∀ leaseId ∈ client.entered, leaseId ∈ next.entered)
    (reported : ∀ entry ∈ next.reported, Complete entry) : next.Faithful := by
  refine ⟨?_, ?_, ?_, ?_, reported⟩
  · intro leaseId lease found
    obtain ⟨earlier, held, up, down, -, records⟩ := leases leaseId lease found
    have counted := faithful.counted leaseId earlier held
    rwa [Counted, up, down, records]
  · intro current uploaded downloaded leaseId rest lease worker found finished
    obtain ⟨earlier, held, up, down, flag, -⟩ := leases leaseId lease found
    rcases building _ _ _ _ worker with ⟨rfl, rfl⟩ | same
    · simp
    · rw [up, down]
      rw [same] at worker
      exact faithful.loading current uploaded downloaded leaseId rest earlier worker held
        (flag ▸ finished)
  · intro current present report member
    rcases request current present with empty | same
    · simp [empty] at member
    · exact entered _ (faithful.known current same report member)
  · intro current present report member final lease found
    rcases request current present with empty | same
    · simp [empty] at member
    · obtain ⟨earlier, held, up, down, flag, -⟩ := leases report.leaseId lease found
      have agrees := faithful.final current same report member final earlier held
      rwa [Agrees, flag, up, down]

/-- The ledger and the history stay. -/
theorem keepLedger (faithful : client.Faithful) (leases : next.leases = client.leases)
    (building : ∀ request uploaded downloaded remaining,
      next.worker = .building request uploaded downloaded remaining →
        uploaded = none ∧ downloaded = none ∨ next.worker = client.worker)
    (request : ∀ request, next.request? = some request →
      request.leases = [] ∨ client.request? = some request)
    (entered : next.entered = client.entered) (reported : next.reported = client.reported) :
    next.Faithful := by
  refine faithful.keep ?_ building request ?_ ?_
  · simp_all
  · simp_all
  · rw [reported]
    exact faithful.reported

/-- The worker stays. -/
theorem keepWorker (faithful : client.Faithful) (leases : next.leases = client.leases)
    (worker : next.worker = client.worker) (entered : next.entered = client.entered)
    (reported : next.reported = client.reported) : next.Faithful := by
  refine faithful.keepLedger leases (fun _ _ _ _ _ => .inr worker) ?_ entered reported
  intro request present
  rw [request?, worker] at present
  exact .inr present

variable {leaseId : String} {request : SynchronizationRequest}

section

variable (faithful : client.Faithful)
include faithful

theorem insert (registered : client.Registered) {call : AuthenticationCall} {controller : Nat}
    (found : client.calls.get? leaseId = some call) (free : client.worker.locksLeases = false) :
    (client.insert call controller).Faithful := by
  obtain ⟨named, -, unentered⟩ := registered.call found
  have ledger : ∀ {wanted lease}, (client.insert call controller).leases.get? wanted = some lease →
      wanted ≠ leaseId → client.leases.get? wanted = some lease := by
    grind [AccountServiceClient.insert]
  refine ⟨?_, ?_, ?_, ?_, faithful.reported⟩
  · intro wanted lease holds
    by_cases same : wanted = leaseId
    · dsimp only [AccountServiceClient.insert] at holds
      rw [named, same, get?_insert_self] at holds
      cases holds
      exact ⟨rfl, rfl⟩
    · exact faithful.counted wanted lease (ledger holds same)
  · intro request uploaded downloaded wanted rest lease worker
    have locked : client.worker.locksLeases = true := by
      rw [show client.worker = _ from worker]
      rfl
    rw [locked] at free
    cases free
  · intro request present report member
    exact mem_append_left _ (faithful.known request present report member)
  · intro request present report member final lease holds
    have entered := faithful.known request present report member
    refine faithful.final request present report member final lease (ledger holds ?_)
    rintro rfl
    exact unentered entered

theorem record {direction : TrafficDirection} {byteCount : Nat}
    (unfinished : ∀ lease, client.leases.get? leaseId = some lease → lease.finalPending = false) :
    Faithful { client with
      leases := client.leases.modify leaseId (·.record direction byteCount) } := by
  have flag : ∀ lease : LeaseState,
      (lease.record direction byteCount).finalPending = lease.finalPending := by
    intro lease
    cases direction <;> rfl
  -- a lease that is finished is not the one recorded on
  have untouched : ∀ {wanted lease},
      (client.leases.modify leaseId (·.record direction byteCount)).get? wanted = some lease →
      lease.finalPending = true → client.leases.get? wanted = some lease := by
    intro wanted lease holds finished
    rw [get?_modify] at holds
    by_cases same : wanted = leaseId
    · rw [if_pos same] at holds
      obtain ⟨earlier, held, rfl⟩ := map_eq_some_iff.mp holds
      simp_all
    · rwa [if_neg same] at holds
  refine ⟨?_, ?_, faithful.known, ?_, faithful.reported⟩
  · intro wanted lease holds
    rw [get?_modify] at holds
    by_cases same : wanted = leaseId
    · rw [if_pos same] at holds
      obtain ⟨earlier, held, rfl⟩ := map_eq_some_iff.mp holds
      exact (faithful.counted wanted earlier held).record direction byteCount
    · rw [if_neg same] at holds
      exact faithful.counted wanted lease holds
  · intro request uploaded downloaded wanted rest lease worker holds finished
    exact faithful.loading request uploaded downloaded wanted rest lease worker
      (untouched holds finished) finished
  · intro request present report member final lease holds
    rw [get?_modify] at holds
    by_cases same : report.leaseId = leaseId
    · rw [if_pos same] at holds
      obtain ⟨earlier, held, -⟩ := map_eq_some_iff.mp holds
      have finished := (faithful.final request present report member final earlier held).1
      simp_all
    · rw [if_neg same] at holds
      exact faithful.final request present report member final lease holds

theorem finish (undisturbed : client.Undisturbed (.finish leaseId)) :
    Faithful { client with leases := client.leases.modify leaseId LeaseState.finish } := by
  have ledger : ∀ {wanted lease},
      (client.leases.modify leaseId LeaseState.finish).get? wanted = some lease →
      ∃ earlier, client.leases.get? wanted = some earlier ∧
        (lease = earlier ∨ wanted = leaseId ∧ lease = earlier.finish) := by
    intro wanted lease holds
    rw [get?_modify] at holds
    by_cases same : wanted = leaseId
    · rw [if_pos same] at holds
      obtain ⟨earlier, held, rfl⟩ := map_eq_some_iff.mp holds
      exact ⟨earlier, held, .inr ⟨same, rfl⟩⟩
    simp_all
  refine ⟨?_, ?_, faithful.known, ?_, faithful.reported⟩
  · intro wanted lease holds
    obtain ⟨earlier, held, rfl | ⟨-, rfl⟩⟩ := ledger holds
    · exact faithful.counted wanted lease held
    · exact faithful.counted wanted earlier held
  · intro request uploaded downloaded wanted rest lease worker holds finished
    obtain ⟨earlier, held, rfl | ⟨rfl, rfl⟩⟩ := ledger holds
    · exact faithful.loading request uploaded downloaded wanted rest lease worker held finished
    have current := undisturbed earlier held
    have building : client.worker = .building request uploaded downloaded (wanted :: rest) :=
      worker
    simp only [loadedCounters, building] at current
    exact current
  · intro request present report member final lease holds
    obtain ⟨earlier, held, rfl | ⟨-, rfl⟩⟩ := ledger holds
    · exact faithful.final request present report member final lease held
    · exact ⟨rfl, (faithful.final request present report member final earlier held).2⟩

/-- The next load of the worker. -/
theorem load (registered : client.Registered) {uploaded downloaded : Option Nat}
    {rest : List String}
    (building : client.worker = .building request uploaded downloaded (leaseId :: rest))
    (found : client.leases.get? leaseId = some lease) :
    Faithful { client with
      worker := AccountServiceClient.load request uploaded downloaded lease rest } := by
  obtain ⟨named, -, entered⟩ := registered.lease found
  have present : client.request? = some request := by rw [request?, building]
  have loaded := faithful.loading request uploaded downloaded leaseId rest lease building found
  -- a load of a counter leaves the batch as it is
  have counter : ∀ {first second : Option Nat},
      (∀ count, first = some count → lease.finalPending = true → count = lease.uploadedBytes) →
      (∀ count, second = some count → lease.finalPending = true → count = lease.downloadedBytes) →
      Faithful { client with worker := .building request first second (lease.leaseId :: rest) } := by
    intro first second up down
    refine ⟨faithful.counted, ?_, ?_, ?_, faithful.reported⟩
    · grind
    · intro current held
      cases held
      exact faithful.known request present
    · intro current held
      cases held
      exact faithful.final request present
  cases uploaded with
  | none =>
    refine counter ?_ (by simp)
    simp
  | some up =>
    cases downloaded with
    | none =>
      refine counter (fun count same finished => (loaded finished).1 count same) ?_
      simp
    | some down =>
      refine ⟨faithful.counted, ?_, ?_, ?_, faithful.reported⟩
      · intro current nowUp nowDown wanted remaining held worker holds finished
        cases worker
        simp
      · intro current held report member
        cases held
        rcases mem_append.mp member with earlier | new
        · exact faithful.known request present report earlier
        · cases mem_singleton.mp new
          rw [named]
          exact entered
      · intro current held report member final other holds
        cases held
        rcases mem_append.mp member with earlier | new
        · exact faithful.final request present report earlier final other holds
        · cases mem_singleton.mp new
          rw [named, found] at holds
          cases holds
          exact ⟨final, (loaded final).1 up rfl, (loaded final).2 down rfl⟩

/-- A lease that is dropped was reported completely. -/
theorem complete_of_final {report : LeaseProgress} (present : client.request? = some request)
    (found : client.leases.get? leaseId = some lease)
    (final : finalReport? request leaseId = some report) : Complete (lease, report) := by
  have member := mem_of_find?_eq_some final
  have wanted : report.leaseId = leaseId ∧ report.final = true := by
    simpa using find?_some final
  obtain ⟨-, up, down⟩ := faithful.final request present report member wanted.2 lease
    (by rw [wanted.1]; exact found)
  obtain ⟨counted, countedDown⟩ := faithful.counted leaseId lease found
  exact ⟨up.trans counted, down.trans countedDown⟩

end

end Faithful

/-- Revoking a lease leaves its counters and its flag. -/
theorem exists_of_modify_revoke {leases : Table String LeaseState} (progress : List LeaseProgress)
    {leaseId : String}
    (found : (progress.foldl (fun leases progress =>
      leases.modify progress.leaseId LeaseState.revoke) leases).get? leaseId = some lease) :
    ∃ earlier, leases.get? leaseId = some earlier ∧ lease.uploadedBytes = earlier.uploadedBytes ∧
      lease.downloadedBytes = earlier.downloadedBytes ∧
      lease.finalPending = earlier.finalPending ∧ lease.records = earlier.records := by
  induction progress generalizing leases with
  | nil => exact ⟨lease, found, rfl, rfl, rfl, rfl⟩
  | cons first _ ih =>
    obtain ⟨_, held, up, down, flag, records⟩ := ih found
    rw [get?_modify] at held
    by_cases same : leaseId = first.leaseId
    · rw [if_pos same] at held
      obtain ⟨earlier, heldEarlier, rfl⟩ := map_eq_some_iff.mp held
      exact ⟨earlier, heldEarlier, up, down, flag, records⟩
    simp_all

theorem faithful_step {client : AccountServiceClient} (registered : client.Registered)
    (faithful : client.Faithful) (action : Action) (undisturbed : client.Undisturbed action) :
    (client.step action).Faithful := by
  have move := client.moves_step action
  generalize client.step action = next at move
  cases move with
  | stays => exact faithful
  | responds | adopts | releases | joins | revises => exact faithful.keepWorker rfl rfl rfl rfl
  | drains found phase free =>
    refine faithful.keep ?_ (fun _ _ _ _ _ => .inr rfl) (fun _ present => .inr present)
      (fun _ member => member) faithful.reported
    intro leaseId lease holds
    simp [drain] at holds
  | inserts found phase free => exact faithful.insert registered found free
  | begins _ _ found complete =>
    refine faithful.keepLedger rfl ?_ ?_ rfl rfl
    · simp_all
    · intro request present
      cases present
      exact .inl rfl
  | loads building found => exact faithful.load registered building found
  | sends building =>
    refine faithful.keepLedger rfl (by rintro _ _ _ _ ⟨⟩) ?_ rfl rfl
    intro request present
    exact .inr (by rw [request?, building]; exact present)
  | answers sent same =>
    refine faithful.keepLedger rfl (by rintro _ _ _ _ ⟨⟩) ?_ rfl rfl
    intro request present
    exact .inr (by rw [request?, sent]; exact present)
  | frees applying | skips applying =>
    refine faithful.keepLedger rfl (by rintro _ _ _ _ ⟨⟩) ?_ rfl rfl
    intro request present
    exact .inr (by rw [request?, applying]; exact present)
  | ends applying =>
    exact faithful.keepLedger rfl (by rintro _ _ _ _ ⟨⟩) (by rintro _ ⟨⟩) rfl rfl
  | @applies request result rest lease applying found =>
    refine faithful.keep ?_ (by rintro _ _ _ _ ⟨⟩) ?_ (fun _ member => member) faithful.reported
    · intro leaseId held holds
      rw [Table.get?_insert] at holds
      by_cases same : leaseId = result.leaseId
      · rw [if_pos same] at holds
        cases holds
        refine ⟨lease, by rw [same, found], ?_⟩
        split <;> exact ⟨rfl, rfl, rfl, rfl⟩
      simp_all
    · intro current present
      exact .inr (by rw [request?, applying]; exact present)
  | @drops request result rest lease _ applying found final =>
    have present : client.request? = some request := by rw [request?, applying]
    refine faithful.keep ?_ (by rintro _ _ _ _ ⟨⟩) ?_ (fun _ member => member) ?_
    · grind
    · intro current now
      exact .inr (by rw [present]; exact now)
    intro entry member
    rcases mem_append.mp member with earlier | new
    · exact faithful.reported entry earlier
    · have complete := faithful.complete_of_final present found final
      rw [mem_singleton.mp new]
      split <;> exact complete
  | givesUp sent =>
    exact faithful.keep (fun _ _ holds => exists_of_modify_revoke _ holds)
      (by rintro _ _ _ _ ⟨⟩) (by rintro _ ⟨⟩) (fun _ member => member) faithful.reported
  | records => exact faithful.record undisturbed
  | finishes => exact faithful.finish undisturbed

/-- In every run that leaves the worker's view of finished leases undisturbed, the final report
on which a lease was dropped names all bytes that were recorded on the lease. -/
theorem finalReports_complete {actions : List Action}
    (undisturbed : machine.Guarded Undisturbed machine.initial actions) :
    ∀ lease report, (lease, report) ∈ (machine.run actions).reported →
      report.uploadedBytes = recordedBytes lease.records .up ∧
        report.downloadedBytes = recordedBytes lease.records .down := by
  have reached : (machine.run actions).Registered ∧ (machine.run actions).Faithful := by
    refine @Machine.guarded_run _ _ _ _
      (fun client => client.Registered ∧ client.Faithful) ⟨registered_new, faithful_new⟩ ?_ _
      undisturbed
    rintro client action ⟨registered, faithful⟩ guarded
    exact ⟨registered_step registered action, faithful_step registered faithful action guarded⟩
  intro lease report member
  exact reached.2.reported (lease, report) member

/-- An authentication from its response to the ledger. -/
def authenticated (response : AuthenticationResponse) : List Action :=
  [.respond "connection" response, .adopt response.leaseId, .join response.leaseId,
    .revise response.leaseId, .insert response.leaseId]

def sampleResponse : AuthenticationResponse where
  serviceInstanceId := "instance"
  accountId := "account"
  leaseId := "lease"
  username := "user"
  policyRevision := 1
  maxUploadBytesPerSecond := -1
  maxDownloadBytesPerSecond := -1

def sampleResult : SynchronizationResult where
  leaseId := "lease"
  policyRevision := 1
  maxUploadBytesPerSecond := -1
  maxDownloadBytesPerSecond := -1
  revoked := false

/-- A lease is finished before its last batch. -/
def reportedLease : List Action :=
  authenticated sampleResponse ++
    [.record "lease" .up 5, .finish "lease", .beginBatch "batch" ["lease"], .load, .load, .load,
      .send, .answer { serviceInstanceId := "instance", leases := [sampleResult] }, .applyNext]

/-- The lease is dropped on a report of its five bytes. -/
theorem finalReports_complete_reportedLease :
    (machine.run reportedLease).reported.length = 1 ∧
      ∀ lease report, (lease, report) ∈ (machine.run reportedLease).reported →
        report.uploadedBytes = recordedBytes lease.records .up ∧
          report.downloadedBytes = recordedBytes lease.records .down :=
  ⟨by decide, finalReports_complete (by decide)⟩

/-- Five bytes are recorded and the lease is finished between the loads of a batch. -/
def lostBytes : List Action :=
  authenticated sampleResponse ++
    [.beginBatch "batch" ["lease"], .load, .record "lease" .up 5, .load, .finish "lease", .load,
      .send, .answer { serviceInstanceId := "instance", leases := [sampleResult] }, .applyNext]

/-- The lease is dropped on a final report without the five bytes. -/
theorem finalReport_lostBytes :
    ¬ ∀ lease report, (lease, report) ∈ (machine.run lostBytes).reported →
      report.uploadedBytes = recordedBytes lease.records .up ∧
        report.downloadedBytes = recordedBytes lease.records .down := by
  intro complete
  have lost : (machine.run lostBytes).reported.map (fun entry =>
      (entry.1.records, entry.2.uploadedBytes)) = [([(TrafficDirection.up, 5)], 0)] := by
    decide
  obtain ⟨entry, member, image⟩ := List.mem_map.mp
    (show ([(TrafficDirection.up, 5)], 0) ∈ _ by rw [lost]; exact mem_singleton.mpr rfl)
  have up := (complete entry.1 entry.2 member).1
  obtain ⟨records, reported⟩ := Prod.mk.inj image
  rw [records, reported] at up
  cases up

end SprakCapture.Socks5.AccountServiceClient
