import SprakCapture.HttpProxy.Breakpoints

/-!
# The senders of suspended messages

The sending end of the channel of a waiter is in one place: in the entry of the queue, in the
hands of the call that took the entry, or used. What is sent was checked for the phase of the
waiter, as long as no entry of another phase comes into the place of the one whose phase was read.
-/

namespace SprakCapture.HttpProxy

open Data Data.Table
open Table (get?_erase get?_insert)

/-- A task at this stage has no resolution yet, and is not dropped. -/
def WaiterStage.isLive : WaiterStage → Bool
  | .waiting | .expired | .awaiting => true
  | .resolved _ | .returned _ | .dropped => false

/-- The resolution that a task has taken. -/
def WaiterStage.resolution? : WaiterStage → Option BreakpointResolution
  | .resolved resolution | .returned resolution => some resolution
  | _ => none

namespace BreakpointsTool

/-- When a call takes an entry to continue it, the entry has the phase that the call read. -/
def SamePhase (tool : BreakpointsTool) : BreakpointAction → Prop
  | .takeContinued call =>
    ((tool.calls.get? call).all fun continuing =>
      (tool.suspended.get? continuing.transactionId).all fun pending =>
        pending.snapshot.phase = continuing.phase) = true
  | _ => True

instance (tool : BreakpointsTool) (action : BreakpointAction) :
    Decidable (tool.SamePhase action) := by
  unfold SamePhase
  split <;> infer_instance

/-- The draft is one that passes the check of the phase of a waiter. -/
def Checked (http : HttpLibrary) (task : Waiter) (draft : EditableHttpMessage) : Prop :=
  validateDraft http task.snapshot.phase draft = .ok ()

/-! ### Numbers of tasks -/

/-- Tasks have numbers that were given out, and each number is used once. -/
structure Numbered (tool : BreakpointsTool) : Prop where
  waiter : ∀ waiter task, tool.waiters.get? waiter = some task → waiter < tool.issued
  matched : ∀ message found, tool.matched.get? message = some found →
    message < tool.issued ∧ tool.waiters.get? message = none

/-! ### The place of a sender -/

/-- The entry of a waiter is in the queue. -/
def Queued (tool : BreakpointsTool) (waiter : Nat) (task : Waiter) : Prop :=
  ∃ pending, tool.suspended.get? task.snapshot.transactionId = some pending ∧
    pending.waiter = waiter

/-- The senders of the channels that have nothing yet are each in one place. -/
structure Owned (http : HttpLibrary) (tool : BreakpointsTool) : Prop where
  entry : ∀ transactionId pending, tool.suspended.get? transactionId = some pending →
    pending.snapshot.transactionId = transactionId ∧ tool.inHand.get? pending.waiter = none ∧
      ∃ task, tool.waiters.get? pending.waiter = some task ∧ task.snapshot = pending.snapshot ∧
        task.channel = .pending ∧ (task.stage = .waiting ∨ task.stage = .expired)
  hand : ∀ waiter resolution, tool.inHand.get? waiter = some resolution →
    ∃ task, tool.waiters.get? waiter = some task ∧ task.channel = .pending ∧
      ∀ draft, resolution = some (.continueWith draft) → Checked http task draft
  located : ∀ waiter task, tool.waiters.get? waiter = some task → task.channel = .pending →
    task.stage.isLive = true → (tool.inHand.get? waiter).isSome ∨
      task.stage ≠ .awaiting ∧ tool.Queued waiter task
  delivered : ∀ waiter task draft, tool.waiters.get? waiter = some task →
    task.channel = .resolved (.continueWith draft) → Checked http task draft
  decided : ∀ waiter task draft, tool.waiters.get? waiter = some task →
    task.stage.resolution? = some (.continueWith draft) →
      draft = task.snapshot.draft ∨ Checked http task draft
  call : ∀ call continuing, tool.calls.get? call = some continuing →
    validateDraft http continuing.phase continuing.draft = .ok ()

/-- The queue has its bound, which the tasks without an entry know. -/
structure Bounded (configuration : BreakpointsConfiguration) (tool : BreakpointsTool) : Prop where
  fixed : tool.configuration = configuration
  known : ∀ message found, tool.matched.get? message = some found →
    found.configuration = configuration
  bound : tool.suspended.size ≤ configuration.maxSuspended.toNat

section Steps

variable {http : HttpLibrary} {toLowercase : List Char → List Char} {tool : BreakpointsTool}

/-! ### What the parts of a step change -/

variable (transactionId : String) (resolution : Option BreakpointResolution)

@[simp] theorem waiters_take : (tool.take transactionId resolution).waiters = tool.waiters := by
  unfold take
  split <;> rfl

@[simp] theorem matched_take : (tool.take transactionId resolution).matched = tool.matched := by
  unfold take
  split <;> rfl

@[simp] theorem issued_take : (tool.take transactionId resolution).issued = tool.issued := by
  unfold take
  split <;> rfl

@[simp] theorem configuration_take :
    (tool.take transactionId resolution).configuration = tool.configuration := by
  unfold take
  split <;> rfl

theorem suspended_take :
    (tool.take transactionId resolution).suspended = tool.suspended.erase transactionId := by
  unfold take
  split
  · next absent => rw [erase_of_get?_eq_none absent]
  · rfl

theorem dropLease_cases (waiter : Nat) (transactionId : String) :
    tool.dropLease waiter transactionId = tool.take transactionId none ∨
      tool.dropLease waiter transactionId = tool := by
  grind [dropLease]

variable {pending : PendingBreakpoint} {waiter : Nat}

theorem suspended_dropLease {transactionId other : String}
    (found : (tool.dropLease waiter transactionId).suspended.get? other = some pending) :
    tool.suspended.get? other = some pending := by
  rcases tool.dropLease_cases waiter transactionId with taken | kept
  · rw [taken, suspended_take, get?_erase] at found
    split at found
    · cases found
    · exact found
  · rwa [kept] at found

@[simp] theorem waiters_dropLease (waiter : Nat) (transactionId : String) :
    (tool.dropLease waiter transactionId).waiters = tool.waiters := by
  rcases tool.dropLease_cases waiter transactionId with taken | kept
  · rw [taken, waiters_take]
  · rw [kept]

variable (task : Waiter) (resolution : Option BreakpointResolution)

@[simp] theorem stage_deliver : (deliver task resolution).stage = task.stage := by
  unfold deliver
  split <;> rfl

@[simp] theorem snapshot_deliver : (deliver task resolution).snapshot = task.snapshot := by
  unfold deliver
  split <;> rfl

theorem get?_setStage (waiter other : Nat) (stage : WaiterStage) :
    (tool.setStage waiter stage).waiters.get? other =
      if other = waiter then (tool.waiters.get? other).map fun task => { task with stage }
      else tool.waiters.get? other :=
  get?_modify tool.waiters waiter other _

/-! ### Places -/

variable {transactionId : String} {task : Waiter}

variable (owned : tool.Owned http)
include owned

theorem Owned.entry_of_waiter (found : tool.suspended.get? transactionId = some pending)
    (same : pending.waiter = waiter) (isTask : tool.waiters.get? waiter = some task) :
    transactionId = task.snapshot.transactionId ∧ task.snapshot = pending.snapshot ∧
      task.channel = .pending ∧ (task.stage = .waiting ∨ task.stage = .expired) := by
  obtain ⟨_, _, _, _, snapshot, channel, stage⟩ :=
    owned.entry transactionId pending found
  simp_all

theorem Owned.entry_unique {first second : String} {pending other : PendingBreakpoint}
    (found : tool.suspended.get? first = some pending)
    (otherFound : tool.suspended.get? second = some other) (same : other.waiter = pending.waiter) :
    second = first := by
  obtain ⟨_, _, _, isTask, _⟩ := owned.entry first pending found
  rw [(owned.entry_of_waiter found rfl isTask).1]
  exact (owned.entry_of_waiter otherFound same isTask).1

theorem Owned.take {resolution : Option BreakpointResolution}
    (checked : ∀ pending, tool.suspended.get? transactionId = some pending →
      ∀ draft, resolution = some (.continueWith draft) →
        validateDraft http pending.snapshot.phase draft = .ok ()) :
    (tool.take transactionId resolution).Owned http := by
  unfold BreakpointsTool.take
  split
  · exact owned
  next pending found =>
  constructor
  · intro other otherPending otherFound
    rw [get?_erase] at otherFound
    split at otherFound
    · cases otherFound
    next different =>
    obtain ⟨key, _, task⟩ := owned.entry other otherPending otherFound
    have otherWaiter : otherPending.waiter ≠ pending.waiter := fun same =>
      different (owned.entry_unique found otherFound same)
    grind
  · intro waiter inHand isInHand
    rw [get?_insert] at isInHand
    split at isInHand
    · next same =>
        cases isInHand
        obtain ⟨_, _, task, isTask, snapshot, channel, _⟩ :=
          owned.entry transactionId pending found
        refine ⟨task, same ▸ isTask, channel, fun draft isDraft => ?_⟩
        unfold Checked
        rw [snapshot]
        exact checked pending found draft isDraft
    · exact owned.hand waiter inHand isInHand
  · intro waiter task isTask channel live
    by_cases same : waiter = pending.waiter
    · exact .inl (by simp [same])
    rcases owned.located waiter task isTask channel live with
      inHand | ⟨stage, entry, _, own⟩
    · grind
    · refine .inr ⟨stage, entry, ?_, own⟩
      grind
  · exact owned.delivered
  · exact owned.decided
  · exact owned.call

theorem Owned.setStage {stage : WaiterStage} (isTask : tool.waiters.get? waiter = some task)
    (queued : ∀ transactionId pending, tool.suspended.get? transactionId = some pending →
      pending.waiter = waiter → stage = .waiting ∨ stage = .expired)
    (located : task.channel = .pending → stage.isLive = true →
      (tool.inHand.get? waiter).isSome ∨ stage ≠ .awaiting ∧ tool.Queued waiter task)
    (decided : ∀ draft, stage.resolution? = some (.continueWith draft) →
      draft = task.snapshot.draft ∨ Checked http task draft) :
    (tool.setStage waiter stage).Owned http := by
  constructor
  · intro transactionId pending found
    obtain ⟨key, notInHand, other, isOther, snapshot, channel, _⟩ :=
      owned.entry transactionId pending found
    refine ⟨key, notInHand, ?_⟩
    rw [get?_setStage, isOther]
    split
    · next same => exact ⟨_, rfl, snapshot, channel, queued transactionId pending found same⟩
    simp_all
  · intro other resolution inHand
    obtain ⟨otherTask, isOther, channel, checked⟩ := owned.hand other resolution inHand
    rw [get?_setStage, isOther]
    split <;> exact ⟨_, rfl, channel, checked⟩
  · intro other otherTask isOther channel live
    rw [get?_setStage] at isOther
    split at isOther
    · next same =>
        rw [same, isTask] at isOther
        cases isOther
        rw [same]
        exact located channel live
    · exact owned.located other otherTask isOther channel live
  · intro other otherTask draft isOther channel
    rw [get?_setStage] at isOther
    split at isOther
    · next same =>
        rw [same, isTask] at isOther
        cases isOther
        exact owned.delivered waiter task draft isTask channel
    · exact owned.delivered other otherTask draft isOther channel
  · intro other otherTask draft isOther resolution
    rw [get?_setStage] at isOther
    split at isOther
    · next same =>
        rw [same, isTask] at isOther
        cases isOther
        exact decided draft resolution
    · exact owned.decided other otherTask draft isOther resolution
  · exact owned.call

theorem Owned.dropLease (waiter : Nat) (transactionId : String) :
    (tool.dropLease waiter transactionId).Owned http := by
  rcases tool.dropLease_cases waiter transactionId with taken | kept
  · rw [taken]
    exact owned.take fun _ _ _ resolved => nomatch resolved
  · rw [kept]
    exact owned

/-- A task that drops its lease leaves no entry behind. -/
theorem Owned.unqueued_dropLease (isTask : tool.waiters.get? waiter = some task)
    (found : (tool.dropLease waiter task.snapshot.transactionId).suspended.get? transactionId =
      some pending) : pending.waiter ≠ waiter := by
  intro same
  have before := suspended_dropLease found
  have key := (owned.entry_of_waiter before same isTask).1
  rw [key] at before
  have taken : tool.dropLease waiter task.snapshot.transactionId =
      tool.take task.snapshot.transactionId none := by
    unfold BreakpointsTool.dropLease
    rw [before]
    exact if_pos same
  rw [taken, suspended_take, key, get?_erase_self] at found
  cases found

/-! ### Steps keep the places -/

section

variable (owned : tool.Owned http)
include owned

theorem Owned.receive (waiter : Nat) : (tool.receive waiter).Owned http := by
  unfold BreakpointsTool.receive
  split
  · next task isTask =>
      have unqueued (something : task.channel ≠ .pending) {stage : WaiterStage}
          (transactionId : String) (pending : PendingBreakpoint)
          (found : tool.suspended.get? transactionId = some pending)
          (same : pending.waiter = waiter) : stage = .waiting ∨ stage = .expired :=
        absurd (owned.entry_of_waiter found same isTask).2.2.1 something
      split
      · split
        · exact owned
        · next _ channel =>
            refine owned.setStage isTask (unqueued (by simp [channel]))
              nofun fun draft isDraft => ?_
            cases isDraft
            exact .inr (owned.delivered waiter task draft isTask channel)
        · next channel =>
            exact owned.setStage isTask (unqueued (by simp [channel])) nofun nofun
      · exact owned
  · exact owned

theorem Owned.expire (waiter : Nat) : (tool.expire waiter).Owned http := by
  unfold BreakpointsTool.expire
  split
  · next task isTask =>
      split
      · next waits =>
          refine owned.setStage isTask (fun _ _ _ _ => .inr rfl) (fun channel _ => ?_) nofun
          rcases owned.located waiter task isTask channel (by rw [waits.1]; rfl) with
            inHand | ⟨_, queued⟩
          · exact .inl inHand
          · exact .inr ⟨by simp, queued⟩
      · exact owned
  · exact owned

theorem Owned.takeTimedOut (waiter : Nat) : (tool.takeTimedOut waiter).Owned http := by
  unfold BreakpointsTool.takeTimedOut
  split
  · next task isTask =>
      split
      · next expired =>
          split
          · have taken : (tool.take task.snapshot.transactionId none).Owned http :=
              owned.take (by rintro _ _ _ ⟨⟩)
            have isTaken : (tool.take task.snapshot.transactionId none).waiters.get? waiter =
                some task := by simpa using isTask
            refine taken.setStage isTaken ?_ (by rintro _ ⟨⟩) ?_
            · intro transactionId pending found same
              have key := (taken.entry_of_waiter found same isTaken).1
              rw [suspended_take, key, get?_erase_self] at found
              cases found
            · intro _ isDraft
              unfold timeoutResolution at isDraft
              split at isDraft
              · cases isDraft
                exact .inl rfl
              · cases isDraft
          · next absent =>
              have notQueued : tool.suspended.get? task.snapshot.transactionId = none := 
                contains_eq_false.mp (Bool.eq_false_iff.mpr absent)
              refine owned.setStage isTask ?_ (fun channel _ => ?_) (by rintro _ ⟨⟩)
              · intro transactionId pending found same
                rw [(owned.entry_of_waiter found same isTask).1, notQueued] at found
                cases found
              rcases owned.located waiter task isTask channel (by rw [expired]; rfl) with
                inHand | ⟨_, pending, found, _⟩
              · exact .inl inHand
              · rw [notQueued] at found
                cases found
      · exact owned
  · exact owned

theorem Owned.finish (waiter : Nat) : (tool.finish waiter).Owned http := by
  unfold BreakpointsTool.finish
  split
  · next task isTask =>
      split
      · next _ stage =>
          refine (owned.dropLease waiter _).setStage (by simpa using isTask)
            (fun _ _ found same => absurd same (owned.unqueued_dropLease isTask found))
            nofun fun draft isDraft => ?_
          cases isDraft
          exact owned.decided waiter task draft isTask (by rw [stage]; rfl)
      · exact owned
  · exact owned

theorem Owned.cancel (waiter : Nat) : (tool.cancel waiter).Owned http := by
  unfold BreakpointsTool.cancel
  split
  · next _ isTask =>
      split
      · exact (owned.dropLease waiter _).setStage (by simpa using isTask)
          (fun _ _ found same => absurd same (owned.unqueued_dropLease isTask found))
          nofun nofun
      · exact owned
  · exact owned

theorem Owned.continueItem (transactionId : String) (draft : EditableHttpMessage) :
    (tool.continueItem http transactionId draft).Owned http := by
  unfold BreakpointsTool.continueItem
  split
  · exact owned
  next phase _ =>
  have checked : validateDraft http phase draft = .ok () := by
    grind [readPhase]
  refine { owned with call := fun call continuing found => ?_ }
  rw [get?_insert] at found
  split at found
  · cases found
    exact checked
  · exact owned.call call continuing found

theorem Owned.takeContinued {call : Nat} (same : tool.SamePhase (.takeContinued call)) :
    (tool.takeContinued call).Owned http := by
  unfold BreakpointsTool.takeContinued
  split
  · exact owned
  next continuing isCall =>
  have taken : (tool.take continuing.transactionId
      (some (.continueWith continuing.draft))).Owned http := by
    refine owned.take fun _ found draft isDraft => ?_
    cases isDraft
    simp only [SamePhase, isCall, Option.all_some, found, decide_eq_true_eq] at same
    rw [same]
    exact owned.call call continuing isCall
  refine { taken with call := fun other otherCall found => ?_ }
  rw [get?_erase] at found
  split at found
  · cases found
  · exact owned.call other otherCall found

omit owned in
/-- The senders in hand after a release. -/
theorem get?_released (inHand : Table Nat (Option BreakpointResolution))
    (entries : List PendingBreakpoint) (waiter : Nat) :
    (entries.foldl (fun inHand pending => inHand.insert pending.waiter (some .abort))
        inHand).get? waiter =
      if waiter ∈ entries.map PendingBreakpoint.waiter then some (some .abort)
      else inHand.get? waiter := by
  induction entries generalizing inHand with
  | nil => rfl
  | cons pending entries =>
    grind

omit owned in
theorem mem_waiters_values :
    waiter ∈ tool.suspended.values.map PendingBreakpoint.waiter ↔
      ∃ transactionId pending, tool.suspended.get? transactionId = some pending ∧
        pending.waiter = waiter := by
  simp only [List.mem_map, mem_values]
  grind

theorem Owned.releaseAll : tool.releaseAll.Owned http := by
  constructor
  · exact fun _ _ found => nomatch found
  · intro waiter resolution inHand
    unfold BreakpointsTool.releaseAll at inHand
    rw [get?_released] at inHand
    split at inHand
    · next listed =>
        cases inHand
        obtain ⟨transactionId, pending, found, same⟩ := mem_waiters_values.mp listed
        obtain ⟨_, _, task, isTask, _, channel, _⟩ := owned.entry transactionId pending found
        exact ⟨task, same ▸ isTask, channel, nofun⟩
    · exact owned.hand waiter resolution inHand
  · intro waiter task isTask channel live
    left
    unfold BreakpointsTool.releaseAll
    rw [get?_released]
    split
    · rfl
    · next notListed =>
        rcases owned.located waiter task isTask channel live with inHand | ⟨_, pending, found, own⟩
        · exact inHand
        · exact absurd (mem_waiters_values.mpr ⟨_, pending, found, own⟩) notListed
  · exact owned.delivered
  · exact owned.decided
  · exact owned.call

theorem Owned.send (waiter : Nat) : (tool.send waiter).Owned http := by
  unfold BreakpointsTool.send
  split
  · exact owned
  next resolution inHand =>
  obtain ⟨task, isTask, channel, checked⟩ := owned.hand waiter resolution inHand
  have kept (other : Nat) (different : other ≠ waiter) :
      (tool.waiters.modify waiter fun task => deliver task resolution).get? other =
        tool.waiters.get? other := by
    rw [get?_modify, if_neg different]
  have own : (tool.waiters.modify waiter fun task => deliver task resolution).get? waiter =
      some (deliver task resolution) := by
    rw [get?_modify, if_pos rfl, isTask]
    rfl
  have used : (deliver task resolution).channel ≠ .pending := by
    unfold deliver
    rw [channel]
    cases resolution <;> simp
  constructor
  · intro transactionId pending found
    obtain ⟨_, _, _, _, _⟩ :=
      owned.entry transactionId pending found
    grind
  · intro other otherResolution otherInHand
    rw [get?_erase] at otherInHand
    split at otherInHand
    · cases otherInHand
    · next different =>
        rw [kept _ different]
        exact owned.hand other otherResolution otherInHand
  · intro other otherTask isOther otherChannel live
    by_cases same : other = waiter
    · simp_all
    · rw [kept _ same] at isOther
      rw [get?_erase, if_neg same]
      exact owned.located other otherTask isOther otherChannel live
  · intro other otherTask draft isOther otherChannel
    by_cases same : other = waiter
    · rw [same, own] at isOther
      cases isOther
      unfold Checked
      rw [snapshot_deliver]
      unfold deliver at otherChannel
      rw [channel] at otherChannel
      cases resolution with
      | none => cases otherChannel
      | some =>
        cases otherChannel
        exact checked draft rfl
    · rw [kept _ same] at isOther
      exact owned.delivered other otherTask draft isOther otherChannel
  · intro other otherTask draft isOther otherResolution
    by_cases same : other = waiter
    · rw [same, own] at isOther
      cases isOther
      rw [stage_deliver] at otherResolution
      unfold Checked
      rw [snapshot_deliver]
      exact owned.decided waiter task draft isTask otherResolution
    · rw [kept _ same] at isOther
      exact owned.decided other otherTask draft isOther otherResolution
  · exact owned.call

theorem Owned.arrive (transactionId : Option String) (phase : BreakpointPhase)
    (location : Location.ResolvedLocation) (draft : EditableHttpMessage) (bodyLength : Option Nat) :
    (tool.arrive toLowercase transactionId phase location draft bodyLength).Owned http := by
  unfold BreakpointsTool.arrive
  split
  · exact owned
  split
  · exact owned
  · split
    · exact { owned with }
    · exact owned

theorem Owned.insert (numbered : tool.Numbered) (message : Nat) (now : UInt64) :
    (tool.insert message now).Owned http := by
  unfold BreakpointsTool.insert
  split
  · exact owned
  next found isFound =>
  split
  · exact { owned with }
  next place =>
  obtain ⟨_, absentTransaction⟩ := not_or.mp place
  have free : tool.suspended.get? found.transactionId = none :=
    contains_eq_false.mp (Bool.eq_false_iff.mpr absentTransaction)
  have fresh : tool.waiters.get? message = none := (numbered.matched message found isFound).2
  have notInHand : tool.inHand.get? message = none := by
    cases inHand : tool.inHand.get? message with
    | none => rfl
    | some resolution =>
      obtain ⟨task, isTask, _⟩ := owned.hand message resolution inHand
      rw [fresh] at isTask
      cases isTask
  constructor
  · intro transactionId pending isPending
    rw [get?_insert] at isPending
    split at isPending
    · next same =>
        cases isPending
        exact ⟨same.symm, notInHand, _, get?_insert_self .., rfl, rfl, .inl rfl⟩
    · obtain ⟨_, _, task, isTask, rest⟩ :=
        owned.entry transactionId pending isPending
      grind
  · intro waiter resolution inHand
    obtain ⟨task, isTask, rest⟩ := owned.hand waiter resolution inHand
    grind
  · intro waiter task isTask channel live
    rw [get?_insert] at isTask
    split at isTask
    · next same =>
        cases isTask
        exact .inr ⟨by simp, _, get?_insert_self .., same.symm⟩
    rcases owned.located waiter task isTask channel live with
      inHand | ⟨stage, pending, isPending, own⟩
    · exact .inl inHand
    · refine .inr ⟨stage, pending, ?_, own⟩
      grind
  · intro waiter task draft isTask channel
    rw [get?_insert] at isTask
    split at isTask
    · cases isTask
      cases channel
    · exact owned.delivered waiter task draft isTask channel
  · intro waiter task draft isTask resolution
    rw [get?_insert] at isTask
    split at isTask
    · cases isTask
      cases resolution
    · exact owned.decided waiter task draft isTask resolution
  · exact owned.call

theorem Owned.step (numbered : tool.Numbered) {action : BreakpointAction}
    (same : tool.SamePhase action) : (tool.step http toLowercase action).Owned http := by
  cases action with
  | arrive transactionId _ _ draft => exact owned.arrive ..
  | insert message now => exact owned.insert numbered message now
  | receive waiter => exact owned.receive waiter
  | expire waiter => exact owned.expire waiter
  | takeTimedOut waiter => exact owned.takeTimedOut waiter
  | finish waiter => exact owned.finish waiter
  | cancel waiter => exact owned.cancel waiter
  | continueItem transactionId draft => exact owned.continueItem transactionId draft
  | takeContinued => exact owned.takeContinued same
  | abortItem transactionId => exact owned.take fun _ _ _ resolved => nomatch resolved
  | releaseAll => exact owned.releaseAll
  | send waiter => exact owned.send waiter

end

end Steps

end BreakpointsTool

end SprakCapture.HttpProxy
