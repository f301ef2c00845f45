import SprakCapture.HttpProxy.BreakpointOwnership

/-!
# Resolution of suspended messages

A suspended message is resolved once: what it was resolved with stays, its entry is gone when it
returns, and from every state its task can come to its end.
-/

namespace SprakCapture.HttpProxy

open Data Table BreakpointsTool

/-- A later form of a task: it keeps what it is, and what it was resolved with. -/
structure Waiter.Later (before after : Waiter) : Prop where
  snapshot : after.snapshot = before.snapshot
  resolution : ∀ resolution, before.stage.resolution? = some resolution →
    after.stage.resolution? = some resolution

namespace Waiter.Later

theorem refl (task : Waiter) : task.Later task := ⟨rfl, fun _ same => same⟩

theorem trans {first second third : Waiter} (before : first.Later second)
    (after : second.Later third) : first.Later third where
  snapshot := after.snapshot.trans before.snapshot
  resolution := fun resolution same =>
    after.resolution resolution (before.resolution resolution same)

end Waiter.Later

/-- The actions of a task that waits, and the use of its sender. -/
def BreakpointAction.drives (waiter : Nat) : BreakpointAction → Bool
  | .receive other | .expire other | .takeTimedOut other | .finish other | .send other =>
    other = waiter
  | _ => false

variable (transactionId : Option String) (action : BreakpointAction) (phase : BreakpointPhase)

namespace BreakpointsTool

/-- The tasks that wait later are those of before, in later forms. -/
structure Continues (before after : BreakpointsTool) : Prop where
  configuration : after.configuration = before.configuration
  matched : after.matched = before.matched
  issued : before.issued ≤ after.issued
  size : after.suspended.size ≤ before.suspended.size
  absent : ∀ waiter, before.waiters.get? waiter = none → after.waiters.get? waiter = none
  later : ∀ waiter task, before.waiters.get? waiter = some task →
    ∃ next, after.waiters.get? waiter = some next ∧ task.Later next

section Steps

variable {http : HttpLibrary} {toLowercase : List Char → List Char} {tool : BreakpointsTool}

theorem continues_refl (tool : BreakpointsTool) : tool.Continues tool where
  configuration := rfl
  matched := rfl
  issued := Nat.le_refl _
  size := Nat.le_refl _
  absent := fun _ isAbsent => isAbsent
  later := fun _ task isTask => ⟨task, isTask, .refl task⟩

theorem Continues.trans {first second third : BreakpointsTool} (before : first.Continues second)
    (after : second.Continues third) : first.Continues third where
  configuration := after.configuration.trans before.configuration
  matched := after.matched.trans before.matched
  issued := Nat.le_trans before.issued after.issued
  size := Nat.le_trans after.size before.size
  absent := fun waiter isAbsent => after.absent waiter (before.absent waiter isAbsent)
  later := by
    intro waiter task isTask
    obtain ⟨second, isSecond, firstLater⟩ := before.later waiter task isTask
    obtain ⟨third, isThird, secondLater⟩ := after.later waiter second isSecond
    exact ⟨third, isThird, firstLater.trans secondLater⟩

theorem continues_take (transactionId : String) (resolution : Option BreakpointResolution) :
    tool.Continues (tool.take transactionId resolution) where
  configuration := by simp
  matched := by simp
  issued := by simp
  size := by
    rw [suspended_take]
    exact size_erase_le _ _
  absent := fun waiter isAbsent => by simpa using isAbsent
  later := fun waiter task isTask => ⟨task, by simpa using isTask, .refl task⟩

theorem continues_dropLease (waiter : Nat) (transactionId : String) :
    tool.Continues (tool.dropLease waiter transactionId) := by
  rcases tool.dropLease_cases waiter transactionId with taken | kept
  · rw [taken]
    exact continues_take transactionId none
  · rw [kept]
    exact continues_refl tool

variable {waiter : Nat} {task : Waiter} {stage : WaiterStage}

theorem continues_setStage (isTask : tool.waiters.get? waiter = some task)
    (kept : ∀ resolution, task.stage.resolution? = some resolution →
      stage.resolution? = some resolution) :
    tool.Continues (tool.setStage waiter stage) where
  configuration := rfl
  matched := rfl
  issued := Nat.le_refl _
  size := Nat.le_refl _
  absent := by
    intro other isAbsent
    rw [get?_setStage, isAbsent]
    split <;> rfl
  later := by
    intro other otherTask isOther
    rw [get?_setStage, isOther]
    split
    · next same =>
        rw [same, isTask] at isOther
        cases isOther
        exact ⟨_, rfl, rfl, kept⟩
    · exact ⟨otherTask, rfl, .refl otherTask⟩

variable {after : BreakpointsTool}

/-- A task keeps its resolution in a new stage, after a change that leaves the tasks alone. -/
theorem Continues.setStage (continues : tool.Continues after)
    (waiters : after.waiters = tool.waiters) (isTask : tool.waiters.get? waiter = some task)
    (kept : ∀ resolution, task.stage.resolution? = some resolution →
      stage.resolution? = some resolution) :
    tool.Continues (after.setStage waiter stage) :=
  continues.trans (continues_setStage (waiters ▸ isTask) kept)

theorem continues_send (waiter : Nat) : tool.Continues (tool.send waiter) := by
  unfold send
  split
  · exact continues_refl tool
  next resolution _ =>
  refine ⟨rfl, rfl, Nat.le_refl _, Nat.le_refl _, fun other isAbsent => ?_,
    fun other task isTask => ?_⟩
  · rw [get?_modify, isAbsent]
    split <;> rfl
  · rw [get?_modify, isTask]
    split
    · exact ⟨deliver task resolution, rfl, snapshot_deliver task resolution,
        fun _ _ => by rwa [stage_deliver]⟩
    · exact ⟨task, rfl, .refl task⟩

variable (http toLowercase) in
/-- What an action does: a message comes, a message gets an entry, or what is there continues. -/
theorem step_cases (tool : BreakpointsTool) (action : BreakpointAction) :
    (∃ transactionId phase location draft bodyLength,
        action = .arrive transactionId phase location draft bodyLength) ∨
      (∃ message now, action = .insert message now) ∨
      tool.Continues (tool.step http toLowercase action) := by
  cases action with
  | arrive transactionId phase location draft bodyLength =>
    simp
  | insert message now => exact .inr (.inl ⟨message, now, rfl⟩)
  | receive waiter =>
    refine .inr (.inr ?_)
    change tool.Continues (tool.receive waiter)
    unfold receive
    split
    · next task isTask =>
        split
        · next waits =>
            have unresolved (resolution : BreakpointResolution) (taken : Prop)
                (resolved : task.stage.resolution? = some resolution) : taken := by
              rcases waits with stage | stage <;> simp [stage, WaiterStage.resolution?] at resolved
            split
            · exact continues_refl tool
            · exact continues_setStage isTask fun resolution => unresolved resolution _
            · exact continues_setStage isTask fun resolution => unresolved resolution _
        · exact continues_refl tool
    · exact continues_refl tool
  | expire waiter =>
    refine .inr (.inr ?_)
    change tool.Continues (tool.expire waiter)
    unfold expire
    split
    · next task isTask =>
        split
        · next waits =>
            refine continues_setStage isTask fun resolution resolved => ?_
            rw [waits.1] at resolved
            cases resolved
        · exact continues_refl tool
    · exact continues_refl tool
  | takeTimedOut waiter =>
    refine .inr (.inr ?_)
    change tool.Continues (tool.takeTimedOut waiter)
    unfold takeTimedOut
    split
    · next task isTask =>
        split
        · next expired =>
            have unresolved (resolution : BreakpointResolution) (taken : Prop)
                (resolved : task.stage.resolution? = some resolution) : taken := by
              rw [expired] at resolved
              cases resolved
            split
            · exact (continues_take _ none).setStage (waiters_take ..) isTask
                fun resolution => unresolved resolution _
            · exact continues_setStage isTask fun resolution => unresolved resolution _
        · exact continues_refl tool
    · exact continues_refl tool
  | finish waiter =>
    refine .inr (.inr ?_)
    change tool.Continues (tool.finish waiter)
    unfold finish
    split
    · next task isTask =>
        split
        · next resolution stage =>
            refine (continues_dropLease waiter _).setStage (waiters_dropLease ..) isTask
              fun taken isTaken => ?_
            rw [stage] at isTaken
            exact isTaken
        · exact continues_refl tool
    · exact continues_refl tool
  | cancel waiter =>
    refine .inr (.inr ?_)
    change tool.Continues (tool.cancel waiter)
    unfold cancel
    split
    · next task isTask =>
        split
        · next waits =>
            refine (continues_dropLease waiter _).setStage (waiters_dropLease ..) isTask
              fun resolution resolved => ?_
            rcases waits with stage | stage <;> simp [stage, WaiterStage.resolution?] at resolved
        · exact continues_refl tool
    · exact continues_refl tool
  | continueItem transactionId draft =>
    refine .inr (.inr ?_)
    change tool.Continues (tool.continueItem http transactionId draft)
    unfold continueItem
    split
    · exact continues_refl tool
    · exact { continues_refl tool with issued := Nat.le_succ _ }
  | takeContinued call =>
    refine .inr (.inr ?_)
    change tool.Continues (tool.takeContinued call)
    unfold takeContinued
    split
    · exact continues_refl tool
    · next continuing _ =>
        have taken : tool.Continues (tool.take continuing.transactionId
            (some (.continueWith continuing.draft))) := continues_take _ _
        exact { taken with }
  | abortItem transactionId => exact .inr (.inr (continues_take transactionId (some .abort)))
  | releaseAll => exact .inr (.inr { continues_refl tool with size := Nat.zero_le _ })
  | send waiter => exact .inr (.inr (continues_send waiter))

theorem Continues.numbered (continues : tool.Continues after) (numbered : tool.Numbered) :
    after.Numbered where
  waiter := by
    intro waiter _ isTask
    cases before : tool.waiters.get? waiter with
    | none =>
      rw [continues.absent waiter before] at isTask
      cases isTask
    | some old => exact Nat.lt_of_lt_of_le (numbered.waiter waiter old before) continues.issued
  matched := by
    intro message found isFound
    rw [continues.matched] at isFound
    obtain ⟨small, absent⟩ := numbered.matched message found isFound
    exact ⟨Nat.lt_of_lt_of_le small continues.issued, continues.absent message absent⟩

variable {configuration : BreakpointsConfiguration}

theorem Continues.bounded (continues : tool.Continues after)
    (bounded : tool.Bounded configuration) :
    after.Bounded configuration where
  fixed := continues.configuration.trans bounded.fixed
  known := by
    intro message found isFound
    rw [continues.matched] at isFound
    exact bounded.known message found isFound
  bound := Nat.le_trans continues.size bounded.bound

theorem Numbered.arrive (numbered : tool.Numbered) (transactionId : Option String)
    (phase : BreakpointPhase) (location : Location.ResolvedLocation) (draft : EditableHttpMessage)
    (bodyLength : Option Nat) :
    (tool.arrive toLowercase transactionId phase location draft bodyLength).Numbered := by
  unfold BreakpointsTool.arrive
  split
  · exact numbered
  split
  · exact numbered
  split
  · constructor
    · intro waiter task isTask
      exact Nat.lt_succ_of_lt (numbered.waiter waiter task isTask)
    · intro message found isFound
      rw [get?_insert] at isFound
      split at isFound
      · next same =>
          refine ⟨same ▸ Nat.lt_succ_self _, ?_⟩
          cases isTask : tool.waiters.get? message with
          | none => rfl
          | some task => exact absurd (numbered.waiter message task isTask) (same ▸ Nat.lt_irrefl _)
      · obtain ⟨small, absent⟩ := numbered.matched message found isFound
        exact ⟨Nat.lt_succ_of_lt small, absent⟩
  · exact numbered

theorem Numbered.insert (numbered : tool.Numbered) (message : Nat) (now : UInt64) :
    (tool.insert message now).Numbered := by
  unfold BreakpointsTool.insert
  split
  · exact numbered
  next found isFound =>
  have rest : ∀ other otherFound, (tool.matched.erase message).get? other = some otherFound →
      other ≠ message ∧ other < tool.issued ∧ tool.waiters.get? other = none := by
    intro other otherFound isOther
    rw [get?_erase] at isOther
    split at isOther
    · cases isOther
    · next different => exact ⟨different, numbered.matched other otherFound isOther⟩
  split
  · exact ⟨numbered.waiter, fun other otherFound isOther => (rest other otherFound isOther).2⟩
  constructor
  · intro waiter task isTask
    rw [get?_insert] at isTask
    split at isTask
    · next same => exact same ▸ (numbered.matched message found isFound).1
    · exact numbered.waiter waiter task isTask
  · grind

theorem Numbered.step (numbered : tool.Numbered) (action : BreakpointAction) :
    (tool.step http toLowercase action).Numbered := by
  rcases tool.step_cases http toLowercase action with
    ⟨transactionId, phase, location, draft, bodyLength, rfl⟩ | ⟨message, now, rfl⟩ | continues
  · exact numbered.arrive transactionId phase location draft bodyLength
  · exact numbered.insert message now
  · exact continues.numbered numbered

section

variable (bounded : tool.Bounded configuration)
include bounded

theorem Bounded.arrive (location : Location.ResolvedLocation) (draft : EditableHttpMessage)
    (bodyLength : Option Nat) :
    (tool.arrive toLowercase transactionId phase location draft bodyLength).Bounded
      configuration := by
  unfold BreakpointsTool.arrive
  split
  · exact bounded
  split
  · exact bounded
  split
  · refine { bounded with known := fun message found isFound => ?_ }
    rw [get?_insert] at isFound
    split at isFound
    · cases isFound
      exact bounded.fixed
    · exact bounded.known message found isFound
  · exact bounded

theorem Bounded.insert (message : Nat) (now : UInt64) :
    (tool.insert message now).Bounded configuration := by
  unfold BreakpointsTool.insert
  split
  · exact bounded
  next found isFound =>
  have known : ∀ other otherFound, (tool.matched.erase message).get? other = some otherFound →
      otherFound.configuration = configuration := by
    intro other otherFound isOther
    rw [get?_erase] at isOther
    split at isOther
    · cases isOther
    · exact bounded.known other otherFound isOther
  split
  · exact { bounded with known }
  next place =>
  obtain ⟨notFull, absent⟩ := not_or.mp place
  refine { bounded with known, bound := ?_ }
  rw [size_insert, if_neg absent, ← bounded.known message found isFound]
  exact Nat.lt_of_not_le notFull

theorem Bounded.step :
    (tool.step http toLowercase action).Bounded configuration := by
  rcases tool.step_cases http toLowercase action with
    ⟨transactionId, phase, location, draft, bodyLength, rfl⟩ | ⟨message, now, rfl⟩ | continues
  · exact bounded.arrive transactionId phase location draft bodyLength
  · exact bounded.insert message now
  · exact continues.bounded bounded

end

@[simp] theorem waiters_arrive (location : Location.ResolvedLocation) (draft : EditableHttpMessage)
    (bodyLength : Option Nat) :
    (tool.arrive toLowercase transactionId phase location draft bodyLength).waiters =
      tool.waiters := by
  unfold arrive
  split
  · rfl
  split
  · rfl
  split <;> rfl

/-- The tasks that wait are not touched by a message that gets its entry. -/
theorem waiters_insert (numbered : tool.Numbered) (message : Nat) (now : UInt64)
    (isTask : tool.waiters.get? waiter = some task) :
    (tool.insert message now).waiters.get? waiter = some task := by
  unfold insert
  split
  · exact isTask
  next found isFound =>
  split
  · exact isTask
  rw [get?_insert, if_neg]
  · exact isTask
  · intro same
    rw [same, (numbered.matched message found isFound).2] at isTask
    cases isTask

variable (http toLowercase) in
theorem later_step (numbered : tool.Numbered) (action : BreakpointAction)
    (isTask : tool.waiters.get? waiter = some task) :
    ∃ next, (tool.step http toLowercase action).waiters.get? waiter = some next ∧
      task.Later next := by
  rcases tool.step_cases http toLowercase action with
    ⟨_, _, _, _, _, rfl⟩ | ⟨message, now, rfl⟩ | continues
  · exact ⟨task, by simpa [step] using isTask, .refl task⟩
  · exact ⟨task, waiters_insert numbered message now isTask, .refl task⟩
  · exact continues.later waiter task isTask

variable (http toLowercase) in
/-- A task that waits is there after each run, in a later form. -/
theorem later_run (numbered : tool.Numbered) (initial : BreakpointsTool)
    (actions : List BreakpointAction) (isTask : tool.waiters.get? waiter = some task) :
    ∃ next, ((machine http toLowercase initial).runFrom tool actions).waiters.get? waiter =
      some next ∧ task.Later next := by
  induction actions generalizing tool task with
  | nil => exact ⟨task, isTask, .refl task⟩
  | cons action actions ih =>
    obtain ⟨next, isNext, later⟩ :=
      later_step http toLowercase numbered action isTask
    obtain ⟨last, isLast, afterwards⟩ := ih (numbered.step action) isNext
    exact ⟨last, isLast, later.trans afterwards⟩

/-! ### The end of a task -/

/-- Actions of the task, and the use of its sender by the call that holds it, bring the task to
its end. -/
def Returns (http : HttpLibrary) (toLowercase : List Char → List Char) (tool : BreakpointsTool)
    (waiter : Nat) : Prop :=
  ∃ actions : List BreakpointAction, (∀ action ∈ actions, action.drives waiter = true) ∧
    ∃ task resolution,
      ((machine http toLowercase tool).runFrom tool actions).waiters.get? waiter = some task ∧
        task.stage = .returned resolution

theorem Returns.of_step (drives : action.drives waiter = true)
    (returns : Returns http toLowercase (tool.step http toLowercase action) waiter) :
    Returns http toLowercase tool waiter := by
  obtain ⟨actions, drive, task, resolution, isTask, stage⟩ := returns
  exact ⟨action :: actions, List.forall_mem_cons.mpr ⟨drives, drive⟩, task, resolution, isTask,
    stage⟩

theorem get?_setStage_self (stage : WaiterStage) (isTask : tool.waiters.get? waiter = some task) :
    (tool.setStage waiter stage).waiters.get? waiter = some { task with stage } := by
  rw [get?_setStage, if_pos rfl, isTask]
  rfl

section

variable (isTask : tool.waiters.get? waiter = some task)
include isTask

theorem returns_of_resolved {resolution : BreakpointResolution}
    (stage : task.stage = .resolved resolution) :
    Returns http toLowercase tool waiter := by
  refine Returns.of_step (.finish waiter) (decide_eq_true rfl)
    ⟨[], by simp, { task with stage := .returned resolution }, resolution, ?_, rfl⟩
  change (tool.finish waiter).waiters.get? waiter = _
  unfold finish
  rw [isTask]
  dsimp only
  rw [stage]
  exact get?_setStage_self _ (by simpa using isTask)

/-- A task that waits for its channel goes on when the channel has something. -/
theorem returns_of_delivered (waits : task.stage = .waiting ∨ task.stage = .awaiting)
    (ready : task.channel ≠ .pending) :
    Returns http toLowercase tool waiter := by
  refine Returns.of_step (.receive waiter) (decide_eq_true rfl) ?_
  have received : ∃ resolution,
      tool.receive waiter = tool.setStage waiter (.resolved resolution) := by
    unfold receive
    rw [isTask]
    dsimp only
    rw [if_pos waits]
    split
    · next pending => exact absurd pending ready
    · next resolution _ => exact ⟨resolution, rfl⟩
    · exact ⟨.abort, rfl⟩
  obtain ⟨resolution, isReceived⟩ := received
  change Returns http toLowercase (tool.receive waiter) waiter
  rw [isReceived]
  exact returns_of_resolved (get?_setStage_self _ isTask) rfl

/-- A task whose sender is in hand, or used, comes to its end. -/
theorem returns_of_hand (waits : task.stage = .waiting ∨ task.stage = .awaiting)
    (held : task.channel = .pending → (tool.inHand.get? waiter).isSome) :
    Returns http toLowercase tool waiter := by
  by_cases channel : task.channel = .pending
  · obtain ⟨resolution, inHand⟩ := Option.isSome_iff_exists.mp (held channel)
    refine Returns.of_step (.send waiter) (decide_eq_true rfl) ?_
    have sent : (tool.send waiter).waiters.get? waiter = some (deliver task resolution) := by
      unfold send
      grind
    refine returns_of_delivered sent (by simpa using waits) ?_
    unfold deliver
    rw [channel]
    cases resolution <;> simp
  · exact returns_of_delivered isTask waits channel

end

theorem Owned.returns_of_expired (owned : tool.Owned http)
    (isTask : tool.waiters.get? waiter = some task) (expired : task.stage = .expired) :
    Returns http toLowercase tool waiter := by
  refine Returns.of_step (.takeTimedOut waiter) (decide_eq_true rfl) ?_
  have kept := owned.takeTimedOut waiter
  change Returns http toLowercase (tool.takeTimedOut waiter) waiter
  unfold BreakpointsTool.takeTimedOut at kept ⊢
  rw [isTask] at kept ⊢
  dsimp only at kept ⊢
  rw [if_pos expired] at kept ⊢
  split
  · exact returns_of_resolved (get?_setStage_self _ (by simpa using isTask)) rfl
  next absent =>
    rw [if_neg absent] at kept
    have isNext := get?_setStage_self .awaiting isTask
    refine returns_of_hand isNext (.inr rfl) fun channel => ?_
    rcases kept.located waiter _ isNext channel rfl with inHand | ⟨notAwaiting, _⟩
    · exact inHand
    · exact absurd rfl notAwaiting

/-- From every state, every task that is not dropped comes to its end. -/
theorem Owned.returns (owned : tool.Owned http) (isTask : tool.waiters.get? waiter = some task)
    (notDropped : task.stage ≠ .dropped) : Returns http toLowercase tool waiter := by
  cases stage : task.stage with
  | resolved resolution => exact returns_of_resolved isTask stage
  | returned resolution => exact ⟨[], by simp, task, resolution, isTask, stage⟩
  | dropped => exact absurd stage notDropped
  | expired => exact owned.returns_of_expired isTask stage
  | awaiting =>
    refine returns_of_hand isTask (.inr stage) fun channel => ?_
    rcases owned.located waiter task isTask channel (by rw [stage]; rfl) with
      inHand | ⟨notAwaiting, _⟩
    · exact inHand
    · exact absurd stage notAwaiting
  | waiting =>
    by_cases channel : task.channel = .pending
    · refine Returns.of_step (.expire waiter) (decide_eq_true rfl) ?_
      have kept := owned.expire waiter
      change Returns http toLowercase (tool.expire waiter) waiter
      unfold BreakpointsTool.expire at kept ⊢
      rw [isTask] at kept ⊢
      dsimp only at kept ⊢
      rw [if_pos ⟨stage, channel⟩] at kept ⊢
      exact kept.returns_of_expired (get?_setStage_self .expired isTask) rfl
    · exact returns_of_delivered isTask (.inl stage) channel

end Steps

/-! ### Runs -/

/-- The queue is within its bound and has one entry for a transaction, and each suspended task
gets one resolution, which was checked for its phase when it is edited. -/
structure ResolvedOnce (http : HttpLibrary) (toLowercase : List Char → List Char)
    (configuration : BreakpointsConfiguration) (tool : BreakpointsTool) : Prop where
  bound : tool.suspended.size ≤ configuration.maxSuspended.toNat
  distinct : ∀ first second pending other, tool.suspended.get? first = some pending →
    tool.suspended.get? second = some other →
      pending.snapshot.transactionId = other.snapshot.transactionId → first = second
  ends : ∀ waiter task, tool.waiters.get? waiter = some task → task.stage ≠ .dropped →
    Returns http toLowercase tool waiter
  once : ∀ waiter task resolution, tool.waiters.get? waiter = some task →
    task.stage.resolution? = some resolution → ∀ actions,
      ∃ next, ((machine http toLowercase tool).runFrom tool actions).waiters.get? waiter =
        some next ∧ next.stage.resolution? = some resolution
  delivered : ∀ waiter task draft, tool.waiters.get? waiter = some task →
    task.channel = .resolved (.continueWith draft) → Checked http task draft
  edited : ∀ waiter task draft, tool.waiters.get? waiter = some task →
    task.stage.resolution? = some (.continueWith draft) →
      draft = task.snapshot.draft ∨ Checked http task draft
  gone : ∀ waiter task, tool.waiters.get? waiter = some task →
    (task.stage = .dropped ∨ ∃ resolution, task.stage = .returned resolution) →
      ∀ transactionId pending, tool.suspended.get? transactionId = some pending →
        pending.waiter ≠ waiter

/-- The places of the senders with what tasks know. -/
structure Sound (http : HttpLibrary) (configuration : BreakpointsConfiguration)
    (tool : BreakpointsTool) : Prop where
  numbered : tool.Numbered
  owned : tool.Owned http
  bounded : tool.Bounded configuration

variable {configuration : BreakpointsConfiguration} {tool : BreakpointsTool} {http : HttpLibrary}

theorem sound_new (created : new configuration = .ok tool) :
    tool.Sound http configuration := by
  obtain ⟨_, _, isTool⟩ := Data.Checked.bind_eq_ok.mp created
  cases isTool
  refine ⟨⟨?_, ?_⟩, ⟨?_, ?_, ?_, ?_, ?_, ?_⟩, ⟨rfl, ?_, Nat.zero_le _⟩⟩
  all_goals
    intros
    contradiction

theorem Sound.resolvedOnce {toLowercase : List Char → List Char}
    (sound : tool.Sound http configuration) :
    ResolvedOnce http toLowercase configuration tool where
  bound := sound.bounded.bound
  distinct := by
    intro first second pending other found otherFound same
    rw [← (sound.owned.entry first pending found).1, same]
    exact (sound.owned.entry second other otherFound).1
  ends := fun waiter task isTask notDropped => sound.owned.returns isTask notDropped
  once := by
    intro waiter task resolution isTask resolved actions
    obtain ⟨next, isNext, later⟩ := later_run http toLowercase sound.numbered tool actions isTask
    exact ⟨next, isNext, later.resolution resolution resolved⟩
  delivered := sound.owned.delivered
  edited := sound.owned.decided
  gone := by
    intro waiter task isTask stopped _ pending found same
    have stage := (sound.owned.entry_of_waiter found same isTask).2.2.2
    rcases stopped with dropped | ⟨resolution, returned⟩
    · rw [dropped] at stage
      simp at stage
    · rw [returned] at stage
      simp at stage

/-- Suspended messages are resolved once, in every run in which a call that continues a message
finds an entry of the phase that it read. -/
theorem breakpoints_resolvedOnce (http : HttpLibrary) (toLowercase : List Char → List Char)
    {configuration : BreakpointsConfiguration} {tool : BreakpointsTool}
    (created : new configuration = .ok tool) {actions : List BreakpointAction}
    (guarded : (machine http toLowercase tool).Guarded SamePhase tool actions) :
    ResolvedOnce http toLowercase configuration ((machine http toLowercase tool).run actions) := by
  have sound : ((machine http toLowercase tool).run actions).Sound http configuration := by
    refine Machine.guarded_run (sound_new created) ?_ guarded
    intro _ action before same
    exact ⟨before.numbered.step action, before.owned.step before.numbered same,
      before.bounded.step action⟩
  exact sound.resolvedOnce

end BreakpointsTool

/-! ### A message that is suspended again -/

/-- What the libraries make of the texts of the messages below. -/
def exampleHttpLibrary : HttpLibrary where
  isMethod := (· == "GET")
  parseUri := fun _ => none
  headerName := fun _ => none
  isHeaderValue := fun _ => false
  decodeBase64 := fun text => if text = "" then some [] else none

def exampleBreakpoints : BreakpointsConfiguration where
  enabled := true
  rules := [
    { id := "all", enabled := true
      location := { protocol := [], host := [], port := [], path := [], query := none }
      onRequest := true, onResponse := true }]
  suspendTimeoutSeconds := 120
  maxSuspended := 32
  onTimeout := .continueMessage

def exampleLocation : Location.ResolvedLocation where
  protocol := "http".toList
  host := ['h']
  port := 80
  path := ['/']
  query := []
  display := "http://h/".toList

def exampleRequest : EditableHttpMessage where
  method := some "GET"
  url := none
  statusCode := none
  reason := none
  headers := []
  bodyBase64 := ""

def exampleResponse : EditableHttpMessage where
  method := none
  url := none
  statusCode := some 200
  reason := none
  headers := []
  bodyBase64 := ""

def exampleTool : BreakpointsTool where
  configuration := exampleBreakpoints
  suspended := ∅
  matched := ∅
  waiters := ∅
  calls := ∅
  inHand := ∅
  issued := 0

/-- A request is suspended, and a call to continue it has read its phase. -/
def exampleContinued : List BreakpointAction :=
  [.arrive (some "t") .request exampleLocation exampleRequest none, .insert 0 0,
    .continueItem "t" exampleRequest]

/-- The request is aborted, and the response of its transaction is suspended. -/
def exampleAgain : List BreakpointAction :=
  [.abortItem "t", .send 0, .receive 0, .finish 0,
    .arrive (some "t") .response exampleLocation exampleResponse none, .insert 2 0]

namespace BreakpointsTool

theorem breakpoints_resolvedOnce_continued :
    ResolvedOnce exampleHttpLibrary Data.Text.toAsciiLowercase exampleBreakpoints
      ((machine exampleHttpLibrary Data.Text.toAsciiLowercase exampleTool).run
        (exampleContinued ++ [.takeContinued 1, .send 0, .receive 0, .finish 0])) :=
  breakpoints_resolvedOnce exampleHttpLibrary Data.Text.toAsciiLowercase rfl (by decide)

set_option maxRecDepth 4000 in
/-- The draft of the request goes to the response. -/
theorem not_resolvedOnce_again :
    new exampleBreakpoints = .ok exampleTool ∧
    ¬ ResolvedOnce exampleHttpLibrary Data.Text.toAsciiLowercase exampleBreakpoints
      ((machine exampleHttpLibrary Data.Text.toAsciiLowercase exampleTool).run
        (exampleContinued ++ exampleAgain ++ [.takeContinued 1, .send 2, .receive 2])) := by
  refine ⟨rfl, fun resolved => ?_⟩
  have checked := resolved.delivered 2
    { snapshot :=
        { breakpointId := "all", transactionId := "t", phase := .response
          suspendedAtMilliseconds := 0, expiresAtMilliseconds := 120000
          draft := exampleResponse }
      configuration := exampleBreakpoints
      channel := .resolved (.continueWith exampleRequest)
      stage := .resolved (.continueWith exampleRequest) } exampleRequest rfl rfl
  have rejected : validateDraft exampleHttpLibrary .response exampleRequest =
      .error .invalidResponseStatus := rfl
  exact absurd (rejected.symm.trans checked) (by simp)

end BreakpointsTool

end SprakCapture.HttpProxy
