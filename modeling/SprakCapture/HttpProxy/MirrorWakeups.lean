import SprakCapture.HttpProxy.MirrorQueue

/-!
# Wake-ups of the mirror

The counter of the mirror is the number of copies on their way, and the bound of the queue holds
in every run (`counted_run`, `queuedWrites_le`). A waiting task is a different matter: it looks
at the counter first and creates its future afterwards, and a notification in between is lost.
`backPressure_iff` says that this is the only way to get stuck.
-/

namespace SprakCapture.HttpProxy

open Data List Data.Tasks
open EnqueuePhase (hasSlot)

namespace MirrorState

variable {Task : Type}

/-- The calls with a slot whose copy is not queued. -/
def reservedTasks (state : MirrorState Task) : Nat :=
  state.enqueues.countP fun call => call.phase.hasSlot

/-- The copy that is being written, if there is one. -/
def writingTasks (state : MirrorState Task) : Nat := state.writer.inWriting.toNat

/-- Some task has given its slot back and is about to notify the waiters. -/
def ReleasePending (state : MirrorState Task) : Prop :=
  state.writer = .notifying ∨ ∃ call ∈ state.enqueues, call.phase = .notifying

/-- Some call waits on a future that was not notified. -/
def Waits (state : MirrorState Task) : Prop :=
  (∃ call ∈ state.enqueues, call.phase = .waiting false) ∨
    ∃ phase ∈ state.flushes, phase = .waiting false

/-- A call waits, and no copy is on its way and no slot on its way back, so that nothing is left
to notify the call. -/
def Stuck (state : MirrorState Task) : Prop :=
  state.Waits ∧ state.reservedTasks = 0 ∧ state.queue = [] ∧ state.writingTasks = 0 ∧
    ¬ state.ReleasePending

/-- The counter is the number of copies on their way. -/
def Counted (state : MirrorState Task) : Prop :=
  state.queuedWrites = state.reservedTasks + state.queue.length + state.writingTasks

/-- The next step of the task creates a future to wait on. -/
def Registers (state : MirrorState Task) : MirrorAction Task → Prop
  | .runEnqueue index _ =>
    ∃ call, state.enqueues[index]? = some call ∧ call.phase = .refused ∧
      call.configuration.onOverflow = .block
  | .runFlush index => state.flushes[index]? = some .busy
  | _ => False

/-- Something is left that will notify the waiters. -/
def WillNotify (state : MirrorState Task) : Prop :=
  0 < state.queuedWrites ∨ state.ReleasePending

end MirrorState

open MirrorState

variable {Task : Type}

/-- A call that found no slot, or copies on their way, creates its future while the counter is
still positive or the last slot given back is still to be announced. -/
def RegistersInTime (state : MirrorState Task) (action : MirrorAction Task) : Prop :=
  state.Registers action → state.WillNotify

/-! ### The counter -/

variable {state : MirrorState Task} {call : EnqueueCall Task} {index : Nat}

theorem reservedTasks_setPhase (found : state.enqueues[index]? = some call) (phase : EnqueuePhase) :
    (state.setPhase index call phase).reservedTasks + call.phase.hasSlot.toNat =
      state.reservedTasks + phase.hasSlot.toNat :=
  Tasks.countP_set (fun call : EnqueueCall Task => call.phase.hasSlot) found { call with phase }

@[simp] theorem hasSlot_notified (phase : EnqueuePhase) :
    phase.notified.hasSlot = phase.hasSlot := by
  cases phase <;> rfl

@[simp] theorem reservedTasks_notifyWaiters (state : MirrorState Task) :
    state.notifyWaiters.reservedTasks = state.reservedTasks := by
  rw [reservedTasks, notifyWaiters, countP_map]
  simp only [Function.comp_def, hasSlot_notified]
  rfl

variable {phase : EnqueuePhase}

/-- A step that moves one call to another phase keeps the counter right if it changes the
counter and the queue by what the phases say. -/
theorem counted_setPhase {state next : MirrorState Task} (counted : state.Counted)
    (found : state.enqueues[index]? = some call) (same : next.enqueues = state.enqueues)
    (writer : next.writer = state.writer)
    (changed : next.queuedWrites + state.queue.length + call.phase.hasSlot.toNat =
      state.queuedWrites + next.queue.length + phase.hasSlot.toNat) :
    (next.setPhase index call phase).Counted := by
  have slots := reservedTasks_setPhase (same ▸ found) phase
  have reserved : next.reservedTasks = state.reservedTasks := by
    rw [reservedTasks, same, reservedTasks]
  have writing : (next.setPhase index call phase).writingTasks = state.writingTasks := by
    rw [writingTasks, setPhase, writer, writingTasks]
  unfold Counted at counted ⊢
  change next.queuedWrites = _ + next.queue.length + _
  omega

section

variable (counted : state.Counted)
include counted

theorem counted_notifyWaiters : state.notifyWaiters.Counted := by
  unfold Counted
  rw [reservedTasks_notifyWaiters]
  exact counted

omit counted in
theorem reservedTasks_pos (found : state.enqueues[index]? = some call)
    (slot : call.phase.hasSlot = true) : 0 < state.reservedTasks :=
  countP_pos_iff.mpr ⟨call, mem_of_getElem? found, slot⟩

theorem counted_runEnqueue (index : Nat) (spurious : Bool) :
    (state.runEnqueue index spurious).Counted := by
  rw [runEnqueue]
  split
  · exact counted
  rename_i call found
  split <;> rename_i isPhase
  case h_1 => exact counted_setPhase counted found rfl rfl (by simp [isPhase, hasSlot])
  case h_2 current =>
    split
    · exact counted_setPhase counted found rfl rfl (by simp [isPhase, hasSlot])
    split
    · rename_i exchanged
      refine counted_setPhase counted found rfl rfl ?_
      simp only [isPhase, hasSlot, Bool.toNat_true, Bool.toNat_false]
      omega
    · exact counted_setPhase counted found rfl rfl (by simp [isPhase, hasSlot])
  case h_3 =>
    split <;> exact counted_setPhase counted found rfl rfl (by simp [isPhase, hasSlot])
  case h_4 => exact counted_setPhase counted found rfl rfl (by simp [isPhase, hasSlot])
  case h_6 =>
    split
    · refine counted_setPhase counted found rfl rfl ?_
      simp only [isPhase, hasSlot, length_append, length_singleton,
        Bool.toNat_true, Bool.toNat_false]
      omega
    split
    · exact counted_setPhase counted found rfl rfl (by simp [isPhase, hasSlot])
    · exact counted
  case h_7 =>
    have positive := reservedTasks_pos found (by rw [isPhase]; rfl)
    refine counted_setPhase counted found rfl rfl ?_
    unfold Counted at counted
    simp only [isPhase, hasSlot, Bool.toNat_true, Bool.toNat_false]
    omega
  case h_8 =>
    exact counted_notifyWaiters
      (counted_setPhase counted found rfl rfl (by simp [isPhase, hasSlot]))
  case h_9 => exact counted_setPhase counted found rfl rfl (by simp [isPhase, hasSlot])
  all_goals exact counted

theorem counted_abandonEnqueue (index : Nat) : (state.abandonEnqueue index).Counted := by
  rw [abandonEnqueue]
  split
  · exact counted
  rename_i call found
  split
  · rename_i isPhase
    exact counted_setPhase counted found rfl rfl (by simp [isPhase, hasSlot])
  · exact counted

theorem counted_runFlush (index : Nat) : (state.runFlush index).Counted := by
  rw [runFlush]
  split
  · split <;> exact counted
  all_goals exact counted

theorem counted_timeoutFlush (index : Nat) : (state.timeoutFlush index).Counted := by
  rw [timeoutFlush]
  split <;> exact counted

theorem counted_runWriter (result : Except String Unit) : (state.runWriter result).Counted := by
  have counts : state.queuedWrites =
    state.reservedTasks + state.queue.length + state.writer.inWriting.toNat := counted
  unfold runWriter
  split <;> rename_i isWriter <;> rw [isWriter] at counts
  case h_1 =>
    split
    · exact counted
    rename_i task queue isQueue
    rw [isQueue] at counts
    change state.queuedWrites = state.reservedTasks + queue.length + 1
    simp only [MirrorWriter.inWriting, Bool.toNat_false] at counts
    omega
  case h_2 => split <;> exact counts
  case h_3 => exact counts
  case h_4 => exact counts
  case h_5 =>
    change state.queuedWrites - 1 = state.reservedTasks + state.queue.length + 0
    simp only [MirrorWriter.inWriting, Bool.toNat_true] at counts
    omega
  case h_6 =>
    refine counted_notifyWaiters ?_
    change state.queuedWrites = state.reservedTasks + state.queue.length + 0
    simpa [MirrorWriter.inWriting] using counts

end

variable {configuration : MirrorConfiguration}

theorem counted_step (state : MirrorState Task) (action : MirrorAction Task)
    (counted : state.Counted) : ((mirror Task configuration).step state action).Counted := by
  cases action with
  | replaceConfiguration configuration =>
    change (state.replaceConfiguration configuration).Counted
    rw [replaceConfiguration]
    split <;> exact counted
  | enqueue =>
    change state.queuedWrites = List.countP _ (_ ++ _) + state.queue.length + _
    rw [countP_append]
    exact counted
  | runEnqueue index spurious => exact counted_runEnqueue counted index spurious
  | abandonEnqueue index => exact counted_abandonEnqueue counted index
  | flush => exact counted
  | runFlush index => exact counted_runFlush counted index
  | timeoutFlush index => exact counted_timeoutFlush counted index
  | runWriter result => exact counted_runWriter counted result

theorem counted_new (configuration : MirrorConfiguration) :
    (new configuration : MirrorState Task).Counted := rfl

/-- In every run, the counter is the number of copies on their way. -/
theorem counted_run (configuration : MirrorConfiguration) (actions : List (MirrorAction Task)) :
    ((mirror Task configuration).run actions).Counted :=
  Machine.invariant_run (counted_new configuration) counted_step actions

/-! ### The bound of the queue -/

/-- The largest bound that was in force: the one at the start, or one that passed its check
later. -/
def largestMaximum (configuration : MirrorConfiguration) : List (MirrorAction Task) → Nat
  | [] => configuration.maxQueueLength
  | .replaceConfiguration next :: actions =>
    match next.validate with
    | .ok () => max configuration.maxQueueLength (largestMaximum next actions)
    | .error _ => largestMaximum configuration actions
  | _ :: actions => largestMaximum configuration actions

/-- No bound that some task may still use is greater, and neither is the counter. -/
structure MirrorState.Within (state : MirrorState Task) (bound : Nat) : Prop where
  current : state.configuration.maxQueueLength ≤ bound
  snapshots : ∀ call ∈ state.enqueues, call.configuration.maxQueueLength ≤ bound
  counter : state.queuedWrites ≤ bound

theorem within_setPhase {state next : MirrorState Task} {bound index : Nat}
    (within : state.Within bound) (found : state.enqueues[index]? = some call)
    (same : next.enqueues = state.enqueues)
    (configuration : next.configuration = state.configuration)
    (counter : next.queuedWrites ≤ bound) : (next.setPhase index call phase).Within bound where
  current := by
    rw [setPhase, configuration]
    exact within.current
  snapshots other member := by
    rcases mem_or_eq_of_mem_set member with before | rfl
    · exact within.snapshots other (same ▸ before)
    · exact within.snapshots call (mem_of_getElem? found)
  counter := counter

variable {bound : Nat}

theorem within_notifyWaiters (within : state.Within bound) :
    state.notifyWaiters.Within bound where
  current := within.current
  snapshots call member := by
    obtain ⟨before, isBefore, rfl⟩ := List.mem_map.mp member
    exact within.snapshots before isBefore
  counter := within.counter

theorem within_runEnqueue (within : state.Within bound) (index : Nat) (spurious : Bool) :
    (state.runEnqueue index spurious).Within bound := by
  have counter := within.counter
  rw [runEnqueue]
  split
  · exact within
  rename_i call found
  have snapshot := within.snapshots call (mem_of_getElem? found)
  split
  case h_1 => exact within_setPhase within found rfl rfl counter
  case h_2 =>
    split
    · exact within_setPhase within found rfl rfl counter
    split
    · exact within_setPhase within found rfl rfl (by simp only; omega)
    · exact within_setPhase within found rfl rfl counter
  case h_3 => split <;> exact within_setPhase within found rfl rfl counter
  case h_4 => exact within_setPhase within found rfl rfl counter
  case h_6 =>
    split
    · exact within_setPhase within found rfl rfl counter
    split
    · exact within_setPhase within found rfl rfl counter
    · exact within
  case h_7 => exact within_setPhase within found rfl rfl (by simp only; omega)
  case h_8 => exact within_notifyWaiters (within_setPhase within found rfl rfl counter)
  case h_9 => exact within_setPhase within found rfl rfl counter
  all_goals exact within

variable {action : MirrorAction Task}

/-- A bound is kept by every step that does not put a greater one in force. -/
theorem within_step (within : state.Within bound)
    (replaced : ∀ next, action = .replaceConfiguration next → next.validate = .ok () →
      next.maxQueueLength ≤ bound) :
    ((mirror Task configuration).step state action).Within bound := by
  have less : state.queuedWrites - 1 ≤ bound := Nat.le_trans (Nat.sub_le _ _) within.counter
  cases action with
  | replaceConfiguration next =>
    change (state.replaceConfiguration next).Within bound
    rw [replaceConfiguration]
    split
    · rename_i valid
      exact ⟨replaced next rfl valid, within.snapshots, within.counter⟩
    · exact within
  | enqueue =>
    refine ⟨within.current, fun call member => ?_, within.counter⟩
    rcases mem_append.mp member with before | isNew
    · exact within.snapshots call before
    · rw [mem_singleton.mp isNew]
      exact within.current
  | runEnqueue index spurious => exact within_runEnqueue within index spurious
  | abandonEnqueue index =>
    change (state.abandonEnqueue index).Within bound
    rw [abandonEnqueue]
    split
    · exact within
    rename_i call found
    split
    · exact within_setPhase within found rfl rfl within.counter
    · exact within
  | flush => exact ⟨within.current, within.snapshots, within.counter⟩
  | runFlush index =>
    change (state.runFlush index).Within bound
    rw [runFlush]
    split
    · split <;> exact ⟨within.current, within.snapshots, within.counter⟩
    all_goals exact ⟨within.current, within.snapshots, within.counter⟩
  | timeoutFlush index =>
    change (state.timeoutFlush index).Within bound
    rw [timeoutFlush]
    split <;> exact ⟨within.current, within.snapshots, within.counter⟩
  | runWriter result =>
    change (state.runWriter result).Within bound
    unfold runWriter
    split
    case h_1 => split <;> exact ⟨within.current, within.snapshots, within.counter⟩
    case h_2 => split <;> exact ⟨within.current, within.snapshots, within.counter⟩
    case h_5 => exact ⟨within.current, within.snapshots, less⟩
    case h_6 =>
      exact within_notifyWaiters ⟨within.current, within.snapshots, within.counter⟩
    all_goals exact ⟨within.current, within.snapshots, within.counter⟩

theorem le_largestMaximum (configuration : MirrorConfiguration)
    (actions : List (MirrorAction Task)) :
    configuration.maxQueueLength ≤ largestMaximum configuration actions := by
  fun_induction largestMaximum configuration actions with
  | case1 configuration => exact Nat.le_refl _
  | case2 configuration next actions _ ih => exact Nat.le_max_left _ _
  | case3 configuration next actions _ _ ih | case4 configuration _ actions _ ih => exact ih

/-- A configuration that passed its check is no greater than the largest. -/
theorem replaced_le_largestMaximum {configuration next : MirrorConfiguration}
    {actions : List (MirrorAction Task)} (member : .replaceConfiguration next ∈ actions)
    (valid : next.validate = .ok ()) :
    next.maxQueueLength ≤ largestMaximum configuration actions := by
  fun_induction largestMaximum configuration actions with
  | case1 configuration => simp at member
  | case2 configuration other actions _ ih =>
    rcases mem_cons.mp member with same | later
    · cases same
      exact Nat.le_trans (le_largestMaximum next actions) (Nat.le_max_right _ _)
    · exact Nat.le_trans (ih later) (Nat.le_max_right _ _)
  | case3 configuration other actions _ invalid ih =>
    rcases mem_cons.mp member with same | later
    · cases same
      rw [valid] at invalid
      cases invalid
    · exact ih later
  | case4 configuration _ actions other ih =>
    rcases mem_cons.mp member with same | later
    · exact absurd same.symm (other next)
    · exact ih later

/-- In every run, the counter is within the largest bound that was in force. -/
theorem queuedWrites_le (configuration : MirrorConfiguration) (actions : List (MirrorAction Task)) :
    ((mirror Task configuration).run actions).queuedWrites ≤
      largestMaximum configuration actions := by
  let replaces (action : MirrorAction Task) : Prop :=
    ∀ next, action = .replaceConfiguration next → next.validate = .ok () →
      next.maxQueueLength ≤ largestMaximum configuration actions
  have start : (mirror Task configuration).initial.Within (largestMaximum configuration actions) :=
    ⟨le_largestMaximum configuration actions, by simp [mirror, new], Nat.zero_le _⟩
  have meets : ∀ action ∈ actions, replaces action := by
    grind [replaced_le_largestMaximum]
  have guarded : (mirror Task configuration).Guarded (fun _ action => replaces action)
      (mirror Task configuration).initial actions := Machine.guarded_of_forall _ meets
  have kept : ∀ state action, state.Within (largestMaximum configuration actions) →
      replaces action → ((mirror Task configuration).step state action).Within
        (largestMaximum configuration actions) :=
    fun state action within replaced => within_step within replaced
  exact (Machine.guarded_run start kept guarded).counter

/-! ### Waiting -/

/-- What a step in which no task starts to wait does to the waiting tasks and to what will
notify them. -/
inductive KeepsWakeups (state next : MirrorState Task) : Prop where
  /-- A notification that was to come still is. -/
  | quiet (waits : next.Waits → state.Waits) (notifies : state.WillNotify → next.WillNotify)
  /-- All waiting tasks are notified. -/
  | notifies (woken : ¬ next.Waits)

theorem KeepsWakeups.refl (state : MirrorState Task) : KeepsWakeups state state :=
  .quiet id id

theorem not_waits_notifyWaiters (state : MirrorState Task) : ¬ state.notifyWaiters.Waits := by
  rintro (⟨_, member, isWaiting⟩ | ⟨phase, member, isWaiting⟩)
  · obtain ⟨before, -, rfl⟩ := List.mem_map.mp member
    cases isPhase : before.phase <;> simp [isPhase, EnqueuePhase.notified] at isWaiting
  · obtain ⟨before, -, rfl⟩ := List.mem_map.mp member
    cases before <;> simp [FlushPhase.notified] at isWaiting

/-- A call that goes on to a phase in which it does not wait. -/
theorem waits_setPhase (other : phase ≠ .waiting false)
    (waits : (state.setPhase index call phase).Waits) : state.Waits := by
  rcases waits with there | there
  · rcases exists_of_exists_set there with isNew | before
    · exact absurd isNew other
    · exact .inl before
  · exact .inr there

/-- A call that was not about to notify leaves a coming notification alone. -/
theorem releasePending_setPhase (found : state.enqueues[index]? = some call)
    (other : call.phase ≠ .notifying) (pending : state.ReleasePending) :
    (state.setPhase index call phase).ReleasePending :=
  pending.imp id (exists_set_of_exists found other)

/-- A step of a call that neither starts to wait nor notifies. -/
theorem keepsWakeups_setPhase {state next : MirrorState Task}
    (found : state.enqueues[index]? = some call) (same : next.enqueues = state.enqueues)
    (flushes : next.flushes = state.flushes) (writer : next.writer = state.writer)
    (counter : state.queuedWrites ≤ next.queuedWrites) (before : call.phase ≠ .notifying)
    (after : phase ≠ .waiting false) : KeepsWakeups state (next.setPhase index call phase) := by
  refine .quiet (fun waits => ?_) (fun notifies => ?_)
  · have waitsNext := waits_setPhase after waits
    rwa [Waits, same, flushes] at waitsNext
  · refine notifies.imp (fun positive => Nat.lt_of_lt_of_le positive counter) fun _ => ?_
    refine releasePending_setPhase (same ▸ found) before ?_
    rwa [ReleasePending, same, writer]

theorem keepsWakeups_runEnqueue {spurious : Bool}
    (other : ¬ state.Registers (.runEnqueue index spurious)) :
    KeepsWakeups state (state.runEnqueue index spurious) := by
  rw [runEnqueue]
  split
  · exact .refl state
  rename_i call found
  split <;> rename_i isPhase
  case h_1 =>
    exact keepsWakeups_setPhase found rfl rfl rfl (Nat.le_refl _) (by simp [isPhase]) nofun
  case h_2 current =>
    split
    · exact keepsWakeups_setPhase found rfl rfl rfl (Nat.le_refl _) (by simp [isPhase]) nofun
    split
    · rename_i exchanged
      exact keepsWakeups_setPhase found rfl rfl rfl (exchanged.1 ▸ Nat.le_succ _)
        (by simp [isPhase]) nofun
    · exact keepsWakeups_setPhase found rfl rfl rfl (Nat.le_refl _) (by simp [isPhase]) nofun
  case h_3 =>
    split
    · exact keepsWakeups_setPhase found rfl rfl rfl (Nat.le_refl _) (by simp [isPhase]) nofun
    · rename_i policy
      exact absurd ⟨call, found, isPhase, policy⟩ other
  case h_4 =>
    exact keepsWakeups_setPhase found rfl rfl rfl (Nat.le_refl _) (by simp [isPhase]) nofun
  case h_6 =>
    split
    · exact keepsWakeups_setPhase found rfl rfl rfl (Nat.le_refl _) (by simp [isPhase]) nofun
    split
    · exact keepsWakeups_setPhase found rfl rfl rfl (Nat.le_refl _) (by simp [isPhase]) nofun
    · exact .refl state
  case h_7 =>
    refine .quiet (waits_setPhase nofun) fun _ => .inr (.inr ?_)
    exact exists_set_self found rfl
  case h_8 => exact .notifies (not_waits_notifyWaiters _)
  case h_9 =>
    exact keepsWakeups_setPhase found rfl rfl rfl (Nat.le_refl _) (by simp [isPhase]) nofun
  all_goals exact .refl state

theorem waits_setFlush {phase : FlushPhase} (other : phase ≠ .waiting false)
    (waits : (state.setFlush index phase).Waits) : state.Waits := by
  rcases waits with there | there
  · exact .inl there
  · rcases exists_of_exists_set there with isNew | before
    · exact absurd isNew other
    · exact .inr before

theorem keepsWakeups_runFlush (other : ¬ state.Registers (.runFlush index)) :
    KeepsWakeups state (state.runFlush index) := by
  rw [runFlush]
  split
  · split <;> exact .quiet (waits_setFlush nofun) id
  · rename_i busy
    exact absurd busy other
  · exact .quiet (waits_setFlush nofun) id
  · exact .refl state

theorem keepsWakeups_runWriter (state : MirrorState Task) (result : Except String Unit) :
    KeepsWakeups state (state.runWriter result) := by
  have moves : ∀ next : MirrorState Task, next.enqueues = state.enqueues →
      next.flushes = state.flushes → next.queuedWrites = state.queuedWrites →
      state.writer ≠ .notifying → KeepsWakeups state next := by
    intro next enqueues flushes counter writer
    refine .quiet (fun waits => ?_) fun notifies => ?_
    · rwa [Waits, enqueues, flushes] at waits
    · rw [WillNotify, counter]
      refine notifies.imp id fun pending => .inr ?_
      rw [enqueues]
      exact pending.resolve_left writer
  unfold runWriter
  split <;> rename_i isWriter
  case h_1 =>
    split
    · exact .refl state
    · exact moves _ rfl rfl rfl (by simp [isWriter])
  case h_2 => split <;> exact moves _ rfl rfl rfl (by simp [isWriter])
  case h_3 => exact moves _ rfl rfl rfl (by simp [isWriter])
  case h_4 => exact moves _ rfl rfl rfl (by simp [isWriter])
  case h_5 => exact .quiet id fun _ => .inr (.inl rfl)
  case h_6 => exact .notifies (not_waits_notifyWaiters _)

/-- Steps in which no task starts to wait. -/
theorem keepsWakeups_step (configuration : MirrorConfiguration) (other : ¬ state.Registers action) :
    KeepsWakeups state ((mirror Task configuration).step state action) := by
  cases action with
  | replaceConfiguration next =>
    change KeepsWakeups state (state.replaceConfiguration next)
    rw [replaceConfiguration]
    split <;> exact .quiet id id
  | enqueue =>
    refine .quiet (fun waits => waits.imp (fun there => ?_) id) fun notifies =>
      notifies.imp id fun pending => pending.imp id fun there => ?_
    · obtain ⟨call, member, isWaiting⟩ := there
      rcases mem_append.mp member with before | isNew
      · exact ⟨call, before, isWaiting⟩
      simp_all
    · obtain ⟨call, member, isNotifying⟩ := there
      exact ⟨call, mem_append_left _ member, isNotifying⟩
  | runEnqueue index => exact keepsWakeups_runEnqueue other
  | abandonEnqueue index =>
    change KeepsWakeups state (state.abandonEnqueue index)
    rw [abandonEnqueue]
    split
    · exact .refl state
    rename_i call found
    split
    · rename_i isPhase
      simp [isPhase, keepsWakeups_setPhase, found]
    · exact .refl state
  | flush =>
    refine .quiet (fun waits => waits.imp id fun there => ?_) id
    obtain ⟨_, member, rfl⟩ := there
    rcases mem_append.mp member with before | isNew
    · exact ⟨_, before, rfl⟩
    · simp at isNew
  | runFlush index => exact keepsWakeups_runFlush other
  | timeoutFlush index =>
    change KeepsWakeups state (state.timeoutFlush index)
    rw [timeoutFlush]
    split
    · exact .quiet (waits_setFlush nofun) id
    · exact .refl state
  | runWriter result => exact keepsWakeups_runWriter state result

theorem registers_step (configuration : MirrorConfiguration) (registers : state.Registers action) :
    ((mirror Task configuration).step state action).Waits ∧
      (((mirror Task configuration).step state action).WillNotify ↔ state.WillNotify) := by
  cases action with
  | runEnqueue index spurious =>
    obtain ⟨call, found, isPhase, policy⟩ := registers
    have moved : (mirror Task configuration).step state (.runEnqueue index spurious) =
        state.setPhase index call (.waiting false) := by
      change state.runEnqueue index spurious = _
      simp [runEnqueue, found, isPhase, policy]
    rw [moved]
    refine ⟨.inl (exists_set_self found rfl), ?_, ?_⟩
    · refine Or.imp id fun pending => pending.imp id fun there => ?_
      exact (exists_of_exists_set there).resolve_left nofun
    · exact Or.imp id (releasePending_setPhase found (by simp [isPhase]))
  | runFlush index =>
    have busy : state.flushes[index]? = some .busy := registers
    have moved : (mirror Task configuration).step state (.runFlush index) =
        state.setFlush index (.waiting false) := by
      change state.runFlush index = _
      simp [runFlush, busy]
    rw [moved]
    exact ⟨.inr (exists_set_self busy rfl), Iff.rfl⟩
  | _ => exact registers.elim

/-- Where the counter is right, being stuck is to wait for a notification that nothing sends. -/
theorem not_stuck_iff (counted : state.Counted) :
    ¬ state.Stuck ↔ (state.Waits → state.WillNotify) := by
  have empty : state.queuedWrites = 0 ↔
      state.reservedTasks = 0 ∧ state.queue = [] ∧ state.writingTasks = 0 := by
    rw [← length_eq_zero_iff]
    unfold Counted at counted
    omega
  constructor
  · intro free waits
    by_contra silent
    obtain ⟨zero, quiet⟩ := not_or.mp silent
    obtain ⟨reserved, queue, writing⟩ := empty.mp (by omega)
    exact free ⟨waits, reserved, queue, writing, quiet⟩
  · rintro served ⟨waits, reserved, queue, writing, quiet⟩
    have zero := empty.mpr ⟨reserved, queue, writing⟩
    exact (served waits).elim (by omega) quiet

/-- A step keeps the mirror from being stuck exactly if it registers in time. -/
theorem not_stuck_step_iff (counted : state.Counted) (free : ¬ state.Stuck) :
    ¬ ((mirror Task configuration).step state action).Stuck ↔ RegistersInTime state action := by
  rw [not_stuck_iff (counted_step state action counted)]
  have served := (not_stuck_iff counted).mp free
  by_cases registers : state.Registers action
  · obtain ⟨waits, same⟩ := registers_step configuration registers
    exact ⟨fun next _ => same.mp (next waits), fun inTime _ => same.mpr (inTime registers)⟩
  · refine ⟨fun _ starts => absurd starts registers, fun _ waits => ?_⟩
    cases keepsWakeups_step configuration registers with
    | quiet waited notifies => exact notifies (served (waited waits))
    | notifies woken => exact absurd waits woken

/-! ### Back-pressure -/

/-- In every run the counter is right and within the bound. The mirror is never stuck in it
exactly if every task that starts to wait does so while a notification is still to come. -/
theorem backPressure_iff (configuration : MirrorConfiguration)
    (actions : List (MirrorAction Task)) :
    ((mirror Task configuration).run actions).Counted ∧
      ((mirror Task configuration).run actions).queuedWrites ≤
        largestMaximum configuration actions ∧
      ((∀ first, first <+: actions → ¬ ((mirror Task configuration).run first).Stuck) ↔
        (mirror Task configuration).Guarded RegistersInTime (new configuration) actions) := by
  refine ⟨counted_run configuration actions, queuedWrites_le configuration actions, ?_⟩
  have free : ¬ (new configuration : MirrorState Task).Stuck := by
    rintro ⟨waits, -⟩
    simp [Waits, new] at waits
  exact Machine.forall_prefix_iff_guarded counted_step
    (fun _ _ counted free => not_stuck_step_iff counted free)
    (counted_new configuration) free actions

/-- A flush reads the counter while the only copy is being written. The writer gives the slot
back and notifies before the flush has created its future, which then is never notified. -/
theorem not_backPressure_lost :
    ∃ actions : List (MirrorAction Unit), ((mirror Unit {}).run actions).Stuck := by
  refine ⟨[.enqueue (), .runEnqueue 0 false, .runEnqueue 0 false, .runEnqueue 0 false,
    .runWriter (.ok ()), .flush, .runFlush 0, .runWriter (.ok ()), .runWriter (.ok ()),
    .runWriter (.ok ()), .runWriter (.ok ()), .runFlush 0], .inr ⟨.waiting false, by decide, rfl⟩,
    by decide, by decide, by decide, ?_⟩
  rintro (notifying | ⟨call, _, _⟩)
  · revert notifying
    decide
  · revert call
    decide

end SprakCapture.HttpProxy
