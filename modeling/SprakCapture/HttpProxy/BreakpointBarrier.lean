import SprakCapture.HttpProxy.BreakpointResolution

/-!
# Disabling breakpoints

A call that disables breakpoints writes the configuration and then releases the queue. A task
that has read the configuration before can still put its entry into the queue afterwards. That is
the only way in which a message is suspended while breakpoints are off.
-/

namespace SprakCapture.HttpProxy

open Data

/-- The tool with the calls that replace its configuration. The releases are those of disabling
calls that leave breakpoints off. -/
structure ControlledBreakpoints where
  tool : BreakpointsTool
  /-- The disabling calls that have written and have not released yet. -/
  disabling : Nat
  releases : Nat
  /-- The releases before breakpoints were enabled for the last time. -/
  enabledAt : Nat
  /-- The releases before a task read the configuration. -/
  readAt : Table Nat Nat

inductive ControlAction where
  | message (action : BreakpointAction)
  /-- `replaceConfiguration` checks and writes the configuration. -/
  | write (configuration : BreakpointsConfiguration)
  /-- `replaceConfiguration` releases the queue after it has disabled breakpoints. -/
  | release

namespace ControlledBreakpoints

/-- A disabling call has released the queue, and breakpoints were not enabled since. -/
def Silenced (control : ControlledBreakpoints) : Prop := control.enabledAt < control.releases

/-- While breakpoints are silenced, no message is suspended. -/
def Barrier (control : ControlledBreakpoints) : Prop :=
  control.Silenced → control.tool.suspended = ∅

def write (control : ControlledBreakpoints) (configuration : BreakpointsConfiguration) :
    ControlledBreakpoints :=
  match validateConfiguration configuration with
  | .error _ => control
  | .ok () =>
    let written := { control with tool := { control.tool with configuration } }
    if configuration.enabled then { written with enabledAt := control.releases }
    else { written with disabling := control.disabling + 1 }

def release (control : ControlledBreakpoints) : ControlledBreakpoints :=
  if control.disabling = 0 then control
  else
    { control with
      tool := control.tool.releaseAll
      disabling := control.disabling - 1
      releases :=
        if control.tool.configuration.enabled then control.releases else control.releases + 1 }

def step (http : HttpLibrary) (toLowercase : List Char → List Char)
    (control : ControlledBreakpoints) : ControlAction → ControlledBreakpoints
  | .message action =>
    { control with
      tool := control.tool.step http toLowercase action
      readAt :=
        match action with
        | .arrive .. => control.readAt.insert control.tool.issued control.releases
        | _ => control.readAt }
  | .write configuration => control.write configuration
  | .release => control.release

def machine (http : HttpLibrary) (toLowercase : List Char → List Char) (tool : BreakpointsTool) :
    Machine ControlledBreakpoints ControlAction where
  initial := { tool, disabling := 0, releases := 0, enabledAt := 0, readAt := ∅ }
  step := step http toLowercase

/-- Between the time when a task reads the configuration and the time when it puts its entry into
the queue, no disabling call releases the queue, or breakpoints are enabled again. -/
def Undisturbed (control : ControlledBreakpoints) : ControlAction → Prop
  | .message (.insert message _) =>
    control.tool.matched.get? message = none ∨ control.readAt.get? message = some control.releases ∨
      control.enabledAt = control.releases
  | _ => True

/-- What the counts say about the configuration and about tasks that have read it. -/
structure Counted (control : ControlledBreakpoints) : Prop where
  enabled : control.tool.configuration.enabled = true → control.enabledAt = control.releases
  within : control.enabledAt ≤ control.releases
  numbered : control.tool.Numbered
  places : 1 ≤ control.tool.configuration.maxSuspended.toNat
  matched : ∀ message found, control.tool.matched.get? message = some found →
    1 ≤ found.configuration.maxSuspended.toNat ∧
      ∃ releases, control.readAt.get? message = some releases ∧ releases ≤ control.enabledAt

section Steps

variable {http : HttpLibrary} {toLowercase : List Char → List Char}
  {control : ControlledBreakpoints} {configuration : BreakpointsConfiguration}

theorem places_of_valid (valid : validateConfiguration configuration = .ok ()) :
    1 ≤ configuration.maxSuspended.toNat := by
  unfold validateConfiguration at valid
  by_contra none
  have zero : configuration.maxSuspended < 1 := by
    exact Nat.lt_of_not_le none
  simp only [zero, true_or, if_true] at valid
  split at valid
  · cases valid
  · split at valid <;> cases valid

/-- A message finds a rule only while breakpoints are enabled. -/
theorem enabled_of_matchingRule {phase : BreakpointPhase} {location : Location.ResolvedLocation}
    {rule : BreakpointRule}
    (found : matchingRule toLowercase configuration phase location = .ok (some rule)) :
    configuration.enabled = true := by
  grind [matchingRule]

theorem Counted.arrive (counted : control.Counted) (transactionId : Option String)
    (phase : BreakpointPhase) (location : Location.ResolvedLocation) (draft : EditableHttpMessage)
    (bodyLength : Option Nat) :
    (control.step http toLowercase
      (.message (.arrive transactionId phase location draft bodyLength))).Counted := by
  have readAt : ∀ message found, control.tool.matched.get? message = some found →
      1 ≤ found.configuration.maxSuspended.toNat ∧ ∃ releases,
        (control.readAt.insert control.tool.issued control.releases).get? message =
          some releases ∧ releases ≤ control.enabledAt := by
    intro message found isFound
    have different : message ≠ control.tool.issued :=
      Nat.ne_of_lt (counted.numbered.matched message found isFound).1
    rw [Table.get?_insert, if_neg different]
    exact counted.matched message found isFound
  have numbered : (control.tool.arrive toLowercase transactionId phase location draft
      bodyLength).Numbered := counted.numbered.arrive ..
  have arrived : (control.tool.arrive toLowercase transactionId phase location draft
        bodyLength).configuration = control.tool.configuration ∧
      ∀ message found, (control.tool.arrive toLowercase transactionId phase location draft
          bodyLength).matched.get? message = some found →
        1 ≤ found.configuration.maxSuspended.toNat ∧ ∃ releases,
          (control.readAt.insert control.tool.issued control.releases).get? message =
            some releases ∧ releases ≤ control.enabledAt := by
    unfold BreakpointsTool.arrive
    split
    · exact ⟨rfl, readAt⟩
    split
    · exact ⟨rfl, readAt⟩
    split
    · next _ isRule =>
        refine ⟨rfl, fun message found isFound => ?_⟩
        rw [Table.get?_insert] at isFound
        split at isFound
        · next same =>
            cases isFound
            refine ⟨counted.places, control.releases, ?_, ?_⟩
            · rw [same, Table.get?_insert_self]
            · exact Nat.le_of_eq (counted.enabled (enabled_of_matchingRule isRule)).symm
        · exact readAt message found isFound
    · exact ⟨rfl, readAt⟩
  exact
    { enabled := fun enabled => counted.enabled (arrived.1 ▸ enabled)
      within := counted.within
      numbered
      places := by
        change 1 ≤ (control.tool.arrive toLowercase transactionId phase location draft
          bodyLength).configuration.maxSuspended.toNat
        rw [arrived.1]
        exact counted.places
      matched := arrived.2 }

variable {tool : BreakpointsTool}

theorem Counted.of_tool (counted : control.Counted) (numbered : tool.Numbered)
    (configuration : tool.configuration = control.tool.configuration)
    (matched : ∀ message found, tool.matched.get? message = some found →
      control.tool.matched.get? message = some found) :
    Counted { control with tool } where
  enabled := fun enabled => counted.enabled (configuration ▸ enabled)
  within := counted.within
  numbered := numbered
  places := configuration ▸ counted.places
  matched := fun message found isFound =>
    counted.matched message found (matched message found isFound)

theorem matched_insert {message other : Nat} {now : UInt64} {found : MatchedMessage}
    (isFound : (tool.insert message now).matched.get? other = some found) :
    tool.matched.get? other = some found := by
  grind [BreakpointsTool.insert]

theorem configuration_insert (message : Nat) (now : UInt64) :
    (tool.insert message now).configuration = tool.configuration := by
  unfold BreakpointsTool.insert
  split
  · rfl
  split <;> rfl

section

variable (counted : control.Counted)
include counted

theorem Counted.message (action : BreakpointAction) :
    (control.step http toLowercase (.message action)).Counted := by
  rcases control.tool.step_cases http toLowercase action with
    ⟨transactionId, phase, location, draft, bodyLength, rfl⟩ | ⟨message, now, rfl⟩ | continues
  · exact counted.arrive transactionId phase location draft bodyLength
  · exact counted.of_tool (counted.numbered.insert message now) (configuration_insert message now)
      fun _ _ => matched_insert
  by_cases arrives : ∃ transactionId phase location draft bodyLength,
      action = .arrive transactionId phase location draft bodyLength
  · obtain ⟨transactionId, phase, location, draft, bodyLength, rfl⟩ := arrives
    exact counted.arrive transactionId phase location draft bodyLength
  have kept := counted.of_tool (continues.numbered counted.numbered) continues.configuration
    fun message _ isFound => continues.matched ▸ isFound
  cases action with
  | arrive transactionId phase location draft bodyLength =>
    simp_all
  | _ => exact kept

theorem Counted.write (configuration : BreakpointsConfiguration) :
    (control.write configuration).Counted := by
  unfold ControlledBreakpoints.write
  split
  · exact counted
  next valid =>
  have places := places_of_valid valid
  have numbered : ({ control.tool with configuration } : BreakpointsTool).Numbered :=
    { counted.numbered with }
  split
  · refine ⟨fun _ => rfl, Nat.le_refl _, numbered, places, fun message found isFound => ?_⟩
    obtain ⟨foundPlaces, releases, isRead, early⟩ := counted.matched message found isFound
    exact ⟨foundPlaces, releases, isRead, Nat.le_trans early counted.within⟩
  · next disabled =>
      exact ⟨fun enabled => absurd enabled disabled, counted.within, numbered, places,
        counted.matched⟩

theorem Counted.release : control.release.Counted := by
  unfold ControlledBreakpoints.release
  split
  · exact counted
  have numbered : control.tool.releaseAll.Numbered := { counted.numbered with }
  split
  · exact ⟨counted.enabled, counted.within, numbered, counted.places, counted.matched⟩
  · next disabled =>
      exact ⟨fun enabled => absurd enabled disabled, Nat.le_succ_of_le counted.within, numbered,
        counted.places, counted.matched⟩

theorem Counted.step (action : ControlAction) :
    (control.step http toLowercase action).Counted := by
  cases action with
  | message action => exact counted.message action
  | write configuration => exact counted.write configuration
  | release => exact counted.release

end

/-! ### When a step keeps the barrier -/

theorem eq_empty_of_size_le {first second : Table String PendingBreakpoint} (empty : second = ∅)
    (smaller : first.size ≤ second.size) : first = ∅ := by
  subst empty
  exact Table.eq_empty_of_get? (Table.size_eq_zero_iff.mp (Nat.le_zero.mp smaller))

theorem suspended_arrive (transactionId : Option String) (phase : BreakpointPhase)
    (location : Location.ResolvedLocation) (draft : EditableHttpMessage) (bodyLength : Option Nat) :
    (tool.arrive toLowercase transactionId phase location draft bodyLength).suspended =
      tool.suspended := by
  unfold BreakpointsTool.arrive
  split
  · rfl
  split
  · rfl
  split <;> rfl

/-- A task with a rule finds a place in an empty queue. -/
theorem suspended_insert_ne_empty {message : Nat} {now : UInt64} {found : MatchedMessage}
    (isFound : tool.matched.get? message = some found)
    (places : 1 ≤ found.configuration.maxSuspended.toNat) (empty : tool.suspended = ∅) :
    (tool.insert message now).suspended ≠ ∅ := by
  intro stillEmpty
  have entry : ∃ pending,
      (tool.insert message now).suspended.get? found.transactionId = some pending := by
    unfold BreakpointsTool.insert
    rw [isFound]
    dsimp only
    rw [if_neg]
    · exact ⟨_, Table.get?_insert_self ..⟩
    · rw [empty]
      rintro (full | present)
      · exact absurd (Nat.le_trans places full) (by decide)
      · cases present
  obtain ⟨pending, isPending⟩ := entry
  rw [stillEmpty] at isPending
  cases isPending

theorem barrier_insert_iff (counted : control.Counted) (barrier : control.Barrier) (message : Nat)
    (now : UInt64) :
    (control.step http toLowercase (.message (.insert message now))).Barrier ↔
      control.Undisturbed (.message (.insert message now)) := by
  cases isFound : control.tool.matched.get? message with
  | none =>
    have unchanged : control.tool.insert message now = control.tool := by
      unfold BreakpointsTool.insert
      rw [isFound]
    refine ⟨fun _ => .inl isFound, fun _ silenced => ?_⟩
    change (control.tool.insert message now).suspended = ∅
    rw [unchanged]
    exact barrier silenced
  | some found =>
    obtain ⟨places, _, isRead, early⟩ := counted.matched message found isFound
    by_cases silenced : control.Silenced
    · constructor
      · intro kept
        exact absurd (kept silenced) (suspended_insert_ne_empty isFound places (barrier silenced))
      · rintro (absent | unread | enabled)
        · rw [isFound] at absent
          cases absent
        · rw [isRead] at unread
          cases unread
          exact absurd silenced (Nat.not_lt.mpr early)
        · exact absurd silenced (Nat.not_lt.mpr (Nat.le_of_eq enabled.symm))
    · refine ⟨fun _ => .inr (.inr ?_), fun _ silencedAfter => absurd silencedAfter silenced⟩
      exact Nat.le_antisymm counted.within (Nat.not_lt.mp silenced)

theorem barrier_step_iff {control : ControlledBreakpoints} {action : ControlAction}
    (counted : control.Counted) (barrier : control.Barrier) :
    (control.step http toLowercase action).Barrier ↔ control.Undisturbed action := by
  cases action with
  | message action =>
    rcases control.tool.step_cases http toLowercase action with
      ⟨transactionId, phase, location, draft, bodyLength, rfl⟩ | ⟨message, now, rfl⟩ | continues
    · refine ⟨fun _ => trivial, fun _ silenced => ?_⟩
      exact (suspended_arrive transactionId phase location draft bodyLength).trans
        (barrier silenced)
    · exact barrier_insert_iff counted barrier message now
    by_cases inserts : ∃ message now, action = .insert message now
    · obtain ⟨message, now, rfl⟩ := inserts
      exact barrier_insert_iff counted barrier message now
    · refine ⟨fun _ => ?_, fun _ silenced => eq_empty_of_size_le (barrier silenced) continues.size⟩
      unfold Undisturbed
      simp_all
  | write configuration =>
    refine ⟨fun _ => trivial, fun _ => ?_⟩
    change (control.write configuration).Barrier
    unfold ControlledBreakpoints.write
    split
    · exact barrier
    split
    · exact fun silenced => absurd silenced (Nat.lt_irrefl control.releases)
    · exact barrier
  | release =>
    refine ⟨fun _ => trivial, fun _ => ?_⟩
    change control.release.Barrier
    unfold ControlledBreakpoints.release
    split
    · exact barrier
    · exact fun _ => rfl

end Steps

/-- Disabling breakpoints is a barrier throughout a run exactly if no task that has read the
configuration before a disabling call puts its entry into the queue after the release. -/
theorem disabling_isBarrier_iff (http : HttpLibrary) (toLowercase : List Char → List Char)
    {configuration : BreakpointsConfiguration} {tool : BreakpointsTool}
    (created : BreakpointsTool.new configuration = .ok tool) (actions : List ControlAction) :
    (∀ first, first <+: actions → ((machine http toLowercase tool).run first).Barrier) ↔
      (machine http toLowercase tool).Guarded Undisturbed (machine http toLowercase tool).initial
        actions := by
  obtain ⟨_, valid, isTool⟩ := Data.Checked.bind_eq_ok.mp created
  have sound : tool.Sound http configuration := BreakpointsTool.sound_new created
  cases isTool
  refine @Machine.forall_prefix_iff_guarded _ _ _ _ Counted _
    (fun state action counted => counted.step action)
    (fun state action counted barrier => barrier_step_iff counted barrier) _ ?_ ?_ _
  · refine ⟨fun _ => rfl, Nat.le_refl 0, sound.numbered, places_of_valid valid, ?_⟩
    intro message found isMatched
    cases isMatched
  · exact fun silenced => absurd silenced (Nat.lt_irrefl 0)

/-- Breakpoints are disabled while a message waits; it is released. -/
theorem disabling_isBarrier_iff_released :
    (∀ first, first <+: [.message (.arrive (some "t") .request exampleLocation exampleRequest none),
        .message (.insert 0 0), .write { exampleBreakpoints with enabled := false }, .release] →
      ((machine exampleHttpLibrary Data.Text.toAsciiLowercase exampleTool).run first).Barrier) ↔
    (machine exampleHttpLibrary Data.Text.toAsciiLowercase exampleTool).Guarded Undisturbed
      (machine exampleHttpLibrary Data.Text.toAsciiLowercase exampleTool).initial
      [.message (.arrive (some "t") .request exampleLocation exampleRequest none),
        .message (.insert 0 0), .write { exampleBreakpoints with enabled := false }, .release] :=
  disabling_isBarrier_iff exampleHttpLibrary Data.Text.toAsciiLowercase
    (rfl : BreakpointsTool.new exampleBreakpoints = .ok exampleTool) _

/-- A message that has found its rule is suspended after breakpoints were disabled. -/
theorem not_barrier_late :
    BreakpointsTool.new exampleBreakpoints = .ok exampleTool ∧
    ¬ ((machine exampleHttpLibrary Data.Text.toAsciiLowercase exampleTool).run
      [.message (.arrive (some "t") .request exampleLocation exampleRequest none),
        .write { exampleBreakpoints with enabled := false }, .release,
        .message (.insert 0 0)]).Barrier := by
  refine ⟨rfl, fun barrier => ?_⟩
  have empty := barrier (by decide : (0 : Nat) < 1)
  have entry := congrArg (fun suspended => (suspended.get? "t").isSome) empty
  exact absurd entry (by decide)

end ControlledBreakpoints

end SprakCapture.HttpProxy
