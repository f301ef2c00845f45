/-!
# Runs of a deterministic machine

A `Machine` steps through a list of actions. `Machine.invariant_run` is the
induction rule for facts that every action preserves; `Machine.guarded_run` is
the same rule for facts that survive only actions taken under a guard, where
the guard may inspect the state in which the action is taken.
-/

namespace SprakCapture.Data

open List

/-- A state machine whose next state is a function of the action taken. -/
structure Machine (State Action : Type) where
  initial : State
  step : State → Action → State

namespace Machine

variable {State Action : Type} (machine : Machine State Action)

/-- The state after a list of actions, taken from a chosen state. -/
def runFrom (state : State) (actions : List Action) : State :=
  actions.foldl machine.step state

/-- The state after a list of actions, taken from the initial state. -/
def run (actions : List Action) : State := machine.runFrom machine.initial actions

/-- Every action of the list meets the guard in the state it is taken in. -/
def Guarded (guard : State → Action → Prop) : State → List Action → Prop
  | _, [] => True
  | state, action :: actions => guard state action ∧ Guarded guard (machine.step state action) actions

instance guardedDecidable (guard : State → Action → Prop)
    [decide : ∀ state action, Decidable (guard state action)] :
    ∀ state actions, Decidable (machine.Guarded guard state actions)
  | _, [] => isTrue trivial
  | state, action :: actions =>
    have := decide state action
    have := guardedDecidable guard (machine.step state action) actions
    inferInstanceAs (Decidable (_ ∧ _))

variable (state : State)

@[simp] theorem runFrom_nil : machine.runFrom state [] = state := rfl

@[simp] theorem runFrom_cons (action : Action) (actions : List Action) :
    machine.runFrom state (action :: actions) =
      machine.runFrom (machine.step state action) actions := rfl

variable (first second : List Action)

theorem runFrom_append :
    machine.runFrom state (first ++ second) =
      machine.runFrom (machine.runFrom state first) second := by
  simp [runFrom]

theorem run_append :
    machine.run (first ++ second) = machine.runFrom (machine.run first) second :=
  machine.runFrom_append machine.initial first second

@[simp] theorem run_concat (actions : List Action) (action : Action) :
    machine.run (actions ++ [action]) = machine.step (machine.run actions) action := by
  simp [run, runFrom]

variable {guard : State → Action → Prop}

/-- A run is guarded if its beginning is and its end is, in the state the beginning leads to. -/
theorem guarded_append {state : State} {first second : List Action} :
    machine.Guarded guard state (first ++ second) ↔
      machine.Guarded guard state first ∧
        machine.Guarded guard (machine.runFrom state first) second := by
  induction first generalizing state with
  | nil => simp [Guarded]
  | cons _ _ ih => rw [cons_append, Guarded, ih, Guarded, runFrom_cons, and_assoc]

theorem guarded_concat {state : State} {actions : List Action} {action : Action} :
    machine.Guarded guard state (actions ++ [action]) ↔
      machine.Guarded guard state actions ∧ guard (machine.runFrom state actions) action := by
  simp [guarded_append, Guarded]

/-- A guard on the actions alone is met by a run of such actions. -/
theorem guarded_of_forall {guard : Action → Prop} {state : State} {actions : List Action}
    (meets : ∀ action ∈ actions, guard action) :
    machine.Guarded (fun _ action => guard action) state actions := by
  induction actions generalizing state with
  | nil => trivial
  | cons action actions ih =>
    exact ⟨meets action mem_cons_self, ih fun other member => meets other (.tail _ member)⟩

variable {machine}

/-- A fact preserved by every guarded action holds after every guarded run. -/
theorem guarded_runFrom {guard : State → Action → Prop} {invariant : State → Prop}
    (preserved : ∀ state action, invariant state → guard state action →
      invariant (machine.step state action))
    {state : State} (holds : invariant state) {actions : List Action}
    (guarded : machine.Guarded guard state actions) :
    invariant (machine.runFrom state actions) := by
  induction actions generalizing state with
  | nil => exact holds
  | cons action actions ih => exact ih (preserved state action holds guarded.1) guarded.2

theorem guarded_run {guard : State → Action → Prop} {invariant : State → Prop}
    (initial : invariant machine.initial)
    (preserved : ∀ state action, invariant state → guard state action →
      invariant (machine.step state action))
    {actions : List Action} (guarded : machine.Guarded guard machine.initial actions) :
    invariant (machine.run actions) :=
  guarded_runFrom preserved initial guarded

/-- A fact preserved by every action holds after every run that starts with it. -/
theorem invariant_runFrom {invariant : State → Prop}
    (preserved : ∀ state action, invariant state → invariant (machine.step state action))
    {state : State} (holds : invariant state) (actions : List Action) :
    invariant (machine.runFrom state actions) := by
  induction actions generalizing state with
  | nil => exact holds
  | cons action actions ih => exact ih (preserved state action holds)

theorem invariant_run {invariant : State → Prop} (initial : invariant machine.initial)
    (preserved : ∀ state action, invariant state → invariant (machine.step state action))
    (actions : List Action) : invariant (machine.run actions) :=
  invariant_runFrom preserved initial actions

/-- When, along an invariant, an action keeps a fact exactly if the guard holds, the fact
holds throughout a run exactly if the run is guarded. -/
theorem forall_prefix_iff_guarded {guard : State → Action → Prop} {invariant fact : State → Prop}
    (preserved : ∀ state action, invariant state → invariant (machine.step state action))
    (exact : ∀ state action, invariant state → fact state →
      (fact (machine.step state action) ↔ guard state action))
    {state : State} (holds : invariant state) (factHolds : fact state) (actions : List Action) :
    (∀ first, first <+: actions → fact (machine.runFrom state first)) ↔
      machine.Guarded guard state actions := by
  induction actions generalizing state with
  | nil =>
    refine ⟨fun _ => trivial, fun _ first initial => ?_⟩
    rw [prefix_nil.mp initial]
    exact factHolds
  | cons action actions ih =>
    have next := preserved state action holds
    constructor
    · intro throughout
      have nextFact : fact (machine.step state action) :=
        throughout [action] (prefix_append [action] actions)
      refine ⟨(exact state action holds factHolds).mp nextFact, ?_⟩
      refine (ih next nextFact).mp fun first initial => ?_
      exact throughout (action :: first) ((prefix_cons_inj action).mpr initial)
    · rintro ⟨now, later⟩ first initial
      have nextFact := (exact state action holds factHolds).mpr now
      cases first with
      | nil => exact factHolds
      | cons _ first =>
        obtain ⟨rfl, rest⟩ := cons_prefix_cons.mp initial
        exact (ih next nextFact).mpr later first rest

end Machine

end SprakCapture.Data
