import Mathlib.Algebra.GroupWithZero.Nat
import Mathlib.Data.List.Forall2
import Mathlib.Logic.IsEmpty.Basic

/-!
# Outcomes of partial programs

An `Outcome` is the result of code that may report an error of its own, but also
read or write outside a buffer, subtract below zero, break an assertion or loop for
longer than its bound. Only the first happens on purpose: `Outcome.Safe` says that
a computation fails in no other way, and the rules below establish it step by step.
Loops run under a bound on their turns. `LoopsTo` describes their results without
one, and `loop_eq_ok_iff` connects the two once a loop is known to be safe.
-/

namespace SprakCapture.Data

/-! ### Computations with an error -/

namespace Checked

variable {Failure Value Result : Type}

theorem ok_bind (value : Value) (next : Value → Except Failure Result) :
    (Except.ok value >>= next) = next value := rfl

/-- A successful sequence succeeds in both parts. -/
theorem bind_eq_ok {checked : Except Failure Value} {next : Value → Except Failure Result}
    {result : Result} :
    (checked >>= next) = .ok result ↔ ∃ value, checked = .ok value ∧ next value = .ok result := by
  cases checked with
  | error => exact ⟨nofun, fun ⟨_, found, _⟩ => nomatch found⟩
  | ok value =>
    constructor
    · exact fun done => ⟨value, rfl, done⟩
    · rintro ⟨_, found, done⟩
      cases found
      exact done

end Checked

/-! ### Outcomes -/

/-- Why a computation produced no value. -/
inductive Fault (Error : Type) where
  /-- The program itself reported an error. -/
  | raised (error : Error)
  /-- An index or a slice bound left its buffer. -/
  | outOfBounds
  /-- A subtraction of unsigned numbers went below zero. -/
  | underflow
  /-- A value that the program asserts to be present was absent. -/
  | absent
  /-- A loop exceeded the bound it was run with. -/
  | diverged
deriving DecidableEq, Repr

/-- A value, or the fault that prevented it. -/
abbrev Outcome (Error Value : Type) := Except (Fault Error) Value

variable {condition : Prop} {Item : Type} {items : List Item}

namespace Outcome

variable {Error Value Result : Type}

/-- Report an error of the program. -/
def raise (error : Error) : Outcome Error Value := .error (.raised error)

/-- The computation fails only with an error that the program reports. -/
def Safe (outcome : Outcome Error Value) : Prop :=
  ∀ fault, outcome = .error fault → ∃ error, fault = .raised error

variable (value : Value)

@[simp] theorem ok_bind (next : Value → Outcome Error Result) :
    ((Except.ok value : Outcome Error Value) >>= next) = next value := rfl

variable (error : Error)

@[simp] theorem raise_ne_ok (value : Value) : (raise error : Outcome Error Value) ≠ .ok value := by
  simp [raise]

variable {outcome : Outcome Error Value} {next : Value → Outcome Error Result}

/-- A successful sequence succeeds in both parts. -/
theorem bind_eq_ok {result : Result} :
    (outcome >>= next) = .ok result ↔ ∃ value, outcome = .ok value ∧ next value = .ok result :=
  Checked.bind_eq_ok

theorem safe_ok : Safe (.ok value : Outcome Error Value) := by
  simp [Safe]

theorem safe_pure : Safe (pure value : Outcome Error Value) := safe_ok value

theorem safe_raise : Safe (raise error : Outcome Error Value) := by
  rintro _ failed
  cases failed
  exact ⟨error, rfl⟩

theorem Safe.exists_ok [IsEmpty Error] (safe : Safe outcome) : ∃ value, outcome = .ok value := by
  cases outcome with
  | ok value => exact ⟨value, rfl⟩
  | error fault =>
    obtain ⟨error, _⟩ := safe fault rfl
    exact isEmptyElim error

/-- Sequencing is safe when the first part is, and the rest is from every value
the first part can produce. -/
theorem safe_bind (first : Safe outcome) (rest : ∀ value, outcome = .ok value → Safe (next value)) :
    Safe (outcome >>= next) := by
  cases outcome with
  | error fault =>
    intro _ failed
    cases failed
    exact first fault rfl
  | ok value => exact rest value rfl

variable {yes no : Outcome Error Value}

theorem safe_ite [Decidable condition] (whenTrue : condition → Safe yes)
    (whenFalse : ¬condition → Safe no) :
    Safe (if condition then yes else no) := by
  grind

/-! ### Guards -/

/-- Report an error when a condition holds. -/
def raiseIf (condition : Prop) [Decidable condition] (error : Error) : Outcome Error Unit :=
  if condition then raise error else .ok ()

theorem raiseIf_eq_ok [Decidable condition] {error : Error} {nothing : Unit} :
    raiseIf condition error = .ok nothing ↔ ¬condition := by
  unfold raiseIf
  simp

@[simp] theorem raiseIf_of_not [Decidable condition] (fails : ¬condition) :
    raiseIf condition error = .ok () :=
  if_neg fails

theorem safe_raiseIf (condition : Prop) [Decidable condition] (error : Error) :
    Safe (raiseIf condition error) :=
  safe_ite (fun _ => safe_raise error) fun _ => safe_ok ()

/-- Behind a guard the condition fails. -/
theorem safe_guard [Decidable condition] {error : Error} {next : Unit → Outcome Error Value}
    (rest : ¬condition → Safe (next ())) : Safe (raiseIf condition error >>= next) :=
  safe_bind (safe_raiseIf condition error) fun _ passed => rest (raiseIf_eq_ok.mp passed)

/-- The difference of two unsigned numbers. -/
def checkedSub (minuend subtrahend : Nat) : Outcome Error Nat :=
  if subtrahend ≤ minuend then .ok (minuend - subtrahend) else .error .underflow

theorem checkedSub_eq_ok {minuend subtrahend difference : Nat} :
    (checkedSub minuend subtrahend : Outcome Error Nat) = .ok difference ↔
      subtrahend ≤ minuend ∧ minuend - subtrahend = difference := by
  grind [checkedSub]

theorem checkedSub_of_le {minuend subtrahend : Nat} (enough : subtrahend ≤ minuend) :
    (checkedSub minuend subtrahend : Outcome Error Nat) = .ok (minuend - subtrahend) :=
  if_pos enough

/-- A value that the program asserts to be present. -/
def expect (value : Option Value) : Outcome Error Value :=
  match value with
  | some value => .ok value
  | none => .error .absent

@[simp] theorem expect_some :
    (expect (some value) : Outcome Error Value) = .ok value := rfl

/-- Report the errors of a computation as other errors. -/
def mapError {Other : Type} (translate : Error → Other) :
    Outcome Error Value → Outcome Other Value
  | .ok value => .ok value
  | .error (.raised error) => .error (.raised (translate error))
  | .error .outOfBounds => .error .outOfBounds
  | .error .underflow => .error .underflow
  | .error .absent => .error .absent
  | .error .diverged => .error .diverged

@[simp] theorem mapError_ok {Other : Type} (translate : Error → Other) (value : Value) :
    mapError translate (.ok value : Outcome Error Value) = .ok value := rfl

/-- The value, or the error that the program reported. -/
def reported : Outcome Error Value → Outcome Empty (Except Error Value)
  | .ok value => .ok (.ok value)
  | .error (.raised error) => .ok (.error error)
  | .error .outOfBounds => .error .outOfBounds
  | .error .underflow => .error .underflow
  | .error .absent => .error .absent
  | .error .diverged => .error .diverged

theorem reported_ok :
    reported (.ok value : Outcome Error Value) = .ok (.ok value) := rfl

theorem reported_raise :
    reported (raise error : Outcome Error Value) = .ok (.error error) := rfl

theorem mapError_eq_ok {Other : Type} {translate : Error → Other} {value : Value} :
    mapError translate outcome = .ok value ↔ outcome = .ok value := by
  unfold mapError
  split <;> simp

/-! ### Which errors are reported -/

/-- The computation fails only with errors of one kind. -/
def FailsOnly (allowed : Error → Prop) (outcome : Outcome Error Value) : Prop :=
  ∀ fault, outcome = .error fault → ∃ error, fault = .raised error ∧ allowed error

section FailsOnly

variable {allowed : Error → Prop}

theorem failsOnly_ok : FailsOnly allowed (.ok value : Outcome Error Value) := by
  nofun

theorem failsOnly_raise {error : Error} (holds : allowed error) :
    FailsOnly allowed (raise error : Outcome Error Value) := by
  intro _ failed
  cases failed
  exact ⟨error, rfl, holds⟩

theorem failsOnly_bind (first : FailsOnly allowed outcome)
    (rest : ∀ value, outcome = .ok value → FailsOnly allowed (next value)) :
    FailsOnly allowed (outcome >>= next) := by
  cases outcome with
  | ok value => exact rest value rfl
  | error fault =>
    intro _ failed
    cases failed
    exact first fault rfl

/-- Behind a guard the condition fails. -/
theorem failsOnly_guard [Decidable condition] {error : Error} {next : Unit → Outcome Error Value}
    (holds : allowed error) (rest : ¬condition → FailsOnly allowed (next ())) :
    FailsOnly allowed (raiseIf condition error >>= next) := by
  unfold raiseIf
  split
  · exact failsOnly_raise holds
  · rename_i fails
    exact rest fails

theorem failsOnly_ite [Decidable condition] (whenTrue : condition → FailsOnly allowed yes)
    (whenFalse : ¬condition → FailsOnly allowed no) :
    FailsOnly allowed (if condition then yes else no) := by
  grind

theorem FailsOnly.mapError {Other : Type} {outcome : Outcome Error Value}
    (fails : FailsOnly allowed outcome) {translate : Error → Other} {permitted : Other → Prop}
    (holds : ∀ error, allowed error → permitted (translate error)) :
    FailsOnly permitted (mapError translate outcome) := by
  cases outcome with
  | ok value => exact failsOnly_ok value
  | error fault =>
    obtain ⟨error, rfl, allowedError⟩ := fails fault rfl
    exact failsOnly_raise (holds error allowedError)

theorem Safe.failsOnly (safe : Safe outcome) : FailsOnly (fun _ => True) outcome := by
  intro fault failed
  obtain ⟨error, rfl⟩ := safe fault failed
  exact ⟨error, rfl, trivial⟩

theorem FailsOnly.cases (fails : FailsOnly allowed outcome) :
    (∃ value, outcome = .ok value) ∨ ∃ error, outcome = raise error ∧ allowed error := by
  cases outcome with
  | ok value => exact .inl ⟨value, rfl⟩
  | error fault =>
    obtain ⟨error, rfl, holds⟩ := fails fault rfl
    exact .inr ⟨error, rfl, holds⟩

theorem failsOnly_mapM {next : Item → Outcome Error Value}
    (each : ∀ item ∈ items, FailsOnly allowed (next item)) :
    FailsOnly allowed (items.mapM next) := by
  induction items with
  | nil => exact failsOnly_ok []
  | cons item =>
    rw [List.mapM_cons]
    refine failsOnly_bind (each item List.mem_cons_self) fun _ _ => ?_
    refine failsOnly_bind ?_ fun _ _ => failsOnly_ok _
    simp_all

end FailsOnly

/-- The values of a computation over a list belong to its items. -/
theorem forall₂_of_mapM_eq_ok {next : Item → Outcome Error Value} {values : List Value}
    (results : items.mapM next = .ok values) :
    List.Forall₂ (fun item value => next item = .ok value) items values := by
  induction items generalizing values with
  | nil =>
    cases results
    exact .nil
  | cons item _ ih =>
    rw [List.mapM_cons] at results
    obtain ⟨value, result, results⟩ := bind_eq_ok.mp results
    obtain ⟨_, otherResults, same⟩ := bind_eq_ok.mp results
    cases same
    exact .cons result (ih otherResults)

/-- A computation over a list succeeds when it does for every item. -/
theorem exists_mapM_eq_ok {next : Item → Outcome Error Value} {related : Item → Value → Prop}
    (each : ∀ item ∈ items, ∃ value, next item = .ok value ∧ related item value) :
    ∃ values, items.mapM next = .ok values ∧ List.Forall₂ related items values := by
  induction items with
  | nil => exact ⟨[], rfl, .nil⟩
  | cons item _ ih =>
    obtain ⟨value, _, _⟩ := each item List.mem_cons_self
    obtain ⟨values, _, _⟩ :=
      ih fun other member => each other (List.mem_cons_of_mem _ member)
    simp_all

/-! ### Loops -/

section Loops

variable {State : Type}

/-- Run a loop body until it produces a value, for at most a number of turns. -/
def loop (body : State → Outcome Error (State ⊕ Value)) : Nat → State → Outcome Error Value
  | 0, _ => .error .diverged
  | turns + 1, state => do
      match ← body state with
      | .inl next => loop body turns next
      | .inr value => pure value

/-- The loop produces a value from a state, after any number of turns. -/
inductive LoopsTo (body : State → Outcome Error (State ⊕ Value)) : State → Value → Prop where
  | done {state : State} {value : Value} (result : body state = .ok (.inr value)) :
      LoopsTo body state value
  | next {state after : State} {value : Value} (result : body state = .ok (.inl after))
      (rest : LoopsTo body after value) : LoopsTo body state value

variable {body : State → Outcome Error (State ⊕ Value)} {state : State}

theorem loopsTo_of_loop {turns : Nat} {value : Value} (result : loop body turns state = .ok value) :
    LoopsTo body state value := by
  induction turns generalizing state with
  | zero => cases result
  | succ turns ih =>
    obtain ⟨outcome, bodyResult, rest⟩ := bind_eq_ok.mp result
    cases outcome with
    | inl next => exact .next bodyResult (ih rest)
    | inr =>
      cases rest
      exact .done bodyResult

/-- A loop that has a result either finds it or runs out of turns. -/
theorem LoopsTo.loop_cases {value : Value} (loops : LoopsTo body state value) (turns : Nat) :
    loop body turns state = .error .diverged ∨ loop body turns state = .ok value := by
  induction loops generalizing turns with
  | done result =>
    cases turns with
    | zero => exact .inl rfl
    | succ turns => exact .inr (by rw [loop, result]; rfl)
  | next result _ ih =>
    cases turns with
    | zero => exact .inl rfl
    | succ turns =>
      rw [loop, result]
      exact ih turns

/-- The result of a safe loop does not depend on its bound. -/
theorem loop_eq_ok_iff {turns : Nat} {value : Value} (safe : Safe (loop body turns state)) :
    loop body turns state = .ok value ↔ LoopsTo body state value := by
  refine ⟨loopsTo_of_loop, fun loops => ?_⟩
  refine (loops.loop_cases turns).resolve_left fun diverged => ?_
  obtain ⟨_, equal⟩ := safe _ diverged
  cases equal

/-- A loop is safe when its body is, along an invariant, and every turn uses up some of
a measure that is below the bound. -/
theorem safe_loop {invariant : State → Prop} {measure : State → Nat}
    (bodySafe : ∀ state, invariant state → Safe (body state))
    (progress : ∀ state next, invariant state → body state = .ok (.inl next) →
      invariant next ∧ measure next < measure state)
    {turns : Nat} {state : State} (holds : invariant state) (bound : measure state < turns) :
    Safe (loop body turns state) := by
  induction turns generalizing state with
  | zero => exact absurd bound (Nat.not_lt_zero _)
  | succ turns ih =>
    refine safe_bind (bodySafe state holds) fun outcome result => ?_
    cases outcome with
    | inl next =>
      obtain ⟨nextHolds, _⟩ := progress state next holds result
      exact ih nextHolds (by omega)
    | inr value => exact safe_pure value

end Loops

end Outcome

end SprakCapture.Data
