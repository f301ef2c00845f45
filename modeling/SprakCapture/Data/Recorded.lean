import SprakCapture.Data.Outcome

/-!
# Programs that record their writes

A `Recorded` program lists the writes it performs before it ends with a value or a
fault. The program may be cut short after any of its writes, which leaves the world at
a prefix of that list. `Meets` is a triple for such programs: one assertion for every
state that an interruption can leave, one for the end and one for the faults.
-/

namespace SprakCapture.Data

/-- The writes of a program in order, and how it ends. -/
structure Recorded (Operation Error Value : Type) where
  operations : List Operation
  result : Outcome Error Value

namespace Recorded

variable {Operation Error Value Result State : Type}

instance : Monad (Recorded Operation Error) where
  pure value := ⟨[], .ok value⟩
  bind first next :=
    match first.result with
    | .ok value => ⟨first.operations ++ (next value).operations, (next value).result⟩
    | .error fault => ⟨first.operations, .error fault⟩

/-- A program of one write. -/
def perform (operation : Operation) : Recorded Operation Error Unit := ⟨[operation], .ok ()⟩

/-- A program without writes. -/
def ofOutcome (outcome : Outcome Error Value) : Recorded Operation Error Value := ⟨[], outcome⟩

/-- A program of several writes. -/
def performAll (operations : List Operation) : Recorded Operation Error Unit :=
  ⟨operations, .ok ()⟩

variable {first : Recorded Operation Error Value}

theorem bind_of_ok {value : Value} (result : first.result = .ok value)
    (next : Value → Recorded Operation Error Result) :
    first >>= next = ⟨first.operations ++ (next value).operations, (next value).result⟩ := by
  simp [bind, result]

theorem bind_of_error {fault : Fault Error} (result : first.result = .error fault)
    (next : Value → Recorded Operation Error Result) :
    first >>= next = ⟨first.operations, .error fault⟩ := by
  simp [bind, result]

@[simp] theorem ofOutcome_ok_bind (value : Value) (next : Value → Recorded Operation Error Result) :
    ((ofOutcome (.ok value) : Recorded Operation Error Value) >>= next) = next value :=
  rfl

/-! ### Interruptions -/

/-- The assertion holds before and after every one of the writes. -/
def Throughout (apply : State → Operation → State) (assertion : State → Prop) :
    State → List Operation → Prop
  | state, [] => assertion state
  | state, operation :: operations =>
    assertion state ∧ Throughout apply assertion (apply state operation) operations

/-- A program keeps one assertion at every point where it may be cut short, meets
another when it ends with a value, and ends without one only as described. -/
structure Meets (apply : State → Operation → State) (during : State → Prop) (state : State)
    (program : Recorded Operation Error Value) (after : Value → State → Prop)
    (failing : Fault Error → Prop) : Prop where
  throughout : Throughout apply during state program.operations
  ends : ∀ value, program.result = .ok value → after value (program.operations.foldl apply state)
  fails : ∀ fault, program.result = .error fault → failing fault

variable {apply : State → Operation → State} {during : State → Prop} {state : State}
  {failing : Fault Error → Prop} {operations : List Operation}

/-- Wherever the writes are cut off, the assertion holds. -/
theorem Throughout.take (throughout : Throughout apply during state operations) (count : Nat) :
    during ((operations.take count).foldl apply state) := by
  induction operations generalizing state count with
  | nil =>
    rw [List.take_nil]
    exact throughout
  | cons _ operations ih =>
    cases count with
    | zero => exact throughout.1
    | succ count => exact ih throughout.2 count

theorem throughout_append {before after : List Operation}
    (left : Throughout apply during state before)
    (right : Throughout apply during (before.foldl apply state) after) :
    Throughout apply during state (before ++ after) := by
  induction before generalizing state with
  | nil => exact right
  | cons _ before ih => exact ⟨left.1, ih left.2 right⟩

variable {after : Value → State → Prop}

theorem meets_pure {value : Value} (holds : during state) (met : after value state) :
    Meets apply during state (pure value : Recorded Operation Error Value) after failing where
  throughout := holds
  ends := by
    intro _ equal
    cases equal
    exact met
  fails := by
    nofun

theorem meets_perform {operation : Operation} {after : Unit → State → Prop}
    (before : during state) (holds : during (apply state operation))
    (met : after () (apply state operation)) :
    Meets apply during state (perform operation : Recorded Operation Error Unit) after failing where
  throughout := ⟨before, holds⟩
  ends := fun _ _ => met
  fails := by
    nofun

theorem meets_error {fault : Fault Error} (holds : during state) (failed : failing fault) :
    Meets apply during state (ofOutcome (.error fault) : Recorded Operation Error Value) after
      failing where
  throughout := holds
  ends := by
    nofun
  fails := by
    intro _ equal
    cases equal
    exact failed

/-- A program without writes, whatever its outcome. -/
theorem meets_ofOutcome {outcome : Outcome Error Value} {failing : Fault Error → Prop}
    (holds : during state) (met : ∀ value, outcome = .ok value → after value state)
    (failed : ∀ fault, outcome = .error fault → failing fault) :
    Meets apply during state (ofOutcome outcome : Recorded Operation Error Value) after
      failing where
  throughout := holds
  ends := met
  fails := failed

/-- Programs in sequence: the second starts where the first ends. -/
theorem meets_bind {first : Recorded Operation Error Value}
    {next : Value → Recorded Operation Error Result} {between : Value → State → Prop}
    {after : Result → State → Prop} (left : Meets apply during state first between failing)
    (right : ∀ value middle, between value middle →
      Meets apply during middle (next value) after failing) :
    Meets apply during state (first >>= next) after failing := by
  cases result : first.result with
  | error fault =>
    rw [bind_of_error result]
    refine ⟨left.throughout, ?_, ?_⟩
    · nofun
    · intro _ equal
      cases equal
      exact left.fails fault result
  | ok value =>
    have rest := right value _ (left.ends value result)
    rw [bind_of_ok result]
    refine ⟨throughout_append left.throughout rest.throughout, ?_, rest.fails⟩
    intro final equal
    rw [List.foldl_append]
    exact rest.ends final equal

theorem Meets.weaken {program : Recorded Operation Error Value} {after after' : Value → State → Prop}
    (met : Meets apply during state program after failing)
    (weaker : ∀ value final, after value final → after' value final) :
    Meets apply during state program after' failing where
  throughout := met.throughout
  ends := fun value equal => weaker value _ (met.ends value equal)
  fails := met.fails

variable {next : Unit → Recorded Operation Error Result}

/-- After several writes a program goes on in the state they lead to. -/
theorem meets_performAll_bind {after : Result → State → Prop}
    (throughout : Throughout apply during state operations)
    (rest : Meets apply during (operations.foldl apply state) (next ()) after failing) :
    Meets apply during state (performAll operations >>= next) after failing where
  throughout := throughout_append throughout rest.throughout
  ends := by
    intro value equal
    have met := rest.ends value equal
    rw [← List.foldl_append] at met
    exact met
  fails := rest.fails

theorem meets_perform_bind {operation : Operation} {after : Result → State → Prop}
    (before : during state)
    (rest : Meets apply during (apply state operation) (next ()) after failing) :
    Meets apply during state (perform operation >>= next) after failing where
  throughout := ⟨before, rest.throughout⟩
  ends := rest.ends
  fails := rest.fails

end Recorded

end SprakCapture.Data
