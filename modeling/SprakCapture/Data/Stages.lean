import Mathlib.Logic.Function.Basic

/-!
# Stages in a row

Symbols pass a row of stages. A stage sees what it held back before with what has come to it
since, and forwards, holds or drops what it makes of them. `Pass` is one delivery along the
row when every stage has a buffer of its own; `Flows` is what a history of such deliveries
keeps: each stage has received exactly what the one before it forwarded, in order, next to
what it held itself.
-/

namespace SprakCapture.Data

variable {Symbol : Type}

inductive Verdict where
  | forward
  | hold
  | drop
deriving DecidableEq

/-- One stage at work on its input. -/
structure StageCall (Symbol : Type) where
  stage : Nat
  input : List Symbol
  verdict : Verdict
  output : List Symbol

variable {call : StageCall Symbol}

namespace StageCall

/-- What the stage holds back after the call. -/
def held (call : StageCall Symbol) : List Symbol :=
  match call.verdict with
  | .hold => call.output
  | _ => []

/-- What the stage passes on in the call. -/
def forwarded (call : StageCall Symbol) : List Symbol :=
  match call.verdict with
  | .forward => call.output
  | _ => []

theorem held_of_forward (forward : call.verdict = .forward) : call.held = [] := by
  rw [held, forward]

theorem forwarded_of_ne (stopped : call.verdict ≠ .forward) : call.forwarded = [] := by
  simp [forwarded]

end StageCall

/-- The calls of one stage. -/
def callsOf (stage : Nat) (calls : List (StageCall Symbol)) : List (StageCall Symbol) :=
  calls.filter (·.stage == stage)

/-- Everything that one stage passed on. -/
def forwardedBy (stage : Nat) (calls : List (StageCall Symbol)) : List Symbol :=
  (callsOf stage calls).flatMap StageCall.forwarded

/-- What has come to a stage: the first receives from outside, the others from the one
before. -/
def offered (received : List Symbol) (calls : List (StageCall Symbol)) : Nat → List Symbol
  | 0 => received
  | before + 1 => forwardedBy before calls

/-- The calls of a stage that held some symbols: each sees what the stage holds and then fresh
symbols, and the fresh symbols of all calls are the given ones in order. -/
inductive Receives : List Symbol → List (StageCall Symbol) → List Symbol → List Symbol → Prop where
  | nil {held : List Symbol} : Receives held [] [] held
  | cons {held fresh others last : List Symbol} {call : StageCall Symbol}
      {calls : List (StageCall Symbol)} (input : call.input = held ++ fresh)
      (rest : Receives call.held calls others last) :
      Receives held (call :: calls) (fresh ++ others) last

/-- One delivery to the stages from an index on. `emitted` is what leaves the last of them. -/
inductive Pass (count : Nat) : (Nat → List Symbol) → Nat → List Symbol →
    List (StageCall Symbol) → (Nat → List Symbol) → List Symbol → Prop where
  | leaves {held : Nat → List Symbol} {incoming : List Symbol} :
      Pass count held count incoming [] held incoming
  | forwards {held last : Nat → List Symbol} {incoming emitted : List Symbol}
      {call : StageCall Symbol} {calls : List (StageCall Symbol)}
      (inRow : call.stage < count) (input : call.input = held call.stage ++ incoming)
      (forward : call.verdict = .forward)
      (rest : Pass count (Function.update held call.stage []) (call.stage + 1) call.output calls
        last emitted) :
      Pass count held call.stage incoming (call :: calls) last emitted
  | stops {held : Nat → List Symbol} {incoming : List Symbol} {call : StageCall Symbol}
      (inRow : call.stage < count) (input : call.input = held call.stage ++ incoming)
      (stopped : call.verdict ≠ .forward) :
      Pass count held call.stage incoming [call] (Function.update held call.stage call.held) []

/-- A history of deliveries: what came to the first stage, the calls, what each stage holds and
what left the last stage. -/
structure Flows (count : Nat) (received : List Symbol) (calls : List (StageCall Symbol))
    (held : Nat → List Symbol) (emitted : List Symbol) : Prop where
  receives : ∀ stage < count,
    Receives [] (callsOf stage calls) (offered received calls stage) (held stage)
  emits : emitted = offered received calls count

theorem Receives.single {held fresh : List Symbol} (input : call.input = held ++ fresh) :
    Receives held [call] fresh call.held := by
  have received := Receives.cons input .nil
  rwa [List.append_nil] at received

/-- A stage holds what it held back in its last call. -/
theorem Receives.last_eq {held fresh last : List Symbol} {calls : List (StageCall Symbol)}
    (receives : Receives held calls fresh last) :
    last = (calls.getLast?.map StageCall.held).getD held := by
  induction receives with
  | nil => rfl
  | @cons _ _ _ _ _ calls =>
    grind

theorem Receives.append {held fresh middle others last : List Symbol}
    {calls more : List (StageCall Symbol)} (first : Receives held calls fresh middle)
    (second : Receives middle more others last) :
    Receives held (calls ++ more) (fresh ++ others) last := by
  induction first with
  | nil => exact second
  | cons input _ ih =>
    rw [List.append_assoc]
    exact .cons input (ih second)

theorem callsOf_append (stage : Nat) (calls more : List (StageCall Symbol)) :
    callsOf stage (calls ++ more) = callsOf stage calls ++ callsOf stage more :=
  List.filter_append ..

theorem forwardedBy_append (stage : Nat) (calls more : List (StageCall Symbol)) :
    forwardedBy stage (calls ++ more) = forwardedBy stage calls ++ forwardedBy stage more := by
  rw [forwardedBy, callsOf_append, List.flatMap_append]
  rfl

theorem callsOf_cons_self (call : StageCall Symbol) (calls : List (StageCall Symbol)) :
    callsOf call.stage (call :: calls) = call :: callsOf call.stage calls := by
  simp [callsOf]

variable {stage : Nat}

theorem callsOf_cons_of_ne (other : call.stage ≠ stage) (calls : List (StageCall Symbol)) :
    callsOf stage (call :: calls) = callsOf stage calls := by
  simp [callsOf, other]

section Pass

variable {count index : Nat} {held last : Nat → List Symbol} {incoming emitted : List Symbol}
  {calls : List (StageCall Symbol)}

section

variable (pass : Pass count held index incoming calls last emitted)
include pass

/-- A delivery calls no stage before its first and leaves what those hold. -/
theorem Pass.before (earlier : stage < index) :
    callsOf stage calls = [] ∧ last stage = held stage := by
  induction pass with
  | leaves => exact ⟨rfl, rfl⟩
  | forwards _ _ _ _ _ =>
    grind [callsOf_cons_of_ne]
  | stops =>
    exact ⟨callsOf_cons_of_ne (Nat.ne_of_gt earlier) _,
      Function.update_of_ne (Nat.ne_of_lt earlier) _ _⟩

/-- The first stage of a delivery receives what comes in. -/
theorem Pass.receives_first (inRow : index < count) :
    Receives (held index) (callsOf index calls) incoming (last index) := by
  cases pass with
  | leaves => exact absurd inRow (Nat.lt_irrefl _)
  | @forwards _ _ _ _ call calls _ input forward rest =>
    obtain ⟨none, same⟩ := rest.before (Nat.lt_succ_self _)
    rw [callsOf_cons_self, none, same, Function.update_self]
    have received := Receives.single input
    rwa [StageCall.held_of_forward forward] at received
  | @stops _ _ call _ input =>
    rw [callsOf_cons_self, Function.update_self]
    exact .single input

/-- Every later stage of a delivery receives what the stage before it forwards. -/
theorem Pass.receives_later (later : index ≤ stage) (inRow : stage + 1 < count) :
    Receives (held (stage + 1)) (callsOf (stage + 1) calls) (forwardedBy stage calls)
      (last (stage + 1)) := by
  induction pass with
  | leaves => omega
  | @forwards held last _ _ call calls _ input _ rest ih =>
    rw [callsOf_cons_of_ne (by omega)]
    rcases Nat.lt_or_eq_of_le later with further | rfl
    · grind [forwardedBy, callsOf_cons_of_ne]
    · have received := rest.receives_first inRow
      obtain ⟨_, _⟩ := rest.before (Nat.lt_succ_self call.stage)
      grind [forwardedBy, StageCall.forwarded, callsOf_cons_self]
  | @stops held _ call _ input stopped =>
    rw [callsOf_cons_of_ne (by omega), Function.update_of_ne (by omega)]
    have nothing : forwardedBy stage [call] = [] := by
      by_cases same : call.stage = stage
      · simp [forwardedBy, callsOf, StageCall.forwarded_of_ne stopped]
      · simp [forwardedBy, callsOf, same]
    rw [nothing]
    exact .nil

/-- What leaves the row is what its last stage forwards. -/
theorem Pass.emitted_eq :
    emitted = if index = count then incoming else forwardedBy (count - 1) calls := by
  induction pass with
  | leaves => rw [if_pos rfl]
  | @forwards _ _ _ _ call calls inRow _ _ rest ih =>
    rw [if_neg (Nat.ne_of_lt inRow), ih]
    by_cases isLast : call.stage + 1 = count
    · obtain ⟨_, _⟩ := rest.before (Nat.lt_succ_self call.stage)
      grind [forwardedBy, StageCall.forwarded, callsOf_cons_self]
    · rw [if_neg isLast, forwardedBy, forwardedBy, callsOf_cons_of_ne (by omega)]
  | @stops _ _ call inRow _ stopped =>
    rw [if_neg (Nat.ne_of_lt inRow)]
    by_cases same : call.stage = count - 1
    · simp [forwardedBy, callsOf, StageCall.forwarded_of_ne stopped]
    · simp [forwardedBy, callsOf, same]

end

/-- A delivery along the whole row continues a history. -/
theorem Flows.pass {received emittedBefore : List Symbol} {before : List (StageCall Symbol)}
    (flows : Flows count received before held emittedBefore)
    (pass : Pass count held 0 incoming calls last emitted) :
    Flows count (received ++ incoming) (before ++ calls) last (emittedBefore ++ emitted) := by
  constructor
  · intro stage inRow
    rw [callsOf_append]
    cases stage with
    | zero => exact (flows.receives 0 inRow).append (pass.receives_first inRow)
    | succ stage =>
      rw [offered, forwardedBy_append]
      exact (flows.receives (stage + 1) inRow).append (pass.receives_later (Nat.zero_le _) inRow)
  · rw [flows.emits, pass.emitted_eq]
    cases count with
    | zero => rfl
    | succ count => exact (forwardedBy_append count before calls).symm

theorem flows_nil (count : Nat) : Flows count ([] : List Symbol) [] (fun _ => []) [] := by
  constructor
  · intro stage _
    cases stage with
    | zero | succ stage => exact .nil
  · cases count with
    | zero | succ count => rfl

end Pass

end SprakCapture.Data
