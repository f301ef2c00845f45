import SprakCapture.Plugins.KernelExpiry

/-!
# Isolation of Mods with an open failure policy

A Mod with the policy `FailOpen` that fails is passed over: the dispatch goes on as if the Mod
had not been there. `dispatchLoopWithout` is the loop without some of its calls; time passes in
it as in the full loop, so that every other Mod is asked at the same moment. A patch that does
not parse or does not apply is the one failure for which the policy is not consulted.
-/

namespace SprakCapture.Plugins

open Data

namespace KernelHistory

variable (history : KernelHistory)

/-- The loop over the subscriptions of a plan, without the excluded calls. -/
def dispatchLoopWithout (excluded : Call → Bool) (envelope : EventEnvelope) :
    Nat → List CompiledSubscription → DispatchResult → Except DispatchFailure DispatchResult
  | _, [], dispatch => .ok dispatch
  | moment, subscription :: rest, dispatch =>
    if subscription.matchRule.matches envelope then
      match (history.kernel moment).instances.get? subscription.pluginId with
      | none => .error .instanceNotFound
      | some extension =>
        if excluded ⟨moment, subscription, extension, dispatch.finalPayload, rest⟩ then
          dispatchLoopWithout excluded envelope (moment + 3) rest dispatch
        else
          match history.dispatchTurn moment subscription envelope dispatch with
          | .next dispatch => dispatchLoopWithout excluded envelope (moment + 3) rest dispatch
          | .stop dispatch => .ok dispatch
          | .failed failure => .error failure
    else dispatchLoopWithout excluded envelope moment rest dispatch

/-- The dispatch of an event, without the excluded calls. -/
def dispatchWithout (excluded : Call → Bool) (moment : Nat) (envelope : EventEnvelope) :
    Except DispatchFailure DispatchResult :=
  match validateEnvelopeGeneration (history.kernel moment) envelope with
  | .error failure => .error failure
  | .ok () =>
    match (history.kernel (moment + 1)).plans envelope.stage with
    | none => .ok (emptyDispatch envelope.payload)
    | some subscriptions =>
      history.dispatchLoopWithout excluded envelope (moment + 2) subscriptions
        (emptyDispatch envelope.payload)

/-- The call is answered with a modification whose patch does not parse or does not apply. -/
def Unpatched (envelope : EventEnvelope) (call : Call) : Prop :=
  ∃ action failure, call.answer envelope = .ok action ∧ validateAction envelope action = .ok () ∧
    history.modifiedPayload call.payload action = .error failure

/-- The ways in which a call fails. -/
inductive Fails (envelope : EventEnvelope) (call : Call) : Prop where
  | crashed {failure} (crash : call.answer envelope = .error failure)
  | unfit {action failure} (answer : call.answer envelope = .ok action)
      (unfit : validateAction envelope action = .error failure)
  | unpatched (unpatched : history.Unpatched envelope call)

/-- The turn of the call ends the dispatch with a failure other than an expired generation. -/
def Breaks (envelope : EventEnvelope) (call : Call) : Prop :=
  ∃ failure, failure ≠ .generationExpired ∧
    history.dispatchTurn call.moment call.subscription envelope (emptyDispatch call.payload) =
      .failed failure

/-- Two results with the same payload, annotations and terminal action. -/
structure Agrees (first second : DispatchResult) : Prop where
  finalPayload : first.finalPayload = second.finalPayload
  annotations : first.annotations = second.annotations
  terminalAction : first.terminalAction = second.terminalAction

/-- The same failure, or results that agree. -/
inductive SameOutcome : Except DispatchFailure DispatchResult →
    Except DispatchFailure DispatchResult → Prop where
  | ok {first second} (agrees : Agrees first second) : SameOutcome (.ok first) (.ok second)
  | error (failure) : SameOutcome (.error failure) (.error failure)

/-- The excluded calls leave no mark on a dispatch: none of them ends it with a failure, and
its outcome is the outcome without them, unless the generation had expired when one of them
returned and the dispatch reports that. -/
structure Isolates (excluded : Call → Bool) (moment : Nat) (envelope : EventEnvelope) : Prop where
  unbroken : ∀ call ∈ history.invocations moment envelope, excluded call = true →
    ¬history.Breaks envelope call
  sameOutcome : SameOutcome (history.dispatch moment envelope)
      (history.dispatchWithout excluded moment envelope) ∨
    history.dispatch moment envelope = .error .generationExpired ∧
      ∃ call ∈ history.invocations moment envelope, excluded call = true ∧
        history.Expired envelope call

variable {history} {envelope : EventEnvelope}

theorem Agrees.refl (dispatch : DispatchResult) : Agrees dispatch dispatch := ⟨rfl, rfl, rfl⟩

theorem modifiedPayload_eq_error {payload : JsonValue} {action : ExtensionAction}
    {failure : DispatchFailure}
    (unpatched : history.modifiedPayload payload action = .error failure) :
    failure = .patchFailed := by
  grind [modifiedPayload]

variable {call : Call}

/-- Whatever its policy, a Mod with a failing patch ends the dispatch. -/
theorem Unpatched.breaks
    (found : (history.kernel call.moment).instances.get? call.subscription.pluginId =
      some call.extension) (unpatched : history.Unpatched envelope call) :
    history.Breaks envelope call := by
  obtain ⟨action, _, answer, fits, failed⟩ := unpatched
  rw [modifiedPayload_eq_error failed] at failed
  have applied : history.modifiedPayload (emptyDispatch call.payload).finalPayload action =
      .error .patchFailed := failed
  refine ⟨.patchFailed, by decide, ?_⟩
  have answered : invoke call.extension (call.moment + 1) (invocation call.subscription envelope
      call.extension (emptyDispatch call.payload).finalPayload) = .ok action := answer
  simp [dispatchTurn, found, answered, fits, acceptAction, applyAction_eq_error applied]

variable {moment : Nat} {subscriptions : List CompiledSubscription}

variable {subscription : CompiledSubscription} {first dispatch : DispatchResult}

theorem found_of_mem_calls (member : call ∈ history.calls envelope moment subscriptions dispatch) :
    (history.kernel call.moment).instances.get? call.subscription.pluginId =
      some call.extension := by
  induction subscriptions generalizing moment dispatch with
  | nil => cases member
  | cons subscription =>
    cases matched : subscription.matchRule.matches envelope with
    | false =>
      grind [calls]
    | true =>
      cases found : (history.kernel moment).instances.get? subscription.pluginId with
      | none =>
        grind [calls]
      | some extension =>
        simp only [calls, matched, found] at member
        rcases List.mem_cons.mp member with rfl | _
        · exact found
        grind

theorem found_of_mem_invocations (member : call ∈ history.invocations moment envelope) :
    (history.kernel call.moment).instances.get? call.subscription.pluginId =
      some call.extension := by
  grind [invocations, found_of_mem_calls]

theorem dispatchTurn_of_fails {rest : List CompiledSubscription} {extension : ExtensionInstance}
    {dispatch : DispatchResult}
    (found : (history.kernel moment).instances.get? subscription.pluginId = some extension)
    (policy : extension.failurePolicy = .failOpen) (fails : history.Fails envelope
      ⟨moment, subscription, extension, dispatch.finalPayload, rest⟩)
    (patched : ¬history.Unpatched envelope
      ⟨moment, subscription, extension, dispatch.finalPayload, rest⟩) :
    (∃ next, history.dispatchTurn moment subscription envelope dispatch = .next next ∧
      Agrees next dispatch) ∨
    history.dispatchTurn moment subscription envelope dispatch = .failed .generationExpired ∧
      history.Expired envelope ⟨moment, subscription, extension, dispatch.finalPayload, rest⟩ := by
  cases fails with
  | unpatched unpatched => exact absurd unpatched patched
  | @unfit action failure answer unfit =>
    have answered : invoke extension (moment + 1)
        (invocation subscription envelope extension dispatch.finalPayload) = .ok action := answer
    left
    simp only [dispatchTurn, found, answered, unfit, refuseAction, applyFailurePolicy, policy]
    exact ⟨_, rfl, rfl, rfl, rfl⟩
  | @crashed failure crash =>
    have answered : invoke extension (moment + 1)
        (invocation subscription envelope extension dispatch.finalPayload) = .error failure := crash
    simp only [dispatchTurn, found, answered, failCall, applyFailurePolicy, policy, concludeTurn]
    cases current : validateEnvelopeGeneration (history.kernel (moment + 2)) envelope with
    | ok _ => exact .inl ⟨_, rfl, rfl, rfl, rfl⟩
    | error expiry =>
      have isExpiry : expiry = .generationExpired := by
        grind [validateEnvelopeGeneration]
      rw [isExpiry] at current ⊢
      exact .inr ⟨rfl, current⟩

variable {second : DispatchResult}

/-- The turns of one subscription from results that agree. -/
theorem dispatchTurn_agrees (agrees : Agrees first second) :
    (∃ next other, history.dispatchTurn moment subscription envelope first = .next next ∧
      history.dispatchTurn moment subscription envelope second = .next other ∧
      Agrees next other) ∨
    (∃ next other, history.dispatchTurn moment subscription envelope first = .stop next ∧
      history.dispatchTurn moment subscription envelope second = .stop other ∧
      Agrees next other) ∨
    ∃ failure, history.dispatchTurn moment subscription envelope first = .failed failure ∧
      history.dispatchTurn moment subscription envelope second = .failed failure := by
  obtain ⟨samePayload, sameAnnotations, sameTerminal⟩ := agrees
  cases found : (history.kernel moment).instances.get? subscription.pluginId with
  | none => refine .inr (.inr ⟨.instanceNotFound, ?_, ?_⟩) <;> simp [dispatchTurn, found]
  | some extension =>
    simp only [dispatchTurn, found, samePayload]
    cases invoke extension (moment + 1)
        (invocation subscription envelope extension second.finalPayload) with
    | error failure =>
      simp only [failCall]
      cases applyFailurePolicy extension failure with
      | error broken => exact .inr (.inr ⟨broken, rfl, rfl⟩)
      | ok =>
        simp only [concludeTurn]
        cases validateEnvelopeGeneration (history.kernel (moment + 2)) envelope with
        | error expiry => exact .inr (.inr ⟨expiry, rfl, rfl⟩)
        | ok => exact .inl ⟨_, _, rfl, rfl, samePayload, sameAnnotations, sameTerminal⟩
    | ok action =>
      cases fits : validateAction envelope action with
      | error failure =>
        simp only [fits, refuseAction]
        cases applyFailurePolicy extension failure with
        | error broken => exact .inr (.inr ⟨broken, rfl, rfl⟩)
        | ok => exact .inl ⟨_, _, rfl, rfl, samePayload, sameAnnotations, sameTerminal⟩
      | ok =>
        have appended : first.annotations ++ action.annotations =
            second.annotations ++ action.annotations := by rw [sameAnnotations]
        cases applied : history.modifiedPayload second.finalPayload action with
        | error failure =>
          have firstApplied := applied
          rw [← samePayload] at firstApplied
          simp only [fits, acceptAction, applyAction_eq_error applied,
            applyAction_eq_error firstApplied]
          exact .inr (.inr ⟨failure, rfl, rfl⟩)
        | ok =>
          have firstApplied := applied
          rw [← samePayload] at firstApplied
          simp only [fits, acceptAction, applyAction_eq_ok applied, applyAction_eq_ok firstApplied]
          cases terminal : terminalAction action.action with
          | true =>
            exact .inr (.inl ⟨_, _, rfl, rfl, rfl, appended, rfl⟩)
          | false =>
            simp only [concludeTurn]
            cases validateEnvelopeGeneration (history.kernel (moment + 2)) envelope with
            | error expiry => exact .inr (.inr ⟨expiry, rfl, rfl⟩)
            | ok => exact .inl ⟨_, _, rfl, rfl, rfl, appended, sameTerminal⟩

/-- The loop and the loop without the excluded calls, from results that agree. -/
theorem dispatchLoop_without {excluded : Call → Bool} {first second : DispatchResult}
    (agrees : Agrees first second)
    (failing : ∀ call ∈ history.calls envelope moment subscriptions first, excluded call = true →
      call.extension.failurePolicy = .failOpen ∧ history.Fails envelope call)
    (patched : ∀ call ∈ history.calls envelope moment subscriptions first, excluded call = true →
      ¬history.Unpatched envelope call) :
    SameOutcome (history.dispatchLoop envelope moment subscriptions first)
        (history.dispatchLoopWithout excluded envelope moment subscriptions second) ∨
      history.dispatchLoop envelope moment subscriptions first = .error .generationExpired ∧
        ∃ call ∈ history.calls envelope moment subscriptions first, excluded call = true ∧
          history.Expired envelope call := by
  induction subscriptions generalizing moment first second with
  | nil => exact .inl (.ok agrees)
  | cons subscription rest ih =>
    cases matched : subscription.matchRule.matches envelope with
    | false =>
      simp only [calls, dispatchLoop, dispatchLoopWithout, matched] at failing patched ⊢
      exact ih agrees failing patched
    | true =>
      cases found : (history.kernel moment).instances.get? subscription.pluginId with
      | none =>
        simp only [dispatchLoop, dispatchLoopWithout, matched, found, dispatchTurn]
        exact .inl (.error _)
      | some extension =>
        simp only [calls, matched, if_true, found, List.forall_mem_cons] at failing patched
        simp only [calls, dispatchLoop, dispatchLoopWithout, matched, found, ← agrees.finalPayload]
        cases out : excluded
            ⟨moment, subscription, extension, first.finalPayload, rest⟩ with
        | true =>
          obtain ⟨policy, fails⟩ := failing.1 out
          rcases dispatchTurn_of_fails found policy fails (patched.1 out) with
            ⟨next, turn, passes⟩ | ⟨turn, expired⟩
          · simp only [turn] at failing patched ⊢
            have nextAgrees : Agrees next second :=
              ⟨passes.finalPayload.trans agrees.finalPayload,
                passes.annotations.trans agrees.annotations,
                passes.terminalAction.trans agrees.terminalAction⟩
            rcases ih nextAgrees failing.2 patched.2 with
              same | ⟨failed, call, member, outCall, expired⟩
            · exact .inl same
            grind
          simp_all
        | false =>
          rcases @dispatchTurn_agrees history envelope moment subscription _ _ agrees with
            ⟨next, other, turn, otherTurn, nextAgrees⟩ |
            ⟨next, other, turn, otherTurn, nextAgrees⟩ | ⟨_, turn, otherTurn⟩
          · simp only [turn, otherTurn] at failing patched ⊢
            rcases ih nextAgrees failing.2 patched.2 with
              same | ⟨failed, call, member, outCall, expired⟩
            · exact .inl same
            grind
          · simp only [turn, otherTurn]
            exact .inl (.ok nextAgrees)
          · simp only [turn, otherTurn]
            exact .inl (.error _)

/-- A failing call without a failing patch does not end the dispatch. -/
theorem not_breaks_of_fails
    (found : (history.kernel call.moment).instances.get? call.subscription.pluginId =
      some call.extension) (policy : call.extension.failurePolicy = .failOpen)
    (fails : history.Fails envelope call) (patched : ¬history.Unpatched envelope call) :
    ¬history.Breaks envelope call := by
  rintro ⟨_, _, broken⟩
  rcases @dispatchTurn_of_fails _ _ _ _ _
      _ (emptyDispatch call.payload) found policy fails patched with
    ⟨_, turn, -⟩ | ⟨turn, -⟩
  · rw [turn] at broken
    cases broken
  simp_all

/-- Calls that fail under an open policy leave no mark on a dispatch exactly if none of them
fails by its patch. -/
theorem isolates_iff (history : KernelHistory) (moment : Nat) (envelope : EventEnvelope)
    (excluded : Call → Bool)
    (failing : ∀ call ∈ history.invocations moment envelope, excluded call = true →
      call.extension.failurePolicy = .failOpen ∧ history.Fails envelope call) :
    history.Isolates excluded moment envelope ↔
      ∀ call ∈ history.invocations moment envelope, excluded call = true →
        ¬history.Unpatched envelope call := by
  constructor
  · intro isolates call member out unpatched
    exact isolates.unbroken call member out (unpatched.breaks (found_of_mem_invocations member))
  · intro patched
    refine ⟨fun call member out => ?_, ?_⟩
    · grind [not_breaks_of_fails, found_of_mem_invocations]
    · cases current : validateEnvelopeGeneration (history.kernel moment) envelope with
      | error =>
        simp only [dispatch, dispatchWithout, current]
        exact .inl (.error _)
      | ok =>
        cases plan : (history.kernel (moment + 1)).plans envelope.stage with
        | none =>
          simp only [dispatch, dispatchWithout, current, plan]
          exact .inl (.ok (.refl _))
        | some =>
          simp only [invocations, current, plan] at failing patched
          simp only [dispatch, dispatchWithout, invocations, current, plan]
          exact dispatchLoop_without (.refl _) failing patched

/-! ### A patch that fails under an open policy -/

/-- A Mod with an open policy that answers every call alike. -/
def openMod (answer : RuntimeInvocation → Except String ExtensionAction) : ExtensionInstance where
  id := "editor"
  version := "1.0.0"
  failurePolicy := .failOpen
  instanceGeneration := 1
  runtime := fun _ call => answer call

def editorSubscription : CompiledSubscription where
  pluginId := "editor"
  moduleId := "main"
  moduleKind := .trafficHandler
  matchRule := {}

/-- A kernel with that Mod. The patches of the Mod remove a field that no payload has, so none
of them applies. -/
def openHistory (answer : RuntimeInvocation → Except String ExtensionAction) :
    KernelHistory where
  kernel := fun _ =>
    { instances := (∅ : Table String ExtensionInstance).insert "editor" (openMod answer)
      plans := fun stage => if stage = .tcpChunk then some [editorSubscription] else none
      serviceGeneration := 1
      recordingGeneration := 1 }
  elapsedMicroseconds := fun _ => 0
  payloadSize := fun _ => 0
  actionSize := fun _ => 0
  applyPatch := fun _ _ => none

/-- The answer of a Mod that removes a field which is not there. -/
def removeMissingField (call : RuntimeInvocation) : Except String ExtensionAction :=
  .ok
    { eventId := call.envelope.eventId
      action := .modify
      patch := [.object [("op", .string "remove"), ("path", .string "/missing")]]
      annotations := []
      output := none }

/-- The only call of the dispatch of `firstBlock`. -/
def editorCall (answer : RuntimeInvocation → Except String ExtensionAction) : Call where
  moment := 2
  subscription := editorSubscription
  extension := openMod answer
  payload := .null
  rest := []

/-- The runtime of a Mod fails; the event goes on without it. -/
theorem isolates_crashedMod :
    (openHistory fun _ => .error "lost").Isolates (fun _ => true) 0 firstBlock := by
  have called : (openHistory fun _ => .error "lost").invocations 0 firstBlock =
      [editorCall fun _ => .error "lost"] := rfl
  have crash : (editorCall fun _ => .error "lost").answer firstBlock = .error .runtimeFailed := rfl
  refine (isolates_iff _ 0 firstBlock (fun _ => true) ?_).mpr ?_
  · intro call member _
    rw [List.mem_singleton.mp member]
    exact ⟨rfl, .crashed crash⟩
  · rintro call member - ⟨_, _, answer, -⟩
    simp_all

/-- The patch of a Mod with an open policy does not apply, and the dispatch fails. -/
theorem not_isolates_unpatched :
    (openHistory removeMissingField).dispatch 0 firstBlock = .error .patchFailed ∧
      (openHistory removeMissingField).invocations 0 firstBlock = [editorCall removeMissingField] ∧
      (editorCall removeMissingField).extension.failurePolicy = .failOpen ∧
      (openHistory removeMissingField).Fails firstBlock (editorCall removeMissingField) ∧
      ¬(openHistory removeMissingField).Isolates (fun _ => true) 0 firstBlock := by
  have called : (openHistory removeMissingField).invocations 0 firstBlock =
      [editorCall removeMissingField] := rfl
  have unpatched : (openHistory removeMissingField).Unpatched firstBlock
      (editorCall removeMissingField) := ⟨_, .patchFailed, rfl, rfl, rfl⟩
  refine ⟨rfl, called, rfl, .unpatched unpatched, fun isolates => ?_⟩
  refine isolates.unbroken (editorCall removeMissingField) ?_ rfl (unpatched.breaks rfl)
  exact List.mem_singleton_self _

end KernelHistory

end SprakCapture.Plugins
