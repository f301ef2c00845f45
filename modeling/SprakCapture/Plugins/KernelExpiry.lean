import SprakCapture.Plugins.ExtensionKernel

/-!
# Results of an expired generation

The kernel publishes a new generation while a Mod may still be running. `dispatch` compares
the generations after a call, but two ways through the loop pass that comparison by: the
`break` after a terminal action and the `continue` after an action that an open policy
ignores. `lastInvocation` is the last call that a dispatch makes, and `Unchecked` says that
this call leaves the loop on one of the two ways.
-/

namespace SprakCapture.Plugins

open Data

variable {subscriptions : List CompiledSubscription}

namespace KernelHistory

variable (history : KernelHistory)

/-- A call that a dispatch makes: when its turn began, what was called with which payload, and
the subscriptions behind it. -/
structure Call where
  moment : Nat
  subscription : CompiledSubscription
  extension : ExtensionInstance
  payload : JsonValue
  rest : List CompiledSubscription

/-- What the Mod answers. -/
def Call.answer (call : Call) (envelope : EventEnvelope) : Except DispatchFailure ExtensionAction :=
  invoke call.extension (call.moment + 1)
    (invocation call.subscription envelope call.extension call.payload)

/-- The calls of the loop over the subscriptions of a plan. -/
def calls (envelope : EventEnvelope) :
    Nat → List CompiledSubscription → DispatchResult → List Call
  | _, [], _ => []
  | moment, subscription :: rest, dispatch =>
    if subscription.matchRule.matches envelope then
      match (history.kernel moment).instances.get? subscription.pluginId with
      | none => []
      | some extension =>
        ⟨moment, subscription, extension, dispatch.finalPayload, rest⟩ ::
          match history.dispatchTurn moment subscription envelope dispatch with
          | .next dispatch => calls envelope (moment + 3) rest dispatch
          | .stop _ => []
          | .failed _ => []
    else calls envelope moment rest dispatch

/-- The calls of a dispatch that starts at a moment. -/
def invocations (moment : Nat) (envelope : EventEnvelope) : List Call :=
  match validateEnvelopeGeneration (history.kernel moment) envelope with
  | .error _ => []
  | .ok () =>
    match (history.kernel (moment + 1)).plans envelope.stage with
    | none => []
    | some subscriptions =>
      history.calls envelope (moment + 2) subscriptions (emptyDispatch envelope.payload)

/-- The last call of a dispatch that starts at a moment. -/
def lastInvocation (moment : Nat) (envelope : EventEnvelope) : Option Call :=
  (history.invocations moment envelope).getLast?

/-- The generation of the event is another one when the call returns. The access that follows
a call stands for the moment of its return. -/
def Expired (envelope : EventEnvelope) (call : Call) : Prop :=
  validateEnvelopeGeneration (history.kernel (call.moment + 2)) envelope = .error .generationExpired

/-- The call is answered with a terminal action, or with an action that does not fit the event,
under an open policy and with no subscription behind it that the event meets. -/
def Call.Unchecked (call : Call) (envelope : EventEnvelope) : Prop :=
  ∃ action, call.answer envelope = .ok action ∧
    (validateAction envelope action = .ok () ∧ terminalAction action.action = true ∨
      (∃ failure, validateAction envelope action = .error failure) ∧
        call.extension.failurePolicy = .failOpen ∧
        ∀ subscription ∈ call.rest, subscription.matchRule.matches envelope = false)

/-- The failures that the call brings about by itself. -/
inductive OwnFailure (envelope : EventEnvelope) (call : Call) : DispatchFailure → Prop where
  | crashed {failure} (crash : call.answer envelope = .error failure)
      (policy : call.extension.failurePolicy = .failClosed) : OwnFailure envelope call failure
  | unfit {action failure} (answer : call.answer envelope = .ok action)
      (unfit : validateAction envelope action = .error failure)
      (policy : call.extension.failurePolicy = .failClosed) : OwnFailure envelope call failure
  | unpatched {action failure} (answer : call.answer envelope = .ok action)
      (fits : validateAction envelope action = .ok ())
      (unpatched : history.modifiedPayload call.payload action = .error failure) :
      OwnFailure envelope call failure
  /-- The plugin that was to be called next is gone. -/
  | missing {subscription} (member : subscription ∈ call.rest)
      (matched : subscription.matchRule.matches envelope = true) :
      OwnFailure envelope call .instanceNotFound

/-- If the generation has expired when the last call returns, the dispatch reports that rather
than a result, or the failure that the call brings about by itself. -/
def RefusesExpired (moment : Nat) (envelope : EventEnvelope) : Prop :=
  ∀ call, history.lastInvocation moment envelope = some call → history.Expired envelope call →
    ∃ failure, history.dispatch moment envelope = .error failure ∧
      (failure = .generationExpired ∨ history.OwnFailure envelope call failure)

variable {history} {envelope : EventEnvelope}

variable {dispatch : DispatchResult} {moment : Nat}

/-- How the turn of a call ends whose generation has expired. -/
theorem dispatchTurn_of_expired {subscription : CompiledSubscription}
    {rest : List CompiledSubscription} {extension : ExtensionInstance} {call : Call}
    (isCall : call = ⟨moment, subscription, extension, dispatch.finalPayload, rest⟩)
    (found : (history.kernel moment).instances.get? subscription.pluginId = some extension)
    (expired : history.Expired envelope call) :
    (∃ action failure next, call.answer envelope = .ok action ∧
      validateAction envelope action = .error failure ∧ extension.failurePolicy = .failOpen ∧
      history.dispatchTurn moment subscription envelope dispatch = .next next) ∨
    (∃ action final, call.answer envelope = .ok action ∧
      validateAction envelope action = .ok () ∧ terminalAction action.action = true ∧
      history.dispatchTurn moment subscription envelope dispatch = .stop final) ∨
    (∃ failure, history.dispatchTurn moment subscription envelope dispatch = .failed failure ∧
      (failure = .generationExpired ∨ history.OwnFailure envelope call failure) ∧
      ¬call.Unchecked envelope) := by
  subst isCall
  unfold Expired at expired
  cases answer : invoke extension (moment + 1)
      (invocation subscription envelope extension dispatch.finalPayload) with
  | error failure =>
    refine .inr (.inr ?_)
    have checked : ¬Call.Unchecked
        ⟨moment, subscription, extension, dispatch.finalPayload, rest⟩ envelope := by
      rintro ⟨action, answered, -⟩
      rw [Call.answer, answer] at answered
      cases answered
    cases policy : extension.failurePolicy with
    | failClosed =>
      refine ⟨failure, ?_, .inr (.crashed answer policy), checked⟩
      simp [dispatchTurn, found, answer, failCall, applyFailurePolicy, policy]
    | failOpen =>
      refine ⟨.generationExpired, ?_, .inl rfl, checked⟩
      simp [dispatchTurn, found, answer, failCall, applyFailurePolicy, policy, concludeTurn, expired]
  | ok action =>
    cases fits : validateAction envelope action with
    | error failure =>
      cases policy : extension.failurePolicy with
      | failOpen =>
        obtain ⟨next, turn⟩ : ∃ next,
            history.dispatchTurn moment subscription envelope dispatch = .next next := by
          simp only [dispatchTurn, found, answer, fits, refuseAction, applyFailurePolicy, policy]
          exact ⟨_, rfl⟩
        exact .inl ⟨action, failure, next, answer, fits, rfl, turn⟩
      | failClosed =>
        refine .inr (.inr ⟨failure, ?_, .inr (.unfit answer fits policy), ?_⟩)
        · simp [dispatchTurn, found, answer, fits, refuseAction, applyFailurePolicy, policy]
        rintro ⟨other, answered, ⟨_, -⟩ | ⟨-, isOpen, -⟩⟩
        · rw [Call.answer] at answered
          simp_all
        · rw [policy] at isOpen
          cases isOpen
    | ok =>
      cases applied : history.modifiedPayload dispatch.finalPayload action with
      | error failure =>
        refine .inr (.inr ⟨failure, ?_, .inr (.unpatched answer fits applied), ?_⟩)
        · simp [dispatchTurn, found, answer, fits, acceptAction, applyAction_eq_error applied]
        rintro ⟨other, answered, ⟨-, terminal⟩ | ⟨⟨_, unfit⟩, -⟩⟩ <;>
          rw [Call.answer, answer] at answered <;> cases answered
        · rw [modify_of_modifiedPayload_eq_error applied] at terminal
          cases terminal
        · rw [fits] at unfit
          cases unfit
      | ok =>
        cases terminal : terminalAction action.action with
        | true =>
          obtain ⟨final, turn⟩ : ∃ final,
              history.dispatchTurn moment subscription envelope dispatch = .stop final := by
            simp only [dispatchTurn, found, answer, fits, acceptAction,
              applyAction_eq_ok applied, terminal]
            exact ⟨_, rfl⟩
          exact .inr (.inl ⟨action, final, answer, fits, terminal, turn⟩)
        | false =>
          refine .inr (.inr ⟨.generationExpired, ?_, .inl rfl, ?_⟩)
          · simp [dispatchTurn, found, answer, fits, acceptAction, applyAction_eq_ok applied, terminal, concludeTurn, expired]
          rintro ⟨other, answered, ⟨-, _⟩ | ⟨⟨failure, unfit⟩, -⟩⟩ <;>
            rw [Call.answer, answer] at answered <;> cases answered
          · simp_all
          · rw [fits] at unfit
            cases unfit

theorem dispatchLoop_of_uncalled
    (uncalled : history.calls envelope moment subscriptions dispatch = []) :
    (∀ subscription ∈ subscriptions, subscription.matchRule.matches envelope = false) ∧
        history.dispatchLoop envelope moment subscriptions dispatch = .ok dispatch ∨
      (∃ subscription ∈ subscriptions, subscription.matchRule.matches envelope = true) ∧
        history.dispatchLoop envelope moment subscriptions dispatch = .error .instanceNotFound := by
  induction subscriptions with
  | nil => exact .inl ⟨nofun, rfl⟩
  | cons subscription _ ih =>
    cases matched : subscription.matchRule.matches envelope with
    | false =>
      simp only [calls, matched] at uncalled
      rcases ih uncalled with ⟨unmatched, left⟩ | ⟨⟨other, member, _⟩, left⟩
      · refine .inl ⟨?_, by simpa only [dispatchLoop, matched]⟩
        intro other member
        rcases List.mem_cons.mp member with rfl | later
        · exact matched
        · exact unmatched other later
      grind [dispatchLoop]
    | true =>
      grind [dispatchLoop, dispatchTurn, calls]

theorem dispatchLoop_of_expired {call : Call}
    (last : (history.calls envelope moment subscriptions dispatch).getLast? = some call)
    (expired : history.Expired envelope call) :
    call.Unchecked envelope ∧
        (∃ result, history.dispatchLoop envelope moment subscriptions dispatch = .ok result) ∨
      ¬call.Unchecked envelope ∧
        ∃ failure, history.dispatchLoop envelope moment subscriptions dispatch = .error failure ∧
          (failure = .generationExpired ∨ history.OwnFailure envelope call failure) := by
  induction subscriptions generalizing moment dispatch with
  | nil => cases last
  | cons subscription rest ih =>
    cases matched : subscription.matchRule.matches envelope with
    | false =>
      grind [calls, dispatchLoop]
    | true =>
      cases found : (history.kernel moment).instances.get? subscription.pluginId with
      | none =>
        grind [calls]
      | some extension =>
        simp only [calls, matched, if_true, found, List.getLast?_cons] at last
        simp only [dispatchLoop, matched]
        -- The last call is either behind this turn or the call of this turn.
        by_cases later : ∃ next, history.dispatchTurn moment subscription envelope dispatch =
            .next next ∧ (history.calls envelope (moment + 3) rest next).getLast? = some call
        · obtain ⟨next, turn, lastLater⟩ := later
          simp only [turn]
          exact ih lastLater
        have isCall : call = ⟨moment, subscription, extension, dispatch.finalPayload, rest⟩ := by
          grind
        rcases dispatchTurn_of_expired isCall found expired with
          ⟨action, failure, next, answer, unfit, policy, turn⟩ |
          ⟨action, final, answer, fits, terminal, turn⟩ | ⟨failure, turn, _, _⟩
        · have uncalled : history.calls envelope (moment + 3) rest next = [] := by
            cases behind : (history.calls envelope (moment + 3) rest next).getLast? with
            | none => exact List.getLast?_eq_none_iff.mp behind
            | some other =>
              simp_all
          have sameRest : call.rest = rest := by rw [isCall]
          simp only [turn]
          rcases dispatchLoop_of_uncalled uncalled with
            ⟨unmatched, left⟩ | ⟨⟨other, _, hit⟩, left⟩
          · refine .inl ⟨⟨action, answer, .inr ⟨⟨failure, unfit⟩, ?_, ?_⟩⟩, next, left⟩
            · rw [isCall]
              exact policy
            · rw [sameRest]
              exact unmatched
          · refine .inr ⟨?_, .instanceNotFound, left, .inr (.missing (by rwa [sameRest]) hit)⟩
            rintro ⟨_, _, ⟨fits, -⟩ | ⟨-, -, unmatched⟩⟩
            · simp_all
            simp_all
        · simp only [turn]
          exact .inl ⟨⟨action, answer, .inl ⟨fits, terminal⟩⟩, final, rfl⟩
        simp_all

/-- A dispatch refuses an expired generation exactly if its last call, should it return to one,
is answered neither with a terminal action nor, as the last subscription that the event meets,
with an action that an open policy ignores. -/
theorem refusesExpired_iff (history : KernelHistory) (moment : Nat) (envelope : EventEnvelope) :
    history.RefusesExpired moment envelope ↔
      ∀ call, history.lastInvocation moment envelope = some call →
        history.Expired envelope call → ¬call.Unchecked envelope := by
  refine forall_congr' fun call => forall_congr' fun last => forall_congr' fun expired => ?_
  cases current : validateEnvelopeGeneration (history.kernel moment) envelope with
  | error =>
    simp only [lastInvocation, invocations, current] at last
    cases last
  | ok =>
    simp only [lastInvocation, invocations, current] at last
    cases plan : (history.kernel (moment + 1)).plans envelope.stage with
    | none =>
      rw [plan] at last
      cases last
    | some =>
      rw [plan] at last
      rw [dispatch_of_plan current plan]
      rcases dispatchLoop_of_expired last expired with
        ⟨_, _, _⟩ | ⟨checked, refused⟩
      · simp_all
      · exact ⟨fun _ => checked, fun _ => refused⟩

/-! ### A terminal action that outlives its generation -/

/-- A kernel of some service generation with one Mod, which closes every TCP connection. -/
def closingKernel (serviceGeneration : UInt64) : ExtensionKernel where
  instances := (∅ : Table String ExtensionInstance).insert "guard"
    { id := "guard"
      version := "1.0.0"
      failurePolicy := .failClosed
      instanceGeneration := 1
      runtime := fun _ call => .ok
        { eventId := call.envelope.eventId
          action := .close
          patch := []
          annotations := []
          output := none } }
  plans := fun stage =>
    if stage = .tcpChunk then
      some [{ pluginId := "guard", moduleId := "main", moduleKind := .trafficHandler,
              matchRule := {} }]
    else none
  serviceGeneration := serviceGeneration
  recordingGeneration := 1

/-- The service is restarted while the Mod is running. -/
def restartedService : KernelHistory where
  kernel := fun moment => closingKernel (if moment ≤ 3 then 1 else 2)
  elapsedMicroseconds := fun _ => 0
  payloadSize := fun _ => 0
  actionSize := fun _ => 0
  applyPatch := fun _ _ => none

/-- A block of a TCP stream that was read under the first generation. -/
def firstBlock : EventEnvelope where
  apiVersion := "2"
  eventId := "event-1"
  stage := .tcpChunk
  serviceGeneration := 1
  recordingGeneration := 1
  pluginInstanceId := ""
  connectionId := some "7"
  transactionId := none
  deadlineUnixMs := 0
  context := {}
  payload := .null

/-- The old generation's `Close` is returned under the new one. -/
theorem not_refusesExpired_terminal :
    (∃ result, restartedService.dispatch 0 firstBlock = .ok result ∧
      result.terminalAction = some .close) ∧
    ¬restartedService.RefusesExpired 0 firstBlock := by
  have closed : ∃ result, restartedService.dispatch 0 firstBlock = .ok result ∧
      result.terminalAction = some .close := ⟨_, rfl, rfl⟩
  refine ⟨closed, fun refuses => ?_⟩
  obtain ⟨result, returned, -⟩ := closed
  obtain ⟨_, failed, -⟩ := refuses _ rfl rfl
  cases failed

end KernelHistory

end SprakCapture.Plugins
