import SprakCapture.Data.Table
import SprakCapture.Plugins.ExtensionModel

/-!
# The dispatch of an event to its Mods

`dispatch` hands an event to the subscribed Mods one after the other. It takes no lock while
a Mod runs: the published kernel may be replaced and its generations may move between any
two of its accesses. A `KernelHistory` gives the kernel that each access meets, and the
accesses of one dispatch are numbered in the order in which it makes them.

`Answers` states the rules of a chain without the bookkeeping of the loop: which actions the
Mods answer with and how the chain ends. `Answers.yields` connects the loop to these rules.
-/

namespace SprakCapture.Plugins

open Data

/-- A call of a module by the kernel. -/
structure RuntimeInvocation where
  pluginId : String
  moduleId : String
  moduleKind : ModuleKind
  envelope : EventEnvelope

/-- The audit record of one call. -/
structure InvocationTrace where
  pluginId : String
  moduleId : String
  eventId : String
  stage : Stage
  action : Option ActionKind
  elapsedMicroseconds : UInt64
  inputBytes : Nat
  outputBytes : Nat
  errorCode : Option String

structure DispatchResult where
  finalPayload : JsonValue
  appliedActions : List ExtensionAction
  annotations : List JsonValue
  terminalAction : Option ActionKind
  traces : List InvocationTrace

inductive DispatchFailure where
  | instanceNotFound
  | configurationInvalid
  | runtimeFailed
  | invalidAction
  | generationExpired
  | patchFailed
deriving DecidableEq

/-- The stable code of a failure. -/
def DispatchFailure.code : DispatchFailure → String
  | instanceNotFound => "extensionInstanceNotFound"
  | configurationInvalid => "extensionConfigurationInvalid"
  | runtimeFailed => "extensionRuntimeFailed"
  | invalidAction => "extensionInvalidAction"
  | generationExpired => "extensionGenerationExpired"
  | patchFailed => "extensionPatchFailed"

structure CompiledSubscription where
  pluginId : String
  moduleId : String
  moduleKind : ModuleKind
  matchRule : CompiledMatch

/-- A published plugin. A runtime answers by the call and by the moment of the call, which
stands for all that it keeps to itself. -/
structure ExtensionInstance where
  id : String
  version : String
  failurePolicy : FailurePolicy
  instanceGeneration : UInt64
  runtime : Nat → RuntimeInvocation → Except String ExtensionAction

structure ExtensionKernel where
  instances : Table String ExtensionInstance
  plans : Stage → Option (List CompiledSubscription)
  serviceGeneration : UInt64
  recordingGeneration : UInt64

/-- What a dispatch meets: the kernel at each of its accesses, the clock and the serialiser of
its audit records, and the application of a JSON patch, which gives nothing for a patch that
does not parse or does not apply. -/
structure KernelHistory where
  kernel : Nat → ExtensionKernel
  elapsedMicroseconds : Nat → UInt64
  payloadSize : JsonValue → Nat
  actionSize : ExtensionAction → Nat
  applyPatch : List JsonValue → JsonValue → Option JsonValue

/-- The action belongs to the event, to its stage and to its interception mode. -/
def validateAction (envelope : EventEnvelope) (action : ExtensionAction) :
    Except DispatchFailure Unit :=
  if action.eventId ≠ envelope.eventId ∨ action.action ∉ availableActions envelope.stage then
    .error .invalidAction
  else if envelope.context.interceptionMode = .observeOnly ∧
      action.action ≠ .pass ∧ action.action ≠ .annotate then
    .error .invalidAction
  else .ok ()

/-- The stages whose results the recording generation protects. -/
def recordingStage : Stage → Bool
  | .beforeRecord | .transactionUpdated | .transactionCompleted | .recordingCleared
  | .inspectorDataRequested => true
  | _ => false

def validateEnvelopeGeneration (kernel : ExtensionKernel) (envelope : EventEnvelope) :
    Except DispatchFailure Unit :=
  if kernel.serviceGeneration = envelope.serviceGeneration ∧
      (recordingStage envelope.stage = false ∨
        kernel.recordingGeneration = envelope.recordingGeneration) then
    .ok ()
  else .error .generationExpired

def applyFailurePolicy (extension : ExtensionInstance) (failure : DispatchFailure) :
    Except DispatchFailure Unit :=
  match extension.failurePolicy with
  | .failOpen => .ok ()
  | .failClosed => .error failure

/-- The actions that end a chain. -/
def terminalAction : ActionKind → Bool
  | .reject | .respond | .redirect | .close => true
  | _ => false

def emptyDispatch (payload : JsonValue) : DispatchResult where
  finalPayload := payload
  appliedActions := []
  annotations := []
  terminalAction := none
  traces := []

def successTrace (subscription : CompiledSubscription) (envelope : EventEnvelope)
    (elapsedMicroseconds : UInt64) (inputBytes outputBytes : Nat) (action : ActionKind) :
    InvocationTrace where
  pluginId := subscription.pluginId
  moduleId := subscription.moduleId
  eventId := envelope.eventId
  stage := envelope.stage
  action := some action
  elapsedMicroseconds := elapsedMicroseconds
  inputBytes := inputBytes
  outputBytes := outputBytes
  errorCode := none

def failureTrace (subscription : CompiledSubscription) (envelope : EventEnvelope)
    (elapsedMicroseconds : UInt64) (inputBytes outputBytes : Nat) (failure : DispatchFailure) :
    InvocationTrace where
  pluginId := subscription.pluginId
  moduleId := subscription.moduleId
  eventId := envelope.eventId
  stage := envelope.stage
  action := none
  elapsedMicroseconds := elapsedMicroseconds
  inputBytes := inputBytes
  outputBytes := outputBytes
  errorCode := some failure.code

/-- How the turn of one subscription leaves the loop. -/
inductive Turn where
  /-- The loop goes on with the next subscription. -/
  | next (dispatch : DispatchResult)
  /-- The loop breaks. -/
  | stop (dispatch : DispatchResult)
  /-- The dispatch fails. -/
  | failed (failure : DispatchFailure)

variable {subscription : CompiledSubscription} {rest : List CompiledSubscription}
  {extension : ExtensionInstance} {before : DispatchResult} {kind : ActionKind}

namespace KernelHistory

variable (history : KernelHistory)

/-- The payload that an action leaves: only a modification changes it. -/
def modifiedPayload (payload : JsonValue) (action : ExtensionAction) :
    Except DispatchFailure JsonValue :=
  if action.action ≠ .modify then .ok payload
  else if action.patch.isEmpty then .ok (action.output.getD payload)
  else
    match history.applyPatch action.patch (action.output.getD payload) with
    | some patched => .ok patched
    | none => .error .patchFailed

def applyAction (dispatch : DispatchResult) (action : ExtensionAction) :
    Except DispatchFailure DispatchResult := do
  let payload ← history.modifiedPayload dispatch.finalPayload action
  pure { dispatch with
    annotations := dispatch.annotations ++ action.annotations
    finalPayload := payload }

/-- The event as a Mod receives it. -/
def delivered (envelope : EventEnvelope) (extension : ExtensionInstance) (payload : JsonValue) :
    EventEnvelope :=
  { envelope with
    pluginInstanceId := extension.id ++ "@" ++ extension.version ++ "#" ++
      toString extension.instanceGeneration
    payload := payload }

/-- The call that a subscription makes. -/
def invocation (subscription : CompiledSubscription) (envelope : EventEnvelope)
    (extension : ExtensionInstance) (payload : JsonValue) : RuntimeInvocation where
  pluginId := subscription.pluginId
  moduleId := subscription.moduleId
  moduleKind := subscription.moduleKind
  envelope := delivered envelope extension payload

/-- The runtime of a plugin, whose own error texts do not leave the kernel. -/
def invoke (extension : ExtensionInstance) (moment : Nat) (call : RuntimeInvocation) :
    Except DispatchFailure ExtensionAction :=
  match extension.runtime moment call with
  | .ok action => .ok action
  | .error _ => .error .runtimeFailed

/-- The check at the end of a turn. -/
def concludeTurn (moment : Nat) (envelope : EventEnvelope) (dispatch : DispatchResult) : Turn :=
  match validateEnvelopeGeneration (history.kernel moment) envelope with
  | .ok () => .next dispatch
  | .error failure => .failed failure

/-- An action that does not fit its event. With an open policy the loop continues at once,
without the check at the end of a turn. -/
def refuseAction (moment : Nat) (subscription : CompiledSubscription) (envelope : EventEnvelope)
    (extension : ExtensionInstance) (dispatch : DispatchResult) (action : ExtensionAction)
    (failure : DispatchFailure) : Turn :=
  let trace := failureTrace subscription envelope (history.elapsedMicroseconds moment)
    (history.payloadSize dispatch.finalPayload) (history.actionSize action) failure
  match applyFailurePolicy extension failure with
  | .ok () => .next { dispatch with traces := dispatch.traces ++ [trace] }
  | .error failure => .failed failure

/-- An action that fits its event. -/
def acceptAction (moment : Nat) (subscription : CompiledSubscription) (envelope : EventEnvelope)
    (dispatch : DispatchResult) (action : ExtensionAction) : Turn :=
  match history.applyAction dispatch action with
  | .error failure => .failed failure
  | .ok applied =>
    let trace := successTrace subscription envelope (history.elapsedMicroseconds moment)
      (history.payloadSize dispatch.finalPayload) (history.actionSize action) action.action
    let recorded := { applied with
      traces := applied.traces ++ [trace]
      appliedActions := applied.appliedActions ++ [action] }
    if terminalAction action.action then
      .stop { recorded with terminalAction := some action.action }
    else history.concludeTurn (moment + 2) envelope recorded

/-- A call that failed in the runtime. -/
def failCall (moment : Nat) (subscription : CompiledSubscription) (envelope : EventEnvelope)
    (extension : ExtensionInstance) (dispatch : DispatchResult) (failure : DispatchFailure) :
    Turn :=
  let trace := failureTrace subscription envelope (history.elapsedMicroseconds moment)
    (history.payloadSize dispatch.finalPayload) 0 failure
  match applyFailurePolicy extension failure with
  | .ok () =>
    history.concludeTurn (moment + 2) envelope
      { dispatch with traces := dispatch.traces ++ [trace] }
  | .error failure => .failed failure

/-- The turn of a subscription that the event meets. It looks its plugin up, calls it and
checks the generation, each at a moment of its own. -/
def dispatchTurn (moment : Nat) (subscription : CompiledSubscription) (envelope : EventEnvelope)
    (dispatch : DispatchResult) : Turn :=
  match (history.kernel moment).instances.get? subscription.pluginId with
  | none => .failed .instanceNotFound
  | some extension =>
    match invoke extension (moment + 1)
        (invocation subscription envelope extension dispatch.finalPayload) with
    | .error failure => history.failCall moment subscription envelope extension dispatch failure
    | .ok action =>
      match validateAction envelope action with
      | .error failure =>
        history.refuseAction moment subscription envelope extension dispatch action failure
      | .ok () => history.acceptAction moment subscription envelope dispatch action

/-- The loop over the subscriptions of a plan. -/
def dispatchLoop (envelope : EventEnvelope) :
    Nat → List CompiledSubscription → DispatchResult → Except DispatchFailure DispatchResult
  | _, [], dispatch => .ok dispatch
  | moment, subscription :: rest, dispatch =>
    if subscription.matchRule.matches envelope then
      match history.dispatchTurn moment subscription envelope dispatch with
      | .next dispatch => dispatchLoop envelope (moment + 3) rest dispatch
      | .stop dispatch => .ok dispatch
      | .failed failure => .error failure
    else dispatchLoop envelope moment rest dispatch

/-- The dispatch of an event that starts at a moment. -/
def dispatch (moment : Nat) (envelope : EventEnvelope) : Except DispatchFailure DispatchResult :=
  match validateEnvelopeGeneration (history.kernel moment) envelope with
  | .error failure => .error failure
  | .ok () =>
    match (history.kernel (moment + 1)).plans envelope.stage with
    | none => .ok (emptyDispatch envelope.payload)
    | some subscriptions =>
      history.dispatchLoop envelope (moment + 2) subscriptions (emptyDispatch envelope.payload)

/-! ### The rules of a chain -/

/-- How a chain of Mods ends. -/
inductive ChainEnd where
  /-- Every Mod has been asked; the chain leaves this payload. -/
  | finished (payload : JsonValue)
  /-- A Mod ended the chain. -/
  | ended (kind : ActionKind)
  /-- The dispatch failed. -/
  | failed

/-- The Mods of a plan, asked in turn about an event from a moment on, answer with the given
accepted actions, and the chain ends in the given way. -/
inductive Answers (envelope : EventEnvelope) :
    Nat → List CompiledSubscription → JsonValue → List ActionKind → ChainEnd → Prop where
  | done {moment payload} : Answers envelope moment [] payload [] (.finished payload)
  | unmatched {moment subscription rest payload kinds ending}
      (unmatched : subscription.matchRule.matches envelope = false)
      (later : Answers envelope moment rest payload kinds ending) :
      Answers envelope moment (subscription :: rest) payload kinds ending
  | missing {moment subscription rest payload}
      (matched : subscription.matchRule.matches envelope = true)
      (missing : (history.kernel moment).instances.get? subscription.pluginId = none) :
      Answers envelope moment (subscription :: rest) payload [] .failed
  /-- An open policy passes over a Mod whose action does not fit. -/
  | refused {moment subscription rest payload extension action failure kinds ending}
      (matched : subscription.matchRule.matches envelope = true)
      (found : (history.kernel moment).instances.get? subscription.pluginId = some extension)
      (answer : invoke extension (moment + 1)
        (invocation subscription envelope extension payload) = .ok action)
      (unfit : validateAction envelope action = .error failure)
      (policy : extension.failurePolicy = .failOpen)
      (later : Answers envelope (moment + 3) rest payload kinds ending) :
      Answers envelope moment (subscription :: rest) payload kinds ending
  /-- An open policy passes over a Mod that fails, while the generation is current. -/
  | excused {moment subscription rest payload extension failure kinds ending}
      (matched : subscription.matchRule.matches envelope = true)
      (found : (history.kernel moment).instances.get? subscription.pluginId = some extension)
      (crash : invoke extension (moment + 1)
        (invocation subscription envelope extension payload) = .error failure)
      (policy : extension.failurePolicy = .failOpen)
      (current : validateEnvelopeGeneration (history.kernel (moment + 2)) envelope = .ok ())
      (later : Answers envelope (moment + 3) rest payload kinds ending) :
      Answers envelope moment (subscription :: rest) payload kinds ending
  | lapsed {moment subscription rest payload extension failure expiry}
      (matched : subscription.matchRule.matches envelope = true)
      (found : (history.kernel moment).instances.get? subscription.pluginId = some extension)
      (crash : invoke extension (moment + 1)
        (invocation subscription envelope extension payload) = .error failure)
      (policy : extension.failurePolicy = .failOpen)
      (expired : validateEnvelopeGeneration (history.kernel (moment + 2)) envelope =
        .error expiry) :
      Answers envelope moment (subscription :: rest) payload [] .failed
  /-- A closed policy ends the dispatch. -/
  | broken {moment subscription rest payload extension}
      (matched : subscription.matchRule.matches envelope = true)
      (found : (history.kernel moment).instances.get? subscription.pluginId = some extension)
      (unfit : ∀ action, invoke extension (moment + 1)
        (invocation subscription envelope extension payload) = .ok action →
          ∃ failure, validateAction envelope action = .error failure)
      (policy : extension.failurePolicy = .failClosed) :
      Answers envelope moment (subscription :: rest) payload [] .failed
  | unpatched {moment subscription rest payload extension action failure}
      (matched : subscription.matchRule.matches envelope = true)
      (found : (history.kernel moment).instances.get? subscription.pluginId = some extension)
      (answer : invoke extension (moment + 1)
        (invocation subscription envelope extension payload) = .ok action)
      (fits : validateAction envelope action = .ok ())
      (unpatched : history.modifiedPayload payload action = .error failure) :
      Answers envelope moment (subscription :: rest) payload [action.action] .failed
  | ended {moment subscription rest payload extension action modified}
      (matched : subscription.matchRule.matches envelope = true)
      (found : (history.kernel moment).instances.get? subscription.pluginId = some extension)
      (answer : invoke extension (moment + 1)
        (invocation subscription envelope extension payload) = .ok action)
      (fits : validateAction envelope action = .ok ())
      (applied : history.modifiedPayload payload action = .ok modified)
      (terminal : terminalAction action.action = true) :
      Answers envelope moment (subscription :: rest) payload [action.action]
        (.ended action.action)
  | expired {moment subscription rest payload extension action modified failure}
      (matched : subscription.matchRule.matches envelope = true)
      (found : (history.kernel moment).instances.get? subscription.pluginId = some extension)
      (answer : invoke extension (moment + 1)
        (invocation subscription envelope extension payload) = .ok action)
      (fits : validateAction envelope action = .ok ())
      (applied : history.modifiedPayload payload action = .ok modified)
      (running : terminalAction action.action = false)
      (expired : validateEnvelopeGeneration (history.kernel (moment + 2)) envelope =
        .error failure) :
      Answers envelope moment (subscription :: rest) payload [action.action] .failed
  | answered {moment subscription rest payload extension action modified kinds ending}
      (matched : subscription.matchRule.matches envelope = true)
      (found : (history.kernel moment).instances.get? subscription.pluginId = some extension)
      (answer : invoke extension (moment + 1)
        (invocation subscription envelope extension payload) = .ok action)
      (fits : validateAction envelope action = .ok ())
      (applied : history.modifiedPayload payload action = .ok modified)
      (running : terminalAction action.action = false)
      (current : validateEnvelopeGeneration (history.kernel (moment + 2)) envelope = .ok ())
      (later : Answers envelope (moment + 3) rest modified kinds ending) :
      Answers envelope moment (subscription :: rest) payload (action.action :: kinds) ending

variable {history}

/-- How the loop ends, by how the chain ends. -/
def ChainEnd.Yields (before : DispatchResult) :
    ChainEnd → Except DispatchFailure DispatchResult → Prop
  | finished payload, result =>
    ∃ dispatch, result = .ok dispatch ∧ dispatch.finalPayload = payload ∧
      dispatch.terminalAction = before.terminalAction
  | ended kind, result => ∃ dispatch, result = .ok dispatch ∧ dispatch.terminalAction = some kind
  | failed, result => ∃ failure, result = .error failure

variable {ending : ChainEnd}

theorem ChainEnd.Yields.congr {before after : DispatchResult}
    {result : Except DispatchFailure DispatchResult} (yields : ending.Yields before result)
    (same : before.terminalAction = after.terminalAction) : ending.Yields after result := by
  cases ending with
  | finished => simpa only [Yields, same] using yields
  | ended | failed => exact yields

variable {action : ExtensionAction}

theorem applyAction_eq_ok {modified : JsonValue}
    (applied : history.modifiedPayload before.finalPayload action = .ok modified) :
    history.applyAction before action = .ok { before with
      annotations := before.annotations ++ action.annotations
      finalPayload := modified } := by
  unfold applyAction
  rw [applied]
  rfl

variable {failure : DispatchFailure}

theorem applyAction_eq_error
    (unpatched : history.modifiedPayload before.finalPayload action = .error failure) :
    history.applyAction before action = .error failure := by
  unfold applyAction
  rw [unpatched]
  rfl

variable {envelope : EventEnvelope} {subscriptions : List CompiledSubscription}
  {payload : JsonValue} {moment : Nat} {kinds : List ActionKind}

/-- The loop ends as the rules of the chain say. -/
theorem Answers.yields
    (answers : history.Answers envelope moment subscriptions payload kinds ending) :
    ∀ before : DispatchResult, before.finalPayload = payload →
      ending.Yields before (history.dispatchLoop envelope moment subscriptions before) := by
  induction answers with
  | done =>
    rintro before rfl
    exact ⟨before, rfl, rfl, rfl⟩
  | unmatched unmatched later ih =>
    grind [dispatchLoop]
  | missing matched missing =>
    intro before same
    exact ⟨.instanceNotFound, by simp only [dispatchLoop, matched, if_true, dispatchTurn, missing]⟩
  | refused matched found answer unfit policy later ih =>
    rintro before rfl
    simp only [dispatchLoop, matched, dispatchTurn, found, answer, unfit, refuseAction,
      applyFailurePolicy, policy]
    refine (ih _ ?_).congr ?_ <;> rfl
  | excused matched found crash policy current later ih =>
    rintro before rfl
    simp only [dispatchLoop, matched, dispatchTurn, found, crash, failCall,
      applyFailurePolicy, policy, concludeTurn, current]
    refine (ih _ ?_).congr ?_ <;> rfl
  | @lapsed _ _ _ _ _ _ expiry matched found crash policy expired =>
    rintro before rfl
    refine ⟨expiry, ?_⟩
    grind [dispatchLoop, dispatchTurn, failCall, applyFailurePolicy, concludeTurn]
  | @broken moment subscription _ payload extension matched found unfit policy =>
    rintro before rfl
    cases called : invoke extension (moment + 1)
        (invocation subscription envelope extension before.finalPayload) with
    | error failure =>
      refine ⟨failure, ?_⟩
      grind [dispatchLoop, dispatchTurn, failCall, applyFailurePolicy]
    | ok action =>
      obtain ⟨failure, _⟩ := unfit action called
      refine ⟨failure, ?_⟩
      grind [dispatchLoop, dispatchTurn, refuseAction, applyFailurePolicy]
  | @unpatched _ _ _ _ _ _ failure matched found answer fits unpatched =>
    rintro before rfl
    refine ⟨failure, ?_⟩
    simp only [dispatchLoop, matched, if_true, dispatchTurn, found, answer, fits, acceptAction,
      applyAction_eq_error unpatched]
  | ended matched found answer fits applied terminal =>
    rintro before rfl
    simp only [dispatchLoop, matched, dispatchTurn, found, answer, fits, acceptAction,
      applyAction_eq_ok applied, terminal]
    exact ⟨_, rfl, rfl⟩
  | @expired _ _ _ _ _ _ _ failure matched found answer fits applied running expired =>
    rintro before rfl
    refine ⟨failure, ?_⟩
    simp only [dispatchLoop, matched, if_true, dispatchTurn, found, answer, fits, acceptAction,
      applyAction_eq_ok applied, running, Bool.false_eq_true, if_false, concludeTurn, expired]
  | answered matched found answer fits applied running current later ih =>
    rintro before rfl
    simp only [dispatchLoop, matched, dispatchTurn, found, answer, fits, acceptAction,
      applyAction_eq_ok applied, running, concludeTurn, current]
    refine (ih _ ?_).congr ?_ <;> rfl

variable (matched : subscription.matchRule.matches envelope = true)
  (found : (history.kernel moment).instances.get? subscription.pluginId = some extension)
include matched found

/-- A failed call has an end, given one for the rest of the chain. -/
private theorem exists_answers_of_crash (crash : invoke extension (moment + 1)
      (invocation subscription envelope extension payload) = .error failure)
    (later : ∃ kinds ending, history.Answers envelope (moment + 3) rest payload kinds ending) :
    ∃ kinds ending, history.Answers envelope moment (subscription :: rest) payload kinds ending := by
  obtain ⟨kinds, ending, later⟩ := later
  cases policy : extension.failurePolicy with
  | failClosed =>
    refine ⟨[], .failed, .broken matched found (fun action answer => ?_) policy⟩
    rw [crash] at answer
    cases answer
  | failOpen =>
    cases current : validateEnvelopeGeneration (history.kernel (moment + 2)) envelope with
    | error => exact ⟨[], .failed, .lapsed matched found crash policy current⟩
    | ok => exact ⟨kinds, ending, .excused matched found crash policy current later⟩

/-- A call that was answered has an end, given one for the rest of the chain. -/
private theorem exists_answers_of_answer (answer : invoke extension (moment + 1)
      (invocation subscription envelope extension payload) = .ok action)
    (later : ∀ payload, ∃ kinds ending,
      history.Answers envelope (moment + 3) rest payload kinds ending) :
    ∃ kinds ending, history.Answers envelope moment (subscription :: rest) payload kinds ending := by
  cases fits : validateAction envelope action with
  | error failure =>
    cases policy : extension.failurePolicy with
    | failClosed =>
      refine ⟨[], .failed, .broken matched found (fun other otherAnswer => ?_) policy⟩
      simp_all
    | failOpen =>
      obtain ⟨kinds, ending, rest⟩ := later payload
      exact ⟨kinds, ending, .refused matched found answer fits policy rest⟩
  | ok =>
    cases applied : history.modifiedPayload payload action with
    | error failure => exact ⟨_, .failed, .unpatched matched found answer fits applied⟩
    | ok modified =>
      cases terminal : terminalAction action.action with
      | true => exact ⟨_, _, .ended matched found answer fits applied terminal⟩
      | false =>
        cases current : validateEnvelopeGeneration (history.kernel (moment + 2)) envelope with
        | error =>
          exact ⟨_, .failed, .expired matched found answer fits applied terminal current⟩
        | ok =>
          obtain ⟨kinds, ending, rest⟩ := later modified
          exact ⟨_, ending, .answered matched found answer fits applied terminal current rest⟩

omit matched found

/-- Every chain has answers and an end. -/
theorem exists_answers (envelope : EventEnvelope) (moment : Nat)
    (subscriptions : List CompiledSubscription) (payload : JsonValue) :
    ∃ kinds ending, history.Answers envelope moment subscriptions payload kinds ending := by
  induction subscriptions generalizing moment payload with
  | nil => exact ⟨[], _, .done⟩
  | cons subscription _ ih =>
    cases matched : subscription.matchRule.matches envelope with
    | false =>
      obtain ⟨kinds, ending, later⟩ := ih moment payload
      exact ⟨kinds, ending, .unmatched matched later⟩
    | true =>
      cases found : (history.kernel moment).instances.get? subscription.pluginId with
      | none => exact ⟨[], .failed, .missing matched found⟩
      | some extension =>
        cases answer : invoke extension (moment + 1)
            (invocation subscription envelope extension payload) with
        | error =>
          exact exists_answers_of_crash matched found answer
            (ih (moment + 3) payload)
        | ok =>
          exact exists_answers_of_answer matched found answer (ih (moment + 3))

theorem modify_of_modifiedPayload_eq_error
    (unpatched : history.modifiedPayload payload action = .error failure) :
    action.action = .modify := by
  grind [modifiedPayload]

theorem modifiedPayload_eq_ok {payload modified : JsonValue} (other : action.action ≠ .modify)
    (applied : history.modifiedPayload payload action = .ok modified) : modified = payload := by
  grind [modifiedPayload]

theorem mem_availableActions_of_validateAction (fits : validateAction envelope action = .ok ()) :
    action.action ∈ availableActions envelope.stage := by
  grind [validateAction]

section

variable (answers : history.Answers envelope moment subscriptions payload kinds ending)
include answers

theorem Answers.available :
    ∀ kind ∈ kinds, kind ∈ availableActions envelope.stage := by
  induction answers with
  | done | missing | lapsed | broken => simp
  | unmatched _ _ ih | refused _ _ _ _ _ _ ih | excused _ _ _ _ _ _ ih => exact ih
  | unpatched _ _ _ fits _ | ended _ _ _ fits _ _ | expired _ _ _ fits _ _ _ =>
    simpa using mem_availableActions_of_validateAction fits
  | answered _ _ _ fits _ _ _ _ ih =>
    intro kind member
    rcases List.mem_cons.mp member with rfl | later
    · exact mem_availableActions_of_validateAction fits
    · exact ih kind later

/-- A terminal answer ends the chain. -/
theorem Answers.ended_of_terminal (member : kind ∈ kinds) (terminal : terminalAction kind = true) :
    ending = .ended kind := by
  induction answers with
  | done | missing | lapsed | broken => simp at member
  | unmatched _ _ ih | refused _ _ _ _ _ _ ih | excused _ _ _ _ _ _ ih => exact ih member
  | unpatched _ _ _ _ unpatched =>
    rw [List.mem_singleton.mp member, modify_of_modifiedPayload_eq_error unpatched] at terminal
    cases terminal
  | ended _ _ _ _ _ _ => rw [List.mem_singleton.mp member]
  | expired _ _ _ _ _ running _ =>
    simp_all
  | answered _ _ _ _ _ running _ _ ih =>
    rcases List.mem_cons.mp member with rfl | later
    · rw [running] at terminal
      cases terminal
    · exact ih later

end

/-- A chain that was ended has its last answer to thank for it. -/
theorem Answers.mem_of_ended
    (answers : history.Answers envelope moment subscriptions payload kinds (.ended kind)) :
    kind ∈ kinds ∧ terminalAction kind = true := by
  generalize ended : ChainEnd.ended kind = ending at answers
  induction answers with
  | done | missing | lapsed | broken | unpatched | expired => cases ended
  | unmatched _ _ ih | refused _ _ _ _ _ _ ih | excused _ _ _ _ _ _ ih => exact ih ended
  | ended _ _ _ _ _ terminal =>
    simp_all
  | answered _ _ _ _ _ _ _ _ ih =>
    obtain ⟨member, terminal⟩ := ih ended
    exact ⟨List.mem_cons_of_mem _ member, terminal⟩

theorem Answers.payload_of_finished {payload final : JsonValue}
    (answers : history.Answers envelope moment subscriptions payload kinds (.finished final))
    (unmodified : ActionKind.modify ∉ kinds) : final = payload := by
  generalize finished : ChainEnd.finished final = ending at answers
  induction answers with
  | missing | lapsed | broken | unpatched | ended | expired => cases finished
  | done =>
    cases finished
    rfl
  | unmatched _ _ ih | refused _ _ _ _ _ _ ih | excused _ _ _ _ _ _ ih =>
    exact ih unmodified finished
  | answered _ _ _ _ _ _ _ _ ih =>
    grind [modifiedPayload_eq_ok]

section

variable (current : validateEnvelopeGeneration (history.kernel moment) envelope = .ok ())
include current

/-- A dispatch with a plan and a current generation is the loop over the plan. -/
theorem dispatch_of_plan
    (plan : (history.kernel (moment + 1)).plans envelope.stage = some subscriptions) :
    history.dispatch moment envelope = history.dispatchLoop envelope (moment + 2) subscriptions
      (emptyDispatch envelope.payload) := by
  simp only [dispatch, current, plan]

theorem dispatch_of_unplanned
    (unplanned : (history.kernel (moment + 1)).plans envelope.stage = none) :
    history.dispatch moment envelope = .ok (emptyDispatch envelope.payload) := by
  simp only [dispatch, current, unplanned]

end

theorem dispatch_of_expired
    (expired : validateEnvelopeGeneration (history.kernel moment) envelope = .error failure) :
    history.dispatch moment envelope = .error failure := by
  simp only [dispatch, expired]

end KernelHistory

end SprakCapture.Plugins
