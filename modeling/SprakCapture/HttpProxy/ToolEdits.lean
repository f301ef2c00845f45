import SprakCapture.HttpProxy.Exchanges
import SprakCapture.HttpProxy.Materialization

/-!
# Edits of tools under changing configurations

What the tools leave of a request is what goes upstream if the second check of its body agrees
with the first, and no message fails for a body that was not read if no hook runs while its tool
needs one.
-/

namespace SprakCapture.HttpProxy

open Data Location

section ToolEdits

variable {Fault Trailers : Type}

/-! ### What survives -/

/-- The request that went upstream has the body that the tools left, and its length. -/
def SendsEdits (draft : RequestDraft) (outgoing : UpstreamRequest Fault Trailers) : Prop :=
  ∃ bytes, draft.body = some bytes ∧ outgoing.body = .buffered bytes ∧
    outgoing.headers.getAll contentLengthName = [decimalText bytes.length]

/-- A failure of a hook, or of what a hook left. -/
def ExchangeFailure.OfHook : ExchangeFailure → Prop
  | .pipeline _ => True
  | .responseBodyPresent => True
  | _ => False

structure EditsSurvive (exchange : Exchange Fault Trailers) : Prop where
  sent : ∀ {draft outgoing}, exchange.sent = some (draft, outgoing) →
    exchange.materialized = true → SendsEdits draft outgoing
  /-- A request without its body fails only where a tool has taken the body away. -/
  missing : exchange.stage = .failed .requestBodyMissing → exchange.materialized = true
  /-- No hook fails that ran while its tool needed a body that was not read. -/
  demanded : ∀ {failure : ExchangeFailure}, exchange.stage = .failed failure → failure.OfHook →
    exchange.demanded = false

/-- The hook that is next, or that runs, is of a tool that needs a body that was not read. -/
def Exchange.hookDemands (exchange : Exchange Fault Trailers) : Bool :=
  match exchange.stage with
  | .requestTools _ source _ (id :: _) => source.isStreaming && needsRequestBody exchange.tools id
  | .responseTools _ (.streaming _ streamsEvents) (id :: _) begun =>
    (begun || !streamsEvents) && needsResponseBody exchange.tools id
  | _ => false

/-- The second check agrees with the first: a body that was read is still needed, and one that is
needed only now was left by the tools. The fields of the connection leave the length alone. -/
def Exchange.ChecksAgree (forwarding : ForwardingContext) (exchange : Exchange Fault Trailers) :
    Prop :=
  match exchange.stage with
  | .requestTools context _ outcome [] =>
    if exchange.materialized then
      outcome = .forward → ToolPipeline.requiresRequestBody exchange.tools = true ∧
        contentLengthName ∉ declaredNames forwarding.headerName context.request.headers
    else
      ToolPipeline.requiresRequestBody exchange.tools = true → context.request.body ≠ none
  | _ => True

/-- The checks agree, and no hook runs while its tool needs a body that was not read. -/
def Exchange.Meets (forwarding : ForwardingContext) (exchange : Exchange Fault Trailers) :
    ExchangeAction Fault Trailers → Prop
  | .settleRequest => exchange.ChecksAgree forwarding
  | .runRequestTool _ => exchange.hookDemands = false
  | .beginResponseTool => exchange.hookDemands = false
  | .finishResponseTool _ => exchange.hookDemands = false
  | _ => True

/-! ### Every step -/

/-- What holds in every state of a run that meets the condition. -/
structure Exchange.Consistent (exchange : Exchange Fault Trailers) : Prop where
  fresh : exchange.stage = .received → exchange.sent = none
  sent : ∀ {draft outgoing}, exchange.sent = some (draft, outgoing) →
    exchange.materialized = true → SendsEdits draft outgoing
  missing : exchange.stage = .failed .requestBodyMissing → exchange.materialized = true
  demanded : exchange.demanded = false

namespace Exchange.Consistent

variable {exchange : Exchange Fault Trailers} {forwarding : ForwardingContext}
  {stage : ExchangeStage Fault Trailers}

section

variable (consistent : exchange.Consistent)
include consistent

theorem editsSurvive : EditsSurvive exchange where
  sent := consistent.sent
  missing := consistent.missing
  demanded _ _ := consistent.demanded

omit consistent in
theorem initial (tools : ToolPipeline) :
    (⟨tools, .received, false, none, false⟩ : Exchange Fault Trailers).Consistent where
  fresh _ := rfl
  sent isSent := nomatch isSent
  missing isMissing := nomatch isMissing
  demanded := rfl

theorem withStage (notReceived : stage ≠ .received)
    (notMissing : stage ≠ .failed .requestBodyMissing) :
    ({ exchange with stage } : Exchange Fault Trailers).Consistent where
  fresh isReceived := absurd isReceived notReceived
  sent := consistent.sent
  missing isMissing := absurd isMissing notMissing
  demanded := consistent.demanded

theorem configure (tools : ToolPipeline) :
    ({ exchange with tools } : Exchange Fault Trailers).Consistent where
  fresh := consistent.fresh
  sent := consistent.sent
  missing := consistent.missing
  demanded := consistent.demanded

theorem receive (target : HttpTarget) (request : IncomingRequest Fault Trailers)
    (cancelledAfter : Option Nat) :
    (exchange.receive forwarding target request cancelledAfter).Consistent := by
  unfold Exchange.receive
  split
  · rename_i isReceived
    dsimp only
    split
    · exact consistent.withStage nofun nofun
    · refine ⟨nofun, fun {_ _} isSent => ?_, nofun, consistent.demanded⟩
      cases (consistent.fresh isReceived).symm.trans isSent
  · exact consistent

theorem startRequestTools : exchange.startRequestTools.Consistent := by
  unfold Exchange.startRequestTools
  split
  · exact consistent.withStage nofun nofun
  · exact consistent

/-- A hook that does not need an unread body changes the stage only. -/
theorem withHook {demands : Bool} (noDemand : demands = false) (notReceived : stage ≠ .received)
    (notMissing : stage ≠ .failed .requestBodyMissing) :
    ({ exchange with stage, demanded := exchange.demanded || demands } :
      Exchange Fault Trailers).Consistent where
  fresh isReceived := absurd isReceived notReceived
  sent := consistent.sent
  missing isMissing := absurd isMissing notMissing
  demanded := by rw [consistent.demanded, noDemand, Bool.or_false]

theorem runRequestTool (noDemand : exchange.hookDemands = false)
    (outcome : Except PipelineError (PipelineDirective × PipelineContext)) :
    (exchange.runRequestTool outcome).Consistent := by
  unfold Exchange.runRequestTool
  split
  · rename_i isTools
    rw [Exchange.hookDemands, isTools] at noDemand
    split
    · exact consistent.withHook noDemand nofun nofun
    · split <;> exact consistent.withHook noDemand nofun nofun
  · exact consistent

end

end Exchange.Consistent

theorem needsBody_eq_false_of_any {tools : ToolPipeline} {phase : ToolPhase}
    {selector : ToolRegistration → Bool} {id : ToolId}
    (needsNone : (tools.get? id).any (selector ·.registration) = false) :
    needsBody tools phase selector id = false := by
  unfold needsBody
  cases found : tools.get? id with
  | none => rfl
  | some =>
    simp_all

/-- The response phase ends an exchange. -/
theorem settleResponseOf_ends (forwarding : ForwardingContext) (context : PipelineContext)
    (mode : ResponseMode Fault Trailers) :
    (∃ response, settleResponseOf forwarding context mode = .delivered response) ∨
      ∃ failure, settleResponseOf forwarding context mode = .failed failure ∧
        failure ≠ .requestBodyMissing := by
  cases mode with
  | buffered | synthetic =>
    rw [settleResponseOf]
    split
    · exact .inl ⟨_, rfl⟩
    · exact .inr ⟨_, rfl, nofun⟩
  | streaming =>
    rw [settleResponseOf]
    split
    · exact .inl ⟨_, rfl⟩
    · split <;> exact .inr ⟨_, rfl, nofun⟩

/-- The draft that a second check leaves goes on with its own body, and with its length if the
fields of the connection leave that alone. -/
theorem upstreamRequest_sendsEdits {forwarding : ForwardingContext}
    {context settled : PipelineContext} {source left : RequestBodySource Fault Trailers}
    {outgoing : UpstreamRequest Fault Trailers}
    (isSettled : settleRequestBody true context source = .ok (settled, left))
    (isOutgoing : upstreamRequest forwarding settled left = .ok outgoing)
    (notDeclared : contentLengthName ∉ declaredNames forwarding.headerName
      context.request.headers) : SendsEdits context.request outgoing := by
  rw [settleRequestBody, if_pos rfl] at isSettled
  split at isSettled
  · cases isSettled
  rename_i bytes isBody
  cases isSettled
  refine ⟨bytes, isBody, ?_⟩
  unfold upstreamRequest at isOutgoing
  split at isOutgoing
  · cases isOutgoing
  split at isOutgoing
  · cases isOutgoing
  split at isOutgoing
  · cases isOutgoing
  cases isOutgoing
  refine ⟨rfl, ?_⟩
  have lengthStays : (removeHopByHopHeaders forwarding.headerName
      (synchronizeBodyLength context.request.headers bytes.length)).getAll
        contentLengthName = [decimalText bytes.length] := by
    rw [getAll_removeHopByHopHeaders, declaredNames_synchronizeBodyLength,
      if_neg (not_or.mpr ⟨by decide, notDeclared⟩), getAll_synchronizeBodyLength,
      if_pos rfl]
  split
  · exact lengthStays
  · rw [Fields.getAll_insert]
    exact lengthStays

namespace Exchange.Consistent

variable {exchange : Exchange Fault Trailers} {forwarding : ForwardingContext}

section

variable (consistent : exchange.Consistent)
include consistent

theorem settleRequest (agree : exchange.ChecksAgree forwarding) :
    (exchange.settleRequest forwarding).Consistent := by
  unfold Exchange.settleRequest
  split
  · rename_i context source outcome isTools
    rw [Exchange.ChecksAgree, isTools] at agree
    dsimp only at agree
    split
    · refine ⟨nofun, consistent.sent, fun _ => ?_, consistent.demanded⟩
      grind [settleRequestBody]
    split
    · split
      · exact consistent.withStage nofun nofun
      · refine ⟨nofun, fun {_ sent} isSent materialized => ?_, nofun, consistent.demanded⟩
        grind [upstreamRequest_sendsEdits]
    · exact consistent.withStage nofun nofun
  · exact consistent

theorem respond (result : Except ProxyFailure (UpstreamResponse Fault Trailers)) :
    (exchange.respond result).Consistent := by
  unfold Exchange.respond
  split
  · split <;> exact consistent.withStage nofun nofun
  · exact consistent

theorem checkResponse (cancelledAfter : Option Nat) :
    (exchange.checkResponse forwarding cancelledAfter).Consistent := by
  unfold Exchange.checkResponse
  split
  · split
    · exact consistent.withStage nofun nofun
    split
    · split <;> exact consistent.withStage nofun nofun
    · exact consistent.withStage nofun nofun
  · exact consistent

theorem startResponseTools : exchange.startResponseTools.Consistent := by
  unfold Exchange.startResponseTools
  split
  · exact consistent.withStage nofun nofun
  · exact consistent

theorem beginResponseTool (noDemand : exchange.hookDemands = false) :
    exchange.beginResponseTool.Consistent := by
  unfold Exchange.beginResponseTool
  split
  · rename_i context mode id rest isTools
    dsimp only
    split
    · exact consistent.withStage nofun nofun
    rename_i notSkipped
    refine consistent.withHook ?_ nofun nofun
    rw [Exchange.hookDemands, isTools] at noDemand
    cases mode with
    | buffered | synthetic => rfl
    | streaming _ streamsEvents =>
      cases streamsEvents with
      | false => exact noDemand
      | true =>
        -- A tool that needs the body of a stream of events is passed over.
        rw [Bool.not_eq_true] at notSkipped
        exact needsBody_eq_false_of_any notSkipped
  · exact consistent

theorem finishResponseTool (noDemand : exchange.hookDemands = false)
    (outcome : Except PipelineError (PipelineDirective × PipelineContext)) :
    (exchange.finishResponseTool outcome).Consistent := by
  unfold Exchange.finishResponseTool
  split
  · rename_i context mode id rest isTools
    have demandless : (mode.isStreaming && needsResponseBody exchange.tools id) = false := by
      rw [Exchange.hookDemands, isTools] at noDemand
      cases mode with
      | buffered | synthetic outcome => rfl
      | streaming => exact noDemand
    split
    · exact consistent.withHook demandless nofun nofun
    · split <;> exact consistent.withHook demandless nofun nofun
  · exact consistent

theorem settleResponse : (exchange.settleResponse forwarding).Consistent := by
  unfold Exchange.settleResponse
  split
  · rename_i context mode isTools
    rcases settleResponseOf_ends forwarding context mode with
      ⟨_, ends⟩ | ⟨_, ends, notMissing⟩
    · rw [ends]
      exact consistent.withStage nofun nofun
    · rw [ends]
      refine consistent.withStage nofun fun same => ?_
      cases same
      exact notMissing rfl
  · exact consistent

theorem step (target : HttpTarget) (request : IncomingRequest Fault Trailers)
    (action : ExchangeAction Fault Trailers) (meets : exchange.Meets forwarding action) :
    (exchange.step forwarding target request action).Consistent := by
  cases action with
  | configure tools => exact consistent.configure tools
  | receive cancelledAfter => exact consistent.receive target request cancelledAfter
  | startRequestTools => exact consistent.startRequestTools
  | runRequestTool outcome => exact consistent.runRequestTool meets outcome
  | settleRequest => exact consistent.settleRequest meets
  | respond result => exact consistent.respond result
  | checkResponse cancelledAfter => exact consistent.checkResponse cancelledAfter
  | startResponseTools => exact consistent.startResponseTools
  | beginResponseTool => exact consistent.beginResponseTool meets
  | finishResponseTool outcome => exact consistent.finishResponseTool meets outcome
  | settleResponse => exact consistent.settleResponse

end

end Exchange.Consistent

end ToolEdits

/-! ### Samples -/

/-- A context that a hook leaves, with a body in place of the one that was read. -/
def editedContext (body : Bytes) : PipelineContext :=
  let context := Exchange.initialContext sampleTarget (sampleRequest "POST".toList [1])
  { context with request := { context.request with body := some body } }

/-- A tool edits the body of a request before the configuration changes. -/
def editActions (tools : ToolPipeline) (body : Bytes) : List (ExchangeAction Unit Unit) :=
  [.receive none, .startRequestTools, .runRequestTool (.ok (.applied, editedContext body)),
    .configure tools, .settleRequest]

end SprakCapture.HttpProxy
