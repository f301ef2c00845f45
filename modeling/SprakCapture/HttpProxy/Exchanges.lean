import SprakCapture.Data.Machine
import SprakCapture.HttpProxy.Forwarding

/-!
# Exchanges under changing configurations

The forwarding of one request and its response, step by step, while the tools may be configured
anew before any step. Whether the body of a message is needed is asked before its tools run; for a
request it is asked again after them, and the list of the tools is made in between.
-/

namespace SprakCapture.HttpProxy

open Data Location

section Exchanges

variable {Fault Trailers : Type}

/-- How the body of a response goes on. -/
inductive ResponseMode (Fault Trailers : Type) where
  | streaming (source : BodySource Fault Trailers) (streamsEvents : Bool)
  | buffered
  | synthetic (outcome : PipelineRequestOutcome)

/-- Why an exchange fails. All causes but the first are `UpstreamProtocol`. -/
inductive ExchangeFailure where
  | transfer (failure : ProxyFailure)
  | pipeline (error : PipelineError)
  | requestBodyMissing
  | responseBodyPresent
  | responseMissing

/-- The failure that is recorded and answered. -/
def ExchangeFailure.failure : ExchangeFailure → ProxyFailure
  | .transfer failure => failure
  | _ => .upstreamProtocol

/-- How far an exchange is. -/
inductive ExchangeStage (Fault Trailers : Type) where
  | received
  | requestReady (context : PipelineContext) (source : RequestBodySource Fault Trailers)
  /-- The tools that have not run yet, and the outcome if none of them ends the phase. -/
  | requestTools (context : PipelineContext) (source : RequestBodySource Fault Trailers)
      (outcome : PipelineRequestOutcome) (rest : List ToolId)
  | upstream (context : PipelineContext)
  | responded (context : PipelineContext) (response : UpstreamResponse Fault Trailers)
  | responseReady (context : PipelineContext) (mode : ResponseMode Fault Trailers)
  /-- The tools that have not run to their end yet. `begun` says that the first of them runs. -/
  | responseTools (context : PipelineContext) (mode : ResponseMode Fault Trailers)
      (rest : List ToolId) (begun : Bool)
  | delivered (response : ClientResponse Fault Trailers)
  | failed (failure : ExchangeFailure)

/-- An exchange, with the tools as they are configured now. -/
structure Exchange (Fault Trailers : Type) where
  tools : ToolPipeline
  stage : ExchangeStage Fault Trailers
  /-- Whether the body of the request was read before the tools ran. -/
  materialized : Bool
  /-- The request that the tools left, and the one that went upstream. -/
  sent : Option (RequestDraft × UpstreamRequest Fault Trailers)
  /-- Whether a hook ran while its tool needed a body that had not been read. -/
  demanded : Bool

inductive ExchangeAction (Fault Trailers : Type) where
  /-- Any change of the configurations. -/
  | configure (tools : ToolPipeline)
  | receive (cancelledAfter : Option Nat)
  | startRequestTools
  | runRequestTool (outcome : Except PipelineError (PipelineDirective × PipelineContext))
  | settleRequest
  | respond (result : Except ProxyFailure (UpstreamResponse Fault Trailers))
  | checkResponse (cancelledAfter : Option Nat)
  | startResponseTools
  | beginResponseTool
  | finishResponseTool (outcome : Except PipelineError (PipelineDirective × PipelineContext))
  | settleResponse

/-- Whether a tool, as it is configured now, takes part in a phase and needs the body. -/
def needsBody (tools : ToolPipeline) (phase : ToolPhase) (selector : ToolRegistration → Bool)
    (id : ToolId) : Bool :=
  (tools.get? id).any fun tool =>
    tool.registration.enabled && tool.registration.participatesIn phase &&
      selector tool.registration

def needsRequestBody (tools : ToolPipeline) : ToolId → Bool :=
  needsBody tools .request (·.requiresRequestBody)

def needsResponseBody (tools : ToolPipeline) : ToolId → Bool :=
  needsBody tools .response (·.requiresResponseBody)

def RequestBodySource.isStreaming : RequestBodySource Fault Trailers → Bool
  | .streaming _ => true
  | .buffered _ => false

def ResponseMode.isStreaming : ResponseMode Fault Trailers → Bool
  | .streaming _ _ => true
  | _ => false

def ResponseMode.streamsEvents : ResponseMode Fault Trailers → Bool
  | .streaming _ streamsEvents => streamsEvents
  | _ => false

/-- `responseFromDraft`, for the synthetic response that a context has. -/
def settleSyntheticResponse (forwarding : ForwardingContext) (context : PipelineContext) :
    Except ProxyFailure (ClientResponse Fault Trailers) :=
  match context.response with
  | none => .error .upstreamProtocol
  | some response =>
    let body := response.body.getD []
    match createThrottlePacer forwarding.downloadSeed .download context.responseThrottlePlan with
    | .error failure => .error failure
    | .ok pacer =>
      .ok
        { status := response.status
          version := response.version
          headers := synchronizeBodyLength response.headers body.length
          body := .buffered body
          pacer }

/-- The end of the response phase. -/
def settleResponseOf (forwarding : ForwardingContext) (context : PipelineContext) :
    ResponseMode Fault Trailers → ExchangeStage Fault Trailers
  | .streaming source _ =>
    match settleStreamingResponse forwarding source context with
    | .ok response => .delivered response
    | .error failure =>
      if (context.response.bind (·.body)).isSome then .failed .responseBodyPresent
      else .failed (.transfer failure)
  | .buffered =>
    match settleBufferedResponse forwarding context with
    | .ok response => .delivered response
    | .error _ => .failed .responseMissing
  | .synthetic _ =>
    match settleSyntheticResponse forwarding context with
    | .ok response => .delivered response
    | .error _ => .failed .responseMissing

namespace Exchange

variable (forwarding : ForwardingContext) (target : HttpTarget)
  (request : IncomingRequest Fault Trailers)

/-- The draft that the tools of a request get. -/
def initialContext : PipelineContext :=
  .new target.location
    { method := request.method
      uri := target.upstreamUri
      version := request.version
      headers := request.headers
      body := none }

/-- The first check of a request: the body is read if some tool needs it. -/
def receive (exchange : Exchange Fault Trailers) (cancelledAfter : Option Nat) :
    Exchange Fault Trailers :=
  match exchange.stage with
  | .received =>
    let requiresBody := ToolPipeline.requiresRequestBody exchange.tools
    match sourceRequestBody requiresBody forwarding.maximumBytes (initialContext target request)
        request.body cancelledAfter with
    | .error failure => { exchange with stage := .failed (.transfer failure) }
    | .ok (context, source) =>
      { exchange with stage := .requestReady context source, materialized := requiresBody }
  | _ => exchange

def startRequestTools (exchange : Exchange Fault Trailers) : Exchange Fault Trailers :=
  match exchange.stage with
  | .requestReady context source =>
    let ids := (ToolPipeline.toolsForPhase exchange.tools .request).map Prod.fst
    { exchange with stage := .requestTools context source .forward ids }
  | _ => exchange

/-- One hook of the request phase, with what it leaves. -/
def runRequestTool (exchange : Exchange Fault Trailers)
    (outcome : Except PipelineError (PipelineDirective × PipelineContext)) :
    Exchange Fault Trailers :=
  match exchange.stage with
  | .requestTools _ source soFar (id :: rest) =>
    let demanded :=
      exchange.demanded || (source.isStreaming && needsRequestBody exchange.tools id)
    match outcome with
    | .error error => { exchange with demanded, stage := .failed (.pipeline error) }
    | .ok (directive, context) =>
      match ToolPipeline.settleRequest id context directive with
      | (some ended, context) =>
        { exchange with demanded, stage := .requestTools context source ended [] }
      | (none, context) =>
        { exchange with demanded, stage := .requestTools context source soFar rest }
  | _ => exchange

/-- The second check of a request, and what becomes of it. -/
def settleRequest (exchange : Exchange Fault Trailers) : Exchange Fault Trailers :=
  match exchange.stage with
  | .requestTools context source outcome [] =>
    match settleRequestBody (ToolPipeline.requiresRequestBody exchange.tools) context source with
    | .error _ => { exchange with stage := .failed .requestBodyMissing }
    | .ok (settled, source) =>
      if outcome = .forward then
        match upstreamRequest forwarding settled source with
        | .error failure => { exchange with stage := .failed (.transfer failure) }
        | .ok outgoing =>
          { exchange with
            stage := .upstream settled
            sent := some (context.request, outgoing) }
      else { exchange with stage := .responseReady settled (.synthetic outcome) }
  | _ => exchange

def respond (exchange : Exchange Fault Trailers)
    (result : Except ProxyFailure (UpstreamResponse Fault Trailers)) : Exchange Fault Trailers :=
  match exchange.stage with
  | .upstream context =>
    match result with
    | .error failure => { exchange with stage := .failed (.transfer failure) }
    | .ok response => { exchange with stage := .responded context response }
  | _ => exchange

/-- The check of a response: the body is read if some tool needs it, unless it is a stream of
events. -/
def checkResponse (exchange : Exchange Fault Trailers) (cancelledAfter : Option Nat) :
    Exchange Fault Trailers :=
  match exchange.stage with
  | .responded context response =>
    let withBody (body : Option Bytes) := { context with response := some (response.draft body) }
    if isEventStream response.headers then
      { exchange with
        stage := .responseReady (withBody none) (.streaming response.body true) }
    else if ToolPipeline.requiresResponseBody exchange.tools then
      match materializeIncomingBody forwarding.maximumBytes response.body cancelledAfter [] with
      | .error failure =>
        { exchange with stage := .failed (.transfer (responseMaterializationFailure failure)) }
      | .ok bytes => { exchange with stage := .responseReady (withBody (some bytes)) .buffered }
    else
      { exchange with
        stage := .responseReady (withBody none) (.streaming response.body false) }
  | _ => exchange

def startResponseTools (exchange : Exchange Fault Trailers) : Exchange Fault Trailers :=
  match exchange.stage with
  | .responseReady context mode =>
    let ids := (ToolPipeline.toolsForPhase exchange.tools .response).map Prod.fst
    { exchange with stage := .responseTools context mode ids false }
  | _ => exchange

/-- The next hook of the response phase begins. In a stream of events a tool that needs the body
is passed over. -/
def beginResponseTool (exchange : Exchange Fault Trailers) : Exchange Fault Trailers :=
  match exchange.stage with
  | .responseTools context mode (id :: rest) false =>
    let skipped := mode.streamsEvents &&
      (exchange.tools.get? id).any (·.registration.requiresResponseBody)
    if skipped then { exchange with stage := .responseTools context mode rest false }
    else
      { exchange with
        stage := .responseTools context mode (id :: rest) true
        demanded :=
          exchange.demanded || (mode.isStreaming && needsResponseBody exchange.tools id) }
  | _ => exchange

/-- The hook that runs ends, with what it leaves. -/
def finishResponseTool (exchange : Exchange Fault Trailers)
    (outcome : Except PipelineError (PipelineDirective × PipelineContext)) :
    Exchange Fault Trailers :=
  match exchange.stage with
  | .responseTools _ mode (id :: rest) true =>
    let demanded :=
      exchange.demanded || (mode.isStreaming && needsResponseBody exchange.tools id)
    match outcome with
    | .error error => { exchange with demanded, stage := .failed (.pipeline error) }
    | .ok (directive, context) =>
      match ToolPipeline.settleResponse id context directive with
      | .error error => { exchange with demanded, stage := .failed (.pipeline error) }
      | .ok context => { exchange with demanded, stage := .responseTools context mode rest false }
  | _ => exchange

def settleResponse (exchange : Exchange Fault Trailers) : Exchange Fault Trailers :=
  match exchange.stage with
  | .responseTools context mode [] false =>
    { exchange with stage := settleResponseOf forwarding context mode }
  | _ => exchange

def step (exchange : Exchange Fault Trailers) :
    ExchangeAction Fault Trailers → Exchange Fault Trailers
  | .configure tools => { exchange with tools }
  | .receive cancelledAfter => exchange.receive forwarding target request cancelledAfter
  | .startRequestTools => exchange.startRequestTools
  | .runRequestTool outcome => exchange.runRequestTool outcome
  | .settleRequest => exchange.settleRequest forwarding
  | .respond result => exchange.respond result
  | .checkResponse cancelledAfter => exchange.checkResponse forwarding cancelledAfter
  | .startResponseTools => exchange.startResponseTools
  | .beginResponseTool => exchange.beginResponseTool
  | .finishResponseTool outcome => exchange.finishResponseTool outcome
  | .settleResponse => exchange.settleResponse forwarding

end Exchange

/-- The exchange of a request, from some configuration on. -/
def exchangeMachine (forwarding : ForwardingContext) (target : HttpTarget)
    (request : IncomingRequest Fault Trailers) (tools : ToolPipeline) :
    Machine (Exchange Fault Trailers) (ExchangeAction Fault Trailers) where
  initial := ⟨tools, .received, false, none, false⟩
  step := Exchange.step forwarding target request

end Exchanges

end SprakCapture.HttpProxy
