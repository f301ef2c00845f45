import SprakCapture.HttpProxy.BodyPumps
import SprakCapture.HttpProxy.ToolPipeline

/-!
# Forwarding of messages

A request passes the request tools and goes upstream, and its response passes the response tools
and goes to the client. If a tool needs the whole body of a message, the body is read before the
tools run and the message goes on with the body that they leave; if not, the frames go through as
they come.
-/

namespace SprakCapture.HttpProxy

open Data Location

section Forwarding

variable {Fault Trailers : Type}

/-! ### Bodies -/

/-- `materializeIncomingBody`, behind what was read already. The cancellation comes after a
number of waits. -/
def materializeIncomingBody (maximumBytes : Nat) : BodySource Fault Trailers → Option Nat → Bytes →
    Except ProxyFailure Bytes
  | _, some 0, _ => .error .cancelled
  | [], _, body => .ok body
  | item :: rest, cancelledAfter, body =>
    match item with
    | .ok (.data bytes) =>
      if maximumBytes < body.length + bytes.length then .error .pipelineBodyLimitExceeded
      else
        materializeIncomingBody maximumBytes rest (cancelledAfter.map (· - 1)) (body ++ bytes)
    | .ok (.trailers _) =>
      materializeIncomingBody maximumBytes rest (cancelledAfter.map (· - 1)) body
    | .error _ => .error .clientDisconnected

/-- The body of a message on its way out: the frames of its source, or bytes in memory. -/
inductive OutgoingBody (Fault Trailers : Type) where
  | streaming (source : BodySource Fault Trailers)
  | buffered (bytes : Bytes)

namespace OutgoingBody

/-- What the body yields. -/
def source : OutgoingBody Fault Trailers → BodySource Fault Trailers
  | .streaming source => source
  | .buffered bytes => [.ok (.data bytes)]

end OutgoingBody

/-- A body behind a pacer, if there is a plan for one. `seed` is the seed that the pacer gets. -/
def createThrottlePacer (seed : UInt64) (direction : ThrottleDirection) :
    Option ThrottlePlan → Except ProxyFailure (Option ThrottlePacer)
  | none => .ok none
  | some plan =>
    match plan.createPacer direction seed with
    | .ok pacer => .ok (some pacer)
    | .error _ => .error .upstreamProtocol

theorem createThrottlePacer_eq_ok (seed : UInt64) (direction : ThrottleDirection)
    (plan : Option ThrottlePlan) :
    ∃ pacer, createThrottlePacer seed direction plan = .ok pacer := by
  cases plan with
  | none => exact ⟨none, rfl⟩
  | some plan =>
    obtain ⟨pacer, made⟩ := plan.createPacer_eq_ok direction seed
    exact ⟨some pacer, by rw [createThrottlePacer, made]⟩

/-! ### Requests -/

/-- A request as it is received. -/
structure IncomingRequest (Fault Trailers : Type) where
  method : List Char
  uri : Uri
  version : Version
  headers : HeaderMap
  body : BodySource Fault Trailers

/-- A request as it is handed to the client for upstream servers. -/
structure UpstreamRequest (Fault Trailers : Type) where
  method : List Char
  uri : Uri
  version : Version
  headers : HeaderMap
  body : OutgoingBody Fault Trailers
  pacer : Option ThrottlePacer

/-- `upstreamRequestVersion`. -/
def upstreamRequestVersion : Version → Version
  | .http2 => .http11
  | .http3 => .http11
  | version => version

/-- The libraries for texts of HTTP, the configuration and what else a request meets. -/
structure ForwardingContext where
  uris : UriLibrary
  headerName : List Char → Option (List Char)
  maximumBytes : Nat
  targetsProxyListener : List Char → UInt16 → Bool
  preserveHostHeader : Bool
  uploadSeed : UInt64
  downloadSeed : UInt64

def ProxyFailure.ofTarget : RequestFailure → ProxyFailure
  | .invalidRequest => .invalidRequest
  | .unsupportedScheme => .unsupportedScheme

/-- The body of a request while its tools run. -/
inductive RequestBodySource (Fault Trailers : Type) where
  | streaming (source : BodySource Fault Trailers)
  | buffered (bytes : Bytes)

def RequestBodySource.outgoing : RequestBodySource Fault Trailers → OutgoingBody Fault Trailers
  | .streaming source => .streaming source
  | .buffered bytes => .buffered bytes

/-- The body of a request before its tools run, which is read if a tool needs it. -/
def sourceRequestBody (requiresBody : Bool) (maximumBytes : Nat) (context : PipelineContext)
    (body : BodySource Fault Trailers) (cancelledAfter : Option Nat) :
    Except ProxyFailure (PipelineContext × RequestBodySource Fault Trailers) :=
  if requiresBody then
    match materializeIncomingBody maximumBytes body cancelledAfter [] with
    | .error failure => .error failure
    | .ok bytes =>
      .ok ({ context with request := { context.request with body := some bytes } }, .buffered bytes)
  else .ok (context, .streaming body)

/-- The body of a request after its tools have run, which is theirs if a tool needs it. -/
def settleRequestBody (requiresBody : Bool) (context : PipelineContext)
    (source : RequestBodySource Fault Trailers) :
    Except ProxyFailure (PipelineContext × RequestBodySource Fault Trailers) :=
  if requiresBody then
    match context.request.body with
    | none => .error .upstreamProtocol
    | some bytes =>
      let headers := synchronizeBodyLength context.request.headers bytes.length
      .ok ({ context with request := { context.request with headers } }, .buffered bytes)
  else .ok (context, source)

/-- The request that goes upstream. -/
def upstreamRequest (forwarding : ForwardingContext) (context : PipelineContext)
    (source : RequestBodySource Fault Trailers) :
    Except ProxyFailure (UpstreamRequest Fault Trailers) :=
  match parsePipelineTarget forwarding.uris context.request.uri with
  | .error failure => .error (.ofTarget failure)
  | .ok target =>
    if forwarding.targetsProxyListener target.location.host target.location.port then
      .error .loopDetected
    else
      match createThrottlePacer forwarding.uploadSeed .upload context.requestThrottlePlan with
      | .error failure => .error failure
      | .ok pacer =>
        let headers := removeHopByHopHeaders forwarding.headerName context.request.headers
        .ok
          { method := context.request.method
            uri := target.upstreamUri
            version := upstreamRequestVersion context.request.version
            headers :=
              if forwarding.preserveHostHeader then headers
              else headers.insert hostName target.hostHeader
            body := source.outgoing
            pacer }

/-- Where a request ends up. -/
inductive RequestResult (Fault Trailers : Type) where
  | sent (request : UpstreamRequest Fault Trailers) (context : PipelineContext)
  | synthetic (outcome : PipelineRequestOutcome) (context : PipelineContext)
  | failed (failure : ProxyFailure)

/-- `forwardDecodedHttp` up to the request that goes upstream, where the tools stay as they
are. -/
def forwardRequest (forwarding : ForwardingContext) (tools : ToolPipeline) (target : HttpTarget)
    (request : IncomingRequest Fault Trailers) (cancelledAfter : Option Nat) :
    RequestResult Fault Trailers :=
  let draft : RequestDraft :=
    { method := request.method
      uri := target.upstreamUri
      version := request.version
      headers := request.headers
      body := none }
  match sourceRequestBody (ToolPipeline.requiresRequestBody tools) forwarding.maximumBytes
      (.new target.location draft) request.body cancelledAfter with
  | .error failure => .failed failure
  | .ok (context, source) =>
    match ToolPipeline.runRequest tools context with
    | .error _ => .failed .upstreamProtocol
    | .ok (outcome, context) =>
      match settleRequestBody (ToolPipeline.requiresRequestBody tools) context source with
      | .error failure => .failed failure
      | .ok (context, source) =>
        if outcome = .forward then
          match upstreamRequest forwarding context source with
          | .error failure => .failed failure
          | .ok request => .sent request context
        else .synthetic outcome context

/-! ### Responses -/

/-- A response as it is received. -/
structure UpstreamResponse (Fault Trailers : Type) where
  status : Nat
  version : Version
  headers : HeaderMap
  body : BodySource Fault Trailers

/-- A response as it goes to the client. -/
structure ClientResponse (Fault Trailers : Type) where
  status : Nat
  version : Version
  headers : HeaderMap
  body : OutgoingBody Fault Trailers
  pacer : Option ThrottlePacer

/-- The response that a draft is, with its body and its pacer. -/
def clientResponse (forwarding : ForwardingContext) (response : ResponseDraft)
    (body : OutgoingBody Fault Trailers) (pacer : Option ThrottlePacer) :
    ClientResponse Fault Trailers where
  status := response.status
  version := response.version
  headers := removeHopByHopHeaders forwarding.headerName response.headers
  body := body
  pacer := pacer

@[simp] theorem headers_clientResponse (forwarding : ForwardingContext) (response : ResponseDraft)
    (body : OutgoingBody Fault Trailers) (pacer : Option ThrottlePacer) :
    (clientResponse forwarding response body pacer).headers =
      removeHopByHopHeaders forwarding.headerName response.headers := rfl

/-- The draft of a response, with its body if that was read. -/
def UpstreamResponse.draft (response : UpstreamResponse Fault Trailers) (body : Option Bytes) :
    ResponseDraft where
  status := response.status
  version := response.version
  headers := response.headers
  body := body

@[simp] theorem UpstreamResponse.headers_draft (response : UpstreamResponse Fault Trailers)
    (body : Option Bytes) : (response.draft body).headers = response.headers := rfl

/-- `responseMaterializationFailure`. -/
def responseMaterializationFailure : ProxyFailure → ProxyFailure
  | .clientDisconnected => .upstreamProtocol
  | .pipelineBodyLimitExceeded => .upstreamProtocol
  | failure => failure

/-- The end of `buildBufferedResponse`, with the context that the tools leave. -/
def settleBufferedResponse (forwarding : ForwardingContext) (context : PipelineContext) :
    Except ProxyFailure (ClientResponse Fault Trailers) :=
  match context.response with
  | none => .error .upstreamProtocol
  | some response =>
    let body := response.body.getD []
    let headers := synchronizeBodyLength response.headers body.length
    match createThrottlePacer forwarding.downloadSeed .download context.responseThrottlePlan with
    | .error failure => .error failure
    | .ok pacer => .ok (clientResponse forwarding { response with headers } (.buffered body) pacer)

/-- The end of `buildStreamingResponse`, with the context that the tools leave. -/
def settleStreamingResponse (forwarding : ForwardingContext)
    (body : BodySource Fault Trailers) (context : PipelineContext) :
    Except ProxyFailure (ClientResponse Fault Trailers) :=
  match context.response with
  | none => .error .upstreamProtocol
  | some response =>
    if response.body.isSome then .error .upstreamProtocol
    else
      match createThrottlePacer forwarding.downloadSeed .download
          context.responseThrottlePlan with
      | .error failure => .error failure
      | .ok pacer => .ok (clientResponse forwarding response (.streaming body) pacer)

/-- `buildStreamingResponse` and `buildBufferedResponse`, where the tools stay as they are. -/
def buildResponse (forwarding : ForwardingContext) (tools : ToolPipeline)
    (context : PipelineContext) (response : UpstreamResponse Fault Trailers)
    (cancelledAfter : Option Nat) : Except ProxyFailure (ClientResponse Fault Trailers) :=
  if isEventStream response.headers then
    match ToolPipeline.runStreamingResponse tools
        { context with response := some (response.draft none) } with
    | .error _ => .error .upstreamProtocol
    | .ok context => settleStreamingResponse forwarding response.body context
  else if ToolPipeline.requiresResponseBody tools then
    match materializeIncomingBody forwarding.maximumBytes response.body cancelledAfter [] with
    | .error failure => .error (responseMaterializationFailure failure)
    | .ok bytes =>
      match ToolPipeline.runResponse tools
          { context with response := some (response.draft (some bytes)) } with
      | .error _ => .error .upstreamProtocol
      | .ok context => settleBufferedResponse forwarding context
  else
    match ToolPipeline.runResponse tools
        { context with response := some (response.draft none) } with
    | .error _ => .error .upstreamProtocol
    | .ok context => settleStreamingResponse forwarding response.body context

end Forwarding

end SprakCapture.HttpProxy
