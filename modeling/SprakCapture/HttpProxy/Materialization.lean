import SprakCapture.HttpProxy.BodyEnds
import SprakCapture.HttpProxy.Forwarding

/-!
# Messages whose bodies are read

A tool that needs the whole body of a message makes the proxy read the body and write its length
into the headers, also where the message has no body. `materialization_transparent_iff` says which
messages are the same with idle tools that need bodies and without.
-/

namespace SprakCapture.HttpProxy

open Data Location
open ToolPipeline (requiresRequestBody runRequest_of_idle requiresResponseBody)

variable (requiresBody : Bool) {headerName : List Char → Option (List Char)}
  {first second : HeaderMap} {tools : ToolPipeline} {headers : HeaderMap}

section Materialization

variable {Fault Trailers : Type}

/-! ### What is compared -/

/-- The bytes of a body. -/
def bodyBytes (source : BodySource Fault Trailers) : Bytes :=
  source.flatMap fun item =>
    match item with
    | .ok frame => frame.dataBytes
    | .error _ => []

def OutgoingBody.bytes (body : OutgoingBody Fault Trailers) : Bytes := bodyBytes body.source

/-- The fields that say where a body ends. -/
def framingNames : List (List Char) := [contentLengthName, transferEncodingName]

/-- The same fields, up to the framing of a message that carries a body. -/
def SameHeaders (carriesBody : Prop) (first second : HeaderMap) : Prop :=
  ∀ name, (carriesBody ∧ name ∈ framingNames) ∨ first.getAll name = second.getAll name

structure SameUpstreamRequest (carriesBody : Prop) (first second : UpstreamRequest Fault Trailers) :
    Prop where
  method : first.method = second.method
  uri : first.uri = second.uri
  version : first.version = second.version
  headers : SameHeaders carriesBody first.headers second.headers
  body : first.body.bytes = second.body.bytes
  pacer : first.pacer = second.pacer

structure SameClientResponse (carriesBody : Prop) (first second : ClientResponse Fault Trailers) :
    Prop where
  status : first.status = second.status
  version : first.version = second.version
  headers : SameHeaders carriesBody first.headers second.headers
  body : first.body.bytes = second.body.bytes
  pacer : first.pacer = second.pacer

/-- Both requests go upstream alike, or both fail alike. -/
inductive SameRequestResult (carriesBody : Prop) :
    RequestResult Fault Trailers → RequestResult Fault Trailers → Prop where
  | sent {first second : UpstreamRequest Fault Trailers} {left right : PipelineContext}
      (same : SameUpstreamRequest carriesBody first second) :
      SameRequestResult carriesBody (.sent first left) (.sent second right)
  | failed (failure : ProxyFailure) :
      SameRequestResult carriesBody (.failed failure) (.failed failure)

/-- Both responses go to the client alike, or both fail alike. -/
inductive SameResponseResult (carriesBody : Prop) :
    Except ProxyFailure (ClientResponse Fault Trailers) →
      Except ProxyFailure (ClientResponse Fault Trailers) → Prop where
  | sent {first second : ClientResponse Fault Trailers}
      (same : SameClientResponse carriesBody first second) :
      SameResponseResult carriesBody (.ok first) (.ok second)
  | failed (failure : ProxyFailure) :
      SameResponseResult carriesBody (.error failure) (.error failure)

/-- A request says that it has a body, or has some. -/
def IncomingRequest.CarriesBody (request : IncomingRequest Fault Trailers) : Prop :=
  request.headers.getAll contentLengthName ≠ [] ∨ request.headers.getAll transferEncodingName ≠ [] ∨
    bodyBytes request.body ≠ []

/-- A response has a body unless its status or the method of the request says that it has none. -/
def UpstreamResponse.CarriesBody (response : UpstreamResponse Fault Trailers)
    (method : List Char) : Prop :=
  method ≠ "HEAD".toList ∧ 200 ≤ response.status ∧ response.status ≠ 204 ∧ response.status ≠ 304

instance (response : UpstreamResponse Fault Trailers) (method : List Char) :
    Decidable (response.CarriesBody method) :=
  inferInstanceAs (Decidable (_ ∧ _))

/-- The length that is written is the one that is there, or is removed with the fields of the
connection. -/
def KeepsLength (headerName : List Char → Option (List Char)) (headers : HeaderMap)
    (length : Nat) : Prop :=
  contentLengthName ∈ declaredNames headerName headers ∨
    headers.getAll contentLengthName = [decimalText length]

/-- The tools, as long as they are idle, make no difference to a request. -/
def RequestTransparent (forwarding : ForwardingContext) (target : HttpTarget)
    (request : IncomingRequest Fault Trailers) : Prop :=
  ∀ first second, ToolPipeline.IsIdle first → ToolPipeline.IsIdle second →
    SameRequestResult request.CarriesBody (forwardRequest forwarding first target request none)
      (forwardRequest forwarding second target request none)

/-- The tools, as long as they are idle, make no difference to a response. -/
def ResponseTransparent (forwarding : ForwardingContext) (context : PipelineContext)
    (response : UpstreamResponse Fault Trailers) : Prop :=
  ∀ first second, ToolPipeline.IsIdle first → ToolPipeline.IsIdle second →
    SameResponseResult (response.CarriesBody context.request.method)
      (buildResponse forwarding first context response none)
      (buildResponse forwarding second context response none)

/-! ### Both ways -/

theorem materializeIncomingBody_complete {source : BodySource Fault Trailers}
    (complete : sourceComplete source) {maximumBytes : Nat} {body : Bytes}
    (fits : body.length + (bodyBytes source).length ≤ maximumBytes) :
    materializeIncomingBody maximumBytes source none body = .ok (body ++ bodyBytes source) := by
  induction source generalizing body with
  | nil => simp [materializeIncomingBody, bodyBytes]
  | cons item rest ih =>
    have later : sourceComplete rest := fun other member =>
      complete other (List.mem_cons_of_mem _ member)
    rcases item with _ | (bytes | _)
    · exact nomatch complete _ List.mem_cons_self
    · have split : bodyBytes (.ok (.data bytes) :: rest) = bytes ++ bodyBytes rest := rfl
      grind [materializeIncomingBody]
    · rw [materializeIncomingBody]
      · exact ih later fits
      · nofun

variable {carriesBody : Prop}

theorem sameHeaders_iff {length : Nat} :
    SameHeaders carriesBody
        (removeHopByHopHeaders headerName (synchronizeBodyLength headers length))
        (removeHopByHopHeaders headerName headers) ↔
      carriesBody ∨ KeepsLength headerName headers length := by
  have lengthIsKept : contentLengthName ∉ hopByHopNames := by decide
  have encodingIsNot : transferEncodingName ∈ hopByHopNames := by decide
  constructor
  · intro same
    rcases same contentLengthName with ⟨carries, -⟩ | lengths
    · exact .inl carries
    refine .inr ?_
    rw [getAll_removeHopByHopHeaders, getAll_removeHopByHopHeaders,
      declaredNames_synchronizeBodyLength] at lengths
    by_cases declared : contentLengthName ∈ declaredNames headerName headers
    · exact .inl declared
    · simp only [lengthIsKept, declared, getAll_synchronizeBodyLength] at lengths
      exact .inr lengths.symm
  · intro either name
    rw [getAll_removeHopByHopHeaders, getAll_removeHopByHopHeaders,
      declaredNames_synchronizeBodyLength]
    by_cases isLength : name = contentLengthName
    · subst isLength
      rcases either with carries | declared | already
      · exact .inl ⟨carries, List.mem_cons_self⟩
      · exact .inr (by simp [declared])
      · exact .inr (by simp [already])
    grind [getAll_synchronizeBodyLength]

theorem SameHeaders.refl (carriesBody : Prop) (headers : HeaderMap) :
    SameHeaders carriesBody headers headers :=
  fun _ => .inr rfl

theorem SameHeaders.symm (same : SameHeaders carriesBody first second) :
    SameHeaders carriesBody second first :=
  fun name => (same name).imp id Eq.symm

/-- A field that both requests get does not matter. -/
theorem sameHeaders_insert_iff {name value : List Char} (apart : name ∉ framingNames)
    (same : first.getAll name = second.getAll name) :
    SameHeaders carriesBody (first.insert name value) (second.insert name value) ↔
      SameHeaders carriesBody first second := by
  refine forall_congr' fun other => ?_
  rw [Fields.getAll_insert, Fields.getAll_insert]
  by_cases isName : other = name
  · subst isName
    simp [same]
  · rw [if_neg isName, if_neg isName]

theorem SameRequestResult.symm {first second : RequestResult Fault Trailers}
    (same : SameRequestResult carriesBody first second) :
    SameRequestResult carriesBody second first := by
  cases same with
  | sent same =>
    exact .sent ⟨same.method.symm, same.uri.symm, same.version.symm, same.headers.symm,
      same.body.symm, same.pacer.symm⟩
  | failed failure => exact .failed failure

theorem SameResponseResult.symm {first second : Except ProxyFailure (ClientResponse Fault Trailers)}
    (same : SameResponseResult carriesBody first second) :
    SameResponseResult carriesBody second first := by
  cases same with
  | sent same =>
    exact .sent ⟨same.status.symm, same.version.symm, same.headers.symm, same.body.symm,
      same.pacer.symm⟩
  | failed failure => exact .failed failure

theorem SameResponseResult.refl (carriesBody : Prop)
    (result : Except ProxyFailure (ClientResponse Fault Trailers)) :
    SameResponseResult carriesBody result result := by
  cases result with
  | error failure => exact .failed failure
  | ok => exact .sent ⟨rfl, rfl, .refl _ _, rfl, rfl⟩

/-! ### Requests -/

/-- The draft that idle tools leave, where the body was read and where it was not. -/
def idleDraft (target : HttpTarget) (request : IncomingRequest Fault Trailers)
    (requiresBody : Bool) : RequestDraft where
  method := request.method
  uri := target.upstreamUri
  version := request.version
  headers :=
    if requiresBody then synchronizeBodyLength request.headers (bodyBytes request.body).length
    else request.headers
  body := if requiresBody then some (bodyBytes request.body) else none

def idleSource (request : IncomingRequest Fault Trailers) (requiresBody : Bool) :
    RequestBodySource Fault Trailers :=
  if requiresBody then .buffered (bodyBytes request.body) else .streaming request.body

/-- What becomes of a request behind idle tools. -/
def idleResult (forwarding : ForwardingContext) (target : HttpTarget)
    (request : IncomingRequest Fault Trailers) (requiresBody : Bool) :
    RequestResult Fault Trailers :=
  let context := PipelineContext.new target.location (idleDraft target request requiresBody)
  match upstreamRequest forwarding context (idleSource request requiresBody) with
  | .error failure => .failed failure
  | .ok request => .sent request context

variable {forwarding : ForwardingContext} {request : IncomingRequest Fault Trailers}
  {target : HttpTarget}

theorem forwardRequest_of_idle (idle : ToolPipeline.IsIdle tools)
    (complete : sourceComplete request.body)
    (fits : (bodyBytes request.body).length ≤ forwarding.maximumBytes) :
    forwardRequest forwarding tools target request none =
      idleResult forwarding target request (requiresRequestBody tools) := by
  have reads : materializeIncomingBody forwarding.maximumBytes request.body none [] =
      .ok (bodyBytes request.body) :=
    materializeIncomingBody_complete complete (by simpa using fits)
  rw [forwardRequest]
  cases requiresRequestBody tools with
  | false =>
    simp only [runRequest_of_idle idle]
    rfl
  | true =>
    simp only [sourceRequestBody, reads, runRequest_of_idle idle]
    rfl

/-- The request goes upstream at all. -/
def GoesUpstream (forwarding : ForwardingContext) (uri : Uri) : Prop :=
  ∃ target, parsePipelineTarget forwarding.uris uri = .ok target ∧
    forwarding.targetsProxyListener target.location.host target.location.port = false

theorem bytes_buffered (bytes : Bytes) :
    (OutgoingBody.buffered bytes : OutgoingBody Fault Trailers).bytes = bytes := by
  simp [OutgoingBody.bytes, OutgoingBody.source, bodyBytes, BodyFrame.dataBytes]

theorem sameHeaders_withHost_iff {length : Nat} {preserve : Bool} {host : List Char} :
    SameHeaders carriesBody
        (if preserve then removeHopByHopHeaders headerName (synchronizeBodyLength headers length)
          else (removeHopByHopHeaders headerName
            (synchronizeBodyLength headers length)).insert hostName host)
        (if preserve then removeHopByHopHeaders headerName headers
          else (removeHopByHopHeaders headerName headers).insert hostName host) ↔
      carriesBody ∨ KeepsLength headerName headers length := by
  cases preserve with
  | true => exact sameHeaders_iff
  | false =>
    refine Iff.trans (sameHeaders_insert_iff (by decide) ?_) sameHeaders_iff
    have kept : (synchronizeBodyLength headers length).getAll hostName =
        headers.getAll hostName := by
      rw [getAll_synchronizeBodyLength, if_neg (by decide), if_neg (by decide)]
    rw [getAll_removeHopByHopHeaders, getAll_removeHopByHopHeaders,
      declaredNames_synchronizeBodyLength, kept]

/-- Reading the body makes no difference to a request exactly if its length does not change, it
has a body, or it does not go upstream. -/
theorem sameRequestResult_idle_iff :
    SameRequestResult carriesBody (idleResult forwarding target request true)
        (idleResult forwarding target request false) ↔
      (GoesUpstream forwarding target.upstreamUri → carriesBody ∨
        KeepsLength forwarding.headerName request.headers (bodyBytes request.body).length) := by
  have draftUri (requiresBody : Bool) :
      (idleDraft target request requiresBody).uri = target.upstreamUri := rfl
  unfold idleResult upstreamRequest PipelineContext.new
  simp only [draftUri]
  cases parsed : parsePipelineTarget forwarding.uris target.upstreamUri with
  | error =>
    refine ⟨fun _ => ?_, fun _ => .failed _⟩
    rintro ⟨other, isOther, -⟩
    exact nomatch parsed.symm.trans isOther
  | ok parsedTarget =>
    cases own : forwarding.targetsProxyListener parsedTarget.location.host
        parsedTarget.location.port with
    | true =>
      simp only [own]
      refine ⟨fun _ => ?_, fun _ => .failed _⟩
      rintro ⟨other, isOther, _⟩
      simp_all
    | false =>
      simp only [own]
      have goes : GoesUpstream forwarding target.upstreamUri := ⟨parsedTarget, parsed, own⟩
      constructor
      · intro same _
        cases same with
        | sent same => exact sameHeaders_withHost_iff.mp same.headers
      · intro either
        refine .sent ⟨rfl, rfl, rfl, sameHeaders_withHost_iff.mpr (either goes), ?_, rfl⟩
        exact bytes_buffered (bodyBytes request.body)

/-- A tool that goes on without touching the context, and that may need the bodies. -/
def idleTool (requiresBody : Bool) : PipelineTool where
  registration := ⟨[.request, .response], true, requiresBody, requiresBody⟩
  onRequest context := .ok (.continue, context)
  onResponse context := .ok (.continue, context)

def idlePipeline (requiresBody : Bool) : ToolPipeline :=
  Table.insert ∅ .mirror (idleTool requiresBody)

theorem isIdle_idlePipeline : ToolPipeline.IsIdle (idlePipeline requiresBody) := by
  intro _ _ found
  rw [idlePipeline, Table.get?_insert] at found
  split at found
  · cases found
    exact fun _ => ⟨rfl, rfl⟩
  · cases found

theorem requiresRequestBody_idlePipeline :
    requiresRequestBody (idlePipeline requiresBody) = requiresBody := by
  cases requiresBody <;> rfl

theorem requiresResponseBody_idlePipeline :
    requiresResponseBody (idlePipeline requiresBody) = requiresBody := by
  cases requiresBody <;> rfl

theorem requestTransparent_iff (complete : sourceComplete request.body)
    (fits : (bodyBytes request.body).length ≤ forwarding.maximumBytes) :
    RequestTransparent forwarding target request ↔
      (GoesUpstream forwarding target.upstreamUri → request.CarriesBody ∨
        KeepsLength forwarding.headerName request.headers (bodyBytes request.body).length) := by
  rw [← sameRequestResult_idle_iff]
  constructor
  · intro transparent
    have same := transparent _ _ (isIdle_idlePipeline true) (isIdle_idlePipeline false)
    grind [forwardRequest_of_idle, isIdle_idlePipeline, requiresRequestBody_idlePipeline]
  · intro same first second firstIdle secondIdle
    rw [forwardRequest_of_idle firstIdle complete fits,
      forwardRequest_of_idle secondIdle complete fits]
    have itself (requiresBody : Bool) : SameRequestResult request.CarriesBody
        (idleResult forwarding target request requiresBody)
        (idleResult forwarding target request requiresBody) := by
      unfold idleResult
      dsimp only
      split
      · exact .failed _
      · exact .sent ⟨rfl, rfl, rfl, .refl _ _, rfl, rfl⟩
    cases requiresRequestBody first <;> cases requiresRequestBody second
    · exact itself false
    · exact same.symm
    · exact same
    · exact itself true

/-! ### Responses -/

variable {response : UpstreamResponse Fault Trailers} {context : PipelineContext}

/-- What becomes of a response behind idle tools. -/
theorem buildResponse_of_idle (idle : ToolPipeline.IsIdle tools)
    (complete : sourceComplete response.body)
    (fits : (bodyBytes response.body).length ≤ forwarding.maximumBytes) :
    buildResponse forwarding tools context response none =
      if isEventStream response.headers = false ∧ requiresResponseBody tools then
        settleBufferedResponse forwarding
          { context with response := some (response.draft (some (bodyBytes response.body))) }
      else
        settleStreamingResponse forwarding response.body
          { context with response := some (response.draft none) } := by
  have reads : materializeIncomingBody forwarding.maximumBytes response.body none [] =
      .ok (bodyBytes response.body) :=
    materializeIncomingBody_complete complete (by simpa using fits)
  simp only [buildResponse, ToolPipeline.runStreamingResponse_of_idle idle, reads,
    ToolPipeline.runResponse_of_idle idle]
  cases isEventStream response.headers with
  | true => simp
  | false => cases requiresResponseBody tools <;> simp

theorem sameResponseResult_ok_iff {first second : ClientResponse Fault Trailers} :
    SameResponseResult carriesBody (.ok first) (.ok second) ↔
      SameClientResponse carriesBody first second := by
  constructor
  · intro same
    cases same with
    | sent same => exact same
  · exact .sent

/-- The headers of a response whose body was read. -/
def lengthened (response : UpstreamResponse Fault Trailers) : ResponseDraft where
  status := response.status
  version := response.version
  headers := synchronizeBodyLength response.headers (bodyBytes response.body).length
  body := some (bodyBytes response.body)

@[simp] theorem headers_lengthened (response : UpstreamResponse Fault Trailers) :
    (lengthened response).headers =
      synchronizeBodyLength response.headers (bodyBytes response.body).length := rfl

/-- Reading the body makes no difference to a response exactly if its length does not change, or
it has a body. -/
theorem sameResponseResult_idle_iff :
    SameResponseResult carriesBody
        (settleBufferedResponse forwarding
          { context with response := some (response.draft (some (bodyBytes response.body))) })
        (settleStreamingResponse forwarding response.body
          { context with response := some (response.draft none) }) ↔
      carriesBody ∨ KeepsLength forwarding.headerName response.headers
        (bodyBytes response.body).length := by
  obtain ⟨pacer, made⟩ := createThrottlePacer_eq_ok forwarding.downloadSeed .download
    context.responseThrottlePlan
  have buffered : settleBufferedResponse forwarding
      { context with response := some (response.draft (some (bodyBytes response.body))) } =
        .ok (clientResponse forwarding (lengthened response)
          (.buffered (bodyBytes response.body) : OutgoingBody Fault Trailers) pacer) := by
    rw [settleBufferedResponse]
    simp only [made]
    rfl
  have streamed : settleStreamingResponse forwarding response.body
      { context with response := some (response.draft none) } =
        .ok (clientResponse forwarding (response.draft none) (.streaming response.body) pacer) := by
    rw [settleStreamingResponse]
    simp only [made]
    rfl
  rw [buffered, streamed, sameResponseResult_ok_iff]
  have headers : SameHeaders carriesBody
        (clientResponse forwarding (lengthened response)
          (.buffered (bodyBytes response.body) : OutgoingBody Fault Trailers) pacer).headers
        (clientResponse forwarding (response.draft none) (.streaming response.body) pacer).headers ↔
      carriesBody ∨ KeepsLength forwarding.headerName response.headers
        (bodyBytes response.body).length := by
    exact sameHeaders_iff
  exact ⟨fun same => headers.mp same.headers,
    fun either => ⟨rfl, rfl, headers.mpr either, bytes_buffered _, rfl⟩⟩

theorem responseTransparent_iff (complete : sourceComplete response.body)
    (fits : (bodyBytes response.body).length ≤ forwarding.maximumBytes) :
    ResponseTransparent forwarding context response ↔
      isEventStream response.headers = true ∨ response.CarriesBody context.request.method ∨
        KeepsLength forwarding.headerName response.headers (bodyBytes response.body).length := by
  constructor
  · intro transparent
    have same := transparent _ _ (isIdle_idlePipeline true) (isIdle_idlePipeline false)
    rw [buildResponse_of_idle (isIdle_idlePipeline true) complete fits,
      buildResponse_of_idle (isIdle_idlePipeline false) complete fits] at same
    cases streams : isEventStream response.headers with
    | true => exact .inl rfl
    | false =>
      rw [streams] at same
      exact .inr (sameResponseResult_idle_iff.mp same)
  · intro either _ _ firstIdle secondIdle
    rw [buildResponse_of_idle firstIdle complete fits,
      buildResponse_of_idle secondIdle complete fits]
    rcases either with streams | either
    · rw [streams]
      exact .refl _ _
    split <;> split
    · exact .refl _ _
    · exact sameResponseResult_idle_iff.mpr either
    · exact (sameResponseResult_idle_iff.mpr either).symm
    · exact .refl _ _

/-- Idle tools make no difference to a request and a response exactly if each of them has a body,
or is not written another length. -/
theorem materialization_transparent_iff {forwarding : ForwardingContext} {target : HttpTarget}
    {request : IncomingRequest Fault Trailers} {context : PipelineContext}
    {response : UpstreamResponse Fault Trailers} (requestComplete : sourceComplete request.body)
    (requestFits : (bodyBytes request.body).length ≤ forwarding.maximumBytes)
    (responseComplete : sourceComplete response.body)
    (responseFits : (bodyBytes response.body).length ≤ forwarding.maximumBytes) :
    RequestTransparent forwarding target request ∧ ResponseTransparent forwarding context response ↔
      (GoesUpstream forwarding target.upstreamUri → request.CarriesBody ∨
        KeepsLength forwarding.headerName request.headers (bodyBytes request.body).length) ∧
      (isEventStream response.headers = true ∨ response.CarriesBody context.request.method ∨
        KeepsLength forwarding.headerName response.headers (bodyBytes response.body).length) :=
  and_congr (requestTransparent_iff requestComplete requestFits)
    (responseTransparent_iff responseComplete responseFits)

end Materialization

/-! ### Samples -/

def sampleForwarding : ForwardingContext where
  uris := ⟨fun _ => none, fun _ => true, id, fun _ => none, fun _ => true⟩
  headerName := some
  maximumBytes := 1024
  targetsProxyListener _ _ := false
  preserveHostHeader := false
  uploadSeed := 1
  downloadSeed := 2

def sampleTarget : HttpTarget where
  upstreamUri := ⟨some "http".toList, some ['a'], ['/'], none⟩
  hostHeader := ['a']
  location := ⟨"http".toList, ['a'], 80, ['/'], [], []⟩

/-- A request with a method, and with a body or none. -/
def sampleRequest (method : List Char) (body : Bytes) : IncomingRequest Unit Unit where
  method := method
  uri := sampleTarget.upstreamUri
  version := .http11
  headers := []
  body := if body = [] then [] else [.ok (.data body)]

/-- A response that declares five bytes, and has a body or none. -/
def sampleResponse (body : Bytes) : UpstreamResponse Unit Unit where
  status := 200
  version := .http11
  headers := [(contentLengthName, ['5'])]
  body := if body = [] then [] else [.ok (.data body)]

def sampleContext (method : List Char) : PipelineContext :=
  .new sampleTarget.location (idleDraft sampleTarget (sampleRequest method []) false)

theorem materialization_transparent_post :
    RequestTransparent sampleForwarding sampleTarget (sampleRequest "POST".toList [1, 2]) ∧
      ResponseTransparent sampleForwarding (sampleContext "POST".toList)
        (sampleResponse [1, 2, 3, 4, 5]) :=
  (materialization_transparent_iff (by decide) (by decide) (by decide) (by decide)).mpr
    ⟨fun _ => .inl (.inr (.inr (by decide))), .inr (.inl (by decide))⟩

/-- The length of a response to HEAD does not survive an idle tool that needs bodies. -/
theorem not_responseTransparent_head :
    ¬ ResponseTransparent sampleForwarding (sampleContext "HEAD".toList) (sampleResponse []) := by
  rw [responseTransparent_iff (by decide) (by decide)]
  rintro (streams | ⟨notHead, -⟩ | declared | already)
  · revert streams
    decide
  · exact notHead rfl
  · revert declared
    decide
  · revert already
    decide

end SprakCapture.HttpProxy
