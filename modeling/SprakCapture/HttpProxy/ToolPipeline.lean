import SprakCapture.Data.Table
import SprakCapture.HttpProxy.MessageHeaders
import SprakCapture.HttpProxy.Throttling

/-!
# The pipeline of tools

A request and its response pass through tools in a fixed order. A tool says whether it is enabled,
in which phases it takes part and whether it needs the whole body, and its hooks may change the
drafts of the messages.
-/

namespace SprakCapture.HttpProxy

open Data Location List

inductive ToolPhase where
  | request
  | response
deriving DecidableEq

inductive ToolId where
  | blockList
  | noCaching
  | blockCookies
  | mapRemote
  | mapLocal
  | rewrite
  | breakpoints
  | throttling
  | mirror
  | autoSave
deriving DecidableEq

structure ToolRegistration where
  phases : List ToolPhase
  enabled : Bool
  requiresRequestBody : Bool
  requiresResponseBody : Bool
deriving DecidableEq

def ToolRegistration.participatesIn (registration : ToolRegistration) (phase : ToolPhase) : Bool :=
  registration.phases.contains phase

inductive Version where
  | http09
  | http10
  | http11
  | http2
  | http3
deriving DecidableEq

structure RequestDraft where
  method : List Char
  uri : Uri
  version : Version
  headers : HeaderMap
  body : Option Bytes

structure ResponseDraft where
  status : Nat
  version : Version
  headers : HeaderMap
  body : Option Bytes

structure SyntheticResponse where
  status : Nat
  version : Version
  headers : HeaderMap
  body : Bytes

def ResponseDraft.fromSynthetic (response : SyntheticResponse) : ResponseDraft where
  status := response.status
  version := response.version
  headers := response.headers
  body := some response.body

/-- What the tools of both phases share. -/
structure PipelineContext where
  originalLocation : ResolvedLocation
  location : ResolvedLocation
  request : RequestDraft
  response : Option ResponseDraft
  requestThrottlePlan : Option ThrottlePlan
  responseThrottlePlan : Option ThrottlePlan
  shortCircuited : Bool
  blocked : Bool
  appliedTools : List ToolId

namespace PipelineContext

def new (location : ResolvedLocation) (request : RequestDraft) : PipelineContext where
  originalLocation := location
  location := location
  request := request
  response := none
  requestThrottlePlan := none
  responseThrottlePlan := none
  shortCircuited := false
  blocked := false
  appliedTools := []

def markApplied (context : PipelineContext) (id : ToolId) : PipelineContext :=
  if id ∈ context.appliedTools then context
  else { context with appliedTools := context.appliedTools ++ [id] }

def shortCircuit (context : PipelineContext) (response : SyntheticResponse) : PipelineContext :=
  { context with shortCircuited := true, response := some (.fromSynthetic response) }

def block (context : PipelineContext) (response : SyntheticResponse) : PipelineContext :=
  ({ context with blocked := true }).shortCircuit response

end PipelineContext

inductive PipelineDirective where
  | continue
  | applied
  | shortCircuit (response : SyntheticResponse)
  | blocked (response : SyntheticResponse)

inductive PipelineRequestOutcome where
  | forward
  | synthetic
  | blocked
deriving DecidableEq

inductive PipelineError where
  | toolFailed (id : ToolId) (code : String)
  | responseShortCircuit (id : ToolId)
deriving DecidableEq

/-- A tool as it is configured. -/
structure PipelineTool where
  registration : ToolRegistration
  onRequest : PipelineContext → Except PipelineError (PipelineDirective × PipelineContext)
  onResponse : PipelineContext → Except PipelineError (PipelineDirective × PipelineContext)

abbrev ToolPipeline := Table ToolId PipelineTool

/-- The places of the tools. -/
def toolOrder : ToolPhase → List ToolId
  | .request =>
    [.blockList, .noCaching, .blockCookies, .mapRemote, .mapLocal, .rewrite, .breakpoints,
      .throttling, .mirror]
  | .response =>
    [.rewrite, .breakpoints, .noCaching, .blockCookies, .throttling, .mirror, .autoSave]

/-- A tool whose hooks go on without touching the context. -/
def PipelineTool.IsIdle (tool : PipelineTool) : Prop :=
  ∀ context, tool.onRequest context = .ok (.continue, context) ∧
    tool.onResponse context = .ok (.continue, context)

variable {entries : List (ToolId × PipelineTool)}

namespace ToolPipeline

/-- `requiresBody`: some enabled tool of the phase needs the whole body. -/
def requiresBody (tools : ToolPipeline) (phase : ToolPhase)
    (selector : ToolRegistration → Bool) : Bool :=
  tools.values.any fun tool =>
    tool.registration.enabled && tool.registration.participatesIn phase &&
      selector tool.registration

def requiresRequestBody (tools : ToolPipeline) : Bool :=
  requiresBody tools .request (·.requiresRequestBody)

def requiresResponseBody (tools : ToolPipeline) : Bool :=
  requiresBody tools .response (·.requiresResponseBody)

def toolsForPhase (tools : ToolPipeline) (phase : ToolPhase) : List (ToolId × PipelineTool) :=
  ((toolOrder phase).filterMap fun id => (tools.get? id).map fun tool => (id, tool)).filter
    fun entry => entry.2.registration.enabled && entry.2.registration.participatesIn phase

/-- What a directive of the request phase makes of the context, and the outcome if the phase ends
with it. -/
def settleRequest (id : ToolId) (context : PipelineContext) :
    PipelineDirective → Option PipelineRequestOutcome × PipelineContext
  | .continue => (none, context)
  | .applied => (none, context.markApplied id)
  | .shortCircuit response => (some .synthetic, (context.markApplied id).shortCircuit response)
  | .blocked response => (some .blocked, (context.markApplied id).block response)

/-- The loop of `runRequest`. -/
def runRequestTools : List (ToolId × PipelineTool) → PipelineContext →
    Except PipelineError (PipelineRequestOutcome × PipelineContext)
  | [], context => .ok (.forward, context)
  | (id, tool) :: rest, context =>
    match tool.onRequest context with
    | .error error => .error error
    | .ok (directive, context) =>
      match settleRequest id context directive with
      | (some outcome, context) => .ok (outcome, context)
      | (none, context) => runRequestTools rest context

def runRequest (tools : ToolPipeline) (context : PipelineContext) :
    Except PipelineError (PipelineRequestOutcome × PipelineContext) :=
  runRequestTools (toolsForPhase tools .request) context

/-- What a directive of the response phase makes of the context. -/
def settleResponse (id : ToolId) (context : PipelineContext) :
    PipelineDirective → Except PipelineError PipelineContext
  | .continue => .ok context
  | .applied => .ok (context.markApplied id)
  | .shortCircuit _ => .error (.responseShortCircuit id)
  | .blocked _ => .error (.responseShortCircuit id)

/-- `runResponseTools`. -/
def runResponseTools (skipBodyTools : Bool) : List (ToolId × PipelineTool) → PipelineContext →
    Except PipelineError PipelineContext
  | [], context => .ok context
  | (id, tool) :: rest, context =>
    if skipBodyTools && tool.registration.requiresResponseBody then
      runResponseTools skipBodyTools rest context
    else
      match tool.onResponse context with
      | .error error => .error error
      | .ok (directive, context) =>
        match settleResponse id context directive with
        | .error error => .error error
        | .ok context => runResponseTools skipBodyTools rest context

def runResponse (tools : ToolPipeline) (context : PipelineContext) :
    Except PipelineError PipelineContext :=
  runResponseTools false (toolsForPhase tools .response) context

def runStreamingResponse (tools : ToolPipeline) (context : PipelineContext) :
    Except PipelineError PipelineContext :=
  runResponseTools true (toolsForPhase tools .response) context

/-! ### Idle tools -/

variable {tools : ToolPipeline}

theorem mem_toolsForPhase {phase : ToolPhase} {id : ToolId} {tool : PipelineTool}
    (member : (id, tool) ∈ toolsForPhase tools phase) : tools.get? id = some tool := by
  obtain ⟨found, -⟩ := mem_filter.mp member
  obtain ⟨_, -, isEntry⟩ := mem_filterMap.mp found
  obtain ⟨_, isTool, entry⟩ := Option.map_eq_some_iff.mp isEntry
  cases entry
  exact isTool

theorem runRequestTools_of_idle (idle : ∀ entry ∈ entries, entry.2.IsIdle)
    (context : PipelineContext) :
    runRequestTools entries context = .ok (.forward, context) := by
  induction entries with
  | nil => rfl
  | cons entry _ ih =>
    rw [runRequestTools, (idle _ mem_cons_self context).1]
    exact ih fun other later => idle other (mem_cons_of_mem _ later)

theorem runResponseTools_of_idle (idle : ∀ entry ∈ entries, entry.2.IsIdle) (skipBodyTools : Bool)
    (context : PipelineContext) :
    runResponseTools skipBodyTools entries context = .ok context := by
  induction entries with
  | nil => rfl
  | cons entry _ ih =>
    have goesOn := ih fun other later =>
      idle other (mem_cons_of_mem _ later)
    rw [runResponseTools, (idle _ mem_cons_self context).2]
    split <;> exact goesOn

/-- A pipeline of idle tools. -/
def IsIdle (tools : ToolPipeline) : Prop := ∀ id tool, tools.get? id = some tool → tool.IsIdle

section

variable (idle : IsIdle tools)
include idle

theorem IsIdle.toolsForPhase (phase : ToolPhase) :
    ∀ entry ∈ toolsForPhase tools phase, entry.2.IsIdle :=
  fun entry member => idle entry.1 entry.2 (mem_toolsForPhase member)

variable (context : PipelineContext)

theorem runRequest_of_idle : runRequest tools context = .ok (.forward, context) :=
  runRequestTools_of_idle (idle.toolsForPhase .request) context

theorem runResponse_of_idle : runResponse tools context = .ok context :=
  runResponseTools_of_idle (idle.toolsForPhase .response) false context

theorem runStreamingResponse_of_idle : runStreamingResponse tools context = .ok context :=
  runResponseTools_of_idle (idle.toolsForPhase .response) true context

end

end ToolPipeline

end SprakCapture.HttpProxy
