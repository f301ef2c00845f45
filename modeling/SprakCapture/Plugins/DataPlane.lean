import SprakCapture.Plugins.ExtensionKernel

/-!
# Mods on the data plane

Every block of a TCP stream and every UDP datagram passes the legacy hooks, then the Mods
that subscribe to its stage and last the packet filters. The legacy hooks and the filters are
functions of the host here, so that what is proved holds for any of them.
-/

namespace SprakCapture.Plugins

open Data KernelHistory

inductive TransportKind where
  | tcp
  | udp
deriving DecidableEq

inductive StreamDirection where
  | clientToServer
  | serverToClient
deriving DecidableEq

structure ConnectionMetadata where
  transport : TransportKind
  clientAddress : String
  targetHost : String
  targetPort : UInt16

structure PluginConnection where
  connectionId : UInt64
  transport : TransportKind
  metadata : ConnectionMetadata

/-- What the legacy hooks decide about a block. -/
inductive HookActionResult where
  | forward (length : Nat)
  | forwardOwned (bytes : Bytes)
  | hold
  | drop
  | close

inductive PacketFilterResult where
  | forward (bytes : Bytes)
  | drop
  | close

inductive DataPlaneActionResult where
  | forward (bytes : Bytes)
  | hold
  | drop
  | close
deriving DecidableEq

/-- The host as one block meets it. `processStreamData` gives the buffer as the legacy hooks
leave it with their decision; `nextExtensionEventId` is the counter when the block takes its
number from it. -/
structure PluginHost where
  history : KernelHistory
  processStreamData : PluginConnection → StreamDirection → Bytes → Bytes × HookActionResult
  packetFilters : ConnectionMetadata → StreamDirection → Bytes → PacketFilterResult
  nextExtensionEventId : UInt64

def stageContext (connection : PluginConnection) (direction : StreamDirection) :
    StageContext where
  transport := some (match connection.transport with
    | .tcp => "tcp"
    | .udp => "udp")
  protocol := some (match connection.transport with
    | .tcp => "tcp"
    | .udp => "udp")
  direction := some (match direction with
    | .clientToServer => "up"
    | .serverToClient => "down")
  host := some connection.metadata.targetHost
  address := some connection.metadata.clientAddress
  port := some connection.metadata.targetPort
  interceptionMode := .intercept

/-- A byte of a block as the payload of an event has it. -/
def encodeWireByte (byte : UInt8) : JsonValue := .number (.posInt byte.toUInt64)

def decodeWireByte (value : JsonValue) : Option UInt8 :=
  match value.asU64 with
  | some number => if number.toNat < 256 then some number.toUInt8 else none
  | none => none

/-- The payload of an event about a block. -/
def wirePayload (bytes : Bytes) : JsonValue :=
  .object [("bytes", .array (bytes.map encodeWireByte)), ("endOfStream", .bool false)]

/-- The bytes of a final payload. -/
def decodeWireBytes (payload : JsonValue) : Option Bytes := do
  let field ← payload.get "bytes"
  let items ← field.asArray
  items.mapM decodeWireByte

@[simp] theorem decodeWireByte_encodeWireByte (byte : UInt8) :
    decodeWireByte (encodeWireByte byte) = some byte := by
  have small : byte.toUInt64.toNat < 256 := by
    exact byte.toNat_lt
  simp only [encodeWireByte, decodeWireByte, JsonValue.asU64, small]
  simp

@[simp] theorem decodeWireBytes_wirePayload (bytes : Bytes) :
    decodeWireBytes (wirePayload bytes) = some bytes := by
  have items : (bytes.map encodeWireByte).mapM decodeWireByte = some bytes := by
    induction bytes with
    | nil => rfl
    | cons _ bytes =>
      simp_all
  exact items

/-- The stage of the blocks of a transport. -/
def dataPlaneStage : TransportKind → Stage
  | .tcp => .tcpChunk
  | .udp => .udpDatagram

namespace PluginHost

variable (host : PluginHost) (connection : PluginConnection) (direction : StreamDirection)

/-- The block that the legacy hooks hand on, or the result with which they keep it. -/
def legacyBytes (bytes : Bytes) : Except DataPlaneActionResult Bytes :=
  match host.processStreamData connection direction bytes with
  | (buffer, .forward length) => .ok (buffer.take length)
  | (_, .forwardOwned owned) => .ok owned
  | (_, .hold) => .error .hold
  | (_, .drop) => .error .drop
  | (_, .close) => .error .close

/-- The event about a block. Its generations are read at the moments one and two. -/
def dataPlaneEnvelope (bytes : Bytes) : EventEnvelope where
  apiVersion := "2.0.0"
  eventId := toString connection.connectionId ++ ":" ++ toString host.nextExtensionEventId
  stage := dataPlaneStage connection.transport
  serviceGeneration := (host.history.kernel 1).serviceGeneration
  recordingGeneration := (host.history.kernel 2).recordingGeneration
  pluginInstanceId := ""
  connectionId := some (toString connection.connectionId)
  transactionId := none
  deadlineUnixMs := 18446744073709551615
  context := stageContext connection direction
  payload := wirePayload bytes

/-- Some plan of the stage exists when the block arrives. -/
def hasSubscriptions : Bool :=
  ((host.history.kernel 0).plans (dataPlaneStage connection.transport)).isSome

/-- The wire result of a dispatch. -/
def dispatchedBytes (dispatch : DispatchResult) : Except DataPlaneActionResult Bytes :=
  match dispatch.terminalAction with
  | some .hold => .error .hold
  | some .drop => .error .drop
  | some .reject => .error .drop
  | some .close => .error .close
  | _ =>
    match decodeWireBytes dispatch.finalPayload with
    | some bytes => .ok bytes
    | none => .error .close

/-- What the Mods hand on of the block of the legacy hooks. -/
def modBytes (block : Bytes) : Except DataPlaneActionResult Bytes :=
  if host.hasSubscriptions connection then
    match host.history.dispatch 3 (host.dataPlaneEnvelope connection direction block) with
    | .ok dispatch => dispatchedBytes dispatch
    | .error _ => .error .close
  else .ok block

/-- The bytes that `processDataPlaneBytes` hands to `processFinalWireBytes`, or the result with
which it returns before. -/
def wireBytes (bytes : Bytes) : Except DataPlaneActionResult Bytes :=
  match host.legacyBytes connection direction bytes with
  | .ok block => host.modBytes connection direction block
  | .error result => .error result

def processFinalWireBytes (metadata : ConnectionMetadata) (bytes : Bytes) : DataPlaneActionResult :=
  match host.packetFilters metadata direction bytes with
  | .forward bytes => .forward bytes
  | .drop => .drop
  | .close => .close

def processDataPlaneBytes (bytes : Bytes) : DataPlaneActionResult :=
  match host.wireBytes connection direction bytes with
  | .ok bytes => host.processFinalWireBytes direction connection.metadata bytes
  | .error result => result

/-! ### Decisions of Mods -/

/-- The Mods that are invoked for a block answer with these accepted actions, and their chain
ends so. -/
structure ModsAnswer (bytes : Bytes) (kinds : List ActionKind)
    (ending : KernelHistory.ChainEnd) : Prop where
  subscribed : host.hasSubscriptions connection = true
  chain : ∃ block subscriptions, host.legacyBytes connection direction bytes = .ok block ∧
    validateEnvelopeGeneration (host.history.kernel 3)
      (host.dataPlaneEnvelope connection direction block) = .ok () ∧
    (host.history.kernel 4).plans (dataPlaneStage connection.transport) = some subscriptions ∧
    host.history.Answers (host.dataPlaneEnvelope connection direction block) 5 subscriptions
      (wirePayload block) kinds ending

/-- The actions that keep a block off the wire. -/
def Withholds : ActionKind → Prop
  | .hold | .drop | .reject | .close => True
  | _ => False

/-- What Mods decide about a block reaches the wire: a block that an invoked Mod withholds is
not forwarded, and a block that every invoked Mod lets pass goes to the packet filters as the
Mods received it. -/
structure DecisionsReachWire (bytes : Bytes) : Prop where
  withheld : ∀ kinds ending, host.ModsAnswer connection direction bytes kinds ending →
    ∀ kind ∈ kinds, Withholds kind →
      ∀ forwarded, host.processDataPlaneBytes connection direction bytes ≠ .forward forwarded
  unchanged : (∀ kinds ending, host.ModsAnswer connection direction bytes kinds ending →
      ∀ kind ∈ kinds, kind = .pass ∨ kind = .annotate) →
    ∀ block, host.legacyBytes connection direction bytes = .ok block →
      ∀ forwarded, host.wireBytes connection direction bytes = .ok forwarded → forwarded = block

/-- A Mod answers with `Hold` or `Drop`, and nothing that comes after it keeps the block back:
the rest of the chain runs to its end, the payload it leaves has bytes and the packet filters
forward them. -/
def LetsThrough (bytes : Bytes) : Prop :=
  ∃ kinds payload block forwarded,
    host.ModsAnswer connection direction bytes kinds (.finished payload) ∧
    (.hold ∈ kinds ∨ .drop ∈ kinds) ∧ decodeWireBytes payload = some block ∧
    host.packetFilters connection.metadata direction block = .forward forwarded

variable {host connection direction}

variable {kinds : List ActionKind} {ending : KernelHistory.ChainEnd} {bytes : Bytes}

/-- The dispatch behind the answers of the Mods, and what it hands on. -/
theorem ModsAnswer.dispatched (answers : host.ModsAnswer connection direction bytes kinds ending) :
    ∃ block result, host.legacyBytes connection direction bytes = .ok block ∧
      ending.Yields (emptyDispatch (wirePayload block)) result ∧
      host.wireBytes connection direction bytes = match result with
        | .ok dispatch => dispatchedBytes dispatch
        | .error _ => .error .close := by
  obtain ⟨subscribed, block, _, legacy, current, plan, chain⟩ := answers
  have yields := chain.yields (emptyDispatch (wirePayload block)) rfl
  refine ⟨block, _, legacy, yields, ?_⟩
  have dispatched := dispatch_of_plan current plan
  simp only [wireBytes, legacy, modBytes, subscribed, dispatched]
  rfl

theorem ModsAnswer.wireBytes_of_finished {payload : JsonValue}
    (answers : host.ModsAnswer connection direction bytes kinds (.finished payload)) :
    host.wireBytes connection direction bytes = match decodeWireBytes payload with
      | some block => .ok block
      | none => .error .close := by
  obtain ⟨block, _, _, ⟨dispatch, rfl, _, running⟩, _⟩ := answers.dispatched
  have untouched : dispatch.terminalAction = none := running
  grind [dispatchedBytes]

theorem ModsAnswer.wireBytes_of_failed
    (answers : host.ModsAnswer connection direction bytes kinds .failed) :
    host.wireBytes connection direction bytes = .error .close := by
  obtain ⟨_, _, _, ⟨_, rfl⟩, handed⟩ := answers.dispatched
  exact handed

/-- The stages of the data plane allow neither an answer of its own nor a redirection. -/
theorem unanswered_dataPlane (transport : TransportKind) :
    ActionKind.respond ∉ availableActions (dataPlaneStage transport) ∧
      ActionKind.redirect ∉ availableActions (dataPlaneStage transport) := by
  cases transport with
  | tcp | udp => decide

/-- A block whose chain was ended by a Mod goes the way the Mod decided: the stages of the data
plane have no other terminal action than `Reject` and `Close`. -/
theorem ModsAnswer.wireBytes_of_ended {kind : ActionKind}
    (answers : host.ModsAnswer connection direction bytes kinds (.ended kind)) :
    kind = .reject ∧ host.wireBytes connection direction bytes = .error .drop ∨
      kind = .close ∧ host.wireBytes connection direction bytes = .error .close := by
  obtain ⟨_, _, _, ⟨_, rfl, decided⟩, handed⟩ := answers.dispatched
  obtain ⟨-, _, _, -, -, -, chain⟩ := answers
  obtain ⟨member, terminal⟩ := chain.mem_of_ended
  have available : kind ∈ availableActions (dataPlaneStage connection.transport) :=
    chain.available kind member
  rw [handed]
  simp only [dispatchedBytes, decided]
  cases kind with
  | reject => exact .inl ⟨rfl, rfl⟩
  | close => exact .inr ⟨rfl, rfl⟩
  | respond => exact absurd available (unanswered_dataPlane connection.transport).1
  | redirect => exact absurd available (unanswered_dataPlane connection.transport).2
  | pass | modify | hold | drop | annotate => cases terminal

theorem processDataPlaneBytes_of_error {result : DataPlaneActionResult}
    (kept : host.wireBytes connection direction bytes = .error result) :
    host.processDataPlaneBytes connection direction bytes = result := by
  simp [processDataPlaneBytes, kept]

/-- Without a chain the Mods change nothing. -/
theorem wireBytes_of_unasked {bytes block forwarded : Bytes}
    (legacy : host.legacyBytes connection direction bytes = .ok block)
    (unasked : ¬ ∃ kinds ending, host.ModsAnswer connection direction bytes kinds ending)
    (handed : host.wireBytes connection direction bytes = .ok forwarded) : forwarded = block := by
  simp only [wireBytes, legacy, modBytes] at handed
  cases subscribed : host.hasSubscriptions connection with
  | false =>
    simp_all
  | true =>
    simp only [subscribed] at handed
    cases current : validateEnvelopeGeneration (host.history.kernel 3)
        (host.dataPlaneEnvelope connection direction block) with
    | error =>
      rw [dispatch_of_expired current] at handed
      cases handed
    | ok =>
      cases plan : (host.history.kernel 4).plans (dataPlaneStage connection.transport) with
      | none =>
        rw [dispatch_of_unplanned current plan] at handed
        grind [dispatchedBytes, emptyDispatch, dataPlaneEnvelope, decodeWireBytes_wirePayload]
      | some subscriptions =>
        obtain ⟨kinds, ending, answers⟩ := exists_answers (host.dataPlaneEnvelope connection direction block) 5 subscriptions (wirePayload block)
        exact absurd ⟨kinds, ending, subscribed, block, subscriptions, legacy, current, plan,
          answers⟩ unasked

/-- A chain in which every Mod lets the block pass hands it on as it is, if it hands it on. -/
theorem ModsAnswer.wireBytes_of_passed {bytes block forwarded : Bytes}
    (answers : host.ModsAnswer connection direction bytes kinds ending)
    (passed : ∀ kind ∈ kinds, kind = .pass ∨ kind = .annotate)
    (legacy : host.legacyBytes connection direction bytes = .ok block)
    (handed : host.wireBytes connection direction bytes = .ok forwarded) : forwarded = block := by
  cases ending with
  | failed =>
    rw [answers.wireBytes_of_failed] at handed
    cases handed
  | ended kind =>
    rcases answers.wireBytes_of_ended with ⟨-, kept⟩ | ⟨-, kept⟩ <;>
      rw [kept] at handed <;> cases handed
  | finished =>
    rw [answers.wireBytes_of_finished] at handed
    obtain ⟨-, _, _, ownLegacy, -, -, chain⟩ := answers
    rw [legacy] at ownLegacy
    cases ownLegacy
    have unmodified : ActionKind.modify ∉ kinds := by
      intro member
      rcases passed _ member with other | other <;> cases other
    rw [chain.payload_of_finished unmodified, decodeWireBytes_wirePayload] at handed
    exact (Except.ok.inj handed).symm

/-- A block that a Mod withholds is forwarded only if the Mod answered with `Hold` or `Drop`
and nothing after it kept the block back. -/
theorem ModsAnswer.letsThrough_of_forward {bytes forwarded : Bytes} {kind : ActionKind}
    (answers : host.ModsAnswer connection direction bytes kinds ending) (member : kind ∈ kinds)
    (withholds : Withholds kind)
    (sent : host.processDataPlaneBytes connection direction bytes = .forward forwarded) :
    host.LetsThrough connection direction bytes := by
  cases ending with
  | failed =>
    rw [processDataPlaneBytes_of_error answers.wireBytes_of_failed] at sent
    cases sent
  | ended kind =>
    rcases answers.wireBytes_of_ended with ⟨-, kept⟩ | ⟨-, kept⟩ <;>
      rw [processDataPlaneBytes_of_error kept] at sent <;> cases sent
  | finished payload =>
    have running : terminalAction kind = false := by
      by_contra terminal
      obtain ⟨-, block, _, -, -, -, chain⟩ := answers
      cases chain.ended_of_terminal member (by simpa using terminal)
    cases decoded : decodeWireBytes payload with
    | none =>
      have kept := answers.wireBytes_of_finished
      grind [processDataPlaneBytes_of_error]
    | some block =>
      have handed := answers.wireBytes_of_finished
      simp only [processDataPlaneBytes, processFinalWireBytes] at sent
      refine ⟨kinds, payload, block, forwarded, answers, ?_, decoded, ?_⟩
      · cases kind with
        | hold => exact .inl member
        | drop => exact .inr member
        | reject | close => cases running
        | pass | modify | respond | redirect | annotate => exact withholds.elim
      grind

/-- The decisions of Mods reach the wire for exactly the blocks that no Mod answers with `Hold`
or `Drop` to no effect. A `Reject` always drops the block and a `Close` always closes the
connection. -/
theorem decisionsReachWire_iff (host : PluginHost) (connection : PluginConnection)
    (direction : StreamDirection) (bytes : Bytes) :
    (host.DecisionsReachWire connection direction bytes ↔
      ¬ host.LetsThrough connection direction bytes) ∧
    ∀ kinds ending, host.ModsAnswer connection direction bytes kinds ending →
      (.reject ∈ kinds → host.processDataPlaneBytes connection direction bytes = .drop) ∧
      (.close ∈ kinds → host.processDataPlaneBytes connection direction bytes = .close) := by
  refine ⟨⟨?_, ?_⟩, ?_⟩
  · rintro reaches ⟨kinds, _, block, forwarded, answers, withheld, decoded, filtered⟩
    have handed := answers.wireBytes_of_finished
    rw [decoded] at handed
    have sent : host.processDataPlaneBytes connection direction bytes = .forward forwarded := by
      simp [processDataPlaneBytes, handed, processFinalWireBytes, filtered]
    rcases withheld with member | member
    · exact reaches.withheld kinds _ answers _ member trivial forwarded sent
    · exact reaches.withheld kinds _ answers _ member trivial forwarded sent
  · intro kept
    refine ⟨?_, ?_⟩
    · intro kinds ending answers kind member withholds forwarded sent
      exact kept (answers.letsThrough_of_forward member withholds sent)
    · intro passed block legacy forwarded handed
      by_cases asked : ∃ kinds ending, host.ModsAnswer connection direction bytes kinds ending
      · obtain ⟨kinds, ending, answers⟩ := asked
        exact answers.wireBytes_of_passed (passed kinds ending answers) legacy handed
      · exact wireBytes_of_unasked legacy asked handed
  · intro kinds ending answers
    have endedBy : ∀ kind ∈ kinds, terminalAction kind = true → ending = .ended kind := by
      obtain ⟨-, block, _, -, -, -, chain⟩ := answers
      exact fun kind member terminal => chain.ended_of_terminal member terminal
    refine ⟨fun member => ?_, fun member => ?_⟩
    · cases endedBy _ member rfl
      rcases answers.wireBytes_of_ended with ⟨-, kept⟩ | ⟨other, -⟩
      · exact processDataPlaneBytes_of_error kept
      · cases other
    · cases endedBy _ member rfl
      rcases answers.wireBytes_of_ended with ⟨other, -⟩ | ⟨-, kept⟩
      · cases other
      · exact processDataPlaneBytes_of_error kept

def droppingSubscription : CompiledSubscription where
  pluginId := "filter"
  moduleId := "main"
  moduleKind := .trafficHandler
  matchRule := {}

/-- A kernel with one Mod, which answers every block of a TCP stream with `Drop`. -/
def droppingKernel : ExtensionKernel where
  instances := (∅ : Table String ExtensionInstance).insert "filter"
    { id := "filter"
      version := "1.0.0"
      failurePolicy := .failClosed
      instanceGeneration := 1
      runtime := fun _ call => .ok
        { eventId := call.envelope.eventId
          action := .drop
          patch := []
          annotations := []
          output := none } }
  plans := fun stage =>
    if stage = .tcpChunk then some [droppingSubscription] else none
  serviceGeneration := 1
  recordingGeneration := 1

/-- A host with that kernel, no legacy hook and no packet filter. -/
def droppingHost : PluginHost where
  history :=
    { kernel := fun _ => droppingKernel
      elapsedMicroseconds := fun _ => 0
      payloadSize := fun _ => 0
      actionSize := fun _ => 0
      applyPatch := fun _ _ => none }
  processStreamData := fun _ _ bytes => (bytes, .forward bytes.length)
  packetFilters := fun _ _ bytes => .forward bytes
  nextExtensionEventId := 1

def tcpConnection : PluginConnection where
  connectionId := 7
  transport := .tcp
  metadata :=
    { transport := .tcp
      clientAddress := "127.0.0.1"
      targetHost := "example.test"
      targetPort := 443 }

/-- The Mod of `droppingHost` is asked about a block and drops it. -/
theorem droppingHost_drops (bytes : Bytes) :
    droppingHost.ModsAnswer tcpConnection .clientToServer bytes [.drop]
      (.finished (wirePayload bytes)) := by
  have whole : bytes.take bytes.length = bytes := List.take_length
  refine ⟨rfl, bytes, [droppingSubscription], congrArg Except.ok whole, rfl, rfl, ?_⟩
  have found : (droppingHost.history.kernel 5).instances.get? "filter" = some _ :=
    Table.get?_insert_self ∅ "filter" _
  refine @Answers.answered _
    _ 5 droppingSubscription []
    _ _ _ _ [] _ rfl found rfl ?_ rfl rfl rfl .done
  rfl

/-- The block that its only Mod drops is forwarded. -/
theorem not_decisionsReachWire_drop :
    droppingHost.processDataPlaneBytes tcpConnection .clientToServer [71, 69, 84] =
        .forward [71, 69, 84] ∧
      ¬ droppingHost.DecisionsReachWire tcpConnection .clientToServer [71, 69, 84] := by
  have answers := droppingHost_drops [71, 69, 84]
  have sent : droppingHost.processDataPlaneBytes tcpConnection .clientToServer [71, 69, 84] =
      .forward [71, 69, 84] := by
    rfl
  exact ⟨sent, fun reaches => reaches.withheld _ _ answers .drop (List.mem_singleton.mpr rfl) trivial
    _ sent⟩

end PluginHost

end SprakCapture.Plugins
