import SprakCapture.Data.Machine
import SprakCapture.Data.Stages
import SprakCapture.Plugins.DataPlane

/-!
# Native plugins on a stream

A block of a stream passes the native plugins that match its connection, one after the other.
Each changes the block in place, and may shorten it, hold it until more bytes come, drop it or
have the connection closed. What a plugin holds is kept per direction with the index of the
plugin, and the next block of the direction joins it there.
-/

namespace SprakCapture.Plugins

open Data

def maximumHeldStreamBytes : Nat := 256 * 1024

inductive HookAction where
  | forward
  | hold
  | drop
  | close
deriving DecidableEq

def HookAction.fromRaw (value : Int32) : Option HookAction :=
  if value = 0 then some .forward
  else if value = 1 then some .hold
  else if value = 2 then some .drop
  else if value = 3 then some .close
  else none

/-- What a callback leaves behind: the buffer it was given, changed in place, its return code
and the length it wrote. -/
structure StreamDataReply (input : Bytes) where
  data : Bytes
  sameLength : data.length = input.length
  status : Int32
  length : Nat

variable {Environment : Type}

/-- A plugin that matches a connection. Callbacks may do anything to the environment, which
holds the state of all plugins and whatever else runs in the process. -/
structure NativePlugin (Environment : Type) where
  pluginId : String
  isEnabled : Environment → Bool
  onStreamData : Option (Environment → UInt64 → StreamDirection → (input : Bytes) →
    Environment × StreamDataReply input)

/-- The shared state of the host, as a part of the environment. -/
structure SharedState (Environment : Type) where
  takeCloseRequest : Environment → UInt64 → Environment × Bool
  markFailed : Environment → String → String → Environment

/-- Bytes that a plugin holds, with the index of that plugin. -/
structure PendingSegment where
  resumePluginIndex : Nat
  bytes : Bytes
deriving DecidableEq

/-- A connection with the plugins that match it. -/
structure HookedConnection (Environment : Type) where
  connection : PluginConnection
  matchedPlugins : List (NativePlugin Environment)
  shared : SharedState Environment

/-- Call a plugin on a buffer. An unknown return code and a length beyond the buffer are
errors of the plugin. -/
def NativePlugin.streamData (plugin : NativePlugin Environment) (connectionId : UInt64)
    (direction : StreamDirection) (buffer : Bytes) (environment : Environment) :
    Environment × Bytes × Option (HookAction × Nat) :=
  match plugin.onStreamData with
  | none => (environment, buffer, some (.forward, buffer.length))
  | some callback =>
    let answered := callback environment connectionId direction buffer
    let reply := answered.2
    (answered.1, reply.data, match HookAction.fromRaw reply.status with
      | none => none
      | some action => if buffer.length < reply.length then none else some (action, reply.length))

/-- How a pass over plugins ends. -/
inductive PassEnd where
  | through (length : Nat)
  | held (index : Nat) (pluginId : String) (length : Nat)
  | dropped
  | closed

/-- A pass over plugins: the buffer as they leave it, and the calls they answered. -/
structure PluginPass (Environment : Type) where
  environment : Environment
  buffer : Bytes
  calls : List (StageCall UInt8)
  ending : PassEnd

/-- A call put in front of the pass that follows it. -/
def PluginPass.after (pass : PluginPass Environment) (call : StageCall UInt8) :
    PluginPass Environment :=
  { pass with calls := call :: pass.calls }

namespace HookedConnection

variable (hooked : HookedConnection Environment) (direction : StreamDirection)

/-- Call plugins in their order on the first bytes of a buffer, as long as they forward. The
three loops of the source over plugins share this body; they differ in what follows a hold. -/
def runPlugins : Nat → List (NativePlugin Environment) → Bytes → Nat → Environment →
    PluginPass Environment
  | _, [], buffer, currentLength, environment => ⟨environment, buffer, [], .through currentLength⟩
  | index, plugin :: plugins, buffer, currentLength, environment =>
    if !plugin.isEnabled environment then ⟨environment, buffer, [], .closed⟩
    else
      let window := buffer.take currentLength
      let answered :=
        plugin.streamData hooked.connection.connectionId direction window environment
      let environment := answered.1
      let buffer := answered.2.1 ++ buffer.drop currentLength
      match answered.2.2 with
      | none =>
        ⟨hooked.shared.markFailed environment plugin.pluginId "pluginStreamDataFailed", buffer,
          [], .closed⟩
      | some (action, outputLength) =>
        let output := buffer.take outputLength
        match action with
        | .forward =>
          let taken :=
            hooked.shared.takeCloseRequest environment hooked.connection.connectionId
          if taken.2 then ⟨taken.1, buffer, [], .closed⟩
          else
            (runPlugins (index + 1) plugins buffer outputLength taken.1).after
              ⟨index, window, .forward, output⟩
        | .hold =>
          ⟨environment, buffer, [⟨index, window, .hold, output⟩],
            .held index plugin.pluginId outputLength⟩
        | .drop => ⟨environment, buffer, [⟨index, window, .drop, output⟩], .dropped⟩
        | .close => ⟨environment, buffer, [], .closed⟩

/-- A block processed: the segment that its direction keeps, the buffer, the result for the
caller and the calls that plugins answered. -/
structure Processed (Environment : Type) where
  environment : Environment
  pending : Option PendingSegment
  buffer : Bytes
  result : HookActionResult
  calls : List (StageCall UInt8)

/-- How a resumed block ends: `first` is the pass of the block alone over the plugins before
the one that holds, `second` the pass of the joined bytes from that plugin on. -/
def endResumed (first second : PluginPass Environment) : Processed Environment :=
  let calls := first.calls ++ second.calls
  match second.ending with
  | .closed => ⟨second.environment, none, first.buffer, .close, calls⟩
  | .dropped => ⟨second.environment, none, first.buffer, .drop, calls⟩
  | .held index _ length =>
    ⟨second.environment, some ⟨index, second.buffer.take length⟩, first.buffer, .hold, calls⟩
  | .through length =>
    ⟨second.environment, none, first.buffer, .forwardOwned (second.buffer.take length), calls⟩

/-- Join what came through the earlier plugins with the held bytes, if both fit. -/
def joinHeld (pending : PendingSegment) (first : PluginPass Environment) (inputLength : Nat) :
    Processed Environment :=
  if maximumHeldStreamBytes < pending.bytes.length + inputLength then
    ⟨match hooked.matchedPlugins[pending.resumePluginIndex]? with
      | some plugin => hooked.shared.markFailed first.environment plugin.pluginId
          "pluginHoldBufferExceeded"
      | none => first.environment, none, first.buffer, .close, first.calls⟩
  else
    let bytes := pending.bytes ++ first.buffer.take inputLength
    endResumed first (hooked.runPlugins direction pending.resumePluginIndex
      (hooked.matchedPlugins.drop pending.resumePluginIndex) bytes bytes.length first.environment)

/-- Resume the chain at the plugin that holds bytes. The plugins before that one see the block
alone; from that one on they see both. -/
def resumePendingStream (pending : PendingSegment) (buffer : Bytes) (environment : Environment) :
    Processed Environment :=
  let first := hooked.runPlugins direction 0
    (hooked.matchedPlugins.take pending.resumePluginIndex) buffer buffer.length environment
  match first.ending with
  | .closed => ⟨first.environment, none, first.buffer, .close, first.calls⟩
  | .dropped => ⟨first.environment, some pending, first.buffer, .drop, first.calls⟩
  | .held _ pluginId _ =>
    ⟨hooked.shared.markFailed first.environment pluginId "pluginNestedHold", none, first.buffer,
      .close, first.calls⟩
  | .through inputLength => hooked.joinHeld direction pending first inputLength

/-- How a block that met no held bytes ends. -/
def endFresh (pass : PluginPass Environment) : Processed Environment :=
  match pass.ending with
  | .closed => ⟨pass.environment, none, pass.buffer, .close, pass.calls⟩
  | .dropped => ⟨pass.environment, none, pass.buffer, .drop, pass.calls⟩
  | .held index pluginId length =>
    if hooked.connection.transport = .udp then
      ⟨pass.environment, none, pass.buffer, .drop, pass.calls⟩
    else if maximumHeldStreamBytes < length then
      ⟨hooked.shared.markFailed pass.environment pluginId "pluginHoldBufferExceeded", none,
        pass.buffer, .close, pass.calls⟩
    else
      ⟨pass.environment, some ⟨index, pass.buffer.take length⟩, pass.buffer, .hold, pass.calls⟩
  | .through length => ⟨pass.environment, none, pass.buffer, .forward length, pass.calls⟩

/-- Pass a block through the plugins. -/
def processStreamData (pending : Option PendingSegment) (buffer : Bytes)
    (environment : Environment) : Processed Environment :=
  let taken := hooked.shared.takeCloseRequest environment hooked.connection.connectionId
  if taken.2 then ⟨taken.1, pending, buffer, .close, []⟩
  else match pending with
    | some pending => hooked.resumePendingStream direction pending buffer taken.1
    | none =>
      hooked.endFresh
        (hooked.runPlugins direction 0 hooked.matchedPlugins buffer buffer.length taken.1)

/-- The bytes that the caller sends on. -/
def Processed.sent (processed : Processed Environment) : Bytes :=
  match processed.result with
  | .forward length => processed.buffer.take length
  | .forwardOwned bytes => bytes
  | _ => []

/-- The stream of a connection: what each direction keeps pending, and the history of what
came in, which calls plugins answered and what was sent. -/
structure StreamHistory (Environment : Type) where
  environment : Environment
  pending : StreamDirection → Option PendingSegment
  received : StreamDirection → Bytes
  calls : StreamDirection → List (StageCall UInt8)
  sent : StreamDirection → Bytes
  closed : Bool

/-- Blocks arrive in both directions, in any order, until a call returns `Close`. -/
def streamMachine (environment : Environment) :
    Machine (StreamHistory Environment) (StreamDirection × Bytes) where
  initial :=
    { environment, pending := fun _ => none, received := fun _ => [], calls := fun _ => [],
      sent := fun _ => [], closed := false }
  step history arrival :=
    if history.closed then history
    else
      let direction := arrival.1
      let processed := hooked.processStreamData direction (history.pending direction) arrival.2
        history.environment
      { environment := processed.environment
        pending := Function.update history.pending direction processed.pending
        received :=
          Function.update history.received direction (history.received direction ++ arrival.2)
        calls := Function.update history.calls direction (history.calls direction ++ processed.calls)
        sent := Function.update history.sent direction (history.sent direction ++ processed.sent)
        closed :=
          match processed.result with
          | .close => true
          | _ => false }

end HookedConnection

end SprakCapture.Plugins
