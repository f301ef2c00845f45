import SprakCapture.Data.Framing
import SprakCapture.Data.Machine
import SprakCapture.Plugins.DataPlane

/-!
# Stream transformers

A connection-level transformer sees the bytes of a direction as one window, takes messages
off its front and answers with the frames to send in their place. The session keeps what no
message has taken yet, checks every decision and gives out the frames of a call only when
the whole call succeeds.
-/

namespace SprakCapture.Plugins

open Data

def maximumStreamBufferBytes : Nat := 16 * 1024 * 1024

def maximumOutputFramesPerDecision : Nat := 1024

def maximumDecodedFieldsPerFrame : Nat := 16384

/-- The number of values of `usize`. -/
def usizeLimit : Nat := 2 ^ 64

def checkedAdd (left right : Nat) : Option Nat :=
  if left + right < usizeLimit then some (left + right) else none

structure DecodedField where
  path : String
  valueType : String
  value : JsonValue
  offset : Nat
  length : Nat
  editable : Bool

structure DecodedFrame where
  frameType : String
  protocolVersion : Option String
  correlationId : Option String
  fields : List DecodedField
  annotations : List JsonValue

structure StreamOutputFrame where
  wireBytes : Bytes
  decoded : Option DecodedFrame

structure StreamInput where
  connectionId : UInt64
  direction : StreamDirection
  bytes : Bytes
  endOfStream : Bool

/-- What a transformer makes of a window. -/
inductive StreamTransformDecision where
  | needMore (minimumAdditionalBytes : Nat)
  | emit (consumedBytes : Nat) (outputFrames : List StreamOutputFrame)
  | drop (consumedBytes : Nat) (decoded : Option DecodedFrame)
  | close (reason : String)

inductive StreamTransformError where
  | bufferExceeded
  | timeout
  | runtimeFailed
  | invalidDecision
  | closed
deriving DecidableEq

/-- The bytes that frames have on the wire. -/
def wireLength (frames : List StreamOutputFrame) : Nat :=
  (frames.map (·.wireBytes.length)).sum

/-- What comes back from a transformer: an answer of its own, or nothing in time. -/
inductive StreamTransformAnswer where
  | timedOut
  | returned (result : Except StreamTransformError StreamTransformDecision)

/-- A transformer with the state it keeps for a connection. Both directions share that
state, and it may decide about the same window differently each time. -/
structure StreamTransformer (State : Type) where
  transform : State → StreamInput → State × StreamTransformAnswer
  close : State → UInt64 → State

/-! ### Checks of a decision -/

/-- A decision takes at least one byte, and none that is not in the window. -/
def validateConsumed (availableBytes consumedBytes : Nat) : Except StreamTransformError Unit :=
  if consumedBytes = 0 ∨ availableBytes < consumedBytes then .error .invalidDecision else .ok ()

def validateDecoded (decoded : Option DecodedFrame) : Except StreamTransformError Unit :=
  match decoded with
  | none => .ok ()
  | some decoded =>
    if decoded.frameType.isEmpty || maximumDecodedFieldsPerFrame < decoded.fields.length then
      .error .invalidDecision
    else if decoded.fields.any fun field =>
        field.path.isEmpty || (checkedAdd field.offset field.length).isNone then
      .error .invalidDecision
    else .ok ()

/-- The bytes of all frames, each of them checked. -/
def sumOutputBytes : Nat → List StreamOutputFrame → Except StreamTransformError Nat
  | total, [] => .ok total
  | total, frame :: frames => do
      validateDecoded frame.decoded
      match checkedAdd total frame.wireBytes.length with
      | none => .error .invalidDecision
      | some total => sumOutputBytes total frames

def validateDecision (availableBytes consumedBytes : Nat) (outputFrames : List StreamOutputFrame)
    (remainingOutputBytes : Nat) : Except StreamTransformError Unit := do
  validateConsumed availableBytes consumedBytes
  if outputFrames.isEmpty || maximumOutputFramesPerDecision < outputFrames.length then
    .error .invalidDecision
  else
    let outputBytes ← sumOutputBytes 0 outputFrames
    if remainingOutputBytes < outputBytes then .error .invalidDecision else .ok ()

/-! ### The session -/

/-- What the session keeps of one direction. -/
structure DirectionBuffer where
  bytes : Bytes
  endOfStream : Bool
deriving DecidableEq

def DirectionBuffer.new : DirectionBuffer := ⟨[], false⟩

/-- A session, with the budgets that `new` insists on. -/
structure StreamTransformerSession (State : Type) where
  connectionId : UInt64
  transformer : StreamTransformer State
  maximumBufferedBytes : Nat
  maximumOutputBytes : Nat
  budgets : 0 < maximumBufferedBytes ∧ maximumBufferedBytes ≤ maximumStreamBufferBytes ∧
    0 < maximumOutputBytes
  outputRange : maximumOutputBytes < usizeLimit

/-- What changes while a session lives. -/
structure SessionState (State : Type) where
  closed : Bool
  directions : StreamDirection → DirectionBuffer
  transformer : State

/-- One call at work on a direction. The source lets go of the bytes it drains; `drained`
keeps them. -/
structure Processing (State : Type) where
  transformer : State
  buffer : DirectionBuffer
  stagedOutput : List StreamOutputFrame
  stagedOutputBytes : Nat
  drained : Bytes

/-- How a turn of the loop ends. -/
inductive TransformTurn where
  | again
  | leaves
  | fails (error : StreamTransformError)

variable {State : Type}

namespace Processing

/-- Remove the bytes that a decision consumed. -/
def drain (state : Processing State) (consumedBytes : Nat) : Processing State :=
  { state with
    buffer := { state.buffer with bytes := state.buffer.bytes.drop consumedBytes }
    drained := state.drained ++ state.buffer.bytes.take consumedBytes }

/-- Keep the frames of a decision until the call ends. -/
def stage (state : Processing State) (outputFrames : List StreamOutputFrame) : Processing State :=
  { state with
    stagedOutput := state.stagedOutput ++ outputFrames
    stagedOutputBytes :=
      min (state.stagedOutputBytes + wireLength outputFrames) (usizeLimit - 1) }

/-- The loop goes on while there are bytes. -/
def goesOn (state : Processing State) : TransformTurn :=
  if state.buffer.bytes.isEmpty then .leaves else .again

end Processing

namespace StreamTransformerSession

/-- Create a session; a zero budget or an excessive one is refused. -/
def new (connectionId : UInt64) (transformer : StreamTransformer State)
    (timeoutNanoseconds maximumBufferedBytes maximumOutputBytes : Nat)
    (outputRange : maximumOutputBytes < usizeLimit) :
    Except StreamTransformError (StreamTransformerSession State) :=
  if timeoutNanoseconds = 0 then .error .invalidDecision
  else if budgets : 0 < maximumBufferedBytes ∧ maximumBufferedBytes ≤ maximumStreamBufferBytes ∧
      0 < maximumOutputBytes then
    .ok { connectionId, transformer, maximumBufferedBytes, maximumOutputBytes, budgets,
          outputRange }
  else .error .invalidDecision

variable (session : StreamTransformerSession State)

/-- Carry out a decision, once it has passed its checks. -/
def settle (state : Processing State) : StreamTransformDecision → Processing State × TransformTurn
  | .needMore minimumAdditionalBytes =>
    if minimumAdditionalBytes = 0 ∨ state.buffer.endOfStream ∨
        (checkedAdd state.buffer.bytes.length minimumAdditionalBytes).all
          (session.maximumBufferedBytes < ·) then
      (state, .fails .invalidDecision)
    else (state, .leaves)
  | .emit consumedBytes outputFrames =>
    match validateDecision state.buffer.bytes.length consumedBytes outputFrames
        (session.maximumOutputBytes - state.stagedOutputBytes) with
    | .error error => (state, .fails error)
    | .ok () =>
      let staged := (state.drain consumedBytes).stage outputFrames
      (staged, staged.goesOn)
  | .drop consumedBytes decoded =>
    match validateConsumed state.buffer.bytes.length consumedBytes, validateDecoded decoded with
    | .error error, _ => (state, .fails error)
    | .ok (), .error error => (state, .fails error)
    | .ok (), .ok () => (state.drain consumedBytes, (state.drain consumedBytes).goesOn)
  | .close _ => (state, .fails .closed)

/-- One turn of the loop: ask the transformer about the window and settle its answer. -/
def turn (direction : StreamDirection) (state : Processing State) : Processing State × TransformTurn :=
  let asked := session.transformer.transform state.transformer
    { connectionId := session.connectionId, direction, bytes := state.buffer.bytes,
      endOfStream := state.buffer.endOfStream }
  let state := { state with transformer := asked.1 }
  match asked.2 with
  | .timedOut => (state, .fails .timeout)
  | .returned (.error error) => (state, .fails error)
  | .returned (.ok decision) => session.settle state decision

/-- The loop of a call, for at most a number of turns. -/
def processLoop (direction : StreamDirection) :
    Nat → Processing State → Processing State × Outcome StreamTransformError Unit
  | 0, state => (state, .error .diverged)
  | turns + 1, state =>
    match session.turn direction state with
    | (state, .again) => processLoop direction turns state
    | (state, .leaves) => (state, .ok ())
    | (state, .fails error) => (state, Outcome.raise error)

/-- The error of a call that does not get to its loop. -/
def refusal (state : SessionState State) (direction : StreamDirection) (bytes : Bytes) :
    Option StreamTransformError :=
  if state.closed then some .closed
  else match checkedAdd (state.directions direction).bytes.length bytes.length with
    | none => some .bufferExceeded
    | some nextLength =>
      if session.maximumBufferedBytes < nextLength then some .bufferExceeded else none

/-- A call that has appended its bytes. -/
def appended (state : SessionState State) (direction : StreamDirection) (bytes : Bytes)
    (endOfStream : Bool) : Processing State where
  transformer := state.transformer
  buffer :=
    { bytes := (state.directions direction).bytes ++ bytes
      endOfStream := (state.directions direction).endOfStream || endOfStream }
  stagedOutput := []
  stagedOutputBytes := 0
  drained := []

/-- Take every whole message off the window. The loop drains a byte in every turn but its
last, so it has turns enough. -/
def extract (direction : StreamDirection) (start : Processing State) :
    Processing State × Outcome StreamTransformError (List StreamOutputFrame) :=
  if start.buffer.bytes.isEmpty then (start, .ok start.stagedOutput)
  else
    let looped := session.processLoop direction (start.buffer.bytes.length + 1) start
    (looped.1, do
      looped.2
      if looped.1.buffer.endOfStream && !looped.1.buffer.bytes.isEmpty then
        Outcome.raise .invalidDecision
      else .ok looped.1.stagedOutput)

/-- What a call leaves in the session. -/
def stored (state : SessionState State) (direction : StreamDirection)
    (processing : Processing State) : SessionState State :=
  { state with
    directions := Function.update state.directions direction processing.buffer
    transformer := processing.transformer }

/-- Append bytes to a direction and take every whole message off it. -/
def process (direction : StreamDirection) (bytes : Bytes) (endOfStream : Bool)
    (state : SessionState State) :
    SessionState State × Outcome StreamTransformError (List StreamOutputFrame) :=
  match session.refusal state direction bytes with
  | some error => (state, Outcome.raise error)
  | none =>
    let extracted := session.extract direction (appended state direction bytes endOfStream)
    (stored state direction extracted.1, extracted.2)

def push (direction : StreamDirection) (bytes : Bytes) :
    SessionState State → SessionState State × Outcome StreamTransformError (List StreamOutputFrame) :=
  session.process direction bytes false

def finish (direction : StreamDirection) :
    SessionState State → SessionState State × Outcome StreamTransformError (List StreamOutputFrame) :=
  session.process direction [] true

def close (state : SessionState State) : SessionState State :=
  if state.closed then state
  else
    { state with
      closed := true
      transformer := session.transformer.close state.transformer session.connectionId }

end StreamTransformerSession

end SprakCapture.Plugins
