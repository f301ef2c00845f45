import SprakCapture.Capture.PacketIndex
import SprakCapture.Plugins.DataPlane

/-!
# Recording of transparent streams

Both directions of a relayed connection hand the blocks they have written to one queue of
limited length. A writer takes them from there and appends each to the spool of its side, with
a packet that refers to the range. The connection ends with an event of its own, or with the
last sender of the queue when its task is dropped.
-/

namespace SprakCapture.Control

open Data Plugins Capture

/-! ### Changed bytes -/

/-- The runs of positions in which two blocks of one length differ. -/
def differenceRuns : Nat → Bytes → Bytes → List StreamPacketModification
  | offset, original :: originals, modified :: modifieds =>
    if original = modified then differenceRuns (offset + 1) originals modifieds
    else
      match differenceRuns (offset + 1) originals modifieds with
      | run :: runs =>
        if run.offsetBytes = offset + 1 then
          { offsetBytes := offset
            originalBytes := ⟨original :: run.originalBytes.items, 0⟩
            modifiedBytes := ⟨modified :: run.modifiedBytes.items, 0⟩ } :: runs
        else ⟨offset, ⟨[original], 0⟩, ⟨[modified], 0⟩⟩ :: run :: runs
      | [] => [⟨offset, ⟨[original], 0⟩, ⟨[modified], 0⟩⟩]
  | _, _, _ => []

/-- The number of bytes that two blocks begin with in common. -/
def commonBytes (left right : Bytes) : Nat :=
  ((left.zip right).takeWhile fun pair => pair.1 = pair.2).length

/-- What has been changed in a block. Blocks of different lengths differ between the bytes they
begin with and the bytes they end with in common. -/
def deriveWireByteModifications (original modified : Bytes) : List StreamPacketModification :=
  if original = modified then []
  else if original.length = modified.length then differenceRuns 0 original modified
  else
    let prefixBytes := commonBytes original modified
    let maximumSuffixBytes := min (original.length - prefixBytes) (modified.length - prefixBytes)
    let suffixBytes := min maximumSuffixBytes (commonBytes original.reverse modified.reverse)
    let middle (bytes : Bytes) : Buffer UInt8 :=
      ⟨(bytes.take (bytes.length - suffixBytes)).drop prefixBytes, 0⟩
    [⟨prefixBytes, middle original, middle modified⟩]

/-! ### The writer -/

/-- A block as it is recorded. -/
structure CapturedChunk where
  bytes : Bytes
  capturedAtMilliseconds : UInt64
  action : StreamPacketAction
  modifications : List StreamPacketModification
deriving DecidableEq

/-- How the relay of a connection ended. -/
inductive RelayTerminal where
  | complete
  | cancelled
  | failed (detail : String)
deriving DecidableEq

inductive CaptureEvent where
  | chunk (side : MessageSide) (chunk : CapturedChunk)
  | terminal (terminal : RelayTerminal)
deriving DecidableEq

/-- A file that a body is appended to. -/
structure BodySpool where
  contents : Bytes
deriving DecidableEq

def BodySpool.writtenBytes (spool : BodySpool) : Nat := spool.contents.length

/-- What the writer keeps of one side. -/
structure CaptureSide where
  spool : BodySpool
  packets : List StreamPacket
deriving DecidableEq

/-- Append a block and the packet that refers to it. -/
def appendCapturedChunk (side : CaptureSide) (chunk : CapturedChunk) : CaptureSide where
  spool := ⟨side.spool.contents ++ chunk.bytes⟩
  packets := side.packets ++
    [{ sequence := UInt64.ofNat (side.packets.length + 1)
       capturedAtMilliseconds := chunk.capturedAtMilliseconds
       storedOffsetBytes := side.spool.writtenBytes
       storedBytes := chunk.bytes.length
       originalBytes := chunk.bytes.length
       truncated := false
       action := chunk.action
       modifications := chunk.modifications }]

inductive WriterStatus where
  /-- It waits for events. -/
  | receiving
  /-- A spool could not be written. -/
  | failed
  /-- All events are taken, and the bodies and packets are to be stored. -/
  | storing (terminal : RelayTerminal)
deriving DecidableEq

/-- `captureQueueChunks`. -/
def captureQueueChunks : Nat := 16

/-! ### The relay -/

/-- One direction of a relayed connection. `written` is all that its peer has been sent. -/
structure RelayDirection where
  running : Bool
  /-- It has a sender for what it relays. -/
  capturing : Bool
  /-- The block that waits for room in the queue. -/
  waiting : Option CapturedChunk
  written : Bytes
deriving DecidableEq

def RelayDirection.start : RelayDirection := ⟨true, true, none, []⟩

/-- How writing a block to the peer ends. -/
inductive WriteOutcome where
  | complete
  /-- It fails or is dropped after some bytes. -/
  | partly (byteCount : Nat)
deriving DecidableEq

/-- A relayed connection with its recording. -/
structure TransparentRelay where
  upload : RelayDirection
  download : RelayDirection
  /-- Both directions are over, and the terminal event was sent or the task was dropped. -/
  ended : Bool
  queue : List CaptureEvent
  request : CaptureSide
  response : CaptureSide
  writer : WriterStatus
deriving DecidableEq

namespace TransparentRelay

def start : TransparentRelay where
  upload := .start
  download := .start
  ended := false
  queue := []
  request := ⟨⟨[]⟩, []⟩
  response := ⟨⟨[]⟩, []⟩
  writer := .receiving

def direction (relay : TransparentRelay) : MessageSide → RelayDirection
  | .request => relay.upload
  | .response => relay.download

def withDirection (relay : TransparentRelay) (side : MessageSide) (direction : RelayDirection) :
    TransparentRelay :=
  match side with
  | .request => { relay with upload := direction }
  | .response => { relay with download := direction }

def captured (relay : TransparentRelay) : MessageSide → CaptureSide
  | .request => relay.request
  | .response => relay.response

def withCaptured (relay : TransparentRelay) (side : MessageSide) (captured : CaptureSide) :
    TransparentRelay :=
  match side with
  | .request => { relay with request := captured }
  | .response => { relay with response := captured }

end TransparentRelay

/-- The block that `relayDirection` records of what it has written. -/
def forwardedChunk (original bytes : Bytes) (now : UInt64) : CapturedChunk where
  bytes := bytes
  capturedAtMilliseconds := now
  action := if bytes = original then .forward else .replace
  modifications := deriveWireByteModifications original bytes

/-- The block that `recordInterceptedChunk` records of what it has not written. -/
def interceptedChunk (original : Bytes) (now : UInt64) (action : StreamPacketAction) :
    CapturedChunk where
  bytes := original
  capturedAtMilliseconds := now
  action := action
  modifications := []

namespace RelayDirection

/-- A block is handed to the recording, if there is one. -/
def record (direction : RelayDirection) (chunk : CapturedChunk) : RelayDirection :=
  if direction.capturing then { direction with waiting := some chunk } else direction

/-- What a direction does with a block it has read, when the data plane has decided on it. -/
def relay (direction : RelayDirection) (original : Bytes) (result : DataPlaneActionResult)
    (outcome : WriteOutcome) (now : UInt64) : RelayDirection :=
  match result with
  | .forward bytes =>
    match outcome with
    | .complete =>
      { direction with written := direction.written ++ bytes }.record
        (forwardedChunk original bytes now)
    | .partly byteCount =>
      { direction with written := direction.written ++ bytes.take byteCount, running := false }
  | .hold => direction
  | .drop => direction.record (interceptedChunk original now .drop)
  | .close => { direction with running := false }.record (interceptedChunk original now .close)

/-- The direction is over. What it waits to record is lost. -/
def dropped (direction : RelayDirection) : RelayDirection :=
  { direction with running := false, waiting := none }

end RelayDirection

/-! ### Interleavings -/

inductive RelayAction where
  /-- A direction reads a block, and gets a decision on it. -/
  | read (side : MessageSide) (original : Bytes) (result : DataPlaneActionResult)
      (outcome : WriteOutcome) (now : UInt64)
  /-- The queue has room for the block that a direction waits to record, or nobody receives. -/
  | send (side : MessageSide)
  /-- A direction reads the end of its stream, or its stream fails. -/
  | stop (side : MessageSide)
  /-- A direction is given up because the other one has failed. -/
  | drop (side : MessageSide)
  /-- Both directions are over, and the queue has room for the event that says so. -/
  | finish (terminal : RelayTerminal)
  /-- The task of the connection is dropped. -/
  | abandon
  /-- The writer takes an event; its spool may fail. -/
  | take (appended : Bool)

namespace TransparentRelay

/-- The writer takes the first event, or notices that none will come. -/
def receive (relay : TransparentRelay) (appended : Bool) : TransparentRelay :=
  match relay.writer, relay.queue with
  | .receiving, .chunk side chunk :: queue =>
    if appended then
      { relay with queue := queue }.withCaptured side
        (appendCapturedChunk (relay.captured side) chunk)
    else { relay with queue := queue, writer := .failed }
  | .receiving, .terminal terminal :: queue =>
    { relay with queue := queue, writer := .storing terminal }
  | .receiving, [] => if relay.ended then { relay with writer := .storing .cancelled } else relay
  | _, _ => relay

/-- A direction waits until its block is in the queue. It gives up recording when the writer is
gone. -/
def admitChunk (relay : TransparentRelay) (side : MessageSide) : TransparentRelay :=
  let direction := relay.direction side
  match direction.waiting with
  | none => relay
  | some chunk =>
    if relay.writer = .receiving then
      if relay.queue.length < captureQueueChunks then
        { relay with queue := relay.queue ++ [CaptureEvent.chunk side chunk] }.withDirection side
          { direction with waiting := none }
      else relay
    else relay.withDirection side { direction with waiting := none, capturing := false }

/-- A direction is over that waits for nothing. -/
def idle (direction : RelayDirection) : Bool :=
  !direction.running && direction.waiting.isNone

def step (relay : TransparentRelay) : RelayAction → TransparentRelay
  | .read side original result outcome now =>
    let direction := relay.direction side
    if direction.running ∧ direction.waiting = none ∧ original ≠ [] then
      relay.withDirection side (direction.relay original result outcome now)
    else relay
  | .send side => relay.admitChunk side
  | .stop side =>
    let direction := relay.direction side
    if direction.waiting = none then
      relay.withDirection side { direction with running := false }
    else relay
  | .drop side => relay.withDirection side (relay.direction side).dropped
  | .finish terminal =>
    if idle relay.upload ∧ idle relay.download ∧ !relay.ended then
      if relay.writer = .receiving then
        if relay.queue.length < captureQueueChunks then
          { relay with queue := relay.queue ++ [.terminal terminal], ended := true }
        else relay
      else { relay with ended := true }
    else relay
  | .abandon =>
    { relay with
      upload := relay.upload.dropped
      download := relay.download.dropped
      ended := true }
  | .take appended => relay.receive appended

end TransparentRelay

/-- A relayed connection that is recorded. -/
def relayMachine : Machine TransparentRelay RelayAction where
  initial := .start
  step := TransparentRelay.step

/-- The last part of `runCaptureWriter`: both bodies, and then the packets of both sides. -/
def storeCapture (env : Environment) (session : RecordingSession) (transactionId : Uuid)
    (requestSpool responseSpool : Uuid) (removed : Bool × Bool)
    (requestPackets responsePackets : Buffer StreamPacket)
    (scripts : List Await × List Await × List Await) : Except Stop Unit × RecordingSession :=
  match session.storeBodySpools env transactionId requestSpool responseSpool
      ⟨"application/octet-stream".toList, 0⟩ ⟨"binary".toList, 0⟩ removed scripts.1 with
  | (.error stop, session) => (.error stop, session)
  | (.ok _, session) =>
    match session.storeStreamPackets env transactionId .request requestPackets scripts.2.1 with
    | (.error stop, session) => (.error stop, session)
    | (.ok (), session) =>
      session.storeStreamPackets env transactionId .response responsePackets scripts.2.2

end SprakCapture.Control
