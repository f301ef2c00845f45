import SprakCapture.Data.Machine
import SprakCapture.Data.Tasks

/-!
# The queue of the mirror

Hooks of the pipeline hand copies of messages to the mirror, whose one writer task stores them.
`queuedWrites` counts the copies on their way; a hook takes a slot before it queues its copy and
the writer gives the slot back. A hook under the `Block` policy that finds no slot, and a `flush`
that finds copies on their way, wait for `queueAdvanced`.

The calls and the writer run as tasks, and one step of a task is one atomic access, one channel
operation or one call on the `Notify`.
-/

namespace SprakCapture.HttpProxy

open Data

def maximumQueueLength : Nat := 4096

def internalQueueCapacity : Nat := maximumQueueLength

/-- What happens when there is no slot. -/
inductive MirrorOverflowPolicy where
  | drop
  | block
deriving DecidableEq, Repr

inductive MirrorError where
  | invalidQueueLength
  | flushTimeout
deriving DecidableEq, Repr

/-- The part of the configuration that the queue reads. -/
structure MirrorConfiguration where
  onOverflow : MirrorOverflowPolicy := .drop
  maxQueueLength : Nat := 256
deriving DecidableEq, Repr

/-- The check of the bound of the queue. -/
def MirrorConfiguration.validate (configuration : MirrorConfiguration) : Except MirrorError Unit :=
  if 1 ≤ configuration.maxQueueLength ∧ configuration.maxQueueLength ≤ maximumQueueLength then
    .ok ()
  else .error .invalidQueueLength

/-- Where a call of `enqueue` stands. -/
inductive EnqueuePhase where
  /-- `reserveMirrorSlot` is about to read the counter. -/
  | loading
  /-- It has read the counter and is at the head of its loop. -/
  | comparing (current : Nat)
  /-- It has returned false. -/
  | refused
  /-- The call waits on a future of `queueAdvanced`, which may have been notified. -/
  | waiting (notified : Bool)
  /-- It has a slot and is about to send. -/
  | reserved
  /-- The channel did not take the copy and the slot is about to be given back. -/
  | unsent
  /-- The slot is given back and the waiters are about to be notified. -/
  | notifying
  /-- The copy is about to be counted as dropped. -/
  | dropping
  | done
  /-- The request went away while its call waited. -/
  | abandoned
deriving DecidableEq, Repr

/-- The phases with a slot of their own. -/
def EnqueuePhase.hasSlot : EnqueuePhase → Bool
  | .reserved => true
  | .unsent => true
  | _ => false

/-- A notification reaches the futures that exist. -/
def EnqueuePhase.notified : EnqueuePhase → EnqueuePhase
  | .waiting _ => .waiting true
  | phase => phase

/-- A call of `enqueue` with its copy of a message and its snapshot of the configuration. -/
structure EnqueueCall (Task : Type) where
  task : Task
  configuration : MirrorConfiguration
  phase : EnqueuePhase
deriving DecidableEq

/-- Where a call of `flush` stands. -/
inductive FlushPhase where
  /-- It is about to read the counter. -/
  | checking
  /-- The counter was positive. -/
  | busy
  | waiting (notified : Bool)
  | finished (result : Except MirrorError Unit)
deriving DecidableEq

def FlushPhase.notified : FlushPhase → FlushPhase
  | .waiting _ => .waiting true
  | phase => phase

/-- Where `runMirrorWriter` stands. -/
inductive MirrorWriter (Task : Type) where
  | receiving
  | writing (task : Task)
  /-- The file is written or not and the public state is about to say so. -/
  | reporting (result : Except String Unit)
  /-- The slot is about to be given back. -/
  | releasing
  /-- The slot is given back and the waiters are about to be notified. -/
  | notifying
deriving DecidableEq

/-- The copy that the writer has taken and whose slot is not given back. -/
def MirrorWriter.inWriting {Task : Type} : MirrorWriter Task → Bool
  | .receiving => false
  | .notifying => false
  | _ => true

/-- The mirror with its tasks. -/
structure MirrorState (Task : Type) where
  configuration : MirrorConfiguration
  queue : List Task
  queuedWrites : Nat
  writtenFiles : Nat
  droppedWrites : Nat
  lastError : Option String
  writer : MirrorWriter Task
  enqueues : List (EnqueueCall Task)
  flushes : List FlushPhase
deriving DecidableEq

namespace MirrorState

variable {Task : Type}

/-- `MirrorTool::new`. -/
def new (configuration : MirrorConfiguration) : MirrorState Task where
  configuration
  queue := []
  queuedWrites := 0
  writtenFiles := 0
  droppedWrites := 0
  lastError := none
  writer := .receiving
  enqueues := []
  flushes := []

/-- A configuration that fails its check changes nothing. -/
def replaceConfiguration (state : MirrorState Task) (configuration : MirrorConfiguration) :
    MirrorState Task :=
  match configuration.validate with
  | .ok () => { state with configuration }
  | .error _ => state

/-- A hook has taken its snapshot of the configuration and calls `enqueue`. -/
def enqueue (state : MirrorState Task) (task : Task) : MirrorState Task :=
  { state with
    enqueues := state.enqueues ++
      [{ task, configuration := state.configuration, phase := .loading }] }

def flush (state : MirrorState Task) : MirrorState Task :=
  { state with flushes := state.flushes ++ [.checking] }

/-- Every future that was created so far is notified. -/
def notifyWaiters (state : MirrorState Task) : MirrorState Task :=
  { state with
    enqueues := state.enqueues.map fun call => { call with phase := call.phase.notified }
    flushes := state.flushes.map FlushPhase.notified }

/-- Put a call of `enqueue` into its next phase. -/
def setPhase (state : MirrorState Task) (index : Nat) (call : EnqueueCall Task)
    (phase : EnqueuePhase) : MirrorState Task :=
  { state with enqueues := state.enqueues.set index { call with phase } }

def setFlush (state : MirrorState Task) (index : Nat) (phase : FlushPhase) : MirrorState Task :=
  { state with flushes := state.flushes.set index phase }

/-- The next step of a call of `enqueue`. A weak exchange may fail without a reason. -/
def runEnqueue (state : MirrorState Task) (index : Nat) (spurious : Bool) : MirrorState Task :=
  match state.enqueues[index]? with
  | none => state
  | some call =>
    match call.phase with
    | .loading => state.setPhase index call (.comparing state.queuedWrites)
    | .comparing current =>
      if call.configuration.maxQueueLength ≤ current then state.setPhase index call .refused
      else if state.queuedWrites = current ∧ spurious = false then
        { state with queuedWrites := current + 1 }.setPhase index call .reserved
      else state.setPhase index call (.comparing state.queuedWrites)
    | .refused =>
      match call.configuration.onOverflow with
      | .drop => state.setPhase index call .dropping
      | .block => state.setPhase index call (.waiting false)
    | .waiting true => state.setPhase index call .loading
    | .waiting false => state
    | .reserved =>
      if state.queue.length < internalQueueCapacity then
        { state with queue := state.queue ++ [call.task] }.setPhase index call .done
      else
        match call.configuration.onOverflow with
        | .drop => state.setPhase index call .unsent
        -- `send` waits until the channel has room.
        | .block => state
    | .unsent =>
      { state with queuedWrites := state.queuedWrites - 1 }.setPhase index call .notifying
    | .notifying => (state.setPhase index call .dropping).notifyWaiters
    | .dropping => { state with droppedWrites := state.droppedWrites + 1 }.setPhase index call .done
    | .done => state
    | .abandoned => state

/-- The request of a waiting call goes away. -/
def abandonEnqueue (state : MirrorState Task) (index : Nat) : MirrorState Task :=
  match state.enqueues[index]? with
  | none => state
  | some call =>
    match call.phase with
    | .waiting _ => state.setPhase index call .abandoned
    | _ => state

/-- The next step of a call of `flush`. -/
def runFlush (state : MirrorState Task) (index : Nat) : MirrorState Task :=
  match state.flushes[index]? with
  | some .checking =>
    if 0 < state.queuedWrites then state.setFlush index .busy
    else state.setFlush index (.finished (.ok ()))
  | some .busy => state.setFlush index (.waiting false)
  | some (.waiting true) => state.setFlush index .checking
  | _ => state

/-- The time of a waiting `flush` is up. -/
def timeoutFlush (state : MirrorState Task) (index : Nat) : MirrorState Task :=
  match state.flushes[index]? with
  | some (.waiting _) => state.setFlush index (.finished (.error .flushTimeout))
  | _ => state

/-- The next step of `runMirrorWriter`. The result is the one of the file that is written. -/
def runWriter (state : MirrorState Task) (result : Except String Unit) : MirrorState Task :=
  match state.writer with
  | .receiving =>
    match state.queue with
    | [] => state
    | task :: queue => { state with queue, writer := .writing task }
  | .writing _ =>
    match result with
    | .ok () => { state with writtenFiles := state.writtenFiles + 1, writer := .reporting result }
    | .error _ => { state with writer := .reporting result }
  | .reporting (.ok ()) => { state with lastError := none, writer := .releasing }
  | .reporting (.error code) => { state with lastError := some code, writer := .releasing }
  | .releasing => { state with queuedWrites := state.queuedWrites - 1, writer := .notifying }
  | .notifying => { state with writer := .receiving }.notifyWaiters

end MirrorState

/-- A step of one of the tasks. -/
inductive MirrorAction (Task : Type) where
  | replaceConfiguration (configuration : MirrorConfiguration)
  | enqueue (task : Task)
  | runEnqueue (index : Nat) (spurious : Bool)
  | abandonEnqueue (index : Nat)
  | flush
  | runFlush (index : Nat)
  | timeoutFlush (index : Nat)
  | runWriter (result : Except String Unit)
deriving DecidableEq

/-- The mirror, started with a configuration. -/
def mirror (Task : Type) (configuration : MirrorConfiguration) :
    Machine (MirrorState Task) (MirrorAction Task) where
  initial := .new configuration
  step state
    | .replaceConfiguration configuration => state.replaceConfiguration configuration
    | .enqueue task => state.enqueue task
    | .runEnqueue index spurious => state.runEnqueue index spurious
    | .abandonEnqueue index => state.abandonEnqueue index
    | .flush => state.flush
    | .runFlush index => state.runFlush index
    | .timeoutFlush index => state.timeoutFlush index
    | .runWriter result => state.runWriter result

end SprakCapture.HttpProxy
