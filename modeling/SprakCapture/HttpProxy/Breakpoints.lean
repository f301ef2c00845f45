import SprakCapture.Data.Machine
import SprakCapture.Data.Table
import SprakCapture.HttpProxy.MessageDraft
import SprakCapture.Location.Matcher

/-!
# Breakpoints

A message that meets a rule is suspended: its task puts an entry with the sending end of a
channel into a queue, and waits at the receiving end. Whoever takes the entry out of the queue
decides about the message. The queue is locked only while an entry is looked at, put in or taken
out, so that every other action can come between two steps of one call. Here each stretch of code
under one lock is one action.
-/

namespace SprakCapture.HttpProxy

open Data Location

/-! ### Configuration -/

inductive BreakpointTimeoutAction where
  | continueMessage
  | abort
deriving DecidableEq

structure BreakpointRule where
  id : String
  enabled : Bool
  location : LocationPattern
  onRequest : Bool
  onResponse : Bool
deriving DecidableEq

structure BreakpointsConfiguration where
  enabled : Bool
  rules : List BreakpointRule
  suspendTimeoutSeconds : UInt32
  maxSuspended : UInt16
  onTimeout : BreakpointTimeoutAction
deriving DecidableEq

inductive BreakpointError where
  | tooManyRules
  | invalidRuleId
  | duplicateRuleId
  | invalidLocation
  | invalidSuspendTimeout
  | invalidMaximumSuspended
  | notFound
  | resolutionClosed
  | invalidDraft (error : MessageDraftError)
deriving DecidableEq

def maximumBreakpointRules : Nat := 2000

def maximumBreakpointIdentifierLength : Nat := 128

/-- The checks of the rules, of which earlier ones have taken identifiers. -/
def validateRules (identifiers : List String) : List BreakpointRule → Except BreakpointError Unit
  | [] => .ok ()
  | rule :: rules =>
    if rule.id.isEmpty ∨ maximumBreakpointIdentifierLength < rule.id.utf8ByteSize then
      .error .invalidRuleId
    else if rule.id ∈ identifiers then .error .duplicateRuleId
    else
      match validateLocationPattern rule.location with
      | .error _ => .error .invalidLocation
      | .ok () => validateRules (rule.id :: identifiers) rules

def validateConfiguration (configuration : BreakpointsConfiguration) :
    Except BreakpointError Unit := do
  if maximumBreakpointRules < configuration.rules.length then throw .tooManyRules
  if configuration.suspendTimeoutSeconds < 1 ∨ 3600 < configuration.suspendTimeoutSeconds then
    throw .invalidSuspendTimeout
  if configuration.maxSuspended < 1 ∨ 1024 < configuration.maxSuspended then
    throw .invalidMaximumSuspended
  validateRules [] configuration.rules

/-- The first enabled rule for a phase that matches a location. -/
def firstMatchingRule (toLowercase : List Char → List Char) (phase : BreakpointPhase)
    (location : ResolvedLocation) :
    List BreakpointRule → Except BreakpointError (Option BreakpointRule)
  | [] => .ok none
  | rule :: rules =>
    let matchesPhase :=
      match phase with
      | .request => rule.onRequest
      | .response => rule.onResponse
    if !rule.enabled || !matchesPhase then firstMatchingRule toLowercase phase location rules
    else
      match locationMatches toLowercase rule.location location .default with
      | .error _ => .error .invalidLocation
      | .ok true => .ok (some rule)
      | .ok false => firstMatchingRule toLowercase phase location rules

def matchingRule (toLowercase : List Char → List Char) (configuration : BreakpointsConfiguration)
    (phase : BreakpointPhase) (location : ResolvedLocation) :
    Except BreakpointError (Option BreakpointRule) :=
  if !configuration.enabled then .ok none
  else firstMatchingRule toLowercase phase location configuration.rules

/-! ### Suspended messages -/

structure SuspendedBreakpoint where
  breakpointId : String
  transactionId : String
  phase : BreakpointPhase
  suspendedAtMilliseconds : UInt64
  expiresAtMilliseconds : UInt64
  draft : EditableHttpMessage
deriving DecidableEq

/-- What is decided about a suspended message. -/
inductive BreakpointResolution where
  | continueWith (draft : EditableHttpMessage)
  | abort
deriving DecidableEq

/-- An entry of the queue, with the waiter at the receiving end of its channel. The waiter also
stands for the ownership of the entry. -/
structure PendingBreakpoint where
  snapshot : SuspendedBreakpoint
  waiter : Nat
deriving DecidableEq

/-- A channel for one resolution. -/
inductive ResolutionChannel where
  | pending
  | resolved (resolution : BreakpointResolution)
  | closed
deriving DecidableEq

/-- How far a waiting task is. -/
inductive WaiterStage where
  /-- It waits for a resolution or the end of its time. -/
  | waiting
  /-- Its time is over and it is about to take its entry. -/
  | expired
  /-- Its entry is gone and it waits for the resolution alone. -/
  | awaiting
  | resolved (resolution : BreakpointResolution)
  /-- It has its resolution and its lease is dropped. -/
  | returned (resolution : BreakpointResolution)
  /-- The task was dropped, with its lease. -/
  | dropped
deriving DecidableEq

structure Waiter where
  snapshot : SuspendedBreakpoint
  configuration : BreakpointsConfiguration
  channel : ResolutionChannel
  stage : WaiterStage
deriving DecidableEq

/-- A task that has found a rule and does not have an entry yet. -/
structure MatchedMessage where
  transactionId : String
  phase : BreakpointPhase
  draft : EditableHttpMessage
  rule : BreakpointRule
  configuration : BreakpointsConfiguration
deriving DecidableEq

/-- A call of `continueBreakpoint` between its two locks. -/
structure ContinuingCall where
  transactionId : String
  phase : BreakpointPhase
  draft : EditableHttpMessage
deriving DecidableEq

/-- The tool with the tasks and calls that use it. A sender that was taken out of the queue is in
hand, with the resolution that is going to be sent or, when it is dropped, with none. -/
structure BreakpointsTool where
  configuration : BreakpointsConfiguration
  suspended : Table String PendingBreakpoint
  matched : Table Nat MatchedMessage
  waiters : Table Nat Waiter
  calls : Table Nat ContinuingCall
  inHand : Table Nat (Option BreakpointResolution)
  issued : Nat

inductive BreakpointAction where
  /-- A message comes to the tool and its task looks for a rule. -/
  | arrive (transactionId : Option String) (phase : BreakpointPhase)
      (location : ResolvedLocation) (draft : EditableHttpMessage) (bodyLength : Option Nat)
  /-- The task of a matched message puts its entry into the queue. -/
  | insert (message : Nat) (now : UInt64)
  /-- A waiter takes what its channel has. -/
  | receive (waiter : Nat)
  /-- The time of a waiter ends before its channel has anything. -/
  | expire (waiter : Nat)
  /-- A waiter whose time is over takes an entry out of the queue. -/
  | takeTimedOut (waiter : Nat)
  /-- A waiter with a resolution drops its lease and returns. -/
  | finish (waiter : Nat)
  /-- The task of a waiter is dropped. -/
  | cancel (waiter : Nat)
  /-- `continueBreakpoint` reads the phase and checks the draft. -/
  | continueItem (transactionId : String) (draft : EditableHttpMessage)
  /-- `continueBreakpoint` takes an entry out of the queue. -/
  | takeContinued (call : Nat)
  | abortItem (transactionId : String)
  | releaseAll
  /-- A sender in hand is used or dropped. -/
  | send (waiter : Nat)

namespace BreakpointsTool

/-- `BreakpointsTool::new`. -/
def new (configuration : BreakpointsConfiguration) : Except BreakpointError BreakpointsTool := do
  validateConfiguration configuration
  return {
    configuration
    suspended := ∅
    matched := ∅
    waiters := ∅
    calls := ∅
    inHand := ∅
    issued := 0 }

/-- The end of the time of a message that is suspended now. -/
def expiry (configuration : BreakpointsConfiguration) (now : UInt64) : UInt64 :=
  UInt64.ofNat
    (min (now.toNat + configuration.suspendTimeoutSeconds.toNat * 1000) (2 ^ 64 - 1))

/-- The first half of `suspend`, up to the lock of the queue. -/
def arrive (toLowercase : List Char → List Char) (tool : BreakpointsTool)
    (transactionId : Option String) (phase : BreakpointPhase) (location : ResolvedLocation)
    (draft : EditableHttpMessage) (bodyLength : Option Nat) : BreakpointsTool :=
  match transactionId with
  | none => tool
  | some transactionId =>
    if bodyLength.any (maximumEditableBodyBytes < ·) then tool
    else
      match matchingRule toLowercase tool.configuration phase location with
      | .ok (some rule) =>
        { tool with
          matched := tool.matched.insert tool.issued
            { transactionId, phase, draft, rule, configuration := tool.configuration }
          issued := tool.issued + 1 }
      | _ => tool

/-- The second half of `suspend`. A message that finds no place goes on. -/
def insert (tool : BreakpointsTool) (message : Nat) (now : UInt64) : BreakpointsTool :=
  match tool.matched.get? message with
  | none => tool
  | some found =>
    if found.configuration.maxSuspended.toNat ≤ tool.suspended.size ∨
        tool.suspended.contains found.transactionId then
      { tool with matched := tool.matched.erase message }
    else
      let snapshot : SuspendedBreakpoint :=
        { breakpointId := found.rule.id
          transactionId := found.transactionId
          phase := found.phase
          suspendedAtMilliseconds := now
          expiresAtMilliseconds := expiry found.configuration now
          draft := found.draft }
      { tool with
        matched := tool.matched.erase message
        suspended := tool.suspended.insert found.transactionId { snapshot, waiter := message }
        waiters := tool.waiters.insert message
          { snapshot, configuration := found.configuration, channel := .pending
            stage := .waiting } }

/-- Change the stage of a waiter. -/
def setStage (tool : BreakpointsTool) (waiter : Nat) (stage : WaiterStage) : BreakpointsTool :=
  { tool with waiters := tool.waiters.modify waiter fun task => { task with stage } }

/-- Take the entry of a transaction out of the queue, and its sender in hand. -/
def take (tool : BreakpointsTool) (transactionId : String)
    (resolution : Option BreakpointResolution) : BreakpointsTool :=
  match tool.suspended.get? transactionId with
  | none => tool
  | some pending =>
    { tool with
      suspended := tool.suspended.erase transactionId
      inHand := tool.inHand.insert pending.waiter resolution }

/-- `receiver.await`, or the same within the time of the waiter. -/
def receive (tool : BreakpointsTool) (waiter : Nat) : BreakpointsTool :=
  match tool.waiters.get? waiter with
  | some task =>
    if task.stage = .waiting ∨ task.stage = .awaiting then
      match task.channel with
      | .pending => tool
      | .resolved resolution => tool.setStage waiter (.resolved resolution)
      | .closed => tool.setStage waiter (.resolved .abort)
    else tool
  | none => tool

/-- The timer of a waiter is looked at after its channel. -/
def expire (tool : BreakpointsTool) (waiter : Nat) : BreakpointsTool :=
  match tool.waiters.get? waiter with
  | some task =>
    if task.stage = .waiting ∧ task.channel = .pending then tool.setStage waiter .expired
    else tool
  | none => tool

/-- What happens to a message whose time is over. -/
def timeoutResolution (task : Waiter) : BreakpointResolution :=
  match task.configuration.onTimeout with
  | .continueMessage => .continueWith task.snapshot.draft
  | .abort => .abort

/-- A waiter whose time is over decides itself when it finds an entry of its transaction. -/
def takeTimedOut (tool : BreakpointsTool) (waiter : Nat) : BreakpointsTool :=
  match tool.waiters.get? waiter with
  | some task =>
    if task.stage = .expired then
      if tool.suspended.contains task.snapshot.transactionId then
        (tool.take task.snapshot.transactionId none).setStage waiter
          (.resolved (timeoutResolution task))
      else tool.setStage waiter .awaiting
    else tool
  | none => tool

/-- `drop` of the lease of a waiter: its entry leaves the queue, and no other one. -/
def dropLease (tool : BreakpointsTool) (waiter : Nat) (transactionId : String) : BreakpointsTool :=
  match tool.suspended.get? transactionId with
  | some pending => if pending.waiter = waiter then tool.take transactionId none else tool
  | none => tool

def finish (tool : BreakpointsTool) (waiter : Nat) : BreakpointsTool :=
  match tool.waiters.get? waiter with
  | some task =>
    match task.stage with
    | .resolved resolution =>
      (tool.dropLease waiter task.snapshot.transactionId).setStage waiter
        (.returned resolution)
    | _ => tool
  | none => tool

/-- A task can be dropped where it waits. -/
def cancel (tool : BreakpointsTool) (waiter : Nat) : BreakpointsTool :=
  match tool.waiters.get? waiter with
  | some task =>
    if task.stage = .waiting ∨ task.stage = .awaiting then
      (tool.dropLease waiter task.snapshot.transactionId).setStage waiter .dropped
    else tool
  | none => tool

/-- The first half of `continueBreakpoint`. -/
def readPhase (http : HttpLibrary) (tool : BreakpointsTool) (transactionId : String)
    (draft : EditableHttpMessage) : Except BreakpointError BreakpointPhase :=
  match tool.suspended.get? transactionId with
  | none => .error .notFound
  | some pending =>
    match validateDraft http pending.snapshot.phase draft with
    | .error error => .error (.invalidDraft error)
    | .ok () => .ok pending.snapshot.phase

def continueItem (http : HttpLibrary) (tool : BreakpointsTool) (transactionId : String)
    (draft : EditableHttpMessage) : BreakpointsTool :=
  match tool.readPhase http transactionId draft with
  | .error _ => tool
  | .ok phase =>
    { tool with
      calls := tool.calls.insert tool.issued { transactionId, phase, draft }
      issued := tool.issued + 1 }

/-- The second half of `continueBreakpoint`. -/
def takeContinued (tool : BreakpointsTool) (call : Nat) : BreakpointsTool :=
  match tool.calls.get? call with
  | none => tool
  | some continuing =>
    { tool.take continuing.transactionId (some (.continueWith continuing.draft)) with
      calls := tool.calls.erase call }

/-- `releaseAll`: the queue is emptied at once, and the senders are used one after another. -/
def releaseAll (tool : BreakpointsTool) : BreakpointsTool :=
  { tool with
    suspended := ∅
    inHand := tool.suspended.values.foldl
      (fun inHand pending => inHand.insert pending.waiter (some .abort)) tool.inHand }

/-- A resolution goes into the channel of a waiter that is alive; a sender that is dropped closes
the channel. -/
def deliver (task : Waiter) (resolution : Option BreakpointResolution) : Waiter :=
  match task.channel, resolution with
  | .pending, some resolution => { task with channel := .resolved resolution }
  | .pending, none => { task with channel := .closed }
  | _, _ => task

def send (tool : BreakpointsTool) (waiter : Nat) : BreakpointsTool :=
  match tool.inHand.get? waiter with
  | none => tool
  | some resolution =>
    { tool with
      inHand := tool.inHand.erase waiter
      waiters := tool.waiters.modify waiter fun task => deliver task resolution }

/-- The answer of a call whose sender is used now. -/
def answer (tool : BreakpointsTool) (waiter : Nat) : Except BreakpointError Unit :=
  match (tool.waiters.get? waiter).map Waiter.stage with
  | none | some (.returned _) | some .dropped => .error .resolutionClosed
  | _ => .ok ()

def step (http : HttpLibrary) (toLowercase : List Char → List Char) (tool : BreakpointsTool) :
    BreakpointAction → BreakpointsTool
  | .arrive transactionId phase location draft bodyLength =>
    tool.arrive toLowercase transactionId phase location draft bodyLength
  | .insert message now => tool.insert message now
  | .receive waiter => tool.receive waiter
  | .expire waiter => tool.expire waiter
  | .takeTimedOut waiter => tool.takeTimedOut waiter
  | .finish waiter => tool.finish waiter
  | .cancel waiter => tool.cancel waiter
  | .continueItem transactionId draft => tool.continueItem http transactionId draft
  | .takeContinued call => tool.takeContinued call
  | .abortItem transactionId => tool.take transactionId (some .abort)
  | .releaseAll => tool.releaseAll
  | .send waiter => tool.send waiter

/-- The tool at work, from one state on. -/
def machine (http : HttpLibrary) (toLowercase : List Char → List Char)
    (initial : BreakpointsTool) : Machine BreakpointsTool BreakpointAction where
  initial
  step := step http toLowercase

end BreakpointsTool

end SprakCapture.HttpProxy
