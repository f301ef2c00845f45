import Mathlib.Data.List.Dedup
import SprakCapture.Control.SocksTransactionProjection

/-!
# One transaction for each session

A session gets one transaction as long as it is remembered for as long as snapshots of it come.
The memory holds the sessions that were finalised last, so a session is forgotten when as many
others as the limit says are finalised after it.
-/

namespace SprakCapture.Control

open Data Socks5 List Option RecordingEvent SocksTransactionProjector Table RecordingAnswers
open Capture (CaptureError)

/-! ### Runs -/

/-- A transaction that the recording has taken, with what the projector knew when it was begun. -/
structure BegunTransaction where
  sessionId : String
  captureGeneration : Nat
  minimumCaptureGeneration : Nat
  finalizedBefore : Bool
  transactionId : String
deriving DecidableEq

/-- The projector with what has happened: the transactions that were begun, those that have ended
in the recording, and the sessions that were seen in a terminal state. -/
structure ProjectionRun where
  projector : SocksTransactionProjector
  begun : List BegunTransaction
  settled : List String
  ended : List String

inductive ProjectionAction where
  /-- The recording is cleared; the sessions are traversed in some order. -/
  | advance (minimumCaptureGeneration : Nat) (traversal : List String)
  | project (session : SessionSnapshot) (answers : RecordingAnswers)

/-- The answer that begins a transaction. -/
def RecordingEvent.begun? : RecordingEvent → Option String
  | .began _ (.ok transactionId) => transactionId
  | _ => none

/-- No call asks the recording to begin a transaction. -/
def RecordingEvent.isBegin : RecordingEvent → Bool
  | .began .. => true
  | _ => false

/-- The recording has taken what belongs to the end of a session. -/
def RecordingAnswers.settles (answers : RecordingAnswers) : Bool :=
  answers.beginTransaction.isOk && accepted answers.updateProgress &&
    answers.storeCapturedBodies.isOk && accepted answers.terminal

namespace ProjectionRun

/-- The transactions that a clear of the recording removes. -/
def cleared (run : ProjectionRun) (minimumCaptureGeneration : Nat) : List String :=
  run.projector.active.toList.filterMap fun entry =>
    if entry.2.captureGeneration < minimumCaptureGeneration then entry.2.transactionId else none

def step (run : ProjectionRun) : ProjectionAction → ProjectionRun
  | .advance minimumCaptureGeneration traversal =>
    { run with
      projector :=
        run.projector.advanceCaptureGeneration minimumCaptureGeneration traversal
      settled :=
        if minimumCaptureGeneration ≤ run.projector.minimumCaptureGeneration then run.settled
        else run.settled ++ run.cleared minimumCaptureGeneration }
  | .project session answers =>
    let projected := run.projector.project session answers
    { projector := projected.projector
      begun := run.begun ++ (projected.events.filterMap RecordingEvent.begun?).map fun begun =>
        { sessionId := session.sessionId
          captureGeneration := session.captureGeneration
          minimumCaptureGeneration := run.projector.minimumCaptureGeneration
          finalizedBefore := decide (session.sessionId ∈ run.projector.history)
          transactionId := begun }
      settled := run.settled ++ projected.events.filterMap RecordingEvent.settled?
      ended :=
        if session.state.isTerminal then session.sessionId :: run.ended else run.ended }

/-- A session with a transaction keeps its generation and its protocol. A session is remembered
while snapshots of it come that could begin a transaction, and when it ends the recording takes its
end. -/
def Orderly (run : ProjectionRun) : ProjectionAction → Prop
  | .advance .. => True
  | .project session answers =>
    ((run.projector.active.get? session.sessionId).all fun projection =>
      projection.captureGeneration = session.captureGeneration &&
        projectableTransport session) = true ∧
    (session.sessionId ∈ run.projector.history →
      session.sessionId ∈ run.projector.history.take run.projector.historyLimit ∨
        session.captureGeneration < run.projector.minimumCaptureGeneration ∨
        projectableTransport session = false ∨ beginTransactionInput session = none) ∧
    (session.state.isTerminal = true → answers.settles = true)

instance (run : ProjectionRun) (action : ProjectionAction) : Decidable (run.Orderly action) := by
  unfold Orderly
  split <;> infer_instance

/-- Each session has at most one transaction, of its own generation, and is not begun again after
it was finalised; a session that was seen in a terminal state is finalised, with its transaction;
and the memory is within its limit. -/
structure ProjectedOnce (run : ProjectionRun) : Prop where
  once : (run.begun.map BegunTransaction.sessionId).Nodup
  notAgain : ∀ begun ∈ run.begun, begun.finalizedBefore = false
  current : ∀ begun ∈ run.begun, begun.minimumCaptureGeneration ≤ begun.captureGeneration
  ended : ∀ sessionId ∈ run.ended, sessionId ∈ run.projector.history ∧
    run.projector.active.get? sessionId = none ∧
    ∀ begun ∈ run.begun, begun.sessionId = sessionId → begun.transactionId ∈ run.settled
  order : run.projector.finalized.order.length ≤ run.projector.historyLimit
  size : run.projector.finalized.keys.size ≤ run.projector.historyLimit

end ProjectionRun

def projectionMachine (historyLimit : Nat) : Machine ProjectionRun ProjectionAction where
  initial := { projector := .new historyLimit, begun := [], settled := [], ended := [] }
  step := ProjectionRun.step

/-! ### What a snapshot changes -/

/-- What stays of the transaction of a session. -/
def ActiveProjection.identity (projection : ActiveProjection) : Option String × Nat :=
  (projection.transactionId, projection.captureGeneration)

namespace SocksTransactionProjector

/-- The projections are the same up to what was observed of them. -/
structure Continued (before after : SocksTransactionProjector) : Prop where
  finalized : after.finalized = before.finalized
  historyLimit : after.historyLimit = before.historyLimit
  minimum : after.minimumCaptureGeneration = before.minimumCaptureGeneration
  history : after.history = before.history
  active : ∀ sessionId, (after.active.get? sessionId).map ActiveProjection.identity =
    (before.active.get? sessionId).map ActiveProjection.identity

variable {projector : SocksTransactionProjector} {session : SessionSnapshot}
  {answers : RecordingAnswers} {events : List RecordingEvent}

theorem continued_refl (projector : SocksTransactionProjector) : projector.Continued projector :=
  ⟨rfl, rfl, rfl, rfl, fun _ => rfl⟩

theorem Continued.trans {first second third : SocksTransactionProjector}
    (before : first.Continued second) (after : second.Continued third) :
    first.Continued third where
  finalized := after.finalized.trans before.finalized
  historyLimit := after.historyLimit.trans before.historyLimit
  minimum := after.minimum.trans before.minimum
  history := after.history.trans before.history
  active := fun sessionId => (after.active sessionId).trans (before.active sessionId)

theorem continued_adjust (sessionId : String) {change : ActiveProjection → ActiveProjection}
    (keeps : ∀ projection, (change projection).identity = projection.identity) :
    projector.Continued (projector.adjust sessionId change) where
  finalized := rfl
  historyLimit := rfl
  minimum := rfl
  history := rfl
  active := by
    intro _
    unfold adjust
    rw [get?_modify]
    split
    · rw [Option.map_map]
      congr 1
      exact funext keeps
    · rfl

/-- What a synchronisation leads to: the session goes on, or it is remembered and its transaction
has ended in the recording. -/
def Synchronized (projector : SocksTransactionProjector) (session : SessionSnapshot)
    (transactionId : Option String) (answers : RecordingAnswers) (events : List RecordingEvent)
    (projected : Projected) : Prop :=
  ∃ middle more, projector.Continued middle ∧ projected.events = events ++ more ∧
    (∀ event ∈ more, event.isBegin = false) ∧
    ((projected.projector = middle ∧ ¬ (session.state.isTerminal = true ∧ answers.settles = true)) ∨
      (projected.projector = middle.rememberFinalized session.sessionId ∧
        ∀ identifier, transactionId = some identifier →
          identifier ∈ more.filterMap RecordingEvent.settled?))

theorem Synchronized.of_continued {middle : SocksTransactionProjector}
    {transactionId : Option String} {event : RecordingEvent} {projected : Projected}
    (continued : projector.Continued middle) (notBegin : event.isBegin = false)
    (synchronized : middle.Synchronized session transactionId answers (events ++ [event])
      projected) :
    projector.Synchronized session transactionId answers events projected := by
  obtain ⟨last, more, later, _, _, shape⟩ := synchronized
  refine ⟨last, event :: more, continued.trans later, ?_, ?_, ?_⟩
  · simp_all
  · simp_all
  · rcases shape with goesOn | ⟨remembered, _⟩
    · exact .inl goesOn
    · simp_all

theorem terminalReport_eq_none :
    terminalReport session = none ↔ session.state.isTerminal = false := by
  unfold terminalReport SessionState.isTerminal
  cases session.state <;> simp

theorem synchronized_finish (transactionId : Option String) :
    projector.Synchronized session transactionId answers events
      (projector.finish session transactionId answers events) := by
  unfold finish
  split
  · next none =>
      refine ⟨projector, [], continued_refl projector, by simp, by simp, .inl ⟨rfl, ?_⟩⟩
      rw [terminalReport_eq_none.1 none]
      simp
  next terminal _ =>
  cases transactionId with
  | none => exact ⟨projector, [], continued_refl projector, by simp, by simp, .inr ⟨rfl, by simp⟩⟩
  | some transactionId =>
    have answered (accepts : accepted answers.terminal = true) :
        ∀ identifier, some transactionId = some identifier →
          identifier ∈ [ended transactionId terminal answers.terminal].filterMap settled? := by
      simp [settled?, accepts]
    dsimp only
    split
    · next isAnswer =>
        exact ⟨projector, _, continued_refl projector, rfl, by simp [isBegin],
          .inr ⟨rfl, answered (by rw [isAnswer]; rfl)⟩⟩
    next _ isAnswer =>
      split
      · next discarded =>
          exact ⟨projector, _, continued_refl projector, rfl, by simp [isBegin],
            .inr ⟨rfl, answered (by rw [isAnswer]; exact discarded)⟩⟩
      next failed =>
        refine ⟨projector, _, continued_refl projector, rfl,
          by simp [isBegin], .inl ⟨rfl, fun ends => failed ?_⟩⟩
        have settles := ends.2
        unfold RecordingAnswers.settles at settles
        simp only [Bool.and_eq_true] at settles
        have accepts := settles.2
        rw [isAnswer] at accepts
        exact accepts

theorem synchronized_flush (projection : ActiveProjection) :
    projector.Synchronized session projection.transactionId answers events
      (projector.flush session projection answers events) := by
  unfold flush
  cases projection.transactionId with
  | none => exact synchronized_finish none
  | some transactionId =>
    dsimp only
    split
    · split
      · next _ isAnswer =>
          refine ⟨projector, _, continued_refl projector, rfl, by simp [isBegin],
            .inl ⟨rfl, fun ends => ?_⟩⟩
          have settles := ends.2
          unfold RecordingAnswers.settles at settles
          rw [isAnswer] at settles
          simp [Except.toBool] at settles
      · refine Synchronized.of_continued ?_ ?_ (synchronized_finish (some transactionId))
        · exact continued_adjust session.sessionId fun _ => rfl
        · rfl
    · exact synchronized_finish (some transactionId)

theorem synchronized_synchronize {projection : ActiveProjection}
    (active : projector.active.get? session.sessionId = some projection) :
    projector.Synchronized session projection.transactionId answers events
      (projector.synchronize session answers events) := by
  have observed : projector.Continued (projector.observe session) :=
    continued_adjust session.sessionId fun _ => rfl
  unfold synchronize
  rw [active]
  dsimp only
  cases transaction : projection.transactionId with
  | none =>
    obtain ⟨middle, more, continued, rest⟩ :=
      synchronized_flush projection
    rw [transaction] at rest
    exact ⟨middle, more, observed.trans continued, rest⟩
  | some transactionId =>
    dsimp only
    split
    · have flushed := @synchronized_flush (projector.observe session) session answers
        (events ++ [.progressed transactionId (progressUpdate projection session)
          answers.updateProgress]) projection
      rw [transaction] at flushed
      exact flushed.of_continued observed rfl
    · next _ isAnswer =>
        split
        · next discarded =>
            refine ⟨projector, _, continued_refl projector, rfl, by simp [isBegin], .inr ⟨rfl, ?_⟩⟩
            simp [settled?, isAnswer, discarded]
        · next failed =>
            refine ⟨projector, _, continued_refl projector, rfl,
              by simp [isBegin], .inl ⟨rfl, fun ends => failed ?_⟩⟩
            have settles := ends.2
            unfold RecordingAnswers.settles at settles
            rw [isAnswer] at settles
            simp only [Bool.and_eq_true] at settles
            exact settles.1.1.2

end SocksTransactionProjector

/-! ### What a run keeps -/

variable {answers : RecordingAnswers} {session : SessionSnapshot}
  {projector : SocksTransactionProjector} {projection : ActiveProjection}
  {events : List RecordingEvent}

namespace ProjectionRun

open SocksTransactionProjector

/-- The transactions of active sessions are theirs, those of others have ended. -/
structure Kept (run : ProjectionRun) : Prop where
  positive : 0 < run.projector.historyLimit
  recalls : RecentKeys.Recalls run.projector.historyLimit run.projector.finalized
    run.projector.history
  fresh : ∀ sessionId projection, run.projector.active.get? sessionId = some projection →
    run.projector.minimumCaptureGeneration ≤ projection.captureGeneration
  apart : ∀ sessionId projection, run.projector.active.get? sessionId = some projection →
    sessionId ∉ run.projector.history
  owned : ∀ begun ∈ run.begun,
    (begun.sessionId ∈ run.projector.history ∧ begun.transactionId ∈ run.settled) ∨
      ∃ projection, run.projector.active.get? begun.sessionId = some projection ∧
        projection.transactionId = some begun.transactionId
  once : (run.begun.map BegunTransaction.sessionId).Nodup
  notAgain : ∀ begun ∈ run.begun, begun.finalizedBefore = false
  current : ∀ begun ∈ run.begun, begun.minimumCaptureGeneration ≤ begun.captureGeneration
  ended : ∀ sessionId ∈ run.ended, sessionId ∈ run.projector.history

variable {run : ProjectionRun}

theorem mem_recorded {limit : Nat} {history : List String} {sessionId other : String} :
    other ∈ RecentKeys.recorded limit history sessionId ↔ other = sessionId ∨ other ∈ history := by
  grind [RecentKeys.recorded]

variable (kept : run.Kept)
include kept

theorem Kept.remember (sessionId : String) (more : List String)
    (settles : ∀ projection identifier, run.projector.active.get? sessionId = some projection →
      projection.transactionId = some identifier → identifier ∈ run.settled ++ more) :
    Kept
      { run with
        projector := run.projector.rememberFinalized sessionId
        settled := run.settled ++ more } where
  positive := kept.positive
  recalls := kept.recalls.remember kept.positive sessionId
  fresh := by
    intro other projection active
    simp only [rememberFinalized, get?_erase] at active
    split at active
    · cases active
    · exact kept.fresh other projection active
  apart := by
    intro other projection active
    simp only [rememberFinalized, get?_erase] at active
    split at active
    · cases active
    next different =>
      rintro member
      rcases mem_recorded.1 member with same | before
      · exact different same
      · exact kept.apart other projection active before
  owned := by
    intro begun member
    rcases kept.owned begun member with ⟨finalized, settled⟩ | ⟨projection, active, transaction⟩
    · exact .inl ⟨mem_recorded.2 (.inr finalized), mem_append_left _ settled⟩
    by_cases same : begun.sessionId = sessionId
    · exact .inl ⟨mem_recorded.2 (.inl same),
        settles projection begun.transactionId (same ▸ active) transaction⟩
    · refine .inr ⟨projection, ?_, transaction⟩
      simp only [rememberFinalized, get?_erase, if_neg same]
      exact active
  once := kept.once
  notAgain := kept.notAgain
  current := kept.current
  ended := fun other member => mem_recorded.2 (.inr (kept.ended other member))

/-- The transactions stay with their sessions while snapshots are observed. -/
theorem Kept.continued (continued : run.projector.Continued projector) :
    Kept { run with projector } where
  positive := by
    rw [continued.historyLimit]
    exact kept.positive
  recalls := by
    rw [continued.historyLimit, continued.finalized, continued.history]
    exact kept.recalls
  fresh := by
    intro sessionId projection active
    have same := continued.active sessionId
    rw [active] at same
    obtain ⟨before, wasActive, identity⟩ := map_eq_some_iff.mp same.symm
    have generation : before.captureGeneration = projection.captureGeneration :=
      congrArg Prod.snd identity
    rw [continued.minimum, ← generation]
    exact kept.fresh sessionId before wasActive
  apart := by
    intro sessionId projection active
    have same := continued.active sessionId
    rw [active] at same
    obtain ⟨before, wasActive, _⟩ := map_eq_some_iff.mp same.symm
    rw [continued.history]
    exact kept.apart sessionId before wasActive
  owned := by
    intro begun member
    rcases kept.owned begun member with ⟨finalized, settled⟩ | ⟨projection, active, transaction⟩
    · exact .inl ⟨by rw [continued.history]; exact finalized, settled⟩
    · have same := continued.active begun.sessionId
      rw [active] at same
      obtain ⟨after, isActive, identity⟩ := map_eq_some_iff.mp same
      exact .inr ⟨after, isActive, (congrArg Prod.fst identity).trans transaction⟩
  once := kept.once
  notAgain := kept.notAgain
  current := kept.current
  ended := by
    rw [continued.history]
    exact kept.ended

theorem Kept.settle (more : List String) : Kept { run with settled := run.settled ++ more } :=
  { kept with
    owned := fun begun member => (kept.owned begun member).imp
      (fun done => ⟨done.1, mem_append_left _ done.2⟩) id }

theorem Kept.synchronized {projected : Projected}
    (active : run.projector.active.get? session.sessionId = some projection)
    (synchronized : run.projector.Synchronized session projection.transactionId answers events
      projected) (settles : session.state.isTerminal = true → answers.settles = true) :
    ∃ more, projected.events = events ++ more ∧ (∀ event ∈ more, event.isBegin = false) ∧
      Kept
        { projector := projected.projector
          begun := run.begun
          settled := run.settled ++ more.filterMap settled?
          ended :=
            if session.state.isTerminal then session.sessionId :: run.ended else run.ended } := by
  obtain ⟨middle, more, continued, isEvents, notBegins, shape⟩ := synchronized
  refine ⟨more, isEvents, notBegins, ?_⟩
  have middleKept := kept.continued continued
  rcases shape with ⟨goesOn, notDone⟩ | ⟨remembered, settled⟩
  · rw [goesOn, if_neg fun terminal => notDone ⟨terminal, settles terminal⟩]
    exact middleKept.settle _
  have rememberedKept := middleKept.remember session.sessionId
    (more.filterMap settled?) fun held identifier isHeld isIdentifier => by
      have same := continued.active session.sessionId
      rw [isHeld, active] at same
      have transaction : held.transactionId = projection.transactionId :=
        congrArg Prod.fst (Option.some.inj same)
      exact mem_append_right _ (settled identifier (transaction ▸ isIdentifier))
  rw [remembered]
  refine { rememberedKept with ended := fun sessionId member => ?_ }
  split at member
  · rcases mem_cons.mp member with same | before
    · exact mem_recorded.2 (.inl same)
    · exact rememberedKept.ended sessionId before
  · exact rememberedKept.ended sessionId member

/-! ### Steps -/

theorem Kept.rememberAll (sessions : List String)
    (settles : ∀ sessionId ∈ sessions, ∀ projection identifier,
      run.projector.active.get? sessionId = some projection →
        projection.transactionId = some identifier → identifier ∈ run.settled) :
    Kept { run with projector := sessions.foldl rememberFinalized run.projector } := by
  induction sessions generalizing run with
  | nil => exact kept
  | cons sessionId sessions =>
    obtain ⟨first, _⟩ := forall_mem_cons.mp settles
    have remembered := kept.remember sessionId [] fun projection identifier active transaction =>
      mem_append_left _ (first projection identifier active transaction)
    grind [rememberFinalized]

omit kept

theorem active_rememberAll (projector : SocksTransactionProjector) (sessions : List String)
    (sessionId : String) :
    (sessions.foldl rememberFinalized projector).active.get? sessionId =
      if sessionId ∈ sessions then none else projector.active.get? sessionId := by
  induction sessions generalizing projector with
  | nil => simp
  | cons _ sessions =>
    grind [rememberFinalized]

/-- The clear of the recording does not matter to what is remembered. -/
theorem rememberAll_minimum (projector : SocksTransactionProjector) (sessions : List String)
    (minimumCaptureGeneration : Nat) :
    sessions.foldl rememberFinalized { projector with minimumCaptureGeneration } =
      { sessions.foldl rememberFinalized projector with minimumCaptureGeneration } := by
  induction sessions generalizing projector with
  | nil => rfl
  | cons _ sessions ih =>
    rw [foldl_cons, foldl_cons, ← ih]
    rfl

theorem mem_staleSessions {minimumCaptureGeneration : Nat} {traversal : List String}
    {sessionId : String} :
    sessionId ∈ projector.staleSessions minimumCaptureGeneration traversal ↔
      ∃ projection, projector.active.get? sessionId = some projection ∧
        projection.captureGeneration < minimumCaptureGeneration := by
  have stale : sessionId ∈ (projector.active.toList.filter fun entry =>
      entry.2.captureGeneration < minimumCaptureGeneration).map Prod.fst ↔
      ∃ projection, projector.active.get? sessionId = some projection ∧
        projection.captureGeneration < minimumCaptureGeneration := by
    simp [Table.mem_toList]
  unfold staleSessions
  simp only [mem_append, mem_filter, mem_dedup]
  grind

theorem Kept.advance (kept : run.Kept) (minimumCaptureGeneration : Nat) (traversal : List String) :
    (run.step (.advance minimumCaptureGeneration traversal)).Kept := by
  unfold step advanceCaptureGeneration
  dsimp only
  split
  · exact kept
  next _ =>
  have settled := kept.settle (run.cleared minimumCaptureGeneration)
  have remembered := settled.rememberAll
    (run.projector.staleSessions minimumCaptureGeneration traversal) (by
      intro sessionId member projection _ active transaction
      obtain ⟨held, isHeld, stale⟩ := mem_staleSessions.1 member
      have same : held = projection := Option.some.inj (isHeld.symm.trans active)
      refine mem_append_right _ (mem_filterMap.mpr
        ⟨(sessionId, projection), mem_toList.mpr active, ?_⟩)
      rw [if_pos (same ▸ stale)]
      exact transaction)
  have projector : (run.projector.staleSessions minimumCaptureGeneration traversal).foldl
      rememberFinalized { run.projector with minimumCaptureGeneration } =
        { (run.projector.staleSessions minimumCaptureGeneration traversal).foldl
            rememberFinalized run.projector with minimumCaptureGeneration } :=
    rememberAll_minimum run.projector _ minimumCaptureGeneration
  have fresh : ∀ sessionId projection,
      ((run.projector.staleSessions minimumCaptureGeneration traversal).foldl
        rememberFinalized run.projector).active.get? sessionId = some projection →
      minimumCaptureGeneration ≤ projection.captureGeneration := by
    intro sessionId projection active
    rw [active_rememberAll] at active
    split at active
    · cases active
    · next current =>
        exact Nat.not_lt.mp fun stale => current (mem_staleSessions.2 ⟨projection, active, stale⟩)
  rw [projector]
  exact { remembered with fresh }

/-- A snapshot that begins nothing, of a session without a transaction. -/
theorem Kept.passOver (kept : run.Kept) (session : SessionSnapshot)
    (inactive : run.projector.active.get? session.sessionId = none) :
    Kept
      { projector := (run.projector.passOver session).projector
        begun := run.begun
        settled := run.settled
        ended :=
          if session.state.isTerminal then session.sessionId :: run.ended else run.ended } := by
  unfold SocksTransactionProjector.passOver
  split
  · have remembered := kept.remember session.sessionId [] fun _ _ active => by
      rw [inactive] at active
      cases active
    rw [append_nil] at remembered
    refine { remembered with ended := fun sessionId member => ?_ }
    rcases mem_cons.mp member with same | before
    · exact mem_recorded.2 (.inl same)
    · exact remembered.ended sessionId before
  · exact kept

theorem Kept.begin (kept : run.Kept) {sessionId : String} {projection : ActiveProjection}
    (inactive : run.projector.active.get? sessionId = none)
    (notFinalized : sessionId ∉ run.projector.history)
    (generation : run.projector.minimumCaptureGeneration ≤ projection.captureGeneration) :
    Kept
      { run with
        projector :=
          { run.projector with active := run.projector.active.insert sessionId projection }
        begun := run.begun ++ projection.transactionId.toList.map fun transactionId =>
          { sessionId
            captureGeneration := projection.captureGeneration
            minimumCaptureGeneration := run.projector.minimumCaptureGeneration
            finalizedBefore := decide (sessionId ∈ run.projector.history)
            transactionId } } where
  positive := kept.positive
  recalls := kept.recalls
  fresh := by
    intro other held active
    rw [get?_insert] at active
    split at active
    · cases active
      exact generation
    · exact kept.fresh other held active
  apart := by
    intro other held active
    rw [get?_insert] at active
    split at active
    · next same => exact same ▸ notFinalized
    · exact kept.apart other held active
  owned := by
    intro begun member
    rcases mem_append.mp member with before | isNew
    · rcases kept.owned begun before with done | ⟨held, active, transaction⟩
      · exact .inl done
      refine .inr ⟨held, ?_, transaction⟩
      rw [get?_insert, if_neg]
      · exact active
      · intro same
        rw [same, inactive] at active
        cases active
    · obtain ⟨transactionId, isTransaction, rfl⟩ := List.mem_map.mp isNew
      exact .inr ⟨projection, get?_insert_self .., Option.mem_toList.mp isTransaction⟩
  once := by
    rw [map_append, List.map_map, nodup_append]
    refine ⟨kept.once, ?_, ?_⟩
    · cases projection.transactionId <;> simp
    · intro _ isFirst _ isSecond same
      obtain ⟨_, _, rfl⟩ := List.mem_map.mp isSecond
      obtain ⟨begun, member, rfl⟩ := List.mem_map.mp isFirst
      change begun.sessionId = sessionId at same
      rcases kept.owned begun member with ⟨finalized, _⟩ | ⟨held, active, _⟩
      · exact notFinalized (same ▸ finalized)
      · rw [same, inactive] at active
        cases active
  notAgain := by
    intro begun member
    rcases mem_append.mp member with before | isNew
    · exact kept.notAgain begun before
    · obtain ⟨_, _, rfl⟩ := List.mem_map.mp isNew
      exact decide_eq_false notFinalized
  current := by
    intro begun member
    rcases mem_append.mp member with before | isNew
    · exact kept.current begun before
    · obtain ⟨_, _, rfl⟩ := List.mem_map.mp isNew
      exact generation
  ended := kept.ended

theorem begun_of_notBegins (notBegins : ∀ event ∈ events, event.isBegin = false) :
    events.filterMap begun? = [] := by
  refine filterMap_eq_nil_iff.mpr fun event member => ?_
  have notBegin := notBegins event member
  cases event with
  | began => cases notBegin
  | _ => rfl

include kept

theorem Kept.projectActive (active : run.projector.active.get? session.sessionId = some projection)
    (settles : session.state.isTerminal = true → answers.settles = true)
    (projected : run.projector.project session answers =
      run.projector.synchronize session answers []) :
    (run.step (.project session answers)).Kept := by
  obtain ⟨_, isEvents, notBegins, after⟩ :=
    kept.synchronized active (synchronized_synchronize active) settles
  unfold step
  dsimp only
  rw [projected, isEvents, nil_append, begun_of_notBegins notBegins, map_nil, append_nil]
  exact after

theorem Kept.projectNew {session : SessionSnapshot} {projection : ActiveProjection}
    {input : SocksTransaction} {answers : RecordingAnswers}
    (inactive : run.projector.active.get? session.sessionId = none)
    (notFinalized : session.sessionId ∉ run.projector.history)
    (current : run.projector.minimumCaptureGeneration ≤ session.captureGeneration)
    (generation : projection.captureGeneration = session.captureGeneration)
    (settles : session.state.isTerminal = true → answers.settles = true)
    (projected : run.projector.project session answers =
      ({ run.projector with
        active := run.projector.active.insert session.sessionId projection } :
          SocksTransactionProjector).synchronize session answers
            [.began input (.ok projection.transactionId)]) :
    (run.step (.project session answers)).Kept := by
  have begun := Kept.begin kept inactive notFinalized (generation ▸ current)
  have active : (run.projector.active.insert session.sessionId projection).get?
      session.sessionId = some projection := get?_insert_self ..
  obtain ⟨_, isEvents, notBegins, after⟩ := begun.synchronized active
    (synchronized_synchronize active) settles
  unfold step
  dsimp only
  rw [projected, isEvents, filterMap_append, begun_of_notBegins notBegins]
  rw [generation] at after
  cases transaction : projection.transactionId with
  | none | some transactionId =>
    rw [transaction] at after
    exact after

theorem Kept.unchanged (session : SessionSnapshot)
    (stopped : session.state.isTerminal = true → session.sessionId ∈ run.projector.history) :
    Kept
      { run with
        ended :=
          if session.state.isTerminal then session.sessionId :: run.ended else run.ended } := by
  refine { kept with ended := fun sessionId member => ?_ }
  split at member
  · next terminal =>
      rcases mem_cons.mp member with same | before
      · exact same ▸ stopped terminal
      · exact kept.ended sessionId before
  · exact kept.ended sessionId member

theorem Kept.project (orderly : run.Orderly (.project session answers)) :
    (run.step (.project session answers)).Kept := by
  obtain ⟨steady, remembered, settles⟩ := orderly
  have steadyActive {projection : ActiveProjection}
      (active : run.projector.active.get? session.sessionId = some projection) :
      projection.captureGeneration = session.captureGeneration ∧
        projectableTransport session = true := by
    rw [active] at steady
    simpa using steady
  have inactiveOf (unfit : ∀ projection,
      run.projector.active.get? session.sessionId = some projection → False) :
      run.projector.active.get? session.sessionId = none := by
    cases active : run.projector.active.get? session.sessionId with
    | none => rfl
    | some projection => exact (unfit projection active).elim
  have passes (inactive : run.projector.active.get? session.sessionId = none)
      (projected : run.projector.project session answers = run.projector.passOver session) :
      (run.step (.project session answers)).Kept := by
    unfold step
    dsimp only
    rw [projected]
    simpa [SocksTransactionProjector.passOver] using kept.passOver session inactive
  by_cases stale : session.captureGeneration < run.projector.minimumCaptureGeneration
  · have inactive := inactiveOf fun projection active =>
      absurd (kept.fresh session.sessionId projection active)
        (Nat.not_le.mpr ((steadyActive active).1 ▸ stale))
    have after := kept.remember session.sessionId [] fun projection _ active => by
      rw [inactive] at active
      cases active
    have ended := after.unchanged session fun _ => mem_recorded.2 (.inl rfl)
    unfold step SocksTransactionProjector.project
    simpa [if_pos stale] using ended
  by_cases known : run.projector.finalized.contains session.sessionId = true
  · have finalized := mem_of_mem_take ((kept.recalls.contains session.sessionId).mp known)
    have ended := kept.unchanged session fun _ => finalized
    grind [step, project]
  by_cases projectable : projectableTransport session = true
  swap
  · grind [project]
  cases active : run.projector.active.get? session.sessionId with
  | some projection =>
    refine kept.projectActive active settles ?_
    have contains : run.projector.active.contains session.sessionId = true :=
      contains_iff.mpr ⟨projection, active⟩
    grind [project]
  | none =>
  have absent : ¬ run.projector.active.contains session.sessionId = true := by
    simp [active]
  cases isInput : beginTransactionInput session with
  | none =>
    grind [project]
  | some input =>
  have notFinalized : session.sessionId ∉ run.projector.history := by
    intro member
    rcases remembered member with recent | isStale | unfit | noInput
    · exact known ((kept.recalls.contains session.sessionId).mpr recent)
    · exact stale isStale
    · rw [projectable] at unfit
      cases unfit
    · rw [isInput] at noInput
      cases noInput
  cases answer : answers.beginTransaction with
  | error error =>
    have ended := kept.unchanged session fun terminal => by
      have accepts := settles terminal
      unfold RecordingAnswers.settles at accepts
      rw [answer] at accepts
      simp [Except.toBool] at accepts
    have noBegin :
        [began input (.error error)].filterMap begun? = [] := rfl
    have noEnd :
        [began input (.error error)].filterMap settled? = [] := rfl
    unfold step SocksTransactionProjector.project
    grind
  | ok transactionId =>
    refine @Kept.projectNew _ kept _
      { transactionId
        captureGeneration := session.captureGeneration
        requestSentAtMilliseconds := session.updatedAtMilliseconds
        requestSentObserved := false
        connectionObserved := false
        responseObserved := false
        capturedRequestBytes := 0
        capturedResponseBytes := 0
        lastCaptureFlushAtMilliseconds := 0 } input _ active notFinalized
      (Nat.not_lt.mp stale) rfl settles ?_
    unfold SocksTransactionProjector.project
    simp_all

omit kept

theorem kept_initial (historyLimit : Nat) : (projectionMachine historyLimit).initial.Kept where
  positive := Nat.lt_of_lt_of_le Nat.zero_lt_one (Nat.le_max_right historyLimit 1)
  recalls := RecentKeys.recalls_empty
  fresh := by rintro _ _ ⟨⟩
  apart := by rintro _ _ ⟨⟩
  owned := by rintro _ ⟨⟩
  once := nodup_nil
  notAgain := by rintro _ ⟨⟩
  current := by rintro _ ⟨⟩
  ended := by rintro _ ⟨⟩

theorem Kept.projectedOnce (kept : run.Kept) : run.ProjectedOnce where
  once := kept.once
  notAgain := kept.notAgain
  current := kept.current
  ended := by
    intro sessionId member
    have finalized := kept.ended sessionId member
    have inactive : run.projector.active.get? sessionId = none := by
      cases active : run.projector.active.get? sessionId with
      | none => rfl
      | some projection => exact absurd finalized (kept.apart sessionId projection active)
    refine ⟨finalized, inactive, fun begun isBegun same => ?_⟩
    rcases kept.owned begun isBegun with ⟨_, settled⟩ | ⟨projection, active, _⟩
    · exact settled
    · rw [same, inactive] at active
      cases active
  order := kept.recalls.order_length_le
  size := kept.recalls.size_le

def exampleSession (sessionId : String) (state : SessionState) : SessionSnapshot where
  sessionId
  clientAddress := "192.0.2.1:5000"
  username := ""
  command := "connect"
  targetAddress := "example.org:443"
  state
  bytesUp := 0
  bytesDown := 0
  createdAtMilliseconds := 1
  updatedAtMilliseconds := 2
  closedAtMilliseconds := 0
  errorMessage := ""
  applicationProtocol := .tcp
  captureGeneration := 0
  captured := none

/-- The recording begins a transaction and takes all that is told of it. -/
def taken (transactionId : String) : RecordingAnswers where
  beginTransaction := .ok (some transactionId)
  updateProgress := .ok ()
  storeCapturedBodies := .ok ()
  terminal := .ok ()

/-- The transaction was deleted in the recording. -/
def deleted : RecordingAnswers where
  beginTransaction := .ok none
  updateProgress := .error .transactionNotFound
  storeCapturedBodies := .ok ()
  terminal := .ok ()

end ProjectionRun

end SprakCapture.Control
