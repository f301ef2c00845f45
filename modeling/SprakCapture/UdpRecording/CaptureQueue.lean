import SprakCapture.UdpRecording.Spool

/-!
# The queue between capture and spool

Capture threads hand datagrams to `QueuedUdpDatagramSink`, a bounded queue that one writer
thread empties into the spool. The sink and its threads are a machine whose steps are the
lock regions of the sink and the channel operations of the writer. A datagram that finds the
queue full goes to the emergency slot and closes the queue; when the spool refuses a datagram,
the writer moves it and all that is queued to the list that is kept after a failure.
-/

namespace SprakCapture.UdpRecording

open Data

def captureQueueCapacity : Nat := 1024

/-- A datagram in the hands of the sink. `producer` and `turn` name the call that captured it:
the thread and the number of its calls before. -/
structure Offer where
  producer : Nat
  turn : Nat
  captured : CapturedUdpDatagram
deriving DecidableEq

/-- The state of the sink. `sender` says whether the queue still takes datagrams. -/
structure CaptureQueueState where
  sender : Bool
  queue : List Offer
  emergency : Option Offer
  retainedAfterFailure : List Offer
  fault : Option String
deriving DecidableEq

namespace CaptureQueueState

def create : CaptureQueueState where
  sender := true
  queue := []
  emergency := none
  retainedAfterFailure := []
  fault := none

def queueFullDetail : String :=
  "UDP 捕获内存队列达到固定上限 " ++ toString captureQueueCapacity ++ "，当前包已保留到 emergency，观察线程已停止"

/-- The lock region of `append`. -/
def append (state : CaptureQueueState) (offer : Offer) : CaptureQueueState × Except String Unit :=
  if state.sender = false then
    (state, .error (state.fault.getD "UDP 捕获队列已关闭"))
  else if state.queue.length < captureQueueCapacity then
    ({ state with queue := state.queue ++ [offer] }, .ok ())
  else
    ({ state with
        emergency := some offer
        fault := some queueFullDetail
        sender := false },
      .error queueFullDetail)

/-- Keep the first fault and close the queue. -/
def fail (state : CaptureQueueState) (detail : String) : CaptureQueueState :=
  { state with
    fault := some (state.fault.getD detail)
    sender := false }

def close (state : CaptureQueueState) : CaptureQueueState := { state with sender := false }

/-- Keep a refused datagram and all that is still queued. -/
def retainAfterSpoolFailure (state : CaptureQueueState) (current : Offer) (detail : String) :
    CaptureQueueState :=
  { sender := false
    queue := []
    emergency := none
    retainedAfterFailure := state.retainedAfterFailure ++
      (current :: state.queue ++ state.emergency.toList)
    fault := some (state.fault.getD detail) }

/-- The fault as it is shown. -/
def shownFault (state : CaptureQueueState) : Option String :=
  state.fault.map fun detail =>
    if state.retainedAfterFailure.isEmpty then detail
    else detail ++ "；内存保留 " ++ toString state.retainedAfterFailure.length ++ " 个尚未落盘事件"

end CaptureQueueState

/-- Where the writer thread stands. -/
inductive SpoolWriter where
  /-- It waits for the queue. -/
  | receiving
  /-- It has taken a datagram from the queue and appends it. -/
  | appending (offer : Offer)
  /-- The queue is closed and empty; the emergency slot is next. -/
  | finishing
  /-- It has taken the emergency slot and appends it. -/
  | appendingEmergency (offer : Offer)
  /-- The spool refused a datagram. -/
  | refused (offer : Offer) (detail : String)
  | closing
  | stopped
deriving DecidableEq

/-- The datagram that the writer has taken and that is not yet in the spool or kept. -/
def SpoolWriter.inHand : SpoolWriter → List Offer
  | appending offer => [offer]
  | appendingEmergency offer => [offer]
  | refused offer _ => [offer]
  | _ => []

/-- The stages of the writer in which the queue is closed and empty for good. -/
def SpoolWriter.afterQueue : SpoolWriter → Bool
  | .receiving => false
  | .appending _ => false
  | .refused _ _ => false
  | _ => true

/-- The sink with its threads. `spool` lists what the spool has accepted, `calls` what each
capture thread is about to append, `turns` how many calls it has made; `accepted` is the
history of the datagrams that the sink took, in the order of its lock. -/
structure CapturePipeline where
  sink : CaptureQueueState
  writer : SpoolWriter
  spool : List Offer
  spoolClosed : Bool
  calls : Table Nat Offer
  turns : Nat → Nat
  accepted : List Offer

namespace CapturePipeline

def initial : CapturePipeline where
  sink := .create
  writer := .receiving
  spool := []
  spoolClosed := false
  calls := ∅
  turns := fun _ => 0
  accepted := []

inductive Action where
  /-- A thread that is not in a call captures a datagram and reads the clear epoch. -/
  | capture (producer : Nat) (captured : CapturedUdpDatagram)
  /-- A thread passes its datagram to the sink under the lock. -/
  | append (producer : Nat)
  | fail (detail : String)
  | close
  /-- The writer receives, or finds the queue closed and empty. -/
  | receive
  /-- The spool accepts what the writer appends, or refuses it. -/
  | spoolAppend (result : Except String Unit)
  | retain
  | takeEmergency
  | closeSpool

def capture (pipeline : CapturePipeline) (producer : Nat) (captured : CapturedUdpDatagram) :
    CapturePipeline :=
  match pipeline.calls.get? producer with
  | some _ => pipeline
  | none =>
    { pipeline with
      calls := pipeline.calls.insert producer
        { producer, turn := pipeline.turns producer, captured }
      turns := Function.update pipeline.turns producer (pipeline.turns producer + 1) }

/-- A call of `append` ends. The sink took the datagram if it put it into the queue or into the
emergency slot. -/
def append (pipeline : CapturePipeline) (producer : Nat) : CapturePipeline :=
  match pipeline.calls.get? producer with
  | none => pipeline
  | some offer =>
    { pipeline with
      calls := pipeline.calls.erase producer
      sink := (pipeline.sink.append offer).1
      accepted :=
        if pipeline.sink.sender then pipeline.accepted ++ [offer] else pipeline.accepted }

def receive (pipeline : CapturePipeline) : CapturePipeline :=
  match pipeline.writer, pipeline.sink.queue with
  | .receiving, offer :: rest =>
    { pipeline with
      sink := { pipeline.sink with queue := rest }
      writer := .appending offer }
  | .receiving, [] =>
    if pipeline.sink.sender then pipeline else { pipeline with writer := .finishing }
  | _, _ => pipeline

def spoolAppend (pipeline : CapturePipeline) (result : Except String Unit) : CapturePipeline :=
  match pipeline.writer, result with
  | .appending offer, .ok () =>
    { pipeline with spool := pipeline.spool ++ [offer], writer := .receiving }
  | .appending offer, .error detail => { pipeline with writer := .refused offer detail }
  | .appendingEmergency offer, .ok () =>
    { pipeline with spool := pipeline.spool ++ [offer], writer := .closing }
  | .appendingEmergency offer, .error error =>
    { pipeline with writer := .refused offer ("UDP spool emergency 保存失败：" ++ error) }
  | _, _ => pipeline

def retain (pipeline : CapturePipeline) : CapturePipeline :=
  match pipeline.writer with
  | .refused offer detail =>
    { pipeline with
      sink := pipeline.sink.retainAfterSpoolFailure offer detail
      writer := .closing }
  | _ => pipeline

def takeEmergency (pipeline : CapturePipeline) : CapturePipeline :=
  match pipeline.writer, pipeline.sink.emergency with
  | .finishing, some offer =>
    { pipeline with
      sink := { pipeline.sink with emergency := none }
      writer := .appendingEmergency offer }
  | .finishing, none => { pipeline with writer := .closing }
  | _, _ => pipeline

def closeSpool (pipeline : CapturePipeline) : CapturePipeline :=
  match pipeline.writer with
  | .closing => { pipeline with spoolClosed := true, writer := .stopped }
  | _ => pipeline

def step (pipeline : CapturePipeline) : Action → CapturePipeline
  | .capture producer captured => pipeline.capture producer captured
  | .append producer => pipeline.append producer
  | .fail detail => { pipeline with sink := pipeline.sink.fail detail }
  | .close => { pipeline with sink := pipeline.sink.close }
  | .receive => pipeline.receive
  | .spoolAppend result => pipeline.spoolAppend result
  | .retain => pipeline.retain
  | .takeEmergency => pipeline.takeEmergency
  | .closeSpool => pipeline.closeSpool

def machine : Machine CapturePipeline Action where
  initial := initial
  step := step

/-! ### Nothing is lost -/

/-- The datagrams in the containers of the sink and in the writer's hand, in order. -/
def held (pipeline : CapturePipeline) : List Offer :=
  pipeline.spool ++ pipeline.sink.retainedAfterFailure ++ pipeline.writer.inHand ++
    pipeline.sink.queue ++ pipeline.sink.emergency.toList

/-- What the sink took is held, in the order in which it took it. Calls of one thread follow
each other. -/
structure Conserved (pipeline : CapturePipeline) : Prop where
  held : pipeline.held = pipeline.accepted
  opened : pipeline.sink.sender = true →
    pipeline.sink.emergency = none ∧ pipeline.sink.retainedAfterFailure = []
  drained : pipeline.writer.afterQueue = true →
    pipeline.sink.sender = false ∧ pipeline.sink.queue = []
  kept : pipeline.sink.retainedAfterFailure ≠ [] → pipeline.sink.queue = [] ∧
    pipeline.sink.emergency = none ∧ pipeline.writer.inHand = []
  ordered : pipeline.accepted.Pairwise fun earlier later =>
    earlier.producer = later.producer → earlier.turn < later.turn
  earlier : ∀ offer ∈ pipeline.accepted, offer.turn < pipeline.turns offer.producer ∧
    ∀ pending, pipeline.calls.get? offer.producer = some pending → offer.turn < pending.turn
  pending : ∀ producer offer, pipeline.calls.get? producer = some offer →
    offer.producer = producer ∧ offer.turn < pipeline.turns producer

theorem conserved_initial : initial.Conserved where
  held := rfl
  opened _ := ⟨rfl, rfl⟩
  drained later := by cases later
  kept later := absurd rfl later
  ordered := .nil
  earlier := by simp [initial]
  pending := by simp [initial]

namespace Conserved

variable {pipeline : CapturePipeline}

section

variable (conserved : pipeline.Conserved)
include conserved

/-- What is in the writer's hand or in the queue was not kept after a failure. -/
theorem retained_eq_nil
    (busy : pipeline.writer.inHand ≠ [] ∨ pipeline.sink.queue ≠ [] ∨ pipeline.sink.emergency ≠ none) :
    pipeline.sink.retainedAfterFailure = [] := by
  by_contra kept
  obtain ⟨queue, emergency, hand⟩ := conserved.kept kept
  rcases busy with busy | busy | busy
  · exact busy hand
  · exact busy queue
  · exact busy emergency

/-- Steps that leave the calls and the history alone. -/
theorem keep {next : CapturePipeline} (held : next.held = pipeline.held)
    (opened : next.sink.sender = true →
      next.sink.emergency = none ∧ next.sink.retainedAfterFailure = [])
    (drained : next.writer.afterQueue = true → next.sink.sender = false ∧ next.sink.queue = [])
    (kept : next.sink.retainedAfterFailure ≠ [] →
      next.sink.queue = [] ∧ next.sink.emergency = none ∧ next.writer.inHand = [])
    (calls : next.calls = pipeline.calls) (turns : next.turns = pipeline.turns)
    (accepted : next.accepted = pipeline.accepted) : next.Conserved where
  held := by rw [held, accepted, conserved.held]
  opened := opened
  drained := drained
  kept := kept
  ordered := by rw [accepted]; exact conserved.ordered
  earlier := by rw [accepted, calls, turns]; exact conserved.earlier
  pending := by rw [calls, turns]; exact conserved.pending

theorem capture (producer : Nat) (captured : CapturedUdpDatagram) :
    (pipeline.capture producer captured).Conserved := by
  unfold CapturePipeline.capture
  cases idle : pipeline.calls.get? producer with
  | some => exact conserved
  | none =>
    refine ⟨conserved.held, conserved.opened, conserved.drained, conserved.kept,
      conserved.ordered, ?_, ?_⟩
    · intro offer member
      obtain ⟨counted, _⟩ := conserved.earlier offer member
      grind
    · intro other offer found
      rw [Table.get?_insert] at found
      by_cases same : other = producer
      · grind
      · rw [if_neg same] at found
        obtain ⟨_, counted⟩ := conserved.pending other offer found
        simp_all

/-- The end of a call, whatever the sink does with the datagram. -/
theorem endCall {producer : Nat} {offer : Offer} (found : pipeline.calls.get? producer = some offer)
    {accepted : List Offer}
    (taken : accepted = pipeline.accepted ∨ accepted = pipeline.accepted ++ [offer]) :
    (accepted.Pairwise fun earlier later =>
      earlier.producer = later.producer → earlier.turn < later.turn) ∧
    (∀ other ∈ accepted, other.turn < pipeline.turns other.producer ∧
      ∀ pending, (pipeline.calls.erase producer).get? other.producer = some pending →
        other.turn < pending.turn) ∧
    ∀ other pending, (pipeline.calls.erase producer).get? other = some pending →
      pending.producer = other ∧ pending.turn < pipeline.turns other := by
  obtain ⟨named, _⟩ := conserved.pending producer offer found
  have remaining : ∀ {other pending},
      (pipeline.calls.erase producer).get? other = some pending →
        other ≠ producer ∧ pipeline.calls.get? other = some pending := by
    grind
  refine ⟨?_, ?_, ?_⟩
  · rcases taken with rfl | rfl
    · exact conserved.ordered
    rw [List.pairwise_append]
    refine ⟨conserved.ordered, List.pairwise_singleton _ _, ?_⟩
    intro earlier member later single same
    rw [List.mem_singleton.mp single] at same ⊢
    exact (conserved.earlier earlier member).2 offer (by rw [same, named]; exact found)
  · intro other member
    have known : other ∈ pipeline.accepted ∨ other = offer := by
      rcases taken with rfl | rfl
      · exact .inl member
      · simpa using member
    rcases known with old | rfl
    · obtain ⟨_, _⟩ := conserved.earlier other old
      simp_all
    simp_all
  · intro other pending held
    exact conserved.pending other pending (remaining held).2

theorem append (producer : Nat) : (pipeline.append producer).Conserved := by
  unfold CapturePipeline.append
  cases found : pipeline.calls.get? producer with
  | none => exact conserved
  | some offer =>
    cases sender : pipeline.sink.sender with
    | false =>
      obtain ⟨ordered, earlier, pending⟩ := conserved.endCall found (.inl rfl)
      have same : (pipeline.sink.append offer).1 = pipeline.sink := by
        simp [CaptureQueueState.append, sender]
      simp only [same]
      exact ⟨conserved.held, conserved.opened, conserved.drained, conserved.kept, ordered,
        earlier, pending⟩
    | true =>
      obtain ⟨ordered, earlier, pending⟩ := conserved.endCall found (.inr rfl)
      obtain ⟨emergency, retained⟩ := conserved.opened sender
      have before := conserved.held
      have running : pipeline.writer.afterQueue = false := by
        by_contra after
        have closed := (conserved.drained (by simpa using after)).1
        rw [sender] at closed
        cases closed
      simp only [CapturePipeline.held, emergency] at before
      by_cases room : pipeline.sink.queue.length < captureQueueCapacity
      · have stored : (pipeline.sink.append offer).1 =
            { pipeline.sink with queue := pipeline.sink.queue ++ [offer] } := by
          simp [CaptureQueueState.append, sender, room]
        simp only [stored]
        refine ⟨?_, fun _ => ⟨emergency, retained⟩, ?_, fun kept => absurd retained kept, ordered,
          earlier, pending⟩
        · rw [← before]
          simp [CapturePipeline.held, emergency]
        simp_all
      · have stored : (pipeline.sink.append offer).1 =
            { pipeline.sink with
              emergency := some offer
              fault := some CaptureQueueState.queueFullDetail
              sender := false } := by
          simp [CaptureQueueState.append, sender, room]
        simp only [stored]
        refine ⟨?_, nofun, ?_, fun kept => absurd retained kept, ordered, earlier, pending⟩
        · rw [← before]
          simp [CapturePipeline.held]
        simp_all

/-- Closing the queue, with or without a fault. -/
theorem closed {sink : CaptureQueueState} (sender : sink.sender = false)
    (queue : sink.queue = pipeline.sink.queue)
    (emergency : sink.emergency = pipeline.sink.emergency)
    (retained : sink.retainedAfterFailure = pipeline.sink.retainedAfterFailure) :
    Conserved { pipeline with sink } := by
  refine conserved.keep ?_ ?_ ?_ ?_ rfl rfl rfl
  · simp [CapturePipeline.held, queue, emergency, retained]
  · simp_all
  · intro after
    exact ⟨sender, queue.trans (conserved.drained after).2⟩
  · rw [queue, emergency, retained]
    exact conserved.kept

theorem receive : pipeline.receive.Conserved := by
  unfold CapturePipeline.receive
  cases writer : pipeline.writer with
  | receiving =>
    cases queued : pipeline.sink.queue with
    | nil =>
      cases sender : pipeline.sink.sender with
      | true => exact conserved
      | false =>
        simp only [Bool.false_eq_true, if_false]
        refine conserved.keep ?_ conserved.opened (fun _ => ⟨sender, queued⟩) ?_ rfl rfl rfl
        · simp [CapturePipeline.held, writer, SpoolWriter.inHand]
        · intro kept
          exact ⟨(conserved.kept kept).1, (conserved.kept kept).2.1, rfl⟩
    | cons =>
      have retained := conserved.retained_eq_nil (.inr (.inl (by simp [queued])))
      refine conserved.keep ?_ conserved.opened nofun (fun kept => absurd retained kept) rfl rfl rfl
      simp [CapturePipeline.held, writer, queued, SpoolWriter.inHand]
  | _ => exact conserved

theorem spoolAppend (result : Except String Unit) : (pipeline.spoolAppend result).Conserved := by
  unfold CapturePipeline.spoolAppend
  cases writer : pipeline.writer with
  | appending offer =>
    have retained := conserved.retained_eq_nil (.inl (by simp [writer, SpoolWriter.inHand]))
    cases result with
    | ok _ =>
      refine conserved.keep ?_ conserved.opened nofun (fun kept => absurd retained kept) rfl rfl rfl
      simp [CapturePipeline.held, writer, retained, SpoolWriter.inHand]
    | error detail =>
      refine conserved.keep ?_ conserved.opened nofun (fun kept => absurd retained kept) rfl rfl rfl
      simp [CapturePipeline.held, writer, SpoolWriter.inHand]
  | appendingEmergency offer =>
    have retained := conserved.retained_eq_nil (.inl (by simp [writer, SpoolWriter.inHand]))
    have drained := conserved.drained (by rw [writer]; rfl)
    cases result with
    | ok _ =>
      refine conserved.keep ?_ conserved.opened (fun _ => drained)
        (fun kept => absurd retained kept) rfl rfl rfl
      simp [CapturePipeline.held, writer, retained, SpoolWriter.inHand]
    | error detail =>
      refine conserved.keep ?_ conserved.opened nofun (fun kept => absurd retained kept) rfl rfl rfl
      simp [CapturePipeline.held, writer, SpoolWriter.inHand]
  | _ => exact conserved

theorem retain : pipeline.retain.Conserved := by
  unfold CapturePipeline.retain
  cases writer : pipeline.writer with
  | refused =>
    have retained := conserved.retained_eq_nil (.inl (by simp [writer, SpoolWriter.inHand]))
    refine conserved.keep ?_ nofun (fun _ => ⟨rfl, rfl⟩) (fun _ => ⟨rfl, rfl, rfl⟩) rfl rfl rfl
    simp [CapturePipeline.held, writer, SpoolWriter.inHand,
      CaptureQueueState.retainAfterSpoolFailure]
  | _ => exact conserved

theorem takeEmergency : pipeline.takeEmergency.Conserved := by
  unfold CapturePipeline.takeEmergency
  cases writer : pipeline.writer with
  | finishing =>
    obtain ⟨sender, queue⟩ := conserved.drained (by rw [writer]; rfl)
    cases slot : pipeline.sink.emergency with
    | some =>
      have retained := conserved.retained_eq_nil (.inr (.inr (by simp [slot])))
      refine conserved.keep ?_ ?_ (fun _ => ⟨sender, queue⟩)
        (fun kept => absurd retained kept) rfl rfl rfl
      · simp [CapturePipeline.held, writer, slot, queue, SpoolWriter.inHand]
      simp_all
    | none =>
      refine conserved.keep ?_ conserved.opened (fun _ => ⟨sender, queue⟩) ?_ rfl rfl rfl
      · simp [CapturePipeline.held, writer, SpoolWriter.inHand]
      · intro kept
        exact ⟨queue, slot, rfl⟩
  | _ => exact conserved

theorem closeSpool : pipeline.closeSpool.Conserved := by
  unfold CapturePipeline.closeSpool
  cases writer : pipeline.writer with
  | closing =>
    refine conserved.keep ?_ conserved.opened
      (fun _ => conserved.drained (by rw [writer]; rfl)) ?_ rfl rfl rfl
    · simp [CapturePipeline.held, writer, SpoolWriter.inHand]
    · intro kept
      exact ⟨(conserved.kept kept).1, (conserved.kept kept).2.1, rfl⟩
  | _ => exact conserved

end

end Conserved

theorem conserved_step {pipeline : CapturePipeline} (conserved : pipeline.Conserved)
    (action : Action) : (pipeline.step action).Conserved := by
  cases action with
  | capture producer captured => exact conserved.capture producer captured
  | append producer => exact conserved.append producer
  | fail | close => exact conserved.closed rfl rfl rfl rfl
  | receive => exact conserved.receive
  | spoolAppend result => exact conserved.spoolAppend result
  | retain => exact conserved.retain
  | takeEmergency => exact conserved.takeEmergency
  | closeSpool => exact conserved.closeSpool

theorem conserved_run (actions : List Action) : (machine.run actions).Conserved :=
  @Machine.invariant_run _ _ machine _ conserved_initial
    (fun _ action conserved => conserved_step conserved action) _

/-- Order within each capture thread. -/
def ThreadOrdered (offers : List Offer) : Prop :=
  offers.Pairwise fun earlier later => earlier.producer = later.producer → earlier.turn < later.turn

/-- Distinct calls give distinct datagrams. -/
theorem ThreadOrdered.nodup {offers : List Offer} (ordered : ThreadOrdered offers) :
    offers.Nodup := by
  refine ordered.imp ?_
  grind

/-- In every state that a run reaches, each datagram that the sink took is exactly once in the
spool, the list kept after a failure, the queue or the emergency slot, or is the single
datagram in the writer's hand, and these hold nothing else. The spool with the queue and the
emergency slot behind it keeps the order of each capture thread. -/
theorem captureQueue_conserves (actions : List Action) :
    let pipeline := machine.run actions
    (pipeline.spool ++ pipeline.sink.retainedAfterFailure ++ pipeline.writer.inHand ++
      pipeline.sink.queue ++ pipeline.sink.emergency.toList) = pipeline.accepted ∧
    pipeline.accepted.Nodup ∧ pipeline.writer.inHand.length ≤ 1 ∧
    ThreadOrdered (pipeline.spool ++ pipeline.sink.queue ++ pipeline.sink.emergency.toList) := by
  have conserved := conserved_run actions
  refine ⟨conserved.held, ThreadOrdered.nodup conserved.ordered, ?_, ?_⟩
  · cases (machine.run actions).writer <;> simp [SpoolWriter.inHand]
  · refine List.Pairwise.sublist ?_ conserved.ordered
    rw [← conserved.held]
    refine List.Sublist.append ?_ (List.Sublist.refl _)
    refine List.Sublist.append ?_ (List.Sublist.refl _)
    rw [List.append_assoc]
    exact List.sublist_append_left _ _

def sampleDatagram : CapturedUdpDatagram where
  event :=
    { processId := 7
      clientAddress := .v4 ⟨[127, 0, 0, 1], rfl⟩ 5353
      targetAddress := .v4 ⟨[192, 0, 2, 1], rfl⟩ 53
      direction := .up
      payload := [1]
      capturedAtMilliseconds := 0
      modifications := [] }
  recordingProcessGeneration := "g"
  recordingEpoch := 0

/-- While the writer appends a datagram, the datagram is in none of the four containers. -/
theorem accepted_inHand :
    ¬ ∀ actions, ∀ offer ∈ (machine.run actions).accepted,
      offer ∈ (machine.run actions).spool ++ (machine.run actions).sink.queue ++
        (machine.run actions).sink.emergency.toList ++
        (machine.run actions).sink.retainedAfterFailure := by
  intro everywhere
  have taken := everywhere [.capture 0 sampleDatagram, .append 0, .receive]
    { producer := 0, turn := 0, captured := sampleDatagram } (by decide)
  revert taken
  decide

end CapturePipeline

end SprakCapture.UdpRecording
