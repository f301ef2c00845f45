import SprakCapture.Control.CapturedBodies
import SprakCapture.Control.TransparentRecording

/-!
# Packets of both producers

A packet list is worth nothing if one packet of it is empty or ends beyond the body. `Recording`
is what holds of a relayed connection as long as all that it writes is handed on to the writer:
what was written is, in order, what the packets show, what is queued and what waits.
`packets_accepted` puts it together with the packets of SOCKS sessions.
-/

namespace SprakCapture.Control

open Data Plugins Capture List Capture.RecordingSession RelayDirection TransparentRelay
open Socks5 (CapturedPacket CapturedBytesBudget)

/-! ### What is recorded as written -/

/-- A block that was written to the peer. -/
def isForwarded : StreamPacketAction → Bool
  | .forward => true
  | .replace => true
  | _ => false

/-- What a block says was written. -/
def CapturedChunk.forwardedBytes (chunk : CapturedChunk) : Bytes :=
  if isForwarded chunk.action then chunk.bytes else []

/-- The range of a body that a packet refers to. -/
def packetRange (contents : Bytes) (packet : StreamPacket) : Bytes :=
  (contents.drop packet.storedOffsetBytes).take packet.storedBytes

/-- What the packets of a side say was written. -/
def CaptureSide.forwardedBytes (captured : CaptureSide) : Bytes :=
  captured.packets.flatMap fun packet =>
    if isForwarded packet.action then packetRange captured.spool.contents packet else []

/-- What the events of a queue say was written in one direction. -/
def queuedBytes (side : MessageSide) (queue : List CaptureEvent) : Bytes :=
  queue.flatMap fun event =>
    match event with
    | .chunk other chunk => if other = side then chunk.forwardedBytes else []
    | .terminal _ => []

/-- What a direction has written and waits to record. -/
def RelayDirection.waitingBytes (direction : RelayDirection) : Bytes :=
  direction.waiting.elim [] CapturedChunk.forwardedBytes

/-- The packets of a side refer to parts of what was appended. -/
def CaptureSide.Valid (captured : CaptureSide) : Prop :=
  ∀ packet ∈ captured.packets,
    RecordingSession.validPacket captured.spool.writtenBytes packet = true

theorem packetRange_append {contents : Bytes} {packet : StreamPacket}
    (within : packet.storedOffsetBytes + packet.storedBytes ≤ contents.length) (more : Bytes) :
    packetRange (contents ++ more) packet = packetRange contents packet := by
  grind [packetRange]

/-- An appended block is valid if it is not empty. -/
theorem CaptureSide.Valid.append {captured : CaptureSide} (valid : captured.Valid)
    {chunk : CapturedChunk} (nonempty : chunk.bytes ≠ []) :
    (appendCapturedChunk captured chunk).Valid := by
  intro packet member
  rw [validPacket_iff]
  rcases mem_append.mp member with before | _
  · obtain ⟨_, _, _, _⟩ :=
      validPacket_iff.mp (valid packet before)
    grind [BodySpool.writtenBytes, appendCapturedChunk]
  grind [appendCapturedChunk, BodySpool.writtenBytes]

theorem CaptureSide.Valid.forwardedBytes_append {captured : CaptureSide} (valid : captured.Valid)
    (chunk : CapturedChunk) :
    (appendCapturedChunk captured chunk).forwardedBytes =
      captured.forwardedBytes ++ chunk.forwardedBytes := by
  have shown : packetRange (captured.spool.contents ++ chunk.bytes)
      { sequence := UInt64.ofNat (captured.packets.length + 1)
        capturedAtMilliseconds := chunk.capturedAtMilliseconds
        storedOffsetBytes := captured.spool.writtenBytes
        storedBytes := chunk.bytes.length
        originalBytes := chunk.bytes.length
        truncated := false
        action := chunk.action
        modifications := chunk.modifications } = chunk.bytes := by
    simp [packetRange, BodySpool.writtenBytes]
  unfold CaptureSide.forwardedBytes CapturedChunk.forwardedBytes appendCapturedChunk
  rw [flatMap_append]
  congr 1
  · refine flatMap_congr fun packet member => ?_
    have within := (validPacket_iff.mp (valid packet member)).2.2.2
    rw [packetRange_append within]
  simp_all

/-! ### Runs of a relay -/

variable (queue : List CaptureEvent) {terminal : RelayTerminal}

namespace TransparentRelay

/-- What was written in each direction is what its packets show, what is queued and what waits. No
block on the way is empty, and nothing is on the way when the writer stops receiving. -/
structure Recording (relay : TransparentRelay) : Prop where
  written : ∀ side, (relay.direction side).written = (relay.captured side).forwardedBytes ++
    queuedBytes side relay.queue ++ (relay.direction side).waitingBytes
  valid : ∀ side, (relay.captured side).Valid
  queuedNonempty : ∀ side chunk, .chunk side chunk ∈ relay.queue → chunk.bytes ≠ []
  waitingNonempty : ∀ side chunk, (relay.direction side).waiting = some chunk → chunk.bytes ≠ []
  capturing : ∀ side, (relay.direction side).capturing = true
  stopped : relay.ended = true → ∀ side, idle (relay.direction side) = true
  ends : ∀ front terminal rest, relay.queue = front ++ .terminal terminal :: rest →
    relay.ended = true ∧ rest = []
  received : relay.writer ≠ .receiving → relay.ended = true ∧ relay.queue = []

/-- An action hands on to the recording what it writes, and writes no empty block. -/
def Records (relay : TransparentRelay) : RelayAction → Prop
  | .read _ _ (.forward bytes) .complete _ => bytes ≠ []
  | .read _ _ (.forward bytes) (.partly byteCount) _ => bytes.take byteCount = []
  | .drop side => (relay.direction side).waitingBytes = []
  | .abandon => relay.upload.waitingBytes = [] ∧ relay.download.waitingBytes = []
  | _ => True

instance (relay : TransparentRelay) (action : RelayAction) : Decidable (relay.Records action) := by
  unfold Records
  split <;> infer_instance

theorem recording_start : start.Recording where
  written := by
    intro side
    cases side <;> rfl
  valid := by
    intro side
    cases side <;> exact nofun
  queuedNonempty := nofun
  waitingNonempty := by
    intro side
    cases side <;> nofun
  capturing := by
    intro side
    cases side <;> rfl
  stopped := nofun
  ends := by
    intro front _ _ split
    cases front <;> cases split
  received := fun stopped => absurd rfl stopped

variable {relay : TransparentRelay} {side other : MessageSide}

section

variable (direction : RelayDirection)
include direction

@[simp] theorem direction_withDirection :
    (relay.withDirection side direction).direction other =
      if side = other then direction else relay.direction other := by
  cases side <;> cases other <;> rfl

@[simp] theorem captured_withDirection :
    (relay.withDirection side direction).captured other = relay.captured other := by
  cases side <;> cases other <;> rfl

@[simp] theorem queue_withDirection : (relay.withDirection side direction).queue = relay.queue := by
  cases side <;> rfl

@[simp] theorem ended_withDirection : (relay.withDirection side direction).ended = relay.ended := by
  cases side <;> rfl

@[simp] theorem writer_withDirection :
    (relay.withDirection side direction).writer = relay.writer := by
  cases side <;> rfl

end

/-- A direction changes by itself. It writes what it begins to wait for, and does not start
again. -/
theorem Recording.withDirection (recording : relay.Recording) {direction : RelayDirection}
    {written : Bytes} (writes : direction.written = (relay.direction side).written ++ written)
    (waits : direction.waitingBytes = (relay.direction side).waitingBytes ++ written)
    (nonempty : ∀ chunk, direction.waiting = some chunk → chunk.bytes ≠ [])
    (capturing : direction.capturing = true)
    (stopped : relay.ended = true → idle direction = true) :
    (relay.withDirection side direction).Recording where
  written := by
    intro other
    rw [direction_withDirection, captured_withDirection, queue_withDirection]
    split
    · rename_i same
      subst same
      rw [writes, recording.written side, waits, append_assoc _ _ written]
    · exact recording.written other
  valid := by
    intro other
    rw [captured_withDirection]
    exact recording.valid other
  queuedNonempty := by
    rw [queue_withDirection]
    exact recording.queuedNonempty
  waitingNonempty := by
    intro other
    rw [direction_withDirection]
    split
    · exact nonempty
    · exact recording.waitingNonempty other
  capturing := by
    intro other
    rw [direction_withDirection]
    split
    · exact capturing
    · exact recording.capturing other
  stopped := by
    rw [ended_withDirection]
    intro ended other
    rw [direction_withDirection]
    split
    · exact stopped ended
    · exact recording.stopped ended other
  ends := by
    rw [queue_withDirection, ended_withDirection]
    exact recording.ends
  received := by
    rw [writer_withDirection, queue_withDirection, ended_withDirection]
    exact recording.received

theorem Recording.read (recording : relay.Recording) {original : Bytes}
    {result : DataPlaneActionResult} {outcome : WriteOutcome} {now : UInt64}
    (records : relay.Records (.read side original result outcome now)) :
    (relay.step (.read side original result outcome now)).Recording := by
  unfold step
  dsimp only
  split
  · rename_i ready
    obtain ⟨running, waiting, nonempty⟩ := ready
    have capturing := recording.capturing side
    have nothing : (relay.direction side).waitingBytes = [] := by
      rw [waitingBytes, waiting]
      rfl
    have notEnded : relay.ended = true → ∀ claim : Prop, claim := by
      intro ended
      have stopped := recording.stopped ended side
      rw [idle, running] at stopped
      cases stopped
    cases result with
    | hold =>
      exact recording.withDirection (append_nil _).symm (append_nil _).symm
        (recording.waitingNonempty side) capturing fun ended => notEnded ended _
    | drop =>
      simp only [RelayDirection.relay, record, capturing]
      refine recording.withDirection (append_nil _).symm ?_ ?_ rfl fun ended => notEnded ended _
      · rw [nothing]
        rfl
      · intro chunk isChunk
        cases isChunk
        exact nonempty
    | close =>
      simp only [RelayDirection.relay, capturing]
      refine recording.withDirection (append_nil _).symm ?_ ?_ rfl fun ended => notEnded ended _
      · rw [nothing]
        rfl
      · intro chunk isChunk
        cases isChunk
        exact nonempty
    | forward bytes =>
      cases outcome with
      | complete =>
        simp only [RelayDirection.relay, capturing]
        refine recording.withDirection rfl ?_ ?_ rfl fun ended => notEnded ended _
        · rw [nothing]
          simp only [forwardedChunk]
          split <;> rfl
        · intro chunk isChunk
          cases isChunk
          exact records
      | partly byteCount =>
        have none : bytes.take byteCount = [] := records
        simp only [RelayDirection.relay, none, append_nil]
        exact recording.withDirection (append_nil _).symm (append_nil _).symm
          (recording.waitingNonempty side) capturing fun ended => notEnded ended _
  · exact recording

theorem ends_concat {queue front rest : List CaptureEvent} {event : CaptureEvent}
    (split : queue ++ [event] = front ++ .terminal terminal :: rest) :
    (∃ before, queue = front ++ .terminal terminal :: before) ∨
      rest = [] ∧ event = .terminal terminal := by
  rcases eq_nil_or_concat rest with rfl | ⟨before, _, rfl⟩
  · obtain ⟨-, isTerminal⟩ := append_inj' split rfl
    exact .inr ⟨rfl, singleton_inj.mp isTerminal⟩
  · rw [concat_eq_append, ← cons_append, ← append_assoc] at split
    exact .inl ⟨before, (append_inj' split rfl).1⟩

@[simp] theorem captured_withQueue :
    ({ relay with queue := queue } : TransparentRelay).captured side = relay.captured side := by
  cases side <;> rfl

@[simp] theorem direction_withQueue :
    ({ relay with queue := queue } : TransparentRelay).direction side = relay.direction side := by
  cases side <;> rfl

@[simp] theorem queuedBytes_concat (event : CaptureEvent) :
    queuedBytes side (queue ++ [event]) = queuedBytes side queue ++ queuedBytes side [event] :=
  flatMap_append

section

variable (recording : relay.Recording)
include recording

theorem Recording.send (side : MessageSide) : (relay.step (.send side)).Recording := by
  unfold step admitChunk
  dsimp only
  split
  · exact recording
  rename_i chunk waiting
  have notEnded : relay.ended = true → ∀ claim : Prop, claim := by
    intro ended
    have stopped := recording.stopped ended side
    rw [idle, waiting] at stopped
    simp at stopped
  have receiving : relay.writer = .receiving := by
    by_contra stopped
    exact notEnded (recording.received stopped).1 _
  rw [if_pos receiving]
  split
  · refine ⟨?_, ?_, ?_, ?_, ?_, ?_, ?_, ?_⟩
    · intro other
      have before := recording.written other
      grind [waitingBytes, queuedBytes, direction_withDirection,
        captured_withDirection, queue_withDirection, captured_withQueue, direction_withQueue]
    · intro other
      rw [captured_withDirection]
      exact recording.valid other
    · intro other queued member
      rw [queue_withDirection] at member
      rcases mem_append.mp member with before | isNew
      · exact recording.queuedNonempty other queued before
      · cases mem_singleton.mp isNew
        exact recording.waitingNonempty side chunk waiting
    · intro other
      rw [direction_withDirection]
      split
      · nofun
      · exact recording.waitingNonempty other
    · intro other
      rw [direction_withDirection]
      split
      · exact recording.capturing side
      · exact recording.capturing other
    · simp_all
    · intro front terminal _ split
      rw [queue_withDirection] at split
      rcases ends_concat split with ⟨before, queued⟩ | ⟨-, impossible⟩
      · exact notEnded (recording.ends front terminal before queued).1 _
      · cases impossible
    simp_all
  · exact recording

theorem Recording.stop (side : MessageSide) : (relay.step (.stop side)).Recording := by
  unfold step
  dsimp only
  split
  · rename_i waiting
    refine recording.withDirection (append_nil _).symm (append_nil _).symm
      (recording.waitingNonempty side) (recording.capturing side) fun _ => ?_
    rw [waiting]
    rfl
  · exact recording

theorem Recording.drop (nothing : (relay.direction side).waitingBytes = []) :
    (relay.step (.drop side)).Recording := by
  refine recording.withDirection (append_nil _).symm ?_ nofun (recording.capturing side)
    fun _ => rfl
  rw [nothing]
  rfl

/-- The terminal event is queued when both directions are over. -/
theorem Recording.finish (terminal : RelayTerminal) :
    (relay.step (.finish terminal)).Recording := by
  unfold step
  dsimp only
  split
  · rename_i bothIdle
    obtain ⟨uploadIdle, downloadIdle, notEnded⟩ := bothIdle
    have stopped : ∀ side, idle (relay.direction side) = true := by
      intro side
      cases side
      · exact uploadIdle
      · exact downloadIdle
    have receiving : relay.writer = .receiving := by
      by_contra stopped
      rw [(recording.received stopped).1] at notEnded
      cases notEnded
    rw [if_pos receiving]
    split
    · refine ⟨?_, ?_, ?_, ?_, ?_, ?_, ?_, ?_⟩
      · intro side
        have before := recording.written side
        rw [queuedBytes_concat, show queuedBytes side [.terminal terminal] = [] from rfl,
          append_nil]
        exact before
      · exact fun side => recording.valid side
      · intro side chunk member
        rcases mem_append.mp member with before | isNew
        · exact recording.queuedNonempty side chunk before
        · cases mem_singleton.mp isNew
      · exact fun side => recording.waitingNonempty side
      · exact fun side => recording.capturing side
      · exact fun _ side => stopped side
      · intro front other _ split
        rcases ends_concat split with ⟨before, queued⟩ | ⟨last, -⟩
        · rw [(recording.ends front other before queued).1] at notEnded
          cases notEnded
        · exact ⟨rfl, last⟩
      · exact fun stopped => absurd receiving stopped
    · exact recording
  · exact recording

theorem Recording.abandon (uploadNothing : relay.upload.waitingBytes = [])
    (downloadNothing : relay.download.waitingBytes = []) :
    (relay.step .abandon).Recording where
  written := by
    intro side
    have before := recording.written side
    cases side with
    | request =>
      have written : relay.upload.written = relay.request.forwardedBytes ++
          queuedBytes .request relay.queue ++ relay.upload.waitingBytes := before
      rw [uploadNothing] at written
      exact written
    | response =>
      have written : relay.download.written = relay.response.forwardedBytes ++
          queuedBytes .response relay.queue ++ relay.download.waitingBytes := before
      rw [downloadNothing] at written
      exact written
  valid := fun side => recording.valid side
  queuedNonempty := recording.queuedNonempty
  waitingNonempty := fun side => by cases side <;> nofun
  capturing := fun side => by
    have before := recording.capturing side
    cases side <;> exact before
  stopped := fun _ side => by cases side <;> rfl
  ends := fun front terminal rest split => ⟨rfl, (recording.ends front terminal rest split).2⟩
  received := fun stopped => ⟨rfl, (recording.received stopped).2⟩

/-- A block that the writer appends moves from the queue to the packets. -/
theorem Recording.append {chunk : CapturedChunk} {queue : List CaptureEvent}
    (next : relay.queue = .chunk side chunk :: queue) :
    ({ relay with queue := queue }.withCaptured side
      (appendCapturedChunk (relay.captured side) chunk)).Recording := by
  have nonempty : chunk.bytes ≠ [] :=
    recording.queuedNonempty side chunk (by rw [next]; exact mem_cons_self)
  have shown := (recording.valid side).forwardedBytes_append chunk
  refine ⟨?_, ?_, ?_, ?_, ?_, ?_, ?_, ?_⟩
  · intro other
    have before := recording.written other
    cases side <;> cases other <;> simp_all [withCaptured, captured, direction, queuedBytes]
  · intro other
    have valid := (recording.valid side).append nonempty
    have before := recording.valid other
    cases side <;> cases other <;> first | exact valid | exact before
  · intro other queued member
    refine recording.queuedNonempty other queued ?_
    rw [next]
    cases side <;> exact .tail _ member
  · intro other
    have before := recording.waitingNonempty other
    cases side <;> cases other <;> exact before
  · intro other
    have before := recording.capturing other
    cases side <;> cases other <;> exact before
  · intro ended other
    have before := recording.stopped (by cases side <;> exact ended) other
    cases side <;> cases other <;> exact before
  · intro front terminal rest split
    have behind : relay.queue = (.chunk side chunk :: front) ++ .terminal terminal :: rest := by
      rw [next]
      congr 1
      cases side <;> exact split
    have before := recording.ends _ terminal rest behind
    cases side <;> exact before
  · intro stopped
    have finished := (recording.received (by cases side <;> exact stopped)).2
    rw [next] at finished
    cases finished

theorem Recording.receive (appended : Bool) :
    (relay.step (.take appended)).writer = .failed ∨ (relay.step (.take appended)).Recording := by
  unfold step TransparentRelay.receive
  dsimp only
  split
  · rename_i next
    split
    · exact .inr (recording.append next)
    · exact .inl rfl
  · rename_i terminal queue receiving next
    obtain ⟨ended, rfl⟩ := recording.ends [] terminal queue next
    right
    refine ⟨?_, fun side => recording.valid side, nofun, fun side => recording.waitingNonempty side,
      fun side => recording.capturing side, fun ended side => recording.stopped ended side, ?_,
      fun _ => ⟨ended, rfl⟩⟩
    · intro side
      have before := recording.written side
      rw [next] at before
      exact before
    simp
  · rename_i receiving empty
    split
    · rename_i ended
      right
      exact ⟨fun side => recording.written side, fun side => recording.valid side,
        recording.queuedNonempty, fun side => recording.waitingNonempty side,
        fun side => recording.capturing side, fun ended side => recording.stopped ended side,
        recording.ends, fun _ => ⟨ended, empty⟩⟩
    · exact .inr recording
  · exact .inr recording

end

theorem failed_step (failed : relay.writer = .failed) (action : RelayAction) :
    (relay.step action).writer = .failed := by
  cases action with
  | read side | stop side => grind [step, writer_withDirection]
  | send side =>
    grind [step, admitChunk, writer_withDirection]
  | drop side =>
    simp only [step]
    rw [writer_withDirection]
    exact failed
  | finish =>
    grind [step]
  | abandon => exact failed
  | take => simp [step, receive, failed]

theorem recording_step (kept : relay.writer = .failed ∨ relay.Recording) {action : RelayAction}
    (records : relay.writer = .failed ∨ relay.Records action) :
    (relay.step action).writer = .failed ∨ (relay.step action).Recording := by
  rcases kept with failed | recording
  · exact .inl (failed_step failed action)
  rcases records with failed | records
  · exact .inl (failed_step failed action)
  cases action with
  | read side => exact .inr (recording.read records)
  | send side => exact .inr (recording.send side)
  | stop side => exact .inr (recording.stop side)
  | drop side => exact .inr (recording.drop records)
  | finish terminal => exact .inr (recording.finish terminal)
  | abandon => exact .inr (recording.abandon records.1 records.2)
  | take appended => exact recording.receive appended

end TransparentRelay

theorem recorded_run {actions : List RelayAction}
    (guarded : relayMachine.Guarded (fun relay action =>
      relay.writer = .failed ∨ relay.Records action) relayMachine.initial actions)
    (storing : (relayMachine.run actions).writer = .storing terminal) (side : MessageSide) :
    ((relayMachine.run actions).captured side).Valid ∧
      ((relayMachine.run actions).captured side).forwardedBytes =
        ((relayMachine.run actions).direction side).written := by
  have kept : (relayMachine.run actions).writer = .failed ∨ (relayMachine.run actions).Recording :=
    @Machine.guarded_run _ _ _ _ (fun relay => relay.writer = .failed ∨ relay.Recording)
      (Or.inr recording_start)
      (fun _ _ kept records => recording_step kept records) _ guarded
  rcases kept with failed | recording
  · rw [failed] at storing
    cases storing
  have stopped : (relayMachine.run actions).writer ≠ .receiving := by
    rw [storing]
    nofun
  obtain ⟨ended, _⟩ := recording.received stopped
  have stopped := recording.stopped ended side
  refine ⟨recording.valid side, ?_⟩
  have written := recording.written side
  have nothing : ((relayMachine.run actions).direction side).waiting = none := by
    simp only [idle, Bool.and_eq_true, Option.isNone_iff_eq_none] at stopped
    exact stopped.2
  grind [waitingBytes, queuedBytes]

theorem storeCapture_accepted {env : Environment} {session : RecordingSession}
    {transactionId requestSpool responseSpool : Uuid} {removed : Bool × Bool}
    {request response : CaptureSide} {requestStage responseStage : Spool}
    (requestStaged : session.stagedSpool transactionId requestSpool = some requestStage)
    (responseStaged : session.stagedSpool transactionId responseSpool = some responseStage)
    (requestBytes : requestStage.writtenBytes = request.spool.writtenBytes)
    (responseBytes : responseStage.writtenBytes = response.spool.writtenBytes)
    (requestValid : request.Valid) (responseValid : response.Valid)
    (scripts : List Await × List Await × List Await) :
    (storeCapture env session transactionId requestSpool responseSpool removed
      ⟨request.packets, 0⟩ ⟨response.packets, 0⟩ scripts).1 ≠
        .error (.error .invalidBodyLength) := by
  intro rejected
  unfold storeCapture at rejected
  split at rejected
  · rename_i stop after stored
    cases rejected
    exact storeBodySpools_invalid (congrArg Prod.fst stored)
  rename_i handles bodies stored
  obtain ⟨_, _, isRequest, isResponse, requestBody, responseBody⟩ :=
    storeBodySpools_stored (congrArg Prod.fst stored)
  rw [requestStaged] at isRequest
  rw [responseStaged] at isResponse
  cases isRequest
  cases isResponse
  rw [stored] at requestBody responseBody
  split at rejected
  · rename_i stop indexed failed
    cases rejected
    obtain ⟨-, bodyLength, isLength, packet, member, invalid⟩ :=
      storeStreamPackets_rejects_iff.mp (congrArg Prod.fst failed)
    rw [requestBody, requestBytes] at isLength
    cases isLength
    rw [requestValid packet member] at invalid
    cases invalid
  · rename_i indexed done
    obtain ⟨-, bodyLength, isLength, packet, member, invalid⟩ :=
      storeStreamPackets_rejects_iff.mp rejected
    have kept := storedBodyBytes_storeStreamPackets (congrArg Prod.fst done) .response
    rw [done, responseBody, responseBytes] at kept
    rw [kept] at isLength
    cases isLength
    rw [responseValid packet member] at invalid
    cases invalid

/-- The packets of SOCKS sessions are accepted exactly if the limits of the recording let in the
bodies to the end of their packets. The packets of a transparent relay that hands on to its
recording all that it writes, and writes no empty block, are accepted and show what was
written. -/
theorem packets_accepted (env : Environment) (session : RecordingSession) (transactionId : Uuid) :
    (∀ (modifications : CapturedPacket → List StreamPacketModification)
      (up down : DirectionCapture), up.ReadFrom .up → down.ReadFrom .down →
      ∀ upScripts downScripts : List Await × List Await,
      ((storeCapturedBodies env modifications session transactionId up down upScripts
          downScripts).1 ≠ .error (.error .invalidBodyLength) ↔
        up.StoredWithin env session transactionId .request upScripts.1 ∧
          ((storeCapturedBody env modifications session transactionId .request up
              upScripts).1 = .ok () →
            down.StoredWithin env
              (storeCapturedBody env modifications session transactionId .request up upScripts).2
              transactionId .response downScripts.1))) ∧
    ∀ (actions : List RelayAction) (terminal : RelayTerminal),
      relayMachine.Guarded (fun relay action => relay.writer = .failed ∨ relay.Records action)
        relayMachine.initial actions →
      (relayMachine.run actions).writer = .storing terminal →
      (∀ side, ((relayMachine.run actions).captured side).forwardedBytes =
        ((relayMachine.run actions).direction side).written) ∧
      ∀ (requestSpool responseSpool : Uuid) (request response : Spool)
        (removed : Bool × Bool) (scripts : List Await × List Await × List Await),
        session.stagedSpool transactionId requestSpool = some request →
        session.stagedSpool transactionId responseSpool = some response →
        request.writtenBytes = (relayMachine.run actions).request.spool.writtenBytes →
        response.writtenBytes = (relayMachine.run actions).response.spool.writtenBytes →
        (storeCapture env session transactionId requestSpool responseSpool removed
          ⟨(relayMachine.run actions).request.packets, 0⟩
          ⟨(relayMachine.run actions).response.packets, 0⟩ scripts).1 ≠
            .error (.error .invalidBodyLength) := by
  constructor
  · intro modifications up down upRead downRead upScripts downScripts
    exact storeCapturedBodies_accepted_iff upRead.truthful downRead.truthful upScripts downScripts
  · intro actions terminal guarded storing
    have recorded := recorded_run guarded storing
    refine ⟨fun side => (recorded side).2, ?_⟩
    intro requestSpool responseSpool request response removed scripts requestStaged
      responseStaged requestBytes responseBytes
    exact storeCapture_accepted requestStaged responseStaged requestBytes responseBytes
      (recorded .request).1 (recorded .response).1 scripts

/-- A connection in which one block is sent up as the data plane has left it. -/
def relayOf (bytes : Bytes) : List RelayAction :=
  [.read .request [1] (.forward bytes) .complete 0, .send .request, .stop .request,
    .stop .response, .finish .complete, .take true, .take true]

/-- A transaction with two spools that are staged, of which the first has some bytes. -/
def spooledSession (bytes : Nat) : RecordingSession :=
  smallMachine.run
    [.beginTransaction .plain [], .createBodySpool 2 .request true,
      .createBodySpool 2 .response true, .storeEvent (.appendSpool 3 bytes),
      .storeEvent (.stageSpool 3 2 true true), .storeEvent (.stageSpool 4 2 true true)]

/-- One direction of a session that has relayed a byte. -/
def oneByte : DirectionCapture where
  originalBytes := 1
  previousOriginalBytes := 0
  packets := [⟨.up, 1, 0, 0, 1, 1⟩]
  capturedBytes := [7]

/-- A direction in which nothing was relayed. -/
def noBytes : DirectionCapture := ⟨0, 0, [], []⟩

/-- A SOCKS session that has relayed a byte, and a relay that sends two bytes in place of one. -/
theorem packets_accepted_replaced :
    (storeCapturedBodies .counting (fun _ => []) (spooledSession 2) 2 oneByte noBytes ([], [])
        ([], [])).1 ≠ .error (.error .invalidBodyLength) ∧
      ((relayMachine.run (relayOf [2, 3])).captured .request).forwardedBytes = [2, 3] ∧
      (storeCapture .counting (spooledSession 2) 2 3 4 (true, true)
        ⟨(relayMachine.run (relayOf [2, 3])).request.packets, 0⟩
        ⟨(relayMachine.run (relayOf [2, 3])).response.packets, 0⟩ ([], [], [])).1 ≠
          .error (.error .invalidBodyLength) := by
  have oneRead : oneByte.ReadFrom .up :=
    ⟨[⟨⟨100, 0⟩, .up, [7], 0⟩], [], by decide, by decide⟩
  have noneRead : noBytes.ReadFrom .down := ⟨[], [], rfl, rfl⟩
  have requestStaged : (spooledSession 2).stagedSpool 2 3 =
      some ⟨2, .request, 2, .staged 2⟩ := by decide +kernel
  have responseStaged : (spooledSession 2).stagedSpool 2 4 =
      some ⟨2, .response, 0, .staged 2⟩ := by decide +kernel
  obtain ⟨socks, transparent⟩ := packets_accepted .counting (spooledSession 2) 2
  have accepted := socks (fun _ => []) oneByte noBytes oneRead noneRead ([], []) ([], [])
  obtain ⟨shown, stored⟩ := transparent (relayOf [2, 3]) .complete (by decide) (by decide)
  refine ⟨accepted.mpr ⟨fun _ _ => by decide +kernel, fun _ => nofun⟩, ?_, ?_⟩
  · decide
  · exact stored 3 4 _ _ (true, true) ([], [], []) requestStaged
      responseStaged (by decide) (by decide)

/-- The data plane lets a block through of which it has left nothing: its packet is empty, and the
packets of the connection are rejected. -/
theorem not_packets_accepted_empty :
    (relayMachine.run (relayOf [])).writer = .storing .complete ∧
      (storeCapture .counting (spooledSession 0) 2 3 4 (true, true)
        ⟨(relayMachine.run (relayOf [])).request.packets, 0⟩
        ⟨(relayMachine.run (relayOf [])).response.packets, 0⟩ ([], [], [])).1 =
          .error (.error .invalidBodyLength) := by
  decide +kernel

end SprakCapture.Control
