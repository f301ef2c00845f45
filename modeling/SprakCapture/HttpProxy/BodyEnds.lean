import SprakCapture.HttpProxy.BodyPumps

/-!
# Ends of message bodies

A pump follows a script of waits. What the receiver finds before the end of the stream is all of
the body, or a part of it and an error, unless the pump is cancelled before the last item of the
script. `passedOn_iff` says this of both pumps.
-/

namespace SprakCapture.HttpProxy

open Data List Data.Channel

variable {pacer later : ThrottlePacer}

section Ends

variable {Fault Trailers : Type}

/-! ### What a receiver finds -/

/-- What a receiver can tell apart. -/
inductive BodyPiece (Fault Trailers : Type) where
  | byte (byte : UInt8)
  | trailers (fields : Trailers)
  | failure (error : BodyError Fault)

def itemPieces : BodyItem Fault Trailers → List (BodyPiece Fault Trailers)
  | .ok (.data bytes) => bytes.map .byte
  | .ok (.trailers fields) => [.trailers fields]
  | .error error => [.failure error]

/-- The pieces of the items of a channel. -/
def pieces (items : List (BodyItem Fault Trailers)) : List (BodyPiece Fault Trailers) :=
  items.flatMap itemPieces

/-- The pieces of a body, up to its first error. -/
def sourcePieces : BodySource Fault Trailers → List (BodyPiece Fault Trailers)
  | [] => []
  | .ok frame :: rest => itemPieces (.ok frame) ++ sourcePieces rest
  | .error _ :: _ => []

/-- A body that ends without an error. -/
def sourceComplete (source : BodySource Fault Trailers) : Prop :=
  ∀ item ∈ source, item.isOk = true

instance (source : BodySource Fault Trailers) : Decidable (sourceComplete source) :=
  inferInstanceAs (Decidable (∀ item ∈ source, item.isOk = true))

/-- Before the end of the stream there is all of the body, or a part of it and an error. -/
def EndsHonestly (source : BodySource Fault Trailers)
    (found : List (BodyPiece Fault Trailers)) : Prop :=
  (sourceComplete source ∧ found = sourcePieces source) ∨
    ∃ data error, found = data ++ [.failure error] ∧ data <+: sourcePieces source

theorem pieces_append (first second : List (BodyItem Fault Trailers)) :
    pieces (first ++ second) = pieces first ++ pieces second :=
  flatMap_append

@[simp] theorem pieces_nil : pieces ([] : List (BodyItem Fault Trailers)) = [] := rfl

@[simp] theorem pieces_cons (item : BodyItem Fault Trailers)
    (items : List (BodyItem Fault Trailers)) :
    pieces (item :: items) = itemPieces item ++ pieces items := rfl

variable (source : BodySource Fault Trailers)

/-- A body has no error among its pieces. -/
theorem failure_notMem_sourcePieces (error : BodyError Fault) :
    .failure error ∉ sourcePieces source := by
  induction source with
  | nil => exact not_mem_nil
  | cons item _ ih =>
    rcases item with _ | (_ | _)
    all_goals simp [sourcePieces, itemPieces, ih]

/-! ### Scripts -/

/-- The waits for the chunks of a data frame, and the pacer after them unless a chunk is
dropped. -/
def chunkScript (bytes : Bytes) (pacer : ThrottlePacer) :
    List (Wait (BodyItem Fault Trailers)) × Option ThrottlePacer :=
  if bytes.length = 0 then ([], some pacer)
  else
    match pacer.nextChunk bytes.length with
    | (.ok (some chunk), pacer) =>
      if chunk.byteCount = 0 ∨ bytes.length < chunk.byteCount then ([], none)
      else
        match chunk.action with
        | .forward =>
          let (script, next) := chunkScript (bytes.drop chunk.byteCount) pacer
          (.deliver (.ok (.data (bytes.take chunk.byteCount))) :: script, next)
        | .drop => ([.deliver (.error .throttlingDroppedFrame)], none)
    | _ => ([], none)
termination_by bytes.length
decreasing_by
  rw [length_drop]
  omega

/-- The waits for a body. -/
def bodyScript : BodySource Fault Trailers → Option ThrottlePacer →
    List (Wait (BodyItem Fault Trailers))
  | [], _ => [.pause]
  | .ok (.data bytes) :: rest, some pacer =>
    match chunkScript bytes pacer with
    | (script, some pacer) => .pause :: (script ++ bodyScript rest (some pacer))
    | (script, none) => .pause :: script
  | .ok frame :: rest, pacer => .pause :: .deliver (.ok frame) :: bodyScript rest pacer
  | .error fault :: _, _ => [.pause, .deliver (.error (.source fault))]

/-- What a data frame is cut into. -/
structure Chunks (bytes : Bytes) (pacer : ThrottlePacer)
    (script : List (Wait (BodyItem Fault Trailers))) (next : Option ThrottlePacer) : Prop where
  bounded : ∀ data, .ok (.data data) ∈ deliveries script →
    data ≠ [] ∧ data.length ≤ pacer.profile.mtu
  whole : ∀ later, next = some later →
    later.profile = pacer.profile ∧ pieces (deliveries script) = bytes.map .byte
  dropped : next = none → ∃ sent lost,
    pieces (deliveries script) = sent.map .byte ++ [.failure .throttlingDroppedFrame] ∧
      sent ++ lost = bytes ∧ lost ≠ []

variable {bytes : Bytes}

/-- A chunk is forwarded or dropped. -/
theorem chunk_cases (nonempty : bytes.length ≠ 0) (pacer : ThrottlePacer) :
    ∃ later count, later.profile = pacer.profile ∧ 0 < count ∧ count ≤ bytes.length ∧
      count ≤ pacer.profile.mtu ∧
      ((pacer.nextChunk bytes.length = (.ok (some ⟨count, .forward⟩), later)) ∨
        pacer.nextChunk bytes.length = (.ok (some ⟨count, .drop⟩), later)) := by
  obtain ⟨action, later, next, kept⟩ := pacer.nextChunk_of_available nonempty
  have positive : 0 < pacer.profile.mtu := by
    have atLeast := pacer.tokenBucket.mtu.1
    rw [pacer.capacity] at atLeast
    unfold minimumMtu at atLeast
    omega
  refine ⟨later, _, kept, ?_, Nat.min_le_left _ _, Nat.min_le_right _ _, ?_⟩
  · omega
  · cases action with
    | forward => exact .inl next
    | drop => exact .inr next

theorem chunkScript_of_forward {count : Nat} (positive : 0 < count) (fits : count ≤ bytes.length)
    (next : pacer.nextChunk bytes.length = (.ok (some ⟨count, .forward⟩), later)) :
    (chunkScript bytes pacer : List (Wait (BodyItem Fault Trailers)) × Option ThrottlePacer) =
      match chunkScript (bytes.drop count) later with
      | (script, next) => (.deliver (.ok (.data (bytes.take count))) :: script, next) := by
  rw [chunkScript, if_neg (by omega), next]
  dsimp only
  rw [if_neg (by omega)]

theorem chunkScript_of_drop {count : Nat} (positive : 0 < count) (fits : count ≤ bytes.length)
    (next : pacer.nextChunk bytes.length = (.ok (some ⟨count, .drop⟩), later)) :
    (chunkScript bytes pacer : List (Wait (BodyItem Fault Trailers)) × Option ThrottlePacer) =
      ([.deliver (.error .throttlingDroppedFrame)], none) := by
  rw [chunkScript, if_neg (by omega), next]
  dsimp only
  rw [if_neg (by omega)]

variable {script : List (Wait (BodyItem Fault Trailers))} {next : Option ThrottlePacer}

/-- The chunks of a frame are all of it, or a part of it and an error. -/
theorem chunks_chunkScript (bytes : Bytes) (pacer : ThrottlePacer)
    (isScript : chunkScript bytes pacer = (script, next)) : Chunks bytes pacer script next := by
  induction size : bytes.length using Nat.strongRecOn generalizing bytes pacer script next with
  | _ size ih =>
  by_cases empty : bytes.length = 0
  · obtain rfl := length_eq_zero_iff.mp empty
    rw [chunkScript] at isScript
    cases isScript
    exact ⟨nofun, fun later isLater => ⟨by cases isLater; rfl, rfl⟩, nofun⟩
  · obtain ⟨later, count, kept, positive, fits, bounded, drawn | drawn⟩ := chunk_cases empty pacer
    · rw [chunkScript_of_forward positive fits drawn] at isScript
      rcases isRest :
        (chunkScript (bytes.drop count) later : List (Wait (BodyItem Fault Trailers)) × _) with
        ⟨_, _⟩
      rw [isRest] at isScript
      cases isScript
      have rest := ih (bytes.drop count).length
        (by rw [length_drop]; omega) (bytes.drop count) later isRest rfl
      refine ⟨fun data member => ?_, fun last isLast => ?_, fun isNone => ?_⟩
      · rcases mem_cons.mp member with isFirst | isLater
        · grind
        · exact kept ▸ rest.bounded data isLater
      · obtain ⟨keptLater, isRestPieces⟩ := rest.whole last isLast
        refine ⟨keptLater.trans kept, ?_⟩
        rw [deliveries_deliver, pieces_cons, isRestPieces, itemPieces, ← map_append,
          take_append_drop]
      · obtain ⟨sent, lost, isRestPieces, _, missing⟩ := rest.dropped isNone
        refine ⟨bytes.take count ++ sent, lost, ?_, ?_, missing⟩
        · grind [itemPieces, deliveries_deliver, pieces_cons]
        simp_all
    · rw [chunkScript_of_drop positive fits drawn] at isScript
      cases isScript
      refine ⟨fun data member => ?_, nofun, fun _ => ⟨[], bytes, rfl, rfl, ?_⟩⟩
      · cases mem_singleton.mp member
      · rintro rfl
        exact empty rfl

/-- What the loop over the chunks of a frame ends with, if it is not interrupted. -/
def forwardOutcome : Option ThrottlePacer → Except ProxyFailure ThrottlePacer
  | some pacer => .ok pacer
  | none => .error .upstreamProtocol

/-- The loop over the chunks of a frame follows its script. -/
theorem forwardThrottledBytes_eq (bytes : Bytes) (pacer : ThrottlePacer)
    (channel : BodyChannel Fault Trailers) (isScript : chunkScript bytes pacer = (script, next)) :
    forwardThrottledBytes bytes pacer channel = match follow script channel with
      | (.error interruption, channel) => (.error (.ofInterruption interruption), channel)
      | (.ok (), channel) => (forwardOutcome next, channel) := by
  induction size : bytes.length using Nat.strongRecOn
    generalizing bytes pacer channel script next with
  | _ size _ =>
  by_cases empty : bytes.length = 0
  · rw [chunkScript, if_pos empty] at isScript
    cases isScript
    rw [forwardThrottledBytes, if_pos empty]
    rfl
  · obtain ⟨later, count, -, positive, fits, -, drawn | drawn⟩ := chunk_cases empty pacer
    · rw [chunkScript_of_forward positive fits drawn] at isScript
      rcases isRest :
        (chunkScript (bytes.drop count) later : List (Wait (BodyItem Fault Trailers)) × _) with
        ⟨_, _⟩
      cases isScript
      rw [forwardThrottledBytes, if_neg empty, drawn]
      dsimp only
      rw [if_neg (by omega), follow, Channel.turn, sendBodyFrame]
      rcases channel.deliver (.ok (.data (bytes.take count))) with ⟨interruption | _, further⟩
      · rfl
      grind
    · rw [chunkScript_of_drop positive fits drawn] at isScript
      cases isScript
      rw [forwardThrottledBytes, if_neg empty, drawn]
      dsimp only
      rw [if_neg (by omega), follow, Channel.turn, sendBodyError, sendBodyFrame]
      rcases channel.deliver (.error .throttlingDroppedFrame) with ⟨interruption | _, further⟩
      · rfl
      · rfl

/-! ### Pumps follow scripts -/

variable (channel : BodyChannel Fault Trailers)

theorem awaitFrame_follow (rest : List (Wait (BodyItem Fault Trailers))) :
    (∃ failure, awaitFrame channel = (.error failure, (follow (.pause :: rest) channel).2)) ∨
      ∃ later, awaitFrame channel = (.ok (), later) ∧
        follow (.pause :: rest) channel = follow rest later := by
  rw [awaitFrame, follow, Channel.turn]
  rcases channel.pause with ⟨_ | _, later⟩
  · exact .inl ⟨_, rfl⟩
  · exact .inr ⟨later, rfl, rfl⟩

theorem sendBodyFrame_follow (item : BodyItem Fault Trailers)
    (rest : List (Wait (BodyItem Fault Trailers))) :
    (∃ failure, sendBodyFrame channel item =
        (.error failure, (follow (.deliver item :: rest) channel).2)) ∨
      ∃ later, sendBodyFrame channel item = (.ok (), later) ∧
        follow (.deliver item :: rest) channel = follow rest later := by
  rw [sendBodyFrame, follow, Channel.turn]
  rcases channel.deliver item with ⟨_ | _, later⟩
  · exact .inl ⟨_, rfl⟩
  · exact .inr ⟨later, rfl, rfl⟩

theorem sendBodyError_follow (error : BodyError Fault) :
    (sendBodyError channel error).2 = (follow [.deliver (.error error)] channel).2 := by
  rw [sendBodyError]
  rcases sendBodyFrame_follow channel (.error error) [] with
    ⟨_, sends⟩ | ⟨_, sends, follows⟩
  · rw [sends]
  · rw [sends, follows]
    rfl

theorem forwardThrottledBytes_follow (bytes : Bytes) (pacer : ThrottlePacer)
    (channel : BodyChannel Fault Trailers) (isScript : chunkScript bytes pacer = (script, next))
    (rest : List (Wait (BodyItem Fault Trailers))) (dropped : next = none → rest = []) :
    (∃ failure, forwardThrottledBytes bytes pacer channel =
        (.error failure, (follow (script ++ rest) channel).2)) ∨
      ∃ nextPacer later, next = some nextPacer ∧
        forwardThrottledBytes bytes pacer channel = (.ok nextPacer, later) ∧
        follow (script ++ rest) channel = follow rest later := by
  rw [forwardThrottledBytes_eq bytes pacer channel isScript, follow_append]
  rcases follow script channel with ⟨_ | _, later⟩
  · exact .inl ⟨_, rfl⟩
  cases next with
  | none =>
    rw [dropped rfl]
    exact .inl ⟨_, rfl⟩
  | some nextPacer => exact .inr ⟨nextPacer, later, rfl, rfl, rfl⟩

theorem bodyScript_of_chunks {pacer : ThrottlePacer}
    (isScript : chunkScript bytes pacer = (script, next)) (rest : BodySource Fault Trailers) :
    bodyScript (.ok (.data bytes) :: rest) (some pacer) =
      .pause :: (script ++ next.elim [] fun later => bodyScript rest (some later)) := by
  grind [bodyScript]

theorem exists_bodyScript_cons (item : Except Fault (BodyFrame Trailers))
    (rest : BodySource Fault Trailers) (pacer : Option ThrottlePacer) :
    ∃ tail, bodyScript (item :: rest) pacer = .pause :: tail := by
  rcases item with fault | (bytes | fields)
  · exact ⟨_, rfl⟩
  · cases pacer with
    | none => exact ⟨_, rfl⟩
    | some => exact ⟨_, bodyScript_of_chunks rfl rest⟩
  · exact ⟨_, by rw [bodyScript]; nofun⟩

theorem pumpThrottledBody_follow (pacer : ThrottlePacer) (channel : BodyChannel Fault Trailers) :
    (pumpThrottledBody source pacer channel).2 =
      (follow (bodyScript source (some pacer)) channel).2 := by
  induction source generalizing pacer channel with
  | nil =>
    rw [pumpThrottledBody, bodyScript]
    rcases awaitFrame_follow channel [] with ⟨failure, awaits⟩ | ⟨later, awaits, follows⟩
    · rw [awaits]
    · rw [awaits, follows]
      rfl
  | cons item rest =>
    obtain ⟨tail, isScript⟩ := exists_bodyScript_cons item rest (some pacer)
    rw [pumpThrottledBody, isScript]
    rcases awaitFrame_follow channel tail with ⟨failure, awaits⟩ | ⟨later, awaits, follows⟩
    · rw [awaits]
    rw [awaits, follows]
    rcases item with fault | (bytes | fields)
    · cases isScript
      exact sendBodyError_follow ..
    · rcases isChunks : (chunkScript bytes pacer : List (Wait (BodyItem Fault Trailers)) × _)
        with ⟨script, next⟩
      rw [bodyScript_of_chunks isChunks] at isScript
      cases isScript
      rcases forwardThrottledBytes_follow bytes pacer later isChunks
          (next.elim [] fun later => bodyScript rest (some later)) (by rintro rfl; rfl) with
        ⟨failure, forwards⟩ | ⟨further, _, rfl, forwards, _⟩
      · dsimp only
        rw [forwards]
      simp_all
    · cases isScript
      rcases sendBodyFrame_follow later (.ok (.trailers fields)) (bodyScript rest (some pacer))
        with ⟨failure, sends⟩ | ⟨further, sends, _⟩
      · dsimp only
        rw [sends]
      simp_all

/-- The pump of a response sends a frame and goes on. -/
theorem pumpFrame_follow {declaredBodyBytes : Option Nat} {rest : BodySource Fault Trailers}
    {pacer : Option ThrottlePacer} {captured : Bytes}
    (ih : ∀ pacer captured channel,
      (pumpStreamingResponse declaredBodyBytes rest pacer captured channel).2 =
        (follow (bodyScript rest pacer) channel).2)
    (frame : BodyFrame Trailers) (channel : BodyChannel Fault Trailers) :
    (match sendBodyFrame channel (.ok frame) with
      | (.error failure, channel) =>
        if failure = .clientDisconnected ∧ responseDeliveryComplete declaredBodyBytes captured then
          (.ok captured, channel)
        else (.error failure, channel)
      | (.ok (), channel) =>
        pumpStreamingResponse declaredBodyBytes rest pacer (captured ++ frame.dataBytes) channel :
      Except ProxyFailure Bytes × BodyChannel Fault Trailers).2 =
      (follow (.deliver (.ok frame) :: bodyScript rest pacer) channel).2 := by
  rcases sendBodyFrame_follow channel (.ok frame) (bodyScript rest pacer) with
    ⟨failure, sends⟩ | ⟨_, sends, follows⟩
  · rw [sends]
    dsimp only
    split <;> rfl
  simp_all

theorem pumpStreamingResponse_follow (declaredBodyBytes : Option Nat)
    (source : BodySource Fault Trailers) (pacer : Option ThrottlePacer) (captured : Bytes)
    (channel : BodyChannel Fault Trailers) :
    (pumpStreamingResponse declaredBodyBytes source pacer captured channel).2 =
      (follow (bodyScript source pacer) channel).2 := by
  induction source generalizing pacer captured channel with
  | nil =>
    rw [pumpStreamingResponse, bodyScript]
    rcases awaitFrame_follow channel [] with ⟨failure, awaits⟩ | ⟨later, awaits, follows⟩
    · rw [awaits]
    · rw [awaits, follows]
      rfl
  | cons item rest ih =>
    obtain ⟨tail, isScript⟩ := exists_bodyScript_cons item rest pacer
    rw [pumpStreamingResponse.eq_def, isScript]
    rcases awaitFrame_follow channel tail with ⟨failure, awaits⟩ | ⟨later, awaits, follows⟩
    · simp only [awaits]
    simp only [awaits, follows]
    rcases item with fault | (bytes | fields)
    · cases isScript
      exact sendBodyError_follow ..
    · cases pacer with
      | none =>
        cases isScript
        exact pumpFrame_follow ih _ _
      | some pacer =>
        rcases isChunks : (chunkScript bytes pacer :
          List (Wait (BodyItem Fault Trailers)) × _) with ⟨script, next⟩
        rw [bodyScript_of_chunks isChunks] at isScript
        cases isScript
        rcases forwardThrottledBytes_follow bytes pacer later isChunks
            (next.elim [] fun later => bodyScript rest (some later)) (by rintro rfl; rfl) with
          ⟨failure, forwards⟩ | ⟨_, _, rfl, forwards, _⟩
        · dsimp only
          rw [forwards]
        simp_all
    · cases isScript
      exact pumpFrame_follow ih _ _

/-! ### What scripts have -/

/-- A script has all of a body, or a part of it and an error. The error of a body that has none
is in the place of some data. -/
inductive ScriptOf (source : BodySource Fault Trailers) :
    List (BodyPiece Fault Trailers) → Prop where
  | whole (complete : sourceComplete source) : ScriptOf source (sourcePieces source)
  | failed (data rest : List (BodyPiece Fault Trailers)) (error : BodyError Fault)
      (split : data ++ rest = sourcePieces source)
      (missing : sourceComplete source → rest ≠ []) : ScriptOf source (data ++ [.failure error])

theorem ScriptOf.cons {rest : BodySource Fault Trailers} {frame : BodyFrame Trailers}
    {found : List (BodyPiece Fault Trailers)} (scripted : ScriptOf rest found) :
    ScriptOf (.ok frame :: rest) (itemPieces (.ok frame) ++ found) := by
  cases scripted with
  | whole complete =>
    refine .whole fun item member => ?_
    rcases mem_cons.mp member with rfl | later
    · rfl
    · exact complete item later
  | failed _ lost error split missing =>
    rw [← append_assoc]
    refine .failed _ lost error ?_ fun complete => missing fun item later =>
      complete item (mem_cons_of_mem _ later)
    rw [append_assoc, split]
    rfl

theorem scriptOf_bodyScript (pacer : Option ThrottlePacer) :
    ScriptOf source (pieces (deliveries (bodyScript source pacer))) := by
  induction source generalizing pacer with
  | nil =>
    exact .whole nofun
  | cons item rest ih =>
    rcases item with fault | (bytes | _)
    · exact .failed [] [] (.source fault) rfl fun complete =>
        nomatch complete _ mem_cons_self
    · cases pacer with
      | none =>
        rw [bodyScript, deliveries_pause, deliveries_deliver]
        · exact (ih none).cons
        · nofun
      | some pacer =>
        rcases isScript : (chunkScript bytes pacer :
          List (Wait (BodyItem Fault Trailers)) × _) with ⟨_, next⟩
        have chunks := chunks_chunkScript bytes pacer isScript
        rw [bodyScript_of_chunks isScript, deliveries_pause, deliveries_append, pieces_append]
        cases next with
        | some nextPacer =>
          rw [(chunks.whole nextPacer rfl).2]
          exact (ih (some nextPacer)).cons
        | none =>
          obtain ⟨_, lost, isSent, split, missing⟩ := chunks.dropped rfl
          rw [isSent, Option.elim_none, deliveries_nil, pieces_nil, append_nil]
          refine .failed _ (lost.map .byte ++ sourcePieces rest) _ ?_ fun _ => ?_
          · rw [← append_assoc, ← map_append, split]
            rfl
          · simp [missing]
    · rw [bodyScript, deliveries_pause, deliveries_deliver]
      · exact (ih pacer).cons
      · nofun

theorem ScriptOf.endsHonestly {source : BodySource Fault Trailers}
    {found : List (BodyPiece Fault Trailers)} (scripted : ScriptOf source found) :
    EndsHonestly source found := by
  cases scripted with
  | whole complete => exact .inl ⟨complete, rfl⟩
  | failed data rest error split => exact .inr ⟨data, error, rfl, rest, split⟩

/-- A part of a script that is not all of it does not end honestly. -/
theorem ScriptOf.not_endsHonestly {source : BodySource Fault Trailers}
    {found missing : List (BodyPiece Fault Trailers)}
    (scripted : ScriptOf source (found ++ missing)) (misses : missing ≠ []) :
    ¬ EndsHonestly source found := by
  have noFailure {data : List (BodyPiece Fault Trailers)} (part : data <+: sourcePieces source) :
      ∀ error, .failure error ∉ data := fun error member =>
    failure_notMem_sourcePieces source error (part.subset member)
  have honestEnd (part : found <+: sourcePieces source) (honest : EndsHonestly source found) :
      sourceComplete source ∧ found = sourcePieces source := by
    rcases honest with whole | ⟨data, error, rfl, -⟩
    · exact whole
    · exact absurd (by simp) (noFailure part error)
  generalize isAll : found ++ missing = all at scripted
  cases scripted with
  | whole complete =>
    intro honest
    have isFound := (honestEnd ⟨missing, isAll⟩ honest).2
    simp_all
  | failed data rest error split lost =>
    intro honest
    -- What was found lies before the error.
    obtain ⟨last, isData⟩ : found <+: data := by
      have front : missing = missing.dropLast ++ [missing.getLast misses] :=
        (dropLast_append_getLast misses).symm
      rw [front, ← append_assoc] at isAll
      exact ⟨missing.dropLast, append_inj_left' isAll rfl⟩
    have part : found <+: sourcePieces source :=
      ⟨last ++ rest, by rw [← append_assoc, isData, split]⟩
    obtain ⟨complete, isFound⟩ := honestEnd part honest
    rw [← split, ← isData, append_assoc] at isFound
    have nothing : last ++ rest = [] := append_right_eq_self.mp isFound.symm
    exact lost complete (append_eq_nil_iff.mp nothing).2

theorem bounded_bodyScript (pacer : ThrottlePacer) :
    ∀ data, .ok (.data data) ∈ deliveries (bodyScript source (some pacer)) →
      data ≠ [] ∧ data.length ≤ pacer.profile.mtu := by
  induction source generalizing pacer with
  | nil =>
    exact nofun
  | cons item _ ih =>
    intro data member
    rcases item with _ | (bytes | _)
    · cases mem_singleton.mp member
    · rcases isScript : (chunkScript bytes pacer :
        List (Wait (BodyItem Fault Trailers)) × _) with ⟨_, next⟩
      have chunks := chunks_chunkScript bytes pacer isScript
      rw [bodyScript_of_chunks isScript, deliveries_pause, deliveries_append, mem_append] at member
      rcases member with first | later
      · exact chunks.bounded data first
      cases next with
      | none => cases later
      | some nextPacer =>
        rw [← (chunks.whole nextPacer rfl).1]
        exact ih nextPacer data later
    · rw [bodyScript, deliveries_pause] at member
      · rcases mem_cons.mp member with isTrailers | later
        · cases isTrailers
        · exact ih pacer data later
      · nofun

/-! ### Both pumps -/

/-- What a receiver is promised: it went first, or what it finds before the end of the stream is
all of the body, or a part of it and an error. The data frames of a throttled body are not empty
and at most the MTU. -/
structure PassedOn (source : BodySource Fault Trailers) (pacer : Option ThrottlePacer)
    (channel : BodyChannel Fault Trailers) : Prop where
  ends : channel.IsClosed ∨ EndsHonestly source (pieces channel.sent)
  bounded : ∀ throttle, pacer = some throttle → ∀ data, .ok (.data data) ∈ channel.sent →
    data ≠ [] ∧ data.length ≤ throttle.profile.mtu

/-- The cancellation comes after the last piece that there is to send, or after the receiver has
gone. -/
def CancelledLate (source : BodySource Fault Trailers) (pacer : Option ThrottlePacer)
    (cancelledAfter closedAfter : Option Nat) : Prop :=
  ∀ waits, cancelledAfter = some waits →
    pieces (deliveries ((bodyScript source pacer).drop waits)) = [] ∨
      ∃ items, closedAfter = some items ∧
        items ≤ (deliveries ((bodyScript source pacer).take waits)).length

/-- A script keeps the promise exactly if the cancellation is late. -/
theorem passedOn_follow_iff (pacer : Option ThrottlePacer)
    (cancelledAfter closedAfter : Option Nat) :
    PassedOn source pacer
        (follow (bodyScript source pacer) (.fresh cancelledAfter closedAfter)).2 ↔
      CancelledLate source pacer cancelledAfter closedAfter := by
  have scripted := scriptOf_bodyScript source pacer
  have split (waits : Nat) : pieces (deliveries (bodyScript source pacer)) =
      pieces (deliveries ((bodyScript source pacer).take waits)) ++
        pieces (deliveries ((bodyScript source pacer).drop waits)) := by
    rw [← pieces_append, ← deliveries_append, take_append_drop]
  constructor
  · rintro ⟨ends, -⟩ waits rfl
    by_contra early
    obtain ⟨misses, stays⟩ := not_or.mp early
    obtain ⟨sent, opens⟩ := follow_cut (bodyScript source pacer) closedAfter waits
      fun items isItems => by
        by_contra atMost
        exact stays ⟨items, isItems, by omega⟩
    rw [split waits] at scripted
    rw [sent] at ends
    exact ends.elim opens (scripted.not_endsHonestly misses)
  · intro late
    refine ⟨?_, fun throttle isThrottle data member => ?_⟩
    · rcases follow_fresh (bodyScript source pacer) cancelledAfter closedAfter with
        all | closes | ⟨waits, cancels, sent, room⟩
      · rw [all]
        exact .inr scripted.endsHonestly
      · exact .inl closes
      rcases late waits cancels with nothing | ⟨items, isItems, _⟩
      · rw [sent]
        rw [split waits, nothing, append_nil] at scripted
        exact .inr scripted.endsHonestly
      · refine .inl ?_
        rw [Channel.IsClosed, closedAfter_follow, sent]
        exact isItems.trans (congrArg some (by have := room items isItems; omega))
    · subst isThrottle
      exact bounded_bodyScript source throttle data
        ((Channel.follow_prefix _ cancelledAfter closedAfter).subset member)

/-- Both pumps keep the promise exactly if the cancellation is late. -/
theorem passedOn_iff (source : BodySource Fault Trailers)
    (cancelledAfter closedAfter : Option Nat) :
    (∀ pacer, PassedOn source (some pacer)
        (pumpThrottledBody source pacer (.fresh cancelledAfter closedAfter)).2 ↔
      CancelledLate source (some pacer) cancelledAfter closedAfter) ∧
    ∀ declaredBodyBytes pacer, PassedOn source pacer
        (pumpStreamingResponse declaredBodyBytes source pacer []
          (.fresh cancelledAfter closedAfter)).2 ↔
      CancelledLate source pacer cancelledAfter closedAfter := by
  refine ⟨fun pacer => ?_, fun declaredBodyBytes pacer => ?_⟩
  · rw [pumpThrottledBody_follow]
    exact passedOn_follow_iff source (some pacer) cancelledAfter closedAfter
  · rw [pumpStreamingResponse_follow]
    exact passedOn_follow_iff source pacer cancelledAfter closedAfter

end Ends

/-- A response with two frames, where the cancellation comes after the first, ends cleanly. -/
theorem not_passedOn_cancelled :
    ¬ PassedOn ([.ok (.data [1]), .ok (.data [2])] : BodySource Unit Unit) none
      (pumpStreamingResponse none [.ok (.data [1]), .ok (.data [2])] none []
        (.fresh (some 2) none)).2 := by
  rintro ⟨ends, -⟩
  rcases ends with closes | ⟨-, whole⟩ | ⟨data, _, found, -⟩
  · cases closes
  · cases whole
  · have last := congrArg List.getLast? found
    rw [getLast?_append] at last
    cases last

end SprakCapture.HttpProxy
