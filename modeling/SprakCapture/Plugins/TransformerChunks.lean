import SprakCapture.Plugins.StreamTransformer

/-!
# Chunks of a transformed stream

What a session gives out depends on the bytes of a stream and not on the chunks they come
in, as long as its transformer frames the stream: every call reads the window as
`Data.Framing` does. For any other transformer the session still accounts for every byte it
received, and each of its calls comes to an end.
-/

namespace SprakCapture.Plugins

open Data List Data.Outcome Processing StreamTransformDecision

variable {State : Type}

/-! ### What any transformer can do to a window -/

namespace StreamTransformDecision

/-- The bytes that a decision takes off the window. -/
def consumedBytes : StreamTransformDecision → Nat
  | needMore _ => 0
  | emit consumedBytes _ => consumedBytes
  | drop consumedBytes _ => consumedBytes
  | close _ => 0

/-- The frames that a decision puts in their place. -/
def outputFrames : StreamTransformDecision → List StreamOutputFrame
  | emit _ outputFrames => outputFrames
  | _ => []

/-- The frames and the fields that come with a decision are such as the session lets through. -/
def WellFormed : StreamTransformDecision → Prop
  | emit _ outputFrames => outputFrames ≠ [] ∧
      outputFrames.length ≤ maximumOutputFramesPerDecision ∧
      ∀ frame ∈ outputFrames, validateDecoded frame.decoded = .ok ()
  | drop _ decoded => validateDecoded decoded = .ok ()
  | _ => True

end StreamTransformDecision

namespace Processing

/-- The bytes that came in are still there, drained or buffered. -/
structure Accounts (before after : Processing State) : Prop where
  bytes : after.drained ++ after.buffer.bytes = before.drained ++ before.buffer.bytes
  endOfStream : after.buffer.endOfStream = before.buffer.endOfStream

theorem Accounts.refl (state : Processing State) : Accounts state state := ⟨rfl, rfl⟩

theorem Accounts.trans {first second third : Processing State} (before : Accounts first second)
    (after : Accounts second third) : Accounts first third :=
  ⟨after.bytes.trans before.bytes, after.endOfStream.trans before.endOfStream⟩

theorem accounts_drain (state : Processing State) (count : Nat) :
    Accounts state (state.drain count) := by
  refine ⟨?_, rfl⟩
  simp [drain]

end Processing

theorem validateConsumed_eq_ok {available consumed : Nat} {nothing : Unit} :
    validateConsumed available consumed = .ok nothing ↔ 0 < consumed ∧ consumed ≤ available := by
  simp [validateConsumed]

variable {frames : List StreamOutputFrame}

theorem consumed_of_validateDecision {available consumed remaining : Nat} {nothing : Unit}
    (valid : validateDecision available consumed frames remaining = .ok nothing) :
    0 < consumed ∧ consumed ≤ available := by
  cases result : validateConsumed available consumed with
  | error error =>
    unfold validateDecision at valid
    rw [result] at valid
    cases valid
  | ok nothing => exact validateConsumed_eq_ok.mp result

variable {turns : Nat}

namespace StreamTransformerSession

variable (session : StreamTransformerSession State) (direction : StreamDirection)

/-- A decision fails, waits or takes bytes off the window. -/
inductive Settles (state : Processing State) (decision : StreamTransformDecision) :
    Processing State × TransformTurn → Prop where
  | fails (error : StreamTransformError) : Settles state decision (state, .fails error)
  | waits (asks : ∃ count, decision = .needMore count) : Settles state decision (state, .leaves)
  | takes (next : Processing State) (positive : 0 < decision.consumedBytes)
      (within : decision.consumedBytes ≤ state.buffer.bytes.length)
      (buffer : next.buffer = (state.drain decision.consumedBytes).buffer)
      (drained : next.drained = (state.drain decision.consumedBytes).drained)
      (staged : next.stagedOutput = state.stagedOutput ++ decision.outputFrames) :
      Settles state decision (next, next.goesOn)

variable (state : Processing State)

theorem settles (decision : StreamTransformDecision) :
    Settles state decision (session.settle state decision) := by
  cases decision with
  | needMore count =>
    rw [settle]
    split
    · exact .fails _
    · exact .waits ⟨count, rfl⟩
  | emit count =>
    rw [settle]
    split
    · exact .fails _
    · rename_i valid
      obtain ⟨positive, within⟩ := consumed_of_validateDecision valid
      exact .takes _ positive within rfl rfl rfl
  | drop count =>
    rw [settle]
    split
    · exact .fails _
    · exact .fails _
    · rename_i consumed _
      obtain ⟨positive, within⟩ := validateConsumed_eq_ok.mp consumed
      exact .takes _ positive within rfl rfl (append_nil _).symm
  | close => exact .fails _

/-- A turn accounts for every byte, and goes on only with a shorter window. -/
theorem turn_accounts :
    state.Accounts (session.turn direction state).1 ∧
      ((session.turn direction state).2 = .again →
        (session.turn direction state).1.buffer.bytes.length < state.buffer.bytes.length) := by
  unfold turn
  generalize session.transformer.transform state.transformer _ = asked
  obtain ⟨inner, answer⟩ := asked
  have same : state.Accounts { state with transformer := inner } := ⟨rfl, rfl⟩
  match answer with
  | .timedOut => exact ⟨same, nofun⟩
  | .returned (.error error) => exact ⟨same, nofun⟩
  | .returned (.ok decision) =>
    have settled := session.settles { state with transformer := inner } decision
    revert settled
    dsimp only
    generalize session.settle { state with transformer := inner } decision = result
    intro settled
    cases settled with
    | fails error | waits => exact ⟨same, nofun⟩
    | takes _ _ _ buffer drained =>
      refine ⟨⟨?_, ?_⟩, fun _ => ?_⟩
      · rw [drained, buffer]
        exact (accounts_drain _ _).bytes
      · rw [buffer]
        rfl
      grind [Processing.drain]

/-- After any number of turns every byte is accounted for. -/
theorem processLoop_accounts (turns : Nat) (state : Processing State) :
    state.Accounts (session.processLoop direction turns state).1 := by
  induction turns generalizing state with
  | zero => exact .refl state
  | succ turns ih =>
    have accounts := (session.turn_accounts direction state).1
    rw [processLoop]
    rcases result : session.turn direction state with ⟨next, ending⟩
    rw [result] at accounts
    cases ending with
    | again => exact accounts.trans (ih next)
    | leaves | fails => exact accounts

theorem processLoop_safe {state : Processing State} (enough : state.buffer.bytes.length < turns) :
    (session.processLoop direction turns state).2.Safe := by
  induction turns generalizing state with
  | zero => exact absurd enough (Nat.not_lt_zero _)
  | succ turns ih =>
    have shorter := (session.turn_accounts direction state).2
    rw [processLoop]
    rcases result : session.turn direction state with ⟨_, ending⟩
    rw [result] at shorter
    cases ending with
    | again =>
      have less := shorter rfl
      exact ih (by simp only at less; omega)
    | leaves => exact safe_ok ()
    | fails error => exact safe_raise error

variable (start : Processing State)

theorem extract_accounts : start.Accounts (session.extract direction start).1 := by
  unfold extract
  split
  · exact .refl start
  · exact session.processLoop_accounts direction _ start

theorem extract_safe : (session.extract direction start).2.Safe := by
  unfold extract
  split
  · exact safe_ok _
  · refine safe_bind (session.processLoop_safe direction (Nat.lt_succ_self _)) ?_
    intro _ _
    exact safe_ite (fun _ => safe_raise _) fun _ => safe_ok _

theorem process_safe (bytes : Bytes) (endOfStream : Bool) (state : SessionState State) :
    (session.process direction bytes endOfStream state).2.Safe := by
  unfold process
  split
  · exact safe_raise _
  · exact session.extract_safe direction _

end StreamTransformerSession

/-! ### Framing transformers -/

/-- A transformer that frames a stream: a window makes it ask for more or take a whole message
off the front, and nothing but the window does. -/
structure FramingTransformer (transformer : StreamTransformer State) where
  decide : Bytes → StreamTransformDecision
  answers : ∀ state input,
    (transformer.transform state input).2 = .returned (.ok (decide input.bytes))
  asksOrTakes : ∀ bytes, bytes ≠ [] → (∃ count, decide bytes = .needMore count) ∨
    (0 < (decide bytes).consumedBytes ∧ (decide bytes).consumedBytes ≤ bytes.length)
  /-- A message is whole when what follows it does not matter. -/
  whole : ∀ bytes more, 0 < (decide bytes).consumedBytes → decide (bytes ++ more) = decide bytes

variable {bytes : Bytes}

namespace FramingTransformer

variable {transformer : StreamTransformer State} (framed : FramingTransformer transformer)

/-- How a framing transformer reads a stream. The session does not ask about an empty window. -/
def framing : Framing UInt8 StreamTransformDecision where
  next bytes :=
    if bytes ≠ [] ∧ 0 < (framed.decide bytes).consumedBytes then
      some ((framed.decide bytes).consumedBytes, framed.decide bytes)
    else none
  within := by
    intro bytes count decision found
    split at found
    · rename_i takes
      cases found
      rcases framed.asksOrTakes bytes takes.1 with ⟨_, asks⟩ | within
      · rw [asks] at takes
        exact absurd takes.2 (Nat.lt_irrefl 0)
      · exact within
    · cases found
  whole := by
    intro bytes found more result
    split at result
    · rename_i takes
      cases result
      have same := framed.whole bytes more takes.2
      rw [same, if_pos ⟨by simp [takes.1], takes.2⟩]
    · cases result

/-- The frames of a stream. -/
def output (stream : Bytes) : List StreamOutputFrame :=
  (framed.framing.parse stream).1.flatMap (·.outputFrames)

/-- What is left of a stream behind its last whole message. -/
def remainder (stream : Bytes) : Bytes := (framed.framing.parse stream).2

theorem next_eq_some {count : Nat} {decision : StreamTransformDecision}
    (found : framed.framing.next bytes = some (count, decision)) :
    bytes ≠ [] ∧ framed.decide bytes = decision ∧ decision.consumedBytes = count ∧
      0 < count ∧ count ≤ bytes.length := by
  grind [framing]

theorem next_eq_none (nonempty : bytes ≠ []) (none : framed.framing.next bytes = none) :
    ∃ count, framed.decide bytes = .needMore count := by
  rcases framed.asksOrTakes bytes nonempty with asks | takes
  · exact asks
  · simp [framing, nonempty, takes.1] at none

end FramingTransformer

/-! ### Calls on a framed stream -/

theorem wireLength_append (first second : List StreamOutputFrame) :
    wireLength (first ++ second) = wireLength first + wireLength second := by
  simp [wireLength]

theorem sumOutputBytes_eq_ok {total : Nat}
    (valid : ∀ frame ∈ frames, validateDecoded frame.decoded = .ok ())
    (inRange : total + wireLength frames < usizeLimit) :
    sumOutputBytes total frames = .ok (total + wireLength frames) := by
  induction frames generalizing total with
  | nil => rfl
  | cons frame frames ih =>
    have length : wireLength (frame :: frames) = frame.wireBytes.length + wireLength frames := by
      simp [wireLength]
    rw [length] at inRange ⊢
    have fits : total + frame.wireBytes.length < usizeLimit := by omega
    rw [sumOutputBytes, valid frame mem_cons_self, checkedAdd, if_pos fits, ← Nat.add_assoc]
    exact ih (fun other member => valid other (mem_cons_of_mem _ member)) (by omega)

variable {state : SessionState State} {decisions : List StreamTransformDecision}
  {chunks : List Bytes}

namespace StreamTransformerSession

variable (session : StreamTransformerSession State)
  (framed : FramingTransformer session.transformer) (direction : StreamDirection)

/-- A well-formed decision within the output budget takes its bytes. -/
theorem settle_of_wellFormed {state : Processing State} {decision : StreamTransformDecision}
    (positive : 0 < decision.consumedBytes)
    (within : decision.consumedBytes ≤ state.buffer.bytes.length) (wellFormed : decision.WellFormed)
    (budget : state.stagedOutputBytes + wireLength decision.outputFrames ≤
      session.maximumOutputBytes) :
    ∃ next, session.settle state decision = (next, next.goesOn) ∧
      next.buffer = (state.drain decision.consumedBytes).buffer ∧
      next.stagedOutputBytes = state.stagedOutputBytes + wireLength decision.outputFrames := by
  have consumed : validateConsumed state.buffer.bytes.length decision.consumedBytes = .ok () :=
    validateConsumed_eq_ok.mpr ⟨positive, within⟩
  have range := session.outputRange
  cases decision with
  | needMore count | close => exact absurd positive (Nat.lt_irrefl 0)
  | drop count =>
    simp only [consumedBytes] at consumed
    refine ⟨state.drain count, ?_, rfl, rfl⟩
    rw [settle, consumed, wellFormed]
  | emit count frames =>
    obtain ⟨nonempty, few, valid⟩ := wellFormed
    simp only [consumedBytes] at consumed
    simp only [outputFrames] at budget
    have summed : sumOutputBytes 0 frames = .ok (0 + wireLength frames) :=
      sumOutputBytes_eq_ok valid (by omega)
    have accepted : validateDecision state.buffer.bytes.length count frames
        (session.maximumOutputBytes - state.stagedOutputBytes) = .ok () := by
      have notMany : (frames.isEmpty || maximumOutputFramesPerDecision < frames.length) = false := by
        simp [nonempty, few]
      have enough : ¬session.maximumOutputBytes - state.stagedOutputBytes < 0 + wireLength frames := by
        omega
      unfold validateDecision
      rw [consumed, summed]
      simp only [notMany]
      exact if_neg enough
    refine ⟨(state.drain count).stage frames, by rw [settle, accepted], rfl, ?_⟩
    exact Nat.min_eq_left (by simp only [Processing.drain]; omega)

/-- A framing transformer has its decision about the window settled. -/
theorem turn_framed (state : Processing State) :
    ∃ inner, session.turn direction state =
      session.settle { state with transformer := inner } (framed.decide state.buffer.bytes) := by
  refine ⟨(session.transformer.transform state.transformer
    { connectionId := session.connectionId, direction, bytes := state.buffer.bytes,
      endOfStream := state.buffer.endOfStream }).1, ?_⟩
  simp [turn, framed.answers]

/-- A loop that succeeds has read the window as the framing does. -/
theorem processLoop_reads {bytes rest : Bytes} (parses : framed.framing.Parses bytes decisions rest)
    {state : Processing State} (window : state.buffer.bytes = bytes) (nonempty : bytes ≠ [])
    (result : (session.processLoop direction turns state).2 = .ok ()) :
    (session.processLoop direction turns state).1.buffer.bytes = rest ∧
      (session.processLoop direction turns state).1.stagedOutput =
        state.stagedOutput ++ decisions.flatMap (·.outputFrames) := by
  induction parses generalizing turns state with
  | @waits bytes none =>
    cases turns with
    | zero => cases result
    | succ turns =>
      obtain ⟨inner, asked⟩ := session.turn_framed framed direction state
      obtain ⟨count, asks⟩ := framed.next_eq_none nonempty none
      rw [processLoop, asked, window, asks] at result ⊢
      have settled := session.settles { state with transformer := inner } (.needMore count)
      revert settled result
      generalize session.settle { state with transformer := inner } (.needMore count) = ending
      intro result settled
      cases settled with
      | fails error => cases result
      | waits => simp [window]
      | takes _ positive => exact absurd positive (Nat.lt_irrefl 0)
  | @takes bytes rest count decision decisions found others _ =>
    cases turns with
    | zero => cases result
    | succ turns =>
      obtain ⟨inner, asked⟩ := session.turn_framed framed direction state
      obtain ⟨_, decided, consumed, positive, _⟩ := framed.next_eq_some found
      rw [processLoop, asked, window, decided] at result ⊢
      have settled := session.settles { state with transformer := inner } decision
      revert settled result
      generalize session.settle { state with transformer := inner } decision = ending
      intro result settled
      cases settled with
      | fails error => cases result
      | waits asks =>
        grind [consumedBytes]
      | takes next _ _ buffer _ staged =>
        have left : next.buffer.bytes = bytes.drop count := by
          rw [buffer, consumed]
          simp [Processing.drain, window]
        by_cases empty : bytes.drop count = []
        · have ends : next.goesOn = .leaves := by simp [goesOn, left, empty]
          rw [empty] at others
          obtain ⟨rfl, rfl⟩ := others.unique (.waits Framing.next_nil)
          simp [ends, left, empty, staged]
        · have again : next.goesOn = .again := by simp [goesOn, left, empty]
          simp_all

/-- What a framing transformer asks for is not nothing, and fits the buffer. -/
def RequestFits (rest : Bytes) : Prop :=
  ∀ count, rest ≠ [] → framed.decide rest = .needMore count →
    0 < count ∧ rest.length + count ≤ session.maximumBufferedBytes

theorem settle_needMore {state : Processing State} {count : Nat}
    (open_ : state.buffer.endOfStream = false) (positive : 0 < count)
    (fits : state.buffer.bytes.length + count ≤ session.maximumBufferedBytes) :
    session.settle state (.needMore count) = (state, .leaves) := by
  have small := session.budgets.2.1
  have inRange : state.buffer.bytes.length + count < usizeLimit := by
    simp only [maximumStreamBufferBytes] at small
    simp only [usizeLimit]
    omega
  grind [settle, checkedAdd]

/-- A loop over a window within the budgets succeeds. -/
theorem processLoop_succeeds {bytes rest : Bytes}
    (parses : framed.framing.Parses bytes decisions rest) {state : Processing State}
    (window : state.buffer.bytes = bytes) (nonempty : bytes ≠ [])
    (open_ : state.buffer.endOfStream = false) (enough : bytes.length < turns)
    (wellFormed : ∀ decision ∈ decisions, decision.WellFormed)
    (output : state.stagedOutputBytes + wireLength (decisions.flatMap (·.outputFrames)) ≤
      session.maximumOutputBytes) (request : session.RequestFits framed rest) :
    (session.processLoop direction turns state).2 = .ok () := by
  induction parses generalizing turns state with
  | @waits bytes none =>
    obtain ⟨turns, rfl⟩ : ∃ fewer, turns = fewer + 1 := ⟨turns - 1, by omega⟩
    obtain ⟨inner, asked⟩ := session.turn_framed framed direction state
    obtain ⟨count, asks⟩ := framed.next_eq_none nonempty none
    obtain ⟨positive, _⟩ := request count nonempty asks
    grind [processLoop, settle_needMore]
  | @takes bytes rest count decision decisions found =>
    obtain ⟨turns, rfl⟩ : ∃ fewer, turns = fewer + 1 := ⟨turns - 1, by omega⟩
    obtain ⟨inner, asked⟩ := session.turn_framed framed direction state
    obtain ⟨_, decided, consumed, positive, _⟩ := framed.next_eq_some found
    rw [flatMap_cons, wireLength_append] at output
    obtain ⟨next, settled, buffer, _⟩ :=
      @settle_of_wellFormed _ session { state with transformer := inner } _ (by omega)
        (by simp only [window]; omega)
        (wellFormed decision mem_cons_self) (by simp only; omega)
    have left : next.buffer.bytes = bytes.drop count := by
      rw [buffer, consumed]
      simp [Processing.drain, window]
    have stillOpen : next.buffer.endOfStream = false := by
      rw [buffer]
      exact open_
    rw [processLoop, asked, window, decided, settled]
    by_cases empty : bytes.drop count = []
    · have ends : next.goesOn = .leaves := by simp [goesOn, left, empty]
      simp [ends]
    · have again : next.goesOn = .again := by simp [goesOn, left, empty]
      grind

/-- The window of a call stays within the budgets: it fits the buffer, its messages are well
formed and give out no more than the output budget, and what is asked for fits as well. -/
structure CallFits (window : Bytes) : Prop where
  buffered : window.length ≤ session.maximumBufferedBytes
  wellFormed : ∀ decision ∈ (framed.framing.parse window).1, decision.WellFormed
  output : wireLength (framed.output window) ≤ session.maximumOutputBytes
  request : session.RequestFits framed (framed.remainder window)

/-- Every call of a stream that comes in chunks stays within the budgets. -/
def WithinBudgets : Bytes → List Bytes → Prop
  | _, [] => True
  | held, chunk :: chunks =>
    session.CallFits framed (held ++ chunk) ∧
      WithinBudgets (framed.remainder (held ++ chunk)) chunks

/-- Push chunk after chunk, up to the first that fails. -/
def pushAll : List Bytes → SessionState State →
    SessionState State × Outcome StreamTransformError (List StreamOutputFrame)
  | [], state => (state, .ok [])
  | chunk :: chunks, state =>
    match session.push direction chunk state with
    | (state, .ok frames) =>
      let rest := pushAll chunks state
      (rest.1, do
        let others ← rest.2
        .ok (frames ++ others))
    | (state, .error fault) => (state, .error fault)

/-- Extraction from a window that succeeds gives its frames and keeps its remainder. -/
theorem extract_reads {start : Processing State} (unstaged : start.stagedOutput = [])
    (result : (session.extract direction start).2 = .ok frames) :
    frames = framed.output start.buffer.bytes ∧
      (session.extract direction start).1.buffer.bytes = framed.remainder start.buffer.bytes := by
  have parses := framed.framing.parses_parse start.buffer.bytes
  unfold extract at result ⊢
  by_cases empty : start.buffer.bytes = []
  · have none : framed.framing.parse [] = ([], []) :=
      Framing.parse_eq_iff.mpr (.waits Framing.next_nil)
    rw [empty, unstaged] at result
    cases result
    simp [empty, FramingTransformer.output, FramingTransformer.remainder, none]
  · have nonempty : start.buffer.bytes.isEmpty = false := by simp [empty]
    rw [nonempty] at result ⊢
    obtain ⟨_, looped, result⟩ := Outcome.bind_eq_ok.mp result
    obtain ⟨sameRest, sameOutput⟩ :=
      session.processLoop_reads framed direction parses rfl empty looped
    refine ⟨?_, sameRest⟩
    split at result
    · cases result
    · cases result
      rw [sameOutput, unstaged]
      rfl

/-- Extraction from a window within the budgets succeeds. -/
theorem extract_succeeds {start : Processing State} (unstaged : start.stagedOutputBytes = 0)
    (open_ : start.buffer.endOfStream = false) (fits : session.CallFits framed start.buffer.bytes) :
    ∃ frames, (session.extract direction start).2 = .ok frames := by
  unfold extract
  split
  · exact ⟨_, rfl⟩
  rename_i nonempty
  have parses := framed.framing.parses_parse start.buffer.bytes
  have looped := session.processLoop_succeeds framed direction parses rfl
    (by simpa using nonempty) open_ (Nat.lt_succ_self _) fits.wellFormed
    (by rw [unstaged, Nat.zero_add]; exact fits.output) fits.request
  have stillOpen := (session.processLoop_accounts direction
    (start.buffer.bytes.length + 1) start).endOfStream
  simp_all

theorem refusal_eq_none (open_ : state.closed = false)
    (fits : ((state.directions direction).bytes ++ bytes).length ≤ session.maximumBufferedBytes) :
    session.refusal state direction bytes = none := by
  have small := session.budgets.2.1
  rw [length_append] at fits
  have inRange : (state.directions direction).bytes.length + bytes.length < usizeLimit := by
    simp only [maximumStreamBufferBytes] at small
    simp only [usizeLimit]
    omega
  grind [refusal, checkedAdd]

theorem push_reads {state : SessionState State} {chunk : Bytes} {frames : List StreamOutputFrame}
    (result : (session.push direction chunk state).2 = .ok frames) :
    frames = framed.output ((state.directions direction).bytes ++ chunk) ∧
      ((session.push direction chunk state).1.directions direction).bytes =
        framed.remainder ((state.directions direction).bytes ++ chunk) := by
  unfold push process at result ⊢
  cases refused : session.refusal state direction chunk with
  | some =>
    rw [refused] at result
    cases result
  | none =>
    rw [refused] at result
    obtain ⟨sameFrames, sameRest⟩ := session.extract_reads framed direction rfl result
    refine ⟨sameFrames, ?_⟩
    simp only [stored, Function.update_self]
    exact sameRest

section

variable (open_ : state.closed = false ∧ (state.directions direction).endOfStream = false)
include open_

theorem push_succeeds {chunk : Bytes}
    (fits : session.CallFits framed ((state.directions direction).bytes ++ chunk)) :
    (∃ frames, (session.push direction chunk state).2 = .ok frames) ∧
      (session.push direction chunk state).1.closed = false ∧
      ((session.push direction chunk state).1.directions direction).endOfStream = false := by
  have accepted := session.refusal_eq_none direction open_.1 fits.buffered
  have unended : (appended state direction chunk false).buffer.endOfStream = false := by
    simp [appended, open_.2]
  have extracted :=
    extract_succeeds session framed direction rfl unended fits
  have accounts := session.extract_accounts direction (appended state direction chunk false)
  unfold push process
  rw [accepted]
  refine ⟨extracted, open_.1, ?_⟩
  simp only [stored, Function.update_self]
  exact accounts.endOfStream.trans unended

omit open_ in
/-- Pushes that succeed read the chunks as the framing feeds on them. -/
theorem pushAll_feeds (result : (session.pushAll direction chunks state).2 = .ok frames) :
    frames = (framed.framing.feed (state.directions direction).bytes chunks).1.flatMap
        (·.outputFrames) ∧
      ((session.pushAll direction chunks state).1.directions direction).bytes =
        (framed.framing.feed (state.directions direction).bytes chunks).2 := by
  induction chunks generalizing state frames with
  | nil =>
    cases result
    exact ⟨rfl, rfl⟩
  | cons chunk chunks ih =>
    have reads := @push_reads _ session framed direction state chunk
    rw [pushAll] at result ⊢
    rcases answer : session.push direction chunk state with ⟨_, pushed⟩
    rw [answer] at result reads
    cases pushed with
    | error => cases result
    | ok =>
      obtain ⟨sameFirst, sameRest⟩ := reads rfl
      obtain ⟨_, rest, same⟩ := Outcome.bind_eq_ok.mp result
      cases same
      obtain ⟨sameOthers, sameLast⟩ := ih rest
      rw [sameRest] at sameOthers sameLast
      refine ⟨?_, sameLast⟩
      rw [sameFirst, sameOthers, Framing.feed, flatMap_append]
      rfl

theorem pushAll_succeeds
    (within : session.WithinBudgets framed (state.directions direction).bytes chunks) :
    ∃ frames, (session.pushAll direction chunks state).2 = .ok frames := by
  induction chunks generalizing state with
  | nil => exact ⟨[], rfl⟩
  | cons chunk chunks ih =>
    obtain ⟨⟨first, succeeded⟩, stillOpen⟩ :=
      session.push_succeeds framed direction open_ within.1
    have left := (session.push_reads framed direction succeeded).2
    rw [pushAll]
    rcases pushed : session.push direction chunk state with ⟨_, _⟩
    rw [pushed] at succeeded stillOpen left
    simp only at succeeded stillOpen left
    obtain ⟨others, rest⟩ := ih stillOpen (by rw [left]; exact within.2)
    exact ⟨first ++ others, by simp [succeeded, rest]⟩

end

end StreamTransformerSession

/-! ### Whole runs of a session -/

/-- The calls that a session takes. -/
inductive SessionCall where
  | push (direction : StreamDirection) (bytes : Bytes)
  | finish (direction : StreamDirection)
  | close

/-- A session with the bytes that each direction has received and the bytes that decisions
have consumed of them. -/
structure SessionLedger (State : Type) where
  state : SessionState State
  received : StreamDirection → Bytes
  consumed : StreamDirection → Bytes

namespace StreamTransformerSession

variable (session : StreamTransformerSession State)

/-- A call of `process` with its bytes on record, unless it was refused. -/
def recordCall (ledger : SessionLedger State) (direction : StreamDirection) (bytes : Bytes)
    (endOfStream : Bool) : SessionLedger State :=
  match session.refusal ledger.state direction bytes with
  | some _ => ledger
  | none =>
    { state := (session.process direction bytes endOfStream ledger.state).1
      received := Function.update ledger.received direction (ledger.received direction ++ bytes)
      consumed := Function.update ledger.consumed direction (ledger.consumed direction ++
        (session.extract direction
          (appended ledger.state direction bytes endOfStream)).1.drained) }

/-- The life of a session whose transformer starts in a state of its own. -/
def ledgerMachine (transformer : State) : Machine (SessionLedger State) SessionCall where
  initial :=
    { state := { closed := false, directions := fun _ => .new, transformer }
      received := fun _ => []
      consumed := fun _ => [] }
  step ledger
    | .push direction bytes => session.recordCall ledger direction bytes false
    | .finish direction => session.recordCall ledger direction [] true
    | .close => { ledger with state := session.close ledger.state }

end StreamTransformerSession

/-- What a direction received was consumed or is still buffered. -/
def SessionLedger.Conserved (ledger : SessionLedger State) : Prop :=
  ∀ direction, ledger.consumed direction ++ (ledger.state.directions direction).bytes =
    ledger.received direction

namespace StreamTransformerSession

variable (session : StreamTransformerSession State) {ledger : SessionLedger State}

theorem conserved_recordCall (conserved : ledger.Conserved) (direction : StreamDirection)
    (bytes : Bytes) (endOfStream : Bool) :
    (session.recordCall ledger direction bytes endOfStream).Conserved := by
  unfold recordCall
  cases refused : session.refusal ledger.state direction bytes with
  | some => exact conserved
  | none =>
    have accounts := (session.extract_accounts direction
      (appended ledger.state direction bytes endOfStream)).bytes
    intro other
    by_cases same : other = direction
    · subst same
      simp only [process, refused, stored, Function.update_self, append_assoc, accounts]
      simp [appended, ← append_assoc, conserved other]
    · simp only [process, refused, stored, Function.update_of_ne same]
      exact conserved other

theorem conserved_close (conserved : ledger.Conserved) :
    SessionLedger.Conserved { ledger with state := session.close ledger.state } := by
  intro direction
  unfold close
  split <;> exact conserved direction

/-- Along every run of calls, every byte received was consumed or is buffered. -/
theorem conserved_run (transformer : State) (calls : List SessionCall) :
    ((session.ledgerMachine transformer).run calls).Conserved := by
  refine Machine.invariant_run (fun _ => rfl) ?_ calls
  intro _ call conserved
  cases call with
  | push direction bytes => exact session.conserved_recordCall conserved direction bytes false
  | finish direction => exact session.conserved_recordCall conserved direction [] true
  | close => exact session.conserved_close conserved

/-- A call that returns an error was refused and changed nothing, or it keeps what it was given
less what its decisions consumed. -/
theorem process_failed {direction : StreamDirection} {endOfStream : Bool}
    {error : StreamTransformError}
    (failed : (session.process direction bytes endOfStream state).2 = Outcome.raise error) :
    (session.refusal state direction bytes = some error ∧
        (session.process direction bytes endOfStream state).1 = state) ∨
      (session.refusal state direction bytes = none ∧
        (session.extract direction (appended state direction bytes endOfStream)).1.drained ++
            ((session.process direction bytes endOfStream state).1.directions direction).bytes =
          (state.directions direction).bytes ++ bytes) := by
  unfold process at failed ⊢
  cases refused : session.refusal state direction bytes with
  | some =>
    rw [refused] at failed
    cases failed
    exact .inl ⟨rfl, rfl⟩
  | none =>
    refine .inr ⟨rfl, ?_⟩
    simp only [stored, Function.update_self]
    exact (session.extract_accounts direction (appended state direction bytes endOfStream)).bytes

/-- What a session makes of a stream. A framing transformer's output and remainder depend on
the bytes and not on their chunks, and every chunking within the budgets succeeds. With any
transformer, received bytes are consumed or buffered at every turn of every call, every call
returns, and one that returns an error gives out no frames: either it was refused with the
session as before, or its bytes stay buffered less what its decisions consumed. -/
theorem transformerSession_chunks (session : StreamTransformerSession State) :
    (∀ (framed : FramingTransformer session.transformer) (direction : StreamDirection)
      (state : SessionState State), state.closed = false → state.directions direction = .new →
      ∀ chunks : List Bytes,
        (session.WithinBudgets framed [] chunks →
          ∃ frames, (session.pushAll direction chunks state).2 = .ok frames) ∧
        ∀ frames, (session.pushAll direction chunks state).2 = .ok frames →
          frames = framed.output chunks.flatten ∧
          ((session.pushAll direction chunks state).1.directions direction).bytes =
            framed.remainder chunks.flatten) ∧
    (∀ (transformer : State) (calls : List SessionCall),
      let ledger := (session.ledgerMachine transformer).run calls
      ledger.Conserved ∧
      ∀ (direction : StreamDirection) (bytes : Bytes) (endOfStream : Bool) (turns : Nat),
        let processing := (session.processLoop direction turns
          (appended ledger.state direction bytes endOfStream)).1
        ledger.consumed direction ++ processing.drained ++ processing.buffer.bytes =
          ledger.received direction ++ bytes) ∧
    (∀ (direction : StreamDirection) (bytes : Bytes) (endOfStream : Bool)
      (state : SessionState State),
      (session.process direction bytes endOfStream state).2.Safe) ∧
    (∀ (direction : StreamDirection) (bytes : Bytes) (endOfStream : Bool)
      (state : SessionState State) (error : StreamTransformError),
      (session.process direction bytes endOfStream state).2 = Outcome.raise error →
      (session.refusal state direction bytes = some error ∧
          (session.process direction bytes endOfStream state).1 = state) ∨
        (session.refusal state direction bytes = none ∧
          (session.extract direction (appended state direction bytes endOfStream)).1.drained ++
              ((session.process direction bytes endOfStream state).1.directions direction).bytes =
            (state.directions direction).bytes ++ bytes)) := by
  refine ⟨?_, ?_, ?_, ?_⟩
  · intro framed direction state open_ fresh chunks
    have held : (state.directions direction).bytes = [] := by rw [fresh]; rfl
    constructor
    · intro within
      refine session.pushAll_succeeds framed direction ⟨open_, by rw [fresh]; rfl⟩ ?_
      rw [held]
      exact within
    · intro frames result
      obtain ⟨sameFrames, sameRest⟩ := session.pushAll_feeds framed direction result
      rw [held, Framing.feed_eq_parse Framing.next_nil] at sameFrames sameRest
      exact ⟨sameFrames, sameRest⟩
  · intro transformer calls
    have conserved := session.conserved_run transformer calls
    refine ⟨conserved, fun direction bytes endOfStream turns => ?_⟩
    have accounts := (session.processLoop_accounts direction turns
      (appended ((session.ledgerMachine transformer).run calls).state direction bytes
        endOfStream)).bytes
    simp only [append_assoc, accounts]
    simp [appended, ← append_assoc, conserved direction]
  · exact fun direction bytes endOfStream state =>
      session.process_safe direction bytes endOfStream state
  · exact fun direction bytes endOfStream state error failed => session.process_failed failed

end StreamTransformerSession

/-! ### The transformer of the tests -/

/-- A message is one length byte and its payload, which goes out in upper case. -/
def lengthPrefixedDecision : Bytes → StreamTransformDecision
  | [] => .needMore 1
  | payloadLength :: payload =>
    if payload.length < payloadLength.toNat then
      .needMore (payloadLength.toNat - payload.length)
    else
      .emit (payloadLength.toNat + 1)
        [{ wireBytes := payloadLength :: (payload.take payloadLength.toNat).map fun byte =>
             if 97 ≤ byte ∧ byte ≤ 122 then byte - 32 else byte
           decoded := some
             { frameType := "message", protocolVersion := some "1", correlationId := none,
               fields := [], annotations := [] } }]

def lengthPrefixedTransformer : StreamTransformer Unit where
  transform _ input := ((), .returned (.ok (lengthPrefixedDecision input.bytes)))
  close _ _ := ()

/-- The transformer of the tests frames a stream. -/
def lengthPrefixedFraming : FramingTransformer lengthPrefixedTransformer where
  decide := lengthPrefixedDecision
  answers _ _ := rfl
  asksOrTakes := by
    intro bytes nonempty
    cases bytes with
    | nil => exact absurd rfl nonempty
    | cons payloadLength payload =>
      rw [lengthPrefixedDecision]
      split
      · exact .inl ⟨_, rfl⟩
      · rename_i whole
        refine .inr ⟨Nat.succ_pos _, ?_⟩
        simp only [StreamTransformDecision.consumedBytes, length_cons]
        omega
  whole := by
    intro bytes more takes
    cases bytes with
    | nil => exact absurd takes (Nat.lt_irrefl 0)
    | cons payloadLength payload =>
      rw [lengthPrefixedDecision] at takes
      split at takes
      · exact absurd takes (Nat.lt_irrefl 0)
      rename_i whole
      have longer : ¬(payload ++ more).length < payloadLength.toNat := by
        rw [length_append]
        omega
      rw [cons_append, lengthPrefixedDecision, lengthPrefixedDecision, if_neg whole,
        if_neg longer, take_append_of_le_length (by omega)]

/-- A session of that transformer with a small buffer. -/
def lengthPrefixedSession : StreamTransformerSession Unit where
  connectionId := 7
  transformer := lengthPrefixedTransformer
  maximumBufferedBytes := 4
  maximumOutputBytes := 1024
  budgets := by decide
  outputRange := by decide

def idleSession : SessionState Unit where
  closed := false
  directions _ := .new
  transformer := ()

namespace StreamTransformerSession

theorem transformerSession_chunks_halves :
    ∃ frames, (lengthPrefixedSession.pushAll .clientToServer [[1], [97]] idleSession).2 =
      .ok frames ∧ frames = lengthPrefixedFraming.output [1, 97] := by
  have within : lengthPrefixedSession.WithinBudgets lengthPrefixedFraming [] [[1], [97]] := by
    refine ⟨⟨by decide, ?_, by decide, ?_⟩, ⟨by decide, ?_, by decide, ?_⟩, trivial⟩
    · nofun
    · intro count _ asks
      cases asks
      decide
    · intro _ member
      cases mem_singleton.mp member
      refine ⟨cons_ne_nil _ _, by decide, ?_⟩
      intro _ member
      cases mem_singleton.mp member
      rfl
    · intro count nonempty _
      exact absurd rfl nonempty
  obtain ⟨succeeds, reads⟩ := (transformerSession_chunks lengthPrefixedSession).1
    lengthPrefixedFraming .clientToServer idleSession rfl rfl [[1], [97]]
  obtain ⟨frames, result⟩ := succeeds within
  exact ⟨frames, result, (reads frames result).1⟩

/-- A call that fails after its first message has lost that message from the buffer: of two
messages, the second asks for more than the buffer holds. -/
theorem not_restored_afterFailure :
    (lengthPrefixedSession.push .clientToServer [1, 97, 9, 9] idleSession).2 =
        Outcome.raise .invalidDecision ∧
      ((lengthPrefixedSession.push .clientToServer [1, 97, 9, 9] idleSession).1.directions
        .clientToServer).bytes ≠ (idleSession.directions .clientToServer).bytes :=
  ⟨rfl, by decide⟩

end StreamTransformerSession

end SprakCapture.Plugins
