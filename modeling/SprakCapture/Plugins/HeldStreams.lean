import Mathlib.Data.List.Induction
import SprakCapture.Plugins.LegacyStreams

/-!
# Held bytes of a stream

The source keeps one held segment per direction and two partial passes around it. What it
does is the same as if every plugin had a buffer of its own: each block makes one `Data.Pass`
along the plugins, as long as the connection is not closed.
-/

namespace SprakCapture.Plugins

open Data List
open Function (update_self update_idem update_of_ne)

variable {Environment : Type}

/-- The bytes that each plugin holds. -/
def heldBy : Option PendingSegment → Nat → Bytes
  | none => fun _ => []
  | some pending => Function.update (fun _ => []) pending.resumePluginIndex pending.bytes

theorem heldBy_some (pending : PendingSegment) :
    heldBy (some pending) =
      Function.update (fun _ => []) pending.resumePluginIndex pending.bytes := rfl

/-- A segment within the budget, at a plugin of the row. -/
def PendingSegment.Valid (count : Nat) (pending : PendingSegment) : Prop :=
  pending.resumePluginIndex < count ∧ pending.bytes.length ≤ maximumHeldStreamBytes

theorem NativePlugin.length_streamData (plugin : NativePlugin Environment) (connectionId : UInt64)
    (direction : StreamDirection) (buffer : Bytes) (environment : Environment) :
    (plugin.streamData connectionId direction buffer environment).2.1.length = buffer.length := by
  unfold NativePlugin.streamData
  split
  · rfl
  · exact StreamDataReply.sameLength _

namespace PluginPass

/-- A pass over plugins up to a stage, as a delivery to a row of stages with buffers. One that
gets through leaves the rest of the delivery open. -/
def Follows (pass : PluginPass Environment) (count : Nat) (held : Nat → Bytes)
    (index stop : Nat) (incoming : Bytes) : Prop :=
  match pass.ending with
  | .through length => ∀ more last emitted,
      Pass count held stop (pass.buffer.take length) more last emitted →
        Pass count held index incoming (pass.calls ++ more) last emitted
  | .held at_ _ length => at_ < stop ∧
      Pass count held index incoming pass.calls
        (Function.update held at_ (pass.buffer.take length)) []
  | .dropped => Pass count held index incoming pass.calls held []
  | .closed => True

/-- A call that forwards leads on to what follows it. -/
theorem Follows.after {pass : PluginPass Environment} {count stop : Nat} {held : Nat → Bytes}
    {call : StageCall UInt8} {incoming : Bytes} (inRow : call.stage < count)
    (input : call.input = held call.stage ++ incoming) (empty : held call.stage = [])
    (forward : call.verdict = .forward)
    (follows : pass.Follows count held (call.stage + 1) stop call.output) :
    (pass.after call).Follows count held call.stage stop incoming := by
  have same : Function.update held call.stage [] = held :=
    Function.update_eq_self_iff.mpr empty.symm
  have lead : ∀ {calls last emitted},
      Pass count held (call.stage + 1) call.output calls last emitted →
        Pass count held call.stage incoming (call :: calls) last emitted := by
    intro calls last emitted rest
    refine .forwards inRow input forward ?_
    rw [same]
    exact rest
  grind [Follows, PluginPass.after]

end PluginPass

variable {arrivals : List (StreamDirection × Bytes)}

namespace HookedConnection

variable (hooked : HookedConnection Environment) (direction : StreamDirection)

/-- A pass over plugins keeps the length of the buffer, and follows a delivery to stages that
hold nothing. -/
theorem runPlugins_follows {count : Nat} {held : Nat → Bytes} {index : Nat}
    {plugins : List (NativePlugin Environment)} (inRow : index + plugins.length ≤ count)
    (empty : ∀ stage, index ≤ stage → stage < index + plugins.length → held stage = [])
    (buffer : Bytes) (currentLength : Nat) (environment : Environment) :
    (hooked.runPlugins direction index plugins buffer currentLength environment).buffer.length =
        buffer.length ∧
      (hooked.runPlugins direction index plugins buffer currentLength environment).Follows count
        held index (index + plugins.length) (buffer.take currentLength) := by
  induction plugins generalizing index buffer currentLength environment with
  | nil => exact ⟨rfl, fun _ _ _ rest => rest⟩
  | cons plugin plugins ih =>
    rw [length_cons] at inRow empty
    have here : held index = [] := empty index (Nat.le_refl _) (by omega)
    have kept := plugin.length_streamData hooked.connection.connectionId direction
      (buffer.take currentLength) environment
    rw [runPlugins]
    split
    · exact ⟨rfl, trivial⟩
    revert kept
    dsimp only
    generalize plugin.streamData hooked.connection.connectionId direction
      (buffer.take currentLength) environment = answered
    obtain ⟨next, data, result⟩ := answered
    intro kept
    have length : (data ++ buffer.drop currentLength).length = buffer.length := by
      grind
    have input : buffer.take currentLength = held index ++ buffer.take currentLength := by
      rw [here, nil_append]
    cases result with
    | none => exact ⟨length, trivial⟩
    | some answer =>
      obtain ⟨action, outputLength⟩ := answer
      cases action with
      | forward =>
        dsimp only
        split
        · exact ⟨length, trivial⟩
        obtain ⟨sameLength, follows⟩ := @ih (index + 1) (by omega)
          (fun stage _ _ => empty stage (by omega) (by omega))
          _ _
          _
        refine ⟨sameLength.trans length, ?_⟩
        rw [length_cons, Nat.add_comm plugins.length, ← Nat.add_assoc]
        have inRow : index < count := by omega
        exact PluginPass.Follows.after inRow input here rfl follows
      | hold =>
        refine ⟨length, by simp, ?_⟩
        have inRow : index < count := by omega
        exact @Pass.stops _ _ _ _ ⟨index, _, .hold, _⟩ inRow input nofun
      | drop =>
        refine ⟨length, ?_⟩
        have inRow : index < count := by omega
        have stopped := @Pass.stops _ _ _ _ ⟨index, buffer.take currentLength, .drop,
          (data ++ buffer.drop currentLength).take outputLength⟩ inRow input nofun
        have same : Function.update held index [] = held :=
          Function.update_eq_self_iff.mpr here.symm
        simp only [StageCall.held, same] at stopped
        exact stopped
      | close => exact ⟨length, trivial⟩

/-- A delivery to a stage that holds bytes is one of those bytes and the new ones to a stage
that holds none. -/
theorem pass_of_absorbed {count index : Nat} {held last : Nat → Bytes} {fresh emitted : Bytes}
    {calls : List (StageCall UInt8)} (inRow : index < count)
    (pass : Pass count (Function.update held index []) index (held index ++ fresh) calls last
      emitted) :
    Pass count held index fresh calls last emitted := by
  cases pass with
  | leaves => exact absurd inRow (Nat.lt_irrefl _)
  | forwards _ input forward rest =>
    rw [update_self] at input
    rw [update_idem] at rest
    exact .forwards inRow input forward rest
  | stops _ input stopped =>
    rw [update_self] at input
    rw [update_idem]
    exact .stops inRow input stopped

/-- What a block does to the row of plugins: one delivery, and what is held after it is again
within the budget. -/
def Delivers (count : Nat) (pending : Option PendingSegment) (buffer : Bytes)
    (processed : Processed Environment) : Prop :=
  Pass count (heldBy pending) 0 buffer processed.calls (heldBy processed.pending) processed.sent ∧
    ∀ segment, processed.pending = some segment → segment.Valid count

variable {pending : PendingSegment}

/-- The joined bytes are delivered from the plugin that holds on. -/
theorem endResumed_delivers {buffer bytes : Bytes} {first second : PluginPass Environment}
    {count : Nat} (join : ∀ calls last emitted,
      Pass count (heldBy none) pending.resumePluginIndex bytes calls last emitted →
        Pass count (heldBy (some pending)) 0 buffer (first.calls ++ calls) last emitted)
    (follows : second.Follows count (heldBy none) pending.resumePluginIndex count bytes)
    (room : second.buffer.length ≤ maximumHeldStreamBytes)
    (open_ : (endResumed first second).result ≠ .close) :
    Delivers count (some pending) buffer (endResumed first second) := by
  unfold endResumed at open_ ⊢
  unfold PluginPass.Follows at follows
  cases ending : second.ending with
  | closed => simp [ending] at open_
  | dropped =>
    rw [ending] at follows
    exact ⟨join _ _ _ follows, nofun⟩
  | held _ _ length =>
    rw [ending] at follows
    refine ⟨join _ _ _ follows.2, ?_⟩
    rintro _ same
    cases same
    refine ⟨follows.1, ?_⟩
    rw [length_take]
    omega
  | through length =>
    rw [ending] at follows
    have left := join _ _ _ (follows [] (heldBy none) (second.buffer.take length) .leaves)
    rw [append_nil] at left
    exact ⟨left, nofun⟩

variable {buffer : Bytes}

theorem joinHeld_delivers (valid : pending.Valid hooked.matchedPlugins.length)
    {first : PluginPass Environment} {inputLength : Nat} (follows : ∀ more last emitted,
      Pass hooked.matchedPlugins.length (heldBy (some pending)) pending.resumePluginIndex
          (first.buffer.take inputLength) more last emitted →
        Pass hooked.matchedPlugins.length (heldBy (some pending)) 0 buffer (first.calls ++ more)
          last emitted)
    (open_ : (hooked.joinHeld direction pending first inputLength).result ≠ .close) :
    Delivers hooked.matchedPlugins.length (some pending) buffer
      (hooked.joinHeld direction pending first inputLength) := by
  have behind : pending.resumePluginIndex +
      (hooked.matchedPlugins.drop pending.resumePluginIndex).length =
        hooked.matchedPlugins.length := by
    rw [length_drop]
    exact Nat.add_sub_cancel' (Nat.le_of_lt valid.1)
  have cleared : Function.update (heldBy (some pending)) pending.resumePluginIndex [] =
      heldBy none := by
    rw [heldBy_some, update_idem]
    exact Function.update_eq_self_iff.mpr rfl
  unfold joinHeld at open_ ⊢
  split at open_
  · exact absurd rfl open_
  rename_i fits
  rw [if_neg fits]
  obtain ⟨_, second⟩ := runPlugins_follows hooked direction (Nat.le_of_eq behind) (fun _ _ _ => rfl) (pending.bytes ++ first.buffer.take inputLength) (pending.bytes ++ first.buffer.take inputLength).length first.environment
  rw [take_length, behind] at second
  refine endResumed_delivers (fun calls last emitted rest => ?_) second ?_ open_
  · refine follows calls last emitted (pass_of_absorbed valid.1 ?_)
    rw [cleared, heldBy_some, update_self]
    exact rest
  grind

variable {environment : Environment}

theorem resumePendingStream_delivers (valid : pending.Valid hooked.matchedPlugins.length)
    (open_ : (hooked.resumePendingStream direction pending buffer environment).result ≠ .close) :
    Delivers hooked.matchedPlugins.length (some pending) buffer
      (hooked.resumePendingStream direction pending buffer environment) := by
  have before : (hooked.matchedPlugins.take pending.resumePluginIndex).length =
      pending.resumePluginIndex := by
    rw [length_take, Nat.min_eq_left (Nat.le_of_lt valid.1)]
  have inRow : 0 + (hooked.matchedPlugins.take pending.resumePluginIndex).length ≤
      hooked.matchedPlugins.length := by
    grind
  have empty : ∀ stage, 0 ≤ stage →
      stage < 0 + (hooked.matchedPlugins.take pending.resumePluginIndex).length →
      heldBy (some pending) stage = [] := by
    intro stage _ _
    rw [heldBy_some, update_of_ne (by omega)]
  obtain ⟨_, first⟩ := hooked.runPlugins_follows direction inRow empty buffer buffer.length
    environment
  rw [take_length, before, Nat.zero_add] at first
  unfold resumePendingStream at open_ ⊢
  dsimp only at open_ ⊢
  generalize hooked.runPlugins direction 0 (hooked.matchedPlugins.take pending.resumePluginIndex)
    buffer buffer.length environment = pass at first open_ ⊢
  unfold PluginPass.Follows at first
  cases ending : pass.ending with
  | closed | held _ _ length => simp [ending] at open_
  | dropped =>
    rw [ending] at first
    refine ⟨first, ?_⟩
    rintro _ same
    cases same
    exact valid
  | through =>
    rw [ending] at first open_
    exact hooked.joinHeld_delivers direction valid first open_

theorem endFresh_delivers (tcp : hooked.connection.transport = .tcp) {pass : PluginPass Environment}
    (follows : pass.Follows hooked.matchedPlugins.length (heldBy none) 0
      hooked.matchedPlugins.length buffer) (open_ : (hooked.endFresh pass).result ≠ .close) :
    Delivers hooked.matchedPlugins.length none buffer (hooked.endFresh pass) := by
  unfold endFresh at open_ ⊢
  unfold PluginPass.Follows at follows
  cases ending : pass.ending with
  | closed => simp [ending] at open_
  | dropped =>
    rw [ending] at follows
    exact ⟨follows, nofun⟩
  | held _ _ length =>
    rw [ending] at follows
    simp only [ending, tcp, reduceCtorEq, if_false] at open_ ⊢
    split at open_
    · exact absurd rfl open_
    rename_i fits
    rw [if_neg fits]
    refine ⟨follows.2, ?_⟩
    rintro _ same
    cases same
    refine ⟨follows.1, ?_⟩
    rw [length_take]
    omega
  | through length =>
    rw [ending] at follows
    have left := follows [] (heldBy none) (pass.buffer.take length) .leaves
    rw [append_nil] at left
    exact ⟨left, nofun⟩

theorem processStreamData_delivers (tcp : hooked.connection.transport = .tcp)
    {pending : Option PendingSegment}
    (valid : ∀ segment, pending = some segment → segment.Valid hooked.matchedPlugins.length)
    (open_ : (hooked.processStreamData direction pending buffer environment).result ≠ .close) :
    Delivers hooked.matchedPlugins.length pending buffer
      (hooked.processStreamData direction pending buffer environment) := by
  unfold processStreamData at open_ ⊢
  dsimp only at open_ ⊢
  split at open_
  · exact absurd rfl open_
  rename_i unrequested
  rw [if_neg unrequested]
  cases pending with
  | some segment => exact hooked.resumePendingStream_delivers direction (valid segment rfl) open_
  | none =>
    obtain ⟨_, follows⟩ := @runPlugins_follows _ _ _ hooked.matchedPlugins.length
      _ 0 hooked.matchedPlugins (by omega) (fun _ _ _ => rfl) _ _
      _
    rw [take_length, Nat.zero_add] at follows
    exact hooked.endFresh_delivers tcp follows open_

/-- What a history keeps in every direction: the flow along the plugins, with the segment of
the direction as the only bytes held and within the budget. -/
structure StreamHistory.Intact (history : StreamHistory Environment) (count : Nat)
    (arrivals : List (StreamDirection × Bytes)) : Prop where
  received : ∀ direction,
    history.received direction = (arrivals.filter (·.1 = direction)).flatMap (·.2)
  flows : ∀ direction, Flows count (history.received direction) (history.calls direction)
    (heldBy (history.pending direction)) (history.sent direction)
  valid : ∀ direction segment, history.pending direction = some segment → segment.Valid count

theorem closed_step_of_closed {history : StreamHistory Environment} (closed : history.closed = true)
    (arrival : StreamDirection × Bytes) :
    ((hooked.streamMachine environment).step history arrival).closed = true := by
  simp [streamMachine, closed]

section

variable (tcp : hooked.connection.transport = .tcp)
include tcp

/-- A block that does not close the connection keeps the history intact. -/
theorem intact_step {history : StreamHistory Environment}
    (intact : history.Intact hooked.matchedPlugins.length arrivals)
    (opened : history.closed = false) (arrival : StreamDirection × Bytes)
    (open_ : ((hooked.streamMachine environment).step history arrival).closed = false) :
    ((hooked.streamMachine environment).step history arrival).Intact
      hooked.matchedPlugins.length (arrivals ++ [arrival]) := by
  obtain ⟨direction, chunk⟩ := arrival
  simp only [streamMachine, opened] at open_ ⊢
  have delivered : Delivers hooked.matchedPlugins.length (history.pending direction) chunk
      (hooked.processStreamData direction (history.pending direction) chunk
        history.environment) := by
    refine hooked.processStreamData_delivers direction tcp (intact.valid direction) ?_
    intro closes
    simp [closes] at open_
  obtain ⟨pass, valid⟩ := delivered
  rw [if_neg Bool.false_ne_true]
  refine ⟨fun other => ?_, fun other => ?_, fun other => ?_⟩
  · by_cases same : other = direction
    · subst same
      simp [intact.received]
    · have different : direction ≠ other := fun equal => same equal.symm
      simp [update_of_ne same, intact.received, different]
  · by_cases same : other = direction
    · subst same
      simp only [update_self]
      exact (intact.flows other).pass pass
    · simp only [update_of_ne same]
      exact intact.flows other
  · by_cases same : other = direction
    · simp_all
    · simp only [update_of_ne same]
      exact intact.valid other

/-- As long as no block closes the connection, every history is intact. -/
theorem intact_run (environment : Environment)
    (open_ : ((hooked.streamMachine environment).run arrivals).closed = false) :
    ((hooked.streamMachine environment).run arrivals).Intact hooked.matchedPlugins.length
      arrivals := by
  induction arrivals using List.reverseRecOn with
  | nil => exact ⟨fun _ => rfl, fun _ => flows_nil _, nofun⟩
  | append_singleton arrivals arrival ih =>
    rw [Machine.run_concat] at open_ ⊢
    have opened : ((hooked.streamMachine environment).run arrivals).closed = false := by
      by_contra closed
      have stays := @closed_step_of_closed _ hooked environment _
        (Bool.not_eq_false _ ▸ closed) arrival
      rw [open_] at stays
      cases stays
    exact hooked.intact_step tcp (ih opened) opened arrival open_

/-- Held bytes of a TCP connection are conserved. For any plugins and any blocks in both
directions, as long as no call returns `Close`: in each direction every plugin has received
exactly what the plugin before it forwarded (the first: the blocks), in order and once, next to
what it held itself in its call before; what was sent is what the last plugin forwarded; a
plugin still holds what it held back in its last call, whatever the others did since; and the
segment held is within the budget, at one plugin, and of that direction alone. -/
theorem heldStreams_conserved (environment : Environment)
    (arrivals : List (StreamDirection × Bytes))
    (open_ : ((hooked.streamMachine environment).run arrivals).closed = false)
    (direction : StreamDirection) :
    let history := (hooked.streamMachine environment).run arrivals
    let chunks := (arrivals.filter (·.1 = direction)).flatMap (·.2)
    Flows hooked.matchedPlugins.length chunks (history.calls direction)
        (heldBy (history.pending direction)) (history.sent direction) ∧
      (∀ plugin < hooked.matchedPlugins.length,
        heldBy (history.pending direction) plugin =
          ((callsOf plugin (history.calls direction)).getLast?.map StageCall.held).getD []) ∧
      ∀ segment, history.pending direction = some segment →
        segment.resumePluginIndex < hooked.matchedPlugins.length ∧
          segment.bytes.length ≤ maximumHeldStreamBytes := by
  have intact := hooked.intact_run tcp environment open_
  have flows := intact.flows direction
  refine ⟨?_, fun plugin inRow => (flows.receives plugin inRow).last_eq, intact.valid direction⟩
  rw [intact.received direction] at flows
  exact flows

end

end HookedConnection

/-- A plugin that waits for two bytes. -/
def pairingPlugin : NativePlugin Unit where
  pluginId := "pairs"
  isEnabled _ := true
  onStreamData := some fun environment _ _ input =>
    (environment,
      { data := input, sameLength := rfl, status := if input.length < 2 then 1 else 0,
        length := input.length })

def pairingConnection : HookedConnection Unit where
  connection :=
    { connectionId := 1, transport := .tcp,
      metadata :=
        { transport := .tcp, clientAddress := "127.0.0.1:5000", targetHost := "example.test",
          targetPort := 80 } }
  matchedPlugins := [pairingPlugin, pairingPlugin]
  shared :=
    { takeCloseRequest := fun environment _ => (environment, false)
      markFailed := fun environment _ _ => environment }

namespace HookedConnection

theorem heldStreams_conserved_pairs :
    let history := (pairingConnection.streamMachine ()).run
      [(.clientToServer, [1]), (.serverToClient, [9]), (.clientToServer, [2])]
    history.closed = false ∧ history.sent .clientToServer = [1, 2] ∧
      Flows 2 [1, 2] (history.calls .clientToServer) (heldBy (history.pending .clientToServer))
        (history.sent .clientToServer) :=
  ⟨by decide, by decide, (heldStreams_conserved pairingConnection rfl ()
    [(.clientToServer, [1]), (.serverToClient, [9]), (.clientToServer, [2])] (by decide)
    .clientToServer).1⟩

end HookedConnection

end SprakCapture.Plugins
