import SprakCapture.ProcessCapture.FlowIndex
import SprakCapture.ProcessCapture.PacketRewrite

/-!
# Decisions about TCP fragments

The first fragment of a datagram decides about the later ones, and the table keeps its
decision for a while. `get?_step` says once what a call does to a decision: it is
recorded, it ends in one of five ways (`Ended`), or it stays. The bound on the number
of decisions, the tie to live endpoints and the fate of later fragments follow.
-/

namespace SprakCapture.ProcessCapture

open Data List Option Data.Machine Table FragmentDecision

/-! ### Removed endpoints -/

/-- The endpoints that `insertAt` removes: the previous connection of a TCP endpoint, and the
endpoint that held the tuple. -/
def insertionRemovals (state : FlowState) (flow : CaptureFlow) (configuredProxyAddress : IpAddr)
    (now : Instant) : List UInt64 :=
  match resolveProxyAddress flow.localAddress configuredProxyAddress with
  | none => []
  | some _ =>
    (if flow.protocol = tcpProtocol then [flow.endpointId] else []) ++
      match (releaseTcpEndpoint state flow now).outbound.get? flow.outboundKey with
      | some previous => if previous.endpointId = flow.endpointId then [] else [previous.endpointId]
      | none => []

/-- The endpoints that `associateUdpOutboundAt` removes: those of its insertion, and its own
endpoint if that lost its binding. -/
def associationRemovals (state : FlowState) (request : UdpAssociationRequest) (now : Instant) :
    List UInt64 :=
  let (existing, state) := existingUdpTarget state request now
  match existing with
  | some _ => []
  | none =>
    let localAddress := normalizeIpAddress request.localAddress
    let remoteAddress := normalizeIpAddress request.remoteAddress
    match uniqueCandidate (bindingCandidates state localAddress request.localPort) with
    | none => []
    | some (endpointId, processId) =>
      match CaptureFlow.udp processId endpointId localAddress request.localPort remoteAddress
          request.remotePort with
      | none => []
      | some flow =>
        let inserted := (insertAt state flow request.configuredProxyAddress
          request.proxyPort request.capturedAtCounter now).2
        let after := (existingUdpTarget inserted
          { request with localAddress, remoteAddress } now).2
        insertionRemovals state flow request.configuredProxyAddress now ++
          if after.udpBindingKeys.contains endpointId then [] else [endpointId]

/-- The endpoints that a call removes. -/
def removedEndpoints (state : FlowState) : FlowAction → List UInt64
  | .insertAt flow configuredProxyAddress _ _ now =>
    insertionRemovals state flow configuredProxyAddress now
  | .removeEndpoint endpointId _ => [endpointId]
  | .removeEndpointsAt endpointIds _ _ => endpointIds
  | .replaceUdpOwnerBindings removedEndpointIds _ _ => removedEndpointIds
  | .associateUdpOutboundAt request now => associationRemovals state request now
  | .retainProcessIds selectedProcessIds _ => unselectedFlowEndpoints state selectedProcessIds
  | _ => []

/-- The clock reading with which a call drops expired decisions. -/
def FlowAction.fragmentClock : FlowAction → Option Instant
  | .recordFragmentDecisionAt _ _ now => some now
  | .fragmentLookupAt _ now => some now
  | _ => none

/-- A decision survives the removal of endpoints that it does not block for. -/
def FragmentDecision.survives (decision : FragmentDecision) (removed : List UInt64) : Bool :=
  removed.all fun endpointId => !decision.blocksFor endpointId

/-- The endpoints `removed` took their decisions with them; other decisions and other endpoints
are still there. -/
structure RemovesDecisions (before after : FlowState) (removed : List UInt64) : Prop where
  lookup : ∀ key, after.fragmentDecisions.get? key =
    (before.fragmentDecisions.get? key).filter fun decision => decision.survives removed
  endpoints : ∀ {endpointId}, before.endpointKeys.contains endpointId = true →
    endpointId ∉ removed → after.endpointKeys.contains endpointId = true

variable (state : FlowState)

namespace RemovesDecisions

variable {before middle after : FlowState} {first second : List UInt64}

theorem of_kept (same : after.fragmentDecisions = before.fragmentDecisions)
    (kept : ∀ {endpointId}, before.endpointKeys.contains endpointId = true →
      after.endpointKeys.contains endpointId = true) : RemovesDecisions before after [] := by
  refine ⟨fun key => ?_, fun held _ => kept held⟩
  rw [same]
  cases before.fragmentDecisions.get? key <;> rfl

theorem trans (one : RemovesDecisions before middle first)
    (two : RemovesDecisions middle after second) :
    RemovesDecisions before after (first ++ second) := by
  constructor
  · simp [two.lookup, one.lookup, survives]
  · intro _ held absent
    rw [mem_append, not_or] at absent
    exact two.endpoints (one.endpoints held absent.1) absent.2

theorem trans_kept (one : RemovesDecisions before middle first)
    (two : RemovesDecisions middle after []) : RemovesDecisions before after first := by
  have both := one.trans two
  rwa [append_nil] at both

theorem of_sameIndex (same : after.fragmentDecisions = before.fragmentDecisions)
    (index : SameIndex before after) : RemovesDecisions before after [] := by
  refine of_kept same fun held => ?_
  rw [index.endpointKeys]
  exact held

theorem refl : RemovesDecisions state state [] := of_kept rfl id

end RemovesDecisions

/-! ### Calls that record nothing -/

variable (endpointId : UInt64) (counter : Option Int) (now : Instant)

theorem removeUdpBindingLocked_decisions :
    RemovesDecisions state (removeUdpBindingLocked state endpointId) [] :=
  .of_sameIndex (fragmentDecisions_removeUdpBindingLocked ..) (removeUdpBindingLocked_sameIndex ..)

theorem removeEndpointLocked_decisions :
    RemovesDecisions state (removeEndpointLocked state endpointId counter now) [endpointId] := by
  constructor
  · grind [fragmentDecisions_removeEndpointLocked, survives]
  · intro _ held different
    rw [mem_singleton] at different
    rw [Table.contains, (removeEndpointLocked_effect state endpointId counter now).endpointKeys,
      if_neg different]
    exact held

/-- A list of endpoints is removed one after the other. -/
theorem removeEndpoints_decisions (endpointIds : List UInt64) (state : FlowState) :
    RemovesDecisions state
      (endpointIds.foldl
        (fun state endpointId => removeEndpointLocked state endpointId counter now) state)
      endpointIds := by
  induction endpointIds generalizing state with
  | nil => exact .refl state
  | cons endpointId _ ih =>
    exact (removeEndpointLocked_decisions state endpointId counter now).trans (ih _)

theorem foldl_decisions {Item : Type} {operation : FlowState → Item → FlowState}
    (single : ∀ state item, RemovesDecisions state (operation state item) [])
    (items : List Item) (state : FlowState) :
    RemovesDecisions state (items.foldl operation state) [] := by
  induction items generalizing state with
  | nil => exact .refl state
  | cons item _ ih => exact (single state item).trans_kept (ih (operation state item))

theorem bindUdpEndpoint_decisions (processId : UInt32) (endpointId : UInt64) (key : UdpBindingKey) :
    RemovesDecisions state (bindUdpEndpoint state processId endpointId key) [] :=
  .of_sameIndex (fragmentDecisions_removeUdpBindingLocked state endpointId)
    (bindUdpEndpoint_sameIndex ..)

theorem indexFlow_decisions (flow : CaptureFlow) (proxyAddress : IpAddr) (proxyPort : UInt16)
    (counter : Option Int) :
    RemovesDecisions state (indexFlow state flow proxyAddress proxyPort counter).2 [] := by
  have same : (indexFlow state flow proxyAddress proxyPort counter).2.fragmentDecisions =
      state.fragmentDecisions := by
    unfold indexFlow
    split
    · rename_i after allocated
      have unchanged := congrArg Prod.snd allocated
      subst unchanged
      rfl
    · rename_i reflectedPort after allocated
      have unchanged := congrArg Prod.snd allocated
      subst unchanged
      rfl
  rcases indexFlow_effect state flow proxyAddress proxyPort counter with
    ⟨_, index⟩ | ⟨reflectedPort, _, effect⟩
  · exact .of_sameIndex same index
  refine .of_kept same fun held => ?_
  rw [Table.contains, effect.endpointKeys]
  split
  · rfl
  · exact held

theorem outboundTransportTarget_decisions (protocol : UInt8) (localAddress : IpAddr)
    (localPort : UInt16) (remoteAddress : IpAddr) (remotePort : UInt16) :
    RemovesDecisions state (outboundTransportTarget state protocol localAddress localPort
      remoteAddress remotePort).2 [] := by
  have same : (outboundTransportTarget state protocol localAddress localPort remoteAddress
      remotePort).2.fragmentDecisions = state.fragmentDecisions := by
    grind [outboundTransportTarget]
  rcases outboundTransportTarget_effect state protocol localAddress localPort remoteAddress
      remotePort with index | ⟨_, _, _, _, effect⟩
  · exact .of_sameIndex same index
  refine .of_kept same fun held => ?_
  rw [Table.contains, effect.endpointKeys]
  split
  · rfl
  · exact held

variable (request : UdpAssociationRequest)

theorem existingUdpTarget_decisions (now : Instant) :
    RemovesDecisions state (existingUdpTarget state request now).2 [] := by
  unfold existingUdpTarget
  split
  · exact outboundTransportTarget_decisions ..
  · exact .refl state

theorem insertAt_decisions (flow : CaptureFlow) (configuredProxyAddress : IpAddr)
    (proxyPort : UInt16) (counter : Option Int) (now : Instant) :
    RemovesDecisions state
      (insertAt state flow configuredProxyAddress proxyPort counter now).2
      (insertionRemovals state flow configuredProxyAddress now) := by
  have released : RemovesDecisions state (releaseTcpEndpoint state flow now)
      (if flow.protocol = tcpProtocol then [flow.endpointId] else []) := by
    unfold releaseTcpEndpoint
    split
    · exact removeEndpointLocked_decisions ..
    · exact .refl state
  unfold insertAt insertionRemovals
  cases resolveProxyAddress flow.localAddress configuredProxyAddress with
  | none => exact .refl state
  | some =>
    refine released.trans ?_
    dsimp only
    cases (releaseTcpEndpoint state flow now).outbound.get? flow.outboundKey with
    | none => exact indexFlow_decisions ..
    | some previous =>
      dsimp only
      split
      · exact .refl _
      · exact (removeEndpointLocked_decisions (releaseTcpEndpoint state flow now)
          previous.endpointId (takeoverCounter flow counter) now).trans_kept
            (indexFlow_decisions ..)

theorem associateUdpOutboundAt_decisions (now : Instant) :
    RemovesDecisions state (associateUdpOutboundAt state request now).2
      (associationRemovals state request now) := by
  have looked := existingUdpTarget_decisions state request now
  unfold associateUdpOutboundAt associationRemovals
  dsimp only
  cases (existingUdpTarget state request now).1 with
  | some => exact looked
  | none =>
    cases uniqueCandidate (bindingCandidates (existingUdpTarget state request now).2
        (normalizeIpAddress request.localAddress) request.localPort) with
    | none => exact looked
    | some candidate =>
      obtain ⟨endpointId, processId⟩ := candidate
      dsimp only
      cases CaptureFlow.udp processId endpointId (normalizeIpAddress request.localAddress)
          request.localPort (normalizeIpAddress request.remoteAddress)
          request.remotePort with
      | none => exact looked
      | some flow =>
        have inserted := looked.trans (insertAt_decisions _ flow
          request.configuredProxyAddress request.proxyPort request.capturedAtCounter now)
        have lookedAgain := inserted.trans_kept (existingUdpTarget_decisions _
          { request with
            localAddress := normalizeIpAddress request.localAddress
            remoteAddress := normalizeIpAddress request.remoteAddress } now)
        dsimp only
        split
        · rw [append_nil]
          exact lookedAgain
        · exact lookedAgain.trans (removeEndpointLocked_decisions ..)

theorem replaceUdpOwnerBindings_decisions (removed : List UInt64) (additions : List OwnerAddition)
    (now : Instant) :
    RemovesDecisions state (replaceUdpOwnerBindings state removed additions now) removed := by
  refine (removeEndpoints_decisions none now removed state).trans_kept
    (foldl_decisions (fun state _ => ?_) additions _)
  dsimp only
  split
  · exact .refl state
  · exact bindUdpEndpoint_decisions ..

theorem retainProcessIds_decisions (selected : List UInt32) (now : Instant) :
    RemovesDecisions state (retainProcessIds state selected now)
      (unselectedFlowEndpoints state selected) :=
  (removeEndpoints_decisions none now _ state).trans_kept
    (foldl_decisions removeUdpBindingLocked_decisions _ _)

theorem step_decisions {action : FlowAction} (noClock : action.fragmentClock = none)
    (notClear : action ≠ .clear) :
    RemovesDecisions state (state.step action) (removedEndpoints state action) := by
  cases action with
  | insertAt _ _ _ _ now =>
    exact insertAt_decisions ..
  | removeEndpoint endpointId now => exact removeEndpointLocked_decisions ..
  | removeEndpointsAt endpointIds eventTimestamp now =>
    exact removeEndpoints_decisions (some eventTimestamp) now endpointIds state
  | registerUdpBinding _ endpointId localAddress localPort =>
    unfold FlowState.step registerUdpBinding
    dsimp only
    split
    · exact .refl state
    · exact bindUdpEndpoint_decisions ..
  | replaceUdpOwnerBindings _ _ now =>
    exact replaceUdpOwnerBindings_decisions ..
  | associateUdpOutboundAt _ now => exact associateUdpOutboundAt_decisions ..
  | retainProcessIds _ now => exact retainProcessIds_decisions ..
  | recordFragmentDecisionAt key _ now | fragmentLookupAt key now => cases noClock
  | setTransportReflectedInterface protocol proxyAddress reflectedPort remoteAddress
      originalInterface =>
      unfold FlowState.step setTransportReflectedInterface
      dsimp only
      split
      · exact .refl state
      · exact .of_kept rfl id
  | outboundTransportTarget protocol localAddress localPort remoteAddress =>
    exact outboundTransportTarget_decisions ..
  | advanceUdpObservationWatermark => exact .of_kept rfl id
  | clear => exact absurd rfl notClear

/-! ### Recording -/

/-- A decision is refused: its endpoint is gone, or it would allow what is blocked. -/
def Refused (state : FlowState) (key : FragmentKey) (action : FragmentAction) (now : Instant) :
    Prop :=
  match action with
  | .block endpointId _ => state.endpointKeys.contains endpointId = false
  | .allow => ∃ decision endpointId target, state.fragmentDecisions.get? key = some decision ∧
      now < decision.expiresAt ∧ decision.action = .block endpointId target

/-- The key that gives way to a new one, if the table is full. -/
def evictedFor (state : FlowState) (key : FragmentKey) (now : Instant) : Option FragmentKey :=
  let decisions := (pruneFragmentState state now).fragmentDecisions
  if maximumFragmentDecisions ≤ decisions.size ∧ !decisions.contains key then
    evictionKey decisions
  else none

/-- The decisions that have not expired. -/
theorem get?_pruneFragmentState (now : Instant) (key : FragmentKey) :
    (pruneFragmentState state now).fragmentDecisions.get? key =
      (state.fragmentDecisions.get? key).filter fun decision =>
        decide (now < decision.expiresAt) :=
  get?_retain ..

variable {key : FragmentKey} {now : Instant} {action : FragmentAction}

theorem recordFragmentDecisionAt_refused {state : FlowState}
    (refused : Refused state key action now) :
    (recordFragmentDecisionAt state key action now).2 = pruneFragmentState state now := by
  unfold recordFragmentDecisionAt
  cases action with
  | block endpointId target =>
    have gone : (!(pruneFragmentState state now).endpointKeys.contains endpointId) = true := by
      rw [Bool.not_eq_true']
      exact refused
    rw [if_pos gone]
  | allow =>
    obtain ⟨decision, endpointId, target, found, fresh, _⟩ := refused
    have held : (pruneFragmentState state now).fragmentDecisions.get? key = some decision := by
      rw [get?_pruneFragmentState, found]
      simp [fresh]
    simp_all

/-- The decisions without the one that gives way. -/
theorem evicted_eq (state : FlowState) (key : FragmentKey) (now : Instant) :
    (if maximumFragmentDecisions ≤ (pruneFragmentState state now).fragmentDecisions.size ∧
        (!(pruneFragmentState state now).fragmentDecisions.contains key) = true then
      match evictionKey (pruneFragmentState state now).fragmentDecisions with
      | some evicted => (pruneFragmentState state now).fragmentDecisions.erase evicted
      | none => (pruneFragmentState state now).fragmentDecisions
      else (pruneFragmentState state now).fragmentDecisions) =
      (evictedFor state key now).elim (pruneFragmentState state now).fragmentDecisions
        (pruneFragmentState state now).fragmentDecisions.erase := by
  unfold evictedFor
  dsimp only
  split
  · cases evictionKey (pruneFragmentState state now).fragmentDecisions <;> rfl
  · rfl

theorem recordFragmentDecisionAt_accepted {state : FlowState}
    (accepted : ¬Refused state key action now) :
    recordFragmentDecisionAt state key action now =
      (.recorded,
        { pruneFragmentState state now with
          fragmentDecisions :=
            ((evictedFor state key now).elim (pruneFragmentState state now).fragmentDecisions
              (pruneFragmentState state now).fragmentDecisions.erase).insert key
                { action, expiresAt := now + fragmentDecisionLifetime } }) := by
  have result := congrArg
    (fun decisions : Table FragmentKey FragmentDecision =>
      (FragmentRecordResult.recorded,
        { pruneFragmentState state now with
          fragmentDecisions := decisions.insert key
            { action, expiresAt := now + fragmentDecisionLifetime } })) (evicted_eq state key now)
  unfold recordFragmentDecisionAt
  cases action with
  | block endpointId target =>
    have live : ¬(!(pruneFragmentState state now).endpointKeys.contains endpointId) = true := by
      rw [Bool.not_eq_true']
      exact accepted
    rw [if_neg live]
    exact result
  | allow =>
    dsimp only
    cases held : (pruneFragmentState state now).fragmentDecisions.get? key with
    | none => exact result
    | some decision =>
      rw [get?_pruneFragmentState, filter_eq_some_iff, decide_eq_true_eq] at held
      cases blocks : decision.action with
      | allow =>
        rw [map_some, blocks]
        exact result
      | block endpointId target =>
        exact absurd ⟨decision, endpointId, target, held.1, held.2, blocks⟩ accepted

/-! ### Eviction -/

/-- The order of addresses tells them apart, whatever follows. -/
theorem IpAddr.rank_append_inj {first second : IpAddr} {left right : List Nat}
    (same : first.rank ++ left = second.rank ++ right) : first = second ∧ left = right := by
  have octets : ∀ {count : Nat} {one two : Octets count},
      one.bytes.map UInt8.toNat ++ left = two.bytes.map UInt8.toNat ++ right →
        one = two ∧ left = right := by
    intro count one two equal
    obtain ⟨bytes, rest⟩ := append_inj equal (by simp)
    exact ⟨Octets.ext (map_injective_iff.mpr (fun _ _ => UInt8.toNat_inj.mp) bytes), rest⟩
  cases first with
  | v4 one =>
    cases second with
    | v4 two =>
      obtain ⟨equal, rest⟩ := octets (tail_eq_of_cons_eq same)
      exact ⟨congrArg IpAddr.v4 equal, rest⟩
    | v6 two => cases head_eq_of_cons_eq same
  | v6 one =>
    cases second with
    | v4 two => cases head_eq_of_cons_eq same
    | v6 two =>
      obtain ⟨equal, rest⟩ := octets (tail_eq_of_cons_eq same)
      exact ⟨congrArg IpAddr.v6 equal, rest⟩

theorem FragmentKey.rank_injective : Function.Injective FragmentKey.rank := by
  rintro ⟨_, _, _, _, outbound⟩ ⟨_, _, _, _, otherOutbound⟩ same
  unfold FragmentKey.rank at same
  rw [append_assoc, append_assoc] at same
  obtain ⟨rfl, same⟩ := IpAddr.rank_append_inj same
  obtain ⟨rfl, same⟩ := IpAddr.rank_append_inj same
  simp only [List.cons.injEq, UInt32.toNat_inj, UInt8.toNat_inj] at same
  cases outbound <;> cases otherOutbound <;> simp_all

/-- The key that gives way expires first, and is the least among those that expire with it. -/
theorem evictionKey_least {decisions : Table FragmentKey FragmentDecision}
    {evicted : FragmentKey} (chosen : evictionKey decisions = some evicted) :
    ∃ decision, decisions.get? evicted = some decision ∧
      ∀ {other otherDecision}, decisions.get? other = some otherDecision → other ≠ evicted →
        decision.expiresAt :: evicted.rank < otherDecision.expiresAt :: other.rank := by
  obtain ⟨⟨_, decision⟩, least, rfl⟩ := map_eq_some_iff.mp chosen
  refine ⟨decision, mem_toList.mp (argmin_mem least), ?_⟩
  intro other otherDecision found _
  have before := not_lt_of_mem_argmin (Table.mem_toList.mpr found) least
  grind [FragmentKey.rank_injective]

/-- What gives way at capacity is another key that has not expired. -/
theorem evictedFor_spec {state : FlowState} {key evicted : FragmentKey}
    (evicts : evictedFor state key now = some evicted) :
    maximumFragmentDecisions ≤ (pruneFragmentState state now).fragmentDecisions.size ∧
      evicted ≠ key ∧
      ∃ decision, (pruneFragmentState state now).fragmentDecisions.get? evicted = some decision ∧
        ∀ {other otherDecision},
          (pruneFragmentState state now).fragmentDecisions.get? other = some otherDecision →
          other ≠ evicted →
          decision.expiresAt :: evicted.rank < otherDecision.expiresAt :: other.rank := by
  unfold evictedFor at evicts
  dsimp only at evicts
  split at evicts
  · obtain ⟨decision, _, _⟩ := evictionKey_least evicts
    grind [Table.contains]
  · cases evicts

/-! ### What a call does to a decision -/

/-- How a decision ends: it expired, its endpoint was removed, another was recorded for its key,
it gave way at capacity, or the whole table was cleared. -/
inductive Ended (state : FlowState) (key : FragmentKey) (decision : FragmentDecision) :
    FlowAction → Prop where
  | expired {action : FlowAction} {now : Instant} (clock : action.fragmentClock = some now)
      (late : decision.expiresAt ≤ now) : Ended state key decision action
  | removed {action : FlowAction} {endpointId : UInt64}
      (removal : endpointId ∈ removedEndpoints state action)
      (blocks : decision.blocksFor endpointId = true) : Ended state key decision action
  | overwritten {fragmentAction : FragmentAction} {now : Instant}
      (accepted : ¬Refused state key fragmentAction now) :
      Ended state key decision (.recordFragmentDecisionAt key fragmentAction now)
  | evicted {other : FragmentKey} {fragmentAction : FragmentAction} {now : Instant}
      (accepted : ¬Refused state other fragmentAction now)
      (evicts : evictedFor state other now = some key) :
      Ended state key decision (.recordFragmentDecisionAt other fragmentAction now)
  | cleared : Ended state key decision .clear

/-- A decision was recorded by a call. -/
def Recorded (state : FlowState) (key : FragmentKey) (decision : FragmentDecision)
    (action : FlowAction) : Prop :=
  ∃ now, action = .recordFragmentDecisionAt key decision.action now ∧
    decision.expiresAt = now + fragmentDecisionLifetime ∧
    ¬Refused state key decision.action now

theorem get?_record_self {state : FlowState} (accepted : ¬Refused state key action now) :
    (recordFragmentDecisionAt state key action now).2.fragmentDecisions.get? key =
      some { action, expiresAt := now + fragmentDecisionLifetime } := by
  grind [recordFragmentDecisionAt_accepted]

theorem get?_record_other {state : FlowState} {key other : FragmentKey}
    (accepted : ¬Refused state key action now) (different : other ≠ key) :
    (recordFragmentDecisionAt state key action now).2.fragmentDecisions.get? other =
      if evictedFor state key now = some other then none
      else (state.fragmentDecisions.get? other).filter fun decision =>
        decide (now < decision.expiresAt) := by
  rw [recordFragmentDecisionAt_accepted accepted]
  rw [get?_insert, if_neg different, ← get?_pruneFragmentState]
  cases evictedFor state key now with
  | none => rfl
  | some =>
    grind

variable {decision : FragmentDecision}

/-- A decision that was not recorded by a call was there before and has not ended. -/
theorem get?_step {state : FlowState} {action : FlowAction} :
    (state.step action).fragmentDecisions.get? key = some decision ↔
      Recorded state key decision action ∨
        state.fragmentDecisions.get? key = some decision ∧ ¬Ended state key decision action := by
  -- A lookup and a refused record keep what has not expired.
  have pruned : ∀ {now}, action.fragmentClock = some now →
      (∀ {decision}, Ended state key decision action → decision.expiresAt ≤ now) →
      (∀ {decision}, ¬Recorded state key decision action) →
      (state.step action).fragmentDecisions.get? key =
        (state.fragmentDecisions.get? key).filter (fun decision =>
          decide (now < decision.expiresAt)) →
      ((state.step action).fragmentDecisions.get? key = some decision ↔
        Recorded state key decision action ∨
          state.fragmentDecisions.get? key = some decision ∧ ¬Ended state key decision action) := by
    intro now clock _ unrecorded result
    rw [result, filter_eq_some_iff, decide_eq_true_eq]
    constructor
    · grind
    · rintro (recorded | ⟨found, alive⟩)
      · exact absurd recorded unrecorded
      · exact ⟨found, not_le.mp fun late => alive (.expired clock late)⟩
  cases clock : action.fragmentClock with
  | none =>
    have unrecorded : ¬Recorded state key decision action := by
      rintro ⟨now, rfl, _⟩
      cases clock
    by_cases isClear : action = .clear
    · subst isClear
      constructor
      · nofun
      · rintro (recorded | ⟨_, alive⟩)
        · exact absurd recorded unrecorded
        · exact absurd .cleared alive
    · rw [(step_decisions state clock isClear).lookup]
      have survives : decision.survives (removedEndpoints state action) = true ↔
          ¬Ended state key decision action := by
        unfold survives
        rw [List.all_eq_true]
        constructor
        · intro all ended
          cases ended with
          | expired reads late =>
            rw [clock] at reads
            cases reads
          | removed removal blocks =>
            have kept := all _ removal
            rw [blocks] at kept
            cases kept
          | overwritten accepted | evicted accepted evicts => cases clock
          | cleared => exact isClear rfl
        · intro alive _ removal
          rw [Bool.not_eq_true', ← Bool.not_eq_true]
          exact fun blocks => alive (.removed removal blocks)
      simp_all
  | some now =>
    cases action with
    | fragmentLookupAt other clockNow =>
      refine pruned rfl ?_ ?_ (get?_pruneFragmentState state _ key)
      · intro decision ended
        cases ended with
        | expired reads late =>
          cases reads
          exact late
        | removed removal _ => cases removal
      · rintro decision ⟨now, impossible, _⟩
        cases impossible
    | recordFragmentDecisionAt other fragmentAction clockNow =>
      cases clock
      by_cases refused : Refused state other fragmentAction now
      · refine pruned rfl ?_ ?_ ?_
        · intro decision ended
          cases ended with
          | expired reads late =>
            cases reads
            exact late
          | removed removal _ => cases removal
          | overwritten accepted | evicted accepted evicts => exact absurd refused accepted
        · rintro decision ⟨now, same, _, accepted⟩
          cases same
          exact accepted refused
        · change (recordFragmentDecisionAt state other fragmentAction
            now).2.fragmentDecisions.get? key = _
          rw [recordFragmentDecisionAt_refused refused]
          exact get?_pruneFragmentState state now key
      · change (recordFragmentDecisionAt state other fragmentAction
          now).2.fragmentDecisions.get? key = some decision ↔ _
        by_cases same : key = other
        · subst same
          rw [get?_record_self refused]
          constructor
          · intro found
            cases found
            exact .inl ⟨now, rfl, rfl, refused⟩
          · rintro (⟨_, equal, lifetime, _⟩ | ⟨_, alive⟩)
            · cases equal
              rw [← lifetime]
            · exact absurd (.overwritten refused) alive
        · rw [get?_record_other refused same]
          constructor
          · intro found
            split at found
            · cases found
            rename_i kept
            rw [filter_eq_some_iff, decide_eq_true_eq] at found
            refine .inr ⟨found.1, fun ended => ?_⟩
            cases ended with
            | expired reads late =>
              cases reads
              exact absurd late (not_le.mpr found.2)
            | removed removal _ => cases removal
            | overwritten _ => exact same rfl
            | evicted _ evicts => exact kept evicts
          · rintro (⟨_, equal, _⟩ | ⟨found, alive⟩)
            · cases equal
              exact absurd rfl same
            · rw [if_neg fun evicts => alive (.evicted refused evicts), found, filter_some, if_pos]
              rw [decide_eq_true_eq]
              exact not_le.mp fun late => alive (.expired rfl late)
    | _ => cases clock

/-! ### Runs -/

theorem size_evicted_lt {state : FlowState}
    (bounded : (pruneFragmentState state now).fragmentDecisions.size ≤ maximumFragmentDecisions)
    (absent : (pruneFragmentState state now).fragmentDecisions.contains key = false) :
    ((evictedFor state key now).elim (pruneFragmentState state now).fragmentDecisions
      (pruneFragmentState state now).fragmentDecisions.erase).size < maximumFragmentDecisions := by
  cases evicts : evictedFor state key now with
  | some =>
    obtain ⟨_, _, _, found, _⟩ := evictedFor_spec evicts
    exact (size_erase_lt found).trans_le bounded
  | none =>
    rw [elim_none]
    by_contra full
    unfold evictedFor at evicts
    rw [if_pos ⟨not_lt.mp full, by rw [absent]; rfl⟩, evictionKey, map_eq_none_iff,
      argmin_eq_none] at evicts
    have empty : (pruneFragmentState state now).fragmentDecisions.size = 0 := by
      have length := congrArg List.length evicts
      simpa [Table.toList, size] using length
    rw [empty] at full
    exact full (by decide)

/-- No call leaves more decisions than the table may hold. -/
theorem size_step_le {state : FlowState} (action : FlowAction)
    (bounded : state.fragmentDecisions.size ≤ maximumFragmentDecisions) :
    (state.step action).fragmentDecisions.size ≤ maximumFragmentDecisions := by
  by_cases recorded : ∃ key fragmentAction now,
      action = .recordFragmentDecisionAt key fragmentAction now ∧
        ¬Refused state key fragmentAction now
  · obtain ⟨key, fragmentAction, now, rfl, accepted⟩ := recorded
    have pruned : (pruneFragmentState state now).fragmentDecisions.size ≤
        maximumFragmentDecisions :=
      (size_retain_le ..).trans bounded
    change (recordFragmentDecisionAt state key fragmentAction now).2.fragmentDecisions.size ≤ _
    rw [recordFragmentDecisionAt_accepted accepted, size_insert]
    cases held : (pruneFragmentState state now).fragmentDecisions.contains key with
    | false =>
      have room := size_evicted_lt pruned held
      split <;> omega
    | true =>
      have unevicted : evictedFor state key now = none := by
        simp [evictedFor, held]
      simp_all
  · refine (size_le_of_get? fun {key decision} found => ?_).trans bounded
    rcases get?_step.1 found with ⟨now, _, _, accepted⟩ | ⟨before, _⟩
    · simp_all
    · exact ⟨decision, before⟩

/-- Every blocking decision is about an endpoint of the table. -/
def BlocksLive (state : FlowState) : Prop :=
  ∀ {key decision endpointId target}, state.fragmentDecisions.get? key = some decision →
    decision.action = .block endpointId target → state.endpointKeys.contains endpointId = true

theorem endpointKeys_record (key : FragmentKey) (action : FragmentAction) (now : Instant) :
    (recordFragmentDecisionAt state key action now).2.endpointKeys = state.endpointKeys := by
  by_cases refused : Refused state key action now
  · rw [recordFragmentDecisionAt_refused refused]
    rfl
  · rw [recordFragmentDecisionAt_accepted refused]
    rfl

variable {endpointId : UInt64}

/-- An endpoint leaves the table only by a removal or when the table is cleared. -/
theorem contains_step {state : FlowState} {action : FlowAction}
    (live : state.endpointKeys.contains endpointId = true)
    (kept : endpointId ∉ removedEndpoints state action) (notClear : action ≠ .clear) :
    (state.step action).endpointKeys.contains endpointId = true := by
  cases clock : action.fragmentClock with
  | none => exact (step_decisions state clock notClear).endpoints live kept
  | some now =>
    cases action with
    | recordFragmentDecisionAt key fragmentAction now =>
      change (recordFragmentDecisionAt state key fragmentAction now).2.endpointKeys.contains
        endpointId = true
      rw [endpointKeys_record]
      exact live
    | fragmentLookupAt key now => exact live
    | _ => cases clock

theorem BlocksLive.step {state : FlowState} (blocksLive : BlocksLive state)
    (action : FlowAction) : BlocksLive (state.step action) := by
  intro key decision endpointId _ found blocks
  rcases get?_step.1 found with ⟨now, rfl, _, accepted⟩ | ⟨before, alive⟩
  · change (recordFragmentDecisionAt state key decision.action now).2.endpointKeys.contains
      endpointId = true
    rw [endpointKeys_record]
    rw [blocks] at accepted
    exact Bool.of_not_eq_false accepted
  · refine contains_step (blocksLive before blocks) ?_ ?_
    · intro removal
      refine alive (.removed removal ?_)
      rw [blocksFor, blocks]
      exact beq_self_eq_true endpointId
    · rintro rfl
      exact alive .cleared

/-- A decision that is held was recorded, and has not ended since. -/
theorem recorded_run {actions : List FlowAction}
    (found : (flowMachine.run actions).fragmentDecisions.get? key = some decision) :
    ∃ first action later, actions = first ++ action :: later ∧
      Recorded (flowMachine.run first) key decision action ∧
      flowMachine.Guarded (fun state next => ¬Ended state key decision next)
        (flowMachine.run (first ++ [action])) later := by
  induction actions using List.reverseRecOn with
  | nil => cases found
  | append_singleton actions last ih =>
    rw [run_concat] at found
    rcases get?_step.1 found with recorded | ⟨before, alive⟩
    · exact ⟨actions, last, [], rfl, recorded, trivial⟩
    obtain ⟨first, action, later, rfl, recorded, guarded⟩ := ih before
    refine ⟨first, action, later ++ [last], by simp, recorded, ?_⟩
    rw [guarded_concat]
    refine ⟨guarded, ?_⟩
    have reached : flowMachine.runFrom (flowMachine.run (first ++ [action])) later =
        flowMachine.run (first ++ action :: later) := by
      rw [Machine.run, Machine.run, ← runFrom_append]
      simp
    rw [reached]
    exact alive

/-- A decision stays through calls that do not end it. -/
theorem get?_runFrom {state : FlowState} (found : state.fragmentDecisions.get? key = some decision)
    {later : List FlowAction}
    (alive : flowMachine.Guarded (fun state next => ¬Ended state key decision next) state later) :
    (flowMachine.runFrom state later).fragmentDecisions.get? key = some decision := by
  refine @guarded_runFrom _ _ _ _
    (fun state => state.fragmentDecisions.get? key = some decision) ?_ _ found _ alive
  intro state _ held kept
  exact get?_step.2 (.inr ⟨held, kept⟩)

/-! ### Later fragments -/

/-- What a lookup finds: the action of a decision that has not expired. -/
theorem fragmentLookupAt_cases (key : FragmentKey) (now : Instant) :
    (fragmentLookupAt state key now).1 = .unknown ∨
      ∃ decision, state.fragmentDecisions.get? key = some decision ∧ now < decision.expiresAt ∧
        (fragmentLookupAt state key now).1 = match decision.action with
          | .allow => .allow
          | .block _ target => .block target := by
  unfold fragmentLookupAt
  dsimp only
  cases found : (pruneFragmentState state now).fragmentDecisions.get? key with
  | none => exact .inl rfl
  | some decision =>
    rw [get?_pruneFragmentState, filter_eq_some_iff] at found
    grind

variable {target : OriginalTarget}

theorem fragmentLookupAt_of_block {state : FlowState}
    (found : state.fragmentDecisions.get? key = some decision)
    (blocks : decision.action = .block endpointId target) (fresh : now < decision.expiresAt) :
    (fragmentLookupAt state key now).1 = .block target := by
  have kept : (pruneFragmentState state now).fragmentDecisions.get? key = some decision := by
    rw [get?_pruneFragmentState, found, filter_some, if_pos (decide_eq_true fresh)]
  unfold fragmentLookupAt
  dsimp only
  rw [kept, map_some, blocks]

/-- A packet is the first of several fragments. -/
def FirstFragment (packet : Bytes) (key : FragmentKey) : Prop :=
  ∃ parsed, parsePacket packet true = .ok (.tcp parsed) ∧ parsed.fragmentKey = some key

/-- A packet is a fragment behind the first. -/
def LaterFragment (packet : Bytes) (key : FragmentKey) : Prop :=
  parsePacket packet true = .ok (.laterFragment key)

theorem rewriteTcpPacket_later {packet : Bytes} (later : LaterFragment packet key)
    {state : FlowState} (found : state.fragmentDecisions.get? key = some decision)
    (blocks : decision.action = .block endpointId target) (fresh : now < decision.expiresAt)
    (proxyPort : UInt16) :
    (rewriteTcpPacket packet true proxyPort state now).result = .ok (.blocked target) := by
  have looked := fragmentLookupAt_of_block found blocks fresh
  unfold rewriteTcpPacket
  rw [later]
  dsimp only
  rw [looked]
  rfl

/-- Blocking on behalf of a live endpoint is recorded. -/
theorem recorded_rewriteSelected {packet : Bytes} {state : FlowState} {now : Instant}
    {parsed : ParsedTcpPacket} {key : FragmentKey} (first : parsed.fragmentKey = some key)
    {target : RewriteTarget} (live : state.endpointKeys.contains target.endpointId = true)
    (source destination : IpAddr) (sourcePort destinationPort : UInt16)
    (direction : PacketDirection) :
    (rewriteSelected packet state now parsed target source destination sourcePort destinationPort
        direction).result = .ok (.blocked target.original) ∧
      (rewriteSelected packet state now parsed target source destination sourcePort
        destinationPort direction).flowTable.fragmentDecisions.get? key =
        some ⟨.block target.endpointId target.original, now + fragmentDecisionLifetime⟩ := by
  unfold rewriteSelected
  rw [first]
  refine ⟨rfl, get?_record_self fun refused => ?_⟩
  rw [Refused, live] at refused
  cases refused

/-- A first fragment that is blocked leaves a decision about the later ones. -/
theorem rewriteTcpPacket_first {packet : Bytes} (first : FirstFragment packet key)
    {state : FlowState} (indexed : Indexed state) {proxyPort : UInt16}
    (blocked : (rewriteTcpPacket packet true proxyPort state now).result = .ok (.blocked target)) :
    ∃ endpointId,
      (rewriteTcpPacket packet true proxyPort state now).flowTable.fragmentDecisions.get? key =
        some ⟨.block endpointId target, now + fragmentDecisionLifetime⟩ := by
  obtain ⟨parsed, parses, fragment⟩ := first
  unfold rewriteTcpPacket at blocked ⊢
  rw [parses] at blocked ⊢
  simp only [Bool.not_true, Bool.false_eq_true, if_false] at blocked ⊢
  split at blocked
  · rename_i sourcePort destinationPort _ _
    unfold rewriteParsed at blocked ⊢
    split at blocked
    · rename_i rewrite reflected
      have live : state.endpointKeys.contains rewrite.endpointId = true := by
        split at reflected
        · obtain ⟨keys, _, owner, _⟩ := indexed.reflectedOwned reflected
          exact contains_iff.mpr ⟨keys, owner⟩
        · cases reflected
      obtain ⟨result, recorded⟩ := @recorded_rewriteSelected packet _ now _ _ fragment
        _ live rewrite.original.address.ip rewrite.originalLocalAddress
        rewrite.original.address.port rewrite.originalLocalPort
        (.restored rewrite.original rewrite.originalInterface)
      simp_all
    · split at blocked
      · cases blocked
      rename_i rewrite promoted looked
      have indexedAfter : Indexed promoted := by
        have kept := Indexed.of_edit (.promotion state tcpProtocol parsed.sourceAddress
          sourcePort parsed.destinationAddress destinationPort) indexed
        have after : promoted = (outboundTransportTarget state tcpProtocol parsed.sourceAddress
            sourcePort parsed.destinationAddress destinationPort).2 :=
          (congrArg Prod.snd looked).symm
        rw [after]
        exact kept
      have found : (outboundTransportTarget state tcpProtocol parsed.sourceAddress sourcePort
          parsed.destinationAddress destinationPort).1 = some rewrite :=
        congrArg Prod.fst looked
      obtain ⟨tracked, held, rfl⟩ := outboundTransportTarget_found found
      have after : (outboundTransportTarget state tcpProtocol parsed.sourceAddress sourcePort
          parsed.destinationAddress destinationPort).2 = promoted := congrArg Prod.snd looked
      rw [after] at held
      have live : promoted.endpointKeys.contains tracked.rewrite.endpointId = true := by
        obtain ⟨keys, _, owner, _⟩ := indexedAfter.owned held
        rw [indexedAfter.stamped held]
        exact contains_iff.mpr ⟨keys, owner⟩
      obtain ⟨result, recorded⟩ := @recorded_rewriteSelected packet _ now _ _
        fragment _ live tracked.rewrite.proxyAddress tracked.rewrite.proxyAddress
        tracked.rewrite.reflectedPort proxyPort
        (.redirected tracked.rewrite.original tracked.rewrite.proxyAddress
          tracked.rewrite.reflectedPort)
      simp_all
  · cases blocked
  · cases blocked

/-- The fragment decisions after a run of calls. -/
structure FragmentCache (actions : List FlowAction) : Prop where
  bounded : (flowMachine.run actions).fragmentDecisions.size ≤ maximumFragmentDecisions
  live : BlocksLive (flowMachine.run actions)
  /-- A lookup answers with a decision that was recorded, has not expired and has not ended
  since, in particular not by the removal of its endpoint. -/
  answers : ∀ key now, (fragmentLookupAt (flowMachine.run actions) key now).1 = .unknown ∨
    ∃ decision first action later, actions = first ++ action :: later ∧
      Recorded (flowMachine.run first) key decision action ∧
      flowMachine.Guarded (fun state next => ¬Ended state key decision next)
        (flowMachine.run (first ++ [action])) later ∧
      now < decision.expiresAt ∧
      (fragmentLookupAt (flowMachine.run actions) key now).1 = match decision.action with
        | .allow => .allow
        | .block _ target => .block target
  /-- What is blocked is not allowed later. -/
  blocked : ∀ {key decision endpointId target now},
    (flowMachine.run actions).fragmentDecisions.get? key = some decision →
    decision.action = .block endpointId target → now < decision.expiresAt →
    (recordFragmentDecisionAt (flowMachine.run actions) key .allow now).2.fragmentDecisions.get?
      key = some decision
  /-- A decision stays unless it ends. -/
  ends : ∀ {key decision},
    (flowMachine.run actions).fragmentDecisions.get? key = some decision → ∀ action,
    (flowMachine.run (actions ++ [action])).fragmentDecisions.get? key = some decision ∨
      Ended (flowMachine.run actions) key decision action
  /-- What gives way at capacity is the least entry, and nothing but it. -/
  evicts : ∀ {key action now evicted}, ¬Refused (flowMachine.run actions) key action now →
    evictedFor (flowMachine.run actions) key now = some evicted →
    (∃ decision,
      (pruneFragmentState (flowMachine.run actions) now).fragmentDecisions.get? evicted =
        some decision ∧
      ∀ {other otherDecision},
        (pruneFragmentState (flowMachine.run actions) now).fragmentDecisions.get? other =
          some otherDecision →
        other ≠ evicted →
        decision.expiresAt :: evicted.rank < otherDecision.expiresAt :: other.rank) ∧
    ∀ other, other ≠ key →
      (recordFragmentDecisionAt (flowMachine.run actions) key action
        now).2.fragmentDecisions.get? other =
        if other = evicted then none
        else (pruneFragmentState (flowMachine.run actions) now).fragmentDecisions.get? other
  /-- Later fragments share the fate of a first fragment that was blocked. -/
  later : ∀ {packet key proxyPort now target}, FirstFragment packet key →
    (rewriteTcpPacket packet true proxyPort (flowMachine.run actions) now).result =
      .ok (.blocked target) →
    ∃ endpointId, ∀ {following},
      flowMachine.Guarded
        (fun state next => ¬Ended state key
          ⟨.block endpointId target, now + fragmentDecisionLifetime⟩ next)
        (rewriteTcpPacket packet true proxyPort (flowMachine.run actions) now).flowTable
        following →
      ∀ {laterPacket}, LaterFragment laterPacket key → ∀ laterProxyPort laterNow,
        laterNow < now + fragmentDecisionLifetime →
        (rewriteTcpPacket laterPacket true laterProxyPort
          (flowMachine.runFrom
            (rewriteTcpPacket packet true proxyPort (flowMachine.run actions) now).flowTable
            following) laterNow).result = .ok (.blocked target)

/-- The cache of fragment decisions keeps its promises in every run. -/
theorem fragmentCache_run (actions : List FlowAction) : FragmentCache actions where
  bounded := by
    refine @invariant_run _ _ flowMachine
      (fun state => state.fragmentDecisions.size ≤ maximumFragmentDecisions) (Nat.zero_le _) ?_
      actions
    intro state action bounded
    exact size_step_le action bounded
  live := by
    refine @invariant_run _ _ flowMachine BlocksLive ?_ ?_ actions
    · nofun
    · intro state action blocksLive
      exact blocksLive.step action
  answers := by
    intro key now
    rcases fragmentLookupAt_cases (flowMachine.run actions) key now with
      unknown | ⟨decision, found, fresh, answer⟩
    · exact .inl unknown
    · obtain ⟨first, action, later, split, recorded, alive⟩ := recorded_run found
      exact .inr ⟨decision, first, action, later, split, recorded, alive, fresh, answer⟩
  blocked := by
    intro key decision endpointId target now found blocks fresh
    have refused : Refused (flowMachine.run actions) key .allow now :=
      ⟨decision, endpointId, target, found, fresh, blocks⟩
    rw [recordFragmentDecisionAt_refused refused, get?_pruneFragmentState, found,
      filter_some, if_pos (decide_eq_true fresh)]
  ends := by
    intro key decision found action
    rw [run_concat]
    by_cases ended : Ended (flowMachine.run actions) key decision action
    · exact .inr ended
    · exact .inl (get?_step.2 (.inr ⟨found, ended⟩))
  evicts := by
    intro key action now evicted accepted evicts
    obtain ⟨_, _, decision, found, least⟩ := evictedFor_spec evicts
    refine ⟨⟨decision, found, least⟩, fun other different => ?_⟩
    rw [get?_record_other accepted different, evicts, get?_pruneFragmentState]
    by_cases same : other = evicted
    · rw [if_pos (congrArg some same.symm), if_pos same]
    · rw [if_neg fun equal => same (Option.some.inj equal).symm, if_neg same]
  later := by
    intro _ key _ now target first blocked
    obtain ⟨endpointId, recorded⟩ := rewriteTcpPacket_first first (indexed_run actions) blocked
    refine ⟨endpointId, fun alive _ later laterProxyPort _ fresh => ?_⟩
    exact rewriteTcpPacket_later later (get?_runFrom recorded alive) rfl fresh laterProxyPort

end SprakCapture.ProcessCapture
