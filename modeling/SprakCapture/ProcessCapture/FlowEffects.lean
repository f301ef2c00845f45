import SprakCapture.ProcessCapture.FlowTable

/-!
# What the flow-table operations change

Each operation of the table is a chain of a few edits (`FlowEdit`), all made
under the lock. For every edit this module states its effect on the three flow
indices as lookups after in terms of lookups before, so that invariants are
proved against effects and never unfold an operation again.
-/

namespace SprakCapture.ProcessCapture

open Data List

/-- The key pairs an endpoint owns; none for an unknown endpoint. -/
def ownedKeys (state : FlowState) (endpointId : UInt64) : List (OutboundKey × ReflectedKey) :=
  (state.endpointKeys.get? endpointId).getD []

/-- The flow indices of two states agree. -/
structure SameIndex (before after : FlowState) : Prop where
  outbound : after.outbound = before.outbound
  reflected : after.reflected = before.reflected
  endpointKeys : after.endpointKeys = before.endpointKeys

/-- The binding indices of two states agree. -/
structure SameBindings (before after : FlowState) : Prop where
  udpBindings : after.udpBindings = before.udpBindings
  udpBindingKeys : after.udpBindingKeys = before.udpBindingKeys

/-- An endpoint left the flow indices together with all its pairs. -/
structure RemovalEffect (before after : FlowState) (endpointId : UInt64) : Prop where
  outbound : ∀ key, after.outbound.get? key =
    if key ∈ (ownedKeys before endpointId).map Prod.fst then none else before.outbound.get? key
  reflected : ∀ key, after.reflected.get? key =
    if key ∈ (ownedKeys before endpointId).map Prod.snd then none else before.reflected.get? key
  endpointKeys : ∀ other, after.endpointKeys.get? other =
    if other = endpointId then none else before.endpointKeys.get? other

/-- A flow entered the flow indices under a reflected key that was free. -/
structure InsertionEffect (before after : FlowState) (flow : CaptureFlow) (proxyAddress : IpAddr)
    (reflectedPort : UInt16) (activeFromCounter : Option Int) : Prop where
  free : before.reflected.get? (reflectedKeyFor flow proxyAddress reflectedPort) = none
  outbound : ∀ key, after.outbound.get? key =
    if key = flow.outboundKey then
      some ⟨flow.endpointId, rewriteTargetFor flow proxyAddress reflectedPort, activeFromCounter⟩
    else before.outbound.get? key
  reflected : ∀ key, after.reflected.get? key =
    if key = reflectedKeyFor flow proxyAddress reflectedPort then
      some (rewriteTargetFor flow proxyAddress reflectedPort)
    else before.reflected.get? key
  endpointKeys : ∀ other, after.endpointKeys.get? other =
    if other = flow.endpointId then
      some (ownedKeys before flow.endpointId ++
        [(flow.outboundKey, reflectedKeyFor flow proxyAddress reflectedPort)])
    else before.endpointKeys.get? other

/-- A tuple registered under the wildcard address took its real local address. -/
structure PromotionEffect (before after : FlowState) (key wildcardKey : OutboundKey)
    (tracked : TrackedTarget) (keys : List (OutboundKey × ReflectedKey))
    (reflectedKey : ReflectedKey) : Prop where
  wildcard : wildcardKey = { key with localAddress := key.localAddress.wildcard }
  absent : before.outbound.get? key = none
  present : before.outbound.get? wildcardKey = some tracked
  owner : before.endpointKeys.get? tracked.endpointId = some keys
  found : keys.find? (fun pair => pair.1 == wildcardKey) = some (wildcardKey, reflectedKey)
  outbound : ∀ other, after.outbound.get? other =
    if other = key then
      some { tracked with
        rewrite := { tracked.rewrite with originalLocalAddress := key.localAddress } }
    else if other = wildcardKey then none else before.outbound.get? other
  reflected : ∀ other, after.reflected.get? other =
    if other = reflectedKey then
      some { tracked.rewrite with originalLocalAddress := key.localAddress }
    else before.reflected.get? other
  endpointKeys : ∀ other, after.endpointKeys.get? other =
    if other = tracked.endpointId then some (replaceFirstKey wildcardKey key keys)
    else before.endpointKeys.get? other

/-- The interface of one reflected key was recorded; the outbound side is written
for every pair of the endpoint that owns the key. -/
structure InterfaceEffect (before after : FlowState) (key : ReflectedKey)
    (existing : RewriteTarget) (originalInterface : NetworkInterface)
    (scopedOriginal : OriginalTarget) : Prop where
  present : before.reflected.get? key = some existing
  scope : scopedOriginal = withIpv6Scope existing.original originalInterface.interfaceIndex
  outbound : ∀ other, after.outbound.get? other =
    if other ∈ (ownedKeys before existing.endpointId).map Prod.fst then
      (before.outbound.get? other).map fun target =>
        { target with rewrite := target.rewrite.recordInterface originalInterface scopedOriginal }
    else before.outbound.get? other
  reflected : ∀ other, after.reflected.get? other =
    if other = key then some (existing.recordInterface originalInterface scopedOriginal)
    else before.reflected.get? other
  endpointKeys : after.endpointKeys = before.endpointKeys

/-! ### Removal -/

/-- The loop over an endpoint's pairs erases exactly those pairs. -/
theorem removeKeyPairs_effect (now : Instant) (counter : Option Int)
    (keys : List (OutboundKey × ReflectedKey)) (state : FlowState) :
    let after := keys.foldl (removeKeyPair now counter) state
    (∀ key, after.outbound.get? key =
      if key ∈ keys.map Prod.fst then none else state.outbound.get? key) ∧
    (∀ key, after.reflected.get? key =
      if key ∈ keys.map Prod.snd then none else state.reflected.get? key) ∧
    after.endpointKeys = state.endpointKeys ∧ SameBindings state after := by
  induction keys generalizing state with
  | nil => simp [SameBindings.mk]
  | cons pair _ ih =>
    obtain ⟨outbound, reflected, endpointKeys, bindings⟩ :=
      ih (removeKeyPair now counter state pair)
    refine ⟨?_, ?_, endpointKeys, bindings.1, bindings.2⟩
    · intro key
      rw [foldl_cons, outbound key]
      simp only [removeKeyPair]
      grind
    · intro key
      rw [foldl_cons, reflected key]
      simp only [removeKeyPair]
      grind

variable {invariant : FlowState → Prop} (state : FlowState) (endpointId : UInt64)

theorem fragmentDecisions_removeUdpBindingLocked :
    (removeUdpBindingLocked state endpointId).fragmentDecisions = state.fragmentDecisions := by
  grind [removeUdpBindingLocked]

theorem removeUdpBindingLocked_sameIndex :
    SameIndex state (removeUdpBindingLocked state endpointId) := by
  unfold removeUdpBindingLocked
  split
  · exact ⟨rfl, rfl, rfl⟩
  · split <;> exact ⟨rfl, rfl, rfl⟩

theorem fragmentDecisions_removeEndpointLocked (counter : Option Int) (now : Instant) :
    (removeEndpointLocked state endpointId counter now).fragmentDecisions =
      state.fragmentDecisions.retain fun _ decision => !decision.blocksFor endpointId := by
  have pairs (keys : List (OutboundKey × ReflectedKey)) (start : FlowState) :
      (keys.foldl (removeKeyPair now counter) start).fragmentDecisions =
        start.fragmentDecisions := by
    induction keys generalizing start with
    | nil => rfl
    | cons _ _ ih => exact ih _
  grind [removeEndpointLocked, removeEndpointKeys, fragmentDecisions_removeUdpBindingLocked]

variable (flow : CaptureFlow) (request : UdpAssociationRequest) (protocol : UInt8)
  (localAddress proxyAddress : IpAddr) (proxyPort localPort reflectedPort : UInt16)
  (counter : Option Int) (now : Instant)

theorem removeEndpointKeys_effect :
    RemovalEffect state (removeEndpointKeys state endpointId counter now) endpointId ∧
      SameBindings state (removeEndpointKeys state endpointId counter now) := by
  unfold removeEndpointKeys
  split
  · rename_i absent
    have noKeys : ownedKeys state endpointId = [] := by simp [ownedKeys, absent]
    refine ⟨⟨?_, ?_, ?_⟩, rfl, rfl⟩
    · simp [noKeys]
    · simp [noKeys]
    simp_all
  · rename_i keys owner
    have owned : ownedKeys state endpointId = keys := by simp [ownedKeys, owner]
    obtain ⟨outbound, reflected, endpointKeys, bindings⟩ := removeKeyPairs_effect now counter keys
      { state with endpointKeys := state.endpointKeys.erase endpointId }
    refine ⟨⟨?_, ?_, ?_⟩, bindings.1, bindings.2⟩
    · rw [owned]
      exact outbound
    · rw [owned]
      exact reflected
    grind

/-- Removing an endpoint clears its pairs from both flow indices. -/
theorem removeEndpointLocked_effect :
    RemovalEffect state (removeEndpointLocked state endpointId counter now) endpointId := by
  have effect := (removeEndpointKeys_effect state endpointId counter now).1
  have same := removeUdpBindingLocked_sameIndex
    (removeEndpointKeys state endpointId counter now) endpointId
  refine ⟨?_, ?_, ?_⟩
  · intro key
    rw [← effect.outbound key, ← same.outbound]
    rfl
  · intro key
    rw [← effect.reflected key, ← same.reflected]
    rfl
  · intro other
    rw [← effect.endpointKeys other, ← same.endpointKeys]
    rfl

/-! ### Insertion -/

theorem searchReflectedPort_free (reflected : Table ReflectedKey RewriteTarget)
    (localAddress remoteAddress : IpAddr) (proxyPort : UInt16) (protocol : UInt8)
    (remaining : Nat) (start found next : UInt16)
    (search : searchReflectedPort reflected localAddress remoteAddress proxyPort protocol
      remaining start = (some found, next)) :
    found ≠ proxyPort ∧
      reflected.get? { localAddress, localPort := found, remoteAddress, protocol } = none := by
  induction remaining generalizing start with
  | zero => simp [searchReflectedPort] at search
  | succ remaining ih =>
    unfold searchReflectedPort at search
    dsimp only at search
    split at search
    · simp_all
    · exact ih _ search

/-- `indexFlow` either refuses and keeps the flow indices, or extends all three. -/
theorem indexFlow_effect :
    ((indexFlow state flow proxyAddress proxyPort counter).1 = false ∧
        SameIndex state (indexFlow state flow proxyAddress proxyPort counter).2) ∨
      ∃ reflectedPort, (indexFlow state flow proxyAddress proxyPort counter).1 = true ∧
        InsertionEffect state (indexFlow state flow proxyAddress proxyPort counter).2 flow
          proxyAddress reflectedPort counter := by
  unfold indexFlow
  split
  · rename_i after allocated
    left
    unfold allocateReflectedPort at allocated
    simp only [Prod.mk.injEq] at allocated
    obtain ⟨_, rfl⟩ := allocated
    exact ⟨rfl, rfl, rfl, rfl⟩
  · rename_i reflectedPort after allocated
    right
    unfold allocateReflectedPort at allocated
    simp only [Prod.mk.injEq] at allocated
    obtain ⟨found, rfl⟩ := allocated
    have search := searchReflectedPort_free state.reflected proxyAddress proxyAddress proxyPort
      flow.protocol 65535 state.nextReflectedPort reflectedPort
      (searchReflectedPort state.reflected proxyAddress proxyAddress proxyPort flow.protocol
        65535 state.nextReflectedPort).2 (Prod.ext found rfl)
    refine ⟨reflectedPort, rfl, search.2, ?_, ?_, ?_⟩
    · exact fun key => Table.get?_insert _ _ _ _
    · exact fun key => Table.get?_insert _ _ _ _
    · exact fun _ => Table.get?_insert _ _ _ _

theorem indexFlow_sameBindings :
    SameBindings state (indexFlow state flow proxyAddress proxyPort counter).2 := by
  unfold indexFlow
  split
  · rename_i after allocated
    have unchanged := congrArg Prod.snd allocated
    subst unchanged
    exact ⟨rfl, rfl⟩
  · rename_i reflectedPort after allocated
    have unchanged := congrArg Prod.snd allocated
    subst unchanged
    exact ⟨rfl, rfl⟩

/-- What `insertAt` does: nothing without a usable listener; otherwise it releases the
endpoint of a TCP flow and then refuses a tuple the endpoint already has, takes the
tuple over from another endpoint, or uses a free one. -/
theorem insertAt_cases (configuredProxyAddress : IpAddr) (proxyPort : UInt16) (counter : Option Int)
    (now : Instant) :
    (resolveProxyAddress flow.localAddress configuredProxyAddress = none ∧
        insertAt state flow configuredProxyAddress proxyPort counter now = (false, state)) ∨
      ∃ proxyAddress released,
        resolveProxyAddress flow.localAddress configuredProxyAddress = some proxyAddress ∧
        released = releaseTcpEndpoint state flow now ∧
        ((∃ previous, released.outbound.get? flow.outboundKey = some previous ∧
            previous.endpointId = flow.endpointId ∧
            insertAt state flow configuredProxyAddress proxyPort counter now = (false, released)) ∨
          (∃ previous, released.outbound.get? flow.outboundKey = some previous ∧
            previous.endpointId ≠ flow.endpointId ∧
            insertAt state flow configuredProxyAddress proxyPort counter now =
              indexFlow
                (removeEndpointLocked released previous.endpointId (takeoverCounter flow counter)
                  now)
                flow proxyAddress proxyPort counter) ∨
          (released.outbound.get? flow.outboundKey = none ∧
            insertAt state flow configuredProxyAddress proxyPort counter now =
              indexFlow released flow proxyAddress proxyPort counter)) := by
  grind [insertAt]

/-! ### Promotion -/

variable (remoteAddress : IpAddr) (remotePort : UInt16)

/-- A lookup either keeps the flow indices or promotes one wildcard tuple. -/
theorem outboundTransportTarget_effect :
    SameIndex state (outboundTransportTarget state protocol localAddress localPort remoteAddress
        remotePort).2 ∨
      ∃ wildcardKey tracked keys reflectedKey,
        PromotionEffect state
          (outboundTransportTarget state protocol localAddress localPort remoteAddress remotePort).2
          ⟨normalizeIpAddress localAddress, localPort, normalizeIpAddress remoteAddress,
            remotePort, protocol⟩
          wildcardKey tracked keys reflectedKey := by
  unfold outboundTransportTarget
  dsimp only
  split
  · exact .inl ⟨rfl, rfl, rfl⟩
  rename_i absent
  split
  · exact .inl ⟨rfl, rfl, rfl⟩
  rename_i tracked present
  split
  · exact .inl ⟨rfl, rfl, rfl⟩
  rename_i keys owner
  split
  · exact .inl ⟨rfl, rfl, rfl⟩
  rename_i outboundKey reflectedKey found
  have foundKey := find?_some found
  simp only [beq_iff_eq] at foundKey
  subst foundKey
  refine .inr ⟨_, tracked, keys, reflectedKey, rfl, absent, present, owner, found, ?_, ?_, ?_⟩
  · grind
  · exact fun _ => Table.get?_insert _ _ _ _
  grind

/-- The rewrite record that a lookup returns is in the table afterwards. -/
theorem outboundTransportTarget_found {state : FlowState} {protocol : UInt8}
    {localAddress : IpAddr} {localPort : UInt16} {remoteAddress : IpAddr} {remotePort : UInt16}
    {target : RewriteTarget}
    (found : (outboundTransportTarget state protocol localAddress localPort remoteAddress
      remotePort).1 = some target) :
    ∃ tracked, (outboundTransportTarget state protocol localAddress localPort remoteAddress
        remotePort).2.outbound.get?
          ⟨normalizeIpAddress localAddress, localPort, normalizeIpAddress remoteAddress,
            remotePort, protocol⟩ = some tracked ∧ tracked.rewrite = target := by
  unfold outboundTransportTarget at found ⊢
  dsimp only at found ⊢
  split at found
  · simp_all
  grind

theorem outboundTransportTarget_sameBindings :
    SameBindings state (outboundTransportTarget state protocol localAddress localPort remoteAddress
      remotePort).2 := by
  unfold outboundTransportTarget
  dsimp only
  repeat' split
  all_goals exact ⟨rfl, rfl⟩

/-! ### Recording an interface -/

theorem get?_foldl_modify {Key Value : Type} [DecidableEq Key] (update : Value → Value)
    (idempotent : ∀ value, update (update value) = update value) (keys : List Key)
    (table : Table Key Value) (key : Key) :
    (keys.foldl (fun table key => table.modify key update) table).get? key =
      if key ∈ keys then (table.get? key).map update else table.get? key := by
  induction keys generalizing table with
  | nil => simp
  | cons first _ ih =>
    rw [foldl_cons, ih, Table.get?_modify]
    by_cases same : key = first
    · subst same
      simp [Function.comp_def, idempotent]
    · simp [same]

variable (originalInterface : NetworkInterface)

theorem setTransportReflectedInterface_effect :
    (setTransportReflectedInterface state protocol proxyAddress reflectedPort remoteAddress
        originalInterface).2 = state ∨
      ∃ existing scopedOriginal,
        InterfaceEffect state
          (setTransportReflectedInterface state protocol proxyAddress reflectedPort remoteAddress
            originalInterface).2
          ⟨normalizeIpAddress proxyAddress, reflectedPort, normalizeIpAddress remoteAddress,
            protocol⟩
          existing originalInterface scopedOriginal := by
  unfold setTransportReflectedInterface
  dsimp only
  split
  · exact .inl rfl
  rename_i existing present
  refine .inr ⟨existing, _, present, rfl, ?_, ?_, rfl⟩
  · intro other
    refine get?_foldl_modify (fun target : TrackedTarget => { target with
      rewrite := target.rewrite.recordInterface originalInterface
        (withIpv6Scope existing.original originalInterface.interfaceIndex) }) ?_ _ _ other
    exact fun _ => rfl
  grind

theorem setTransportReflectedInterface_sameBindings :
    SameBindings state (setTransportReflectedInterface state protocol proxyAddress reflectedPort
      remoteAddress originalInterface).2 := by
  unfold setTransportReflectedInterface
  dsimp only
  split <;> exact ⟨rfl, rfl⟩

/-! ### Operations as chains of edits -/

/-- One edit of the table; recording an interface and clearing are kept apart. -/
inductive FlowEdit : FlowState → FlowState → Prop where
  | removal (state : FlowState) (endpointId : UInt64) (counter : Option Int) (now : Instant) :
      FlowEdit state (removeEndpointLocked state endpointId counter now)
  | insertion (state : FlowState) (flow : CaptureFlow) (configuredProxyAddress : IpAddr)
      (proxyPort : UInt16) (counter : Option Int) (now : Instant) :
      FlowEdit state (insertAt state flow configuredProxyAddress proxyPort counter now).2
  | promotion (state : FlowState) (protocol : UInt8) (localAddress : IpAddr) (localPort : UInt16)
      (remoteAddress : IpAddr) (remotePort : UInt16) :
      FlowEdit state (outboundTransportTarget state protocol localAddress localPort remoteAddress
        remotePort).2
  | binding (state : FlowState) (processId : UInt32) (endpointId : UInt64) (key : UdpBindingKey) :
      FlowEdit state (bindUdpEndpoint state processId endpointId key)
  | unbinding (state : FlowState) (endpointId : UInt64) :
      FlowEdit state (removeUdpBindingLocked state endpointId)
  | fragments (state : FlowState) (decisions : Table FragmentKey FragmentDecision) :
      FlowEdit state { state with fragmentDecisions := decisions }
  | watermark (state : FlowState) (counter : Int) :
      FlowEdit state (advanceUdpObservationWatermark state counter)

/-- Zero or more edits. -/
abbrev FlowEdits := Relation.ReflTransGen FlowEdit

/-- A fold of single edits is a chain of edits. -/
theorem FlowEdits.foldl {Item : Type} {operation : FlowState → Item → FlowState}
    (single : ∀ state item, FlowEdits state (operation state item)) (items : List Item)
    (state : FlowState) : FlowEdits state (items.foldl operation state) := by
  induction items generalizing state with
  | nil => exact .refl
  | cons item _ ih => exact (single state item).trans (ih (operation state item))

/-- A fact preserved by every edit is preserved by a chain of edits. -/
theorem FlowEdits.preserve
    (preserved : ∀ {before after}, FlowEdit before after → invariant before → invariant after)
    {before after : FlowState} (edits : FlowEdits before after) (holds : invariant before) :
    invariant after := by
  induction edits with
  | refl => exact holds
  | tail _ edit ih => exact preserved edit ih

theorem existingUdpTarget_edits : FlowEdits state (existingUdpTarget state request now).2 := by
  unfold existingUdpTarget
  split
  · exact .single (.promotion ..)
  · exact .refl

theorem associateUdpOutboundAt_edits :
    FlowEdits state (associateUdpOutboundAt state request now).2 := by
  unfold associateUdpOutboundAt
  have looked := existingUdpTarget_edits state request now
  dsimp only
  split
  · exact looked
  split
  · exact looked
  split
  · exact looked
  rename_i flow _
  have inserted := looked.tail (.insertion _ flow request.configuredProxyAddress
    request.proxyPort request.capturedAtCounter now)
  have lookedAgain := inserted.trans (existingUdpTarget_edits _
    { request with
      localAddress := normalizeIpAddress request.localAddress
      remoteAddress := normalizeIpAddress request.remoteAddress } now)
  split
  · exact lookedAgain
  · exact lookedAgain.tail (.removal _ _ none now)

theorem replaceUdpOwnerBindings_edits (removed : List UInt64) (additions : List OwnerAddition)
    (now : Instant) : FlowEdits state (replaceUdpOwnerBindings state removed additions now) := by
  refine Relation.ReflTransGen.trans
    (FlowEdits.foldl (fun state endpointId => .single (.removal state endpointId none now))
      removed state)
    (FlowEdits.foldl (fun state _ => ?_) additions _)
  dsimp only
  split
  · exact .refl
  · exact .single (.binding ..)

theorem retainProcessIds_edits (selected : List UInt32) (now : Instant) :
    FlowEdits state (retainProcessIds state selected now) :=
  Relation.ReflTransGen.trans
    (FlowEdits.foldl (fun state endpointId => .single (.removal state endpointId none now)) _ state)
    (FlowEdits.foldl (fun state endpointId => .single (.unbinding state endpointId)) _ _)

theorem recordFragmentDecisionAt_edits (key : FragmentKey) (action : FragmentAction)
    (now : Instant) : FlowEdits state (recordFragmentDecisionAt state key action now).2 := by
  unfold recordFragmentDecisionAt
  dsimp only
  repeat' split
  all_goals exact .single (.fragments _ _)

/-- Every call but `clear` and the recording of an interface is a chain of edits. -/
theorem step_edits (action : FlowAction) (notClear : action ≠ .clear)
    (notInterface : ∀ protocol proxyAddress reflectedPort remoteAddress originalInterface,
      action ≠ .setTransportReflectedInterface protocol proxyAddress reflectedPort remoteAddress
        originalInterface) : FlowEdits state (state.step action) := by
  cases action with
  | insertAt _ _ _ _ now =>
    exact .single (.insertion ..)
  | removeEndpoint endpointId now => exact .single (.removal ..)
  | removeEndpointsAt endpointIds eventTimestamp now =>
    exact FlowEdits.foldl
      (fun state endpointId => .single (.removal state endpointId (some eventTimestamp) now))
      endpointIds state
  | registerUdpBinding _ endpointId localAddress localPort =>
    unfold FlowState.step registerUdpBinding
    dsimp only
    split
    · exact .refl
    · exact .single (.binding ..)
  | replaceUdpOwnerBindings _ _ now =>
    exact replaceUdpOwnerBindings_edits ..
  | associateUdpOutboundAt _ now => exact associateUdpOutboundAt_edits ..
  | retainProcessIds _ now => exact retainProcessIds_edits ..
  | recordFragmentDecisionAt key _ now => exact recordFragmentDecisionAt_edits ..
  | fragmentLookupAt key now => exact .single (.fragments ..)
  | setTransportReflectedInterface protocol proxyAddress reflectedPort remoteAddress
      originalInterface => exact absurd rfl (notInterface _ _ _ _ _)
  | outboundTransportTarget protocol localAddress localPort remoteAddress =>
    exact .single (.promotion ..)
  | advanceUdpObservationWatermark => exact .single (.watermark ..)
  | clear => exact absurd rfl notClear

/-- Induction rule for calls: a fact of the empty table that survives every edit and,
should the call record an interface, that call, survives the call. -/
theorem step_preserve (initial : invariant FlowState.default)
    (edited : ∀ {before after}, FlowEdit before after → invariant before → invariant after)
    {state : FlowState} (holds : invariant state) (action : FlowAction)
    (recorded : ∀ protocol proxyAddress reflectedPort remoteAddress originalInterface,
      action = .setTransportReflectedInterface protocol proxyAddress reflectedPort remoteAddress
        originalInterface →
      invariant (setTransportReflectedInterface state protocol proxyAddress reflectedPort
        remoteAddress originalInterface).2) : invariant (state.step action) := by
  by_cases isClear : action = .clear
  · subst isClear
    exact initial
  by_cases isInterface : ∃ protocol proxyAddress reflectedPort remoteAddress originalInterface,
      action = .setTransportReflectedInterface protocol proxyAddress reflectedPort remoteAddress
        originalInterface
  · obtain ⟨protocol, proxyAddress, reflectedPort, remoteAddress, originalInterface, rfl⟩ :=
      isInterface
    exact recorded protocol proxyAddress reflectedPort remoteAddress originalInterface rfl
  · refine (step_edits state action isClear ?_).preserve edited holds
    simp_all

end SprakCapture.ProcessCapture
