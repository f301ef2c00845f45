import SprakCapture.ProcessCapture.FlowReclamation
import SprakCapture.ProcessCapture.FragmentDecisions
import SprakCapture.ProcessCapture.OwnerRegistry

/-!
# Agreement of the owner registry with the flow table

A number in the registry is of use only while its binding is in the flow table. What a
call of the table does to bindings and flows is stated once (`Changes`), and the
invariant `Registered` survives every change that removes no registered endpoint.
Some events do remove one: a connection that takes a tuple over from a registered
endpoint. `Undisturbed` says when an event is none of them.
-/

namespace SprakCapture.ProcessCapture

open Data List Data.Table CaptureFlow OwnerRuntime DriverAddress

/-! ### What calls change -/

/-- The process of a flow. -/
def TrackedTarget.processId (tracked : TrackedTarget) : UInt32 := tracked.rewrite.original.processId

/-- Only the bindings of `removed` endpoints went away, and every flow was there before, under
some tuple, or is one of `added`. -/
structure Changes (before after : FlowState) (removed : List UInt64)
    (added : List (UInt64 × UInt32)) : Prop where
  indexed : Indexed before → Indexed after
  bound : Bound before → Bound after
  binds : Bound before → ∀ {key endpointId processId}, endpointId ∉ removed →
    Binds before key endpointId processId → Binds after key endpointId processId
  flows : ∀ {key tracked}, after.outbound.get? key = some tracked →
    (tracked.endpointId, tracked.processId) ∈ added ∨
      ∃ otherKey other, before.outbound.get? otherKey = some other ∧
        other.endpointId = tracked.endpointId ∧ other.processId = tracked.processId

namespace Changes

variable {before middle after : FlowState} {removed otherRemoved : List UInt64}
  {added otherAdded : List (UInt64 × UInt32)}

theorem refl (state : FlowState) : Changes state state [] [] :=
  ⟨id, id, fun _ _ _ _ _ binds => binds, fun found => .inr ⟨_, _, found, rfl, rfl⟩⟩

theorem trans (first : Changes before middle removed added)
    (second : Changes middle after otherRemoved otherAdded) :
    Changes before after (removed ++ otherRemoved) (added ++ otherAdded) where
  indexed := fun indexed => second.indexed (first.indexed indexed)
  bound := fun bound => second.bound (first.bound bound)
  binds := by
    intro bound key _ _ kept binds
    rw [mem_append, not_or] at kept
    exact second.binds (first.bound bound) kept.2 (first.binds bound kept.1 binds)
  flows := by
    intro key _ found
    rw [mem_append]
    rcases second.flows found with new | ⟨_, _, held, endpoint, process⟩
    · exact .inl (.inr new)
    rcases first.flows held with new | ⟨otherKey, first, held, firstEndpoint, firstProcess⟩
    · refine .inl (.inl ?_)
      rw [← endpoint, ← process]
      exact new
    · exact .inr ⟨otherKey, first, held, firstEndpoint.trans endpoint, firstProcess.trans process⟩

/-- A call after another one that removes and adds nothing. -/
theorem trans_kept (first : Changes before middle removed added)
    (second : Changes middle after [] []) : Changes before after removed added := by
  have both := first.trans second
  rwa [append_nil, append_nil] at both

end Changes

variable {endpointId : UInt64} {processId : UInt32}

theorem binds_congr {before after : FlowState} (same : SameBindings before after)
    {key : UdpBindingKey} :
    Binds after key endpointId processId ↔ Binds before key endpointId processId := by
  unfold Binds
  rw [same.udpBindings]

theorem removeEndpointLocked_changes (state : FlowState) (endpointId : UInt64)
    (counter : Option Int) (now : Instant) :
    Changes state (removeEndpointLocked state endpointId counter now) [endpointId] [] where
  indexed := fun indexed => indexed.of_removal (removeEndpointLocked_effect ..)
  bound := fun bound => bound.of_removeEndpointLocked ..
  binds := by
    intro bound key other processId kept binds
    have same := (removeEndpointKeys_effect state endpointId counter now).2
    have unbinding := removeUdpBindingLocked_effect (bound.of_sameBindings same) endpointId
    have still := (unbinding.binds key other processId).mpr
      ⟨fun equal => kept (equal ▸ mem_singleton_self _), (binds_congr same).mpr binds⟩
    exact still
  flows := by
    intro key tracked found
    rw [(removeEndpointLocked_effect state endpointId counter now).outbound] at found
    split at found
    · cases found
    · exact .inr ⟨key, tracked, found, rfl, rfl⟩

theorem removeEndpoints_changes (counter : Option Int) (now : Instant)
    (endpointIds : List UInt64) (state : FlowState) :
    Changes state
      (endpointIds.foldl
        (fun state endpointId => removeEndpointLocked state endpointId counter now) state)
      endpointIds [] := by
  induction endpointIds generalizing state with
  | nil => exact .refl state
  | cons endpointId _ ih =>
    exact (removeEndpointLocked_changes state endpointId counter now).trans (ih _)

/-- Changes of the bindings alone. -/
theorem changes_of_sameIndex {before after : FlowState} {removed : List UInt64}
    (same : SameIndex before after) (bound : Bound before → Bound after)
    (binds : Bound before → ∀ {key endpointId processId}, endpointId ∉ removed →
      Binds before key endpointId processId → Binds after key endpointId processId) :
    Changes before after removed [] where
  indexed := fun indexed => indexed.of_sameIndex same
  bound := bound
  binds := binds
  flows := by
    intro key tracked found
    rw [same.outbound] at found
    exact .inr ⟨key, tracked, found, rfl, rfl⟩

theorem removeUdpBindingLocked_changes (state : FlowState) (endpointId : UInt64) :
    Changes state (removeUdpBindingLocked state endpointId) [endpointId] [] := by
  refine changes_of_sameIndex (removeUdpBindingLocked_sameIndex ..)
    (fun bound => bound.of_unbinding (removeUdpBindingLocked_effect bound _)) ?_
  intro bound key other processId kept binds
  exact ((removeUdpBindingLocked_effect bound endpointId).binds key other processId).mpr
    ⟨fun equal => kept (equal ▸ mem_singleton_self _), binds⟩

variable (endpointIds : List UInt64)

variable (state : FlowState)

theorem unbindEndpoints_changes :
    Changes state (endpointIds.foldl removeUdpBindingLocked state) endpointIds [] := by
  induction endpointIds generalizing state with
  | nil => exact .refl state
  | cons endpointId _ ih => exact (removeUdpBindingLocked_changes state endpointId).trans (ih _)

theorem bindUdpEndpoint_changes (processId : UInt32) (endpointId : UInt64) (key : UdpBindingKey) :
    Changes state (bindUdpEndpoint state processId endpointId key) [endpointId] [] := by
  refine changes_of_sameIndex (bindUdpEndpoint_sameIndex ..) (fun bound => bound.of_bindUdpEndpoint ..)
    ?_
  intro bound _ other _ kept binds
  have still := (removeUdpBindingLocked_changes state endpointId).binds bound kept binds
  grind [Binds, bindUdpEndpoint]

theorem binds_bindUdpEndpoint (processId : UInt32) (endpointId : UInt64) (key : UdpBindingKey) :
    Binds (bindUdpEndpoint state processId endpointId key) key endpointId processId :=
  ⟨_, get?_insert_self _ _ _, get?_insert_self _ _ _⟩

theorem outboundTransportTarget_changes (protocol : UInt8) (localAddress : IpAddr)
    (localPort : UInt16) (remoteAddress : IpAddr) (remotePort : UInt16) :
    Changes state (outboundTransportTarget state protocol localAddress localPort remoteAddress
      remotePort).2 [] [] where
  indexed := fun indexed => Indexed.of_edit (.promotion ..) indexed
  bound := fun bound => bound.of_sameBindings (outboundTransportTarget_sameBindings ..)
  binds := by
    intro _ key _ _ _ binds
    exact (binds_congr (outboundTransportTarget_sameBindings ..)).mpr binds
  flows := by
    intro key tracked found
    rcases outboundTransportTarget_effect state protocol localAddress localPort remoteAddress
        remotePort with same | ⟨wildcardKey, promoted, _, _, effect⟩
    · rw [same.outbound] at found
      exact .inr ⟨key, tracked, found, rfl, rfl⟩
    rw [effect.outbound] at found
    split at found
    · cases found
      exact .inr ⟨wildcardKey, promoted, effect.present, rfl, rfl⟩
    · split at found
      · cases found
      · exact .inr ⟨key, tracked, found, rfl, rfl⟩

theorem existingUdpTarget_changes (request : UdpAssociationRequest) (now : Instant) :
    Changes state (existingUdpTarget state request now).2 [] [] := by
  unfold existingUdpTarget
  split
  · exact outboundTransportTarget_changes ..
  · exact .refl state

variable {flow : CaptureFlow} {counter : Option Int}

/-- A flow that is indexed is the only new one. -/
theorem flows_indexFlow {state : FlowState} {proxyAddress : IpAddr} {proxyPort : UInt16}
    {key : OutboundKey} {tracked : TrackedTarget}
    (found : (indexFlow state flow proxyAddress proxyPort counter).2.outbound.get? key =
      some tracked) :
    (tracked.endpointId, tracked.processId) ∈ [(flow.endpointId, flow.processId)] ∨
      state.outbound.get? key = some tracked := by
  rcases indexFlow_effect state flow proxyAddress proxyPort counter with
    ⟨_, same⟩ | ⟨_, _, effect⟩
  · rw [same.outbound] at found
    exact .inr found
  rw [effect.outbound] at found
  split at found
  · cases found
    exact .inl (mem_singleton.mpr rfl)
  · exact .inr found

theorem insertAt_changes (state : FlowState) (flow : CaptureFlow)
    (configuredProxyAddress : IpAddr) (proxyPort : UInt16) (counter : Option Int) (now : Instant) :
    Changes state (insertAt state flow configuredProxyAddress proxyPort counter now).2
      (insertionRemovals state flow configuredProxyAddress now)
      [(flow.endpointId, flow.processId)] := by
  have released : Changes state (releaseTcpEndpoint state flow now)
      (if flow.protocol = tcpProtocol then [flow.endpointId] else []) [] := by
    unfold releaseTcpEndpoint
    split
    · exact removeEndpointLocked_changes ..
    · exact .refl state
  -- The indices do not agree in between, so they are followed through the whole call.
  have indexed : Indexed state →
      Indexed (insertAt state flow configuredProxyAddress proxyPort counter now).2 :=
    Indexed.of_edit (.insertion ..)
  have bound : Bound state →
      Bound (insertAt state flow configuredProxyAddress proxyPort counter now).2 :=
    fun bound => bound.of_insertAt ..
  have extended : ∀ {freed : FlowState} {removed : List UInt64} {proxyAddress : IpAddr},
      Changes state freed removed [] →
      insertAt state flow configuredProxyAddress proxyPort counter now =
        indexFlow freed flow proxyAddress proxyPort counter →
      Changes state (insertAt state flow configuredProxyAddress proxyPort counter now).2 removed
        [(flow.endpointId, flow.processId)] := by
    intro freed removed proxyAddress changes result
    refine ⟨indexed, bound, ?_, ?_⟩
    · intro stateBound key endpointId processId kept binds
      rw [result]
      exact (binds_congr (indexFlow_sameBindings ..)).mpr (changes.binds stateBound kept binds)
    · intro key _ found
      rw [result] at found
      rcases flows_indexFlow found with new | held
      · exact .inl new
      · rcases changes.flows held with impossible | before
        · cases impossible
        · exact .inr before
  rcases insertAt_cases state flow configuredProxyAddress proxyPort counter now with
    ⟨unresolved, refused⟩ | ⟨proxyAddress, _, resolved, rfl, kept | taken | _⟩
  · unfold insertionRemovals
    rw [unresolved, refused]
    have unchanged := Changes.refl state
    exact ⟨id, id, unchanged.binds, fun found => .inr ⟨_, _, found, rfl, rfl⟩⟩
  · obtain ⟨previous, found, same, result⟩ := kept
    unfold insertionRemovals
    rw [resolved, result, found]
    dsimp only
    rw [if_pos same, append_nil]
    refine ⟨released.indexed, released.bound, released.binds, fun held => ?_⟩
    rcases released.flows held with impossible | before
    · cases impossible
    · exact .inr before
  · obtain ⟨previous, found, _, result⟩ := taken
    have freed := released.trans (removeEndpointLocked_changes (releaseTcpEndpoint state flow now)
      previous.endpointId (takeoverCounter flow counter) now)
    grind [insertionRemovals]
  · grind [insertionRemovals]

/-- The endpoint on whose behalf `associateUdpOutboundAt` adds a flow. -/
def associationCandidate (state : FlowState) (request : UdpAssociationRequest) (now : Instant) :
    List (UInt64 × UInt32) :=
  (uniqueCandidate (bindingCandidates (existingUdpTarget state request now).2
    (normalizeIpAddress request.localAddress) request.localPort)).toList

theorem associateUdpOutboundAt_changes (state : FlowState) (request : UdpAssociationRequest)
    (now : Instant) :
    Changes state (associateUdpOutboundAt state request now).2
      (associationRemovals state request now) (associationCandidate state request now) := by
  have looked := existingUdpTarget_changes state request now
  have widened : ∀ added, Changes state (existingUdpTarget state request now).2 [] added :=
    fun added => ⟨looked.indexed, looked.bound, looked.binds, fun found =>
      (looked.flows found).elim nofun .inr⟩
  unfold associateUdpOutboundAt associationRemovals associationCandidate
  dsimp only
  cases (existingUdpTarget state request now).1 with
  | some => exact widened _
  | none =>
    cases uniqueCandidate (bindingCandidates (existingUdpTarget state request now).2
        (normalizeIpAddress request.localAddress) request.localPort) with
    | none => exact widened _
    | some candidate =>
      obtain ⟨endpointId, processId⟩ := candidate
      dsimp only
      cases made : udp processId endpointId (normalizeIpAddress request.localAddress)
          request.localPort (normalizeIpAddress request.remoteAddress)
          request.remotePort with
      | none => exact widened _
      | some flow =>
        have identity : (flow.endpointId, flow.processId) = (endpointId, processId) := by
          grind [udp, transport]
        have inserted := looked.trans (insertAt_changes _ flow
          request.configuredProxyAddress request.proxyPort request.capturedAtCounter now)
        have lookedAgain := inserted.trans_kept (existingUdpTarget_changes _
          { request with
            localAddress := normalizeIpAddress request.localAddress
            remoteAddress := normalizeIpAddress request.remoteAddress } now)
        rw [identity] at lookedAgain
        dsimp only
        split
        · rw [append_nil]
          exact lookedAgain
        · have removed := lookedAgain.trans (removeEndpointLocked_changes _ endpointId none now)
          exact removed

theorem retainProcessIds_changes (state : FlowState) (selected : List UInt32) (now : Instant) :
    Changes state (retainProcessIds state selected now)
      (unselectedFlowEndpoints state selected ++ unselectedBindingEndpoints
        ((unselectedFlowEndpoints state selected).foldl
          (fun state endpointId => removeEndpointLocked state endpointId none now) state)
        selected) [] :=
  (removeEndpoints_changes none now _ state).trans (unbindEndpoints_changes _ _)

/-! ### Registered endpoints -/

/-- The key under which a binding stands in the flow table. -/
def OwnedUdpBinding.key (binding : OwnedUdpBinding) : UdpBindingKey where
  localAddress := normalizeIpAddress binding.localAddress
  localPort := binding.localPort

/-- An endpoint is bound once, and to one process. -/
theorem Bound.binds_unique {state : FlowState} (bound : Bound state) {key otherKey : UdpBindingKey}
    {processId otherProcess : UInt32} (binds : Binds state key endpointId processId)
    (otherBinds : Binds state otherKey endpointId otherProcess) :
    key = otherKey ∧ processId = otherProcess := by
  have listed := bound.binds_iff.mpr ⟨processId, binds⟩
  rw [bound.binds_iff.mpr ⟨otherProcess, otherBinds⟩] at listed
  obtain ⟨_, _, _⟩ := binds
  obtain ⟨_, _, _⟩ := otherBinds
  simp_all

/-- Every registered number is that of one binding, the binding is in the flow table, and the
flows of the number belong to the process of the binding. -/
structure Registered (flowTable : FlowState) (endpoints : Table OwnedUdpBinding UInt64) :
    Prop where
  indexed : Indexed flowTable
  bound : Bound flowTable
  binds : ∀ {binding endpointId}, endpoints.get? binding = some endpointId →
    Binds flowTable binding.key endpointId binding.processId
  injective : ∀ ⦃binding other endpointId⦄, endpoints.get? binding = some endpointId →
    endpoints.get? other = some endpointId → binding = other
  owns : ∀ {key tracked binding}, flowTable.outbound.get? key = some tracked →
    endpoints.get? binding = some tracked.endpointId → tracked.processId = binding.processId

/-- Numbers that are not in the registry. -/
def Unregistered (endpoints : Table OwnedUdpBinding UInt64) (endpointIds : List UInt64) : Prop :=
  ∀ ⦃binding endpointId⦄, endpoints.get? binding = some endpointId → endpointId ∉ endpointIds

open Registered

theorem unregistered_iff {endpoints : Table OwnedUdpBinding UInt64} {endpointIds : List UInt64} :
    Unregistered endpoints endpointIds ↔ ∀ endpointId ∈ endpoints.values,
      endpointId ∉ endpointIds := by
  constructor
  · intro unregistered endpointId member
    obtain ⟨binding, listed⟩ := mem_values.mp member
    exact unregistered listed
  · intro unregistered binding endpointId listed
    exact unregistered endpointId (mem_values.mpr ⟨binding, listed⟩)

instance (endpoints : Table OwnedUdpBinding UInt64) (endpointIds : List UInt64) :
    Decidable (Unregistered endpoints endpointIds) :=
  @decidable_of_iff _ _ unregistered_iff.symm (List.decidableBAll _ _)

theorem unregistered_nil (endpoints : Table OwnedUdpBinding UInt64) : Unregistered endpoints [] :=
  fun _ _ _ => not_mem_nil

section

variable {flowTable after : FlowState} {endpoints rest : Table OwnedUdpBinding UInt64}
  {removed : List UInt64} {added : List (UInt64 × UInt32)}

/-- A change keeps what is registered, as long as it removes none of it and adds no flow for it
on behalf of another process. -/
theorem Registered.of_changes (registered : Registered flowTable endpoints)
    (changes : Changes flowTable after removed added)
    (smaller : ∀ {binding endpointId}, rest.get? binding = some endpointId →
      endpoints.get? binding = some endpointId)
    (kept : Unregistered rest removed)
    (own : ∀ {endpointId processId binding}, (endpointId, processId) ∈ added →
      rest.get? binding = some endpointId → processId = binding.processId) :
    Registered after rest where
  indexed := changes.indexed registered.indexed
  bound := changes.bound registered.bound
  binds := fun found =>
    changes.binds registered.bound (kept found) (registered.binds (smaller found))
  injective := fun _ _ _ found other => registered.injective (smaller found) (smaller other)
  owns := by
    intro _ _ binding found listed
    rcases changes.flows found with new | ⟨_, other, held, endpoint, process⟩
    · exact own new listed
    · rw [← process]
      refine registered.owns held (smaller ?_)
      rw [endpoint]
      exact listed

/-- The special case without new flows and with the same registry. -/
theorem Registered.of_removals (registered : Registered flowTable endpoints)
    (changes : Changes flowTable after removed []) (kept : Unregistered endpoints removed) :
    Registered after endpoints :=
  registered.of_changes changes id kept nofun

/-- A flow of a number that is not registered concerns no registered one. -/
theorem own_of_unregistered {endpointId : UInt64} {processId : UInt32}
    (foreign : Unregistered endpoints [endpointId]) {otherId : UInt64} {otherProcess : UInt32}
    {binding : OwnedUdpBinding} (member : (otherId, otherProcess) ∈ [(endpointId, processId)])
    (listed : endpoints.get? binding = some otherId) : otherProcess = binding.processId := by
  cases mem_singleton.mp member
  exact absurd (mem_singleton_self _) (foreign listed)

/-- A binding is registered under a number that is not in use. -/
theorem Registered.bind (registered : Registered flowTable endpoints)
    (binding : OwnedUdpBinding) {endpointId : UInt64} (fresh : Unregistered endpoints [endpointId])
    (unused : flowTable.endpointKeys.get? endpointId = none) :
    Registered (bindUdpEndpoint flowTable binding.processId endpointId binding.key)
      (endpoints.insert binding endpointId) := by
  have changes := bindUdpEndpoint_changes flowTable binding.processId endpointId binding.key
  have kept := registered.of_removals changes fresh
  -- No flow has the new number.
  have noFlow : ∀ {key tracked},
      (bindUdpEndpoint flowTable binding.processId endpointId binding.key).outbound.get? key =
        some tracked → tracked.endpointId ≠ endpointId := by
    intro key tracked found same
    rw [(bindUdpEndpoint_sameIndex ..).outbound] at found
    obtain ⟨_, _, owner, _⟩ := registered.indexed.owned found
    rw [same, unused] at owner
    cases owner
  have notListed : ∀ {other}, endpoints.get? other ≠ some endpointId :=
    fun listed => fresh listed (mem_singleton_self _)
  refine ⟨kept.indexed, kept.bound, ?_, ?_, ?_⟩
  · intro other otherId listed
    rw [Table.get?_insert] at listed
    split at listed
    · grind [binds_bindUdpEndpoint]
    · exact kept.binds listed
  · intro _ _ otherId firstListed secondListed
    rw [Table.get?_insert] at firstListed secondListed
    split at firstListed
    · simp_all
    · split at secondListed
      · simp_all
      · exact registered.injective firstListed secondListed
  · intro key tracked other found listed
    rw [Table.get?_insert] at listed
    split at listed
    · grind
    · exact kept.owns found listed

end

/-! ### Refreshes -/

/-- A binding that the flow table accepts. -/
def OwnedUdpBinding.Usable (binding : OwnedUdpBinding) : Prop :=
  binding.localPort ≠ 0 ∧ (normalizeIpAddress binding.localAddress).isLoopback = false

instance (binding : OwnedUdpBinding) : Decidable binding.Usable :=
  inferInstanceAs (Decidable (_ ∧ _))

/-- The numbers that are handed out to bindings. -/
def handedOut (missing : List OwnedUdpBinding) (owners : OwnerEndpoints) : List UInt64 :=
  (registerMissing missing owners).1.map OwnerAddition.endpointId

/-- The numbers that are handed out are not in use. -/
structure Fresh (flowTable : FlowState) (missing : List OwnedUdpBinding) (owners : OwnerEndpoints) :
    Prop where
  distinct : (handedOut missing owners).Nodup
  unregistered : Unregistered owners.ownerUdpEndpoints (handedOut missing owners)
  unused : ∀ endpointId ∈ handedOut missing owners, flowTable.endpointKeys.get? endpointId = none

instance (flowTable : FlowState) (missing : List OwnedUdpBinding) (owners : OwnerEndpoints) :
    Decidable (Fresh flowTable missing owners) :=
  decidable_of_iff
    ((handedOut missing owners).Nodup ∧
      Unregistered owners.ownerUdpEndpoints (handedOut missing owners) ∧
      (handedOut missing owners).all
        (fun endpointId => (flowTable.endpointKeys.get? endpointId).isNone) = true)
    ⟨fun ⟨distinct, unregistered, unused⟩ => ⟨distinct, unregistered, fun endpointId member =>
        Option.isNone_iff_eq_none.mp (List.all_eq_true.mp unused endpointId member)⟩,
      fun fresh => ⟨fresh.distinct, fresh.unregistered, List.all_eq_true.mpr
        fun endpointId member =>
          Option.isNone_iff_eq_none.mpr (fresh.unused endpointId member)⟩⟩

/-- The end of `replaceUdpOwnerBindings`. -/
def addOwners (flowTable : FlowState) (additions : List OwnerAddition) : FlowState :=
  replaceUdpOwnerBindings flowTable [] additions 0

variable {flowTable : FlowState}

theorem Registered.registerMissing {missing : List OwnedUdpBinding} {owners : OwnerEndpoints}
    (registered : Registered flowTable owners.ownerUdpEndpoints)
    (usable : ∀ binding ∈ missing, binding.Usable) (fresh : Fresh flowTable missing owners) :
    Registered (addOwners flowTable (registerMissing missing owners).1)
      (ProcessCapture.registerMissing missing owners).2.ownerUdpEndpoints := by
  induction missing generalizing flowTable owners with
  | nil => exact registered
  | cons binding rest ih =>
    let next : OwnerEndpoints :=
      { ownerUdpEndpoints :=
          owners.ownerUdpEndpoints.insert binding owners.nextOwnerUdpEndpointId
        nextOwnerUdpEndpointId := owners.nextOwnerUdpEndpointId + 1 }
    have numbers : handedOut (binding :: rest) owners =
        owners.nextOwnerUdpEndpointId :: handedOut rest next := rfl
    obtain ⟨_, _⟩ := usable binding mem_cons_self
    have first : addOwners flowTable (ProcessCapture.registerMissing (binding :: rest) owners).1 =
        addOwners (bindUdpEndpoint flowTable binding.processId owners.nextOwnerUdpEndpointId
          binding.key) (ProcessCapture.registerMissing rest next).1 := by
      have accepted : ¬(binding.localPort = 0 ∨
          (normalizeIpAddress binding.localAddress).isLoopback = true) := by
        simp_all
      change addOwners (if binding.localPort = 0 ∨
          (normalizeIpAddress binding.localAddress).isLoopback = true then flowTable
        else bindUdpEndpoint flowTable binding.processId owners.nextOwnerUdpEndpointId
          binding.key) (ProcessCapture.registerMissing rest next).1 = _
      rw [if_neg accepted]
    have distinct := fresh.distinct
    rw [numbers, nodup_cons] at distinct
    have headFresh : Unregistered owners.ownerUdpEndpoints [owners.nextOwnerUdpEndpointId] := by
      intro other endpointId listed member
      refine fresh.unregistered listed ?_
      simp_all
    have headUnused := fresh.unused owners.nextOwnerUdpEndpointId (numbers ▸ mem_cons_self)
    rw [first]
    refine @ih _ _ (registered.bind binding headFresh headUnused)
      (fun other member => usable other (.tail _ member)) ⟨distinct.2, ?_, ?_⟩
    · intro other endpointId listed member
      rw [Table.get?_insert] at listed
      split at listed
      · cases listed
        exact distinct.1 member
      · exact fresh.unregistered listed (numbers ▸ .tail _ member)
    · intro endpointId member
      rw [(bindUdpEndpoint_sameIndex ..).endpointKeys]
      exact fresh.unused endpointId (numbers ▸ .tail _ member)

/-- The numbers do not depend on what is registered, and a binding that two registries agree on
is the same in both afterwards. -/
theorem registerMissing_agree {keep : OwnedUdpBinding → Bool} (missing : List OwnedUdpBinding)
    {owners others : OwnerEndpoints}
    (next : others.nextOwnerUdpEndpointId = owners.nextOwnerUdpEndpointId)
    (agree : ∀ binding, keep binding = true →
      others.ownerUdpEndpoints.get? binding = owners.ownerUdpEndpoints.get? binding) :
    (registerMissing missing others).1 = (registerMissing missing owners).1 ∧
      ∀ binding, keep binding = true →
        (registerMissing missing others).2.ownerUdpEndpoints.get? binding =
          (registerMissing missing owners).2.ownerUdpEndpoints.get? binding := by
  induction missing generalizing owners others with
  | nil => exact ⟨rfl, agree⟩
  | cons first _ ih =>
    have step := @ih
      { ownerUdpEndpoints :=
          owners.ownerUdpEndpoints.insert first owners.nextOwnerUdpEndpointId
        nextOwnerUdpEndpointId := owners.nextOwnerUdpEndpointId + 1 }
      { ownerUdpEndpoints :=
          others.ownerUdpEndpoints.insert first others.nextOwnerUdpEndpointId
        nextOwnerUdpEndpointId := others.nextOwnerUdpEndpointId + 1 }
      (congrArg (· + 1) next) (fun binding kept => by
        rw [Table.get?_insert, Table.get?_insert, agree binding kept, next])
    refine ⟨?_, step.2⟩
    unfold registerMissing
    dsimp only
    rw [step.1, next]

variable {now : Instant}

/-- Removals bring no endpoint into use. -/
theorem unused_removeEndpoints (unused : flowTable.endpointKeys.get? endpointId = none) :
    (endpointIds.foldl
      (fun state endpointId => removeEndpointLocked state endpointId counter now)
      flowTable).endpointKeys.get? endpointId = none := by
  induction endpointIds generalizing flowTable with
  | nil => exact unused
  | cons _ _ ih =>
    apply ih
    rw [(removeEndpointLocked_effect ..).endpointKeys, unused, ite_self]

theorem unused_retainProcessIds {selected : List UInt32}
    (unused : flowTable.endpointKeys.get? endpointId = none) :
    (retainProcessIds flowTable selected now).endpointKeys.get? endpointId = none := by
  have same : ∀ (endpointIds : List UInt64) (state : FlowState),
      (endpointIds.foldl removeUdpBindingLocked state).endpointKeys = state.endpointKeys := by
    intro endpointIds
    induction endpointIds with
    | nil => exact fun _ => rfl
    | cons _ _ ih =>
      intro state
      exact (ih _).trans (removeUdpBindingLocked_sameIndex ..).endpointKeys
  unfold retainProcessIds
  rw [same]
  exact unused_removeEndpoints _ unused

variable {binding : OwnedUdpBinding}

theorem mem_sortedEndpoints {endpoints : Table OwnedUdpBinding UInt64} :
    (binding, endpointId) ∈ sortedEndpoints endpoints ↔
      endpoints.get? binding = some endpointId := by
  unfold sortedEndpoints
  rw [mem_mergeSort]
  exact Table.mem_toList

/-- The entries of a registry that satisfy a test. -/
theorem get?_retain_eq_some {endpoints : Table OwnedUdpBinding UInt64}
    {keep : OwnedUdpBinding → UInt64 → Bool} :
    (endpoints.retain keep).get? binding = some endpointId ↔
      endpoints.get? binding = some endpointId ∧ keep binding endpointId = true := by
  rw [get?_retain, Option.filter_eq_some_iff]

namespace OwnerRuntime

/-- What the invariant says of the runtime. -/
def Agreed (state : OwnerRuntime) : Prop :=
  Registered state.flowTable state.owners.ownerUdpEndpoints

/-- The bindings of a refresh that have no number yet can be given one: the flow table accepts
them, and the numbers are not in use. -/
structure Admits (state : OwnerRuntime) (bindings : List OwnedUdpBinding) : Prop where
  usable : ∀ binding ∈ state.missingBindings bindings, binding.Usable
  fresh : Fresh state.flowTable (state.missingBindings bindings) state.owners

instance (state : OwnerRuntime) (bindings : List OwnedUdpBinding) :
    Decidable (state.Admits bindings) :=
  decidable_of_iff
    ((∀ binding ∈ state.missingBindings bindings, binding.Usable) ∧
      Fresh state.flowTable (state.missingBindings bindings) state.owners)
    ⟨fun ⟨usable, fresh⟩ => ⟨usable, fresh⟩, fun ⟨usable, fresh⟩ => ⟨usable, fresh⟩⟩

variable {state : OwnerRuntime}

theorem Agreed.ensureOwnerUdpBindings (agreed : state.Agreed) {bindings : List OwnedUdpBinding}
    (admits : state.Admits bindings) (now : Instant) :
    (state.ensureOwnerUdpBindings bindings now).Agreed :=
  Registered.registerMissing agreed admits.usable admits.fresh

/-- A refresh needs agreement only on the bindings that stay. -/
theorem agreed_installOwnerUdpBindings {bindings : List OwnedUdpBinding}
    (kept : Registered state.flowTable (state.owners.ownerUdpEndpoints.retain fun binding _ =>
      (sortedBindings bindings).contains binding)) (injective : ∀ ⦃binding other endpointId⦄,
      state.owners.ownerUdpEndpoints.get? binding = some endpointId →
      state.owners.ownerUdpEndpoints.get? other = some endpointId → binding = other)
    (admits : state.Admits (sortedBindings bindings)) (now : Instant) :
    (state.installOwnerUdpBindings bindings now).Agreed := by
  let keep : OwnedUdpBinding → Bool := fun binding => (sortedBindings bindings).contains binding
  let removals := ((sortedEndpoints state.owners.ownerUdpEndpoints).filter fun entry =>
    !(sortedBindings bindings).contains entry.1).map Prod.snd
  let owners : OwnerEndpoints :=
    { state.owners with
      ownerUdpEndpoints := state.owners.ownerUdpEndpoints.retain fun binding _ => keep binding }
  let missing := state.missingBindings (sortedBindings bindings)
  -- A number that is removed is not the number of a binding that stays.
  have others : Unregistered owners.ownerUdpEndpoints removals := by
    intro binding endpointId listed member
    obtain ⟨held, wanted⟩ := get?_retain_eq_some.1 listed
    grind [mem_sortedEndpoints]
  have removed := kept.of_removals (removeEndpoints_changes none now removals _) others
  have agreement := @registerMissing_agree keep missing state.owners owners rfl (by
    intro binding wanted
    rw [get?_retain]
    cases state.owners.ownerUdpEndpoints.get? binding with
    | none => rfl
    | some endpointId => simp [wanted])
  have numbers : handedOut missing owners = handedOut missing state.owners :=
    congrArg (List.map OwnerAddition.endpointId) agreement.1
  have fresh : Fresh (removals.foldl
      (fun flowTable endpointId => removeEndpointLocked flowTable endpointId none now)
      state.flowTable) missing owners := by
    refine ⟨?_, ?_, ?_⟩
    · rw [numbers]
      exact admits.fresh.distinct
    · intro binding endpointId listed
      rw [numbers]
      exact admits.fresh.unregistered (get?_retain_eq_some.1 listed).1
    · intro endpointId member
      rw [numbers] at member
      exact unused_removeEndpoints _ (admits.fresh.unused endpointId member)
  have registered := Registered.registerMissing removed admits.usable fresh
  rw [agreement.1] at registered
  refine registered.of_changes (Changes.refl _) ?_ (unregistered_nil _) nofun
  intro binding endpointId listed
  obtain ⟨held, wanted⟩ := get?_retain_eq_some.1 listed
  rw [agreement.2 binding wanted]
  exact held

theorem Agreed.removeSyntheticUdpBinding (agreed : state.Agreed) (binding : OwnedUdpBinding)
    (eventTimestamp : Int) (now : Instant) :
    (state.removeSyntheticUdpBinding binding eventTimestamp now).Agreed := by
  refine of_changes agreed
    (removeEndpoints_changes (some eventTimestamp) now (state.syntheticEndpoints binding) _)
    (fun listed => (get?_retain_eq_some.1 listed).1) ?_ nofun
  intro _ _ listed _
  obtain ⟨_, _⟩ := get?_retain_eq_some.1 listed
  simp_all

/-- Dropping the flows and bindings of processes that are not selected. -/
theorem registered_retainProcessIds {endpoints : Table OwnedUdpBinding UInt64}
    (registered : Registered flowTable endpoints) (selected : List UInt32) (now : Instant) :
    Registered (retainProcessIds flowTable selected now)
      (endpoints.retain fun binding _ => selected.contains binding.processId) := by
  refine registered.of_changes (retainProcessIds_changes flowTable selected now)
    (fun listed => (get?_retain_eq_some.1 listed).1) ?_ nofun
  intro binding endpointId listed member
  obtain ⟨held, _⟩ := get?_retain_eq_some.1 listed
  -- No flow of the endpoint is dropped, so its binding is still there in the second pass.
  have noFlow : endpointId ∉ unselectedFlowEndpoints flowTable selected := by
    intro dropped
    obtain ⟨_, isDropped, same⟩ := List.mem_map.mp dropped
    obtain ⟨value, unselected⟩ := mem_filter.mp isDropped
    obtain ⟨key, found⟩ := mem_values.mp value
    have owner := registered.owns found (same ▸ held)
    unfold TrackedTarget.processId at owner
    simp_all
  rcases mem_append.mp member with dropped | dropped
  · exact noFlow dropped
  have removed := removeEndpoints_changes none now
    (unselectedFlowEndpoints flowTable selected) flowTable
  have binds := removed.binds registered.bound noFlow (registered.binds held)
  obtain ⟨⟨_, processId⟩, isDropped, same⟩ := List.mem_map.mp dropped
  obtain ⟨inValues, unselected⟩ := mem_filter.mp isDropped
  obtain ⟨bindings, value, entry⟩ := mem_flatMap.mp inValues
  obtain ⟨key, found⟩ := mem_values.mp value
  have other : Binds _ key endpointId processId :=
    ⟨bindings, found, same ▸ Table.mem_toList.mp entry⟩
  have unique := (removed.bound registered.bound).binds_unique binds other
  simp_all

end OwnerRuntime

/-! ### Events -/

theorem DriverAddress.endpointId_flow {address : DriverAddress} (made : address.flow = some flow) :
    flow.endpointId = address.endpointId := by
  grind [flow, tcp, udp, transport]

/-- The addresses of a flow are normalized. -/
theorem DriverAddress.outboundKey_flow {address : DriverAddress} (made : address.flow = some flow)
    (isUdp : flow.protocol = udpProtocol) :
    flow.outboundKey =
      udpKey flow.localAddress flow.localPort flow.remoteAddress flow.remotePort := by
  have normalized : normalizeIpAddress flow.localAddress = flow.localAddress ∧
      normalizeIpAddress flow.remoteAddress = flow.remoteAddress := by
    grind [flow, tcp, udp, transport, normalizeIpAddress_idem]
  unfold outboundKey udpKey
  rw [normalized.1, normalized.2, isUdp]

/-- Registering a UDP flow under a free tuple removes no endpoint. -/
theorem insertionRemovals_of_free (isUdp : flow.protocol = udpProtocol)
    (free : flowTable.outbound.get? flow.outboundKey = none) (proxyAddress : IpAddr)
    (now : Instant) : insertionRemovals flowTable flow proxyAddress now = [] := by
  have notTcp : flow.protocol ≠ tcpProtocol := by
    rw [isUdp]
    decide
  grind [insertionRemovals, releaseTcpEndpoint_of_udp]

variable {request : UdpAssociationRequest}

/-- The endpoint for which a tuple is associated belongs to the process it is bound for. -/
theorem own_of_associationCandidate {endpoints : Table OwnedUdpBinding UInt64}
    (registered : Registered flowTable endpoints)
    (member : (endpointId, processId) ∈ associationCandidate flowTable request now)
    (listed : endpoints.get? binding = some endpointId) : processId = binding.processId := by
  have unique := Option.mem_toList.mp member
  have same := existingUdpTarget_sameBindings flowTable request now
  have candidate : ∃ key, Binds flowTable key endpointId processId := by
    rcases mem_bindingCandidates.mp (mem_of_uniqueCandidate unique) with binds | binds
    · exact ⟨_, (binds_congr same).mp binds⟩
    · exact ⟨_, (binds_congr same).mp binds⟩
  obtain ⟨key, binds⟩ := candidate
  exact (registered.bound.binds_unique binds (registered.binds listed)).2

namespace OwnerRuntime

/-- The bindings for which an association makes sure of a number. -/
def ownedBindings (ownerProcessId : UInt32) (rows : List OwnedUdpBinding) : List OwnedUdpBinding :=
  (enumerateAllOwnedUdpBindings rows).filter fun row => row.processId == ownerProcessId

/-- The runtime with an empty flow table and an empty registry. -/
def emptied (state : OwnerRuntime) : OwnerRuntime :=
  { state with
    flowTable := clear
    owners := { state.owners with ownerUdpEndpoints := ∅ } }

/-- An event that leaves the registered endpoints alone. The driver does not use a registered
number, no connection takes a tuple over from a registered endpoint, and the bindings of a refresh
can be given numbers. -/
def Undisturbed (state : OwnerRuntime) : OwnerEvent → Prop
  | .start processIds rows _ =>
    state.emptied.Admits (sortedBindings (enumerateOwnedUdpBindings processIds rows))
  | .stop => True
  | .socketBind address => state.selectedProcessIds.contains address.processId = true →
      Unregistered state.owners.ownerUdpEndpoints [address.endpointId]
  | .socketConnect address proxy now => ∀ flow ∈ address.flow,
      state.selectedProcessIds.contains flow.processId = true →
      Unregistered state.owners.ownerUdpEndpoints
        (address.endpointId :: insertionRemovals state.flowTable flow proxy.proxyAddress now)
  | .socketClose address _ => Unregistered state.owners.ownerUdpEndpoints [address.endpointId]
  | .flowEstablished address _ _ => Unregistered state.owners.ownerUdpEndpoints [address.endpointId]
  | .flowDeleted address _ => Unregistered state.owners.ownerUdpEndpoints [address.endpointId]
  | .associateUdpCandidate ownerProcessId rows request now =>
    state.selectedProcessIds.contains ownerProcessId = true →
      state.Admits (ownedBindings ownerProcessId rows) ∧
        Unregistered
          (state.ensureOwnerUdpBindings (ownedBindings ownerProcessId rows)
            now).owners.ownerUdpEndpoints
          (associationRemovals (state.ensureOwnerUdpBindings
            (ownedBindings ownerProcessId rows) now).flowTable request now)
  | .updateProcessIds ownProcessId processIds ownerTables _ =>
    ¬(processIds.contains 0 ∨ processIds.contains ownProcessId ∨ !state.running) →
      ∀ rows ∈ ownerTables,
        state.Admits (sortedBindings (enumerateOwnedUdpBindings processIds rows))

instance (state : OwnerRuntime) : ∀ event, Decidable (state.Undisturbed event)
  | .start .. => inferInstanceAs (Decidable (Admits _ _))
  | .stop => isTrue trivial
  | .socketBind _ => inferInstanceAs (Decidable (_ = true → Unregistered _ _))
  | .socketConnect address _ _ => inferInstanceAs (Decidable (∀ flow ∈ address.flow, _ = true →
      Unregistered _ _))
  | .socketClose _ _ => inferInstanceAs (Decidable (Unregistered _ _))
  | .flowEstablished .. => inferInstanceAs (Decidable (Unregistered _ _))
  | .flowDeleted _ _ => inferInstanceAs (Decidable (Unregistered _ _))
  | .associateUdpCandidate .. => inferInstanceAs (Decidable (_ = true → Admits _ _ ∧
      Unregistered _ _))
  | .updateProcessIds _ _ ownerTables _ => inferInstanceAs (Decidable (¬(_ = true ∨ _ = true ∨
      _ = true) → ∀ rows ∈ ownerTables, Admits _ _))

variable {state : OwnerRuntime}

variable {address : DriverAddress}

theorem Agreed.socketBind (agreed : state.Agreed)
    (foreign : state.selectedProcessIds.contains address.processId = true →
      Unregistered state.owners.ownerUdpEndpoints [address.endpointId]) :
    (state.socketBind address).Agreed := by
  unfold OwnerRuntime.socketBind
  split
  · rename_i handled
    unfold registerUdpBinding
    dsimp only
    split
    · exact agreed
    · exact of_removals agreed (bindUdpEndpoint_changes ..) (foreign handled.2)
  · exact agreed

theorem Agreed.socketConnect (agreed : state.Agreed) {proxy : ProxyEntry}
    (foreign : ∀ flow ∈ address.flow, state.selectedProcessIds.contains flow.processId = true →
      Unregistered state.owners.ownerUdpEndpoints
        (address.endpointId :: insertionRemovals state.flowTable flow proxy.proxyAddress now)) :
    (state.socketConnect address proxy now).Agreed := by
  unfold OwnerRuntime.socketConnect
  cases made : address.flow with
  | none => exact agreed
  | some flow =>
    dsimp only
    split
    · rename_i selected
      have spared := foreign flow made selected
      refine of_changes agreed (insertAt_changes ..) id
        (fun _ _ listed member => spared listed (.tail _ member)) ?_
      refine own_of_unregistered fun _ _ listed member => ?_
      rw [endpointId_flow made, mem_singleton] at member
      exact spared listed (member ▸ mem_cons_self)
    · exact agreed

theorem Agreed.removeEndpoint (agreed : state.Agreed) {endpointId : UInt64}
    (foreign : Unregistered state.owners.ownerUdpEndpoints [endpointId]) (eventTimestamp : Int)
    (now : Instant) :
    { state with
      flowTable := removeEndpointsAt state.flowTable [endpointId] eventTimestamp now }.Agreed :=
  of_removals agreed (removeEndpoints_changes (some eventTimestamp) now [endpointId] _) foreign

/-- What is not registered does not become registered when the registry shrinks. -/
theorem unregistered_removeSyntheticUdpBinding {endpointIds : List UInt64}
    (foreign : Unregistered state.owners.ownerUdpEndpoints endpointIds)
    (binding : OwnedUdpBinding) (eventTimestamp : Int) (now : Instant) :
    Unregistered
      (state.removeSyntheticUdpBinding binding eventTimestamp now).owners.ownerUdpEndpoints
      endpointIds :=
  fun _ _ listed => foreign (get?_retain_eq_some.1 listed).1

theorem Agreed.socketClose (agreed : state.Agreed)
    (foreign : Unregistered state.owners.ownerUdpEndpoints [address.endpointId]) (now : Instant) :
    (state.socketClose address now).Agreed := by
  unfold OwnerRuntime.socketClose
  by_cases isUdp : address.protocol = udpProtocol
  · rw [if_pos isUdp]
    exact (agreed.removeSyntheticUdpBinding ..).removeEndpoint
      (unregistered_removeSyntheticUdpBinding foreign ..) ..
  · rw [if_neg isUdp]
    exact agreed.removeEndpoint foreign ..

/-- The flow of an established socket is registered only under a free tuple. -/
theorem Agreed.flowEstablished (agreed : state.Agreed)
    (foreign : Unregistered state.owners.ownerUdpEndpoints [address.endpointId])
    (proxy : ProxyEntry) (now : Instant) : (state.flowEstablished address proxy now).Agreed := by
  unfold OwnerRuntime.flowEstablished
  cases made : address.flow with
  | none => exact agreed
  | some flow =>
    dsimp only
    split
    · exact agreed
    split
    · rename_i isUdp
      let binding : OwnedUdpBinding :=
        { processId := flow.processId
          localAddress := flow.localAddress
          localPort := flow.localPort }
      let after := state.removeSyntheticUdpBinding binding address.eventTimestamp now
      have replaced : after.Agreed := agreed.removeSyntheticUdpBinding ..
      have still := unregistered_removeSyntheticUdpBinding foreign binding
        address.eventTimestamp now
      have looked := outboundTransportTarget_changes after.flowTable udpProtocol
        flow.localAddress flow.localPort flow.remoteAddress flow.remotePort
      have lookedAgreed := of_removals replaced looked (unregistered_nil _)
      split
      · rename_i absent
        have free := @existingUdpTarget_free _
          { localAddress := flow.localAddress
            localPort := flow.localPort
            remoteAddress := flow.remoteAddress
            remotePort := flow.remotePort
            configuredProxyAddress := proxy.proxyAddress
            proxyPort := proxy.proxyPort
            capturedAtCounter := none } now rfl (Option.isNone_iff_eq_none.mp absent)
        rw [← outboundKey_flow made isUdp] at free
        have removals := insertionRemovals_of_free isUdp free proxy.proxyAddress now
        refine lookedAgreed.of_changes (insertAt_changes ..) id ?_ ?_
        · exact removals ▸ unregistered_nil _
        grind [own_of_unregistered, endpointId_flow]
      · exact lookedAgreed
    · exact of_removals agreed (outboundTransportTarget_changes ..) (unregistered_nil _)

variable {rows : List OwnedUdpBinding}

theorem Agreed.associateUdpCandidate (agreed : state.Agreed) {ownerProcessId : UInt32}
    (undisturbed : state.Undisturbed (.associateUdpCandidate ownerProcessId rows request now)) :
    (state.associateUdpCandidate ownerProcessId rows request now).Agreed := by
  unfold OwnerRuntime.associateUdpCandidate
  split
  · rename_i selected
    obtain ⟨admits, spared⟩ := undisturbed selected
    have ensured := agreed.ensureOwnerUdpBindings admits now
    exact of_changes ensured (associateUdpOutboundAt_changes ..) id spared
      (own_of_associationCandidate ensured)
  · exact agreed

variable {processIds : List UInt32}

/-- The rows of selected processes. -/
theorem selected_of_enumerate {binding : OwnedUdpBinding}
    (wanted : (sortedBindings (enumerateOwnedUdpBindings processIds rows)).contains binding = true) :
    processIds.contains binding.processId = true := by
  unfold sortedBindings enumerateOwnedUdpBindings at wanted
  simp_all

theorem Agreed.updateProcessIds (agreed : state.Agreed) {ownProcessId : UInt32}
    {ownerTables : Option (List OwnedUdpBinding)}
    (undisturbed : state.Undisturbed (.updateProcessIds ownProcessId processIds ownerTables now)) :
    (state.updateProcessIds ownProcessId processIds ownerTables now).Agreed := by
  unfold OwnerRuntime.updateProcessIds
  split
  · exact agreed
  rename_i accepted
  cases ownerTables with
  | none => exact registered_retainProcessIds agreed state.selectedProcessIds now
  | some rows =>
    have admits := undisturbed accepted rows rfl
    have retained := registered_retainProcessIds agreed processIds now
    refine @agreed_installOwnerUdpBindings
      { state with
        selectedProcessIds := processIds
        flowTable := retainProcessIds state.flowTable processIds now }
      _ ?_ agreed.injective ?_ _
    · refine retained.of_changes (Changes.refl _) ?_ (unregistered_nil _) nofun
      intro _ endpointId listed
      obtain ⟨_, _⟩ := get?_retain_eq_some.1 listed
      grind [selected_of_enumerate]
    · exact ⟨admits.usable, admits.fresh.distinct, admits.fresh.unregistered,
        fun endpointId member =>
          unused_retainProcessIds (admits.fresh.unused endpointId member)⟩

theorem agreed_emptied (state : OwnerRuntime) : state.emptied.Agreed where
  indexed := indexed_default
  bound := bound_default
  binds := nofun
  injective := nofun
  owns := nofun

theorem agreed_start (state : OwnerRuntime)
    (admits : state.emptied.Admits (sortedBindings (enumerateOwnedUdpBindings processIds rows)))
    (now : Instant) : (state.start processIds rows now).Agreed := by
  have empty := state.agreed_emptied
  refine agreed_installOwnerUdpBindings ?_ empty.injective ⟨admits.usable, admits.fresh⟩ now
  exact of_changes empty (Changes.refl _)
    (fun listed => (get?_retain_eq_some.1 listed).1) (unregistered_nil _)
    nofun

/-- An event that leaves the registered endpoints alone keeps the agreement. -/
theorem Agreed.step (agreed : state.Agreed) {event : OwnerEvent}
    (undisturbed : state.Undisturbed event) : (state.step event).Agreed := by
  cases event with
  | start processIds rows now => exact agreed_start state undisturbed now
  | stop => exact state.agreed_emptied
  | socketBind address => exact agreed.socketBind undisturbed
  | socketConnect address proxy now => exact agreed.socketConnect undisturbed
  | socketClose address now | flowDeleted address now => exact agreed.socketClose undisturbed now
  | flowEstablished address proxy now => exact agreed.flowEstablished undisturbed proxy now
  | associateUdpCandidate _ rows _ now =>
    exact agreed.associateUdpCandidate undisturbed
  | updateProcessIds _ processIds _ now =>
    exact agreed.updateProcessIds undisturbed

end OwnerRuntime

/-! ### Runs -/

/-- A bound address stands for a local address: it is the address, or the wildcard of its
family. -/
def UdpBindingKey.Covers (key : UdpBindingKey) (localAddress : IpAddr) : Prop :=
  key.localAddress = normalizeIpAddress localAddress ∨
    key.localAddress = (normalizeIpAddress localAddress).wildcard

/-- Every registered number has its binding in the flow table, and a local address that the
binding stands for is attributed to its process unless another process could own it too. -/
structure OwnerAgreement (state : OwnerRuntime) : Prop where
  bound : ∀ binding endpointId, state.owners.ownerUdpEndpoints.get? binding = some endpointId →
    state.flowTable.udpBindingKeys.get? endpointId = some binding.key
  candidate : ∀ binding endpointId localAddress,
    state.owners.ownerUdpEndpoints.get? binding = some endpointId →
    binding.key.Covers localAddress →
    (endpointId, binding.processId) ∈
      bindingCandidates state.flowTable (normalizeIpAddress localAddress) binding.localPort
  attributed : ∀ binding endpointId localAddress,
    state.owners.ownerUdpEndpoints.get? binding = some endpointId →
    binding.key.Covers localAddress →
    (∀ other ∈ bindingCandidates state.flowTable (normalizeIpAddress localAddress)
      binding.localPort, other.2 = binding.processId) →
    ∃ chosen, uniqueCandidate (bindingCandidates state.flowTable (normalizeIpAddress localAddress)
      binding.localPort) = some (chosen, binding.processId)

/-- Candidates that are all of one process have a choice. -/
theorem uniqueCandidate_of_forall {candidates : List (UInt64 × UInt32)} (nonempty : candidates ≠ [])
    (single : ∀ other ∈ candidates, other.2 = processId) :
    ∃ chosen, uniqueCandidate candidates = some (chosen, processId) := by
  cases candidates with
  | nil => exact absurd rfl nonempty
  | cons first rest =>
    have firstProcess := single first mem_cons_self
    have all : (rest.all fun other => other.2 == first.2) = true := by
      grind
    exact ⟨first.1, (if_pos all).trans (firstProcess ▸ rfl)⟩

theorem OwnerRuntime.Agreed.ownerAgreement {state : OwnerRuntime} (agreed : state.Agreed) :
    OwnerAgreement state := by
  have candidate : ∀ binding endpointId localAddress,
      state.owners.ownerUdpEndpoints.get? binding = some endpointId →
      binding.key.Covers localAddress →
      (endpointId, binding.processId) ∈
        bindingCandidates state.flowTable (normalizeIpAddress localAddress) binding.localPort := by
    intro binding endpointId localAddress listed covers
    have binds := agreed.binds listed
    have key : ∀ {address}, binding.key.localAddress = address →
        binding.key = { localAddress := address, localPort := binding.localPort } := by
      rintro address rfl
      rfl
    rw [mem_bindingCandidates]
    rcases covers with same | wildcard
    · exact .inl (key same ▸ binds)
    · exact .inr (key wildcard ▸ binds)
  refine ⟨?_, candidate, ?_⟩
  · intro binding endpointId listed
    exact agreed.bound.binds_iff.mpr ⟨_, agreed.binds listed⟩
  · intro binding endpointId localAddress listed covers single
    refine uniqueCandidate_of_forall (fun empty => ?_) single
    have member := candidate binding endpointId localAddress listed covers
    rw [empty] at member
    cases member

theorem OwnerRuntime.agreed_initial : initial.Agreed :=
  initial.agreed_emptied

/-- In a run whose events leave the registered endpoints alone, the registry agrees with the flow
table in every state. -/
theorem ownerAgreement_run (events : List OwnerEvent)
    (undisturbed : ownerMachine.Guarded OwnerRuntime.Undisturbed .initial events) :
    ∀ first, first <+: events → OwnerAgreement (ownerMachine.run first) := by
  rintro first ⟨_, rfl⟩
  have guarded := ownerMachine.guarded_append.mp undisturbed
  have agreed := Machine.guarded_run OwnerRuntime.agreed_initial
    (fun _ _ agreed undisturbed => OwnerRuntime.Agreed.step agreed undisturbed) guarded.1
  exact agreed.ownerAgreement

/-- A process owns a wildcard socket; its packets are associated with the registered binding. -/
def associatedOwner : List OwnerEvent :=
  [ .start [7001] [⟨7001, IpAddr.ipv4 0 0 0 0, 53000⟩] 0,
    .associateUdpCandidate 7001 [⟨7001, IpAddr.ipv4 0 0 0 0, 53000⟩]
      { localAddress := IpAddr.ipv4 192 0 2 10
        localPort := 53000
        remoteAddress := IpAddr.ipv4 198 51 100 20
        remotePort := 443
        configuredProxyAddress := IpAddr.localhostV4
        proxyPort := 1080
        capturedAtCounter := none } 1 ]

/-- The driver reports the socket behind the association. -/
def reportedSocket : DriverAddress where
  protocol := udpProtocol
  processId := 7001
  endpointId := 81
  localAddress := IpAddr.ipv4 192 0 2 10
  localPort := 53000
  remoteAddress := IpAddr.ipv4 198 51 100 20
  remotePort := 443
  eventTimestamp := 10

def loopbackProxy : ProxyEntry where
  proxyAddress := IpAddr.localhostV4
  proxyPort := 1080

/-- An established flow replaces the binding in both structures. -/
theorem ownerAgreement_flowEstablished :
    OwnerAgreement (ownerMachine.run (associatedOwner ++
      [.flowEstablished reportedSocket loopbackProxy 2, .socketClose reportedSocket 3])) :=
  ownerAgreement_run _ (by decide +kernel) _ prefix_rfl

/-- A connection takes the tuple over from the registered endpoint, which stays registered. -/
theorem not_ownerAgreement_socketConnect :
    ¬OwnerAgreement (ownerMachine.run
      (associatedOwner ++ [.socketConnect reportedSocket loopbackProxy 2])) := by
  intro agreement
  have bound := agreement.bound ⟨7001, IpAddr.ipv4 0 0 0 0, 53000⟩ 9223372036854775808
    (by decide +kernel)
  revert bound
  decide +kernel

end SprakCapture.ProcessCapture
