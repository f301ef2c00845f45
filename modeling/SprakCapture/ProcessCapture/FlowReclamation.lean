import Mathlib.Data.List.Dedup
import SprakCapture.ProcessCapture.FlowGenerations

/-!
# Reclaiming closed UDP versions

A closed version is reclaimed once the watermark passes the counter at which it
ended, so a version that was closed without a counter stays for good. The calls
that close versions without one are listed by `uncountedRemovals`, and
`reclaimable_run` shows that these are exactly the calls that make a table unreclaimable.
-/

namespace SprakCapture.ProcessCapture

open Data List

/-- Every watermark beyond some counter empties the retired index. -/
def Reclaimable (state : FlowState) : Prop :=
  ∃ threshold, ∀ watermark > threshold,
    (advanceUdpObservationWatermark state watermark).retiredUdpOutbound = ∅

/-- Every closed version knows the counter at which it ended. -/
def Counted (state : FlowState) : Prop :=
  ∀ key, ∀ retired ∈ retiredVersions state key, retired.retiredAtCounter ≠ none

/-- Whether an endpoint owns a UDP tuple. -/
def ownsUdp (state : FlowState) (endpointId : UInt64) : Prop :=
  ∃ pair ∈ ownedKeys state endpointId, pair.1.protocol = udpProtocol

instance ownsUdpDecidable (state : FlowState) (endpointId : UInt64) :
    Decidable (ownsUdp state endpointId) :=
  inferInstanceAs (Decidable (∃ pair ∈ ownedKeys state endpointId, _))

/-- The endpoints that a call removes without a counter. -/
def uncountedRemovals (state : FlowState) : FlowAction → List UInt64
  | .insertAt flow configuredProxyAddress _ activeFromCounter _ =>
    if (resolveProxyAddress flow.localAddress configuredProxyAddress).isSome then
      (if flow.protocol = tcpProtocol then [flow.endpointId] else []) ++
        (if takeoverCounter flow activeFromCounter = none then
          (((state.outbound.get? flow.outboundKey).map TrackedTarget.endpointId).filter
            fun holder => holder != flow.endpointId).toList
        else [])
    else []
  | .removeEndpoint endpointId _ => [endpointId]
  | .replaceUdpOwnerBindings removedEndpointIds _ _ => removedEndpointIds
  | .retainProcessIds selectedProcessIds _ => unselectedFlowEndpoints state selectedProcessIds
  | _ => []

/-- No endpoint with a UDP tuple is removed without a counter. -/
def CountsRetirements (state : FlowState) (action : FlowAction) : Prop :=
  ∀ endpointId ∈ uncountedRemovals state action, ¬ownsUdp state endpointId

instance countsRetirementsDecidable (state : FlowState) (action : FlowAction) :
    Decidable (CountsRetirements state action) :=
  inferInstanceAs (Decidable (∀ endpointId ∈ uncountedRemovals state action, _))

/-! ### Watermarks -/

/-- The ends of all closed versions of a key. -/
def retiredCounters (state : FlowState) : List Int :=
  (state.retiredUdpOutbound.values.flatten).filterMap RetiredUdpTarget.retiredAtCounter

variable {state : FlowState}

theorem mem_retiredCounters {key : OutboundKey} {retired : RetiredUdpTarget} {retiredAt : Int}
    (member : retired ∈ retiredVersions state key)
    (ends : retired.retiredAtCounter = some retiredAt) : retiredAt ∈ retiredCounters state := by
  unfold retiredVersions at member
  cases found : state.retiredUdpOutbound.get? key with
  | none =>
    rw [found] at member
    cases member
  | some versions =>
    rw [found] at member
    have listed : versions ∈ state.retiredUdpOutbound.values := Table.mem_values.mpr ⟨key, found⟩
    exact mem_filterMap.mpr ⟨retired, mem_flatten.mpr ⟨versions, listed, member⟩, ends⟩

/-- After a watermark the index is empty exactly when no version is retained. -/
theorem advance_eq_empty_iff (state : FlowState) (watermark : Int) :
    (advanceUdpObservationWatermark state watermark).retiredUdpOutbound = ∅ ↔
      ∀ key, retainVersions watermark (retiredVersions state key) = [] := by
  constructor
  · intro empty key
    rw [← retiredVersions_advance, retiredVersions, empty]
    rfl
  · intro none
    refine Table.eq_empty_of_get? fun key => ?_
    unfold advanceUdpObservationWatermark
    rw [Table.get?_mapValues, Table.get?_retain]
    have dropped := none key
    unfold retiredVersions at dropped
    cases found : state.retiredUdpOutbound.get? key with
    | none => rfl
    | some =>
      simp_all

/-- A table can be reclaimed exactly when all its closed versions have counters. -/
theorem reclaimable_iff_counted (state : FlowState) : Reclaimable state ↔ Counted state := by
  constructor
  · rintro ⟨threshold, empties⟩ key retired member absent
    have dropped := (advance_eq_empty_iff state (threshold + 1)).mp
      (empties (threshold + 1) (by omega)) key
    have kept : retired ∈ retainVersions (threshold + 1) (retiredVersions state key) := by
      refine mem_retainVersions.mpr ⟨member, fun retiredAt ends => ?_⟩
      rw [absent] at ends
      cases ends
    rw [dropped] at kept
    cases kept
  · intro counted
    obtain ⟨threshold, bound⟩ : ∃ threshold, ∀ retiredAt ∈ retiredCounters state,
        retiredAt ≤ threshold := by
      cases greatest : (retiredCounters state).maximum with
      | bot =>
        rw [maximum_eq_bot] at greatest
        exact ⟨0, by simp [greatest]⟩
      | coe threshold => exact ⟨threshold, fun _ member => le_maximum_of_mem member greatest⟩
    refine ⟨threshold, fun watermark _ => (advance_eq_empty_iff state watermark).mpr ?_⟩
    intro key
    rw [eq_nil_iff_forall_not_mem]
    intro retired kept
    obtain ⟨member, reached⟩ := mem_retainVersions.mp kept
    obtain ⟨retiredAt, ends⟩ := Option.ne_none_iff_exists'.mp (counted key retired member)
    have late := reached retiredAt ends
    have early := bound retiredAt (mem_retiredCounters member ends)
    omega

/-! ### Removal without a counter -/

variable {before after : FlowState}

theorem Counted.of_subset (counted : Counted before)
    (subset : ∀ key, ∀ retired ∈ retiredVersions after key, retired ∈ retiredVersions before key) :
    Counted after :=
  fun key retired member => counted key retired (subset key retired member)

theorem counted_congr {first second : FlowState}
    (same : second.retiredUdpOutbound = first.retiredUdpOutbound) :
    Counted second ↔ Counted first := by
  unfold Counted retiredVersions
  rw [same]

theorem counted_indexFlow (state : FlowState) (flow : CaptureFlow) (proxyAddress : IpAddr)
    (proxyPort : UInt16) (counter : Option Int) :
    Counted (indexFlow state flow proxyAddress proxyPort counter).2 ↔ Counted state := by
  unfold Counted
  simp only [retiredVersions_indexFlow]

/-- A table that holds an uncounted version keeps it through removals. -/
theorem RetirementEffect.counted_of_after {counter : Option Int} {now : Instant}
    (effect : RetirementEffect before after counter now) (counted : Counted after) :
    Counted before :=
  counted.of_subset fun key _ member => (effect.retired key _).mpr (.inl member)

theorem RetirementEffect.counted_of_some {counter : Int} {now : Instant}
    (effect : RetirementEffect before after (some counter) now) (counted : Counted before) :
    Counted after := by
  intro key retired member
  rcases (effect.retired key retired).mp member with old | ⟨_, _, _, _, rfl⟩
  · exact counted key retired old
  · simp [TrackedTarget.retire]

theorem counted_removeEndpointLocked (indexed : Indexed state) (counted : Counted state)
    (endpointId : UInt64) (now : Instant) :
    Counted (removeEndpointLocked state endpointId none now) ↔ ¬ownsUdp state endpointId := by
  have retirement := removeEndpointLocked_retirement state endpointId none now
  have removal := removeEndpointLocked_effect state endpointId none now
  constructor
  · rintro after ⟨pair, owned, udp⟩
    obtain ⟨_, owner, member⟩ := mem_ownedKeys.mp owned
    obtain ⟨tracked, present, _⟩ := indexed.tracks owner member
    have gone : (removeEndpointLocked state endpointId none now).outbound.get? pair.1 = none := by
      rw [removal.outbound, if_pos (List.mem_map_of_mem owned)]
    exact after pair.1 (tracked.retire now none)
      ((retirement.retired _ _).mpr (.inr ⟨tracked, present, gone, udp, rfl⟩)) rfl
  · intro notUdp key retired member
    rcases (retirement.retired key retired).mp member with old | ⟨tracked, present, gone, udp, _⟩
    · exact counted key retired old
    rw [removal.outbound] at gone
    split at gone
    · rename_i owned
      obtain ⟨pair, pairOwned, rfl⟩ := List.mem_map.mp owned
      exact absurd ⟨pair, pairOwned, udp⟩ notUdp
    · rw [present] at gone
      cases gone

theorem counted_removal_iff (indexed : Indexed state) (endpointId : UInt64) (counter : Option Int)
    (now : Instant) :
    Counted (removeEndpointLocked state endpointId counter now) ↔
      Counted state ∧ (counter = none → ¬ownsUdp state endpointId) := by
  have retirement := removeEndpointLocked_retirement state endpointId counter now
  cases counter with
  | some counter =>
    refine ⟨fun after => ⟨retirement.counted_of_after after, by simp⟩, fun both => ?_⟩
    exact retirement.counted_of_some both.1
  | none =>
    constructor
    · intro after
      have before := retirement.counted_of_after after
      grind [counted_removeEndpointLocked]
    grind [counted_removeEndpointLocked]

theorem ownedKeys_removeEndpointLocked (state : FlowState) {endpointId other : UInt64}
    (different : other ≠ endpointId) (counter : Option Int) (now : Instant) :
    ownedKeys (removeEndpointLocked state endpointId counter now) other =
      ownedKeys state other := by
  unfold ownedKeys
  rw [(removeEndpointLocked_effect state endpointId counter now).endpointKeys, if_neg different]

theorem counted_removeEndpoints (indexed : Indexed state) (counted : Counted state)
    (endpointIds : List UInt64) (now : Instant) :
    Counted (endpointIds.foldl
        (fun state endpointId => removeEndpointLocked state endpointId none now) state) ↔
      ∀ endpointId ∈ endpointIds, ¬ownsUdp state endpointId := by
  induction endpointIds generalizing state with
  | nil => simpa using counted
  | cons endpointId rest ih =>
    rw [foldl_cons, forall_mem_cons]
    have single := counted_removeEndpointLocked indexed counted endpointId now
    by_cases owns : ownsUdp state endpointId
    · have retained := removeEndpoints_retirement rest
        (removeEndpointLocked state endpointId none now) none now
      constructor
      · intro after
        exact absurd (single.mp (retained.counted_of_after after)) (not_not.mpr owns)
      simp_all
    · have removedIndexed := indexed.of_edit (.removal state endpointId none now)
      rw [ih removedIndexed (single.mpr owns), and_iff_right owns]
      refine forall₂_congr fun other _ => not_congr ?_
      by_cases same : other = endpointId
      · subst same
        refine iff_of_false ?_ owns
        rintro ⟨_, owned, _⟩
        obtain ⟨_, owner, _⟩ := mem_ownedKeys.mp owned
        rw [(removeEndpointLocked_effect state other none now).endpointKeys, if_pos rfl] at owner
        cases owner
      · unfold ownsUdp
        rw [ownedKeys_removeEndpointLocked state same]

/-! ### Insertion -/

variable {flow : CaptureFlow}

theorem releaseTcpEndpoint_of_udp (notTcp : flow.protocol ≠ tcpProtocol) (state : FlowState)
    (now : Instant) : releaseTcpEndpoint state flow now = state := by
  unfold releaseTcpEndpoint
  rw [if_neg notTcp]

theorem Indexed.holder_released (indexed : Indexed state) (flow : CaptureFlow) (now : Instant)
    {previous : TrackedTarget} (different : previous.endpointId ≠ flow.endpointId) :
    (releaseTcpEndpoint state flow now).outbound.get? flow.outboundKey = some previous ↔
      state.outbound.get? flow.outboundKey = some previous := by
  unfold releaseTcpEndpoint
  split
  · rw [(removeEndpointLocked_effect state flow.endpointId none now).outbound]
    constructor
    · simp
    · intro present
      obtain ⟨_, _, owner, member⟩ := indexed.owned present
      rw [if_neg (indexed.notMem_ownedOutbound different owner member), present]
  · exact Iff.rfl

theorem countsRetirements_insertAt (state : FlowState) (flow : CaptureFlow)
    {configuredProxyAddress proxyAddress : IpAddr}
    (resolved : resolveProxyAddress flow.localAddress configuredProxyAddress = some proxyAddress)
    (proxyPort : UInt16) (counter : Option Int) (now : Instant) :
    CountsRetirements state (.insertAt flow configuredProxyAddress proxyPort counter now) ↔
      (flow.protocol = tcpProtocol → ¬ownsUdp state flow.endpointId) ∧
        (takeoverCounter flow counter = none → ∀ previous,
          state.outbound.get? flow.outboundKey = some previous →
          previous.endpointId ≠ flow.endpointId → ¬ownsUdp state previous.endpointId) := by
  unfold CountsRetirements uncountedRemovals
  dsimp only
  rw [resolved, if_pos (Option.isSome_some), forall_mem_append]
  refine and_congr ?_ ?_
  · split <;> rename_i protocol <;> simp [protocol]
  · split
    · simp_all
    · rename_i counted
      simp [counted]

theorem counted_releaseTcpEndpoint (indexed : Indexed state) (counted : Counted state)
    (flow : CaptureFlow) (now : Instant) :
    Counted (releaseTcpEndpoint state flow now) ↔
      (flow.protocol = tcpProtocol → ¬ownsUdp state flow.endpointId) := by
  grind [releaseTcpEndpoint, counted_removeEndpointLocked]

theorem ownsUdp_releaseTcpEndpoint (state : FlowState) (flow : CaptureFlow) (now : Instant)
    {other : UInt64} (different : other ≠ flow.endpointId) :
    ownsUdp (releaseTcpEndpoint state flow now) other ↔ ownsUdp state other := by
  grind [releaseTcpEndpoint, ownsUdp, ownedKeys_removeEndpointLocked]

theorem Indexed.of_releaseTcpEndpoint (indexed : Indexed state) (flow : CaptureFlow)
    (now : Instant) : Indexed (releaseTcpEndpoint state flow now) := by
  unfold releaseTcpEndpoint
  split
  · exact indexed.of_edit (.removal ..)
  · exact indexed

theorem counted_insertAt (indexed : Indexed state) (counted : Counted state) (flow : CaptureFlow)
    (configuredProxyAddress : IpAddr) (proxyPort : UInt16) (counter : Option Int) (now : Instant) :
    Counted (insertAt state flow configuredProxyAddress proxyPort counter now).2 ↔
      CountsRetirements state (.insertAt flow configuredProxyAddress proxyPort counter now) := by
  have released := counted_releaseTcpEndpoint indexed counted flow now
  have holder := fun previous => @Indexed.holder_released _ indexed flow now previous
  rcases insertAt_cases state flow configuredProxyAddress proxyPort counter now with
    ⟨_, _⟩ | ⟨_, _, resolved, rfl, _ | taken | free⟩
  · grind [CountsRetirements, uncountedRemovals]
  · rw [countsRetirements_insertAt state flow resolved]
    grind
  · obtain ⟨previous, present, different, result⟩ := taken
    rw [result, countsRetirements_insertAt state flow resolved, counted_indexFlow,
      counted_removal_iff (indexed.of_releaseTcpEndpoint flow now),
      ownsUdp_releaseTcpEndpoint state flow now different]
    have found := (holder previous different).mp present
    simp_all
  · obtain ⟨_, result⟩ := free
    rw [result, countsRetirements_insertAt state flow resolved, counted_indexFlow]
    grind

/-! ### Association -/

theorem retiredUdpOutbound_outboundTransportTarget (state : FlowState) (protocol : UInt8)
    (localAddress : IpAddr) (localPort : UInt16) (remoteAddress : IpAddr) (remotePort : UInt16) :
    (outboundTransportTarget state protocol localAddress localPort remoteAddress
      remotePort).2.retiredUdpOutbound = state.retiredUdpOutbound := by
  grind [outboundTransportTarget]

theorem retiredUdpOutbound_existingUdpTarget (state : FlowState)
    (request : UdpAssociationRequest) (now : Instant) :
    (existingUdpTarget state request now).2.retiredUdpOutbound = state.retiredUdpOutbound := by
  unfold existingUdpTarget
  split
  · exact retiredUdpOutbound_outboundTransportTarget ..
  · rfl

theorem existingUdpTarget_sameBindings (state : FlowState) (request : UdpAssociationRequest)
    (now : Instant) : SameBindings state (existingUdpTarget state request now).2 := by
  unfold existingUdpTarget
  split
  · exact outboundTransportTarget_sameBindings ..
  · exact ⟨rfl, rfl⟩

/-- A failed lookup without a counter means that the exact tuple is free. -/
theorem existingUdpTarget_free {request : UdpAssociationRequest} {now : Instant}
    (uncounted : request.capturedAtCounter = none)
    (failed : (existingUdpTarget state request now).1 = none) :
    (existingUdpTarget state request now).2.outbound.get?
      (udpKey request.localAddress request.localPort request.remoteAddress request.remotePort) =
      none := by
  unfold existingUdpTarget at failed ⊢
  rw [uncounted] at failed ⊢
  unfold outboundTransportTarget at failed ⊢
  dsimp only at failed ⊢
  split at failed
  · cases failed
  rename_i absent
  split at failed
  · exact absent
  split at failed
  · exact absent
  · split at failed
    · exact absent
    · cases failed

variable {endpointId : UInt64} {processId : UInt32}

variable (bound : Bound state) {localAddress : IpAddr}

/-- What `associateUdpOutboundAt` makes of a candidate: a UDP flow under the exact tuple. -/
theorem udp_eq_some {remoteAddress : IpAddr} {localPort remotePort : UInt16}
    (made : CaptureFlow.udp processId endpointId (normalizeIpAddress localAddress) localPort
      (normalizeIpAddress remoteAddress) remotePort = some flow) :
    flow.endpointId = endpointId ∧ flow.protocol = udpProtocol ∧
      flow.outboundKey = udpKey localAddress localPort remoteAddress remotePort := by
  unfold CaptureFlow.udp CaptureFlow.transport at made
  dsimp only at made
  split at made
  · cases made
  · cases made
    simp [CaptureFlow.outboundKey, udpKey]

theorem mem_of_uniqueCandidate {candidates : List (UInt64 × UInt32)} {found : UInt64 × UInt32}
    (unique : uniqueCandidate candidates = some found) : found ∈ candidates := by
  unfold uniqueCandidate at unique
  grind

variable {localPort : UInt16}

/-- The candidates are the endpoints bound to the address or to the wildcard of its family. -/
theorem mem_bindingCandidates :
    (endpointId, processId) ∈ bindingCandidates state localAddress localPort ↔
      Binds state { localAddress, localPort } endpointId processId ∨
        Binds state { localAddress := localAddress.wildcard, localPort } endpointId processId := by
  have listed : ∀ key : UdpBindingKey,
      (endpointId, processId) ∈ (state.udpBindings.get? key).elim [] Table.toList ↔
      Binds state key endpointId processId := by
    intro key
    unfold Binds
    cases state.udpBindings.get? key with
    | none => simp
    | some => simp [Table.mem_toList]
  unfold bindingCandidates
  rw [mem_dedup, mem_mergeSort, mem_append, listed, listed]

include bound

theorem Bound.of_candidate
    (unique : uniqueCandidate (bindingCandidates state localAddress localPort) =
      some (endpointId, processId)) : ∃ key, state.udpBindingKeys.get? endpointId = some key := by
  rcases mem_bindingCandidates.mp (mem_of_uniqueCandidate unique) with binds | binds
  · exact ⟨_, bound.binds_iff.mpr ⟨processId, binds⟩⟩
  · exact ⟨_, bound.binds_iff.mpr ⟨processId, binds⟩⟩

theorem udpBindingKeys_removeEndpointLocked {endpointId other : UInt64}
    (different : other ≠ endpointId) (counter : Option Int) (now : Instant) :
    (removeEndpointLocked state endpointId counter now).udpBindingKeys.get? other =
      state.udpBindingKeys.get? other := by
  have same := (removeEndpointKeys_effect state endpointId counter now).2
  have unbinding := removeUdpBindingLocked_effect (bound.of_sameBindings same) endpointId
  rw [← same.udpBindingKeys]
  exact (unbinding.udpBindingKeys other).trans (if_neg different)

theorem udpBindingKeys_insertAt (notTcp : flow.protocol ≠ tcpProtocol)
    (configuredProxyAddress : IpAddr) (proxyPort : UInt16) (counter : Option Int) (now : Instant) :
    (insertAt state flow configuredProxyAddress proxyPort counter now).2.udpBindingKeys.get?
      flow.endpointId = state.udpBindingKeys.get? flow.endpointId := by
  have released := releaseTcpEndpoint_of_udp notTcp state now
  rcases insertAt_cases state flow configuredProxyAddress proxyPort counter now with
    ⟨_, refused⟩ | ⟨_, _, _, rfl, kept | taken | free⟩
  · rw [refused]
  · obtain ⟨previous, _, _, result⟩ := kept
    rw [result, released]
  · obtain ⟨previous, _, different, result⟩ := taken
    rw [result, released, (indexFlow_sameBindings ..).udpBindingKeys]
    exact udpBindingKeys_removeEndpointLocked bound different.symm _ _
  · obtain ⟨_, result⟩ := free
    rw [result, released, (indexFlow_sameBindings ..).udpBindingKeys]

omit bound

/-- An association closes no version without a counter: without one the tuple is free,
and the candidate stays bound, so it is never removed. -/
theorem counted_associateUdpOutboundAt (indexed : Indexed state) (bound : Bound state)
    (counted : Counted state) (request : UdpAssociationRequest) (now : Instant) :
    Counted (associateUdpOutboundAt state request now).2 := by
  have looked := existingUdpTarget_edits state request now
  have lookedIndexed := looked.preserve Indexed.of_edit indexed
  have lookedBound := looked.preserve Bound.of_edit bound
  have lookedCounted :=
    (counted_congr (retiredUdpOutbound_existingUdpTarget state request now)).mpr counted
  unfold associateUdpOutboundAt
  dsimp only
  split
  · exact lookedCounted
  rename_i failed
  split
  · exact lookedCounted
  rename_i endpointId processId unique
  split
  · exact lookedCounted
  rename_i flow made
  obtain ⟨endpoint, udp, key⟩ := udp_eq_some made
  have notTcp : flow.protocol ≠ tcpProtocol := by
    rw [udp]
    decide
  have inserted := (counted_insertAt lookedIndexed lookedCounted flow
    request.configuredProxyAddress request.proxyPort request.capturedAtCounter now).mpr (by
      cases resolved : resolveProxyAddress flow.localAddress
          request.configuredProxyAddress with
      | none => simp [CountsRetirements, uncountedRemovals, resolved]
      | some =>
        rw [countsRetirements_insertAt _ flow resolved]
        refine ⟨fun tcp => absurd tcp notTcp, fun uncounted _ found _ => ?_⟩
        rw [takeoverCounter, if_pos udp] at uncounted
        rw [key, existingUdpTarget_free uncounted failed] at found
        cases found)
  have lookedAgain := (counted_congr (retiredUdpOutbound_existingUdpTarget _
    { request with
      localAddress := normalizeIpAddress request.localAddress
      remoteAddress := normalizeIpAddress request.remoteAddress } now)).mpr inserted
  split
  · exact lookedAgain
  rename_i unbound
  obtain ⟨bindingKey, candidate⟩ := lookedBound.of_candidate unique
  refine absurd (Table.contains_iff.mpr ⟨bindingKey, ?_⟩) unbound
  rw [(existingUdpTarget_sameBindings ..).udpBindingKeys, ← endpoint,
    udpBindingKeys_insertAt lookedBound notTcp, endpoint, candidate]

/-! ### Runs -/

theorem retiredUdpOutbound_bindUdpEndpoint (state : FlowState) (processId : UInt32)
    (endpointId : UInt64) (key : UdpBindingKey) :
    (bindUdpEndpoint state processId endpointId key).retiredUdpOutbound =
      state.retiredUdpOutbound :=
  retiredUdpOutbound_removeUdpBindingLocked state endpointId

theorem retiredUdpOutbound_foldl {Item : Type} {operation : FlowState → Item → FlowState}
    (single : ∀ state item, (operation state item).retiredUdpOutbound = state.retiredUdpOutbound)
    (items : List Item) (state : FlowState) :
    (items.foldl operation state).retiredUdpOutbound = state.retiredUdpOutbound := by
  induction items generalizing state with
  | nil => rfl
  | cons item _ ih => rw [foldl_cons, ih, single]

/-- A call keeps the closed versions counted exactly when it counts retirements. -/
theorem counted_step (indexed : Indexed state) (bound : Bound state) (counted : Counted state)
    (action : FlowAction) : Counted (state.step action) ↔ CountsRetirements state action := by
  have kept : ∀ {after : FlowState}, after.retiredUdpOutbound = state.retiredUdpOutbound →
      uncountedRemovals state action = [] →
      (Counted after ↔ CountsRetirements state action) := by
    grind [CountsRetirements, counted_congr]
  cases action with
  | insertAt _ _ _ _ now =>
    exact counted_insertAt indexed counted ..
  | removeEndpoint endpointId now =>
    refine (counted_removeEndpointLocked indexed counted endpointId now).trans ?_
    simp [CountsRetirements, uncountedRemovals]
  | removeEndpointsAt endpointIds eventTimestamp now =>
    refine iff_of_true ?_ (by simp [CountsRetirements, uncountedRemovals])
    exact (removeEndpoints_retirement endpointIds state (some eventTimestamp)
      now).counted_of_some counted
  | registerUdpBinding _ endpointId localAddress localPort =>
    refine kept ?_ rfl
    grind [FlowState.step, registerUdpBinding, retiredUdpOutbound_bindUdpEndpoint]
  | replaceUdpOwnerBindings removedEndpointIds additions now =>
    refine Iff.trans (counted_congr (retiredUdpOutbound_foldl ?_ additions _))
      (counted_removeEndpoints indexed counted removedEndpointIds now)
    grind [retiredUdpOutbound_bindUdpEndpoint]
  | associateUdpOutboundAt request now =>
    refine iff_of_true ?_ (by simp [CountsRetirements, uncountedRemovals])
    exact counted_associateUdpOutboundAt indexed bound counted request now
  | retainProcessIds _ now =>
    exact Iff.trans (counted_congr (retiredUdpOutbound_foldl
        retiredUdpOutbound_removeUdpBindingLocked _ _))
      (counted_removeEndpoints indexed counted _ now)
  | recordFragmentDecisionAt key _ now =>
    refine kept ?_ rfl
    unfold FlowState.step recordFragmentDecisionAt
    dsimp only
    repeat' split
    all_goals rfl
  | fragmentLookupAt key now => exact kept rfl rfl
  | setTransportReflectedInterface protocol proxyAddress reflectedPort remoteAddress
      originalInterface =>
      refine kept ?_ rfl
      unfold FlowState.step setTransportReflectedInterface
      dsimp only
      split <;> rfl
  | outboundTransportTarget protocol localAddress localPort remoteAddress =>
    exact kept (retiredUdpOutbound_outboundTransportTarget ..) rfl
  | advanceUdpObservationWatermark =>
    refine iff_of_true ?_ (by simp [CountsRetirements, uncountedRemovals])
    refine counted.of_subset fun key _ member => ?_
    unfold FlowState.step at member
    rw [retiredVersions_advance] at member
    exact (mem_retainVersions.mp member).1
  | clear =>
    refine iff_of_true ?_ (by simp [CountsRetirements, uncountedRemovals])
    rintro _ _ ⟨⟩

/-- Throughout a run the table can be reclaimed exactly when no call of the run removes
an endpoint with a UDP tuple without a counter. -/
theorem reclaimable_run (actions : List FlowAction) :
    (∀ first, first <+: actions → Reclaimable (flowMachine.run first)) ↔
      flowMachine.Guarded CountsRetirements FlowState.default actions := by
  simp only [reclaimable_iff_counted]
  have empty : Counted FlowState.default := by
    intro key retired member
    cases member
  refine @Machine.forall_prefix_iff_guarded _ _ _ _
    (fun state => Indexed state ∧ Bound state) _ ?_ ?_ _ ⟨indexed_default, bound_default⟩
    empty _
  · rintro state action ⟨indexed, bound⟩
    exact ⟨indexed.of_step action, bound.of_step action⟩
  · rintro state action ⟨indexed, bound⟩ counted
    exact counted_step indexed bound counted action

/-- A UDP flow is registered and its endpoint is removed without a counter. -/
def uncountedClose : List FlowAction :=
  [ .insertAt ⟨7001, 81, IpAddr.ipv4 192 0 2 10, 53000, IpAddr.ipv4 198 51 100 20, 53, udpProtocol⟩
      IpAddr.localhostV4 1080 (some 10) 0,
    .removeEndpoint 81 1 ]

/-- No watermark reclaims the version of that flow. -/
theorem not_reclaimable_uncountedClose : ¬Reclaimable (flowMachine.run uncountedClose) := by
  rw [reclaimable_iff_counted]
  intro counted
  refine counted ⟨IpAddr.ipv4 192 0 2 10, 53000, IpAddr.ipv4 198 51 100 20, 53, udpProtocol⟩
    ⟨⟨81, ⟨7001, .new (IpAddr.ipv4 198 51 100 20) 53⟩, IpAddr.ipv4 192 0 2 10,
      IpAddr.localhostV4, 53000, 49152, none⟩, some 10, 1, none⟩ ?_ rfl
  decide

end SprakCapture.ProcessCapture
