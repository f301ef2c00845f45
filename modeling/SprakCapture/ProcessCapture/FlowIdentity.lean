import SprakCapture.ProcessCapture.FlowIndex

/-!
# Identity of redirected flows

The rewrite record of a flow is stored in the outbound and in the reflected index.
`RedirectIdentity` says that both copies agree and describe the tuple of their own
pair. Recording an interface writes every outbound entry of the owning endpoint, so
the identity survives only recordings for endpoints with a single flow; with that
guard it holds along every run.
-/

namespace SprakCapture.ProcessCapture

open Data List IpAddr

/-- A socket address without its IPv6 scope. -/
def SocketAddr.eraseScope : SocketAddr → SocketAddr
  | .v4 ip port => .v4 ip port
  | .v6 ip port flowinfo _ => .v6 ip port flowinfo 0

/-- The rewrite record belongs to the pair: it restores the tuple of the outbound key
and reflects through the port of the reflected key. -/
structure Describes (rewrite : RewriteTarget) (outboundKey : OutboundKey)
    (reflectedKey : ReflectedKey) : Prop where
  remote : rewrite.original.address.eraseScope =
    SocketAddr.new outboundKey.remoteAddress outboundKey.remotePort
  localAddress : rewrite.originalLocalAddress = outboundKey.localAddress
  localPort : rewrite.originalLocalPort = outboundKey.localPort
  reflectedPort : rewrite.reflectedPort = reflectedKey.localPort

/-- Both copies of the rewrite record of every pair agree and describe the pair. -/
def PairsIdentified (state : FlowState) : Prop :=
  ∀ {endpointId keys outboundKey reflectedKey},
    state.endpointKeys.get? endpointId = some keys → (outboundKey, reflectedKey) ∈ keys →
    ∃ tracked, state.outbound.get? outboundKey = some tracked ∧
      state.reflected.get? reflectedKey = some tracked.rewrite ∧
      Describes tracked.rewrite outboundKey reflectedKey

/-- The destination reported for a peer is the destination of the flow that owns the
peer's reflected key. -/
def PeersIdentified (state : FlowState) : Prop :=
  ∀ {localAddress peer target}, originalTargetForPeer state localAddress peer = some target →
    ∃ endpointId keys outboundKey, state.endpointKeys.get? endpointId = some keys ∧
      (outboundKey, (⟨normalizeIpAddress localAddress, peer.port, normalizeIpAddress peer.ip,
        tcpProtocol⟩ : ReflectedKey)) ∈ keys ∧
      target.address.eraseScope = SocketAddr.new outboundKey.remoteAddress outboundKey.remotePort

/-- The redirect identity of a table. -/
def RedirectIdentity (state : FlowState) : Prop := PairsIdentified state ∧ PeersIdentified state

/-- A recording of an interface finds an endpoint with no other flow. -/
def recordsSoleFlow (state : FlowState) : FlowAction → Bool
  | .setTransportReflectedInterface protocol proxyAddress reflectedPort remoteAddress _ =>
    (reflectedTransportTarget state protocol proxyAddress reflectedPort remoteAddress).all
      fun existing => decide ((ownedKeys state existing.endpointId).length ≤ 1)
  | _ => true

/-- `recordsSoleFlow` as the guard of a run. -/
def RecordsSoleFlow (state : FlowState) (action : FlowAction) : Prop :=
  recordsSoleFlow state action = true

instance (state : FlowState) (action : FlowAction) : Decidable (RecordsSoleFlow state action) :=
  inferInstanceAs (Decidable (_ = true))

@[simp] theorem SocketAddr.eraseScope_new (address : IpAddr) (port : UInt16) :
    (SocketAddr.new address port).eraseScope = SocketAddr.new address port := by
  cases address <;> rfl

@[simp] theorem eraseScope_withIpv6Scope (target : OriginalTarget) (interfaceIndex : UInt32) :
    (withIpv6Scope target interfaceIndex).address.eraseScope = target.address.eraseScope := by
  unfold withIpv6Scope
  cases target.address with
  | v4 ip port => rfl
  | v6 ip port =>
    dsimp only
    split <;> rfl

/-! ### Pairs -/

/-- The rewrite record describes its pair, and the reflected key is the route through the
proxy that the record names, in the address family of the flow. -/
structure Routes (rewrite : RewriteTarget) (outboundKey : OutboundKey)
    (reflectedKey : ReflectedKey) : Prop extends Describes rewrite outboundKey reflectedKey where
  route : reflectedKey =
    ⟨rewrite.proxyAddress, rewrite.reflectedPort, rewrite.proxyAddress, outboundKey.protocol⟩
  normalized : normalizeIpAddress rewrite.proxyAddress = rewrite.proxyAddress
  family : rewrite.proxyAddress.isIpv4 = outboundKey.localAddress.isIpv4

/-- The state keeps its indices in agreement, and both copies of the rewrite record of
every pair of certain protocols agree and route the pair. -/
structure Identified (protocols : UInt8 → Prop) (state : FlowState) : Prop where
  indexed : Indexed state
  routes : ∀ {endpointId keys outboundKey reflectedKey},
    state.endpointKeys.get? endpointId = some keys → (outboundKey, reflectedKey) ∈ keys →
    protocols outboundKey.protocol →
    ∃ tracked, state.outbound.get? outboundKey = some tracked ∧
      state.reflected.get? reflectedKey = some tracked.rewrite ∧
      Routes tracked.rewrite outboundKey reflectedKey

/-- The reflected entry that a recording of an interface finds. -/
def recordedFlow? (state : FlowState) : FlowAction → Option (ReflectedKey × RewriteTarget)
  | .setTransportReflectedInterface protocol proxyAddress reflectedPort remoteAddress _ =>
    (reflectedTransportTarget state protocol proxyAddress reflectedPort remoteAddress).map
      fun existing => (⟨normalizeIpAddress proxyAddress, reflectedPort,
        normalizeIpAddress remoteAddress, protocol⟩, existing)
  | _ => none

/-- A recording of an interface writes no flow of the protocols but the one it is made for. -/
def RecordsAlone (protocols : UInt8 → Prop) (state : FlowState) (action : FlowAction) : Prop :=
  ∀ recorded ∈ recordedFlow? state action,
    ∀ pair ∈ ownedKeys state recorded.2.endpointId, protocols pair.1.protocol → pair.2 = recorded.1

instance (protocols : UInt8 → Prop) [DecidablePred protocols] (state : FlowState)
    (action : FlowAction) : Decidable (RecordsAlone protocols state action) :=
  inferInstanceAs (Decidable (∀ recorded ∈ recordedFlow? state action,
    ∀ pair ∈ ownedKeys state recorded.2.endpointId, _ → pair.2 = recorded.1))

variable {state : FlowState} {actions : List FlowAction} {flow : CaptureFlow}

section Protocols

variable {protocols : UInt8 → Prop}

theorem identified_default : Identified protocols FlowState.default := by
  refine ⟨indexed_default, ?_⟩
  simp [FlowState.default]

variable {before after : FlowState}

theorem Identified.of_sameIndex (identified : Identified protocols before)
    (same : SameIndex before after) : Identified protocols after := by
  refine ⟨identified.indexed.of_sameIndex same, ?_⟩
  intro _ _ _ _ owner member
  rw [same.endpointKeys] at owner
  rw [same.outbound, same.reflected]
  exact identified.routes owner member

theorem Identified.of_removal {endpointId : UInt64} (identified : Identified protocols before)
    (effect : RemovalEffect before after endpointId) : Identified protocols after := by
  refine ⟨identified.indexed.of_removal effect, ?_⟩
  intro _ _ _ _ owner member
  rw [effect.endpointKeys] at owner
  split at owner
  · cases owner
  rename_i different
  rw [effect.outbound, effect.reflected,
    if_neg (identified.indexed.notMem_ownedOutbound different owner member),
    if_neg (identified.indexed.notMem_ownedReflected different owner member)]
  exact identified.routes owner member

/-- The address a flow is redirected to is normalised and of the family of the flow. -/
theorem resolveProxyAddress_spec {originalLocalAddress configuredProxyAddress proxyAddress : IpAddr}
    (resolved : resolveProxyAddress originalLocalAddress configuredProxyAddress =
      some proxyAddress) :
    normalizeIpAddress proxyAddress = proxyAddress ∧
      proxyAddress.isIpv4 = originalLocalAddress.isIpv4 := by
  unfold resolveProxyAddress at resolved
  dsimp only at resolved
  split at resolved
  · cases resolved
    cases family : originalLocalAddress.isIpv4 with
    | true => exact ⟨rfl, rfl⟩
    | false => exact ⟨by decide, rfl⟩
  grind [normalizeIpAddress_idem]

variable {configuredProxyAddress proxyAddress : IpAddr}

theorem routes_rewriteTargetFor (flow : CaptureFlow)
    (resolved : resolveProxyAddress flow.localAddress configuredProxyAddress = some proxyAddress)
    (reflectedPort : UInt16) :
    Routes (rewriteTargetFor flow proxyAddress reflectedPort) flow.outboundKey
      (reflectedKeyFor flow proxyAddress reflectedPort) := by
  obtain ⟨normalized, family⟩ := resolveProxyAddress_spec resolved
  exact ⟨⟨SocketAddr.eraseScope_new _ _, rfl, rfl, rfl⟩, rfl, normalized, family⟩

section

variable (identified : Identified protocols before)
include identified

theorem Identified.of_insertion {reflectedPort : UInt16} {counter : Option Int}
    (resolved : resolveProxyAddress flow.localAddress configuredProxyAddress = some proxyAddress)
    (free : before.outbound.get? flow.outboundKey = none)
    (effect : InsertionEffect before after flow proxyAddress reflectedPort counter) :
    Identified protocols after := by
  refine ⟨identified.indexed.of_insertion free effect, ?_⟩
  have kept : ∀ {other keys outboundKey reflectedKey},
      before.endpointKeys.get? other = some keys → (outboundKey, reflectedKey) ∈ keys →
      protocols outboundKey.protocol →
      ∃ tracked, after.outbound.get? outboundKey = some tracked ∧
        after.reflected.get? reflectedKey = some tracked.rewrite ∧
        Routes tracked.rewrite outboundKey reflectedKey := by
    intro other keys outboundKey reflectedKey owner member concerned
    obtain ⟨tracked, present, reflected, routes⟩ := identified.routes owner member concerned
    have notNew : outboundKey ≠ flow.outboundKey := by
      grind
    have notNewReflected : reflectedKey ≠ reflectedKeyFor flow proxyAddress reflectedPort := by
      rintro rfl
      rw [effect.free] at reflected
      cases reflected
    refine ⟨tracked, ?_, ?_, routes⟩
    · rw [effect.outbound, if_neg notNew, present]
    · rw [effect.reflected, if_neg notNewReflected, reflected]
  intro other keys outboundKey reflectedKey owner member concerned
  rw [effect.endpointKeys] at owner
  split at owner
  · cases owner
    rcases mem_append.mp member with old | new
    · obtain ⟨_, oldOwner, oldMember⟩ := mem_ownedKeys.mp old
      exact kept oldOwner oldMember concerned
    · cases mem_singleton.mp new
      rw [effect.outbound, effect.reflected]
      grind [routes_rewriteTargetFor]
  · exact kept owner member concerned

theorem Identified.of_promotion {key wildcardKey : OutboundKey} {tracked : TrackedTarget}
    {keys : List (OutboundKey × ReflectedKey)} {reflectedKey : ReflectedKey}
    (effect : PromotionEffect before after key wildcardKey tracked keys reflectedKey) :
    Identified protocols after := by
  refine ⟨identified.indexed.of_promotion effect, ?_⟩
  have listed : (wildcardKey, reflectedKey) ∈ keys := mem_of_find?_eq_some effect.found
  have sameProtocol : wildcardKey.protocol = key.protocol := by rw [effect.wildcard]
  have moved : protocols key.protocol →
      Routes { tracked.rewrite with originalLocalAddress := key.localAddress } key
        reflectedKey := by
    intro concerned
    obtain ⟨found, present, _, routes⟩ := identified.routes effect.owner listed
      (sameProtocol ▸ concerned)
    rw [effect.present] at present
    cases present
    refine ⟨⟨?_, rfl, ?_, routes.reflectedPort⟩, ?_, routes.normalized, ?_⟩
    · rw [routes.remote, effect.wildcard]
    · rw [routes.localPort, effect.wildcard]
    · rw [routes.route, effect.wildcard]
    · rw [routes.family, effect.wildcard]
      exact isIpv4_wildcard _
  -- Pairs other than the renamed one keep both of their entries.
  have kept : ∀ {other otherKeys outboundKey otherReflected},
      before.endpointKeys.get? other = some otherKeys →
      (outboundKey, otherReflected) ∈ otherKeys → protocols outboundKey.protocol →
      outboundKey ≠ wildcardKey →
      ∃ other, after.outbound.get? outboundKey = some other ∧
        after.reflected.get? otherReflected = some other.rewrite ∧
        Routes other.rewrite outboundKey otherReflected := by
    intro other otherKeys outboundKey otherReflected owner member concerned notMoved
    obtain ⟨stored, present, reflected, otherRoutes⟩ := identified.routes owner member concerned
    have notKey : outboundKey ≠ key := by
      rintro rfl
      rw [effect.absent] at present
      cases present
    have notReflected : otherReflected ≠ reflectedKey := by
      rintro rfl
      have same := identified.indexed.reflected_owner owner effect.owner member listed rfl
      rw [same, effect.owner] at owner
      cases owner
      exact notMoved (congrArg Prod.fst (inj_on_of_nodup_map
        (identified.indexed.distinctReflected effect.owner) member listed rfl))
    refine ⟨stored, ?_, ?_, otherRoutes⟩
    · rw [effect.outbound, if_neg notKey, if_neg notMoved, present]
    · rw [effect.reflected, if_neg notReflected, reflected]
  intro other otherKeys outboundKey otherReflected owner member concerned
  rw [effect.endpointKeys] at owner
  split at owner
  · cases owner
    rcases (mem_replaceFirstKey (identified.indexed.distinctOutbound effect.owner) listed _).mp
      member with equal | ⟨old, notMoved⟩
    · cases equal
      rw [effect.outbound, effect.reflected, if_pos rfl, if_pos rfl]
      exact ⟨_, rfl, rfl, moved concerned⟩
    · exact kept effect.owner old concerned notMoved
  · rename_i different
    refine kept owner member concerned ?_
    rintro rfl
    exact different (identified.indexed.outbound_owner owner effect.owner member listed rfl)

/-- Recording an interface writes both copies alike for the only flow of the protocols that
the endpoint has. -/
theorem Identified.of_interface {key : ReflectedKey} {existing : RewriteTarget}
    {originalInterface : NetworkInterface} {scopedOriginal : OriginalTarget}
    (effect : InterfaceEffect before after key existing originalInterface scopedOriginal)
    (alone : ∀ pair ∈ ownedKeys before existing.endpointId, protocols pair.1.protocol → pair.2 = key) :
    Identified protocols after := by
  refine ⟨identified.indexed.of_interface effect, ?_⟩
  intro endpointId keys outboundKey reflectedKey owner member concerned
  rw [effect.endpointKeys] at owner
  obtain ⟨tracked, present, reflected, routes⟩ := identified.routes owner member concerned
  rw [effect.outbound, effect.reflected]
  by_cases own : endpointId = existing.endpointId
  · subst own
    have owned : (outboundKey, reflectedKey) ∈ ownedKeys before existing.endpointId :=
      mem_ownedKeys.mpr ⟨keys, owner, member⟩
    cases alone _ owned concerned
    rw [effect.present] at reflected
    cases reflected
    refine ⟨_, by rw [if_pos (List.mem_map_of_mem owned), present]; rfl, by rw [if_pos rfl], ?_⟩
    refine ⟨⟨?_, routes.localAddress, routes.localPort, routes.reflectedPort⟩,
      routes.route, routes.normalized, routes.family⟩
    change scopedOriginal.address.eraseScope = _
    rw [effect.scope, eraseScope_withIpv6Scope, routes.remote]
  · have otherReflected : reflectedKey ≠ key := by
      rintro rfl
      obtain ⟨_, _, ownOwner, ownMember⟩ :=
        identified.indexed.reflectedOwned effect.present
      exact own (identified.indexed.reflected_owner owner ownOwner member ownMember rfl)
    refine ⟨tracked, ?_, ?_, routes⟩
    · rw [if_neg (identified.indexed.notMem_ownedOutbound own owner member), present]
    · rw [if_neg otherReflected, reflected]

end

theorem Identified.of_indexFlow (identified : Identified protocols state)
    (resolved : resolveProxyAddress flow.localAddress configuredProxyAddress = some proxyAddress)
    (free : state.outbound.get? flow.outboundKey = none) (proxyPort : UInt16)
    (counter : Option Int) :
    Identified protocols (indexFlow state flow proxyAddress proxyPort counter).2 := by
  rcases indexFlow_effect state flow proxyAddress proxyPort counter with
    ⟨_, same⟩ | ⟨_, _, effect⟩
  · exact identified.of_sameIndex same
  · exact identified.of_insertion resolved free effect

theorem Identified.of_edit (edit : FlowEdit before after)
    (identified : Identified protocols before) : Identified protocols after := by
  cases edit with
  | removal endpointId counter now => exact identified.of_removal (removeEndpointLocked_effect ..)
  | insertion _ _ _ counter now =>
    exact insertAt_preserve Identified.indexed
      (fun _ _ _ holds => holds.of_removal (removeEndpointLocked_effect ..))
      (fun _ _ _ holds free resolved => holds.of_indexFlow resolved free _ _) identified _ _ _
  | promotion protocol localAddress localPort remoteAddress remotePort =>
    rcases outboundTransportTarget_effect before protocol localAddress localPort remoteAddress
      remotePort with same | ⟨_, _, _, _, effect⟩
    · exact identified.of_sameIndex same
    · exact identified.of_promotion effect
  | binding _ endpointId => exact identified.of_sameIndex (bindUdpEndpoint_sameIndex ..)
  | unbinding endpointId => exact identified.of_sameIndex (removeUdpBindingLocked_sameIndex ..)
  | fragments | watermark counter => exact identified.of_sameIndex ⟨rfl, rfl, rfl⟩

theorem Identified.of_step (identified : Identified protocols state) (action : FlowAction)
    (alone : RecordsAlone protocols state action) : Identified protocols (state.step action) := by
  refine step_preserve identified_default Identified.of_edit identified action ?_
  rintro protocol proxyAddress reflectedPort remoteAddress originalInterface rfl
  rcases setTransportReflectedInterface_effect state protocol proxyAddress reflectedPort
    remoteAddress originalInterface with unchanged | ⟨existing, _, effect⟩
  · rw [unchanged]
    exact identified
  · refine identified.of_interface effect (alone (_, existing) ?_)
    have found : reflectedTransportTarget state protocol proxyAddress reflectedPort remoteAddress =
        some existing := effect.present
    simp [recordedFlow?, found]

theorem identified_run
    (guarded : flowMachine.Guarded (RecordsAlone protocols) FlowState.default actions) :
    Identified protocols (flowMachine.run actions) :=
  Machine.guarded_run identified_default
    (fun _ action identified guard => identified.of_step action guard) guarded

end Protocols

/-- An endpoint with a single flow has no other flow to write. -/
theorem RecordsSoleFlow.alone (indexed : Indexed state) {action : FlowAction}
    (sole : RecordsSoleFlow state action) : RecordsAlone (fun _ => True) state action := by
  rintro ⟨key, existing⟩ recorded _ owned _
  cases action with
  | setTransportReflectedInterface protocol proxyAddress reflectedPort remoteAddress =>
    obtain ⟨found, rfl⟩ : reflectedTransportTarget state protocol proxyAddress reflectedPort
        remoteAddress = some existing ∧ (⟨normalizeIpAddress proxyAddress, reflectedPort,
          normalizeIpAddress remoteAddress, protocol⟩ : ReflectedKey) = key := by
      simpa [recordedFlow?] using recorded
    obtain ⟨keys, _, owner, member⟩ := indexed.reflectedOwned found
    have recorded := mem_ownedKeys.mpr ⟨keys, owner, member⟩
    have short : (ownedKeys state existing.endpointId).length ≤ 1 := by
      simpa [RecordsSoleFlow, recordsSoleFlow, found] using sole
    match ownedKeys state existing.endpointId, short, owned, recorded with
    | [only], _, owned, recorded =>
      grind
  | _ => cases recorded

theorem soleFlows_run (guarded : flowMachine.Guarded RecordsSoleFlow FlowState.default actions) :
    Identified (fun _ => True) (flowMachine.run actions) :=
  Machine.guarded_run identified_default
    (fun _ action identified guard =>
      identified.of_step action (guard.alone identified.indexed)) guarded

/-! ### Peers -/

theorem Identified.pairs (identified : Identified (fun _ => True) state) :
    PairsIdentified state := by
  intro _ _ _ _ owner member
  obtain ⟨tracked, present, reflected, routes⟩ := identified.routes owner member trivial
  exact ⟨tracked, present, reflected, routes.toDescribes⟩

theorem Identified.peers (identified : Identified (fun _ => True) state) :
    PeersIdentified state := by
  intro _ _ _ reported
  obtain ⟨rewrite, found, rfl⟩ := Option.map_eq_some_iff.mp reported
  obtain ⟨keys, outboundKey, owner, member⟩ := identified.indexed.reflectedOwned found
  obtain ⟨_, _, reflected, describes⟩ := identified.pairs owner member
  have same : state.reflected.get? _ = some rewrite := found
  rw [reflected] at same
  cases same
  exact ⟨_, keys, outboundKey, owner, member, describes.remote⟩

/-- In every run that records interfaces only for endpoints with a single flow, the
redirect identity holds in the state reached. -/
theorem redirectIdentity_run (actions : List FlowAction)
    (guarded : flowMachine.Guarded RecordsSoleFlow FlowState.default actions) :
    RedirectIdentity (flowMachine.run actions) :=
  ⟨(soleFlows_run guarded).pairs, (soleFlows_run guarded).peers⟩

/-- A TCP connection is registered on the wildcard address, promoted to its real local
address by its first packet, and then gets its interface. -/
def promotedConnection : List FlowAction :=
  [ .insertAt ⟨4200, 91, unspecifiedV4, 52100, IpAddr.ipv4 198 51 100 20, 443, tcpProtocol⟩
      localhostV4 1080 none 0,
    .outboundTransportTarget tcpProtocol (IpAddr.ipv4 192 0 2 10) 52100
      (IpAddr.ipv4 198 51 100 20) 443,
    .setTransportReflectedInterface tcpProtocol localhostV4 49152 localhostV4
      ⟨12, 3⟩ ]

theorem redirectIdentity_promotedConnection :
    flowMachine.Guarded RecordsSoleFlow FlowState.default promotedConnection ∧
      RedirectIdentity (flowMachine.run promotedConnection) :=
  ⟨by decide, redirectIdentity_run promotedConnection (by decide)⟩

/-- One UDP endpoint talks to two remotes, and the interface of the first is recorded. -/
def twoRemotes : List FlowAction :=
  [ .insertAt ⟨7001, 81, IpAddr.ipv4 192 0 2 10, 53000, IpAddr.ipv4 198 51 100 20, 53, udpProtocol⟩
      localhostV4 1080 none 0,
    .insertAt ⟨7001, 81, IpAddr.ipv4 192 0 2 10, 53000, IpAddr.ipv4 203 0 113 7, 443, udpProtocol⟩
      localhostV4 1080 none 0,
    .setTransportReflectedInterface udpProtocol localhostV4 49152 localhostV4
      ⟨12, 3⟩ ]

/-- The outbound entry of the second remote then names the first remote. -/
theorem not_redirectIdentity_twoRemotes : ¬ RedirectIdentity (flowMachine.run twoRemotes) := by
  rintro ⟨pairs, _⟩
  have owner : (flowMachine.run twoRemotes).endpointKeys.get? 81 = some
      [ (⟨IpAddr.ipv4 192 0 2 10, 53000, IpAddr.ipv4 198 51 100 20, 53, udpProtocol⟩,
          ⟨localhostV4, 49152, localhostV4, udpProtocol⟩),
        (⟨IpAddr.ipv4 192 0 2 10, 53000, IpAddr.ipv4 203 0 113 7, 443, udpProtocol⟩,
          ⟨localhostV4, 49153, localhostV4, udpProtocol⟩) ] := by
    decide
  obtain ⟨tracked, present, _, describes⟩ := pairs owner (mem_cons_of_mem _ mem_cons_self)
  have remote := describes.remote
  have contaminated : ((flowMachine.run twoRemotes).outbound.get?
      ⟨IpAddr.ipv4 192 0 2 10, 53000, IpAddr.ipv4 203 0 113 7, 443, udpProtocol⟩).map
        (fun tracked => tracked.rewrite.original.address.eraseScope) =
      some (SocketAddr.new (IpAddr.ipv4 198 51 100 20) 53) := by
    decide
  rw [present, Option.map_some, remote] at contaminated
  exact absurd contaminated (by decide)

end SprakCapture.ProcessCapture
