import SprakCapture.ProcessCapture.FlowReclamation

/-!
# Registrations the flow table refuses

`insertAt` releases the previous connection of a TCP endpoint, and the holder of
a colliding tuple, before it knows whether the tuple is a duplicate or a reflected
port is left. A refusal is therefore without effect only under a condition on the
table before the call, which this module states and proves exact.
-/

namespace SprakCapture.ProcessCapture

open Data

/-- The tables a refused registration must leave as they were. -/
structure SameTables (before after : FlowState) : Prop where
  outbound : after.outbound = before.outbound
  reflected : after.reflected = before.reflected
  endpointKeys : after.endpointKeys = before.endpointKeys
  udpBindings : after.udpBindings = before.udpBindings
  fragmentDecisions : after.fragmentDecisions = before.fragmentDecisions

/-- The table holds this very flow for its endpoint. A wildcard tuple that a packet
has promoted is held under the local address of that packet. -/
def HoldsFlow (state : FlowState) (flow : CaptureFlow) : Prop :=
  ∃ tracked, state.outbound.get? flow.outboundKey = some tracked ∧
    tracked.endpointId = flow.endpointId ∧
    tracked.rewrite.original.processId = flow.processId

/-- A refusal changes none of the tables, and a flow already registered is refused. -/
def RefusesCleanly (state : FlowState) (flow : CaptureFlow) (configuredProxyAddress : IpAddr)
    (proxyPort : UInt16) (activeFromCounter : Option Int) (now : Instant) : Prop :=
  ((insertAt state flow configuredProxyAddress proxyPort activeFromCounter now).1 = false →
    SameTables state
      (insertAt state flow configuredProxyAddress proxyPort activeFromCounter now).2) ∧
  (HoldsFlow state flow →
    (insertAt state flow configuredProxyAddress proxyPort activeFromCounter now).1 = false)

/-- The endpoints a registration takes out of the table: its own for a TCP flow, and
another one that holds the tuple. -/
def GivesWay (state : FlowState) (flow : CaptureFlow) (endpointId : UInt64) : Prop :=
  (flow.protocol = tcpProtocol ∧ endpointId = flow.endpointId) ∨
    ∃ holder, state.outbound.get? flow.outboundKey = some holder ∧
      holder.endpointId = endpointId ∧ endpointId ≠ flow.endpointId

/-- An endpoint has key pairs, a UDP binding or a fragment decision in the table. -/
def Owns (state : FlowState) (endpointId : UInt64) : Prop :=
  state.endpointKeys.contains endpointId ∨ state.udpBindingKeys.contains endpointId ∨
    ∃ key decision, state.fragmentDecisions.get? key = some decision ∧ decision.blocksFor endpointId

/-- Some reflected port other than the proxy's is free, or held by an endpoint that
gives way. -/
def PortAvailable (state : FlowState) (flow : CaptureFlow) (proxyAddress : IpAddr)
    (proxyPort : UInt16) : Prop :=
  ∃ port, port ≠ 0 ∧ port ≠ proxyPort ∧ ∀ rewrite,
    state.reflected.get? (reflectedKeyFor flow proxyAddress port) = some rewrite →
      GivesWay state flow rewrite.endpointId

/-- The registrations that refuse cleanly: with a usable listener, the flow is no TCP
flow of the table, and a port is available or nothing of the table gives way. -/
def CleanRegistration (state : FlowState) (flow : CaptureFlow) (configuredProxyAddress : IpAddr)
    (proxyPort : UInt16) : Prop :=
  ∀ proxyAddress,
    resolveProxyAddress flow.localAddress configuredProxyAddress = some proxyAddress →
      (flow.protocol = tcpProtocol → ¬HoldsFlow state flow) ∧
        (PortAvailable state flow proxyAddress proxyPort ∨
          ∀ endpointId, GivesWay state flow endpointId → ¬Owns state endpointId)

/-! ### The search visits every port -/

/-- The candidate after a port: the search wraps from the last port to port one. -/
def portAfter (candidate : UInt16) : UInt16 := if candidate = 65535 then 1 else candidate + 1

theorem toNat_portAfter (candidate : UInt16) :
    (portAfter candidate).toNat = candidate.toNat % 65535 + 1 := by
  unfold portAfter
  split
  · rename_i last
    rw [last]
    rfl
  rename_i notLast
  have bound : candidate.toNat < 65535 := by
    have below := candidate.toNat_lt
    have different : candidate.toNat ≠ 65535 := fun same => notLast (UInt16.toNat_inj.mp same)
    omega
  rw [Nat.mod_eq_of_lt bound]
  exact Nat.mod_eq_of_lt (by simpa using by omega)

variable {start : UInt16}

/-- The candidates run through the nonzero ports in a circle. -/
theorem toNat_portAfter_iterate (positive : start ≠ 0) (count : Nat) :
    (portAfter^[count] start).toNat = (start.toNat - 1 + count) % 65535 + 1 := by
  have nonzero : start.toNat ≠ 0 := fun same => positive (UInt16.toNat_inj.mp same)
  induction count with
  | zero =>
    have below := start.toNat_lt
    simp only [Function.iterate_zero, id_eq]
    omega
  | succ count =>
    rw [Function.iterate_succ_apply', toNat_portAfter]
    omega

/-- A port the search may return. -/
def UsablePort (reflected : Table ReflectedKey RewriteTarget) (localAddress remoteAddress : IpAddr)
    (proxyPort : UInt16) (protocol : UInt8) (port : UInt16) : Prop :=
  port ≠ proxyPort ∧
    reflected.get? { localAddress, localPort := port, remoteAddress, protocol } = none

variable (reflected : Table ReflectedKey RewriteTarget) (localAddress remoteAddress : IpAddr)

variable (proxyPort : UInt16) (state : FlowState) (protocol : UInt8) (endpointId : UInt64)
  (remaining : Nat)

/-- The search fails exactly when none of its candidates is usable. -/
theorem searchReflectedPort_eq_none_iff (start : UInt16) :
    (searchReflectedPort reflected localAddress remoteAddress proxyPort protocol remaining
        start).1 = none ↔
      ∀ count < remaining,
        ¬UsablePort reflected localAddress remoteAddress proxyPort protocol
          (portAfter^[count] start) := by
  induction remaining generalizing start with
  | zero => simp [searchReflectedPort]
  | succ remaining ih =>
    have usable : UsablePort reflected localAddress remoteAddress proxyPort protocol start ↔
        start ≠ proxyPort ∧ (!reflected.contains
          { localAddress, localPort := start, remoteAddress, protocol }) = true := by
      simp [UsablePort]
    unfold searchReflectedPort
    dsimp only
    split
    · rename_i accepted
      refine iff_of_false (by simp) fun refused => ?_
      exact refused 0 (Nat.succ_pos remaining) (usable.mpr accepted)
    rename_i rejected
    refine (ih (portAfter start)).trans ?_
    constructor
    · intro refused count within
      cases count with
      | zero => exact fun accepted => rejected (usable.mp accepted)
      | succ count => exact refused count (by omega)
    · intro refused count within
      exact refused (count + 1) (by omega)

theorem searchReflectedPort_all (positive : start ≠ 0) :
    (searchReflectedPort reflected localAddress remoteAddress proxyPort protocol 65535
        start).1 = none ↔
      ∀ port, port ≠ 0 →
        ¬UsablePort reflected localAddress remoteAddress proxyPort protocol port := by
  rw [searchReflectedPort_eq_none_iff]
  constructor
  · intro refused port nonzero
    have portPositive : port.toNat ≠ 0 := fun same => nonzero (UInt16.toNat_inj.mp same)
    have startPositive : start.toNat ≠ 0 := fun same => positive (UInt16.toNat_inj.mp same)
    have portBound := port.toNat_lt
    have startBound := start.toNat_lt
    have reached : portAfter^[(port.toNat + 65535 - start.toNat) % 65535] start = port := by
      apply UInt16.toNat_inj.mp
      rw [toNat_portAfter_iterate positive]
      omega
    have refusal := refused ((port.toNat + 65535 - start.toNat) % 65535) (Nat.mod_lt _ (by omega))
    rwa [reached] at refusal
  · intro refused count _
    refine refused _ fun zero => ?_
    have value := toNat_portAfter_iterate positive count
    rw [zero] at value
    simp at value

/-! ### The next port is never zero -/

@[simp] theorem nextReflectedPort_removeUdpBindingLocked :
    (removeUdpBindingLocked state endpointId).nextReflectedPort = state.nextReflectedPort := by
  grind [removeUdpBindingLocked]

@[simp] theorem nextReflectedPort_removeEndpointLocked (counter : Option Int) (now : Instant) :
    (removeEndpointLocked state endpointId counter now).nextReflectedPort =
      state.nextReflectedPort := by
  have pairs : ∀ (keys : List (OutboundKey × ReflectedKey)) (start : FlowState),
      (keys.foldl (removeKeyPair now counter) start).nextReflectedPort =
        start.nextReflectedPort := by
    intro keys
    induction keys with
    | nil => exact fun _ => rfl
    | cons _ _ ih => exact fun start => ih _
  grind [removeEndpointLocked, removeEndpointKeys, nextReflectedPort_removeUdpBindingLocked]

@[simp] theorem nextReflectedPort_outboundTransportTarget (localAddress : IpAddr)
    (localPort : UInt16) (remoteAddress : IpAddr) (remotePort : UInt16) :
    (outboundTransportTarget state protocol localAddress localPort remoteAddress
      remotePort).2.nextReflectedPort = state.nextReflectedPort := by
  grind [outboundTransportTarget]

theorem portAfter_ne_zero (candidate : UInt16) : portAfter candidate ≠ 0 := by
  intro zero
  have value := toNat_portAfter candidate
  rw [zero] at value
  simp at value

theorem searchReflectedPort_next_ne_zero (positive : start ≠ 0) :
    (searchReflectedPort reflected localAddress remoteAddress proxyPort protocol remaining
      start).2 ≠ 0 := by
  induction remaining generalizing start with
  | zero => exact positive
  | succ remaining =>
    grind [searchReflectedPort]

theorem searchReflectedPort_ne_zero (positive : start ≠ 0) :
    (searchReflectedPort reflected localAddress remoteAddress proxyPort protocol remaining
      start).1 ≠ some 0 := by
  induction remaining generalizing start with
  | zero => simp [searchReflectedPort]
  | succ remaining ih =>
    have := ih (portAfter_ne_zero start)
    grind [searchReflectedPort, portAfter]

/-- The next candidate is a real port. -/
def StartsPositive (state : FlowState) : Prop := state.nextReflectedPort ≠ 0

variable {state : FlowState}

theorem startsPositive_indexFlow (positive : StartsPositive state) (flow : CaptureFlow)
    (proxyAddress : IpAddr) (proxyPort : UInt16) (counter : Option Int) :
    StartsPositive (indexFlow state flow proxyAddress proxyPort counter).2 := by
  have next := searchReflectedPort_next_ne_zero state.reflected proxyAddress proxyAddress proxyPort
    flow.protocol 65535 positive
  unfold indexFlow allocateReflectedPort
  split
  · rename_i allocated
    obtain ⟨_, rfl⟩ := Prod.mk.inj allocated
    exact next
  · rename_i allocated
    obtain ⟨_, rfl⟩ := Prod.mk.inj allocated
    exact next

theorem startsPositive_insertAt (positive : StartsPositive state) (flow : CaptureFlow)
    (configuredProxyAddress : IpAddr) (proxyPort : UInt16) (counter : Option Int) (now : Instant) :
    StartsPositive (insertAt state flow configuredProxyAddress proxyPort counter now).2 := by
  have released : StartsPositive (releaseTcpEndpoint state flow now) := by
    unfold releaseTcpEndpoint
    split
    · exact (nextReflectedPort_removeEndpointLocked ..).trans_ne positive
    · exact positive
  rcases insertAt_cases state flow configuredProxyAddress proxyPort counter now with
    ⟨_, refused⟩ | ⟨proxyAddress, _, _, rfl, kept | taken | _⟩
  · rw [refused]
    exact positive
  · obtain ⟨_, _, _, result⟩ := kept
    rw [result]
    exact released
  · obtain ⟨_, _, _, result⟩ := taken
    rw [result]
    exact startsPositive_indexFlow ((nextReflectedPort_removeEndpointLocked ..).trans_ne released)
      flow proxyAddress proxyPort counter
  · grind [startsPositive_indexFlow]

theorem startsPositive_edit {before after : FlowState} (edit : FlowEdit before after)
    (positive : StartsPositive before) : StartsPositive after := by
  cases edit with
  | removal endpointId counter now =>
    exact (nextReflectedPort_removeEndpointLocked ..).trans_ne positive
  | insertion _ _ _ counter now =>
    grind [startsPositive_insertAt]
  | promotion =>
    exact (nextReflectedPort_outboundTransportTarget ..).trans_ne positive
  | binding _ endpointId | unbinding endpointId =>
    exact (nextReflectedPort_removeUdpBindingLocked before endpointId).trans_ne positive
  | fragments | watermark counter => exact positive

theorem startsPositive_run (actions : List FlowAction) :
    StartsPositive (flowMachine.run actions) := by
  have initial : StartsPositive FlowState.default :=
    show FlowState.default.nextReflectedPort ≠ 0 by decide
  refine Machine.invariant_run initial (fun _ action positive => ?_) actions
  refine step_preserve initial (fun edit => startsPositive_edit edit) positive action ?_
  intro _ _ _ _ _ _
  unfold setTransportReflectedInterface
  dsimp only
  split <;> exact positive

/-- A port that a registration in this state can take. -/
def FreePort (state : FlowState) (flow : CaptureFlow) (proxyAddress : IpAddr)
    (proxyPort : UInt16) : Prop :=
  ∃ port, port ≠ 0 ∧ port ≠ proxyPort ∧
    state.reflected.get? (reflectedKeyFor flow proxyAddress port) = none

/-- A free tuple is indexed exactly when a port is free; otherwise only the next
candidate changes. -/
theorem indexFlow_refuses_iff (positive : StartsPositive state) (flow : CaptureFlow)
    (proxyAddress : IpAddr) (proxyPort : UInt16) (counter : Option Int) :
    (indexFlow state flow proxyAddress proxyPort counter).1 = false ↔
      ¬FreePort state flow proxyAddress proxyPort := by
  have all := searchReflectedPort_all state.reflected proxyAddress proxyAddress proxyPort
    flow.protocol positive
  have free : ¬FreePort state flow proxyAddress proxyPort ↔ ∀ port, port ≠ 0 →
      ¬UsablePort state.reflected proxyAddress proxyAddress proxyPort flow.protocol port := by
    simp [FreePort, UsablePort, reflectedKeyFor]
  grind [indexFlow, allocateReflectedPort]

variable {flow : CaptureFlow} {counter : Option Int} {proxyPort : UInt16}

theorem indexFlow_refused_sameTables {proxyAddress : IpAddr}
    (refused : (indexFlow state flow proxyAddress proxyPort counter).1 = false) :
    SameTables state (indexFlow state flow proxyAddress proxyPort counter).2 := by
  unfold indexFlow allocateReflectedPort at *
  split at refused
  · rename_i allocated
    obtain ⟨_, rfl⟩ := Prod.mk.inj allocated
    exact ⟨rfl, rfl, rfl, rfl, rfl⟩
  · cases refused

/-! ### What a removal changes -/

theorem SameTables.trans {first second third : FlowState} (left : SameTables first second)
    (right : SameTables second third) : SameTables first third :=
  ⟨right.outbound.trans left.outbound, right.reflected.trans left.reflected,
    right.endpointKeys.trans left.endpointKeys, right.udpBindings.trans left.udpBindings,
    right.fragmentDecisions.trans left.fragmentDecisions⟩

/-- Removing an endpoint changes the tables exactly when it owns something in them. -/
theorem removeEndpointLocked_sameTables_iff (bound : Bound state) (endpointId : UInt64)
    (counter : Option Int) (now : Instant) :
    SameTables state (removeEndpointLocked state endpointId counter now) ↔
      ¬Owns state endpointId := by
  have removal := removeEndpointLocked_effect state endpointId counter now
  have bindings := (removeEndpointKeys_effect state endpointId counter now).2
  have unbinding := removeUdpBindingLocked_effect (bound.of_sameBindings bindings) endpointId
  have decisions := fragmentDecisions_removeEndpointLocked state endpointId counter now
  constructor
  · intro same
    rintro (listed | listed | ⟨key, decision, stored, blocks⟩)
    · have gone := removal.endpointKeys endpointId
      rw [same.endpointKeys] at gone
      simp [gone] at listed
    · obtain ⟨key, listedKey⟩ := Option.isSome_iff_exists.mp listed
      obtain ⟨processId, found, stored, own⟩ := bound.binds_iff.mp listedKey
      refine ((unbinding.binds key endpointId processId).mp ⟨found, ?_, own⟩).1 rfl
      exact (congrArg (fun table => Table.get? table key) same.udpBindings).trans stored
    · have kept := same.fragmentDecisions
      rw [decisions] at kept
      have lookup := congrArg (fun table => Table.get? table key) kept
      simp [Table.get?_retain, stored, blocks] at lookup
  · intro ownsNothing
    simp only [Owns, not_or, not_exists, not_and] at ownsNothing
    obtain ⟨noKeys, noBinding, noDecision⟩ := ownsNothing
    have keysAbsent : state.endpointKeys.get? endpointId = none := by
      simpa [Table.contains] using noKeys
    have bindingAbsent : state.udpBindingKeys.get? endpointId = none := by
      simpa [Table.contains] using noBinding
    have keysKept : removeEndpointKeys state endpointId counter now = state := by
      unfold removeEndpointKeys
      rw [keysAbsent]
    have bindingKept : removeUdpBindingLocked state endpointId = state := by
      unfold removeUdpBindingLocked
      rw [bindingAbsent]
    have decisionsKept : (removeEndpointLocked state endpointId counter now).fragmentDecisions =
        state.fragmentDecisions := by
      rw [decisions]
      refine Table.retain_eq_self fun key decision stored => ?_
      simpa using noDecision key decision stored
    refine ⟨?_, ?_, ?_, ?_, decisionsKept⟩ <;> simp [removeEndpointLocked, keysKept, bindingKept]

theorem Indexed.reflected_removed_iff (indexed : Indexed state) (endpointId : UInt64)
    (counter : Option Int) (now : Instant) {key : ReflectedKey} {rewrite : RewriteTarget} :
    (removeEndpointLocked state endpointId counter now).reflected.get? key = some rewrite ↔
      state.reflected.get? key = some rewrite ∧ rewrite.endpointId ≠ endpointId := by
  rw [(removeEndpointLocked_effect state endpointId counter now).reflected]
  constructor
  · intro found
    split at found
    · cases found
    rename_i notOwned
    refine ⟨found, ?_⟩
    rintro rfl
    obtain ⟨keys, outboundKey, owner, member⟩ := indexed.reflectedOwned found
    exact notOwned (List.mem_map.mpr ⟨_, mem_ownedKeys.mpr ⟨keys, owner, member⟩, rfl⟩)
  · rintro ⟨found, different⟩
    obtain ⟨keys, outboundKey, owner, member⟩ := indexed.reflectedOwned found
    rw [if_neg (indexed.notMem_ownedReflected different owner member), found]

/-- A port is free after removals exactly if it was free or its holder was removed. -/
theorem freePort_iff_available {state cleared : FlowState}
    (remaining : ∀ {key rewrite}, cleared.reflected.get? key = some rewrite ↔
      state.reflected.get? key = some rewrite ∧ ¬GivesWay state flow rewrite.endpointId)
    (proxyAddress : IpAddr) (proxyPort : UInt16) :
    FreePort cleared flow proxyAddress proxyPort ↔
      PortAvailable state flow proxyAddress proxyPort := by
  refine exists_congr fun _ => and_congr_right fun _ => and_congr_right fun _ => ?_
  simp [Option.eq_none_iff_forall_ne_some, remaining]

/-- The endpoint of a TCP flow gives way without holding a tuple after its release. -/
theorem Indexed.not_held_released (indexed : Indexed state) (tcp : flow.protocol = tcpProtocol)
    (now : Instant) {tracked : TrackedTarget}
    (found : (releaseTcpEndpoint state flow now).outbound.get? flow.outboundKey = some tracked) :
    tracked.endpointId ≠ flow.endpointId := by
  unfold releaseTcpEndpoint at found
  rw [if_pos tcp, (removeEndpointLocked_effect state flow.endpointId none now).outbound] at found
  split at found
  · cases found
  rename_i notOwned
  intro same
  obtain ⟨keys, _, owner, member⟩ := indexed.owned found
  rw [same] at owner
  exact notOwned (List.mem_map.mpr ⟨_, mem_ownedKeys.mpr ⟨keys, owner, member⟩, rfl⟩)

/-- What is left of the reflected index once the endpoint of a TCP flow is released. -/
theorem Indexed.reflected_released_iff (indexed : Indexed state) (flow : CaptureFlow)
    (now : Instant) {key : ReflectedKey} {rewrite : RewriteTarget} :
    (releaseTcpEndpoint state flow now).reflected.get? key = some rewrite ↔
      state.reflected.get? key = some rewrite ∧
        ¬(flow.protocol = tcpProtocol ∧ rewrite.endpointId = flow.endpointId) := by
  unfold releaseTcpEndpoint
  split
  · rename_i tcp
    rw [indexed.reflected_removed_iff]
    simp [tcp]
  · rename_i notTcp
    simp [notTcp]

/-! ### When a registration refuses cleanly -/

/-- A holder of the tuple other than the flow's endpoint owns it in the table. -/
theorem Indexed.owns_holder (indexed : Indexed state) {key : OutboundKey} {holder : TrackedTarget}
    (held : state.outbound.get? key = some holder) : Owns state holder.endpointId := by
  obtain ⟨_, _, owner, _⟩ := indexed.owned held
  exact .inl (by simp [Table.contains, owner])

theorem startsPositive_released (positive : StartsPositive state) (flow : CaptureFlow)
    (now : Instant) : StartsPositive (releaseTcpEndpoint state flow now) := by
  unfold releaseTcpEndpoint
  split
  · exact (nextReflectedPort_removeEndpointLocked ..).trans_ne positive
  · exact positive

variable {now : Instant} {previous : TrackedTarget}

/-- A UDP flow whose endpoint holds the tuple is refused without any change. -/
theorem refusesCleanly_of_kept (indexed : Indexed state) {configuredProxyAddress : IpAddr}
    (present : (releaseTcpEndpoint state flow now).outbound.get? flow.outboundKey = some previous)
    (same : previous.endpointId = flow.endpointId)
    (result : insertAt state flow configuredProxyAddress proxyPort counter now =
      (false, releaseTcpEndpoint state flow now)) :
    RefusesCleanly state flow configuredProxyAddress proxyPort counter now ∧
      CleanRegistration state flow configuredProxyAddress proxyPort := by
  have notTcp : flow.protocol ≠ tcpProtocol :=
    fun tcp => indexed.not_held_released tcp now present same
  rw [releaseTcpEndpoint_of_udp notTcp] at present result
  refine ⟨?_, fun _ _ => ⟨fun tcp => absurd tcp notTcp, .inr ?_⟩⟩
  · unfold RefusesCleanly
    rw [result]
    exact ⟨fun _ => ⟨rfl, rfl, rfl, rfl, rfl⟩, fun _ => rfl⟩
  · rintro endpointId (⟨tcp, _⟩ | ⟨_, _, rfl, _⟩)
    · exact absurd tcp notTcp
    simp_all

variable {configuredProxyAddress proxyAddress : IpAddr}

theorem refusesCleanly_of_taken (indexed : Indexed state) (positive : StartsPositive state)
    (resolved : resolveProxyAddress flow.localAddress configuredProxyAddress = some proxyAddress)
    (present : (releaseTcpEndpoint state flow now).outbound.get? flow.outboundKey = some previous)
    (different : previous.endpointId ≠ flow.endpointId)
    (result : insertAt state flow configuredProxyAddress proxyPort counter now =
      indexFlow
        (removeEndpointLocked (releaseTcpEndpoint state flow now) previous.endpointId
          (takeoverCounter flow counter) now)
        flow proxyAddress proxyPort counter) :
    RefusesCleanly state flow configuredProxyAddress proxyPort counter now ↔
      CleanRegistration state flow configuredProxyAddress proxyPort := by
  have held := (indexed.holder_released flow now different).mp present
  have unregistered : ¬HoldsFlow state flow := by
    rintro ⟨_, _, same, _⟩
    simp_all
  have givesWay : ∀ endpointId, GivesWay state flow endpointId ↔
      (flow.protocol = tcpProtocol ∧ endpointId = flow.endpointId) ∨
        endpointId = previous.endpointId := by
    unfold GivesWay
    grind
  have gone := (indexed.of_releaseTcpEndpoint flow now).free_of_removal present
    (takeoverCounter flow counter) now
  have left : StartsPositive (removeEndpointLocked (releaseTcpEndpoint state flow now)
      previous.endpointId (takeoverCounter flow counter) now) :=
    (nextReflectedPort_removeEndpointLocked ..).trans_ne (startsPositive_released positive flow now)
  have remaining : ∀ {key rewrite}, (removeEndpointLocked (releaseTcpEndpoint state flow now)
      previous.endpointId (takeoverCounter flow counter) now).reflected.get? key = some rewrite ↔
        state.reflected.get? key = some rewrite ∧ ¬GivesWay state flow rewrite.endpointId := by
    intro key rewrite
    rw [(indexed.of_releaseTcpEndpoint flow now).reflected_removed_iff,
      indexed.reflected_released_iff, givesWay, not_or, and_assoc]
  have available := freePort_iff_available remaining proxyAddress proxyPort
  have refuses := indexFlow_refuses_iff left flow proxyAddress proxyPort counter
  have clean : CleanRegistration state flow configuredProxyAddress proxyPort ↔
      PortAvailable state flow proxyAddress proxyPort := by
    constructor
    · intro clean
      rcases (clean proxyAddress resolved).2 with port | idle
      · exact port
      · exact absurd (indexed.owns_holder held) (idle _ ((givesWay _).mpr (.inr rfl)))
    · intro port _ _
      simp_all
  rw [clean, ← available]
  unfold RefusesCleanly
  rw [result]
  constructor
  · intro cleanly
    by_contra exhausted
    have refused := refuses.mpr exhausted
    have same := (cleanly.1 refused).outbound
    rw [(indexFlow_refused_sameTables refused).outbound] at same
    rw [same, held] at gone
    cases gone
  simp_all

/-- A registration of a tuple that is free once the endpoint of a TCP flow is released
refuses cleanly exactly under the stated condition. -/
theorem refusesCleanly_of_free (indexed : Indexed state) (bound : Bound state)
    (positive : StartsPositive state)
    (resolved : resolveProxyAddress flow.localAddress configuredProxyAddress = some proxyAddress)
    (absent : (releaseTcpEndpoint state flow now).outbound.get? flow.outboundKey = none)
    (result : insertAt state flow configuredProxyAddress proxyPort counter now =
      indexFlow (releaseTcpEndpoint state flow now) flow proxyAddress proxyPort counter) :
    RefusesCleanly state flow configuredProxyAddress proxyPort counter now ↔
      CleanRegistration state flow configuredProxyAddress proxyPort := by
  -- Only the endpoint of a TCP flow can give way: another holder would still hold the tuple.
  have givesWay : ∀ endpointId, GivesWay state flow endpointId ↔
      flow.protocol = tcpProtocol ∧ endpointId = flow.endpointId := by
    intro endpointId
    refine ⟨?_, .inl⟩
    rintro (own | ⟨_, held, rfl, different⟩)
    · exact own
    · rw [← indexed.holder_released flow now different, absent] at held
      cases held
  have remaining : ∀ {key rewrite},
      (releaseTcpEndpoint state flow now).reflected.get? key = some rewrite ↔
        state.reflected.get? key = some rewrite ∧ ¬GivesWay state flow rewrite.endpointId := by
    intro key rewrite
    rw [indexed.reflected_released_iff, givesWay]
  have available := freePort_iff_available remaining proxyAddress proxyPort
  have refuses := indexFlow_refuses_iff (startsPositive_released positive flow now) flow
    proxyAddress proxyPort counter
  have idle : SameTables state (releaseTcpEndpoint state flow now) ↔
      ∀ endpointId, GivesWay state flow endpointId → ¬Owns state endpointId := by
    simp only [givesWay, and_imp, forall_comm (α := UInt64)]
    unfold releaseTcpEndpoint
    split
    · grind [removeEndpointLocked_sameTables_iff]
    · rename_i notTcp
      exact iff_of_true ⟨rfl, rfl, rfl, rfl, rfl⟩ fun tcp => absurd tcp notTcp
  have ownsRegistered : HoldsFlow state flow → Owns state flow.endpointId := by
    rintro ⟨tracked, found, same, _⟩
    exact same ▸ indexed.owns_holder found
  have onlyTcp : HoldsFlow state flow → flow.protocol = tcpProtocol := by
    rintro ⟨tracked, found, _, _⟩
    by_contra notTcp
    rw [releaseTcpEndpoint_of_udp notTcp, found] at absent
    cases absent
  have clean : CleanRegistration state flow configuredProxyAddress proxyPort ↔
      ¬HoldsFlow state flow ∧ (PortAvailable state flow proxyAddress proxyPort ∨
        SameTables state (releaseTcpEndpoint state flow now)) := by
    constructor
    · intro clean
      obtain ⟨fresh, outcome⟩ := clean proxyAddress resolved
      grind
    · rintro ⟨fresh, outcome⟩ _ _
      simp_all
  rw [clean, ← available]
  unfold RefusesCleanly
  rw [result, refuses]
  constructor
  · rintro ⟨harmless, _⟩
    have unchanged : ¬FreePort (releaseTcpEndpoint state flow now) flow proxyAddress proxyPort →
        SameTables state (releaseTcpEndpoint state flow now) := by
      intro exhausted
      have same := harmless exhausted
      have kept := indexFlow_refused_sameTables (refuses.mpr exhausted)
      exact ⟨kept.outbound.symm.trans same.outbound, kept.reflected.symm.trans same.reflected,
        kept.endpointKeys.symm.trans same.endpointKeys,
        kept.udpBindings.symm.trans same.udpBindings,
        kept.fragmentDecisions.symm.trans same.fragmentDecisions⟩
    grind
  · rintro ⟨fresh, outcome⟩
    refine ⟨fun exhausted => ?_, fun registered => absurd registered fresh⟩
    exact (outcome.resolve_left exhausted).trans
      (indexFlow_refused_sameTables (refuses.mpr exhausted))

/-- In every reachable table a registration refuses cleanly exactly when, given a usable
listener, the flow is no TCP flow of the table and a port is available or nothing of the
table gives way. -/
theorem insertAt_refusesCleanly_iff (actions : List FlowAction) (flow : CaptureFlow)
    (configuredProxyAddress : IpAddr) (proxyPort : UInt16) (activeFromCounter : Option Int)
    (now : Instant) :
    RefusesCleanly (flowMachine.run actions) flow configuredProxyAddress proxyPort
        activeFromCounter now ↔
      CleanRegistration (flowMachine.run actions) flow configuredProxyAddress proxyPort := by
  have indexed := indexed_run actions
  have bound := bound_run actions
  have positive := startsPositive_run actions
  rcases insertAt_cases (flowMachine.run actions) flow configuredProxyAddress proxyPort
      activeFromCounter now with
    ⟨unresolved, refused⟩ | ⟨proxyAddress, _, resolved, rfl, kept | taken | free⟩
  · refine iff_of_true ?_ ?_
    · unfold RefusesCleanly
      rw [refused]
      exact ⟨fun _ => ⟨rfl, rfl, rfl, rfl, rfl⟩, fun _ => rfl⟩
    · intro proxyAddress resolved
      rw [unresolved] at resolved
      cases resolved
  · obtain ⟨previous, present, same, result⟩ := kept
    obtain ⟨cleanly, clean⟩ := refusesCleanly_of_kept indexed present same result
    exact iff_of_true cleanly clean
  · obtain ⟨previous, present, different, result⟩ := taken
    exact refusesCleanly_of_taken indexed positive resolved present different result
  · obtain ⟨absent, result⟩ := free
    exact refusesCleanly_of_free indexed bound positive resolved absent result

/-- A browser's TCP connection to a public web server. -/
def repeatedConnection : CaptureFlow where
  processId := 7
  endpointId := 1
  localAddress := .ipv4 192 168 1 2
  localPort := 50000
  remoteAddress := .ipv4 93 184 216 34
  remotePort := 443
  protocol := tcpProtocol

/-- The same connection reported twice is accepted twice. -/
theorem not_refusesCleanly_repeated :
    ¬RefusesCleanly
      (flowMachine.run [.insertAt repeatedConnection .unspecifiedV4 8080 none 0])
      repeatedConnection .unspecifiedV4 8080 none 1 := by
  intro cleanly
  have refused := cleanly.2 ⟨_, rfl, rfl, rfl⟩
  revert refused
  decide

end SprakCapture.ProcessCapture
