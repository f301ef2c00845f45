import SprakCapture.ProcessCapture.FlowReclamation

/-!
# Attribution of the first datagram of a UDP tuple

`associateUdpOutboundAt` answers a tuple it does not know yet from the bindings of
the local endpoint and of the wildcard endpoint at the same port. It registers a
flow for the least of them and looks the tuple up again. The second lookup finds
that registration or nothing, so that the answer names a process that owns every
one of these bindings.
-/

namespace SprakCapture.ProcessCapture

open Data UdpAssociationRequest

/-- The tuple of a request as the outbound index holds it. -/
def UdpAssociationRequest.key (request : UdpAssociationRequest) : OutboundKey :=
  udpKey request.localAddress request.localPort request.remoteAddress request.remotePort

/-- The local endpoint of a request, which a binding may have registered. -/
def UdpAssociationRequest.exactBinding (request : UdpAssociationRequest) : UdpBindingKey where
  localAddress := normalizeIpAddress request.localAddress
  localPort := request.localPort

/-- The wildcard endpoint of the same family at the port of a request. -/
def UdpAssociationRequest.wildcardBinding (request : UdpAssociationRequest) : UdpBindingKey where
  localAddress := (normalizeIpAddress request.localAddress).wildcard
  localPort := request.localPort

/-- A binding that could own the local endpoint of a request. -/
def CouldOwn (state : FlowState) (request : UdpAssociationRequest) (endpointId : UInt64)
    (processId : UInt32) : Prop :=
  Binds state request.exactBinding endpointId processId ∨
    Binds state request.wildcardBinding endpointId processId

/-- Whether the table has an answer for the tuple and the counter of a request already. -/
def AlreadyKnown (state : FlowState) (request : UdpAssociationRequest) (now : Instant) : Prop :=
  (existingUdpTarget state request now).1 ≠ none

/-! ### The lookup around a registration -/

/-- The second lookup normalizes addresses that are normalized already. -/
theorem existingUdpTarget_normalized (state : FlowState) (request : UdpAssociationRequest)
    (now : Instant) :
    existingUdpTarget state
        { request with
          localAddress := normalizeIpAddress request.localAddress
          remoteAddress := normalizeIpAddress request.remoteAddress } now =
      existingUdpTarget state request now := by
  unfold existingUdpTarget outboundTransportTarget udpTargetAt
  simp

variable {request : UdpAssociationRequest} {state : FlowState} {now : Instant}

/-- A lookup that finds nothing changes nothing. -/
theorem existingUdpTarget_failed (failed : (existingUdpTarget state request now).1 = none) :
    (existingUdpTarget state request now).2 = state := by
  unfold existingUdpTarget at failed ⊢
  split at failed
  · grind [outboundTransportTarget]
  · rfl

variable {endpointId : UInt64}

/-- A tuple registered at the counter of the request is found. -/
theorem existingUdpTarget_registered {rewrite : RewriteTarget}
    (stored : state.outbound.get? request.key =
      some ⟨endpointId, rewrite, request.capturedAtCounter⟩) :
    (existingUdpTarget state request now).1 = some rewrite := by
  unfold existingUdpTarget
  split
  · unfold outboundTransportTarget
    dsimp only
    unfold key udpKey at stored
    rw [stored]
  · rename_i counter captured
    rw [captured] at stored
    rw [udpTargetAt_eq]
    unfold key at stored
    rw [stored]
    simp [TrackedTarget.covers, Option.filter_some]

/-- A lookup without a counter reads only the flow indices. -/
theorem existingUdpTarget_congr {first second : FlowState}
    (uncounted : request.capturedAtCounter = none) (same : SameIndex first second) :
    (existingUdpTarget second request now).1 = (existingUdpTarget first request now).1 := by
  unfold existingUdpTarget outboundTransportTarget
  rw [uncounted]
  dsimp only
  rw [same.outbound, same.endpointKeys]
  repeat' split
  all_goals rfl

theorem existingUdpTarget_counted_iff {counter : Int}
    (counted : request.capturedAtCounter = some counter) :
    (existingUdpTarget state request now).1 = none ↔
      (∀ tracked, state.outbound.get? request.key = some tracked → tracked.covers counter = false) ∧
        ∀ retired ∈ retiredVersions state request.key, retired.covers now counter = false := by
  unfold existingUdpTarget
  rw [counted]
  dsimp only
  rw [udpTargetAt_eq]
  unfold key
  split
  · simp_all
  simp_all

/-! ### The registration -/

variable {flow : CaptureFlow} {counter : Option Int} {configuredProxyAddress : IpAddr}
  {proxyPort : UInt16}

/-- An accepted flow stands in the outbound index under its own tuple. -/
theorem insertAt_accepted
    (accepted : (insertAt state flow configuredProxyAddress proxyPort counter now).1 = true) :
    ∃ proxyAddress reflectedPort,
      (insertAt state flow configuredProxyAddress proxyPort counter now).2.outbound.get?
          flow.outboundKey =
        some ⟨flow.endpointId, rewriteTargetFor flow proxyAddress reflectedPort, counter⟩ := by
  have indexed : ∀ (start : FlowState) (proxyAddress : IpAddr),
      (indexFlow start flow proxyAddress proxyPort counter).1 = true →
        ∃ reflectedPort,
          (indexFlow start flow proxyAddress proxyPort counter).2.outbound.get? flow.outboundKey =
            some ⟨flow.endpointId, rewriteTargetFor flow proxyAddress reflectedPort, counter⟩ := by
    intro start proxyAddress taken
    rcases indexFlow_effect start flow proxyAddress proxyPort counter with
      ⟨refused, _⟩ | ⟨reflectedPort, _, effect⟩
    · rw [refused] at taken
      cases taken
    simp [effect.outbound]
  rcases insertAt_cases state flow configuredProxyAddress proxyPort counter now with
    ⟨_, refused⟩ | ⟨proxyAddress, _, _, rfl, kept | taken | _⟩
  · rw [refused] at accepted
    cases accepted
  · obtain ⟨_, _, _, result⟩ := kept
    rw [result] at accepted
    cases accepted
  · grind
  · grind

/-- A refused UDP flow of an unknown tuple leaves the tuple unknown: what it removes was
closed at the counter of the request, hence does not cover it. -/
theorem existingUdpTarget_refused (udp : flow.protocol = udpProtocol)
    (sameKey : flow.outboundKey = request.key)
    (unknown : (existingUdpTarget state request now).1 = none)
    (refused : (insertAt state flow request.configuredProxyAddress request.proxyPort
      request.capturedAtCounter now).1 = false) :
    (existingUdpTarget (insertAt state flow request.configuredProxyAddress request.proxyPort
      request.capturedAtCounter now).2 request now).1 = none := by
  have notTcp : flow.protocol ≠ tcpProtocol := by
    rw [udp]
    decide
  have kept : ∀ {start : FlowState} {proxyAddress : IpAddr},
      (indexFlow start flow proxyAddress request.proxyPort request.capturedAtCounter).1 = false →
      (existingUdpTarget start request now).1 = none →
      (existingUdpTarget (indexFlow start flow proxyAddress request.proxyPort
        request.capturedAtCounter).2 request now).1 = none := by
    intro start proxyAddress exhausted failed
    have same : SameIndex start (indexFlow start flow proxyAddress request.proxyPort
        request.capturedAtCounter).2 := by
      rcases indexFlow_effect start flow proxyAddress request.proxyPort
          request.capturedAtCounter with ⟨_, same⟩ | ⟨_, taken, _⟩
      · exact same
      · rw [exhausted] at taken
        cases taken
    cases captured : request.capturedAtCounter with
    | none =>
      rw [captured] at same
      rw [existingUdpTarget_congr captured same, failed]
    | some counter =>
      obtain ⟨live, closed⟩ := (existingUdpTarget_counted_iff captured).mp failed
      rw [captured] at same
      refine (existingUdpTarget_counted_iff captured).mpr ⟨?_, ?_⟩
      · rw [same.outbound]
        exact live
      · rw [retiredVersions_indexFlow]
        exact closed
  rcases insertAt_cases state flow request.configuredProxyAddress request.proxyPort
      request.capturedAtCounter now with
    ⟨_, result⟩ | ⟨proxyAddress, _, _, rfl, held | taken | free⟩
  · rw [result]
    exact unknown
  · obtain ⟨_, _, _, result⟩ := held
    rw [result, releaseTcpEndpoint_of_udp notTcp]
    exact unknown
  · obtain ⟨previous, present, _, result⟩ := taken
    rw [releaseTcpEndpoint_of_udp notTcp] at present result
    rw [result] at refused ⊢
    refine kept refused ?_
    cases captured : request.capturedAtCounter with
    | none =>
      -- Without a counter the lookup has already found the tuple free.
      have free := existingUdpTarget_free captured unknown
      grind [key, existingUdpTarget_failed]
    | some counter =>
      obtain ⟨live, closed⟩ := (existingUdpTarget_counted_iff captured).mp unknown
      have retirement := removeEndpointLocked_retirement state previous.endpointId
        (takeoverCounter flow (some counter)) now
      refine (existingUdpTarget_counted_iff captured).mpr ⟨?_, ?_⟩
      · intro tracked found
        rcases retirement.outbound request.key with same | gone
        · exact live tracked (same ▸ found)
        · rw [gone] at found
          cases found
      · intro retired member
        rcases (retirement.retired request.key retired).mp member with old | new
        · exact closed retired old
        · obtain ⟨tracked, _, _, _, rfl⟩ := new
          simp [RetiredUdpTarget.covers, TrackedTarget.retire, takeoverCounter, udp]
  · obtain ⟨_, result⟩ := free
    rw [releaseTcpEndpoint_of_udp notTcp] at result
    simp_all

/-- The target that a new association returns is of the process of its flow. -/
theorem existingUdpTarget_inserted {target : RewriteTarget} (udp : flow.protocol = udpProtocol)
    (sameKey : flow.outboundKey = request.key)
    (unknown : (existingUdpTarget state request now).1 = none)
    (found : (existingUdpTarget (insertAt state flow request.configuredProxyAddress
      request.proxyPort request.capturedAtCounter now).2 request now).1 = some target) :
    target.original.processId = flow.processId := by
  cases accepted : (insertAt state flow request.configuredProxyAddress request.proxyPort
      request.capturedAtCounter now).1 with
  | false =>
    rw [existingUdpTarget_refused udp sameKey unknown accepted] at found
    cases found
  | true =>
    obtain ⟨_, _, stored⟩ := insertAt_accepted accepted
    rw [sameKey] at stored
    rw [existingUdpTarget_registered stored] at found
    cases found
    rfl

/-! ### Bindings -/

/-- The unique candidate shares its process with every candidate. -/
theorem uniqueCandidate_process {candidates : List (UInt64 × UInt32)}
    {found other : UInt64 × UInt32} (unique : uniqueCandidate candidates = some found)
    (member : other ∈ candidates) : other.2 = found.2 := by
  unfold uniqueCandidate at unique
  split at unique
  · cases unique
  split at unique
  · rename_i agree
    cases unique
    rcases List.mem_cons.mp member with rfl | inRest
    · rfl
    · simpa using List.all_eq_true.mp agree other inRest
  · cases unique

variable {processId : UInt32} {key : UdpBindingKey}

theorem binds_of_removeEndpointLocked (bound : Bound state) {removed : UInt64}
    (binds : Binds (removeEndpointLocked state removed counter now) key endpointId processId) :
    Binds state key endpointId processId := by
  have same := (removeEndpointKeys_effect state removed counter now).2
  have unbinding := removeUdpBindingLocked_effect (bound.of_sameBindings same) removed
  obtain ⟨bindings, stored, own⟩ := ((unbinding.binds key endpointId processId).mp binds).2
  rw [same.udpBindings] at stored
  exact ⟨bindings, stored, own⟩

theorem binds_of_insertAt (bound : Bound state)
    (binds : Binds (insertAt state flow configuredProxyAddress proxyPort counter now).2 key
      endpointId processId) :
    Binds state key endpointId processId := by
  have index : ∀ {start : FlowState} {proxyAddress : IpAddr},
      Binds (indexFlow start flow proxyAddress proxyPort counter).2 key endpointId processId →
        Binds start key endpointId processId := by
    rintro start proxyAddress ⟨bindings, stored, own⟩
    rw [(indexFlow_sameBindings ..).udpBindings] at stored
    exact ⟨bindings, stored, own⟩
  have releasedBound : Bound (releaseTcpEndpoint state flow now) := by
    unfold releaseTcpEndpoint
    split
    · exact bound.of_removeEndpointLocked ..
    · exact bound
  have released : Binds (releaseTcpEndpoint state flow now) key endpointId processId →
      Binds state key endpointId processId := by
    grind [releaseTcpEndpoint, binds_of_removeEndpointLocked]
  rcases insertAt_cases state flow configuredProxyAddress proxyPort counter now with
    ⟨_, result⟩ | ⟨proxyAddress, _, _, rfl, kept | taken | free⟩
  · rwa [result] at binds
  · obtain ⟨_, _, _, result⟩ := kept
    rw [result] at binds
    exact released binds
  · obtain ⟨_, _, _, result⟩ := taken
    rw [result] at binds
    exact released (binds_of_removeEndpointLocked releasedBound (index binds))
  · obtain ⟨_, result⟩ := free
    rw [result] at binds
    exact released (index binds)

/-! ### Association -/

/-- What an association does with an unknown tuple: nothing, or a registration for the
unique candidate, whose lookup is the answer. -/
theorem associateUdpOutboundAt_cases (unknown : (existingUdpTarget state request now).1 = none) :
    associateUdpOutboundAt state request now = (none, state) ∨
      ∃ endpointId processId flow,
        uniqueCandidate (bindingCandidates state (normalizeIpAddress request.localAddress)
          request.localPort) = some (endpointId, processId) ∧
        flow.processId = processId ∧ flow.protocol = udpProtocol ∧
        flow.outboundKey = request.key ∧
        (associateUdpOutboundAt state request now).1 =
          (existingUdpTarget (insertAt state flow request.configuredProxyAddress
            request.proxyPort request.capturedAtCounter now).2 request now).1 ∧
        ∃ looked, looked = (existingUdpTarget (insertAt state flow request.configuredProxyAddress
            request.proxyPort request.capturedAtCounter now).2 request now).2 ∧
          ((associateUdpOutboundAt state request now).2 = looked ∨
            (associateUdpOutboundAt state request now).2 =
              removeEndpointLocked looked endpointId none now) := by
  have lookup : existingUdpTarget state request now = (none, state) :=
    Prod.ext unknown (existingUdpTarget_failed unknown)
  unfold associateUdpOutboundAt
  rw [lookup]
  dsimp only
  split
  · exact .inl rfl
  rename_i endpointId processId unique
  split
  · exact .inl rfl
  rename_i flow made
  obtain ⟨_, udp, key⟩ := udp_eq_some made
  have process : flow.processId = processId := by
    grind [CaptureFlow.udp, CaptureFlow.transport]
  rw [existingUdpTarget_normalized]
  refine .inr ⟨endpointId, processId, flow, unique, process, udp, key, rfl, _, rfl, ?_⟩
  split
  · exact .inl rfl
  · exact .inr rfl

/-- An association of an unknown tuple adds no binding. -/
theorem couldOwn_of_association (bound : Bound state)
    (unknown : (existingUdpTarget state request now).1 = none)
    (owns : CouldOwn (associateUdpOutboundAt state request now).2 request endpointId processId) :
    CouldOwn state request endpointId processId := by
  have binds : ∀ key, Binds (associateUdpOutboundAt state request now).2 key endpointId processId →
      Binds state key endpointId processId := by
    intro key after
    rcases associateUdpOutboundAt_cases unknown with
      refused | ⟨_, _, flow, _, _, _, _, _, _, rfl, rest⟩
    · rwa [refused] at after
    have lookup : ∀ {start : FlowState},
        Binds (existingUdpTarget start request now).2 key endpointId processId →
          Binds start key endpointId processId := by
      rintro start ⟨bindings, stored, own⟩
      rw [(existingUdpTarget_sameBindings start request now).udpBindings] at stored
      exact ⟨bindings, stored, own⟩
    have inserted := bound.of_insertAt flow request.configuredProxyAddress request.proxyPort
      request.capturedAtCounter now
    rcases rest with _ | removed
    · grind [binds_of_insertAt]
    · rw [removed] at after
      have lookedBound := inserted.of_sameBindings (existingUdpTarget_sameBindings _ request now)
      exact binds_of_insertAt bound (lookup (binds_of_removeEndpointLocked lookedBound after))
  rcases owns with exactBinding | wildcardBinding
  · exact .inl (binds _ exactBinding)
  · exact .inr (binds _ wildcardBinding)

/-- In every reachable table, an association that answers an unknown tuple names the process
of every binding that could own the local endpoint, before the call and after it; when
two processes hold such bindings it answers nothing and changes nothing. -/
theorem associateUdpOutboundAt_unambiguous (actions : List FlowAction)
    (request : UdpAssociationRequest) (now : Instant)
    (unknown : ¬AlreadyKnown (flowMachine.run actions) request now) :
    (∀ target,
      (associateUdpOutboundAt (flowMachine.run actions) request now).1 = some target →
        ∀ endpointId processId,
          CouldOwn (flowMachine.run actions) request endpointId processId ∨
            CouldOwn (associateUdpOutboundAt (flowMachine.run actions) request now).2 request
              endpointId processId →
          processId = target.original.processId) ∧
      ∀ first second firstProcess secondProcess,
        CouldOwn (flowMachine.run actions) request first firstProcess →
        CouldOwn (flowMachine.run actions) request second secondProcess →
        firstProcess ≠ secondProcess →
          associateUdpOutboundAt (flowMachine.run actions) request now =
            (none, flowMachine.run actions) := by
  have bound := bound_run actions
  generalize flowMachine.run actions = state at unknown bound ⊢
  have failed : (existingUdpTarget state request now).1 = none := not_not.mp unknown
  have member : ∀ {endpointId processId}, CouldOwn state request endpointId processId →
      (endpointId, processId) ∈ bindingCandidates state
        (normalizeIpAddress request.localAddress) request.localPort :=
    fun owns => mem_bindingCandidates.mpr owns
  constructor
  · intro target answered endpointId processId owns
    have before : CouldOwn state request endpointId processId :=
      owns.elim id (couldOwn_of_association bound failed)
    rcases associateUdpOutboundAt_cases failed with
      refused | ⟨_, _, _, unique, process, udp, key, result, _⟩
    · rw [refused] at answered
      cases answered
    · rw [result] at answered
      have named := existingUdpTarget_inserted udp key failed answered
      have agrees := uniqueCandidate_process unique (member before)
      exact agrees.trans (process.symm.trans named.symm)
  · intro first second firstProcess secondProcess firstOwns secondOwns _
    rcases associateUdpOutboundAt_cases failed with
      refused | ⟨_, _, _, unique, _⟩
    · exact refused
    · have firstAgrees := uniqueCandidate_process unique (member firstOwns)
      have secondAgrees := uniqueCandidate_process unique (member secondOwns)
      simp_all

/-- Two processes share a local port, one of them through the wildcard address. -/
def sharedPort : List FlowAction :=
  [.registerUdpBinding 7 1 (.ipv4 192 168 1 2) 5353, .registerUdpBinding 8 2 .unspecifiedV4 5353]

/-- A datagram from the shared port. -/
def sharedPortRequest : UdpAssociationRequest where
  localAddress := .ipv4 192 168 1 2
  localPort := 5353
  remoteAddress := .ipv4 93 184 216 34
  remotePort := 443
  configuredProxyAddress := .unspecifiedV4
  proxyPort := 8080
  capturedAtCounter := none

theorem associateUdpOutboundAt_sharedPort :
    associateUdpOutboundAt (flowMachine.run sharedPort) sharedPortRequest 0 =
      (none, flowMachine.run sharedPort) :=
  (associateUdpOutboundAt_unambiguous sharedPort sharedPortRequest 0
    (by unfold AlreadyKnown; decide)).2
    1 2 7 8 (.inl ⟨_, rfl, rfl⟩) (.inr ⟨_, rfl, rfl⟩) (by decide)

/-- A flow of the shared port that was reported before the second process bound it. -/
def knownFlow : CaptureFlow where
  processId := 7
  endpointId := 1
  localAddress := .ipv4 192 168 1 2
  localPort := 5353
  remoteAddress := .ipv4 93 184 216 34
  remotePort := 443
  protocol := udpProtocol

/-- A tuple the table knows is answered although two processes hold its local endpoint. -/
theorem not_unambiguous_known :
    ¬∀ (actions : List FlowAction) (request : UdpAssociationRequest) (now : Instant)
        (first second : UInt64) (firstProcess secondProcess : UInt32),
        CouldOwn (flowMachine.run actions) request first firstProcess →
        CouldOwn (flowMachine.run actions) request second secondProcess →
        firstProcess ≠ secondProcess →
          associateUdpOutboundAt (flowMachine.run actions) request now =
            (none, flowMachine.run actions) := by
  intro ambiguous
  have refused := ambiguous (.insertAt knownFlow .unspecifiedV4 8080 none 0 :: sharedPort)
    sharedPortRequest 1 1 2 7 8 (.inl ⟨_, rfl, rfl⟩) (.inr ⟨_, rfl, rfl⟩) (by decide)
  have answer := congrArg (fun result => result.1.isSome) refused
  revert answer
  decide

end SprakCapture.ProcessCapture
