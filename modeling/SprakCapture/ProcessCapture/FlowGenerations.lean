import SprakCapture.ProcessCapture.FlowIndex

/-!
# Generations of reused UDP ports

A UDP tuple may belong to several endpoints one after another. Every registration
of a tuple is a `Version` with a half-open interval of counters: it starts at the
counter of the registration and ends at the counter of the event that removed it.
`history` collects the closed versions of a run by watching the outbound index, and
`udpTargetAt_versions` says that the table answers a query from exactly the version
whose interval holds the captured counter.
-/

namespace SprakCapture.ProcessCapture

open Data List Option Table IpAddr

/-! ### Retirement -/

/-- The closed versions kept for a key. -/
def retiredVersions (state : FlowState) (key : OutboundKey) : List RetiredUdpTarget :=
  (state.retiredUdpOutbound.get? key).getD []

/-- The record `removeEndpointLocked` keeps of a tracked UDP tuple. -/
def TrackedTarget.retire (tracked : TrackedTarget) (now : Instant) (counter : Option Int) :
    RetiredUdpTarget where
  rewrite := tracked.rewrite
  activeFromCounter := tracked.activeFromCounter
  retiredAt := now
  retiredAtCounter := counter

/-- Outbound entries only disappear, and the UDP ones that do become closed versions. -/
structure RetirementEffect (before after : FlowState) (counter : Option Int) (now : Instant) :
    Prop where
  outbound : ∀ key, after.outbound.get? key = before.outbound.get? key ∨
    after.outbound.get? key = none
  retired : ∀ key version, version ∈ retiredVersions after key ↔
    version ∈ retiredVersions before key ∨
      ∃ tracked, before.outbound.get? key = some tracked ∧ after.outbound.get? key = none ∧
        key.protocol = udpProtocol ∧ version = tracked.retire now counter

theorem RetirementEffect.refl (state : FlowState) (counter : Option Int) (now : Instant) :
    RetirementEffect state state counter now := by
  refine ⟨fun _ => .inl rfl, fun _ _ => ?_⟩
  simp_all

variable {now : Instant}

theorem RetirementEffect.trans {first second third : FlowState} {counter : Option Int}
    (left : RetirementEffect first second counter now)
    (right : RetirementEffect second third counter now) :
    RetirementEffect first third counter now := by
  constructor
  · intro key
    rcases right.outbound key with same | gone
    · rw [same]
      exact left.outbound key
    · exact .inr gone
  · intro key _
    rw [right.retired, left.retired]
    constructor
    · rintro ((kept | ⟨tracked, present, absent, udp, rfl⟩) | ⟨tracked, present, absent, udp, rfl⟩)
      · exact .inl kept
      · refine .inr ⟨tracked, present, ?_, udp, rfl⟩
        rcases right.outbound key with same | gone
        · rw [same, absent]
        · exact gone
      · refine .inr ⟨tracked, ?_, absent, udp, rfl⟩
        rcases left.outbound key with same | gone
        · rw [← same, present]
        · rw [gone] at present
          cases present
    · rintro (kept | ⟨tracked, present, absent, udp, rfl⟩)
      · exact .inl (.inl kept)
      · rcases left.outbound key with same | gone
        · simp_all
        simp_all

theorem retiredVersions_removeKeyPair (now : Instant) (counter : Option Int) (state : FlowState)
    (pair : OutboundKey × ReflectedKey) (key : OutboundKey) :
    retiredVersions (removeKeyPair now counter state pair) key =
      if key = pair.1 ∧ key.protocol = udpProtocol then
        retiredVersions state key ++
          ((state.outbound.get? key).map fun tracked => tracked.retire now counter).toList
      else retiredVersions state key := by
  unfold removeKeyPair retiredVersions
  split
  · rename_i tracked present
    by_cases udp : pair.1.protocol = udpProtocol
    · rw [if_pos udp, pushEntry, get?_insert]
      by_cases same : key = pair.1
      · subst same
        rw [if_pos rfl, if_pos ⟨rfl, udp⟩, present]
        rfl
      · rw [if_neg same, if_neg fun both => same both.1]
    simp_all
  simp_all

theorem removeKeyPair_retirement (now : Instant) (counter : Option Int) (state : FlowState)
    (pair : OutboundKey × ReflectedKey) :
    RetirementEffect state (removeKeyPair now counter state pair) counter now := by
  have erased : ∀ key, (removeKeyPair now counter state pair).outbound.get? key =
      if key = pair.1 then none else state.outbound.get? key :=
    fun key => get?_erase _ _ _
  constructor
  · grind
  · intro key _
    rw [retiredVersions_removeKeyPair, erased]
    by_cases same : key = pair.1
    · by_cases udp : key.protocol = udpProtocol
      · rw [if_pos ⟨same, udp⟩, mem_append, Option.mem_toList, map_eq_some_iff]
        grind
      simp_all
    simp_all

theorem removeKeyPairs_retirement (now : Instant) (counter : Option Int)
    (keys : List (OutboundKey × ReflectedKey)) (state : FlowState) :
    RetirementEffect state (keys.foldl (removeKeyPair now counter) state) counter now := by
  induction keys generalizing state with
  | nil => exact .refl state counter now
  | cons pair _ ih => exact (removeKeyPair_retirement now counter state pair).trans (ih _)

variable (state : FlowState) (endpointId : UInt64)

theorem retiredUdpOutbound_removeUdpBindingLocked :
    (removeUdpBindingLocked state endpointId).retiredUdpOutbound = state.retiredUdpOutbound := by
  grind [removeUdpBindingLocked]

/-- Removing an endpoint turns its UDP tuples into closed versions. -/
theorem removeEndpointLocked_retirement (counter : Option Int) (now : Instant) :
    RetirementEffect state (removeEndpointLocked state endpointId counter now) counter now := by
  have keys : RetirementEffect state (removeEndpointKeys state endpointId counter now) counter
      now := by
    unfold removeEndpointKeys
    split
    · exact .refl state counter now
    · rename_i owned _
      have effect := removeKeyPairs_retirement now counter owned
        { state with endpointKeys := state.endpointKeys.erase endpointId }
      exact ⟨effect.outbound, effect.retired⟩
  have outbound : (removeEndpointLocked state endpointId counter now).outbound =
      (removeEndpointKeys state endpointId counter now).outbound :=
    (removeUdpBindingLocked_sameIndex _ endpointId).outbound
  have retired : ∀ key, retiredVersions (removeEndpointLocked state endpointId counter now) key =
      retiredVersions (removeEndpointKeys state endpointId counter now) key := by
    intro key
    have same := retiredUdpOutbound_removeUdpBindingLocked
      (removeEndpointKeys state endpointId counter now) endpointId
    exact congrArg (fun table => (get? table key).getD []) same
  constructor
  · intro key
    rw [outbound]
    exact keys.outbound key
  · intro key version
    rw [outbound, retired]
    exact keys.retired key version

theorem removeEndpoints_retirement (endpointIds : List UInt64) (state : FlowState)
    (counter : Option Int) (now : Instant) :
    RetirementEffect state
      (endpointIds.foldl
        (fun state endpointId => removeEndpointLocked state endpointId counter now) state)
      counter now := by
  induction endpointIds generalizing state with
  | nil => exact .refl state counter now
  | cons endpointId _ ih =>
    exact (removeEndpointLocked_retirement state endpointId counter now).trans (ih _)

theorem retiredVersions_indexFlow (flow : CaptureFlow) (proxyAddress : IpAddr) (proxyPort : UInt16)
    (counter : Option Int) (key : OutboundKey) :
    retiredVersions (indexFlow state flow proxyAddress proxyPort counter).2 key =
      retiredVersions state key := by
  unfold indexFlow
  split
  · rename_i after allocated
    have unchanged := congrArg Prod.snd allocated
    subst unchanged
    rfl
  · rename_i reflectedPort after allocated
    have unchanged := congrArg Prod.snd allocated
    subst unchanged
    rfl

/-! ### Versions of a run -/

/-- The calls that open, close and reclaim generations of UDP tuples. -/
inductive UdpEvent where
  /-- A UDP flow is registered at a counter. -/
  | opened (flow : CaptureFlow) (isUdp : flow.protocol = udpProtocol)
      (configuredProxyAddress : IpAddr) (proxyPort : UInt16) (counter : Int) (now : Instant)
  /-- Endpoints are closed at a counter. -/
  | closed (endpointIds : List UInt64) (counter : Int) (now : Instant)
  /-- The resolver has processed everything before a counter. -/
  | processed (counter : Int)

namespace UdpEvent

/-- The call of the flow table. -/
def action : UdpEvent → FlowAction
  | .opened flow _ configuredProxyAddress proxyPort counter now =>
    .insertAt flow configuredProxyAddress proxyPort (some counter) now
  | .closed endpointIds counter now => .removeEndpointsAt endpointIds counter now
  | .processed counter => .advanceUdpObservationWatermark counter

/-- The counter of the event, for events that open or close flows. -/
def counter? : UdpEvent → Option Int
  | .opened _ _ _ _ counter _ => some counter
  | .closed _ counter _ => some counter
  | .processed _ => none

/-- The watermark an event advances to. -/
def watermark? : UdpEvent → Option Int
  | .processed counter => some counter
  | _ => none

end UdpEvent

/-- One generation of a tuple; a live one has no end. -/
structure Version where
  key : OutboundKey
  rewrite : RewriteTarget
  activeFrom : Option Int
  retiredAt : Option Int
deriving DecidableEq

/-- The half-open interval of a version holds a counter. -/
def Version.Contains (version : Version) (counter : Int) : Prop :=
  (∀ activeFrom, version.activeFrom = some activeFrom → activeFrom ≤ counter) ∧
    ∀ retiredAt, version.retiredAt = some retiredAt → counter < retiredAt

/-- The version a tracked tuple is, up to the counter of its end. -/
def TrackedTarget.version (tracked : TrackedTarget) (key : OutboundKey)
    (retiredAt : Option Int) : Version where
  key
  rewrite := tracked.rewrite
  activeFrom := tracked.activeFromCounter
  retiredAt

/-- The version a closed tuple was. -/
def RetiredUdpTarget.version (retired : RetiredUdpTarget) (key : OutboundKey) : Version where
  key
  rewrite := retired.rewrite
  activeFrom := retired.activeFromCounter
  retiredAt := retired.retiredAtCounter

/-- The versions that a call ended: outbound entries present before and not after. -/
def endedVersions (before after : FlowState) (counter : Option Int) : List Version :=
  (before.outbound.toList.filter fun entry =>
    decide (after.outbound.get? entry.1 ≠ some entry.2)).map fun entry =>
      entry.2.version entry.1 counter

/-- The versions that a run ended. -/
def history : FlowState → List UdpEvent → List Version
  | _, [] => []
  | state, event :: events =>
    endedVersions state (state.step event.action) event.counter? ++
      history (state.step event.action) events

/-- The versions that are live in a state. -/
def liveVersions (state : FlowState) : List Version :=
  state.outbound.toList.map fun entry => entry.2.version entry.1 none

/-- The state a run of events reaches from the empty table. -/
def stateAfter (events : List UdpEvent) : FlowState := flowMachine.run (events.map UdpEvent.action)

/-- Every version of a run of events from the empty table, ended or live. -/
def versions (events : List UdpEvent) : List Version :=
  history FlowState.default events ++ liveVersions (stateAfter events)

variable {before after : FlowState} {version : Version}

open UdpEvent

theorem mem_endedVersions {counter : Option Int} :
    version ∈ endedVersions before after counter ↔
      ∃ key tracked, before.outbound.get? key = some tracked ∧
        after.outbound.get? key ≠ some tracked ∧ version = tracked.version key counter := by
  unfold endedVersions
  simp only [List.mem_map, mem_filter, decide_eq_true_eq]
  constructor
  · rintro ⟨⟨key, tracked⟩, ⟨member, gone⟩, rfl⟩
    exact ⟨key, tracked, mem_toList.mp member, gone, rfl⟩
  · rintro ⟨key, tracked, present, gone, rfl⟩
    exact ⟨(key, tracked), ⟨Table.mem_toList.mpr present, gone⟩, rfl⟩

/-- What an opening or closing event does: UDP entries that go become closed versions,
and entries that appear start at the event. -/
structure EventEffect (before after : FlowState) (counter : Int) (now : Instant) : Prop where
  retired : ∀ key version, version ∈ retiredVersions after key ↔
    version ∈ retiredVersions before key ∨
      ∃ tracked, before.outbound.get? key = some tracked ∧
        after.outbound.get? key ≠ some tracked ∧ key.protocol = udpProtocol ∧
        version = tracked.retire now (some counter)
  outbound : ∀ key tracked, after.outbound.get? key = some tracked →
    before.outbound.get? key = some tracked ∨
      (tracked.activeFromCounter = some counter ∧ key.protocol = udpProtocol)

theorem RetirementEffect.event {counter : Int}
    (effect : RetirementEffect before after (some counter) now) :
    EventEffect before after counter now := by
  have gone : ∀ key tracked, before.outbound.get? key = some tracked →
      (after.outbound.get? key = none ↔ after.outbound.get? key ≠ some tracked) := by
    intro key tracked present
    rcases effect.outbound key with same | absent
    · rw [same, present]
      simp
    · rw [absent]
      simp
  constructor
  · intro key _
    rw [effect.retired]
    grind
  · intro key tracked present
    rcases effect.outbound key with same | absent
    · rw [same] at present
      exact .inl present
    · rw [absent] at present
      cases present

/-- Indexing a tuple after its holder was retired. -/
theorem EventEffect.of_indexFlow {before middle : FlowState} {flow : CaptureFlow} {counter : Int}
    (isUdp : flow.protocol = udpProtocol)
    (effect : RetirementEffect before middle (some counter) now)
    (foreign : ∀ tracked, before.outbound.get? flow.outboundKey = some tracked →
      tracked.endpointId ≠ flow.endpointId) (free : middle.outbound.get? flow.outboundKey = none)
    (proxyAddress : IpAddr) (proxyPort : UInt16) :
    EventEffect before (indexFlow middle flow proxyAddress proxyPort (some counter)).2 counter
      now := by
  have event := effect.event
  rcases indexFlow_effect middle flow proxyAddress proxyPort (some counter) with
    ⟨_, same⟩ | ⟨reflectedPort, _, inserted⟩
  · constructor
    · intro key version
      rw [retiredVersions_indexFlow, same.outbound]
      exact event.retired key version
    · intro key tracked present
      rw [same.outbound] at present
      exact event.outbound key tracked present
  · constructor
    · intro key version
      rw [retiredVersions_indexFlow, event.retired, inserted.outbound]
      refine or_congr_right (exists_congr fun tracked => and_congr_right fun present => ?_)
      by_cases same : key = flow.outboundKey
      · subst same
        rw [free]
        have differs : some (⟨flow.endpointId, rewriteTargetFor flow proxyAddress reflectedPort,
            some counter⟩ : TrackedTarget) ≠ some tracked := by
          intro equal
          have owner := congrArg TrackedTarget.endpointId (Option.some.inj equal)
          exact foreign tracked present owner.symm
        simp [differs]
      · rw [if_neg same]
    · intro key tracked present
      rw [inserted.outbound] at present
      split at present
      · rename_i same
        cases present
        exact .inr ⟨rfl, by rw [same]; exact isUdp⟩
      · exact event.outbound key tracked present

theorem opened_effect {state : FlowState} (indexed : Indexed state) (flow : CaptureFlow)
    (isUdp : flow.protocol = udpProtocol) (configuredProxyAddress : IpAddr) (proxyPort : UInt16)
    (counter : Int) (now : Instant) :
    EventEffect state
      (insertAt state flow configuredProxyAddress proxyPort (some counter) now).2 counter now := by
  have released : releaseTcpEndpoint state flow now = state := by
    unfold releaseTcpEndpoint
    rw [isUdp]
    rfl
  have takeover : takeoverCounter flow (some counter) = some counter := by
    unfold takeoverCounter
    rw [if_pos isUdp]
  have unchanged := (RetirementEffect.refl state (some counter) now).event
  rcases insertAt_cases state flow configuredProxyAddress proxyPort (some counter) now with
    ⟨_, refused⟩ | ⟨proxyAddress, _, _, rfl, kept | taken | free⟩
  · rw [refused]
    exact unchanged
  · obtain ⟨previous, present, _, result⟩ := kept
    rw [result, released]
    exact unchanged
  · obtain ⟨previous, present, _, result⟩ := taken
    rw [released] at present
    rw [result, released, takeover]
    refine EventEffect.of_indexFlow isUdp (removeEndpointLocked_retirement ..) ?_
      (indexed.free_of_removal present _ now) proxyAddress proxyPort
    simp_all
  · obtain ⟨absent, result⟩ := free
    rw [released] at absent
    rw [result, released]
    refine EventEffect.of_indexFlow isUdp (.refl state _ now) ?_ absent proxyAddress proxyPort
    simp_all

/-! ### Generations and the retired index -/

/-- The relation between a table and the versions ended so far: `ended` are those
versions, `watermarks` the watermarks advanced to, and no counter so far exceeds `clock`. -/
structure Generations (state : FlowState) (ended : List Version) (watermarks : List Int)
    (clock : Int) : Prop where
  indexed : Indexed state
  /-- Live entries are UDP and start after every ended version of their key. -/
  live : ∀ {key tracked}, state.outbound.get? key = some tracked →
    key.protocol = udpProtocol ∧ ∃ activeFrom, tracked.activeFromCounter = some activeFrom ∧
      ∀ version ∈ ended, version.key = key →
        ∀ retiredAt, version.retiredAt = some retiredAt → retiredAt ≤ activeFrom
  /-- Ended versions have both bounds, and ended by now. -/
  bounds : ∀ version ∈ ended, ∃ activeFrom retiredAt, version.activeFrom = some activeFrom ∧
    version.retiredAt = some retiredAt ∧ retiredAt ≤ clock
  /-- Versions of one key do not overlap. -/
  apart : ∀ first ∈ ended, ∀ second ∈ ended, first.key = second.key → ∀ counter,
    first.Contains counter → second.Contains counter → first = second
  /-- The retired index holds ended versions only. -/
  stored : ∀ key, ∀ retired ∈ retiredVersions state key, retired.version key ∈ ended
  /-- An ended version is forgotten only once a watermark has passed its end. -/
  kept : ∀ version ∈ ended, (∀ watermark ∈ watermarks, ∀ retiredAt,
      version.retiredAt = some retiredAt → watermark ≤ retiredAt) →
    ∃ retired ∈ retiredVersions state version.key, retired.version version.key = version

theorem generations_default (clock : Int) : Generations FlowState.default [] [] clock := by
  constructor
  · exact indexed_default
  all_goals simp [FlowState.default, retiredVersions]

/-- A version that ends at or before the start of another shares no counter with it. -/
theorem Version.not_contains_both {first second : Version} {retiredAt activeFrom counter : Int}
    (ends : first.retiredAt = some retiredAt) (starts : second.activeFrom = some activeFrom)
    (ordered : retiredAt ≤ activeFrom) (inFirst : first.Contains counter)
    (inSecond : second.Contains counter) : False := by
  have below := inFirst.2 retiredAt ends
  have above := inSecond.1 activeFrom starts
  omega

theorem Generations.of_event {ended : List Version} {watermarks : List Int} {clock counter : Int}
    (generations : Generations before ended watermarks clock) (indexed : Indexed after)
    (effect : EventEffect before after counter now) (ordered : clock ≤ counter) :
    Generations after (ended ++ endedVersions before after (some counter)) watermarks counter := by
  constructor
  · exact indexed
  · intro key tracked present
    rcases effect.outbound key tracked present with old | ⟨starts, udp⟩
    · obtain ⟨udp, activeFrom, starts, later⟩ := generations.live old
      refine ⟨udp, activeFrom, starts, ?_⟩
      intro version member sameKey
      rcases mem_append.mp member with inEnded | fresh
      · exact later version inEnded sameKey
      · obtain ⟨otherKey, other, otherPresent, gone, rfl⟩ := mem_endedVersions.1 fresh
        change otherKey = key at sameKey
        simp_all
    · refine ⟨udp, counter, starts, ?_⟩
      intro version member sameKey retiredAt ends
      rcases mem_append.mp member with inEnded | fresh
      · obtain ⟨_, _, _, endsAt, byClock⟩ := generations.bounds version inEnded
        rw [ends] at endsAt
        cases endsAt
        omega
      · obtain ⟨otherKey, other, otherPresent, gone, rfl⟩ := mem_endedVersions.1 fresh
        cases ends
        exact le_refl _
  · intro version member
    rcases mem_append.mp member with inEnded | fresh
    · obtain ⟨activeFrom, retiredAt, starts, ends, byClock⟩ := generations.bounds version inEnded
      grind
    · obtain ⟨key, tracked, present, gone, rfl⟩ := mem_endedVersions.1 fresh
      obtain ⟨_, activeFrom, starts, _⟩ := generations.live present
      exact ⟨activeFrom, counter, starts, rfl, le_refl _⟩
  · -- Only a pair of an old and a new version is not covered by the table before.
    have oldNew : ∀ first ∈ ended, ∀ second ∈ endedVersions before after (some counter),
        first.key = second.key → ∀ at', first.Contains at' → second.Contains at' → False := by
      intro first inEnded second fresh sameKey at' inFirst inSecond
      obtain ⟨key, tracked, present, gone, rfl⟩ := mem_endedVersions.1 fresh
      obtain ⟨_, activeFrom, starts, later⟩ := generations.live present
      obtain ⟨_, retiredAt, _, ends, _⟩ := generations.bounds first inEnded
      exact Version.not_contains_both ends starts (later first inEnded sameKey retiredAt ends)
        inFirst inSecond
    intro first firstMember second secondMember sameKey at' inFirst inSecond
    rcases mem_append.mp firstMember with firstEnded | firstFresh
    · rcases mem_append.mp secondMember with secondEnded | secondFresh
      · exact generations.apart first firstEnded second secondEnded sameKey at' inFirst inSecond
      grind
    rcases mem_append.mp secondMember with secondEnded | secondFresh
    · grind
    · obtain ⟨key, tracked, present, _, rfl⟩ := mem_endedVersions.1 firstFresh
      obtain ⟨otherKey, other, otherPresent, _, rfl⟩ := mem_endedVersions.1 secondFresh
      change key = otherKey at sameKey
      simp_all
  · intro key retired member
    rcases (effect.retired key retired).mp member with old | ⟨tracked, present, gone, _, rfl⟩
    · exact mem_append_left _ (generations.stored key retired old)
    · exact mem_append_right _ (mem_endedVersions.2 ⟨key, tracked, present, gone, rfl⟩)
  · intro version member above
    rcases mem_append.mp member with inEnded | fresh
    · obtain ⟨retired, old, equal⟩ := generations.kept version inEnded above
      exact ⟨retired, (effect.retired _ _).mpr (.inl old), equal⟩
    · obtain ⟨key, tracked, present, gone, rfl⟩ := mem_endedVersions.1 fresh
      have udp := (generations.live present).1
      refine ⟨tracked.retire now (some counter), ?_, rfl⟩
      exact (effect.retired key _).mpr (.inr ⟨tracked, present, gone, udp, rfl⟩)

theorem retiredVersions_advance (state : FlowState) (watermark : Int) (key : OutboundKey) :
    retiredVersions (advanceUdpObservationWatermark state watermark) key =
      retainVersions watermark (retiredVersions state key) := by
  unfold retiredVersions advanceUdpObservationWatermark
  rw [get?_mapValues, get?_retain]
  cases state.retiredUdpOutbound.get? key with
  | none => rfl
  | some =>
    grind

variable {retired : RetiredUdpTarget}

theorem mem_retainVersions {watermark : Int} {versions : List RetiredUdpTarget} :
    retired ∈ retainVersions watermark versions ↔ retired ∈ versions ∧
      ∀ retiredAt, retired.retiredAtCounter = some retiredAt → watermark ≤ retiredAt := by
  unfold retainVersions
  rw [mem_filter]
  cases retired.retiredAtCounter with
  | none | some retiredAt => simp

variable {state : FlowState} {ended : List Version} {watermarks : List Int} {clock : Int}
  (generations : Generations state ended watermarks clock)
include generations

theorem Generations.of_watermark (watermark : Int) :
    Generations (advanceUdpObservationWatermark state watermark) ended (watermarks ++ [watermark])
      clock := by
  constructor
  · exact generations.indexed.of_sameIndex ⟨rfl, rfl, rfl⟩
  · exact generations.live
  · exact generations.bounds
  · exact generations.apart
  · intro key retired member
    rw [retiredVersions_advance] at member
    exact generations.stored key retired (mem_retainVersions.1 member).1
  · intro version member above
    obtain ⟨retired, old, equal⟩ := generations.kept version member
      fun earlier earlierMember => above earlier (mem_append_left _ earlierMember)
    refine ⟨retired, ?_, equal⟩
    rw [retiredVersions_advance, mem_retainVersions]
    refine ⟨old, fun retiredAt ends => ?_⟩
    refine above watermark (mem_append_right _ (mem_singleton_self _)) retiredAt ?_
    rw [← equal]
    exact ends

/-- A step of a run of events extends the ended versions as `history` records. -/
theorem Generations.of_step (event : UdpEvent)
    (later : ∀ counter, event.counter? = some counter → clock ≤ counter) :
    Generations (state.step event.action)
      (ended ++ endedVersions state (state.step event.action) event.counter?)
      (watermarks ++ event.watermark?.toList) (event.counter?.getD clock) := by
  have indexed := generations.indexed.of_step event.action
  cases event with
  | opened flow isUdp configuredProxyAddress proxyPort counter now =>
    have effect := opened_effect generations.indexed flow isUdp configuredProxyAddress proxyPort
      counter now
    simpa [watermark?, counter?] using
      generations.of_event indexed effect (later counter rfl)
  | closed endpointIds counter now =>
    have effect := (removeEndpoints_retirement endpointIds state (some counter) now).event
    simpa [watermark?, counter?] using
      generations.of_event indexed effect (later counter rfl)
  | processed watermark =>
    have unended : endedVersions state (advanceUdpObservationWatermark state watermark) none =
        [] := by
      rw [eq_nil_iff_forall_not_mem]
      intro _ member
      obtain ⟨_, _, present, gone, _⟩ := mem_endedVersions.1 member
      exact gone present
    have advanced := generations.of_watermark watermark
    change Generations (advanceUdpObservationWatermark state watermark)
      (ended ++ endedVersions state (advanceUdpObservationWatermark state watermark) none)
      (watermarks ++ [watermark]) clock
    rw [unended, append_nil]
    exact advanced

/-- The relation holds after every run whose counters do not decrease. -/
theorem Generations.of_run (events : List UdpEvent)
    (ordered : (events.filterMap counter?).Pairwise (· ≤ ·))
    (later : ∀ counter ∈ events.filterMap counter?, clock ≤ counter) :
    ∃ clock, Generations (flowMachine.runFrom state (events.map action))
      (ended ++ history state events) (watermarks ++ events.filterMap watermark?)
      clock := by
  induction events generalizing state ended watermarks clock with
  | nil => exact ⟨clock, by simpa [history] using generations⟩
  | cons event events ih =>
    have stepped := generations.of_step event fun counter found =>
      later counter (by simp [found])
    have rest : (events.filterMap counter?).Pairwise (· ≤ ·) ∧
        ∀ counter ∈ events.filterMap counter?, event.counter?.getD clock ≤ counter := by
      cases found : event.counter? with
      | none =>
        grind
      | some =>
        rw [filterMap_cons_some found, pairwise_cons] at ordered
        exact ⟨ordered.2, ordered.1⟩
    obtain ⟨last, reached⟩ := ih stepped rest.1 rest.2
    refine ⟨last, ?_⟩
    have watermarksEq : watermarks ++ (event :: events).filterMap watermark? =
        watermarks ++ event.watermark?.toList ++ events.filterMap watermark? := by
      grind
    rw [watermarksEq, history, ← append_assoc]
    exact reached

omit generations

theorem generations_stateAfter (events : List UdpEvent)
    (ordered : (events.filterMap counter?).Pairwise (· ≤ ·)) :
    ∃ clock, Generations (stateAfter events) (history FlowState.default events)
      (events.filterMap watermark?) clock := by
  obtain ⟨clock, first⟩ : ∃ clock, ∀ counter ∈ events.filterMap counter?,
      clock ≤ counter := by
    cases counters : events.filterMap counter? with
    | nil => exact ⟨0, by simp⟩
    | cons earliest =>
      rw [counters, pairwise_cons] at ordered
      exact ⟨earliest, by simpa using ordered.1⟩
  have reached := (generations_default clock).of_run events ordered first
  exact reached

/-! ### Queries -/

theorem TrackedTarget.covers_iff {tracked : TrackedTarget} {key : OutboundKey} {counter : Int} :
    tracked.covers counter = true ↔ (tracked.version key none).Contains counter := by
  unfold covers Version.Contains version
  cases tracked.activeFromCounter with
  | none | some => simp

/-- A closed version with an end covers the counters of its interval, whenever captured. -/
theorem RetiredUdpTarget.covers_iff {key : OutboundKey} {retiredAt : Int}
    (ends : retired.retiredAtCounter = some retiredAt) {capturedAt : Instant} {counter : Int} :
    retired.covers capturedAt counter = true ↔ (retired.version key).Contains counter := by
  unfold covers Version.Contains version
  rw [ends]
  cases retired.activeFromCounter with
  | none | some => simp

/-- The key `udpTargetAt` looks a tuple up under. -/
def udpKey (localAddress : IpAddr) (localPort : UInt16) (remoteAddress : IpAddr)
    (remotePort : UInt16) : OutboundKey where
  localAddress := normalizeIpAddress localAddress
  localPort
  remoteAddress := normalizeIpAddress remoteAddress
  remotePort
  protocol := udpProtocol

theorem udpTargetAt_eq (state : FlowState) (localAddress : IpAddr) (localPort : UInt16)
    (remoteAddress : IpAddr) (remotePort : UInt16) (capturedAt : Instant) (counter : Int) :
    udpTargetAt state localAddress localPort remoteAddress remotePort capturedAt counter =
      match (state.outbound.get? (udpKey localAddress localPort remoteAddress remotePort)).filter
          fun current => current.covers counter with
      | some current => some current.rewrite
      | none =>
        ((retiredVersions state
          (udpKey localAddress localPort remoteAddress remotePort)).reverse.find? fun retired =>
            retired.covers capturedAt counter).map RetiredUdpTarget.rewrite := rfl

section Queries

variable {state : FlowState} {ended : List Version} {watermarks : List Int} {clock counter : Int}
  {key : OutboundKey}

/-- A live version that holds a counter leaves it to no ended version. -/
theorem Generations.live_apart (generations : Generations state ended watermarks clock)
    {tracked : TrackedTarget} (present : state.outbound.get? key = some tracked)
    (covers : tracked.covers counter = true) (member : version ∈ ended)
    (sameKey : version.key = key) : ¬version.Contains counter := by
  intro inside
  obtain ⟨_, _, starts, later⟩ := generations.live present
  obtain ⟨_, retiredAt, _, ends, _⟩ := generations.bounds version member
  have inLive : (tracked.version key none).Contains counter := TrackedTarget.covers_iff.1 covers
  exact Version.not_contains_both ends starts (later version member sameKey retiredAt ends) inside
    inLive

theorem Generations.retired_covers (generations : Generations state ended watermarks clock)
    (member : retired ∈ retiredVersions state key) {capturedAt : Instant} :
    retired.covers capturedAt counter = true ↔ (retired.version key).Contains counter := by
  obtain ⟨_, _, _, ends, _⟩ :=
    generations.bounds _ (generations.stored key retired member)
  exact RetiredUdpTarget.covers_iff ends

variable {localAddress remoteAddress : IpAddr} {localPort remotePort : UInt16}
  {capturedAt : Instant}

theorem udpTargetAt_live (member : version ∈ liveVersions state)
    (sameKey : version.key = udpKey localAddress localPort remoteAddress remotePort)
    (inside : version.Contains counter) :
    udpTargetAt state localAddress localPort remoteAddress remotePort capturedAt counter =
      some version.rewrite := by
  obtain ⟨⟨_, _⟩, entry, rfl⟩ := List.mem_map.mp member
  subst sameKey
  have present := mem_toList.mp entry
  have covers := TrackedTarget.covers_iff.2 inside
  rw [udpTargetAt_eq, present, filter_some, if_pos covers]
  rfl

theorem Generations.udpTargetAt_ended (generations : Generations state ended watermarks clock)
    (fresh : ∀ watermark ∈ watermarks, watermark ≤ counter) (member : version ∈ ended)
    (sameKey : version.key = udpKey localAddress localPort remoteAddress remotePort)
    (inside : version.Contains counter) :
    udpTargetAt state localAddress localPort remoteAddress remotePort capturedAt counter =
      some version.rewrite := by
  have notLive : (state.outbound.get?
      (udpKey localAddress localPort remoteAddress remotePort)).filter
        (fun current => current.covers counter) = none := by
    rw [filter_eq_none_iff]
    intro _ present covers
    exact generations.live_apart present covers member sameKey inside
  obtain ⟨retired, stored, equal⟩ := generations.kept version member fun watermark passed
    retiredAt ends => by
      have below := fresh watermark passed
      have above := inside.2 retiredAt ends
      omega
  have covered : retired.covers capturedAt counter = true := by
    rw [generations.retired_covers stored, equal]
    exact inside
  rw [udpTargetAt_eq, notLive]
  cases found : (retiredVersions state
      (udpKey localAddress localPort remoteAddress remotePort)).reverse.find?
        (fun retired => retired.covers capturedAt counter) with
  | none =>
    simp_all
  | some other =>
    -- The reverse search may stop at another record, but only one of the same version.
    have otherStored := mem_reverse.mp (mem_of_find?_eq_some found)
    have otherCovers : other.covers capturedAt counter = true := by
      simpa using find?_some found
    have otherInside := (generations.retired_covers otherStored).mp otherCovers
    have sameVersion := generations.apart _ (generations.stored _ other otherStored) version
      member sameKey.symm counter otherInside inside
    exact congrArg some (congrArg Version.rewrite sameVersion)

theorem Generations.udpTargetAt_none (generations : Generations state ended watermarks clock)
    (outside : ∀ version ∈ ended ++ liveVersions state,
      version.key = udpKey localAddress localPort remoteAddress remotePort →
        ¬version.Contains counter) :
    udpTargetAt state localAddress localPort remoteAddress remotePort capturedAt counter =
      none := by
  have notLive : (state.outbound.get?
      (udpKey localAddress localPort remoteAddress remotePort)).filter
        (fun current => current.covers counter) = none := by
    rw [filter_eq_none_iff]
    intro tracked present covers
    have member : tracked.version (udpKey localAddress localPort remoteAddress remotePort) none ∈
        liveVersions state :=
      List.mem_map.mpr ⟨(_, tracked), mem_toList.mpr present, rfl⟩
    exact outside _ (mem_append_right _ member) rfl (TrackedTarget.covers_iff.1 covers)
  rw [udpTargetAt_eq, notLive]
  simp only [map_eq_none_iff, find?_eq_none, mem_reverse]
  intro retired stored covers
  exact outside _ (mem_append_left _ (generations.stored _ retired stored)) rfl
    ((generations.retired_covers stored).mp covers)

end Queries

theorem udpTargetAt_advance (state : FlowState) (localAddress : IpAddr) (localPort : UInt16)
    (remoteAddress : IpAddr) (remotePort : UInt16) (capturedAt : Instant)
    {watermark counter : Int} (notPassed : watermark ≤ counter) :
    udpTargetAt (advanceUdpObservationWatermark state watermark) localAddress localPort
        remoteAddress remotePort capturedAt counter =
      udpTargetAt state localAddress localPort remoteAddress remotePort capturedAt counter := by
  have dropped : ∀ retired : RetiredUdpTarget, retired.covers capturedAt counter = true →
      (retired.retiredAtCounter.all fun retiredAt => decide (watermark ≤ retiredAt)) = true := by
    grind [RetiredUdpTarget.covers]
  have sameSearch : ∀ key, (retiredVersions (advanceUdpObservationWatermark state watermark)
        key).reverse.find? (fun retired => retired.covers capturedAt counter) =
      (retiredVersions state key).reverse.find? fun retired =>
        retired.covers capturedAt counter := by
    intro key
    rw [retiredVersions_advance, retainVersions]
    grind
  rw [udpTargetAt_eq, sameSearch]
  rfl

/-- Along every run whose counters do not decrease, a query at a counter that no
watermark has passed is answered by the version of the tuple whose interval holds the
counter, and by nothing when there is none; a watermark leaves the answers at and
above it as they are. -/
theorem udpTargetAt_versions (events : List UdpEvent)
    (ordered : (events.filterMap UdpEvent.counter?).Pairwise (· ≤ ·))
    (localAddress : IpAddr) (localPort : UInt16) (remoteAddress : IpAddr) (remotePort : UInt16)
    (capturedAt : Instant) :
    (∀ counter, (∀ watermark ∈ events.filterMap UdpEvent.watermark?, watermark ≤ counter) →
      (∀ version ∈ versions events,
        version.key = udpKey localAddress localPort remoteAddress remotePort →
        version.Contains counter →
        udpTargetAt (stateAfter events) localAddress localPort remoteAddress remotePort capturedAt
          counter = some version.rewrite) ∧
      ((∀ version ∈ versions events,
        version.key = udpKey localAddress localPort remoteAddress remotePort →
        ¬version.Contains counter) →
        udpTargetAt (stateAfter events) localAddress localPort remoteAddress remotePort capturedAt
          counter = none)) ∧
    ∀ watermark counter, watermark ≤ counter →
      udpTargetAt (advanceUdpObservationWatermark (stateAfter events) watermark) localAddress
          localPort remoteAddress remotePort capturedAt counter =
        udpTargetAt (stateAfter events) localAddress localPort remoteAddress remotePort capturedAt
          counter := by
  obtain ⟨_, generations⟩ := generations_stateAfter events ordered
  refine ⟨?_, fun watermark counter notPassed => udpTargetAt_advance _ _ _ _ _ _ notPassed⟩
  intro counter fresh
  refine ⟨?_, generations.udpTargetAt_none⟩
  intro version member sameKey inside
  rcases mem_append.mp member with ended | live
  · exact generations.udpTargetAt_ended fresh ended sameKey inside
  · exact udpTargetAt_live live sameKey inside

/-- A local port is used by endpoint 61, closed, and reused by endpoint 62. -/
def reusedPort : List UdpEvent :=
  [ .opened ⟨7001, 61, IpAddr.ipv4 192 0 2 10, 53000, IpAddr.ipv4 198 51 100 20, 53, udpProtocol⟩
      rfl IpAddr.localhostV4 1080 10 0,
    .closed [61] 20 1,
    .processed 12,
    .opened ⟨7002, 62, IpAddr.ipv4 192 0 2 10, 53000, IpAddr.ipv4 198 51 100 20, 53, udpProtocol⟩
      rfl IpAddr.localhostV4 1080 20 2 ]

/-- A packet captured before the close still belongs to the process of endpoint 61. -/
theorem udpTargetAt_reusedPort :
    (reusedPort.filterMap UdpEvent.counter?).Pairwise (· ≤ ·) ∧
      udpTargetAt (stateAfter reusedPort) (IpAddr.ipv4 192 0 2 10) 53000
        (IpAddr.ipv4 198 51 100 20) 53 3 19 =
      some ⟨61, ⟨7001, .new (IpAddr.ipv4 198 51 100 20) 53⟩, IpAddr.ipv4 192 0 2 10,
        IpAddr.localhostV4, 53000, 49152, none⟩ := by
  have answers := udpTargetAt_versions reusedPort (by decide) (IpAddr.ipv4 192 0 2 10) 53000
    (IpAddr.ipv4 198 51 100 20) 53 3
  have recorded : (⟨⟨IpAddr.ipv4 192 0 2 10, 53000, IpAddr.ipv4 198 51 100 20, 53, udpProtocol⟩,
      ⟨61, ⟨7001, .new (IpAddr.ipv4 198 51 100 20) 53⟩, IpAddr.ipv4 192 0 2 10,
        IpAddr.localhostV4, 53000, 49152, none⟩, some 10, some 20⟩ : Version) ∈
      versions reusedPort := by
    decide
  refine ⟨by decide, (answers.1 19 (by decide)).1 _ recorded (by decide) ?_⟩
  simp [Version.Contains]

end SprakCapture.ProcessCapture
