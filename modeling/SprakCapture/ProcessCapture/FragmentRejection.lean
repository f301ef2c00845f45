import SprakCapture.ProcessCapture.FragmentAccounting

/-!
# Rejected fragments

A push may refuse a fragment with an error, and a refusal is to leave the assembler
as it was, up to ignored groups that expired or gave way. Two branches do not: a
disposition on a later fragment opens its group before it is rejected, and a
conflict drops a group whose owner is not known yet. This module says exactly which
pushes meet them. Nothing here assumes that the totals agree with the groups; a push
only has to return.
-/

namespace SprakCapture.ProcessCapture

open Data List Data.Outcome Data.Table FragmentGroup Outcome Table UdpFragmentDisposition

variable {Observation : Type}

/-- The errors of a datagram that was complete. -/
def UdpFragmentError.afterCompletion : UdpFragmentError → Bool
  | .missingUdpHeaderOffset | .reassembledTooShort | .reassembledLengthTooLong => true
  | _ => false

/-- The push completed its group, as a datagram or as a fault. -/
def Pushed.completes (pushed : Pushed Observation) : Bool :=
  match pushed.result with
  | .ok reassembled => reassembled.isSome
  | .error error => error.afterCompletion

/-- A part cannot stand beside the pieces or the length of its group. -/
def FragmentGroup.Contradicts (group : FragmentGroup Observation) (part : UdpFragmentPart) : Prop :=
  validateNoConflictingOverlap part.payloadOffset part.fragmentPayload group.pieces.entries ≠
      .ok () ∨
    (part.moreFragments = false ∧ ∃ length, group.finalLength = some length ∧
      length ≠ part.payloadOffset + part.fragmentPayload.length)

variable (needed limit : Nat) {reserved : UdpFragmentAssembler Observation}

namespace UdpFragmentAssembler

/-! ### What a push may change -/

/-- An ignored group was taken out, and the totals went down by what it held. -/
def ReleasesIgnored (before after : UdpFragmentAssembler Observation) : Prop :=
  ∃ key group, before.groups.get? key = some group ∧ group.isIgnored = true ∧
    before.releaseGroup key group = .ok after

/-- Two assemblers hold the same groups, totals and faults. -/
structure SameContents (before after : UdpFragmentAssembler Observation) : Prop where
  groups : ∀ key, after.groups.get? key = before.groups.get? key
  bufferedBytes : after.bufferedBytes = before.bufferedBytes
  bufferedObservations : after.bufferedObservations = before.bufferedObservations
  bufferedObservationBytes : after.bufferedObservationBytes = before.bufferedObservationBytes
  faultObservations : after.faultObservations = before.faultObservations

/-- A push that is rejected before its group is complete only takes ignored groups out,
and a group that is not ignored leaves only when the push completes it. -/
structure KeepsGroups (assembler : UdpFragmentAssembler Observation) (part : UdpFragmentPart)
    (pushed : Pushed Observation) : Prop where
  rejected : ∀ error, pushed.result = .error error → error.afterCompletion = false →
    ∃ remaining, Relation.ReflTransGen ReleasesIgnored assembler remaining ∧
      SameContents remaining pushed.assembler
  retained : ∀ key group, assembler.groups.get? key = some group → group.isIgnored = false →
    pushed.assembler.groups.get? key = none → key = part.key ∧ pushed.completes = true

/-! ### Which pushes fail to -/

/-- The group of a key, unless it has expired. -/
def current (assembler : UdpFragmentAssembler Observation) (key : UdpFragmentKey) (now : Instant) :
    Option (FragmentGroup Observation) :=
  (assembler.groups.get? key).filter fun group => decide (now < group.expiresAt)

/-- What the ignored groups hold that may give way to a part of one key. -/
def yielding (assembler : UdpFragmentAssembler Observation) (key : UdpFragmentKey) (now : Instant)
    (weight : FragmentGroup Observation → Nat) : Nat :=
  (if (assembler.current key now).isSome then assembler.groups.erase key
    else assembler.groups).total fun group => if group.isIgnored then weight group else 0

/-- The bytes a part adds to its group; a repeated piece adds none. -/
def neededBytes (assembler : UdpFragmentAssembler Observation) (part : UdpFragmentPart)
    (now : Instant) : Nat :=
  if ((assembler.current part.key now).bind fun group => group.pieces.get? part.payloadOffset) =
      some part.fragmentPayload then 0
  else part.fragmentPayload.length

/-- The budgets can take a part once enough ignored groups have given way. -/
structure FindsRoom (assembler : UdpFragmentAssembler Observation) (part : UdpFragmentPart)
    (observationBytes : Nat) (now : Instant) : Prop where
  group : (assembler.current part.key now).isSome = true ∨
    (assembler.groups.retain fun _ group => decide (now < group.expiresAt)).size <
      maximumFragmentGroups ∨
    ∃ key group, assembler.current key now = some group ∧ group.isIgnored = true
  bytes : assembler.bufferedBytes + assembler.neededBytes part now ≤
    maximumBufferedFragmentBytes + assembler.yielding part.key now pieceBytes
  observations : assembler.bufferedObservations + 1 ≤ maximumBufferedFragmentObservations +
    assembler.yielding part.key now fun group => group.observations.length
  observationBytes : assembler.bufferedObservationBytes + observationBytes ≤
    maximumBufferedObservationBytes + assembler.yielding part.key now FragmentGroup.observationBytes

/-- The push reaches one of the two branches that change more than they may: no required
group has expired, the budgets can take the part, and it either is a later fragment that
carries a disposition and has no group yet, or contradicts a group of unknown owner
without being known as selected itself. -/
structure Mishandled (assembler : UdpFragmentAssembler Observation) (part : UdpFragmentPart)
    (disposition : Option UdpFragmentDisposition) (observationBytes : Nat) (now : Instant) :
    Prop where
  fresh : ¬assembler.ExpiredRequired now
  room : assembler.FindsRoom part observationBytes now
  branch : (disposition.isSome = true ∧ part.payloadOffset ≠ 0 ∧
      assembler.current part.key now = none) ∨
    (disposition.any UdpFragmentDisposition.isSelected = false ∧
      ∃ group, assembler.current part.key now = some group ∧ group.disposition = none ∧
        group.Contradicts part)

/-! ### Groups that give way -/

/-- An ignored group gave way to a part: one of another key, or an expired one. -/
def Yields (key : UdpFragmentKey) (now : Instant)
    (before after : UdpFragmentAssembler Observation) : Prop :=
  ∃ other group, before.groups.get? other = some group ∧ group.isIgnored = true ∧
    (other ≠ key ∨ group.expiresAt ≤ now) ∧ before.releaseGroup other group = .ok after

/-- What `releaseGroup` leaves, when the totals allow it. -/
structure ReleaseEffect (before after : UdpFragmentAssembler Observation) (key : UdpFragmentKey)
    (group : FragmentGroup Observation) : Prop where
  groups : after.groups = before.groups.erase key
  bytes : after.bufferedBytes + group.pieceBytes = before.bufferedBytes
  observations : after.bufferedObservations + group.observations.length =
    before.bufferedObservations
  observationBytes : after.bufferedObservationBytes + group.observationBytes =
    before.bufferedObservationBytes
  faultObservations : after.faultObservations = before.faultObservations
  fragmentLifetimeOverride : after.fragmentLifetimeOverride = before.fragmentLifetimeOverride

section

variable {before after assembler : UdpFragmentAssembler Observation} {key other : UdpFragmentKey}
  {group : FragmentGroup Observation} {now : Instant}

theorem releaseGroup_effect (released : before.releaseGroup key group = .ok after) :
    ReleaseEffect before after key group := by
  obtain ⟨_, bytesLeft, released⟩ := bind_eq_ok.mp released
  obtain ⟨_, observationsLeft, released⟩ := bind_eq_ok.mp released
  obtain ⟨_, observationBytesLeft, released⟩ := bind_eq_ok.mp released
  obtain ⟨bytesWithin, rfl⟩ := checkedSub_eq_ok.mp bytesLeft
  obtain ⟨observationsWithin, rfl⟩ := checkedSub_eq_ok.mp observationsLeft
  obtain ⟨observationBytesWithin, rfl⟩ := checkedSub_eq_ok.mp observationBytesLeft
  cases released
  exact ⟨rfl, Nat.sub_add_cancel bytesWithin, Nat.sub_add_cancel observationsWithin,
    Nat.sub_add_cancel observationBytesWithin, rfl, rfl⟩

section

variable (yields : Yields key now before after)
include yields

theorem Yields.releasesIgnored : ReleasesIgnored before after := by
  obtain ⟨other, group, found, ignored, _, released⟩ := yields
  exact ⟨other, group, found, ignored, released⟩

/-- The group of the part stays, unless it has expired. -/
theorem Yields.current_eq : after.current key now = before.current key now := by
  obtain ⟨_, group, _, _, allowed, released⟩ := yields
  unfold current
  rw [(releaseGroup_effect released).groups, get?_erase]
  split
  · rename_i same
    subst same
    grind
  · rfl

omit yields in
theorem yielding_of_none (assembler : UdpFragmentAssembler Observation)
    (weight : FragmentGroup Observation → Nat) (gone : assembler.current key now = none) :
    assembler.yielding key now weight =
      assembler.groups.total fun group => if group.isIgnored then weight group else 0 := by
  unfold yielding
  rw [gone]
  rfl

omit yields in
theorem yielding_of_some (assembler : UdpFragmentAssembler Observation)
    (weight : FragmentGroup Observation → Nat) (held : (assembler.current key now).isSome = true) :
    assembler.yielding key now weight =
      (assembler.groups.erase key).total fun group =>
        if group.isIgnored then weight group else 0 := by
  unfold yielding
  rw [if_pos held]

/-- What a group held is no longer there to give way. -/
theorem Yields.yielding_eq :
    ∃ group other, before.groups.get? other = some group ∧
      before.releaseGroup other group = .ok after ∧
      ∀ weight, after.yielding key now weight + weight group = before.yielding key now weight := by
  have kept := yields.current_eq
  obtain ⟨other, group, found, ignored, allowed, released⟩ := yields
  have groups := (releaseGroup_effect released).groups
  refine ⟨group, other, found, released, fun weight => ?_⟩
  cases held : before.current key now with
  | none =>
    rw [held] at kept
    rw [yielding_of_none _ _ held, yielding_of_none _ _ kept, groups,
      total_eq_of_get? _ found, if_pos ignored]
    exact Nat.add_comm _ _
  | some =>
    have heldBefore : (before.current key now).isSome = true := by rw [held]; rfl
    have heldAfter : (after.current key now).isSome = true := by rw [kept]; exact heldBefore
    -- A group that gives way while the part has one of its own is of another key.
    have different : other ≠ key := by
      rintro rfl
      grind [current]
    have foundErased : (before.groups.erase key).get? other = some group := by
      rw [get?_erase, if_neg different, found]
    rw [yielding_of_some _ _ heldBefore, yielding_of_some _ _ heldAfter, groups,
      total_eq_of_get? _ foundErased, if_pos ignored, Table.erase_comm]
    exact Nat.add_comm _ _

/-- Whether a budget can be met does not depend on what has given way already. -/
theorem Yields.room_iff :
    (∀ needed limit,
      after.bufferedBytes + needed ≤ limit + after.yielding key now pieceBytes ↔
        before.bufferedBytes + needed ≤ limit + before.yielding key now pieceBytes) ∧
    (∀ needed limit,
      after.bufferedObservations + needed ≤
          limit + (after.yielding key now fun group => group.observations.length) ↔
        before.bufferedObservations + needed ≤
          limit + before.yielding key now fun group => group.observations.length) ∧
    (∀ needed limit,
      after.bufferedObservationBytes + needed ≤
          limit + after.yielding key now observationBytes ↔
        before.bufferedObservationBytes + needed ≤
          limit + before.yielding key now observationBytes) := by
  obtain ⟨group, _, _, released, less⟩ := yields.yielding_eq
  have effect := releaseGroup_effect released
  have bytes := effect.bytes
  have observations := effect.observations
  have observationBytes := effect.observationBytes
  grind

theorem Yields.get?_required (found : before.groups.get? other = some group)
    (required : group.isIgnored = false) : after.groups.get? other = some group := by
  obtain ⟨_, _, _, _, _, released⟩ := yields
  rw [(releaseGroup_effect released).groups]
  grind

end

theorem ReleasesIgnored.get?_of_after (released : ReleasesIgnored before after)
    (found : after.groups.get? key = some group) : before.groups.get? key = some group := by
  obtain ⟨_, _, _, _, result⟩ := released
  rw [(releaseGroup_effect result).groups, get?_erase] at found
  split at found
  · cases found
  · exact found

/-! ### Making room -/

/-- Any number of ignored groups gave way to a part. -/
abbrev Yielded (key : UdpFragmentKey) (now : Instant) :
    UdpFragmentAssembler Observation → UdpFragmentAssembler Observation → Prop :=
  Relation.ReflTransGen (Yields key now)

section

variable (yielded : Yielded key now before after)
include yielded

theorem Yielded.releasesIgnored : Relation.ReflTransGen ReleasesIgnored before after :=
  yielded.lift id fun _ _ step => step.releasesIgnored

theorem Yielded.current_eq : after.current key now = before.current key now := by
  induction yielded with
  | refl => rfl
  | tail _ step ih => rw [step.current_eq, ih]

theorem Yielded.get?_required (found : before.groups.get? other = some group)
    (required : group.isIgnored = false) : after.groups.get? other = some group := by
  induction yielded with
  | refl => exact found
  | tail _ step ih => exact step.get?_required ih required

omit yielded in
theorem get?_of_released (released : Relation.ReflTransGen ReleasesIgnored before after)
    (found : after.groups.get? key = some group) : before.groups.get? key = some group := by
  induction released with
  | refl => exact found
  | tail _ step ih => exact ih (step.get?_of_after found)

theorem Yielded.bytes_iff :
    after.bufferedBytes + needed ≤ limit + after.yielding key now pieceBytes ↔
      before.bufferedBytes + needed ≤ limit + before.yielding key now pieceBytes := by
  induction yielded with
  | refl => rfl
  | tail _ step ih => exact (step.room_iff.1 needed limit).trans ih

theorem Yielded.observations_iff :
    after.bufferedObservations + needed ≤
        limit + (after.yielding key now fun group => group.observations.length) ↔
      before.bufferedObservations + needed ≤
        limit + before.yielding key now fun group => group.observations.length := by
  induction yielded with
  | refl => rfl
  | tail _ step ih => exact (step.room_iff.2.1 needed limit).trans ih

theorem Yielded.observationBytes_iff :
    after.bufferedObservationBytes + needed ≤
        limit + after.yielding key now observationBytes ↔
      before.bufferedObservationBytes + needed ≤
        limit + before.yielding key now observationBytes := by
  induction yielded with
  | refl => rfl
  | tail _ step ih => exact (step.room_iff.2.2 needed limit).trans ih

end

/-- Removing expired ignored groups one by one. -/
theorem foldlM_removeGroup_ok {keys : List UdpFragmentKey}
    (removed : keys.foldlM removeGroup assembler =
      (.ok after : Outcome Empty (UdpFragmentAssembler Observation)))
    (expired : ∀ other ∈ keys, ∀ group, assembler.groups.get? other = some group →
      group.isIgnored = true ∧ group.expiresAt ≤ now) :
    Yielded key now assembler after ∧
      ∀ other, after.groups.get? other =
        if other ∈ keys then none else assembler.groups.get? other := by
  induction keys generalizing assembler with
  | nil =>
    cases removed
    exact ⟨.refl, fun other => by simp⟩
  | cons first keys ih =>
    obtain ⟨middle, head, rest⟩ := bind_eq_ok.mp removed
    unfold removeGroup at head
    split at head
    · cases head
      grind
    rename_i group found
    have groups := (releaseGroup_effect head).groups
    obtain ⟨ignored, late⟩ := expired first mem_cons_self group found
    have restExpired : ∀ other ∈ keys, ∀ group, middle.groups.get? other = some group →
        group.isIgnored = true ∧ group.expiresAt ≤ now := by
      grind
    obtain ⟨yielded, _⟩ := ih rest restExpired
    refine ⟨.head ⟨first, group, found, ignored, .inr late, head⟩ yielded, fun other => ?_⟩
    grind

theorem pruneExpired_ok {result : Except UdpFragmentError Unit}
    (pruned : assembler.pruneExpired now = .ok (result, after)) (key : UdpFragmentKey) :
    (assembler.ExpiredRequired now ∧ result = .error .incompleteOnExpiry ∧ after = assembler) ∨
      (¬assembler.ExpiredRequired now ∧ result = .ok () ∧ Yielded key now assembler after ∧
        ∀ other, after.groups.get? other = assembler.current other now) := by
  unfold pruneExpired at pruned
  split at pruned
  · rename_i required
    cases pruned
    exact .inl ⟨expiredRequired_iff.mp required, rfl, rfl⟩
  rename_i notRequired
  have none := mt expiredRequired_iff.mpr notRequired
  obtain ⟨_, removed, rest⟩ := bind_eq_ok.mp pruned
  cases rest
  have expired : ∀ other ∈ assembler.expiredKeys now, ∀ group,
      assembler.groups.get? other = some group →
        group.isIgnored = true ∧ group.expiresAt ≤ now := by
    intro other member group found
    obtain ⟨expired, expiredFound, late⟩ := mem_expiredKeys.mp member
    rw [found] at expiredFound
    cases expiredFound
    refine ⟨?_, late⟩
    by_contra required
    exact none ⟨other, group, found, late, by simpa using required⟩
  obtain ⟨yielded, lookups⟩ :
      Yielded key now assembler after ∧ _ := foldlM_removeGroup_ok removed expired
  refine .inr ⟨none, rfl, yielded, fun other => ?_⟩
  rw [lookups]
  unfold current
  cases found : assembler.groups.get? other with
  | none => simp
  | some group =>
    have listed : other ∈ assembler.expiredKeys now ↔ group.expiresAt ≤ now := by
      rw [mem_expiredKeys, found]
      simp
    grind

variable {granted : Bool}

theorem evictIgnoredGroup_ok {excludedKey : Option UdpFragmentKey}
    (evicted : assembler.evictIgnoredGroup excludedKey = .ok (granted, after)) :
    (granted = false ∧ after = assembler ∧ ∀ other group,
        assembler.groups.get? other = some group → group.isIgnored = true →
          some other = excludedKey) ∨
      (granted = true ∧ ∃ other group, assembler.groups.get? other = some group ∧
        group.isIgnored = true ∧ some other ≠ excludedKey ∧
        assembler.releaseGroup other group = .ok after) := by
  unfold evictIgnoredGroup at evicted
  dsimp only at evicted
  split at evicted
  · rename_i empty
    cases evicted
    refine .inl ⟨rfl, rfl, fun other group found ignored => ?_⟩
    have noCandidate := argmin_eq_none.mp empty
    by_contra different
    refine filter_eq_nil_iff.mp noCandidate (other, group) (mem_toList.mpr found) ?_
    simp [different, ignored]
  · rename_i entry chosen
    have member := argmin_mem chosen
    rw [mem_filter, Bool.and_eq_true] at member
    obtain ⟨listed, different, ignored⟩ := member
    have found := mem_toList.mp listed
    obtain ⟨_, _, rest⟩ := bind_eq_ok.mp evicted
    cases rest
    grind [removeGroup]

section

variable (live : assembler.groups.get? key = assembler.current key now)
include live

/-- Without an ignored group of another key nothing can give way any more. -/
theorem yielding_eq_zero
    (exhausted : ∀ other group, assembler.groups.get? other = some group →
      group.isIgnored = true → some other = some key)
    (weight : FragmentGroup Observation → Nat) : assembler.yielding key now weight = 0 := by
  have zero : ∀ table : Table UdpFragmentKey (FragmentGroup Observation),
      (∀ other group, table.get? other = some group → group.isIgnored = false) →
        (table.total fun group => if group.isIgnored then weight group else 0) = 0 := by
    intro table required
    refine sum_eq_zero fun _ member => ?_
    obtain ⟨group, listed, rfl⟩ := List.mem_map.mp member
    obtain ⟨other, found⟩ := mem_values.mp listed
    rw [required other group found]
    rfl
  cases held : assembler.current key now with
  | none =>
    rw [yielding_of_none _ _ held]
    refine zero _ fun other group found => ?_
    by_contra ignored
    obtain rfl := Option.some.inj (exhausted other group found (by simpa using ignored))
    rw [live, held] at found
    cases found
  | some =>
    rw [yielding_of_some _ _ (by rw [held]; rfl)]
    grind

omit live in
theorem reserveGroup_ok (now : Instant)
    (reserved : assembler.reserveGroup key = .ok (granted, after)) :
    Yielded key now assembler after ∧ after.groups.get? key = assembler.groups.get? key ∧
      (granted = true ↔ assembler.groups.contains key = true ∨
        assembler.groups.size < maximumFragmentGroups ∨
        ∃ other group, assembler.groups.get? other = some group ∧ group.isIgnored = true) := by
  unfold reserveGroup at reserved
  split at reserved
  · rename_i full
    obtain ⟨unheld, _⟩ := full
    have absent : assembler.groups.get? key = none := by simpa [Table.contains] using unheld
    have noRoom : assembler.groups.contains key ≠ true ∧
        ¬assembler.groups.size < maximumFragmentGroups := by
      simp_all
    rcases evictIgnoredGroup_ok reserved with
      ⟨rfl, rfl, _⟩ | ⟨rfl, other, group, found, ignored, _, released⟩
    · grind
    have different : other ≠ key := by
      grind
    refine ⟨.single ⟨other, group, found, ignored, .inl different, released⟩, ?_, ?_⟩
    · rw [(releaseGroup_effect released).groups, Table.get?_erase, if_neg different.symm]
    grind
  · rename_i room
    cases reserved
    refine ⟨.refl, rfl, iff_of_true rfl ?_⟩
    rw [not_and_or] at room
    rcases room with _ | _
    · grind
    · exact .inr (.inl (by omega))

omit live in
theorem reserveWhile_ok (now : Instant) {exceeded : UdpFragmentAssembler Observation → Bool}
    (reserved : reserveWhile exceeded key assembler = .ok (granted, after)) :
    Yielded key now assembler after ∧ after.groups.get? key = assembler.groups.get? key ∧
      exceeded after = !granted ∧
      (granted = false → ∀ other group, after.groups.get? other = some group →
        group.isIgnored = true → some other = some key) := by
  have loops := loopsTo_of_loop reserved
  clear reserved
  generalize answer : (granted, after) = found at loops
  induction loops with
  | @done state value result =>
    subst answer
    split at result
    · rename_i exceeds
      obtain ⟨⟨evicted, remaining⟩, eviction, rest⟩ := Outcome.bind_eq_ok.mp result
      rcases evictIgnoredGroup_ok eviction with ⟨rfl, rfl, exhausted⟩ | ⟨rfl, _⟩
      · cases rest
        exact ⟨.refl, rfl, exceeds, fun _ => exhausted⟩
      · cases rest
    · rename_i within
      cases result
      exact ⟨.refl, rfl, by simpa using within, by simp⟩
  | @next state next value result _ ih =>
    split at result
    · obtain ⟨⟨evicted, remaining⟩, eviction, rest⟩ := Outcome.bind_eq_ok.mp result
      rcases evictIgnoredGroup_ok eviction with
        ⟨rfl, _⟩ | ⟨rfl, other, group, found, ignored, different, released⟩
      · cases rest
      cases rest
      obtain ⟨yielded, kept, answered, exhausted⟩ := ih answer
      have different : other ≠ key := fun same => different (congrArg some same)
      refine ⟨.head ⟨other, group, found, ignored, .inl different, released⟩ yielded, ?_,
        answered, exhausted⟩
      rw [kept, (releaseGroup_effect released).groups, Table.get?_erase, if_neg different.symm]
    · cases result

/-- The byte budget is met exactly when the ignored groups hold enough. -/
theorem reserveBytes_iff {needed : Nat}
    (reserved : reserveWhile (exceedsBytes needed) key assembler = .ok (granted, after)) :
    granted = true ↔ assembler.bufferedBytes + needed ≤
      maximumBufferedFragmentBytes + assembler.yielding key now pieceBytes := by
  obtain ⟨yielded, kept, answered, exhausted⟩ := reserveWhile_ok now reserved
  rw [← yielded.bytes_iff]
  cases granted with
  | true =>
    have within := of_decide_eq_false answered
    exact iff_of_true rfl (by omega)
  | false =>
    have exceeding := of_decide_eq_true answered
    have none := yielding_eq_zero (kept.trans (live.trans yielded.current_eq.symm))
      (exhausted rfl) pieceBytes
    simp_all

/-- The packet budgets are met exactly when the ignored groups hold enough. -/
theorem reserveObservations_iff {needed : Nat}
    (reserved : reserveWhile (exceedsObservations needed) key assembler = .ok (granted, after)) :
    granted = true ↔
      assembler.bufferedObservations + 1 ≤ maximumBufferedFragmentObservations +
          (assembler.yielding key now fun group => group.observations.length) ∧
        assembler.bufferedObservationBytes + needed ≤ maximumBufferedObservationBytes +
          assembler.yielding key now observationBytes := by
  obtain ⟨yielded, kept, answered, exhausted⟩ := reserveWhile_ok now reserved
  rw [← yielded.observations_iff, ← yielded.observationBytes_iff]
  unfold exceedsObservations at answered
  cases granted with
  | true =>
    grind
  | false =>
    have own := kept.trans (live.trans yielded.current_eq.symm)
    have noPackets := yielding_eq_zero own (exhausted rfl) fun group => group.observations.length
    have noBytes := yielding_eq_zero own (exhausted rfl) observationBytes
    grind

end

/-- The end of a push, once the budgets can take the part. -/
def settle (assembler : UdpFragmentAssembler Observation) (part : UdpFragmentPart)
    (disposition : Option UdpFragmentDisposition) (observation : Observation)
    (observationBytes newBytes : Nat) (selected : Bool) (now : Instant) :
    Outcome Empty (Pushed Observation) :=
  match assembler.conflict part with
  | .error error =>
    if selected then pure { result := .error error, assembler }
    else do
      let assembler ← assembler.removeGroup part.key
      pure { result := .ok none, assembler }
  | .ok () => assembler.storeObservation part disposition observation observationBytes newBytes now

variable {part : UdpFragmentPart}

theorem newBytes_of_live (live : after.groups.get? part.key = assembler.current part.key now) :
    after.newBytes part = assembler.neededBytes part now := by
  unfold newBytes neededBytes
  rw [live]

variable {disposition : Option UdpFragmentDisposition} {pushed : Pushed Observation}
  {observation : Observation}

/-- What a push does when it returns: it reports an expired group, it refuses the part for
want of room, or it settles it. -/
theorem pushWithObservation_cases {observationBytes : Nat}
    (push : assembler.pushWithObservation part disposition observation observationBytes now =
      .ok pushed) :
    (assembler.ExpiredRequired now ∧ pushed.assembler = assembler) ∨
      (¬assembler.ExpiredRequired now ∧ ¬assembler.FindsRoom part observationBytes now ∧
        Yielded part.key now assembler pushed.assembler) ∨
      (¬assembler.ExpiredRequired now ∧ assembler.FindsRoom part observationBytes now ∧
        ∃ reserved newBytes, Yielded part.key now assembler reserved ∧
          reserved.groups.get? part.key = assembler.current part.key now ∧
          reserved.settle part disposition observation observationBytes newBytes
            ((assembler.current part.key now).any FragmentGroup.isSelected ||
              disposition.any UdpFragmentDisposition.isSelected) now = .ok pushed) := by
  obtain ⟨⟨_, pruned⟩, pruning, afterPruning⟩ := bind_eq_ok.mp push
  rcases pruneExpired_ok pruning part.key with
    ⟨required, rfl, rfl⟩ | ⟨fresh, rfl, prunedYielded, lookups⟩
  · cases afterPruning
    exact .inl ⟨required, rfl⟩
  obtain ⟨⟨grantedGroup, grouped⟩, grouping, afterGroup⟩ := bind_eq_ok.mp afterPruning
  obtain ⟨groupYielded, groupKept, groupIff⟩ := reserveGroup_ok now grouping
  have groupRoom : grantedGroup = true ↔ (assembler.current part.key now).isSome = true ∨
      (assembler.groups.retain fun _ group => decide (now < group.expiresAt)).size <
        maximumFragmentGroups ∨
      ∃ key group, assembler.current key now = some group ∧ group.isIgnored = true := by
    have size : pruned.groups.size =
        (assembler.groups.retain fun _ group => decide (now < group.expiresAt)).size := by
      have same : ∀ key, pruned.groups.get? key =
          (assembler.groups.retain fun _ group => decide (now < group.expiresAt)).get? key := by
        intro key
        rw [lookups, get?_retain]
        rfl
      refine le_antisymm (size_le_of_get? fun found => ⟨_, (same _).symm.trans found⟩)
        (size_le_of_get? fun found => ⟨_, (same _).trans found⟩)
    rw [groupIff, size]
    simp [Table.contains, lookups]
  have groupedYielded : Yielded part.key now assembler grouped :=
    prunedYielded.trans groupYielded
  have groupedLive : grouped.groups.get? part.key = assembler.current part.key now :=
    groupKept.trans (lookups part.key)
  have groupedOwn : grouped.groups.get? part.key = grouped.current part.key now :=
    groupedLive.trans groupedYielded.current_eq.symm
  cases grantedGroup with
  | false =>
    cases afterGroup
    refine .inr (.inl ⟨fresh, fun room => ?_, groupedYielded⟩)
    exact Bool.false_ne_true (groupRoom.mpr room.group)
  | true =>
  obtain ⟨⟨grantedBytes, fitted⟩, fitting, afterBytes⟩ := bind_eq_ok.mp afterGroup
  obtain ⟨bytesYielded, bytesKept, _, _⟩ := reserveWhile_ok now fitting
  have bytesRoom := reserveBytes_iff groupedOwn fitting
  rw [newBytes_of_live groupedLive, groupedYielded.bytes_iff] at bytesRoom
  have fittedYielded : Yielded part.key now assembler fitted :=
    groupedYielded.trans bytesYielded
  have fittedLive := bytesKept.trans groupedLive
  cases grantedBytes with
  | false =>
    cases afterBytes
    refine .inr (.inl ⟨fresh, fun room => ?_, fittedYielded⟩)
    exact Bool.false_ne_true (bytesRoom.mpr room.bytes)
  | true =>
  obtain ⟨⟨grantedPackets, reserved⟩, reserving, afterPackets⟩ :=
    bind_eq_ok.mp afterBytes
  obtain ⟨packetsYielded, packetsKept, _, _⟩ := reserveWhile_ok now reserving
  have packetsRoom := reserveObservations_iff
    (fittedLive.trans fittedYielded.current_eq.symm) reserving
  rw [fittedYielded.observations_iff, fittedYielded.observationBytes_iff] at packetsRoom
  have reservedYielded : Yielded part.key now assembler reserved :=
    fittedYielded.trans packetsYielded
  cases grantedPackets with
  | false =>
    cases afterPackets
    refine .inr (.inl ⟨fresh, fun room => ?_, reservedYielded⟩)
    exact Bool.false_ne_true (packetsRoom.mpr ⟨room.observations, room.observationBytes⟩)
  | true =>
    obtain ⟨packets, packetBytes⟩ := packetsRoom.mp rfl
    refine .inr (.inr ⟨fresh, ⟨groupRoom.mp rfl, bytesRoom.mp rfl, packets, packetBytes⟩,
      reserved, grouped.newBytes part, reservedYielded, packetsKept.trans fittedLive, ?_⟩)
    rw [← lookups part.key]
    exact afterPackets

/-! ### Settling a part -/

theorem conflict_eq_error_iff :
    (∃ error, assembler.conflict part = .error error) ↔
      ∃ group, assembler.groups.get? part.key = some group ∧ group.Contradicts part := by
  unfold conflict Contradicts
  cases assembler.groups.get? part.key with
  | none => simp
  | some group =>
    dsimp only
    cases overlap : validateNoConflictingOverlap part.payloadOffset part.fragmentPayload
        group.pieces.entries with
    | error error =>
      exact iff_of_true ⟨error, rfl⟩
        ⟨group, rfl, .inl fun same => nomatch overlap.symm.trans same⟩
    | ok =>
      split
      · rename_i mismatch
        refine iff_of_true ⟨_, rfl⟩ ⟨group, rfl, .inr ?_⟩
        simpa [Option.any_eq_true] using mismatch
      · refine iff_of_false (fun ⟨_, failed⟩ => nomatch failed) ?_
        grind

/-- The errors of `assembleGroup` are those of a complete datagram. -/
theorem afterCompletion_of_assembleGroup {error : UdpFragmentError}
    {observations : List Observation}
    (failed : assembleGroup group = .error (.raised (error, observations))) :
    error.afterCompletion = true := by
  unfold assembleGroup at failed
  cases held : group.disposition with
  | none =>
    rw [held] at failed
    cases failed
  | some disposition =>
    rw [held, expect_some, ok_bind] at failed
    cases disposition with
    | ignored => cases failed
    | selected =>
      dsimp only at failed
      split at failed
      · cases failed
        rfl
      rename_i udpOffset _
      unfold raiseIf at failed
      split at failed
      · cases failed
        rfl
      rw [ok_bind] at failed
      obtain ⟨udpLength, lengthRead⟩ : ∃ udpLength,
          (u16At group.pieces.values.flatten (udpOffset + 4) :
            Outcome (UdpFragmentError × List Observation) UInt16) = .ok udpLength := by
        refine ⟨_, u16At_eq_ok.mpr ⟨_, _, getElem?_eq_getElem ?_,
          getElem?_eq_getElem ?_, rfl⟩⟩ <;> omega
      rw [lengthRead, ok_bind] at failed
      split at failed
      · cases failed
        rfl
      · rw [slice_eq_ok.mpr ⟨by omega, by omega, rfl⟩] at failed
        cases failed

variable {observationBytes newBytes : Nat}

theorem storeObservation_kept (placed : ¬(disposition.isSome = true ∧ part.payloadOffset ≠ 0))
    (settled : assembler.storeObservation part disposition observation observationBytes newBytes
      now = .ok pushed) :
    (∀ other, other ≠ part.key → pushed.assembler.groups.get? other = assembler.groups.get? other) ∧
      (pushed.completes = true ∨
        pushed.result = .ok none ∧ pushed.assembler.groups.get? part.key ≠ none) := by
  unfold storeObservation at settled
  dsimp only at settled
  rw [if_neg placed] at settled
  split at settled
  · cases settled
    grind [withStored]
  obtain ⟨released, releasing, settled⟩ := bind_eq_ok.mp settled
  have others : ∀ other, other ≠ part.key →
      released.groups.get? other = assembler.groups.get? other := by
    intro other different
    rw [(releaseGroup_effect releasing).groups, get?_erase, if_neg different]
    exact (get?_insert _ _ _ _).trans (if_neg different)
  split at settled
  · cases settled
    exact ⟨others, .inl rfl⟩
  · rename_i error observations failed
    cases settled
    exact ⟨others, .inl (afterCompletion_of_assembleGroup failed)⟩
  all_goals cases settled

theorem SameContents.refl (assembler : UdpFragmentAssembler Observation) :
    SameContents assembler assembler := ⟨fun _ => rfl, rfl, rfl, rfl, rfl⟩

/-- A push that only took ignored groups out keeps the others. -/
theorem keepsGroups_of_yielded (yielded : Yielded part.key now assembler pushed.assembler) :
    KeepsGroups assembler part pushed where
  rejected := fun _ _ _ => ⟨pushed.assembler, yielded.releasesIgnored, .refl _⟩
  retained := fun _ _ found required gone => by
    rw [yielded.get?_required found required] at gone
    cases gone

/-- A group that is not ignored and has not expired is the current one. -/
theorem current_of_required (fresh : ¬assembler.ExpiredRequired now)
    (found : assembler.groups.get? key = some group) (required : group.isIgnored = false) :
    assembler.current key now = some group := by
  have live : now < group.expiresAt := by
    by_contra late
    exact fresh ⟨key, group, found, not_lt.mp late, required⟩
  grind [current]

theorem found_of_current (held : assembler.current key now = some group) :
    assembler.groups.get? key = some group :=
  (Option.filter_eq_some_iff.mp held).1

theorem settle_conflict (yielded : Yielded part.key now assembler reserved)
    (live : reserved.groups.get? part.key = assembler.current part.key now)
    (held : assembler.current part.key now = some group) (contradicts : group.Contradicts part)
    (settled : reserved.settle part disposition observation observationBytes newBytes
      ((assembler.current part.key now).any FragmentGroup.isSelected ||
        disposition.any UdpFragmentDisposition.isSelected) now = .ok pushed) :
    KeepsGroups assembler part pushed ↔
      ¬(disposition.any UdpFragmentDisposition.isSelected = false ∧ group.disposition = none) := by
  obtain ⟨_, conflicting⟩ :=
    conflict_eq_error_iff.mpr ⟨group, live.trans held, contradicts⟩
  unfold settle at settled
  rw [conflicting, held] at settled
  dsimp only at settled
  split at settled
  · cases settled
    refine iff_of_true ?_ ?_
    · exact
        { rejected := fun _ _ _ => ⟨reserved, yielded.releasesIgnored, .refl _⟩
          retained := fun _ _ found required gone => by
            rw [yielded.get?_required found required] at gone
            cases gone }
    grind [FragmentGroup.isSelected]
  · rename_i notSelected
    rw [Bool.or_eq_true, not_or] at notSelected
    obtain ⟨released, removed, settled⟩ := bind_eq_ok.mp settled
    cases settled
    unfold removeGroup at removed
    rw [live, held] at removed
    have groups := (releaseGroup_effect removed).groups
    have gone : released.groups.get? part.key = none := by
      rw [groups, get?_erase_self]
    have unselected : disposition.any UdpFragmentDisposition.isSelected = false := by
      simpa using notSelected.2
    rw [and_iff_right unselected]
    constructor
    · rintro kept unknown
      have required : group.isIgnored = false := by
        rw [FragmentGroup.isIgnored, unknown]
        rfl
      cases (kept.retained part.key group (found_of_current held) required gone).2
    · intro known
      refine ⟨nofun, fun _ _ found required otherGone => ?_⟩
      have keptGroup := yielded.get?_required found required
      rw [groups, get?_erase, keptGroup] at otherGone
      split at otherGone
      · rename_i same
        subst same
        rw [live, held] at keptGroup
        cases keptGroup
        exfalso
        cases disposed : group.disposition with
        | none => exact known disposed
        | some owner =>
          cases owner with
          | selected => exact notSelected.1 (by simp [FragmentGroup.isSelected, disposed,
              UdpFragmentDisposition.isSelected])
          | ignored => simp [FragmentGroup.isIgnored, disposed,
              UdpFragmentDisposition.isIgnored] at required
      · cases otherGone

theorem settle_stored {selected : Bool} (fresh : ¬assembler.ExpiredRequired now)
    (yielded : Yielded part.key now assembler reserved)
    (live : reserved.groups.get? part.key = assembler.current part.key now)
    (agrees : reserved.conflict part = .ok ())
    (settled : reserved.settle part disposition observation observationBytes newBytes selected
      now = .ok pushed) :
    KeepsGroups assembler part pushed ↔
      ¬(disposition.isSome = true ∧ part.payloadOffset ≠ 0 ∧
        assembler.current part.key now = none) := by
  unfold settle at settled
  rw [agrees] at settled
  by_cases misplaced : disposition.isSome = true ∧ part.payloadOffset ≠ 0
  · unfold storeObservation at settled
    rw [if_pos misplaced] at settled
    cases settled
    rw [and_iff_right misplaced.1, and_iff_right misplaced.2]
    constructor
    · -- The group that was opened is neither one of before nor ignored.
      rintro kept absent
      obtain ⟨_, released, same⟩ := kept.rejected _ rfl rfl
      have opened := same.groups part.key
      rw [get?_insert_self] at opened
      have before := get?_of_released released opened.symm
      have current := current_of_required fresh before (by
        rw [groupFor, live, absent]
        rfl)
      rw [absent] at current
      cases current
    · intro held
      obtain ⟨_, own⟩ := Option.ne_none_iff_exists'.mp held
      have stays : ∀ key, (reserved.groups.insert part.key
          (reserved.groupFor part.key now)).get? key = reserved.groups.get? key := by
        grind [groupFor]
      refine ⟨fun _ _ _ => ⟨reserved, yielded.releasesIgnored, stays, rfl, rfl, rfl, rfl⟩, ?_⟩
      intro other otherGroup found required gone
      rw [stays, yielded.get?_required found required] at gone
      cases gone
  · obtain ⟨others, own⟩ := storeObservation_kept misplaced settled
    refine iff_of_true ?_ fun branch => misplaced ⟨branch.1, branch.2.1⟩
    refine ⟨fun _ failed _ => ?_, fun other otherGroup found required gone => ?_⟩
    · rcases own with _ | ⟨stored, _⟩
      · grind [Pushed.completes]
      · rw [stored] at failed
        cases failed
    · by_cases same : other = part.key
      · simp_all
      · rw [others other same, yielded.get?_required found required] at gone
        cases gone

/-- A push that returns keeps the groups it may not touch exactly when it does not meet one
of the two branches of `Mishandled`. -/
theorem pushWithObservation_keepsGroups_iff {part : UdpFragmentPart}
    {disposition : Option UdpFragmentDisposition} {observation : Observation}
    {observationBytes : Nat} {pushed : Pushed Observation}
    (push : assembler.pushWithObservation part disposition observation observationBytes now =
      .ok pushed) :
    KeepsGroups assembler part pushed ↔
      ¬assembler.Mishandled part disposition observationBytes now := by
  rcases pushWithObservation_cases push with
    ⟨required, unchanged⟩ | ⟨fresh, cramped, yielded⟩ |
      ⟨fresh, room, reserved, _, yielded, live, settled⟩
  · have yielded : Yielded part.key now assembler pushed.assembler := by rw [unchanged]
    exact iff_of_true (keepsGroups_of_yielded yielded) fun branch => branch.fresh required
  · exact iff_of_true (keepsGroups_of_yielded yielded) fun branch => cramped branch.room
  cases checked : reserved.conflict part with
  | error error =>
    obtain ⟨group, held, contradicts⟩ := conflict_eq_error_iff.mp ⟨error, checked⟩
    rw [live] at held
    rw [settle_conflict yielded live held contradicts settled]
    refine not_congr ⟨fun ⟨unselected, unknown⟩ => ?_, fun branch => ?_⟩
    · exact ⟨fresh, room, .inr ⟨unselected, group, held, unknown, contradicts⟩⟩
    · rcases branch.branch with ⟨_, _, absent⟩ | ⟨unselected, own, ownHeld, unknown, _⟩
      · rw [held] at absent
        cases absent
      simp_all
  | ok =>
    rw [settle_stored fresh yielded live checked settled]
    refine not_congr ⟨fun misplaced => ⟨fresh, room, .inl misplaced⟩, fun branch => ?_⟩
    rcases branch.branch with misplaced | ⟨_, own, ownHeld, _, contradicts⟩
    · exact misplaced
    · obtain ⟨error, failed⟩ := conflict_eq_error_iff.mpr ⟨own, live.trans ownHeld, contradicts⟩
      rw [checked] at failed
      cases failed

end

/-- The second fragment of a datagram, which came before its first one. -/
def laterFragment : UdpFragmentPart where
  key :=
    { sourceAddress := .ipv4 192 168 1 2
      destinationAddress := .ipv4 93 184 216 34
      identification := 7
      outbound := true }
  payloadOffset := 8
  moreFragments := true
  fragmentPayload := [1, 2, 3, 4, 5, 6, 7, 8]
  packetBytes := 28
  sourcePort := none
  destinationPort := none
  udpHeaderOffset := none
  packetPayloadOffset := 20

/-- A fragment of the same datagram with other bytes. -/
def conflictingFragment : UdpFragmentPart :=
  { laterFragment with fragmentPayload := [8, 7, 6, 5, 4, 3, 2, 1] }

theorem pushWithObservation_laterFragment :
    ∃ pushed, (empty none).pushWithObservation laterFragment none () 28 0 = .ok pushed ∧
      (KeepsGroups (empty none) laterFragment pushed ↔
        ¬(empty none : UdpFragmentAssembler Unit).Mishandled laterFragment none 28 0) :=
  ⟨_, rfl, pushWithObservation_keepsGroups_iff rfl⟩

/-- A conflicting fragment drops the group of an owner that is not known yet. -/
theorem not_keepsGroups_conflicting :
    ∃ held pushed,
      (empty none).pushWithObservation laterFragment none () 28 0 = .ok ⟨.ok none, held⟩ ∧
        held.pushWithObservation conflictingFragment none () 28 0 = .ok pushed ∧
        ¬KeepsGroups held conflictingFragment pushed := by
  refine ⟨_, _, rfl, rfl, fun kept => ?_⟩
  have completed := (kept.retained laterFragment.key _ rfl rfl rfl).2
  cases completed

end UdpFragmentAssembler

end SprakCapture.ProcessCapture
