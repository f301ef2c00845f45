import SprakCapture.ProcessCapture.FlowEffects

/-!
# Agreement of the flow indices

`IndexAgreement` says that the outbound index, the reflected index and the list
of pairs of every endpoint describe the same flows, and that the two binding
indices are inverse to each other. It is carried along every run by the lookup
invariants `Indexed` and `Bound`, each preserved by every edit of the table.
-/

namespace SprakCapture.ProcessCapture

open Data List Data.Table

/-- Every index entry has an owner that lists it, and every listed pair is indexed
for its owner. -/
structure Indexed (state : FlowState) : Prop where
  owned : ∀ {key tracked}, state.outbound.get? key = some tracked →
    ∃ keys reflectedKey, state.endpointKeys.get? tracked.endpointId = some keys ∧
      (key, reflectedKey) ∈ keys
  reflectedOwned : ∀ {key rewrite}, state.reflected.get? key = some rewrite →
    ∃ keys outboundKey, state.endpointKeys.get? rewrite.endpointId = some keys ∧
      (outboundKey, key) ∈ keys
  tracks : ∀ {endpointId keys pair}, state.endpointKeys.get? endpointId = some keys →
    pair ∈ keys → ∃ tracked, state.outbound.get? pair.1 = some tracked ∧
      tracked.endpointId = endpointId
  reflects : ∀ {endpointId keys pair}, state.endpointKeys.get? endpointId = some keys →
    pair ∈ keys → ∃ rewrite, state.reflected.get? pair.2 = some rewrite ∧
      rewrite.endpointId = endpointId
  nonempty : ∀ {endpointId keys}, state.endpointKeys.get? endpointId = some keys → keys ≠ []
  distinctOutbound : ∀ {endpointId keys}, state.endpointKeys.get? endpointId = some keys →
    (keys.map Prod.fst).Nodup
  distinctReflected : ∀ {endpointId keys}, state.endpointKeys.get? endpointId = some keys →
    (keys.map Prod.snd).Nodup
  stamped : ∀ {key tracked}, state.outbound.get? key = some tracked →
    tracked.rewrite.endpointId = tracked.endpointId

/-- The binding indices are inverse to each other and hold no empty inner table. -/
structure Bound (state : FlowState) : Prop where
  inverse : ∀ endpointId key, state.udpBindingKeys.get? endpointId = some key ↔
    ∃ bindings processId, state.udpBindings.get? key = some bindings ∧
      bindings.get? endpointId = some processId
  nonempty : ∀ {key bindings}, state.udpBindings.get? key = some bindings → bindings.size ≠ 0

/-! ### Flow indices -/

theorem indexed_default : Indexed FlowState.default := by
  constructor <;> simp [FlowState.default]

variable {before after : FlowState}

theorem Indexed.of_sameIndex (indexed : Indexed before) (same : SameIndex before after) :
    Indexed after := by
  obtain ⟨outbound, reflected, endpointKeys⟩ := same
  constructor
  · simpa only [outbound, endpointKeys] using @indexed.owned
  · simpa only [reflected, endpointKeys] using @indexed.reflectedOwned
  · simpa only [outbound, endpointKeys] using @indexed.tracks
  · simpa only [reflected, endpointKeys] using @indexed.reflects
  · simpa only [endpointKeys] using @indexed.nonempty
  · simpa only [endpointKeys] using @indexed.distinctOutbound
  · simpa only [endpointKeys] using @indexed.distinctReflected
  · simpa only [outbound] using @indexed.stamped

variable {state : FlowState} {firstKeys secondKeys : List (OutboundKey × ReflectedKey)}
  {left right : OutboundKey × ReflectedKey} {first second : UInt64}

/-- The owner of an outbound key is unique. -/
theorem Indexed.outbound_owner (indexed : Indexed state)
    (firstOwner : state.endpointKeys.get? first = some firstKeys)
    (secondOwner : state.endpointKeys.get? second = some secondKeys) (leftMember : left ∈ firstKeys)
    (rightMember : right ∈ secondKeys) (same : left.1 = right.1) : first = second := by
  obtain ⟨_, _, _⟩ := indexed.tracks firstOwner leftMember
  obtain ⟨_, _, _⟩ := indexed.tracks secondOwner rightMember
  simp_all

theorem Indexed.reflected_owner (indexed : Indexed state)
    (firstOwner : state.endpointKeys.get? first = some firstKeys)
    (secondOwner : state.endpointKeys.get? second = some secondKeys) (leftMember : left ∈ firstKeys)
    (rightMember : right ∈ secondKeys) (same : left.2 = right.2) : first = second := by
  obtain ⟨_, _, _⟩ := indexed.reflects firstOwner leftMember
  obtain ⟨_, _, _⟩ := indexed.reflects secondOwner rightMember
  simp_all

variable {pair : OutboundKey × ReflectedKey} {endpointId : UInt64}

theorem mem_ownedKeys :
    pair ∈ ownedKeys state endpointId ↔
      ∃ keys, state.endpointKeys.get? endpointId = some keys ∧ pair ∈ keys := by
  unfold ownedKeys
  cases state.endpointKeys.get? endpointId with
  | none | some keys => simp

variable {keys : List (OutboundKey × ReflectedKey)}

/-- A tracked outbound key survives the removal of a different endpoint. -/
theorem Indexed.notMem_ownedOutbound (indexed : Indexed state) {endpointId other : UInt64}
    (different : other ≠ endpointId) (owner : state.endpointKeys.get? other = some keys)
    (member : pair ∈ keys) : pair.1 ∉ (ownedKeys state endpointId).map Prod.fst := by
  intro owned
  obtain ⟨_, ownedMember, same⟩ := List.mem_map.mp owned
  obtain ⟨_, ownedBy, inOwned⟩ := mem_ownedKeys.1 ownedMember
  exact different (indexed.outbound_owner owner ownedBy member inOwned same.symm)

theorem Indexed.notMem_ownedReflected (indexed : Indexed state) {endpointId other : UInt64}
    (different : other ≠ endpointId) (owner : state.endpointKeys.get? other = some keys)
    (member : pair ∈ keys) : pair.2 ∉ (ownedKeys state endpointId).map Prod.snd := by
  intro owned
  obtain ⟨_, ownedMember, same⟩ := List.mem_map.mp owned
  obtain ⟨_, ownedBy, inOwned⟩ := mem_ownedKeys.1 ownedMember
  exact different (indexed.reflected_owner owner ownedBy member inOwned same.symm)

theorem Indexed.of_removal (indexed : Indexed before)
    (effect : RemovalEffect before after endpointId) : Indexed after := by
  have survives : ∀ {other keys}, after.endpointKeys.get? other = some keys →
      other ≠ endpointId ∧ before.endpointKeys.get? other = some keys := by
    simp [effect.endpointKeys]
  constructor
  · intro key tracked found
    rw [effect.outbound] at found
    split at found
    · cases found
    rename_i notOwned
    obtain ⟨keys, reflectedKey, owner, member⟩ := indexed.owned found
    refine ⟨keys, reflectedKey, ?_, member⟩
    rw [effect.endpointKeys, if_neg]
    · exact owner
    · intro same
      rw [same] at owner
      exact notOwned (List.mem_map.mpr ⟨_, mem_ownedKeys.2 ⟨keys, owner, member⟩, rfl⟩)
  · intro key _ found
    rw [effect.reflected] at found
    split at found
    · cases found
    rename_i notOwned
    obtain ⟨keys, outboundKey, owner, member⟩ := indexed.reflectedOwned found
    refine ⟨keys, outboundKey, ?_, member⟩
    rw [effect.endpointKeys, if_neg]
    · exact owner
    · intro same
      rw [same] at owner
      exact notOwned (List.mem_map.mpr ⟨_, mem_ownedKeys.2 ⟨keys, owner, member⟩, rfl⟩)
  · intro other keys pair found member
    obtain ⟨different, owner⟩ := survives found
    rw [effect.outbound, if_neg (indexed.notMem_ownedOutbound different owner member)]
    exact indexed.tracks owner member
  · intro other keys pair found member
    obtain ⟨different, owner⟩ := survives found
    rw [effect.reflected, if_neg (indexed.notMem_ownedReflected different owner member)]
    exact indexed.reflects owner member
  · intro other keys found
    exact indexed.nonempty (survives found).2
  · intro other keys found
    exact indexed.distinctOutbound (survives found).2
  · intro other keys found
    exact indexed.distinctReflected (survives found).2
  · intro key tracked found
    rw [effect.outbound] at found
    split at found
    · cases found
    · exact indexed.stamped found

theorem Indexed.of_insertion {flow : CaptureFlow} {proxyAddress : IpAddr} {reflectedPort : UInt16}
    {counter : Option Int} (indexed : Indexed before)
    (free : before.outbound.get? flow.outboundKey = none)
    (effect : InsertionEffect before after flow proxyAddress reflectedPort counter) :
    Indexed after := by
  have unlistedOutbound : ∀ {other keys pair}, before.endpointKeys.get? other = some keys →
      pair ∈ keys → pair.1 ≠ flow.outboundKey := by
    intro other keys pair owner member same
    obtain ⟨tracked, found, _⟩ := indexed.tracks owner member
    rw [same, free] at found
    cases found
  have unlistedReflected : ∀ {other keys pair}, before.endpointKeys.get? other = some keys →
      pair ∈ keys → pair.2 ≠ reflectedKeyFor flow proxyAddress reflectedPort := by
    intro other keys pair owner member same
    obtain ⟨rewrite, found, _⟩ := indexed.reflects owner member
    rw [same, effect.free] at found
    cases found
  -- The pairs of an endpoint afterwards: those it had, and the new pair for the flow's own.
  have listed : ∀ {other keys pair}, after.endpointKeys.get? other = some keys → pair ∈ keys →
      (∃ old, before.endpointKeys.get? other = some old ∧ pair ∈ old) ∨
        (other = flow.endpointId ∧
          pair = (flow.outboundKey, reflectedKeyFor flow proxyAddress reflectedPort)) := by
    intro other keys pair found member
    rw [effect.endpointKeys] at found
    split at found
    · rename_i same
      cases found
      rcases mem_append.mp member with old | new
      · rw [same]
        exact .inl (mem_ownedKeys.1 old)
      · exact .inr ⟨same, mem_singleton.mp new⟩
    · exact .inl ⟨keys, found, member⟩
  have stillListed : ∀ {other keys pair}, before.endpointKeys.get? other = some keys →
      pair ∈ keys → ∃ new, after.endpointKeys.get? other = some new ∧ pair ∈ new := by
    intro other keys pair owner member
    rw [effect.endpointKeys]
    split
    · rename_i same
      subst same
      refine ⟨_, rfl, mem_append_left _ (mem_ownedKeys.2 ⟨keys, owner, member⟩)⟩
    · exact ⟨keys, owner, member⟩
  have newListed : ∃ new, after.endpointKeys.get? flow.endpointId = some new ∧
      (flow.outboundKey, reflectedKeyFor flow proxyAddress reflectedPort) ∈ new :=
    ⟨_, by rw [effect.endpointKeys, if_pos rfl], by simp⟩
  constructor
  · intro key tracked found
    rw [effect.outbound] at found
    split at found
    · rename_i same
      cases found
      obtain ⟨new, owner, member⟩ := newListed
      exact ⟨new, _, owner, same ▸ member⟩
    · obtain ⟨keys, reflectedKey, owner, member⟩ := indexed.owned found
      obtain ⟨new, newOwner, newMember⟩ := stillListed owner member
      exact ⟨new, reflectedKey, newOwner, newMember⟩
  · intro key rewrite found
    rw [effect.reflected] at found
    split at found
    · rename_i same
      cases found
      obtain ⟨new, owner, member⟩ := newListed
      exact ⟨new, _, owner, same ▸ member⟩
    · obtain ⟨keys, outboundKey, owner, member⟩ := indexed.reflectedOwned found
      obtain ⟨new, newOwner, newMember⟩ := stillListed owner member
      exact ⟨new, outboundKey, newOwner, newMember⟩
  · intro other keys pair found member
    rcases listed found member with ⟨old, owner, oldMember⟩ | ⟨rfl, rfl⟩
    · rw [effect.outbound, if_neg (unlistedOutbound owner oldMember)]
      exact indexed.tracks owner oldMember
    · exact ⟨_, by rw [effect.outbound, if_pos rfl], rfl⟩
  · intro other keys pair found member
    rcases listed found member with ⟨old, owner, oldMember⟩ | ⟨rfl, rfl⟩
    · rw [effect.reflected, if_neg (unlistedReflected owner oldMember)]
      exact indexed.reflects owner oldMember
    · exact ⟨_, by rw [effect.reflected, if_pos rfl], rfl⟩
  · intro other keys found
    rw [effect.endpointKeys] at found
    split at found
    · cases found
      simp
    · exact indexed.nonempty found
  · intro other keys found
    rw [effect.endpointKeys] at found
    split at found
    · cases found
      unfold ownedKeys
      cases owner : before.endpointKeys.get? flow.endpointId with
      | none => simp
      | some old =>
        rw [map_append, nodup_append]
        refine ⟨indexed.distinctOutbound owner, by simp, ?_⟩
        grind
    · exact indexed.distinctOutbound found
  · intro other keys found
    rw [effect.endpointKeys] at found
    split at found
    · cases found
      unfold ownedKeys
      cases owner : before.endpointKeys.get? flow.endpointId with
      | none => simp
      | some old =>
        rw [map_append, nodup_append]
        refine ⟨indexed.distinctReflected owner, by simp, ?_⟩
        grind
    · exact indexed.distinctReflected found
  · intro key tracked found
    rw [effect.outbound] at found
    split at found
    · cases found
      rfl
    · exact indexed.stamped found

/-- Renaming the first pair of a key keeps the reflected keys in place. -/
theorem map_snd_replaceFirstKey (source target : OutboundKey)
    (keys : List (OutboundKey × ReflectedKey)) :
    (replaceFirstKey source target keys).map Prod.snd = keys.map Prod.snd := by
  induction keys with
  | nil => rfl
  | cons =>
    grind [replaceFirstKey]

variable {source target : OutboundKey} {reflectedKey : ReflectedKey}

/-- With distinct outbound keys, renaming moves exactly the found pair. -/
theorem mem_replaceFirstKey (distinct : (keys.map Prod.fst).Nodup)
    (listed : (source, reflectedKey) ∈ keys) (pair : OutboundKey × ReflectedKey) :
    pair ∈ replaceFirstKey source target keys ↔
      pair = (target, reflectedKey) ∨ (pair ∈ keys ∧ pair.1 ≠ source) := by
  induction keys with
  | nil => cases listed
  | cons head rest =>
    obtain ⟨headKey, headReflected⟩ := head
    unfold replaceFirstKey
    by_cases same : headKey = source <;> grind

/-- A renamed list holds nothing but the target and the old pairs. -/
theorem mem_of_mem_replaceFirstKey (member : pair ∈ replaceFirstKey source target keys) :
    pair.1 = target ∨ pair ∈ keys := by
  induction keys with
  | nil => exact .inr member
  | cons _ =>
    unfold replaceFirstKey at member
    split at member
    · rcases mem_cons.mp member with equal | inRest
      · exact .inl (congrArg Prod.fst equal)
      · exact .inr (mem_cons_of_mem _ inRest)
    · rcases mem_cons.mp member with equal | inRest
      · exact .inr (equal ▸ mem_cons_self)
      grind

theorem nodup_replaceFirstKey (distinct : (keys.map Prod.fst).Nodup)
    (unlisted : target ∉ keys.map Prod.fst) :
    ((replaceFirstKey source target keys).map Prod.fst).Nodup := by
  induction keys with
  | nil => simp [replaceFirstKey]
  | cons _ _ ih =>
    simp only [map_cons, nodup_cons, mem_cons, not_or] at distinct unlisted
    unfold replaceFirstKey
    split
    · simp_all
    rw [map_cons, nodup_cons]
    refine ⟨?_, ih distinct.2 unlisted.2⟩
    intro member
    obtain ⟨_, renamed, equal⟩ := List.mem_map.mp member
    rcases mem_of_mem_replaceFirstKey renamed with isTarget | _
    · exact unlisted.1 (isTarget.symm.trans equal)
    grind

/-- A promotion renames one pair of the owner; its reflected key stays. -/
theorem Indexed.of_promotion {key wildcardKey : OutboundKey} {tracked : TrackedTarget}
    (indexed : Indexed before)
    (effect : PromotionEffect before after key wildcardKey tracked keys reflectedKey) :
    Indexed after := by
  have listed : (wildcardKey, reflectedKey) ∈ keys := mem_of_find?_eq_some effect.found
  have distinct := indexed.distinctOutbound effect.owner
  have unlisted : ∀ {other otherKeys pair}, before.endpointKeys.get? other = some otherKeys →
      pair ∈ otherKeys → pair.1 ≠ key := by
    intro other otherKeys pair owner member same
    obtain ⟨found, present, _⟩ := indexed.tracks owner member
    rw [same, effect.absent] at present
    cases present
  have stamp := indexed.stamped effect.present
  -- The pairs of an endpoint afterwards are its old ones, with the wildcard pair renamed.
  have relisted : ∀ {other otherKeys pair}, after.endpointKeys.get? other = some otherKeys →
      pair ∈ otherKeys →
      (other = tracked.endpointId ∧ pair = (key, reflectedKey)) ∨
        (pair.1 ≠ wildcardKey ∧ ∃ old, before.endpointKeys.get? other = some old ∧ pair ∈ old) := by
    intro other otherKeys pair found member
    rw [effect.endpointKeys] at found
    split at found
    · rename_i same
      cases found
      rcases (mem_replaceFirstKey distinct listed pair).mp member with moved | ⟨old, notMoved⟩
      · exact .inl ⟨same, moved⟩
      · exact .inr ⟨notMoved, keys, same ▸ effect.owner, old⟩
    · rename_i different
      refine .inr ⟨fun same => different ?_, otherKeys, found, member⟩
      exact indexed.outbound_owner found effect.owner member listed same
  have stillListed : ∀ {other otherKeys pair}, before.endpointKeys.get? other = some otherKeys →
      pair ∈ otherKeys → pair.1 ≠ wildcardKey →
      ∃ new, after.endpointKeys.get? other = some new ∧ pair ∈ new := by
    intro other otherKeys pair owner member notMoved
    rw [effect.endpointKeys]
    split
    · rename_i same
      rw [same, effect.owner] at owner
      cases owner
      exact ⟨_, rfl, (mem_replaceFirstKey distinct listed pair).mpr (.inr ⟨member, notMoved⟩)⟩
    · exact ⟨otherKeys, owner, member⟩
  have moved : ∃ new, after.endpointKeys.get? tracked.endpointId = some new ∧
      (key, reflectedKey) ∈ new :=
    ⟨_, by rw [effect.endpointKeys, if_pos rfl],
      (mem_replaceFirstKey distinct listed _).mpr (.inl rfl)⟩
  constructor
  · intro other found present
    rw [effect.outbound] at present
    split at present
    · rename_i same
      cases present
      obtain ⟨new, owner, member⟩ := moved
      exact ⟨new, reflectedKey, owner, same ▸ member⟩
    · split at present
      · cases present
      · rename_i notMoved
        obtain ⟨old, otherReflected, owner, member⟩ := indexed.owned present
        obtain ⟨new, newOwner, newMember⟩ := stillListed owner member notMoved
        exact ⟨new, otherReflected, newOwner, newMember⟩
  · intro other _ present
    rw [effect.reflected] at present
    split at present
    · rename_i same
      cases present
      obtain ⟨new, owner, member⟩ := moved
      exact ⟨new, key, stamp ▸ owner, same ▸ member⟩
    · rename_i different
      obtain ⟨old, outboundKey, owner, member⟩ := indexed.reflectedOwned present
      have notMoved : outboundKey ≠ wildcardKey := by
        rintro rfl
        have same := indexed.outbound_owner owner effect.owner member listed rfl
        rw [same, effect.owner] at owner
        cases owner
        exact different (congrArg Prod.snd (inj_on_of_nodup_map distinct member listed rfl))
      obtain ⟨new, newOwner, newMember⟩ := stillListed owner member notMoved
      exact ⟨new, outboundKey, newOwner, newMember⟩
  · intro other otherKeys pair found member
    rcases relisted found member with ⟨rfl, rfl⟩ | ⟨notMoved, old, owner, oldMember⟩
    · simp [effect.outbound]
    · rw [effect.outbound, if_neg (unlisted owner oldMember), if_neg notMoved]
      exact indexed.tracks owner oldMember
  · intro other otherKeys pair found member
    rcases relisted found member with ⟨rfl, rfl⟩ | ⟨notMoved, old, owner, oldMember⟩
    · rw [effect.reflected, if_pos rfl]
      exact ⟨_, rfl, stamp⟩
    have different : pair.2 ≠ reflectedKey := by
      intro same
      have sameOwner := indexed.reflected_owner owner effect.owner oldMember listed same
      rw [sameOwner, effect.owner] at owner
      cases owner
      have distinctReflected := indexed.distinctReflected effect.owner
      exact notMoved (congrArg Prod.fst
        (inj_on_of_nodup_map distinctReflected oldMember listed same))
    rw [effect.reflected, if_neg different]
    exact indexed.reflects owner oldMember
  · intro other otherKeys found
    rw [effect.endpointKeys] at found
    split at found
    · cases found
      exact ne_nil_of_mem ((mem_replaceFirstKey distinct listed _).mpr (.inl rfl))
    · exact indexed.nonempty found
  · intro other otherKeys found
    rw [effect.endpointKeys] at found
    split at found
    · cases found
      refine nodup_replaceFirstKey distinct ?_
      intro member
      obtain ⟨pair, inKeys, same⟩ := List.mem_map.mp member
      exact unlisted effect.owner inKeys same
    · exact indexed.distinctOutbound found
  · intro other otherKeys found
    rw [effect.endpointKeys] at found
    split at found
    · cases found
      rw [map_snd_replaceFirstKey]
      exact indexed.distinctReflected effect.owner
    · exact indexed.distinctReflected found
  · intro other found present
    rw [effect.outbound] at present
    split at present
    · cases present
      exact stamp
    · split at present
      · cases present
      · exact indexed.stamped present

theorem Indexed.of_interface {key : ReflectedKey} {existing : RewriteTarget}
    {originalInterface : NetworkInterface} {scopedOriginal : OriginalTarget}
    (indexed : Indexed before)
    (effect : InterfaceEffect before after key existing originalInterface scopedOriginal) :
    Indexed after := by
  have outboundFrom : ∀ {other tracked}, after.outbound.get? other = some tracked →
      ∃ old, before.outbound.get? other = some old ∧ old.endpointId = tracked.endpointId ∧
        (old.rewrite.endpointId = tracked.rewrite.endpointId) := by
    intro other tracked found
    rw [effect.outbound] at found
    split at found
    · obtain ⟨old, present, rfl⟩ := Option.map_eq_some_iff.mp found
      exact ⟨old, present, rfl, rfl⟩
    · exact ⟨tracked, found, rfl, rfl⟩
  have outboundTo : ∀ {other tracked}, before.outbound.get? other = some tracked →
      ∃ new, after.outbound.get? other = some new ∧ new.endpointId = tracked.endpointId := by
    intro other tracked present
    rw [effect.outbound]
    grind
  constructor
  · intro other tracked found
    obtain ⟨old, present, owner, _⟩ := outboundFrom found
    rw [effect.endpointKeys, ← owner]
    exact indexed.owned present
  · intro other rewrite found
    rw [effect.endpointKeys]
    rw [effect.reflected] at found
    split at found
    · rename_i same
      cases found
      have owner := indexed.reflectedOwned effect.present
      rw [same]
      exact owner
    · exact indexed.reflectedOwned found
  · intro other keys pair found member
    rw [effect.endpointKeys] at found
    obtain ⟨old, present, owner⟩ := indexed.tracks found member
    obtain ⟨new, after, sameOwner⟩ := outboundTo present
    exact ⟨new, after, sameOwner.trans owner⟩
  · intro other keys pair found member
    rw [effect.endpointKeys] at found
    obtain ⟨old, present, owner⟩ := indexed.reflects found member
    rw [effect.reflected]
    split
    · rename_i same
      rw [same, effect.present] at present
      cases present
      exact ⟨_, rfl, owner⟩
    · exact ⟨old, present, owner⟩
  · simpa only [effect.endpointKeys] using @indexed.nonempty
  · simpa only [effect.endpointKeys] using @indexed.distinctOutbound
  · simpa only [effect.endpointKeys] using @indexed.distinctReflected
  · intro other tracked found
    obtain ⟨old, present, owner, stamp⟩ := outboundFrom found
    rw [← owner, ← stamp]
    exact indexed.stamped present

theorem Indexed.free_of_removal (indexed : Indexed state) {key : OutboundKey}
    {previous : TrackedTarget} (present : state.outbound.get? key = some previous)
    (counter : Option Int) (now : Instant) :
    (removeEndpointLocked state previous.endpointId counter now).outbound.get? key = none := by
  obtain ⟨keys, _, owner, member⟩ := indexed.owned present
  rw [(removeEndpointLocked_effect state previous.endpointId counter now).outbound, if_pos]
  exact List.mem_map.mpr ⟨_, mem_ownedKeys.2 ⟨keys, owner, member⟩, rfl⟩

/-- Induction rule for `insertAt`: a fact that implies `Indexed` and survives removals
and the indexing of a free tuple survives `insertAt`. -/
theorem insertAt_preserve {invariant : FlowState → Prop}
    (indexed : ∀ {state}, invariant state → Indexed state)
    (removal : ∀ {state} (endpointId : UInt64) (counter : Option Int) (now : Instant),
      invariant state → invariant (removeEndpointLocked state endpointId counter now))
    {flow : CaptureFlow} {configuredProxyAddress : IpAddr}
    (insertion : ∀ {state} (proxyAddress : IpAddr) (proxyPort : UInt16) (counter : Option Int),
      invariant state → state.outbound.get? flow.outboundKey = none →
      resolveProxyAddress flow.localAddress configuredProxyAddress = some proxyAddress →
      invariant (indexFlow state flow proxyAddress proxyPort counter).2) (holds : invariant state)
    (proxyPort : UInt16) (counter : Option Int) (now : Instant) :
    invariant (insertAt state flow configuredProxyAddress proxyPort counter now).2 := by
  have released : invariant (releaseTcpEndpoint state flow now) := by
    grind [releaseTcpEndpoint]
  rcases insertAt_cases state flow configuredProxyAddress proxyPort counter now with
    ⟨_, refused⟩ | ⟨proxyAddress, _, resolved, rfl, kept | takeover | _⟩
  · rw [refused]
    exact holds
  · obtain ⟨previous, present, _, result⟩ := kept
    rw [result]
    exact released
  · obtain ⟨previous, present, _, result⟩ := takeover
    rw [result]
    exact insertion proxyAddress proxyPort counter (removal _ _ _ released)
      ((indexed released).free_of_removal present _ now) resolved
  · simp_all

theorem Indexed.of_indexFlow (indexed : Indexed state) (flow : CaptureFlow) (proxyAddress : IpAddr)
    (proxyPort : UInt16) (counter : Option Int)
    (free : state.outbound.get? flow.outboundKey = none) :
    Indexed (indexFlow state flow proxyAddress proxyPort counter).2 := by
  rcases indexFlow_effect state flow proxyAddress proxyPort counter with
    ⟨_, same⟩ | ⟨_, _, effect⟩
  · exact indexed.of_sameIndex same
  · exact indexed.of_insertion free effect

theorem bindUdpEndpoint_sameIndex (state : FlowState) (processId : UInt32) (endpointId : UInt64)
    (key : UdpBindingKey) : SameIndex state (bindUdpEndpoint state processId endpointId key) := by
  have same := removeUdpBindingLocked_sameIndex state endpointId
  exact ⟨same.outbound, same.reflected, same.endpointKeys⟩

theorem Indexed.of_edit (edit : FlowEdit before after) (indexed : Indexed before) :
    Indexed after := by
  cases edit with
  | removal endpointId counter now => exact indexed.of_removal (removeEndpointLocked_effect ..)
  | insertion _ _ _ counter now =>
    exact insertAt_preserve id
      (fun _ _ _ holds => holds.of_removal (removeEndpointLocked_effect ..))
      (fun _ _ _ holds free _ => holds.of_indexFlow _ _ _ _ free) indexed _ _ _
  | promotion protocol localAddress localPort remoteAddress remotePort =>
    rcases outboundTransportTarget_effect before protocol localAddress localPort remoteAddress
      remotePort with same | ⟨_, _, _, _, effect⟩
    · exact indexed.of_sameIndex same
    · exact indexed.of_promotion effect
  | binding _ endpointId => exact indexed.of_sameIndex (bindUdpEndpoint_sameIndex ..)
  | unbinding endpointId => exact indexed.of_sameIndex (removeUdpBindingLocked_sameIndex ..)
  | fragments | watermark counter => exact indexed.of_sameIndex ⟨rfl, rfl, rfl⟩

theorem Indexed.of_setTransportReflectedInterface (indexed : Indexed state) (protocol : UInt8)
    (proxyAddress : IpAddr) (reflectedPort : UInt16) (remoteAddress : IpAddr)
    (originalInterface : NetworkInterface) :
    Indexed (setTransportReflectedInterface state protocol proxyAddress reflectedPort remoteAddress
      originalInterface).2 := by
  rcases setTransportReflectedInterface_effect state protocol proxyAddress reflectedPort
    remoteAddress originalInterface with unchanged | ⟨_, _, effect⟩
  · rw [unchanged]
    exact indexed
  · exact indexed.of_interface effect

theorem Indexed.of_step (indexed : Indexed state) (action : FlowAction) :
    Indexed (state.step action) :=
  step_preserve indexed_default Indexed.of_edit indexed action
    fun _ _ _ _ _ _ => indexed.of_setTransportReflectedInterface _ _ _ _ _

/-! ### Binding indices -/

theorem bound_default : Bound FlowState.default := by
  constructor <;> simp [FlowState.default]

theorem Bound.of_sameBindings (bound : Bound before) (same : SameBindings before after) :
    Bound after := by
  obtain ⟨udpBindings, udpBindingKeys⟩ := same
  constructor
  · simpa only [udpBindings, udpBindingKeys] using bound.inverse
  · simpa only [udpBindings] using @bound.nonempty

/-- A binding of an endpoint to a local endpoint, with the process that owns it. -/
def Binds (state : FlowState) (key : UdpBindingKey) (endpointId : UInt64) (processId : UInt32) :
    Prop :=
  ∃ bindings, state.udpBindings.get? key = some bindings ∧ bindings.get? endpointId = some processId

theorem Bound.binds_iff (bound : Bound state) {key : UdpBindingKey} :
    state.udpBindingKeys.get? endpointId = some key ↔ ∃ processId, Binds state key endpointId
      processId := by
  rw [bound.inverse]
  exact ⟨fun ⟨bindings, processId, found⟩ => ⟨processId, bindings, found⟩,
    fun ⟨processId, bindings, found⟩ => ⟨bindings, processId, found⟩⟩

/-- The bindings after an edit are those of the other endpoints. -/
structure UnbindingEffect (before after : FlowState) (endpointId : UInt64) : Prop where
  udpBindingKeys : ∀ other, after.udpBindingKeys.get? other =
    if other = endpointId then none else before.udpBindingKeys.get? other
  binds : ∀ key other processId, Binds after key other processId ↔
    other ≠ endpointId ∧ Binds before key other processId
  nonempty : ∀ {key bindings}, after.udpBindings.get? key = some bindings → bindings.size ≠ 0

theorem removeUdpBindingLocked_effect (bound : Bound state) (endpointId : UInt64) :
    UnbindingEffect state (removeUdpBindingLocked state endpointId) endpointId := by
  unfold removeUdpBindingLocked
  split
  · rename_i absent
    refine ⟨?_, ?_, bound.nonempty⟩
    · simp_all
    · intro key other processId
      refine ⟨fun binds => ⟨?_, binds⟩, And.right⟩
      rintro rfl
      have listed := bound.binds_iff.mpr ⟨processId, binds⟩
      rw [absent] at listed
      cases listed
  · rename_i bindingKey bindingFound
    obtain ⟨_, bindings, stored, _⟩ := bound.binds_iff.mp bindingFound
    rw [stored]
    -- The inner table loses the endpoint; an inner table left empty goes as a whole.
    have inner : ∀ key, (if (bindings.erase endpointId).size = 0 then
          state.udpBindings.erase bindingKey
        else state.udpBindings.insert bindingKey (bindings.erase endpointId)).get? key =
        if key = bindingKey then
          if (bindings.erase endpointId).size = 0 then none else some (bindings.erase endpointId)
        else state.udpBindings.get? key := by
      grind
    have onlyKey : ∀ {key processId}, Binds state key endpointId processId → key = bindingKey := by
      intro key processId binds
      have listed := bound.binds_iff.mpr ⟨processId, binds⟩
      simp_all
    refine ⟨fun other => Table.get?_erase _ _ _, ?_, ?_⟩
    · intro key other processId
      constructor
      · rintro ⟨found, lookup, value⟩
        rw [inner] at lookup
        split at lookup
        · rename_i same
          split at lookup
          · cases lookup
          cases lookup
          rw [Table.get?_erase] at value
          split at value
          · cases value
          · rename_i different
            exact ⟨different, bindings, same ▸ stored, value⟩
        · rename_i notKey
          refine ⟨?_, found, lookup, value⟩
          rintro rfl
          exact notKey (onlyKey ⟨found, lookup, value⟩)
      · rintro ⟨different, found, lookup, value⟩
        by_cases same : key = bindingKey
        · subst same
          rw [stored] at lookup
          cases lookup
          have kept : (bindings.erase endpointId).get? other = some processId := by
            rw [Table.get?_erase, if_neg different, value]
          have notEmpty : (bindings.erase endpointId).size ≠ 0 := by
            intro empty
            rw [size_eq_zero_iff.mp empty] at kept
            cases kept
          refine ⟨bindings.erase endpointId, ?_, kept⟩
          rw [inner, if_pos rfl, if_neg notEmpty]
        · refine ⟨found, ?_, value⟩
          rw [inner, if_neg same, lookup]
    · intro key found lookup
      rw [inner] at lookup
      split at lookup
      · grind
      · exact bound.nonempty lookup

theorem Bound.of_unbinding (bound : Bound before)
    (effect : UnbindingEffect before after endpointId) : Bound after := by
  refine ⟨?_, effect.nonempty⟩
  intro other key
  have listed : (∃ bindings processId, after.udpBindings.get? key = some bindings ∧
      bindings.get? other = some processId) ↔ ∃ processId, Binds after key other processId :=
    ⟨fun ⟨bindings, processId, found⟩ => ⟨processId, bindings, found⟩,
      fun ⟨processId, bindings, found⟩ => ⟨bindings, processId, found⟩⟩
  rw [listed, effect.udpBindingKeys]
  simp only [effect.binds]
  split
  · rename_i same
    simp [same]
  · rename_i different
    rw [bound.binds_iff]
    simp [different]

theorem Bound.of_bindUdpEndpoint (bound : Bound state) (processId : UInt32) (endpointId : UInt64)
    (key : UdpBindingKey) : Bound (bindUdpEndpoint state processId endpointId key) := by
  have effect := removeUdpBindingLocked_effect bound endpointId
  have unbound := bound.of_unbinding effect
  have released : (removeUdpBindingLocked state endpointId).udpBindingKeys.get? endpointId =
      none := by
    rw [effect.udpBindingKeys, if_pos rfl]
  have stored : ∀ other, (bindUdpEndpoint state processId endpointId key).udpBindings.get? other =
      if other = key then
        some ((((removeUdpBindingLocked state endpointId).udpBindings.get? key).getD ∅).insert
          endpointId processId)
      else (removeUdpBindingLocked state endpointId).udpBindings.get? other :=
    fun other => Table.get?_insert _ _ _ _
  have listed : ∀ other,
      (bindUdpEndpoint state processId endpointId key).udpBindingKeys.get? other =
      if other = endpointId then some key
      else (removeUdpBindingLocked state endpointId).udpBindingKeys.get? other :=
    fun other => Table.get?_insert _ _ _ _
  constructor
  · intro other otherKey
    rw [listed]
    split
    · constructor
      · intro _
        simp_all
      · rintro ⟨bindings, found, lookup, value⟩
        rw [stored] at lookup
        split at lookup
        · rename_i sameKey
          rw [sameKey]
        · have listedBefore := (unbound.inverse other otherKey).mpr ⟨bindings, found, lookup, value⟩
          simp_all
    · rename_i different
      rw [unbound.inverse]
      constructor
      · grind
      · rintro ⟨bindings, found, lookup, value⟩
        rw [stored] at lookup
        split at lookup
        · cases lookup
          rw [Table.get?_insert, if_neg different] at value
          cases inner : (removeUdpBindingLocked state endpointId).udpBindings.get? key with
          | none =>
            rw [inner] at value
            simp at value
          | some =>
            simp_all
        · exact ⟨bindings, found, lookup, value⟩
  · intro otherKey bindings lookup
    rw [stored] at lookup
    split at lookup
    · cases lookup
      intro empty
      have none := size_eq_zero_iff.mp empty endpointId
      rw [get?_insert_self] at none
      cases none
    · exact unbound.nonempty lookup

theorem Bound.removeEndpointLocked_effect (bound : Bound state) (endpointId : UInt64)
    (counter : Option Int) (now : Instant) :
    UnbindingEffect state (removeEndpointLocked state endpointId counter now) endpointId := by
  have same := (removeEndpointKeys_effect state endpointId counter now).2
  have effect := removeUdpBindingLocked_effect (bound.of_sameBindings same) endpointId
  refine ⟨fun other => ?_, fun key other processId => ?_, effect.nonempty⟩
  · rw [← same.udpBindingKeys]
    exact effect.udpBindingKeys other
  · rw [Binds, Binds, ← same.udpBindings]
    exact effect.binds key other processId

theorem Bound.of_removeEndpointLocked (bound : Bound state) (endpointId : UInt64)
    (counter : Option Int) (now : Instant) :
    Bound (removeEndpointLocked state endpointId counter now) :=
  bound.of_unbinding (bound.removeEndpointLocked_effect endpointId counter now)

theorem Bound.of_insertAt (bound : Bound state) (flow : CaptureFlow)
    (configuredProxyAddress : IpAddr) (proxyPort : UInt16) (counter : Option Int) (now : Instant) :
    Bound (insertAt state flow configuredProxyAddress proxyPort counter now).2 := by
  have released : Bound (releaseTcpEndpoint state flow now) := by
    unfold releaseTcpEndpoint
    split
    · exact bound.of_removeEndpointLocked _ _ _
    · exact bound
  rcases insertAt_cases state flow configuredProxyAddress proxyPort counter now with
    ⟨_, refused⟩ | ⟨_, _, _, rfl, kept | takeover | free⟩
  · rw [refused]
    exact bound
  · obtain ⟨previous, present, _, result⟩ := kept
    rw [result]
    exact released
  · obtain ⟨previous, present, _, result⟩ := takeover
    rw [result]
    exact (released.of_removeEndpointLocked _ _ _).of_sameBindings (indexFlow_sameBindings ..)
  · obtain ⟨_, result⟩ := free
    rw [result]
    exact released.of_sameBindings (indexFlow_sameBindings ..)

/-- Every edit keeps the binding indices in agreement. -/
theorem Bound.of_edit (edit : FlowEdit before after) (bound : Bound before) : Bound after := by
  cases edit with
  | removal endpointId counter now => exact bound.of_removeEndpointLocked ..
  | insertion _ _ _ counter now => exact bound.of_insertAt ..
  | promotion =>
    exact bound.of_sameBindings (outboundTransportTarget_sameBindings ..)
  | binding _ endpointId => exact bound.of_bindUdpEndpoint ..
  | unbinding endpointId => exact bound.of_unbinding (removeUdpBindingLocked_effect bound _)
  | fragments | watermark counter => exact bound.of_sameBindings ⟨rfl, rfl⟩

/-! ### Agreement -/

/-- All key pairs of all endpoints. -/
def keyPairs (state : FlowState) : List (OutboundKey × ReflectedKey) :=
  state.endpointKeys.values.flatten

/-- The three flow indices and the two binding indices describe the same flows and
bindings. -/
structure IndexAgreement (state : FlowState) : Prop where
  /-- The outbound keys are exactly the first components of all pairs, each once. -/
  outboundKeys : state.outbound.keys.Perm ((keyPairs state).map Prod.fst)
  /-- The reflected keys are exactly the second components of all pairs, each once. -/
  reflectedKeys : state.reflected.keys.Perm ((keyPairs state).map Prod.snd)
  /-- Both entries of a pair name the endpoint that lists it. -/
  owner : ∀ {endpointId keys outboundKey reflectedKey},
    state.endpointKeys.get? endpointId = some keys → (outboundKey, reflectedKey) ∈ keys →
    (∃ tracked, state.outbound.get? outboundKey = some tracked ∧ tracked.endpointId = endpointId) ∧
    (∃ rewrite, state.reflected.get? reflectedKey = some rewrite ∧ rewrite.endpointId = endpointId)
  /-- No endpoint is listed without a pair. -/
  nonempty : ∀ {endpointId keys}, state.endpointKeys.get? endpointId = some keys → keys ≠ []
  /-- The binding indices are inverse to each other. -/
  bindings : ∀ endpointId key, state.udpBindingKeys.get? endpointId = some key ↔
    ∃ inner processId, state.udpBindings.get? key = some inner ∧
      inner.get? endpointId = some processId
  /-- No inner binding table is empty. -/
  innerBindings : ∀ {key inner}, state.udpBindings.get? key = some inner → inner.size ≠ 0

theorem mem_keyPairs :
    pair ∈ keyPairs state ↔
      ∃ endpointId keys, state.endpointKeys.get? endpointId = some keys ∧ pair ∈ keys := by
  simp only [keyPairs, mem_flatten, mem_values]
  grind

/-- No outbound key is listed twice, within an endpoint or across endpoints. -/
theorem Indexed.nodup_outboundKeys (indexed : Indexed state) :
    ((keyPairs state).map Prod.fst).Nodup := by
  have drawn : (keyPairs state).map Prod.fst =
      state.endpointKeys.values.flatMap fun keys => keys.map Prod.fst := by
    rw [keyPairs, map_flatten, flatMap_def]
  rw [drawn]
  refine nodup_flatMap_values _ _ (fun found => indexed.distinctOutbound found) ?_
  intro _ _ keys _ _ owner otherOwner member otherMember
  obtain ⟨_, inKeys, rfl⟩ := List.mem_map.mp member
  obtain ⟨_, inOther, same⟩ := List.mem_map.mp otherMember
  exact indexed.outbound_owner owner otherOwner inKeys inOther same.symm

/-- No reflected key is listed twice, within an endpoint or across endpoints. -/
theorem Indexed.nodup_reflectedKeys (indexed : Indexed state) :
    ((keyPairs state).map Prod.snd).Nodup := by
  have drawn : (keyPairs state).map Prod.snd =
      state.endpointKeys.values.flatMap fun keys => keys.map Prod.snd := by
    rw [keyPairs, map_flatten, flatMap_def]
  rw [drawn]
  refine nodup_flatMap_values _ _ (fun found => indexed.distinctReflected found) ?_
  intro _ _ keys _ _ owner otherOwner member otherMember
  obtain ⟨_, inKeys, rfl⟩ := List.mem_map.mp member
  obtain ⟨_, inOther, same⟩ := List.mem_map.mp otherMember
  exact indexed.reflected_owner owner otherOwner inKeys inOther same.symm

/-- The lookup invariants give the agreement of the indices. -/
theorem indexAgreement_of_indexed (indexed : Indexed state) (bound : Bound state) :
    IndexAgreement state where
  outboundKeys := by
    rw [perm_ext_iff_of_nodup state.outbound.keys_nodup indexed.nodup_outboundKeys]
    intro key
    rw [Table.mem_keys, List.mem_map]
    constructor
    · rintro ⟨tracked, found⟩
      obtain ⟨keys, reflectedKey, owner, member⟩ := indexed.owned found
      exact ⟨(key, reflectedKey), mem_keyPairs.2 ⟨_, keys, owner, member⟩, rfl⟩
    · rintro ⟨pair, member, rfl⟩
      obtain ⟨endpointId, keys, owner, inKeys⟩ := mem_keyPairs.1 member
      obtain ⟨tracked, found, _⟩ := indexed.tracks owner inKeys
      exact ⟨tracked, found⟩
  reflectedKeys := by
    rw [perm_ext_iff_of_nodup state.reflected.keys_nodup indexed.nodup_reflectedKeys]
    intro key
    rw [Table.mem_keys, List.mem_map]
    constructor
    · rintro ⟨rewrite, found⟩
      obtain ⟨keys, outboundKey, owner, member⟩ := indexed.reflectedOwned found
      exact ⟨(outboundKey, key), mem_keyPairs.2 ⟨_, keys, owner, member⟩, rfl⟩
    · rintro ⟨pair, member, rfl⟩
      obtain ⟨endpointId, keys, owner, inKeys⟩ := mem_keyPairs.1 member
      obtain ⟨rewrite, found, _⟩ := indexed.reflects owner inKeys
      exact ⟨rewrite, found⟩
  owner := fun owner member => ⟨indexed.tracks owner member, indexed.reflects owner member⟩
  nonempty := indexed.nonempty
  bindings := bound.inverse
  innerBindings := bound.nonempty

variable (actions : List FlowAction)

theorem indexed_run : Indexed (flowMachine.run actions) :=
  Machine.invariant_run indexed_default (fun _ action indexed => indexed.of_step action) actions

theorem Bound.of_step (bound : Bound state) (action : FlowAction) : Bound (state.step action) :=
  step_preserve bound_default Bound.of_edit bound action
    fun _ _ _ _ _ _ => bound.of_sameBindings (setTransportReflectedInterface_sameBindings ..)

theorem bound_run : Bound (flowMachine.run actions) :=
  Machine.invariant_run bound_default (fun _ action bound => bound.of_step action) actions

/-- The indices agree in every state a run of calls reaches. -/
theorem indexAgreement_run (actions : List FlowAction) : IndexAgreement (flowMachine.run actions) :=
  indexAgreement_of_indexed (indexed_run actions) (bound_run actions)

/-! ### Dropping the processes that are not selected -/

/-- What is left when only the selected processes are retained: the flows of the endpoints that
have no flow of another process, and the bindings of selected processes. -/
structure Retains (before after : FlowState) (selected : List UInt32) : Prop where
  outbound : ∀ key tracked, after.outbound.get? key = some tracked ↔
    before.outbound.get? key = some tracked ∧
      tracked.endpointId ∉ unselectedFlowEndpoints before selected
  selectedFlows : ∀ key tracked, after.outbound.get? key = some tracked →
    tracked.rewrite.original.processId ∈ selected
  binds : ∀ key endpointId processId, Binds after key endpointId processId ↔
    processId ∈ selected ∧ endpointId ∉ unselectedFlowEndpoints before selected ∧
      Binds before key endpointId processId

theorem Indexed.outbound_removal (indexed : Indexed before)
    (effect : RemovalEffect before after endpointId) {key : OutboundKey}
    {tracked : TrackedTarget} : after.outbound.get? key = some tracked ↔
      before.outbound.get? key = some tracked ∧ tracked.endpointId ≠ endpointId := by
  rw [effect.outbound]
  split
  · rename_i owned
    obtain ⟨pair, member, rfl⟩ := List.mem_map.mp owned
    obtain ⟨keys, owner, listed⟩ := mem_ownedKeys.1 member
    obtain ⟨other, found, same⟩ := indexed.tracks owner listed
    grind
  · rename_i notOwned
    refine ⟨fun found => ⟨found, ?_⟩, And.left⟩
    rintro rfl
    obtain ⟨keys, reflectedKey, owner, member⟩ := indexed.owned found
    exact notOwned (List.mem_map.mpr ⟨_, mem_ownedKeys.2 ⟨keys, owner, member⟩, rfl⟩)

theorem Indexed.outbound_removeEndpoints (indexed : Indexed state) (removed : List UInt64)
    (now : Instant) (key : OutboundKey) (tracked : TrackedTarget) :
    (removed.foldl (fun state endpointId => removeEndpointLocked state endpointId none now)
      state).outbound.get? key = some tracked ↔
        state.outbound.get? key = some tracked ∧ tracked.endpointId ∉ removed := by
  induction removed generalizing state with
  | nil => simp
  | cons endpointId removed ih =>
    have effect := removeEndpointLocked_effect state endpointId none now
    rw [foldl_cons, ih (indexed.of_removal effect), indexed.outbound_removal effect, mem_cons,
      not_or, and_assoc]

theorem outbound_foldl_removeUdpBindingLocked (removed : List UInt64) (state : FlowState) :
    (removed.foldl removeUdpBindingLocked state).outbound = state.outbound := by
  induction removed generalizing state with
  | nil => rfl
  | cons _ _ ih => exact (ih _).trans (removeUdpBindingLocked_sameIndex ..).outbound

theorem Indexed.outbound_retainProcessIds (indexed : Indexed state) {selected : List UInt32}
    {now : Instant} (key : OutboundKey) (tracked : TrackedTarget) :
    (retainProcessIds state selected now).outbound.get? key = some tracked ↔
      state.outbound.get? key = some tracked ∧
        tracked.endpointId ∉ unselectedFlowEndpoints state selected := by
  rw [retainProcessIds, outbound_foldl_removeUdpBindingLocked, indexed.outbound_removeEndpoints]

theorem Bound.binds_foldl {operation : FlowState → UInt64 → FlowState} (bound : Bound state)
    (unbinds : ∀ state, Bound state → ∀ endpointId,
      UnbindingEffect state (operation state endpointId) endpointId) (removed : List UInt64) :
    Bound (removed.foldl operation state) ∧ ∀ key endpointId processId,
      Binds (removed.foldl operation state) key endpointId processId ↔
        endpointId ∉ removed ∧ Binds state key endpointId processId := by
  induction removed generalizing state with
  | nil => simpa using bound
  | cons endpointId removed ih =>
    have effect := unbinds state bound endpointId
    obtain ⟨boundAfter, binds⟩ := ih (bound.of_unbinding effect)
    refine ⟨boundAfter, fun key other processId => ?_⟩
    rw [foldl_cons, binds, effect.binds, mem_cons, not_or, and_left_comm, and_assoc]

/-- An endpoint with a binding loses it if the process is not selected. -/
theorem Bound.mem_unselectedBindingEndpoints (bound : Bound state) {key : UdpBindingKey}
    {processId : UInt32} (binds : Binds state key endpointId processId) (selected : List UInt32) :
    endpointId ∈ unselectedBindingEndpoints state selected ↔ processId ∉ selected := by
  have listed := bound.binds_iff.mpr ⟨_, binds⟩
  obtain ⟨bindings, stored, found⟩ := binds
  simp only [unselectedBindingEndpoints, mem_map, mem_filter, mem_flatMap, mem_values, Prod.exists,
    mem_toList]
  constructor
  · rintro ⟨_, other, ⟨⟨_, ⟨otherKey, otherStored⟩, otherFound⟩, unselected⟩, rfl⟩
    have same := listed.symm.trans (bound.binds_iff.mpr ⟨_, _, otherStored, otherFound⟩)
    simp_all
  · intro unselected
    exact ⟨_, processId, ⟨⟨bindings, ⟨key, stored⟩, found⟩, by simpa using unselected⟩, rfl⟩

theorem retainProcessIds_retains (indexed : Indexed state) (bound : Bound state)
    (selected : List UInt32) (now : Instant) :
    Retains state (retainProcessIds state selected now) selected := by
  obtain ⟨middle, unbound⟩ := bound.binds_foldl
    (fun _ bound endpointId => bound.removeEndpointLocked_effect endpointId none now)
    (unselectedFlowEndpoints state selected)
  refine ⟨indexed.outbound_retainProcessIds, fun key tracked found => ?_,
    fun key endpointId processId => ?_⟩
  · obtain ⟨stored, kept⟩ := (indexed.outbound_retainProcessIds key tracked).mp found
    by_contra unselected
    refine kept (List.mem_map.mpr ⟨tracked, mem_filter.mpr ⟨?_, ?_⟩, rfl⟩)
    · exact mem_values.mpr ⟨key, stored⟩
    · simpa using unselected
  · rw [retainProcessIds,
      (middle.binds_foldl (fun _ bound => removeUdpBindingLocked_effect bound) _).2, ← unbound]
    constructor
    · rintro ⟨kept, binds⟩
      exact ⟨not_not.mp (mt (middle.mem_unselectedBindingEndpoints binds selected).mpr kept), binds⟩
    · rintro ⟨isSelected, binds⟩
      exact ⟨fun member => (middle.mem_unselectedBindingEndpoints binds selected).mp member
        isSelected, binds⟩

/-- What is left in every reachable table. -/
theorem retains_run (actions : List FlowAction) (selected : List UInt32) (now : Instant) :
    Retains (flowMachine.run actions)
      (retainProcessIds (flowMachine.run actions) selected now) selected :=
  retainProcessIds_retains (indexed_run actions) (bound_run actions) selected now

end SprakCapture.ProcessCapture
