import SprakCapture.ProcessCapture.UdpFragment

/-!
# Accounting of the fragment assembler

The totals of the assembler gate what it admits, so they have to equal what it
holds. `Accounted` states that they do, up to a slack in the number of packets;
every push and every expiry keeps the slack, and no subtraction goes below zero.
Only `drainPendingObservations` changes the slack, because it hands packets out
without returning their budget. `accounts_run` says exactly which runs have none.
-/

namespace SprakCapture.ProcessCapture

open Data List Option Data.OrderedTable Data.Outcome Data.Table UdpFragmentAssembler Table FragmentGroup Outcome

variable {Observation : Type}

/-- The pieces of a group are non-empty and do not overlap. -/
structure FragmentGroup.WellFormed (group : FragmentGroup Observation) : Prop where
  nonempty : ∀ piece ∈ group.pieces.entries, piece.2 ≠ []
  apart : ∀ left ∈ group.pieces.entries, ∀ right ∈ group.pieces.entries, left.1 < right.1 →
    left.1 + left.2.length ≤ right.1

namespace UdpFragmentAssembler

/-- The packets held in groups. -/
def heldObservations (assembler : UdpFragmentAssembler Observation) : Nat :=
  assembler.groups.total fun group => group.observations.length

/-- The totals are those of the groups, except that `slack` packets more are counted. -/
structure Accounted (slack : Nat) (assembler : UdpFragmentAssembler Observation) : Prop where
  bytes : assembler.bufferedBytes = assembler.groups.total FragmentGroup.pieceBytes
  observations : assembler.bufferedObservations = assembler.heldObservations + slack
  observationBytes :
    assembler.bufferedObservationBytes = assembler.groups.total FragmentGroup.observationBytes
  limited : assembler.groups.size ≤ maximumFragmentGroups
  wellFormed : ∀ {key group}, assembler.groups.get? key = some group → group.WellFormed

theorem accounted_empty (fragmentLifetimeOverride : Option Duration) :
    (empty fragmentLifetimeOverride : UdpFragmentAssembler Observation).Accounted 0 := by
  constructor
  · rfl
  · rfl
  · rfl
  · exact Nat.zero_le _
  · nofun

/-! ### Removing groups -/

/-- The assembler without one group and its budgets. -/
def without (assembler : UdpFragmentAssembler Observation) (key : UdpFragmentKey) :
    UdpFragmentAssembler Observation :=
  match assembler.groups.get? key with
  | none => assembler
  | some group =>
    { assembler with
      groups := assembler.groups.erase key
      bufferedBytes := assembler.bufferedBytes - group.pieceBytes
      bufferedObservations := assembler.bufferedObservations - group.observations.length
      bufferedObservationBytes := assembler.bufferedObservationBytes - group.observationBytes }

variable (assembler : UdpFragmentAssembler Observation) (key : UdpFragmentKey)

@[simp] theorem groups_without : (assembler.without key).groups = assembler.groups.erase key := by
  unfold without
  split
  · rename_i absent
    exact (erase_of_get?_eq_none absent).symm
  · rfl

@[simp] theorem fragmentLifetimeOverride_without :
    (assembler.without key).fragmentLifetimeOverride = assembler.fragmentLifetimeOverride := by
  unfold without
  split <;> rfl

@[simp] theorem faultObservations_without :
    (assembler.without key).faultObservations = assembler.faultObservations := by
  unfold without
  split <;> rfl

section

variable {slack : Nat} {assembler : UdpFragmentAssembler Observation} {key : UdpFragmentKey}
  {group : FragmentGroup Observation}

/-- A group that is held can be released: no total is below its share. -/
theorem Accounted.releaseGroup_eq (accounted : assembler.Accounted slack)
    (found : assembler.groups.get? key = some group) :
    assembler.releaseGroup key group = .ok (assembler.without key) := by
  have bytes := accounted.bytes
  have observations := accounted.observations
  have observationBytes := accounted.observationBytes
  rw [total_eq_of_get? _ found] at bytes observationBytes
  rw [heldObservations, total_eq_of_get? _ found] at observations
  unfold releaseGroup without
  rw [found, checkedSub_of_le (by omega), checkedSub_of_le (by omega), checkedSub_of_le (by omega)]
  rfl

theorem Accounted.removeGroup_eq (accounted : assembler.Accounted slack) (key : UdpFragmentKey) :
    assembler.removeGroup key = .ok (assembler.without key) := by
  unfold removeGroup
  split
  · rename_i absent
    unfold without
    rw [absent]
    rfl
  · rename_i group found
    exact accounted.releaseGroup_eq found

theorem Accounted.without (accounted : assembler.Accounted slack) (key : UdpFragmentKey) :
    (assembler.without key).Accounted slack := by
  unfold UdpFragmentAssembler.without
  split
  · exact accounted
  rename_i group found
  have bytes := accounted.bytes
  have observations := accounted.observations
  have observationBytes := accounted.observationBytes
  rw [total_eq_of_get? _ found] at bytes observationBytes
  rw [heldObservations, total_eq_of_get? _ found] at observations
  constructor
  · dsimp only
    omega
  · dsimp only [heldObservations]
    omega
  · dsimp only
    omega
  · exact (size_erase_le _ _).trans accounted.limited
  intro _ _ present
  rw [Table.get?_erase] at present
  split at present
  · cases present
  · exact accounted.wellFormed present

end

/-! ### Evictions -/

/-- An ignored group gave way. -/
def EvictsOne (excludedKey : Option UdpFragmentKey)
    (before after : UdpFragmentAssembler Observation) : Prop :=
  ∃ key group, before.groups.get? key = some group ∧ group.isIgnored = true ∧
    some key ≠ excludedKey ∧ after = before.without key

/-- Any number of ignored groups gave way. -/
abbrev Evicts (excludedKey : Option UdpFragmentKey) :
    UdpFragmentAssembler Observation → UdpFragmentAssembler Observation → Prop :=
  Relation.ReflTransGen (EvictsOne excludedKey)

section

variable {slack : Nat} {before after : UdpFragmentAssembler Observation}
  {excludedKey : Option UdpFragmentKey} {key : UdpFragmentKey} {group : FragmentGroup Observation}

section

variable (evicts : Evicts excludedKey before after)
include evicts

theorem Evicts.accounted (accounted : before.Accounted slack) : after.Accounted slack := by
  induction evicts with
  | refl => exact accounted
  | tail _ step ih =>
    obtain ⟨key, _, _, _, _, rfl⟩ := step
    exact ih.without key

omit evicts in
/-- The excluded group stays as it is, present or absent. -/
theorem Evicts.get?_excluded (evicts : Evicts (some key) before after) :
    after.groups.get? key = before.groups.get? key := by
  induction evicts with
  | refl => rfl
  | tail _ step =>
    obtain ⟨_, _, _, _, _, rfl⟩ := step
    grind [groups_without]

theorem Evicts.get?_required (found : before.groups.get? key = some group)
    (required : group.isIgnored = false) : after.groups.get? key = some group := by
  induction evicts with
  | refl => exact found
  | tail _ step =>
    obtain ⟨_, _, _, _, _, rfl⟩ := step
    grind [groups_without]

theorem Evicts.get?_of_after (found : after.groups.get? key = some group) :
    before.groups.get? key = some group := by
  induction evicts with
  | refl => exact found
  | tail _ step =>
    obtain ⟨_, _, _, _, _, rfl⟩ := step
    rw [groups_without, Table.get?_erase] at found
    simp_all

theorem Evicts.size_le : after.groups.size ≤ before.groups.size := by
  induction evicts with
  | refl => exact le_refl _
  | tail _ step ih =>
    obtain ⟨_, _, _, _, _, rfl⟩ := step
    rw [groups_without]
    exact (size_erase_le _ _).trans ih

theorem Evicts.fragmentLifetimeOverride :
    after.fragmentLifetimeOverride = before.fragmentLifetimeOverride := by
  induction evicts with
  | refl => rfl
  | tail _ step ih =>
    obtain ⟨_, _, _, _, _, rfl⟩ := step
    rw [fragmentLifetimeOverride_without, ih]

end

end

variable {excludedKey : Option UdpFragmentKey}

section

variable {slack : Nat} {assembler : UdpFragmentAssembler Observation}

theorem Accounted.foldlM_removeGroup (accounted : assembler.Accounted slack)
    (keys : List UdpFragmentKey) :
    keys.foldlM removeGroup assembler =
      (.ok (keys.foldl UdpFragmentAssembler.without assembler) :
        Outcome Empty (UdpFragmentAssembler Observation)) := by
  induction keys generalizing assembler with
  | nil => rfl
  | cons key keys ih =>
    rw [foldlM_cons, accounted.removeGroup_eq]
    exact ih (accounted.without key)

theorem get?_foldl_without (assembler : UdpFragmentAssembler Observation)
    (keys : List UdpFragmentKey) (key : UdpFragmentKey) :
    (keys.foldl without assembler).groups.get? key =
      if key ∈ keys then none else assembler.groups.get? key := by
  induction keys generalizing assembler with
  | nil => simp
  | cons _ keys =>
    grind [groups_without]

theorem evicts_foldl_without (assembler : UdpFragmentAssembler Observation)
    (keys : List UdpFragmentKey)
    (ignored : ∀ key ∈ keys, ∀ group, assembler.groups.get? key = some group →
      group.isIgnored = true) :
    Evicts none assembler (keys.foldl without assembler) := by
  induction keys generalizing assembler with
  | nil => exact .refl
  | cons first keys ih =>
    rw [foldl_cons]
    have rest := ih (assembler.without first) fun key member group found => by
      rw [groups_without, Table.get?_erase] at found
      split at found
      · cases found
      · exact ignored key (mem_cons_of_mem _ member) group found
    cases found : assembler.groups.get? first with
    | none =>
      have same : assembler.without first = assembler := by
        unfold without
        rw [found]
      rw [same] at rest ⊢
      exact rest
    | some group =>
      refine .head ⟨first, group, found, ignored first mem_cons_self group found, ?_, rfl⟩ rest
      simp

theorem mem_expiredKeys {now : Instant} {key : UdpFragmentKey} :
    key ∈ assembler.expiredKeys now ↔
      ∃ group, assembler.groups.get? key = some group ∧ group.expiresAt ≤ now := by
  unfold expiredKeys
  simp only [List.mem_map, mem_filter, decide_eq_true_eq]
  constructor
  · rintro ⟨⟨_, group⟩, ⟨member, late⟩, rfl⟩
    exact ⟨group, mem_toList.mp member, late⟩
  · rintro ⟨group, found, late⟩
    exact ⟨(key, group), ⟨Table.mem_toList.mpr found, late⟩, rfl⟩

/-- Some group that is not ignored has expired. -/
def ExpiredRequired (assembler : UdpFragmentAssembler Observation) (now : Instant) : Prop :=
  ∃ key group, assembler.groups.get? key = some group ∧ group.expiresAt ≤ now ∧
    group.isIgnored = false

theorem expiredRequired_iff {now : Instant} :
    (assembler.groups.values.any fun group => decide (group.expiresAt ≤ now) && !group.isIgnored) =
      true ↔ assembler.ExpiredRequired now := by
  simp only [List.any_eq_true, mem_values, Bool.and_eq_true, decide_eq_true_eq, Bool.not_eq_true']
  constructor
  · rintro ⟨group, ⟨key, found⟩, expired, required⟩
    exact ⟨key, group, found, expired, required⟩
  · rintro ⟨key, group, found, expired, required⟩
    exact ⟨group, ⟨key, found⟩, expired, required⟩

instance (now : Instant) : Decidable (assembler.ExpiredRequired now) :=
  decidable_of_iff _ expiredRequired_iff

section

variable (accounted : assembler.Accounted slack)
include accounted

/-- What `pruneExpired` does: it reports an expired group that is required, or drops
exactly the expired groups, all of which are ignored. -/
theorem Accounted.pruneExpired_cases (now : Instant) :
    (assembler.ExpiredRequired now ∧
        assembler.pruneExpired now = .ok (.error .incompleteOnExpiry, assembler)) ∨
      (¬assembler.ExpiredRequired now ∧
        ∃ after, assembler.pruneExpired now = .ok (.ok (), after) ∧ Evicts none assembler after ∧
          ∀ key, after.groups.get? key =
            (assembler.groups.get? key).filter fun group => decide (now < group.expiresAt)) := by
  unfold pruneExpired
  split
  · rename_i required
    exact .inl ⟨expiredRequired_iff.mp required, rfl⟩
  rename_i notRequired
  have none := mt expiredRequired_iff.mpr notRequired
  have expired := fun key => @mem_expiredKeys _ assembler now key
  refine .inr ⟨none, (assembler.expiredKeys now).foldl UdpFragmentAssembler.without assembler,
    ?_, evicts_foldl_without assembler _ ?_, ?_⟩
  · rw [accounted.foldlM_removeGroup]
    rfl
  · intro key member group found
    obtain ⟨_, otherFound, late⟩ := (expired key).mp member
    rw [found] at otherFound
    cases otherFound
    by_contra required
    exact none ⟨key, group, found, late, by simpa using required⟩
  · intro key
    rw [get?_foldl_without]
    split
    · rename_i member
      obtain ⟨group, found, late⟩ := (expired key).mp member
      simp [found, filter_some, late]
    cases found : assembler.groups.get? key with
    | none => rfl
    | some group =>
      have fresh : now < group.expiresAt := by
        simp_all
      simp [filter_some, fresh]

/-- What `evictIgnoredGroup` does: it drops one ignored group, if there is one. -/
theorem Accounted.evictIgnoredGroup_cases (excludedKey : Option UdpFragmentKey) :
    assembler.evictIgnoredGroup excludedKey = .ok (false, assembler) ∨
      ∃ after, assembler.evictIgnoredGroup excludedKey = .ok (true, after) ∧
        EvictsOne excludedKey assembler after := by
  unfold evictIgnoredGroup
  dsimp only
  split
  · exact .inl rfl
  rename_i entry chosen
  have member := argmin_mem chosen
  rw [mem_filter, Bool.and_eq_true, decide_eq_true_eq] at member
  obtain ⟨listed, different, ignored⟩ := member
  refine .inr ⟨assembler.without entry.1, ?_, entry.1, entry.2, mem_toList.mp listed,
    ignored, different, rfl⟩
  rw [accounted.removeGroup_eq]
  rfl

omit accounted in
theorem EvictsOne.size_lt {before after : UdpFragmentAssembler Observation}
    (step : EvictsOne excludedKey before after) :
    after.groups.size < before.groups.size := by
  obtain ⟨_, _, found, _, _, rfl⟩ := step
  rw [groups_without]
  exact size_erase_lt found

theorem Accounted.reserveGroup_spec (key : UdpFragmentKey) :
    ∃ granted after, assembler.reserveGroup key = .ok (granted, after) ∧
      Evicts none assembler after ∧ after.groups.get? key = assembler.groups.get? key ∧
      (granted = true → after.groups.contains key = true ∨
        after.groups.size < maximumFragmentGroups) ∧
      (assembler.groups.contains key = true ∨ assembler.groups.size < maximumFragmentGroups →
        granted = true ∧ after = assembler) := by
  unfold reserveGroup
  split
  · rename_i full
    have absent : assembler.groups.get? key = none := by simpa using full.1
    have noRoom : ¬(assembler.groups.contains key = true ∨
        assembler.groups.size < maximumFragmentGroups) := by
      simp_all
    rcases accounted.evictIgnoredGroup_cases none with _ | ⟨after, granted, step⟩
    · grind
    refine ⟨true, after, granted, .single step, ?_, ?_, fun room => absurd room noRoom⟩
    · cases found : after.groups.get? key with
      | none => rw [absent]
      | some =>
        have kept := Evicts.get?_of_after (.single step) found
        rw [absent] at kept
        cases kept
    · intro _
      exact .inr (step.size_lt.trans_le accounted.limited)
  · rename_i room
    refine ⟨true, assembler, rfl, .refl, rfl, fun _ => ?_, fun _ => ⟨rfl, rfl⟩⟩
    rw [not_and_or] at room
    rcases room with _ | _
    · grind
    · exact .inr (by omega)

theorem Accounted.reserveWhile_spec (exceeded : UdpFragmentAssembler Observation → Bool)
    (key : UdpFragmentKey) :
    ∃ granted after, reserveWhile exceeded key assembler = .ok (granted, after) ∧
      Evicts (some key) assembler after ∧ (granted = true → exceeded after = false) ∧
      (exceeded assembler = false → granted = true ∧ after = assembler) := by
  -- Each turn that goes on has dropped a group, so the number of groups bounds the turns.
  have safe : (reserveWhile exceeded key assembler).Safe := by
    refine @safe_loop _ _ _ _ _
      (fun assembler => assembler.groups.size) ?_ ?_ _ _ accounted (Nat.lt_succ_self _)
    · intro current holds
      refine safe_ite (fun _ => ?_) fun _ => safe_pure _
      rcases holds.evictIgnoredGroup_cases (some key) with refused | ⟨after, granted, _⟩
      · rw [refused]
        exact safe_pure _
      · rw [granted]
        exact safe_pure _
    · intro current next holds step
      split at step
      · rcases holds.evictIgnoredGroup_cases (some key) with refused | ⟨after, granted, evicted⟩
        · rw [refused] at step
          cases step
        · rw [granted] at step
          cases step
          exact ⟨Evicts.accounted (.single evicted) holds, evicted.size_lt⟩
      · cases step
  obtain ⟨⟨granted, after⟩, result⟩ := safe.exists_ok
  refine ⟨granted, after, result, ?_⟩
  have loops := loopsTo_of_loop result
  clear result safe
  generalize answer : (granted, after) = found at loops
  induction loops with
  | @done current value result =>
    subst answer
    split at result
    · rename_i exceeds
      rcases accounted.evictIgnoredGroup_cases (some key) with refused | ⟨next, evicted, _⟩
      · rw [refused] at result
        cases result
        exact ⟨.refl, by simp, by simp [exceeds]⟩
      · rw [evicted] at result
        cases result
    · rename_i within
      cases result
      exact ⟨.refl, by simpa using within, by simp⟩
  | @next current next value result _ ih =>
    split at result
    · rename_i exceeds
      rcases accounted.evictIgnoredGroup_cases (some key) with refused | ⟨_, evicted, step⟩
      · rw [refused] at result
        cases result
      · rw [evicted] at result
        cases result
        have rest := ih (Evicts.accounted (.single step) accounted) answer
        exact ⟨.head step rest.1, rest.2.1, by simp [exceeds]⟩
    · cases result

end

end

/-! ### Storing a part -/

theorem validateNoConflictingOverlap_eq_ok {offset : Nat} {bytes : Bytes}
    {pieces : List (Nat × Bytes)}
    (valid : validateNoConflictingOverlap offset bytes pieces = .ok ()) :
    (offset, bytes) ∈ pieces ∨ ∀ piece ∈ pieces,
      piece.1 + piece.2.length ≤ offset ∨ offset + bytes.length ≤ piece.1 := by
  induction pieces with
  | nil => exact .inr (by simp)
  | cons piece _ ih =>
    obtain ⟨_, _⟩ := piece
    unfold validateNoConflictingOverlap at valid
    split at valid
    · simp_all
    rcases ih valid with repeated | others
    · exact .inl (mem_cons_of_mem _ repeated)
    refine .inr ?_
    intro piece member
    rcases mem_cons.mp member with rfl | inRest
    · dsimp only
      omega
    · exact others piece inRest

section

variable {slack : Nat} {assembler : UdpFragmentAssembler Observation} {part : UdpFragmentPart}
  {group : FragmentGroup Observation}

/-- The bytes a part adds to a group. -/
def addedBytes (group : FragmentGroup Observation) (part : UdpFragmentPart) : Nat :=
  if group.pieces.get? part.payloadOffset = some part.fragmentPayload then 0
  else part.fragmentPayload.length

theorem newBytes_eq (assembler : UdpFragmentAssembler Observation) (part : UdpFragmentPart)
    (now : Instant) :
    assembler.newBytes part = addedBytes (assembler.groupFor part.key now) part := by
  unfold newBytes addedBytes groupFor
  cases assembler.groups.get? part.key with
  | none | some => rfl

/-- A part that adds bytes and has no conflict keeps clear of all pieces. -/
theorem clear_of_valid (wellFormed : group.WellFormed)
    (valid : validateNoConflictingOverlap part.payloadOffset part.fragmentPayload
      group.pieces.entries = .ok ()) (adds : addedBytes group part ≠ 0) :
    (∀ piece ∈ group.pieces.entries, piece.1 + piece.2.length ≤ part.payloadOffset ∨
        part.payloadOffset + part.fragmentPayload.length ≤ piece.1) ∧
      part.fragmentPayload ≠ [] ∧ addedBytes group part = part.fragmentPayload.length ∧
      group.pieces.get? part.payloadOffset = none := by
  unfold addedBytes at adds ⊢
  split at adds
  · exact absurd rfl adds
  rename_i fresh
  have nonempty : part.fragmentPayload ≠ [] := fun empty => adds (by rw [empty]; rfl)
  have clear := (validateNoConflictingOverlap_eq_ok valid).resolve_left fun member =>
    fresh (get?_eq_some.mpr member)
  refine ⟨clear, nonempty, if_neg fresh, get?_eq_none.mpr ?_⟩
  intro piece member _
  have positive := length_pos_iff.mpr (wellFormed.nonempty piece member)
  rcases clear piece member with _ | _ <;> omega

variable {disposition : Option UdpFragmentDisposition} {observation : Observation}
  {observationBytes : Nat}

theorem wellFormed_storePart (wellFormed : group.WellFormed)
    (valid : validateNoConflictingOverlap part.payloadOffset part.fragmentPayload
      group.pieces.entries = .ok ()) :
    (storePart group part disposition observation observationBytes
      (addedBytes group part)).WellFormed := by
  by_cases adds : addedBytes group part = 0
  · have same : (storePart group part disposition observation observationBytes
        (addedBytes group part)).pieces = group.pieces := by
      simp [storePart, adds]
    exact ⟨by rw [same]; exact wellFormed.nonempty, by rw [same]; exact wellFormed.apart⟩
  · obtain ⟨clear, nonempty, _, _⟩ := clear_of_valid wellFormed valid adds
    have inserted : (storePart group part disposition observation observationBytes
        (addedBytes group part)).pieces =
          group.pieces.insert part.payloadOffset part.fragmentPayload := by
      simp [storePart, adds]
    constructor
    · intro piece member
      rw [inserted, mem_insert] at member
      rcases member with rfl | ⟨old, _⟩
      · exact nonempty
      · exact wellFormed.nonempty piece old
    · intro left leftMember right rightMember less
      rw [inserted, mem_insert] at leftMember rightMember
      rcases leftMember with rfl | ⟨leftOld, _⟩
      · rcases rightMember with rfl | ⟨rightOld, _⟩
        · exact absurd less (lt_irrefl _)
        · rcases clear right rightOld with before | after <;> omega
      · rcases rightMember with rfl | ⟨rightOld, _⟩
        · rcases clear left leftOld with before | after <;> omega
        · exact wellFormed.apart left leftOld right rightOld less

theorem pieceBytes_storePart (wellFormed : group.WellFormed)
    (valid : validateNoConflictingOverlap part.payloadOffset part.fragmentPayload
      group.pieces.entries = .ok ()) :
    (storePart group part disposition observation observationBytes
      (addedBytes group part)).pieceBytes = group.pieceBytes + addedBytes group part := by
  by_cases adds : addedBytes group part = 0
  · simp [storePart, pieceBytes, adds]
  · obtain ⟨_, _, _, fresh⟩ := clear_of_valid wellFormed valid adds
    simp only [storePart, pieceBytes, ne_eq, adds, not_false_eq_true, if_true]
    rw [OrderedTable.total_insert fresh]
    omega

theorem wellFormed_new (expiresAt : Instant) :
    (new expiresAt : FragmentGroup Observation).WellFormed := by
  constructor <;> simp [new]

theorem Accounted.wellFormed_groupFor (accounted : assembler.Accounted slack)
    (key : UdpFragmentKey) (now : Instant) : (assembler.groupFor key now).WellFormed := by
  unfold groupFor
  cases found : assembler.groups.get? key with
  | none => exact wellFormed_new _
  | some => exact accounted.wellFormed found

/-- The share of the group of a key in a total. -/
theorem total_eq_groupFor (assembler : UdpFragmentAssembler Observation) (key : UdpFragmentKey)
    (now : Instant) {weight : FragmentGroup Observation → Nat}
    (fresh : ∀ expiresAt, weight (.new expiresAt) = 0) :
    assembler.groups.total weight =
      weight (assembler.groupFor key now) + (assembler.groups.erase key).total weight := by
  unfold groupFor
  cases found : assembler.groups.get? key with
  | none => rw [getD_none, fresh, Nat.zero_add, erase_of_get?_eq_none found]
  | some => rw [getD_some, ← total_eq_of_get? _ found]

/-- There is room for the group of a key. -/
def HasRoom (assembler : UdpFragmentAssembler Observation) (key : UdpFragmentKey) : Prop :=
  assembler.groups.contains key = true ∨ assembler.groups.size < maximumFragmentGroups

instance (key : UdpFragmentKey) : Decidable (assembler.HasRoom key) :=
  inferInstanceAs (Decidable (_ ∨ _))

theorem Accounted.size_insert_le (accounted : assembler.Accounted slack) {key : UdpFragmentKey}
    (room : assembler.HasRoom key) (group : FragmentGroup Observation) :
    (assembler.groups.insert key group).size ≤ maximumFragmentGroups := by
  rw [size_insert]
  have limited := accounted.limited
  rcases room with held | _
  · rw [if_pos held]
    exact limited
  · split <;> omega

/-- A stored part is counted in every total. -/
theorem Accounted.withStored (accounted : assembler.Accounted slack)
    (room : assembler.HasRoom part.key) (now : Instant)
    (valid : validateNoConflictingOverlap part.payloadOffset part.fragmentPayload
      (assembler.groupFor part.key now).pieces.entries = .ok ()) :
    (assembler.withStored part.key
      (storePart (assembler.groupFor part.key now) part disposition observation observationBytes
        (addedBytes (assembler.groupFor part.key now) part))
      observationBytes (addedBytes (assembler.groupFor part.key now) part)).Accounted slack := by
  have wellFormed := accounted.wellFormed_groupFor part.key now
  have bytes := accounted.bytes
  have observations := accounted.observations
  have observationTotal := accounted.observationBytes
  rw [total_eq_groupFor assembler part.key now fun _ => rfl] at bytes observationTotal
  rw [heldObservations, total_eq_groupFor assembler part.key now fun _ => rfl] at observations
  constructor
  · rw [UdpFragmentAssembler.withStored]
    dsimp only
    rw [Table.total_insert, pieceBytes_storePart wellFormed valid]
    omega
  · rw [UdpFragmentAssembler.withStored, heldObservations, Table.total_insert]
    grind [storePart]
  · rw [UdpFragmentAssembler.withStored, Table.total_insert]
    simp only [storePart]
    omega
  · exact accounted.size_insert_le room _
  intro key _ found
  rw [UdpFragmentAssembler.withStored, Table.get?_insert] at found
  split at found
  · cases found
    exact wellFormed_storePart wellFormed valid
  · exact accounted.wellFormed found

end

/-! ### Completing a group -/

section

variable {group : FragmentGroup Observation}

/-- A group with a disposition yields a datagram or an error, and always its packets. -/
theorem assembleGroup_cases (disposed : group.disposition.isSome = true) :
    (∃ reassembled, assembleGroup group = .ok reassembled ∧
        reassembled.observations = group.observations) ∨
      ∃ error, assembleGroup group = .error (.raised (error, group.observations)) := by
  obtain ⟨disposition, found⟩ := isSome_iff_exists.mp disposed
  unfold assembleGroup
  rw [found, expect_some, ok_bind]
  cases disposition with
  | ignored => exact .inl ⟨_, rfl, rfl⟩
  | selected =>
    cases group.udpHeaderOffset with
    | none => exact .inr ⟨_, rfl⟩
    | some udpOffset =>
      dsimp only
      unfold raiseIf
      split
      · exact .inr ⟨_, rfl⟩
      rw [ok_bind]
      obtain ⟨udpLength, lengthRead⟩ : ∃ udpLength,
          (u16At group.pieces.values.flatten (udpOffset + 4) :
            Outcome (UdpFragmentError × List Observation) UInt16) = .ok udpLength := by
        refine ⟨_, u16At_eq_ok.mpr ⟨_, _, getElem?_eq_getElem ?_,
          getElem?_eq_getElem ?_, rfl⟩⟩ <;> omega
      rw [lengthRead, ok_bind]
      split
      · exact .inr ⟨_, rfl⟩
      · rw [slice_eq_ok.mpr ⟨by omega, by omega, rfl⟩]
        exact .inl ⟨_, rfl, rfl⟩

theorem disposition_of_isComplete (complete : isComplete group = true) :
    group.disposition.isSome = true := by
  grind [isComplete]

end

/-- What a call for one key leaves of the rest: the totals agree, and groups of other keys
that may be required are as they were. -/
structure KeepsOthers (slack : Nat) (key : UdpFragmentKey)
    (before after : UdpFragmentAssembler Observation) : Prop where
  accounted : after.Accounted slack
  required : ∀ {other group}, other ≠ key → before.groups.get? other = some group →
    group.isIgnored = false → after.groups.get? other = some group
  absent : ∀ {other}, other ≠ key → before.groups.get? other = none → after.groups.get? other = none
  lifetime : after.fragmentLifetimeOverride = before.fragmentLifetimeOverride

section

variable {slack : Nat} {key : UdpFragmentKey} {before middle after : UdpFragmentAssembler Observation}

theorem KeepsOthers.refl (accounted : before.Accounted slack) :
    KeepsOthers slack key before before :=
  ⟨accounted, fun _ found _ => found, fun _ gone => gone, rfl⟩

theorem KeepsOthers.trans (first : KeepsOthers slack key before middle)
    (second : KeepsOthers slack key middle after) : KeepsOthers slack key before after := by
  refine ⟨second.accounted, ?_, ?_, second.lifetime.trans first.lifetime⟩
  · intro other _ different found required
    exact second.required different (first.required different found required) required
  · intro other different gone
    exact second.absent different (first.absent different gone)

theorem Evicts.keepsOthers (evicts : Evicts excludedKey before after)
    (accounted : before.Accounted slack) :
    KeepsOthers slack key before after := by
  refine ⟨evicts.accounted accounted, fun _ => evicts.get?_required, ?_,
    evicts.fragmentLifetimeOverride⟩
  intro other _ gone
  cases found : after.groups.get? other with
  | none => rfl
  | some =>
    have kept := evicts.get?_of_after found
    rw [gone] at kept
    cases kept

/-- Changing only the group of a key keeps the others. -/
theorem KeepsOthers.of_groups (accounted : after.Accounted slack)
    (same : ∀ other, other ≠ key → after.groups.get? other = before.groups.get? other)
    (lifetime : after.fragmentLifetimeOverride = before.fragmentLifetimeOverride) :
    KeepsOthers slack key before after := by
  refine ⟨accounted, ?_, ?_, lifetime⟩
  · simp_all
  simp_all

theorem Accounted.keepsOthers_without (accounted : before.Accounted slack) :
    KeepsOthers slack key before (before.without key) := by
  refine .of_groups (accounted.without key) ?_ (fragmentLifetimeOverride_without _ _)
  grind [groups_without]

theorem Accounted.withFaults (accounted : before.Accounted slack)
    (faultObservations : List Observation) :
    ({ before with faultObservations } : UdpFragmentAssembler Observation).Accounted slack :=
  ⟨accounted.bytes, accounted.observations, accounted.observationBytes, accounted.limited,
    accounted.wellFormed⟩

end

section

variable {slack : Nat} {assembler : UdpFragmentAssembler Observation} {part : UdpFragmentPart}
  {disposition : Option UdpFragmentDisposition} {observation : Observation}
  {observationBytes : Nat} {now : Instant}

/-- The group of a part after the part is stored. -/
def storedGroup (assembler : UdpFragmentAssembler Observation) (part : UdpFragmentPart)
    (disposition : Option UdpFragmentDisposition) (observation : Observation)
    (observationBytes : Nat) (now : Instant) : FragmentGroup Observation :=
  storePart (assembler.groupFor part.key now) part disposition observation observationBytes
    (assembler.newBytes part)

/-- The assembler after a part is stored. -/
def stored (assembler : UdpFragmentAssembler Observation) (part : UdpFragmentPart)
    (disposition : Option UdpFragmentDisposition) (observation : Observation)
    (observationBytes : Nat) (now : Instant) : UdpFragmentAssembler Observation :=
  assembler.withStored part.key
    (assembler.storedGroup part disposition observation observationBytes now) observationBytes
    (assembler.newBytes part)

theorem conflict_eq_ok (assembler : UdpFragmentAssembler Observation) (part : UdpFragmentPart)
    (now : Instant) :
    assembler.conflict part = .ok () ↔
      validateNoConflictingOverlap part.payloadOffset part.fragmentPayload
          (assembler.groupFor part.key now).pieces.entries = .ok () ∧
        (part.moreFragments = false → ∀ length,
          (assembler.groupFor part.key now).finalLength = some length →
            length = part.payloadOffset + part.fragmentPayload.length) := by
  unfold conflict groupFor
  cases assembler.groups.get? part.key with
  | none => simp [new, validateNoConflictingOverlap]
  | some group =>
    rw [getD_some]
    dsimp only
    cases validateNoConflictingOverlap part.payloadOffset part.fragmentPayload
        group.pieces.entries with
    | error error => simp [bind, Except.bind]
    | ok =>
      cases group.finalLength with
      | none | some length => simp [bind, Except.bind, pure, Except.pure]

section

variable (accounted : assembler.Accounted slack)
include accounted

/-- What storing a part without a conflict does: a misplaced disposition is an error, an
incomplete group stays, and a complete one leaves as a datagram or as a fault. -/
theorem Accounted.storeObservation_cases (room : assembler.HasRoom part.key)
    (agrees : assembler.conflict part = .ok ()) :
    (assembler.stored part disposition observation observationBytes now).Accounted slack ∧
    ((disposition.isSome = true ∧ part.payloadOffset ≠ 0 ∧
        assembler.storeObservation part disposition observation observationBytes
            (assembler.newBytes part) now =
          .ok ⟨.error .dispositionOnLaterFragment,
            { assembler with
              groups := assembler.groups.insert part.key (assembler.groupFor part.key now) }⟩) ∨
      (¬(disposition.isSome = true ∧ part.payloadOffset ≠ 0) ∧
        isComplete (assembler.storedGroup part disposition observation observationBytes now) =
          false ∧
        assembler.storeObservation part disposition observation observationBytes
            (assembler.newBytes part) now =
          .ok ⟨.ok none, assembler.stored part disposition observation observationBytes now⟩) ∨
      (¬(disposition.isSome = true ∧ part.payloadOffset ≠ 0) ∧
        isComplete (assembler.storedGroup part disposition observation observationBytes now) =
          true ∧
        ((∃ reassembled,
            assembleGroup (assembler.storedGroup part disposition observation observationBytes
              now) = .ok reassembled ∧
            assembler.storeObservation part disposition observation observationBytes
                (assembler.newBytes part) now =
              .ok ⟨.ok (some reassembled),
                (assembler.stored part disposition observation observationBytes now).without
                  part.key⟩) ∨
          ∃ error,
            assembleGroup (assembler.storedGroup part disposition observation observationBytes
              now) = .error (.raised (error,
                (assembler.storedGroup part disposition observation observationBytes
                  now).observations)) ∧
            assembler.storeObservation part disposition observation observationBytes
                (assembler.newBytes part) now =
              .ok ⟨.error error,
                { (assembler.stored part disposition observation observationBytes now).without
                    part.key with
                  faultObservations := assembler.faultObservations ++
                    (assembler.storedGroup part disposition observation observationBytes
                      now).observations }⟩))) := by
  have valid := ((conflict_eq_ok assembler part now).mp agrees).1
  have storedAccounted :
      (assembler.stored part disposition observation observationBytes now).Accounted slack := by
    unfold stored storedGroup
    rw [newBytes_eq assembler part now]
    exact accounted.withStored room now valid
  refine ⟨storedAccounted, ?_⟩
  unfold storeObservation
  dsimp only
  split
  · rename_i misplaced
    exact .inl ⟨misplaced.1, misplaced.2, rfl⟩
  rename_i placed
  change _ ∨ (_ ∧ isComplete (assembler.storedGroup part disposition observation observationBytes
    now) = false ∧ (if (!isComplete (assembler.storedGroup part disposition observation
      observationBytes now)) = true then _ else _) = _) ∨ _
  cases complete : isComplete (assembler.storedGroup part disposition observation
      observationBytes now) with
  | false =>
    refine .inr (.inl ⟨placed, rfl, ?_⟩)
    rfl
  | true =>
    have found : (assembler.stored part disposition observation observationBytes
        now).groups.get? part.key =
          some (assembler.storedGroup part disposition observation observationBytes now) :=
      get?_insert_self _ _ _
    have released := storedAccounted.releaseGroup_eq found
    refine .inr (.inr ⟨placed, rfl, ?_⟩)
    unfold stored at released
    unfold storedGroup at released complete ⊢
    rw [complete]
    rw [released, ok_bind]
    rcases assembleGroup_cases (disposition_of_isComplete complete) with
      ⟨reassembled, assembled, _⟩ | ⟨error, failed⟩
    · refine .inl ⟨reassembled, assembled, ?_⟩
      rw [assembled]
      rfl
    · refine .inr ⟨error, failed, ?_⟩
      rw [failed]
      rw [faultObservations_without]
      rfl

omit accounted in
theorem get?_stored {other : UdpFragmentKey} (different : other ≠ part.key) :
    (assembler.stored part disposition observation observationBytes now).groups.get? other =
      assembler.groups.get? other := by
  grind [UdpFragmentAssembler.stored, UdpFragmentAssembler.withStored]

section

variable (room : assembler.HasRoom part.key)
include room

theorem Accounted.keepsOthers_stored (agrees : assembler.conflict part = .ok ()) :
    KeepsOthers slack part.key assembler
      (assembler.stored part disposition observation observationBytes now) :=
  .of_groups (accounted.storeObservation_cases room agrees).1 (fun _ => get?_stored) rfl

/-- An empty group may stay behind; it has no share in the totals. -/
theorem Accounted.keepsOthers_groupFor :
    KeepsOthers slack part.key assembler
      { assembler with
        groups := assembler.groups.insert part.key (assembler.groupFor part.key now) } := by
  have share := fun (weight : FragmentGroup Observation → Nat)
    (fresh : ∀ expiresAt, weight (.new expiresAt) = 0) =>
      (total_insert assembler.groups part.key (assembler.groupFor part.key now) weight).trans
        (total_eq_groupFor assembler part.key now fresh).symm
  refine .of_groups ⟨?_, ?_, ?_, ?_, ?_⟩ ?_ rfl
  · exact accounted.bytes.trans (share _ fun _ => rfl).symm
  · refine accounted.observations.trans ?_
    unfold heldObservations
    rw [share _ fun _ => rfl]
  · exact accounted.observationBytes.trans (share _ fun _ => rfl).symm
  · exact accounted.size_insert_le room _
  · intro key _ found
    rw [Table.get?_insert] at found
    split at found
    · cases found
      exact accounted.wellFormed_groupFor part.key now
    · exact accounted.wellFormed found
  grind

theorem Accounted.storeObservation_spec (agrees : assembler.conflict part = .ok ()) :
    ∃ pushed, assembler.storeObservation part disposition observation observationBytes
        (assembler.newBytes part) now = .ok pushed ∧
      KeepsOthers slack part.key assembler pushed.assembler := by
  have stored := @Accounted.keepsOthers_stored _ _ _ _ disposition observation
    observationBytes now accounted room agrees
  have released := stored.trans stored.accounted.keepsOthers_without
  rcases (accounted.storeObservation_cases room agrees).2 with
    ⟨_, _, result⟩ | ⟨_, _, result⟩ | ⟨_, _, ⟨_, _, result⟩ | ⟨_, _, result⟩⟩
  · exact ⟨_, result, accounted.keepsOthers_groupFor room⟩
  · exact ⟨_, result, stored⟩
  · exact ⟨_, result, released⟩
  · exact ⟨_, result, released.accounted.withFaults _, released.required, released.absent,
      released.lifetime⟩

end

/-- Every push ends without a fault, keeps the totals in agreement and leaves the required
groups of other keys alone. -/
theorem Accounted.push_spec (part : UdpFragmentPart) (disposition : Option UdpFragmentDisposition)
    (observation : Observation) (observationBytes : Nat) (now : Instant) :
    ∃ pushed, assembler.pushWithObservation part disposition observation observationBytes now =
        .ok pushed ∧ KeepsOthers slack part.key assembler pushed.assembler := by
  unfold pushWithObservation
  rcases accounted.pruneExpired_cases now with ⟨_, failed⟩ | ⟨_, pruned, result, evicts, _⟩
  · rw [failed]
    exact ⟨_, rfl, .refl accounted⟩
  rw [result]
  have prunedKeeps : KeepsOthers slack part.key assembler pruned := evicts.keepsOthers accounted
  obtain ⟨granted, reserved, reservation, reservedEvicts, _, roomy, _⟩ :=
    prunedKeeps.accounted.reserveGroup_spec part.key
  have reservedKeeps := prunedKeeps.trans (reservedEvicts.keepsOthers prunedKeeps.accounted)
  simp only [ok_bind, reservation]
  cases granted with
  | false => exact ⟨_, rfl, reservedKeeps⟩
  | true =>
    obtain ⟨byteGranted, _, byteResult, byteEvicts, _, _⟩ :=
      reservedKeeps.accounted.reserveWhile_spec (exceedsBytes (reserved.newBytes part)) part.key
    have byteKeeps := reservedKeeps.trans (byteEvicts.keepsOthers reservedKeeps.accounted)
    simp only [byteResult]
    cases byteGranted with
    | false => exact ⟨_, rfl, byteKeeps⟩
    | true =>
      obtain ⟨lastGranted, admitted, lastResult, lastEvicts, _, _⟩ :=
        byteKeeps.accounted.reserveWhile_spec (exceedsObservations observationBytes) part.key
      have keeps := byteKeeps.trans (lastEvicts.keepsOthers byteKeeps.accounted)
      have sameGroup : admitted.groups.get? part.key = reserved.groups.get? part.key :=
        lastEvicts.get?_excluded.trans byteEvicts.get?_excluded
      have room : admitted.HasRoom part.key := by
        refine (roomy rfl).imp ?_ fun small => ?_
        · intro held
          rw [Table.contains, sameGroup]
          exact held
        · exact (lastEvicts.size_le.trans byteEvicts.size_le).trans_lt small
      have sameBytes : reserved.newBytes part = admitted.newBytes part := by
        unfold newBytes
        rw [sameGroup]
      simp only [lastResult, ok_bind]
      cases lastGranted with
      | false => exact ⟨_, rfl, keeps⟩
      | true =>
        simp only [Bool.not_true, Bool.false_eq_true, if_false]
        cases agrees : admitted.conflict part with
        | error error =>
          dsimp only
          split
          · exact ⟨_, rfl, keeps⟩
          · rw [keeps.accounted.removeGroup_eq]
            exact ⟨_, rfl, keeps.trans keeps.accounted.keepsOthers_without⟩
        | ok =>
          rw [sameBytes]
          obtain ⟨pushed, stored, storedKeeps⟩ :=
            keeps.accounted.storeObservation_spec room agrees
          exact ⟨pushed, stored, keeps.trans storedKeeps⟩

end

end

/-! ### Runs -/

/-- A call of the assembler's interface. -/
inductive Action (Observation : Type) where
  | push (part : UdpFragmentPart) (disposition : Option UdpFragmentDisposition)
      (observation : Observation) (observationBytes : Nat) (now : Instant)
  | pollExpired (now : Instant)
  | drainPendingObservations

/-- The assembler after a call, unless the call fails an arithmetic check. -/
def next (assembler : UdpFragmentAssembler Observation) :
    Action Observation → Outcome Empty (UdpFragmentAssembler Observation)
  | .push part disposition observation observationBytes now => do
      let pushed ←
        assembler.pushWithObservation part disposition observation observationBytes now
      pure pushed.assembler
  | .pollExpired now => do
      let (_, assembler) ← UdpFragmentAssembler.pollExpired assembler now
      pure assembler
  | .drainPendingObservations => pure (UdpFragmentAssembler.drainPendingObservations assembler).2

/-- The assembler as a machine over its calls; a failed check stops it for good. -/
def machine (Observation : Type) (fragmentLifetimeOverride : Option Duration) :
    Machine (Outcome Empty (UdpFragmentAssembler Observation)) (Action Observation) where
  initial := .ok (empty fragmentLifetimeOverride)
  step outcome action := outcome >>= fun assembler => assembler.next action

/-- The accounting that the assembler is meant to keep: no check has failed, and the totals
are those of the groups. -/
def Accounts (outcome : Outcome Empty (UdpFragmentAssembler Observation)) : Prop :=
  ∃ assembler, outcome = .ok assembler ∧ assembler.Accounted 0

/-- Pending packets are drained only when no group holds any. -/
def DrainsIdle (outcome : Outcome Empty (UdpFragmentAssembler Observation)) :
    Action Observation → Prop
  | .drainPendingObservations => ∀ assembler, outcome = .ok assembler →
      assembler.heldObservations = 0
  | _ => True

theorem heldObservations_drained (assembler : UdpFragmentAssembler Observation) :
    assembler.drainPendingObservations.2.heldObservations = 0 := by
  unfold heldObservations drainPendingObservations
  rw [total_mapValues]
  simp [Table.total]

variable {assembler : UdpFragmentAssembler Observation}

/-- Draining turns every packet that was held into slack. -/
theorem Accounted.drained {slack : Nat} (accounted : assembler.Accounted slack) :
    assembler.drainPendingObservations.2.Accounted (assembler.heldObservations + slack) := by
  constructor
  · rw [drainPendingObservations, total_mapValues]
    exact accounted.bytes
  · rw [heldObservations_drained, Nat.zero_add]
    exact accounted.observations
  · rw [drainPendingObservations, total_mapValues]
    exact accounted.observationBytes
  · rw [drainPendingObservations, size_mapValues]
    exact accounted.limited
  intro _ _ found
  rw [drainPendingObservations, get?_mapValues, map_eq_some_iff] at found
  obtain ⟨_, beforeFound, rfl⟩ := found
  have wellFormed := accounted.wellFormed beforeFound
  exact ⟨wellFormed.nonempty, wellFormed.apart⟩

/-- A call never fails a check, and only draining changes the slack. -/
theorem Accounted.next_spec {slack : Nat} (accounted : assembler.Accounted slack)
    (action : Action Observation) :
    ∃ after, assembler.next action = .ok after ∧
      after.Accounted (match action with
        | .drainPendingObservations => assembler.heldObservations + slack
        | _ => slack) := by
  cases action with
  | push part disposition observation observationBytes now =>
    obtain ⟨pushed, result, keeps⟩ :=
      accounted.push_spec part disposition observation observationBytes now
    refine ⟨pushed.assembler, ?_, keeps.accounted⟩
    unfold next
    dsimp only
    rw [result]
    rfl
  | pollExpired now =>
    unfold next pollExpired
    dsimp only
    rcases accounted.pruneExpired_cases now with ⟨_, _⟩ | ⟨_, pruned, result, evicts, _⟩
    · simp_all
    · rw [result]
      exact ⟨pruned, rfl, evicts.accounted accounted⟩
  | drainPendingObservations => exact ⟨_, rfl, accounted.drained⟩

theorem slack_unique {first second : Nat} (left : assembler.Accounted first)
    (right : assembler.Accounted second) : first = second := by
  have leftTotal := left.observations
  have rightTotal := right.observations
  omega

/-- In every run, no check fails and the totals of bytes, the limit on groups and the shape
of the pieces hold; the number of packets is never counted too low. -/
theorem exists_accounted_run (fragmentLifetimeOverride : Option Duration)
    (actions : List (Action Observation)) :
    ∃ slack assembler,
      (machine Observation fragmentLifetimeOverride).run actions = .ok assembler ∧
        assembler.Accounted slack := by
  refine @Machine.invariant_run _ _ (machine Observation fragmentLifetimeOverride)
    (fun outcome => ∃ slack assembler, outcome = .ok assembler ∧ assembler.Accounted slack)
    ?_ ?_ _
  · exact ⟨0, _, rfl, accounted_empty _⟩
  · rintro _ action ⟨slack, assembler, rfl, accounted⟩
    obtain ⟨after, result, afterAccounted⟩ := accounted.next_spec action
    exact ⟨_, after, result, afterAccounted⟩

/-- Throughout a run the totals are those of the groups exactly when pending packets are
drained only while no group holds any. -/
theorem accounts_run (fragmentLifetimeOverride : Option Duration)
    (actions : List (Action Observation)) :
    (∀ first, first <+: actions →
        Accounts ((machine Observation fragmentLifetimeOverride).run first)) ↔
      (machine Observation fragmentLifetimeOverride).Guarded DrainsIdle
        (.ok (empty fragmentLifetimeOverride)) actions := by
  refine @Machine.forall_prefix_iff_guarded _ _ _
    _ (fun _ => True) _ (fun _ _ _ => trivial) ?_ _ trivial
    ⟨_, rfl, accounted_empty _⟩ _
  rintro _ action - ⟨assembler, rfl, accounted⟩
  obtain ⟨after, result, afterAccounted⟩ := accounted.next_spec action
  have stepped : (machine Observation fragmentLifetimeOverride).step (.ok assembler) action =
      .ok after := result
  rw [stepped]
  cases action with
  | push _ _ _ _ now | pollExpired now => exact iff_of_true ⟨after, rfl, afterAccounted⟩ trivial
  | drainPendingObservations =>
    constructor
    · rintro ⟨_, equal, balanced⟩ _ same
      cases equal
      cases same
      have slack := slack_unique afterAccounted balanced
      omega
    · intro idle
      have empty := idle assembler rfl
      rw [empty] at afterAccounted
      exact ⟨after, rfl, afterAccounted⟩

/-- A later fragment arrives and is drained as pending. -/
def drainedFragment : List (Action Unit) :=
  [ .push
      { key :=
          { sourceAddress := IpAddr.ipv4 192 0 2 10
            destinationAddress := IpAddr.ipv4 198 51 100 20
            identification := 7
            outbound := true }
        payloadOffset := 8
        moreFragments := true
        fragmentPayload := [1, 2, 3, 4, 5, 6, 7, 8]
        packetBytes := 28
        sourcePort := none
        destinationPort := none
        udpHeaderOffset := none
        packetPayloadOffset := 20 }
      none () 28 0,
    .drainPendingObservations ]

/-- The packet is gone from the groups but still counted. -/
theorem not_accounts_drainedFragment : ¬Accounts ((machine Unit none).run drainedFragment) := by
  rintro ⟨assembler, result, accounted⟩
  have counted : ((machine Unit none).run drainedFragment).map
      (fun assembler => (assembler.bufferedObservations, assembler.heldObservations)) =
        .ok (1, 0) := by
    decide
  rw [result] at counted
  have totals : (assembler.bufferedObservations, assembler.heldObservations) = (1, 0) :=
    Except.ok.inj counted
  have agreed := accounted.observations
  grind

end UdpFragmentAssembler

end SprakCapture.ProcessCapture
