import Mathlib.Data.List.Dedup
import SprakCapture.Data.Machine
import SprakCapture.Data.Outcome
import SprakCapture.Data.Table

/-!
# Leases of media previews

A response that streams a preview holds a share of the budget: one response, a handle for each
of its entities, and the bytes of those entities that no other response pins. The share is
reserved as a whole and given back when the response goes. The books of the budget agree with
the leases that are alive, so that nothing is lost and no release fails.
-/

namespace SprakCapture.Control

open Data List Option Data.Table
open Table (get?_insert total_insert get?_erase)

/-! ### The budget -/

def maximumActivePreviewResponses : Nat := 16

def maximumPinnedPreviewBytes : Nat := 1024 * 1024 * 1024

def maximumActivePreviewHandles : Nat := 64

structure PinnedPreviewEntity where
  bytes : Nat
  references : Nat
deriving DecidableEq

structure MediaPreviewLeaseUsage where
  activeResponses : Nat
  activeHandles : Nat
  pinnedBytes : Nat
  entities : Table String PinnedPreviewEntity

/-- The share of one response. -/
structure MediaPreviewLeaseReservation where
  entityIds : List String
  handleCount : Nat

/-- `usize::checked_add`. -/
def checkedAdd (first second : Nat) : Option Nat :=
  if first + second < 2 ^ 64 then some (first + second) else none

/-- `usize::checked_sub`. -/
def checkedSub (first second : Nat) : Option Nat :=
  if second ≤ first then some (first - second) else none

/-- `Option::expect`, which fails with its message. -/
def expect {Value : Type} (value : Option Value) (message : String) : Except String Value :=
  value.elim (.error message) .ok

/-- The entities of a response, each with the first length that it is named with. -/
def uniqueEntities (entities : List (String × Nat)) : Table String Nat :=
  entities.foldl (fun unique entity =>
    if unique.contains entity.1 then unique else unique.insert entity.1 entity.2) ∅

namespace MediaPreviewLeaseUsage

def empty : MediaPreviewLeaseUsage where
  activeResponses := 0
  activeHandles := 0
  pinnedBytes := 0
  entities := ∅

/-- The bytes that entities add to those that are pinned already. -/
def additionalBytes (usage : MediaPreviewLeaseUsage) (entities : List (String × Nat)) :
    Option Nat :=
  (entities.filter fun entity => !usage.entities.contains entity.1).foldlM
    (fun total entity => checkedAdd total entity.2) 0

/-- One more reference to an entity. -/
def pin (entities : Table String PinnedPreviewEntity) (entity : String × Nat) :
    Table String PinnedPreviewEntity :=
  match entities.get? entity.1 with
  | some pinned => entities.insert entity.1 { pinned with references := pinned.references + 1 }
  | none => entities.insert entity.1 { bytes := entity.2, references := 1 }

/-- Reserve the share of a response, or nothing of it. -/
def reserve (usage : MediaPreviewLeaseUsage) (entities : List (String × Nat)) :
    Option (MediaPreviewLeaseUsage × MediaPreviewLeaseReservation) := do
  let unique := (uniqueEntities entities).toList
  let handleCount := unique.length
  let additional ← usage.additionalBytes unique
  if maximumActivePreviewResponses ≤ usage.activeResponses ∨
      (checkedAdd usage.activeHandles handleCount).all (maximumActivePreviewHandles < ·) ∨
      (checkedAdd usage.pinnedBytes additional).all (maximumPinnedPreviewBytes < ·) then
    none
  else
    some
      ({ activeResponses := usage.activeResponses + 1
         activeHandles := usage.activeHandles + handleCount
         pinnedBytes := usage.pinnedBytes + additional
         entities := unique.foldl pin usage.entities },
        { entityIds := unique.map Prod.fst, handleCount })

/-- One reference less; the last one gives the bytes back. -/
def releaseEntity (usage : MediaPreviewLeaseUsage) (identifier : String) :
    Except String MediaPreviewLeaseUsage := do
  let entity ← expect (usage.entities.get? identifier) "mediaPreviewEntityAccountingMismatch"
  let references ← expect (checkedSub entity.references 1)
    "mediaPreviewEntityReferenceAccountingMismatch"
  let entities := usage.entities.insert identifier { entity with references }
  if references = 0 then
    let entity ← expect (entities.get? identifier) "mediaPreviewEntityRemovalAccountingMismatch"
    let pinnedBytes ← expect (checkedSub usage.pinnedBytes entity.bytes)
      "mediaPreviewPinnedByteAccountingMismatch"
    .ok { usage with entities := entities.erase identifier, pinnedBytes }
  else .ok { usage with entities }

/-- `drop`: give the share of a response back. -/
def release (usage : MediaPreviewLeaseUsage) (reservation : MediaPreviewLeaseReservation) :
    Except String MediaPreviewLeaseUsage := do
  let activeResponses ← expect (checkedSub usage.activeResponses 1)
    "mediaPreviewActiveResponseAccountingMismatch"
  let activeHandles ← expect (checkedSub usage.activeHandles reservation.handleCount)
    "mediaPreviewHandleAccountingMismatch"
  reservation.entityIds.foldlM releaseEntity { usage with activeResponses, activeHandles }

end MediaPreviewLeaseUsage

/-! ### Runs -/

/-- The budget with the leases that are alive. A lease is dropped once, by its owner. -/
structure PreviewLeases where
  usage : MediaPreviewLeaseUsage
  live : Table Nat MediaPreviewLeaseReservation
  issued : Nat
  panicked : Option String

inductive PreviewAction where
  | reserve (entities : List (String × Nat))
  | drop (lease : Nat)

namespace PreviewLeases

def step (leases : PreviewLeases) : PreviewAction → PreviewLeases
  | .reserve entities =>
    match leases.usage.reserve entities with
    | none => leases
    | some (usage, reservation) =>
      { leases with
        usage
        live := leases.live.insert leases.issued reservation
        issued := leases.issued + 1 }
  | .drop lease =>
    match leases.live.get? lease with
    | none => leases
    | some reservation =>
      match leases.usage.release reservation with
      | .ok usage => { leases with usage, live := leases.live.erase lease }
      | .error message => { leases with live := leases.live.erase lease, panicked := some message }

/-- The live leases that name an entity. -/
def references (leases : PreviewLeases) (identifier : String) : Nat :=
  leases.live.total fun reservation => if identifier ∈ reservation.entityIds then 1 else 0

/-- The entities that live leases name, each once. -/
def named (leases : PreviewLeases) : List String :=
  (leases.live.values.flatMap (·.entityIds)).dedup

end PreviewLeases

def previewMachine : Machine PreviewLeases PreviewAction where
  initial := { usage := .empty, live := ∅, issued := 0, panicked := none }
  step := PreviewLeases.step

/-! ### Entities and their references -/

/-- The entries are those with a positive count, and have it. -/
def Counts (entities : Table String PinnedPreviewEntity) (count : String → Nat) : Prop :=
  ∀ identifier, (entities.get? identifier).map (·.references) =
    if count identifier = 0 then none else some (count identifier)

/-- The entries have the lengths of the entities. -/
def Sized (entities : Table String PinnedPreviewEntity) (sizes : String → Nat) : Prop :=
  ∀ identifier entity, entities.get? identifier = some entity → entity.bytes = sizes identifier

/-- The lengths that a list of entities adds. -/
def addedBytes (entities : Table String PinnedPreviewEntity) (added : List (String × Nat)) : Nat :=
  ((added.filter fun entity => !entities.contains entity.1).map Prod.snd).sum

section Pinning

variable {entities : Table String PinnedPreviewEntity} {count sizes : String → Nat}

theorem Counts.of_eq (counts : Counts entities count) {other : String → Nat}
    (same : ∀ identifier, count identifier = other identifier) : Counts entities other :=
  (funext same : count = other) ▸ counts

open MediaPreviewLeaseUsage

theorem Counts.pin (counts : Counts entities count) (entity : String × Nat) :
    Counts (pin entities entity) fun identifier =>
      count identifier + if identifier = entity.1 then 1 else 0 := by
  intro identifier
  have counted := counts identifier
  unfold MediaPreviewLeaseUsage.pin
  by_cases same : identifier = entity.1
  · subst same
    cases found : entities.get? entity.1 with
    | none =>
      have zero : count entity.1 = 0 := by
        simp_all
      simp [zero]
    | some pinned =>
      have references : pinned.references = count entity.1 := by
        simp_all
      simp [references]
  · grind

theorem total_pin (entity : String × Nat) :
    (pin entities entity).total (·.bytes) =
      entities.total (·.bytes) + if entities.contains entity.1 then 0 else entity.2 := by
  unfold pin
  cases found : entities.get? entity.1 with
  | none =>
    have absent : entities.contains entity.1 = false := contains_eq_false.mpr found
    rw [total_insert, erase_of_get?_eq_none found, absent]
    exact Nat.add_comm _ _
  | some pinned =>
    have present : entities.contains entity.1 = true := Table.contains_iff.mpr ⟨pinned, found⟩
    rw [total_eq_of_get? _ found, present]
    rfl

theorem Sized.pin (sized : Sized entities sizes) {entity : String × Nat}
    (hasSize : entity.2 = sizes entity.1) : Sized (pin entities entity) sizes := by
  intro identifier pinned found
  unfold MediaPreviewLeaseUsage.pin at found
  split at found
  · next held isHeld =>
      rw [get?_insert] at found
      split at found
      · next same =>
          cases found
          rw [same]
          exact sized entity.1 held isHeld
      · exact sized identifier pinned found
  · rw [get?_insert] at found
    split at found
    · grind
    · exact sized identifier pinned found

theorem contains_pin (entity : String × Nat) (identifier : String) :
    (pin entities entity).contains identifier =
      (decide (identifier = entity.1) || entities.contains identifier) := by
  grind [Table.contains, pin]

/-- Pinning distinct entities. -/
theorem foldl_pin (counts : Counts entities count) {added : List (String × Nat)}
    (distinct : (added.map Prod.fst).Nodup) :
    (Counts (added.foldl pin entities) fun identifier =>
        count identifier + if identifier ∈ added.map Prod.fst then 1 else 0) ∧
      (added.foldl pin entities).total (·.bytes) =
        entities.total (·.bytes) + addedBytes entities added ∧
      (Sized entities sizes → (∀ entity ∈ added, entity.2 = sizes entity.1) →
        Sized (added.foldl pin entities) sizes) := by
  induction added generalizing entities count with
  | nil => exact ⟨by simpa using counts, by simp [addedBytes], fun sized _ => sized⟩
  | cons entity added ih =>
    rw [map_cons, nodup_cons] at distinct
    obtain ⟨countsRest, total, sizedRest⟩ := ih (counts.pin entity) distinct.2
    refine ⟨countsRest.of_eq fun identifier => ?_, ?_, fun sized hasSizes => ?_⟩
    · grind
    · have rest : addedBytes (pin entities entity) added = addedBytes entities added := by
        unfold addedBytes
        congr 2
        refine filter_congr fun other member => ?_
        have different : other.1 ≠ entity.1 := by
          grind
        rw [contains_pin]
        simp [different]
      rw [foldl_cons, total, total_pin, rest]
      unfold addedBytes
      grind
    · exact sizedRest (sized.pin (hasSizes entity mem_cons_self)) fun other member =>
        hasSizes other (mem_cons_of_mem _ member)

end Pinning

/-! ### Releasing -/

section Releasing

variable {usage : MediaPreviewLeaseUsage} {count sizes : String → Nat}

open MediaPreviewLeaseUsage

/-- The books of the entities: counted, and their lengths are what is pinned. -/
structure Books (usage : MediaPreviewLeaseUsage) (count : String → Nat) : Prop where
  counts : Counts usage.entities count
  pinned : usage.pinnedBytes = usage.entities.total (·.bytes)

/-- A reference that is counted is released. -/
theorem Books.releaseEntity (books : Books usage count) {identifier : String}
    (held : 0 < count identifier) :
    ∃ after, usage.releaseEntity identifier = .ok after ∧
      (Books after fun other => count other - if other = identifier then 1 else 0) ∧
      after.activeResponses = usage.activeResponses ∧ after.activeHandles = usage.activeHandles ∧
      after.pinnedBytes ≤ usage.pinnedBytes ∧
      (Sized usage.entities sizes → Sized after.entities sizes) := by
  have counted := books.counts identifier
  rw [if_neg (Nat.ne_of_gt held)] at counted
  obtain ⟨entity, found, references⟩ := map_eq_some_iff.mp counted
  have total := total_eq_of_get? (fun entity => entity.bytes) found
  have others : ∀ other, other ≠ identifier → (usage.entities.get? other).map (·.references) =
      if count other - (if other = identifier then 1 else 0) = 0 then none
      else some (count other - if other = identifier then 1 else 0) := by
    intro other different
    simp only [if_neg different]
    exact books.counts other
  rw [MediaPreviewLeaseUsage.releaseEntity, found]
  simp only [expect, checkedSub, references, elim_some, if_pos held, Checked.ok_bind,
    Nat.succ_le_iff]
  split
  · next last =>
      have enough : entity.bytes ≤ usage.pinnedBytes := by
        rw [books.pinned, total]
        exact Nat.le_add_right _ _
      simp only [get?_insert_self, elim_some, if_pos enough, Checked.ok_bind,
        Table.erase_insert_self]
      refine ⟨_, rfl, ⟨fun other => ?_, ?_⟩, rfl, rfl, Nat.sub_le _ _, fun sized other held => ?_⟩
      · by_cases same : other = identifier
        · subst same
          simp [last]
        · rw [get?_erase, if_neg same]
          exact others other same
      · rw [books.pinned, total, Nat.add_sub_cancel_left]
      intro isHeld
      rw [get?_erase] at isHeld
      split at isHeld
      · cases isHeld
      · exact sized other held isHeld
  · next more =>
      refine ⟨_, rfl, ⟨fun other => ?_, ?_⟩, rfl, rfl, Nat.le_refl _, fun sized other held => ?_⟩
      · by_cases same : other = identifier
        · subst same
          simp [more]
        · rw [get?_insert, if_neg same]
          exact others other same
      · rw [total_insert, books.pinned, total]
      intro isHeld
      rw [get?_insert] at isHeld
      split at isHeld
      · next same =>
          cases isHeld
          rw [same]
          exact sized identifier entity found
      · exact sized other held isHeld

theorem Books.foldlM_releaseEntity (books : Books usage count) {identifiers : List String}
    (distinct : identifiers.Nodup) (held : ∀ identifier ∈ identifiers, 0 < count identifier) :
    ∃ after, identifiers.foldlM MediaPreviewLeaseUsage.releaseEntity usage = .ok after ∧
      (Books after fun other => count other - if other ∈ identifiers then 1 else 0) ∧
      after.activeResponses = usage.activeResponses ∧ after.activeHandles = usage.activeHandles ∧
      after.pinnedBytes ≤ usage.pinnedBytes ∧
      (Sized usage.entities sizes → Sized after.entities sizes) := by
  induction identifiers generalizing usage count with
  | nil => exact ⟨usage, rfl, by simpa using books, rfl, rfl, Nat.le_refl _, id⟩
  | cons identifier identifiers ih =>
    obtain ⟨fresh, distinct⟩ := nodup_cons.mp distinct
    obtain ⟨_, first, booksMiddle, responses, handles, pinned, sized⟩ :=
      Books.releaseEntity books (held identifier mem_cons_self)
    obtain ⟨after, rest, booksAfter, responsesAfter, handlesAfter, pinnedAfter, sizedAfter⟩ :=
      ih booksMiddle distinct fun other member => by
        have different : other ≠ identifier := by
          rintro rfl
          exact fresh member
        simpa [different] using held other (mem_cons_of_mem _ member)
    refine ⟨after, by rw [foldlM_cons, first, Checked.ok_bind, rest],
      ⟨booksAfter.counts.of_eq fun other => ?_, booksAfter.pinned⟩,
      responsesAfter.trans responses,
      handlesAfter.trans handles, pinnedAfter.trans pinned, sizedAfter ∘ sized⟩
    grind

end Releasing

/-! ### Reserving -/

variable {entities : List (String × Nat)}

theorem mem_of_uniqueEntities {entity : String × Nat}
    (member : entity ∈ (uniqueEntities entities).toList) : entity ∈ entities := by
  have fold : ∀ (rest : List (String × Nat)) (unique : Table String Nat),
      (rest.foldl (fun unique entity =>
        if unique.contains entity.1 then unique else unique.insert entity.1 entity.2)
          unique).get? entity.1 = some entity.2 →
        unique.get? entity.1 = some entity.2 ∨ entity ∈ rest := by
    intro rest
    induction rest with
    | nil => exact fun unique found => .inl found
    | cons _ rest ih =>
      intro unique found
      rcases ih _ found with _ | later
      · grind
      · exact .inr (mem_cons_of_mem _ later)
  rcases fold entities ∅ (Table.mem_toList.mp member) with absurd_ | listed
  · cases absurd_
  · exact listed

variable {usage : MediaPreviewLeaseUsage}

theorem additionalBytes_eq_some {added : List (String × Nat)} {additional : Nat}
    (summed : usage.additionalBytes added = some additional) :
    additional = addedBytes usage.entities added := by
  have fold : ∀ (entities : List (String × Nat)) (start : Nat),
      entities.foldlM (fun total entity => checkedAdd total entity.2) start = some additional →
        additional = start + (entities.map Prod.snd).sum := by
    intro entities
    induction entities with
    | nil =>
      simp
    | cons entity entities =>
      grind [checkedAdd]
  rw [fold _ 0 summed, Nat.zero_add, addedBytes]

/-! ### Every run -/

/-- The books of the budget and the leases that are alive. -/
structure Sound (leases : PreviewLeases) : Prop where
  panicked : leases.panicked = none
  books : Books leases.usage leases.references
  responses : leases.usage.activeResponses = leases.live.size
  handles : leases.usage.activeHandles = leases.live.total (·.handleCount)
  shares : ∀ lease reservation, leases.live.get? lease = some reservation →
    lease < leases.issued ∧ reservation.entityIds.Nodup ∧
      reservation.handleCount = reservation.entityIds.length
  limits : leases.usage.activeResponses ≤ maximumActivePreviewResponses ∧
    leases.usage.activeHandles ≤ maximumActivePreviewHandles ∧
    leases.usage.pinnedBytes ≤ maximumPinnedPreviewBytes

variable {leases : PreviewLeases} {reservation : MediaPreviewLeaseReservation}

theorem Sound.reserve (sound : Sound leases)
    (reserved : leases.usage.reserve entities = some (usage, reservation)) :
    Sound { leases with
        usage
        live := leases.live.insert leases.issued reservation
        issued := leases.issued + 1 } ∧
      ∀ sizes, Sized leases.usage.entities sizes →
        (∀ entity ∈ entities, entity.2 = sizes entity.1) →
        Sized usage.entities sizes := by
  obtain ⟨_, summed, granted⟩ := bind_eq_some_iff.mp reserved
  split at granted
  · cases granted
  next within =>
    cases granted
    rw [not_or, not_or, Nat.not_le] at within
    obtain ⟨room, handlesWithin, pinnedWithin⟩ := within
    have fresh : leases.live.get? leases.issued = none := by
      cases found : leases.live.get? leases.issued with
      | none => rfl
      | some other => exact absurd (sound.shares _ other found).1 (Nat.lt_irrefl _)
    have erased := erase_of_get?_eq_none fresh
    have distinct := (uniqueEntities entities).nodup_keys_toList
    obtain ⟨counts, total, _⟩ :=
      @foldl_pin _ _ (fun _ => 0) sound.books.counts _ distinct
    have limit : ∀ {first second maximum : Nat},
        ¬(checkedAdd first second).all (maximum < ·) = true → first + second ≤ maximum := by
      intro first second maximum passes
      rw [checkedAdd] at passes
      split at passes
      · simpa using passes
      · exact absurd rfl passes
    refine ⟨⟨sound.panicked, ⟨counts.of_eq fun _ => ?_, ?_⟩, ?_, ?_,
      fun lease held found => ?_, room, limit handlesWithin, limit pinnedWithin⟩,
      fun sizes sized hasSizes => ?_⟩
    · rw [PreviewLeases.references, PreviewLeases.references, total_insert, erased, Nat.add_comm]
    · rw [total, sound.books.pinned, additionalBytes_eq_some summed]
    · rw [size_insert, contains_eq_false.mpr fresh, sound.responses]
      rfl
    · dsimp only
      rw [total_insert, erased, sound.handles, Nat.add_comm]
    · rw [get?_insert] at found
      split at found
      · next same =>
          cases found
          exact ⟨same ▸ Nat.lt_succ_self _, distinct, length_map _ |>.symm⟩
      · have share := sound.shares lease held found
        exact ⟨Nat.lt_succ_of_lt share.1, share.2⟩
    · exact (foldl_pin sound.books.counts distinct).2.2 sized fun entity member =>
        hasSizes entity (mem_of_uniqueEntities member)

/-- A live lease is released, whatever the order. -/
theorem Sound.release (sound : Sound leases) {lease : Nat}
    (found : leases.live.get? lease = some reservation) :
    ∃ usage, leases.usage.release reservation = .ok usage ∧
      Sound { leases with usage, live := leases.live.erase lease } ∧
      ∀ sizes, Sized leases.usage.entities sizes → Sized usage.entities sizes := by
  obtain ⟨_, distinct, handleCount⟩ := sound.shares lease reservation found
  have references : ∀ identifier, leases.references identifier =
      (if identifier ∈ reservation.entityIds then 1 else 0) +
        (leases.live.erase lease).total fun other =>
          if identifier ∈ other.entityIds then 1 else 0 :=
    fun identifier => total_eq_of_get? _ found
  have size : leases.live.size = 1 + (leases.live.erase lease).size := by
    rw [size_eq_total, size_eq_total, total_eq_of_get? _ found]
  have handles := total_eq_of_get? (fun other => other.handleCount) found
  have oneResponse : 1 ≤ leases.usage.activeResponses := by
    rw [sound.responses, size]
    exact Nat.le_add_right _ _
  have enough : reservation.handleCount ≤ leases.usage.activeHandles := by
    rw [sound.handles, handles]
    exact Nat.le_add_right _ _
  have lowered : Books { leases.usage with
      activeResponses := leases.usage.activeResponses - 1
      activeHandles := leases.usage.activeHandles - reservation.handleCount } leases.references :=
    ⟨sound.books.counts, sound.books.pinned⟩
  have held : ∀ identifier ∈ reservation.entityIds, 0 < leases.references identifier := by
    intro identifier member
    rw [references, if_pos member]
    omega
  obtain ⟨usage, released, books, responsesAfter, handlesAfter, pinned, _⟩ :=
    @Books.foldlM_releaseEntity _ _ (fun _ => 0) lowered _ distinct held
  have run : leases.usage.release reservation = .ok usage := by
    rw [MediaPreviewLeaseUsage.release, checkedSub, if_pos oneResponse, checkedSub, if_pos enough]
    exact released
  refine ⟨usage, run, ⟨sound.panicked, ⟨books.counts.of_eq fun identifier => ?_, books.pinned⟩,
    ?_, ?_, fun other held isHeld => ?_, ?_⟩, fun sizes sized => ?_⟩
  · rw [references]
    exact Nat.add_sub_cancel_left _ _
  · rw [responsesAfter, sound.responses, size]
    exact Nat.add_sub_cancel_left _ _
  · rw [handlesAfter, sound.handles, handles]
    exact Nat.add_sub_cancel_left _ _
  · rw [get?_erase] at isHeld
    split at isHeld
    · cases isHeld
    · exact sound.shares other held isHeld
  · obtain ⟨responses, handlesLimit, pinnedLimit⟩ := sound.limits
    rw [responsesAfter, handlesAfter]
    exact ⟨(Nat.sub_le _ _).trans responses, (Nat.sub_le _ _).trans handlesLimit,
      pinned.trans pinnedLimit⟩
  · obtain ⟨other, again, _, _, _, _, sizedAfter⟩ :=
      Books.foldlM_releaseEntity lowered distinct held
    rw [released] at again
    cases again
    exact sizedAfter sized

theorem sound_step (sound : Sound leases) (action : PreviewAction) :
    Sound (leases.step action) ∧
      ∀ sizes : String → Nat, Sized leases.usage.entities sizes →
        (∀ entities, action = .reserve entities → ∀ entity ∈ entities, entity.2 = sizes entity.1) →
          Sized (leases.step action).usage.entities sizes := by
  cases action with
  | reserve entities =>
    rw [PreviewLeases.step]
    split
    · exact ⟨sound, fun _ sized _ => sized⟩
    · next usage reservation reserved =>
        obtain ⟨after, sizedAfter⟩ := sound.reserve reserved
        exact ⟨after, fun sizes sized hasSizes => sizedAfter sizes sized (hasSizes entities rfl)⟩
  | drop =>
    rw [PreviewLeases.step]
    split
    · exact ⟨sound, fun _ sized _ => sized⟩
    · next reservation found =>
        obtain ⟨usage, released, after, sizedAfter⟩ := sound.release found
        rw [released]
        exact ⟨after, fun sizes sized _ => sizedAfter sizes sized⟩

theorem sound_initial : Sound previewMachine.initial where
  panicked := rfl
  books := ⟨fun _ => rfl, rfl⟩
  responses := rfl
  handles := rfl
  shares := by simp [previewMachine]
  limits := by decide

theorem sound_run (actions : List PreviewAction) : Sound (previewMachine.run actions) :=
  Machine.invariant_run sound_initial (fun _ action sound => (sound_step sound action).1) actions

theorem sized_run {actions : List PreviewAction} {sizes : String → Nat}
    (hasSizes : ∀ entities, .reserve entities ∈ actions →
      ∀ entity ∈ entities, entity.2 = sizes entity.1) :
    Sized (previewMachine.run actions).usage.entities sizes := by
  refine (@Machine.guarded_run _ _ _
    (fun _ action => ∀ entities, action = .reserve entities →
      ∀ entity ∈ entities, entity.2 = sizes entity.1)
    (fun leases => Sound leases ∧ Sized leases.usage.entities sizes)
    ⟨sound_initial, by simp [previewMachine, MediaPreviewLeaseUsage.empty, Sized]⟩
    (fun leases action holds meets => ?_) _ (Machine.guarded_of_forall _ ?_)).2
  · exact ⟨(sound_step holds.1 action).1, (sound_step holds.1 action).2 sizes holds.2 meets⟩
  grind

/-- What is pinned, as a sum over the entities that live leases name. -/
theorem Sound.pinnedBytes_eq (sound : Sound leases) :
    leases.usage.pinnedBytes =
      (leases.named.map fun identifier =>
        ((leases.usage.entities.get? identifier).map (·.bytes)).getD 0).sum := by
  rw [sound.books.pinned]
  refine total_eq_sum_of_keys (nodup_dedup _) (fun identifier _ found => ?_) _
  have counted := sound.books.counts identifier
  rw [found] at counted
  by_contra unnamed
  have zero : leases.references identifier = 0 := by
    refine sum_eq_zero fun _ member => ?_
    obtain ⟨_, _, rfl⟩ := List.mem_map.mp member
    simp_all
  rw [if_pos zero] at counted
  cases counted

theorem Sound.contains_of_named (sound : Sound leases) {identifier : String}
    (isNamed : identifier ∈ leases.named) :
    ∃ entity, leases.usage.entities.get? identifier = some entity := by
  rw [PreviewLeases.named, mem_dedup, mem_flatMap] at isNamed
  obtain ⟨_, listed, named⟩ := isNamed
  obtain ⟨_, found⟩ := mem_values.mp listed
  have positive : leases.references identifier ≠ 0 := by
    rw [PreviewLeases.references, total_eq_of_get? _ found, if_pos named]
    omega
  have counted := sound.books.counts identifier
  rw [if_neg positive] at counted
  obtain ⟨entity, held, _⟩ := map_eq_some_iff.mp counted
  exact ⟨entity, held⟩

/-- In every run the counters are the sums over the leases that are alive and within their
limits, entries are the entities that are referenced, a refused reservation changes nothing and
every lease can be released. Pinned bytes count an entity once, with the length by which it was
pinned; that is its length when every reservation names it with that. -/
theorem previewLeases_counted (actions : List PreviewAction) :
    let leases := previewMachine.run actions
    leases.panicked = none ∧ leases.usage.activeResponses = leases.live.size ∧
      leases.usage.activeHandles =
        leases.live.total (fun reservation => reservation.entityIds.length) ∧
      (∀ identifier, (leases.usage.entities.get? identifier).map (·.references) =
        if leases.references identifier = 0 then none else some (leases.references identifier)) ∧
      leases.usage.pinnedBytes =
        (leases.named.map fun identifier =>
          ((leases.usage.entities.get? identifier).map (·.bytes)).getD 0).sum ∧
      (∀ sizes : String → Nat, (∀ entities, .reserve entities ∈ actions →
          ∀ entity ∈ entities, entity.2 = sizes entity.1) →
        leases.usage.pinnedBytes = (leases.named.map sizes).sum) ∧
      leases.usage.activeResponses ≤ maximumActivePreviewResponses ∧
      leases.usage.activeHandles ≤ maximumActivePreviewHandles ∧
      leases.usage.pinnedBytes ≤ maximumPinnedPreviewBytes ∧
      (∀ entities, leases.usage.reserve entities = none →
        leases.step (.reserve entities) = leases) ∧
      ∀ lease reservation, leases.live.get? lease = some reservation →
        ∃ usage, leases.usage.release reservation = .ok usage := by
  intro leases
  have sound : Sound leases := sound_run actions
  have handles : leases.usage.activeHandles =
      leases.live.total (fun reservation => reservation.entityIds.length) := by
    rw [sound.handles, Table.total]
    congr 1
    refine map_congr_left fun reservation listed => ?_
    obtain ⟨lease, found⟩ := mem_values.mp listed
    exact (sound.shares lease reservation found).2.2
  refine ⟨sound.panicked, sound.responses, handles, sound.books.counts, sound.pinnedBytes_eq,
    fun sizes hasSizes => ?_, sound.limits.1, sound.limits.2.1, sound.limits.2.2,
    fun entities refused => ?_, fun lease reservation found => ?_⟩
  · have sized : Sized leases.usage.entities sizes := sized_run hasSizes
    rw [sound.pinnedBytes_eq]
    congr 1
    refine map_congr_left fun identifier named => ?_
    obtain ⟨entity, found⟩ := sound.contains_of_named named
    rw [found, map_some, getD_some, sized identifier entity found]
  · rw [PreviewLeases.step, refused]
  · obtain ⟨usage, released, _⟩ := sound.release found
    exact ⟨usage, released⟩

end SprakCapture.Control
