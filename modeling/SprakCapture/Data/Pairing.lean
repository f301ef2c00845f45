import Mathlib.Data.List.TakeWhile

/-!
# Pairing by position

Two hand-overs pass the same entries in the same order. The second has no identity to go by: a
queue remembers an item for each entry of the first, the front of the queue is taken for the
entry that arrives, and items that expired are dropped from the front. `take_arrived` says when
the item that is taken is the one of the entry that arrived.
-/

namespace SprakCapture.Data.Pairing

open List

variable {Entry Item : Type} {item : Entry → Item} {held gone : Entry → Prop}
  {expected : List Entry} {queue : List Item}

/-- The queue has the items of the last entries that are expected. These are still held, and
those before are gone. -/
def Remembers (item : Entry → Item) (held gone : Entry → Prop) (expected : List Entry)
    (queue : List Item) : Prop :=
  ∃ forgotten kept, expected = forgotten ++ kept ∧ queue = kept.map item ∧
    (∀ entry ∈ forgotten, gone entry) ∧ ∀ entry ∈ kept, held entry

theorem remembers_nil : Remembers item held gone [] [] :=
  ⟨[], [], rfl, rfl, nofun, nofun⟩

/-- A queue that has lost all its items. -/
theorem remembers_nothing (forgotten : ∀ entry ∈ expected, gone entry) :
    Remembers item held gone expected [] :=
  ⟨expected, [], (append_nil expected).symm, rfl, forgotten, nofun⟩

section

variable (remembers : Remembers item held gone expected queue)
include remembers

theorem Remembers.mono {goneLater : Entry → Prop} (later : ∀ entry, gone entry → goneLater entry) :
    Remembers item held goneLater expected queue := by
  obtain ⟨forgotten, kept, split, isQueue, areGone, areHeld⟩ := remembers
  exact ⟨forgotten, kept, split, isQueue, fun entry member => later entry (areGone entry member),
    areHeld⟩

theorem Remembers.push {entry : Entry} (isHeld : held entry) :
    Remembers item held gone (expected ++ [entry]) (queue ++ [item entry]) := by
  obtain ⟨forgotten, kept, rfl, rfl, areGone, areHeld⟩ := remembers
  refine ⟨forgotten, kept ++ [entry], append_assoc _ _ _, by simp, areGone, ?_⟩
  intro other member
  rcases mem_append.mp member with before | isNew
  · exact areHeld other before
  · rwa [mem_singleton.mp isNew]

theorem Remembers.prune {expired : Item → Bool}
    (expires : ∀ entry, held entry → expired (item entry) → gone entry) :
    Remembers item held gone expected (queue.dropWhile expired) := by
  obtain ⟨forgotten, kept, rfl, rfl, areGone, areHeld⟩ := remembers
  refine ⟨forgotten ++ kept.takeWhile (expired ∘ item), kept.dropWhile (expired ∘ item), ?_,
    dropWhile_map, fun entry member => ?_, fun entry member => ?_⟩
  · simp
  · rcases mem_append.mp member with before | dropped
    · exact areGone entry before
    · have isExpired : (expired ∘ item) entry := mem_takeWhile_imp dropped
      exact expires entry (areHeld entry (takeWhile_subset _ dropped)) isExpired
  · exact areHeld entry (dropWhile_subset _ member)

omit remembers in
/-- A fact about each entry survives the change of one. -/
theorem forall_modify {entries : List Entry} (change : Entry → Entry)
    {fact : Entry → Prop} (keeps : ∀ entry, fact entry → fact (change entry))
    (holds : ∀ entry ∈ entries, fact entry) (index : Nat) :
    ∀ entry ∈ entries.modify index change, fact entry := by
  intro entry member
  obtain ⟨_, found⟩ := mem_iff_getElem?.mp member
  rw [getElem?_modify] at found
  obtain ⟨old, isOld, rfl⟩ := Option.map_eq_some_iff.mp found
  have isFact := holds old (mem_of_getElem? isOld)
  split
  · exact keeps old isFact
  · exact isFact

theorem Remembers.modify (change : Entry → Entry)
    (sameItem : ∀ entry, item (change entry) = item entry)
    (sameHeld : ∀ entry, held entry → held (change entry))
    (sameGone : ∀ entry, gone entry → gone (change entry)) (index : Nat) :
    Remembers item held gone (expected.modify index change) queue := by
  obtain ⟨forgotten, kept, rfl, rfl, areGone, areHeld⟩ := remembers
  have items : ∀ place, (kept.modify place change).map item = kept.map item := by
    intro place
    refine ext_getElem? fun other => ?_
    grind
  by_cases inside : index < forgotten.length
  · refine ⟨forgotten.modify index change, kept, ?_, rfl,
      forall_modify change sameGone areGone index, areHeld⟩
    rw [modify_eq_take_cons_drop inside, modify_eq_take_cons_drop (by simp; omega)]
    grind
  · refine ⟨forgotten, kept.modify (index - forgotten.length) change, ?_, (items _).symm, areGone,
      forall_modify change sameHeld areHeld _⟩
    refine ext_getElem? fun other => ?_
    rw [getElem?_modify]
    by_cases before : other < forgotten.length
    · have apart : index ≠ other := by omega
      simp [getElem?_append_left before, apart]
    · rw [getElem?_append_right (by omega), getElem?_append_right (by omega), getElem?_modify]
      have same : index = other ↔ index - forgotten.length = other - forgotten.length := by omega
      simp [same]

omit remembers in
private theorem dropWhile_eq_nil {kept : List Entry} {expired : Item → Bool}
    (all : ∀ entry ∈ kept, expired (item entry)) : (kept.map item).dropWhile expired = [] :=
  dropWhile_eq_nil_iff.mpr fun _ member => by
    obtain ⟨entry, isEntry, rfl⟩ := List.mem_map.mp member
    exact all entry isEntry

/-- The front of the queue is taken for an entry that arrives. All that is still held before it
has expired. Either the entry itself is neither gone nor expired, or all that is still held
behind it has expired: then the item that is taken, if there is one, is its own. -/
theorem Remembers.take_arrived (expired : Item → Bool) {earlier later : List Entry} {entry : Entry}
    (arrived : expected = earlier ++ entry :: later)
    (before : ∀ other ∈ earlier, held other → expired (item other))
    (inTime : (¬ gone entry ∧ expired (item entry) = false) ∨
      ∀ other ∈ later, held other → expired (item other))
    (expires : ∀ other, held other → expired (item other) → gone other) :
    (∀ found, (queue.dropWhile expired).head? = some found → found = item entry) ∧
      Remembers item held gone later (queue.dropWhile expired).tail := by
  obtain ⟨_, kept, split, rfl, areGone, areHeld⟩ := remembers
  -- The items from the one of the entry on are still in the queue.
  have present : ∀ waiting, kept = waiting ++ entry :: later →
      (∀ other ∈ waiting, other ∈ earlier) →
      (∀ found, ((kept.map item).dropWhile expired).head? = some found → found = item entry) ∧
        Remembers item held gone later ((kept.map item).dropWhile expired).tail := by
    rintro waiting rfl fromEarlier
    have waitingExpired : ∀ other ∈ waiting, expired (item other) := fun other member =>
      before other (fromEarlier other member) (areHeld other (mem_append_left _ member))
    have laterHeld : ∀ other ∈ later, held other := fun other member =>
      areHeld other (mem_append_right _ (.tail _ member))
    by_cases entryExpired : expired (item entry)
    · rw [dropWhile_eq_nil]
      · refine ⟨nofun, remembers_nothing fun other member => ?_⟩
        simp_all
      intro other member
      rcases mem_append.mp member with isWaiting | isRest
      · exact waitingExpired other isWaiting
      · rcases mem_cons.mp isRest with rfl | _
        · exact entryExpired
        simp_all
    · have dropped : ((waiting ++ entry :: later).map item).dropWhile expired =
          item entry :: later.map item := by
        rw [map_append, dropWhile_append, dropWhile_eq_nil waitingExpired]
        simp [entryExpired]
      rw [dropped]
      refine ⟨fun found isFound => (Option.some.inj isFound).symm, ?_⟩
      exact ⟨[], later, rfl, rfl, nofun, laterHeld⟩
  rcases append_eq_append_iff.mp (arrived.symm.trans split) with
    ⟨rest, isForgotten, isRest⟩ | ⟨waiting, isEarlier, isKept⟩
  · cases rest with
    | nil => exact present [] isRest.symm nofun
    | cons _ rest =>
      obtain ⟨rfl, rfl⟩ := List.cons.inj isRest
      -- The queue has forgotten the entry: what is left belongs to later ones.
      have entryGone : gone entry := areGone entry (by simp [isForgotten])
      have laterExpired := inTime.resolve_left fun fresh => fresh.1 entryGone
      have keptExpired : ∀ other ∈ kept, expired (item other) := fun other member =>
        laterExpired other (mem_append_right _ member) (areHeld other member)
      rw [dropWhile_eq_nil keptExpired]
      refine ⟨nofun, remembers_nothing fun other member => ?_⟩
      rcases mem_append.mp member with isOld | isKept
      · exact areGone other (by simp [isForgotten, isOld])
      grind
  · refine present waiting isKept fun other member => ?_
    rw [isEarlier]
    exact mem_append_right _ member

end

end SprakCapture.Data.Pairing
