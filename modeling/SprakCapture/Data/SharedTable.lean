import SprakCapture.Data.Table

/-!
# Objects shared by key

A `SharedTable` hands out one object to all users of a key. An object is made for the first
user and its entry is removed with the last one; the object itself outlives its entry, since
a former user may still hold it. `Counts` says that the table counts a list of users exactly.
-/

namespace SprakCapture.Data

open List

/-- The objects that were ever made, each with its number of users, and the reference of the
current object of each key. A reference is a position in the list of objects. -/
structure SharedTable (Key Object : Type) where
  entries : Table Key Nat
  objects : List (Object × Nat)

namespace SharedTable

variable {Key Object : Type} [DecidableEq Key]

def empty : SharedTable Key Object where
  entries := ∅
  objects := []

/-- Change the number of users of an object. -/
def recount (shared : SharedTable Key Object) (reference : Nat) (change : Nat → Nat) :
    SharedTable Key Object :=
  { shared with objects := shared.objects.modify reference fun held => (held.1, change held.2) }

/-- Change an object in place. -/
def adjust (shared : SharedTable Key Object) (reference : Nat) (change : Object → Object) :
    SharedTable Key Object :=
  { shared with objects := shared.objects.modify reference fun held => (change held.1, held.2) }

/-- The reference of the object of a key, which is made if the key has none. -/
def reference (shared : SharedTable Key Object) (key : Key) : Nat :=
  (shared.entries.get? key).getD shared.objects.length

/-- One more user of a key. -/
def acquire (shared : SharedTable Key Object) (key : Key) (make : Object) :
    SharedTable Key Object :=
  match shared.entries.get? key with
  | some reference => shared.recount reference (· + 1)
  | none =>
    { entries := shared.entries.insert key shared.objects.length
      objects := shared.objects ++ [(make, 1)] }

/-- One user less. The last user of the current object of its key removes the entry. -/
def release (shared : SharedTable Key Object) (key : Key) (reference : Nat) :
    SharedTable Key Object :=
  let lowered := shared.recount reference (· - 1)
  if (shared.objects[reference]?).map Prod.snd = some 1 ∧
      shared.entries.get? key = some reference then
    { lowered with entries := shared.entries.erase key }
  else lowered

omit [DecidableEq Key] in
theorem getElem?_recount (shared : SharedTable Key Object) (reference other : Nat)
    (change : Nat → Nat) :
    (shared.recount reference change).objects[other]? =
      if reference = other then (shared.objects[other]?).map fun held => (held.1, change held.2)
      else shared.objects[other]? := by
  grind [recount]

omit [DecidableEq Key] in
theorem getElem?_adjust (shared : SharedTable Key Object) (reference other : Nat)
    (change : Object → Object) :
    (shared.adjust reference change).objects[other]? =
      if reference = other then (shared.objects[other]?).map fun held => (change held.1, held.2)
      else shared.objects[other]? := by
  grind [adjust]

/-- The object behind a reference. -/
def value? (shared : SharedTable Key Object) (reference : Nat) : Option Object :=
  (shared.objects[reference]?).map Prod.fst

omit [DecidableEq Key] in
@[simp] theorem value?_recount (shared : SharedTable Key Object) (reference other : Nat)
    (change : Nat → Nat) : (shared.recount reference change).value? other = shared.value? other := by
  rw [value?, getElem?_recount]
  by_cases same : reference = other
  · simp [same, value?, Function.comp_def]
  · simp [same, value?]

omit [DecidableEq Key] in
theorem value?_adjust (shared : SharedTable Key Object) (reference other : Nat)
    (change : Object → Object) :
    (shared.adjust reference change).value? other =
      if reference = other then (shared.value? other).map change else shared.value? other := by
  rw [value?, getElem?_adjust]
  by_cases same : reference = other
  · simp [same, value?, Function.comp_def]
  · simp [same, value?]

@[simp] theorem value?_release (shared : SharedTable Key Object) (key : Key)
    (reference other : Nat) :
    (shared.release key reference).value? other = shared.value? other := by
  unfold release
  split
  · exact value?_recount shared reference other (· - 1)
  simp

variable {key : Key} {reference : Nat}

/-- A further user leaves every object as it is. -/
theorem value?_acquire {shared : SharedTable Key Object} {make object : Object}
    (held : shared.value? reference = some object) :
    (shared.acquire key make).value? reference = some object := by
  unfold acquire
  split
  · rw [value?_recount]
    exact held
  · obtain ⟨_, stored, _⟩ := Option.map_eq_some_iff.mp held
    rw [value?, getElem?_append_left (List.getElem?_eq_some_iff.mp stored).1]
    exact held

/-- The number of users of a key. -/
def usersOf (users : List (Key × Nat)) (key : Key) : Nat := users.countP fun user => user.1 = key

theorem usersOf_cons (users : List (Key × Nat)) (user : Key × Nat) (key : Key) :
    usersOf (user :: users) key = usersOf users key + if user.1 = key then 1 else 0 := by
  simp [usersOf, countP_cons]

/-- The table counts these users: each of them has the current object of its key, each entry
has users and its object has their number, and no object serves two keys. -/
structure Counts (shared : SharedTable Key Object) (users : List (Key × Nat)) : Prop where
  entry : ∀ {key reference}, (key, reference) ∈ users → shared.entries.get? key = some reference
  counted : ∀ {key reference}, shared.entries.get? key = some reference →
    0 < usersOf users key ∧ ∃ object, shared.objects[reference]? = some (object, usersOf users key)
  apart : ∀ {key other reference}, shared.entries.get? key = some reference →
    shared.entries.get? other = some reference → key = other

theorem counts_empty : (empty : SharedTable Key Object).Counts [] where
  entry := by simp
  counted := by simp [empty]
  apart := by simp [empty]

namespace Counts

variable {shared : SharedTable Key Object} {users others : List (Key × Nat)}

section

variable (counts : shared.Counts users)
include counts

theorem perm (same : users.Perm others) : shared.Counts others where
  entry member := counts.entry (same.mem_iff.mpr member)
  counted found := by
    have equal : ∀ key, usersOf users key = usersOf others key := fun key => same.countP_eq _
    simpa only [equal] using counts.counted found
  apart := counts.apart

theorem adjust (reference : Nat) (change : Object → Object) :
    (shared.adjust reference change).Counts users where
  entry := counts.entry
  counted := by
    intro _ other found
    obtain ⟨some, object, held⟩ := counts.counted found
    refine ⟨some, ?_⟩
    rw [getElem?_adjust, held]
    by_cases same : reference = other
    · exact ⟨change object, by rw [if_pos same]; rfl⟩
    · exact ⟨object, by rw [if_neg same]⟩
  apart := counts.apart

/-- A key is in use exactly while it has an entry. -/
theorem isSome_iff (key : Key) :
    (shared.entries.get? key).isSome ↔ ∃ reference, (key, reference) ∈ users := by
  constructor
  · intro present
    obtain ⟨reference, found⟩ := Option.isSome_iff_exists.mp present
    obtain ⟨_, member, _⟩ := countP_pos_iff.mp (counts.counted found).1
    grind
  · rintro ⟨reference, member⟩
    rw [counts.entry member]
    rfl

private theorem join (found : shared.entries.get? key = some reference) :
    (shared.recount reference (· + 1)).Counts ((key, reference) :: users) where
  entry member := by
    rcases mem_cons.mp member with new | old
    · cases new
      exact found
    · exact counts.entry old
  counted := by
    intro other otherReference present
    obtain ⟨_, object, held⟩ := counts.counted present
    rw [usersOf_cons, getElem?_recount, held]
    refine ⟨by omega, object, ?_⟩
    by_cases same : key = other
    · subst same
      cases found.symm.trans present
      simp
    · have different : reference ≠ otherReference := by
        rintro rfl
        exact same (counts.apart found present)
      simp [same, different]
  apart := counts.apart

private theorem found (make : Object) (absent : shared.entries.get? key = none) :
    SharedTable.Counts
      { entries := shared.entries.insert key shared.objects.length
        objects := shared.objects ++ [(make, 1)] }
      ((key, shared.objects.length) :: users) := by
  have unused : usersOf users key = 0 := by
    rw [usersOf, countP_eq_zero]
    intro _ member same
    have present := counts.entry member
    rw [of_decide_eq_true same, absent] at present
    cases present
  have inside : ∀ {other reference}, shared.entries.get? other = some reference →
      reference < shared.objects.length := by
    intro other reference present
    obtain ⟨-, object, held⟩ := counts.counted present
    exact (List.getElem?_eq_some_iff.mp held).1
  refine ⟨?_, ?_, ?_⟩
  · intro other reference member
    rw [Table.get?_insert]
    rcases mem_cons.mp member with new | old
    · cases new
      simp
    have present := counts.entry old
    have different : other ≠ key := by
      rintro rfl
      rw [absent] at present
      cases present
    rw [if_neg different, present]
  · intro other reference present
    rw [Table.get?_insert] at present
    by_cases same : other = key
    · subst same
      rw [if_pos rfl] at present
      cases present
      simp [usersOf_cons, unused]
    · rw [if_neg same] at present
      obtain ⟨used, object, held⟩ := counts.counted present
      have apart : ¬key = other := fun equal => same equal.symm
      simp only [usersOf_cons, apart, if_false, Nat.add_zero]
      refine ⟨used, object, ?_⟩
      rw [getElem?_append_left (inside present), held]
  · intro first second reference firstFound secondFound
    rw [Table.get?_insert] at firstFound secondFound
    by_cases firstSame : first = key <;> by_cases secondSame : second = key
    · rw [firstSame, secondSame]
    · rw [if_pos firstSame] at firstFound
      rw [if_neg secondSame] at secondFound
      cases firstFound
      exact absurd (inside secondFound) (Nat.lt_irrefl _)
    · rw [if_neg firstSame] at firstFound
      rw [if_pos secondSame] at secondFound
      cases secondFound
      exact absurd (inside firstFound) (Nat.lt_irrefl _)
    · rw [if_neg firstSame] at firstFound
      rw [if_neg secondSame] at secondFound
      exact counts.apart firstFound secondFound

theorem acquire (key : Key) (make : Object) :
    (shared.acquire key make).Counts ((key, shared.reference key) :: users) := by
  unfold SharedTable.acquire SharedTable.reference
  cases present : shared.entries.get? key with
  | some reference => exact counts.join present
  | none => exact counts.found make present

end

theorem release (counts : shared.Counts ((key, reference) :: users)) :
    (shared.release key reference).Counts users := by
  have present := counts.entry mem_cons_self
  obtain ⟨-, object, held⟩ := counts.counted present
  rw [usersOf_cons, if_pos rfl] at held
  have others : ∀ {other otherReference}, other ≠ key →
      shared.entries.get? other = some otherReference →
      0 < usersOf users other ∧ ∃ object,
        (shared.recount reference (· - 1)).objects[otherReference]? =
          some (object, usersOf users other) := by
    intro other otherReference different otherPresent
    obtain ⟨used, otherObject, otherHeld⟩ := counts.counted otherPresent
    rw [usersOf_cons, if_neg (Ne.symm different), Nat.add_zero] at used otherHeld
    refine ⟨used, otherObject, ?_⟩
    have apart : reference ≠ otherReference := by
      rintro rfl
      exact different (counts.apart otherPresent present)
    rw [getElem?_recount, if_neg apart, otherHeld]
  have lastIff : (shared.objects[reference]?).map Prod.snd = some 1 ↔ usersOf users key = 0 := by
    rw [held]
    simp
  unfold SharedTable.release
  by_cases last : usersOf users key = 0
  · rw [if_pos ⟨lastIff.mpr last, present⟩]
    have unused : ∀ {other otherReference}, (other, otherReference) ∈ users → other ≠ key := by
      rintro other otherReference member rfl
      exact countP_eq_zero.mp last _ member (by simp)
    refine ⟨?_, ?_, ?_⟩
    · intro other otherReference member
      rw [Table.get?_erase, if_neg (unused member)]
      exact counts.entry (.tail _ member)
    · grind
    · intro first second shared firstFound secondFound
      rw [Table.get?_erase] at firstFound secondFound
      by_cases firstSame : first = key
      · simp_all
      by_cases secondSame : second = key
      · simp_all
      · rw [if_neg firstSame] at firstFound
        rw [if_neg secondSame] at secondFound
        exact counts.apart firstFound secondFound
  · rw [if_neg fun both => last (lastIff.mp both.1)]
    refine ⟨fun member => counts.entry (.tail _ member), ?_, counts.apart⟩
    intro other otherReference otherPresent
    by_cases same : other = key
    · subst same
      cases present.symm.trans otherPresent
      refine ⟨by omega, object, ?_⟩
      rw [getElem?_recount, if_pos rfl, held]
      rfl
    · exact others same otherPresent

end Counts

end SharedTable

end SprakCapture.Data
