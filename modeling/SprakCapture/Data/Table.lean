import Mathlib.Algebra.GroupWithZero.Nat
import Mathlib.Data.List.AList
import Mathlib.Algebra.BigOperators.Group.List.Basic

/-!
# Finite tables with unique keys

A `Table` is Mathlib's association list specialised to one value type. It gives
hash maps an executable representation whose observable content is `get?`; the
order of its entries stands for an iteration order that no result relies on.
`total` adds a weight over all values, which is how byte and item budgets are
related to the entries they account for.
-/

namespace SprakCapture.Data

open List
open Function (comp_def)

/-- A finite map from `Key` to `Value` in which every key occurs at most once. -/
abbrev Table (Key Value : Type) := AList fun _ : Key => Value

variable {Result : Type}

namespace Table

variable {Key Value : Type} [DecidableEq Key]

/-- The value stored at a key. -/
def get? (table : Table Key Value) (key : Key) : Option Value := AList.lookup key table

/-- Store a value, replacing any previous value of the key. -/
def insert (table : Table Key Value) (key : Key) (value : Value) : Table Key Value :=
  AList.insert key value table

/-- Forget one key. -/
def erase (table : Table Key Value) (key : Key) : Table Key Value := AList.erase key table

/-- Whether a key has a value. -/
def contains (table : Table Key Value) (key : Key) : Bool := (table.get? key).isSome

/-- Update the value of a key that is present; an absent key stays absent. -/
def modify (table : Table Key Value) (key : Key) (update : Value → Value) : Table Key Value :=
  match table.get? key with
  | some value => table.insert key (update value)
  | none => table

variable (table : Table Key Value)

omit [DecidableEq Key] in
private theorem retain_nodupKeys (keep : Key → Value → Bool) :
    (table.entries.filter fun entry => keep entry.1 entry.2).NodupKeys :=
  List.Nodup.sublist (List.Sublist.map Sigma.fst filter_sublist) table.nodupKeys

/-- Keep exactly the entries that satisfy a predicate. -/
def retain (table : Table Key Value) (keep : Key → Value → Bool) : Table Key Value :=
  ⟨table.entries.filter fun entry => keep entry.1 entry.2, retain_nodupKeys table keep⟩

omit [DecidableEq Key] in
private theorem mapValues_nodupKeys (convert : Value → Result) :
    (table.entries.map fun entry =>
      (⟨entry.1, convert entry.2⟩ : Sigma fun _ : Key => Result)).NodupKeys := by
  have keys : (table.entries.map fun entry =>
      (⟨entry.1, convert entry.2⟩ : Sigma fun _ : Key => Result)).keys = table.entries.keys := by
    simp [List.keys, comp_def]
  rw [List.NodupKeys, keys]
  exact table.nodupKeys

/-- Convert every value in place. -/
def mapValues {Result : Type} (table : Table Key Value) (convert : Value → Result) :
    Table Key Result :=
  ⟨table.entries.map fun entry => ⟨entry.1, convert entry.2⟩, mapValues_nodupKeys table convert⟩

/-- The entries in iteration order. -/
def toList (table : Table Key Value) : List (Key × Value) :=
  table.entries.map fun entry => (entry.1, entry.2)

/-- The values in iteration order. -/
def values (table : Table Key Value) : List Value := table.entries.map fun entry => entry.2

/-- The number of entries. -/
def size (table : Table Key Value) : Nat := table.entries.length

/-- The sum of a weight over all values. -/
def total (table : Table Key Value) (weight : Value → Nat) : Nat :=
  (table.values.map weight).sum

variable (key : Key)

@[simp] theorem get?_empty : (∅ : Table Key Value).get? key = none :=
  AList.lookup_empty key

/-- Insertion changes exactly one observable key. -/
@[grind =] theorem get?_insert (key other : Key) (value : Value) :
    (table.insert key value).get? other = if other = key then some value else table.get? other := by
  unfold insert get?
  split
  · subst other
    exact AList.lookup_insert table
  simp_all

@[simp] theorem get?_insert_self (value : Value) :
    (table.insert key value).get? key = some value := by
  rw [get?_insert, if_pos rfl]

@[grind =] theorem get?_erase (key other : Key) :
    (table.erase key).get? other = if other = key then none else table.get? other := by
  unfold erase get?
  split
  · subst other
    exact AList.lookup_erase key table
  simp_all

@[simp] theorem get?_erase_self : (table.erase key).get? key = none := by
  rw [get?_erase, if_pos rfl]

@[grind =] theorem get?_modify (key other : Key) (update : Value → Value) :
    (table.modify key update).get? other =
      if other = key then (table.get? other).map update else table.get? other := by
  grind [modify]

variable {value : Value}

theorem mem_toList {table : Table Key Value} {key : Key} :
    (key, value) ∈ table.toList ↔ table.get? key = some value := by
  have entry : (key, value) ∈ table.toList ↔ (⟨key, value⟩ : Sigma fun _ : Key => Value) ∈
      table.entries := by
    constructor
    · intro member
      obtain ⟨⟨_, _⟩, present, equal⟩ := List.mem_map.mp member
      cases equal
      exact present
    · intro present
      exact List.mem_map.mpr ⟨_, present, rfl⟩
  rw [entry]
  exact AList.mem_lookup_iff.symm

theorem mem_values {table : Table Key Value} :
    value ∈ table.values ↔ ∃ key, table.get? key = some value := by
  constructor
  · intro member
    obtain ⟨⟨key, _⟩, present, equal⟩ := List.mem_map.mp member
    cases equal
    exact ⟨key, mem_toList.1 (List.mem_map.mpr ⟨_, present, rfl⟩)⟩
  · rintro ⟨key, found⟩
    obtain ⟨entry, present, equal⟩ := List.mem_map.mp (mem_toList.2 found)
    exact List.mem_map.mpr ⟨entry, present, congrArg Prod.snd equal⟩

theorem mem_keys {table : Table Key Value} {key : Key} :
    key ∈ table.keys ↔ ∃ value, table.get? key = some value := by
  rw [← AList.mem_keys, ← AList.lookup_isSome, Option.isSome_iff_exists]
  rfl

@[grind =] theorem get?_retain (keep : Key → Value → Bool) (key : Key) :
    (table.retain keep).get? key = (table.get? key).filter (keep key) := by
  apply Option.ext
  intro value
  have kept : (key, value) ∈ (table.retain keep).toList ↔
      (key, value) ∈ table.toList ∧ keep key value = true := by
    simp [toList, retain]
  rw [← mem_toList, kept, mem_toList]
  simp

@[grind =] theorem get?_mapValues (convert : Value → Result) (key : Key) :
    (table.mapValues convert).get? key = (table.get? key).map convert := by
  apply Option.ext
  intro result
  rw [← mem_toList]
  have listed : (key, result) ∈ (table.mapValues convert).toList ↔
      ∃ value, (key, value) ∈ table.toList ∧ convert value = result := by
    simp [toList, mapValues]
  rw [listed]
  simp [mem_toList]

/-- Lists drawn from the values have no repetition when each has none and an item
determines the key it was drawn from. -/
theorem nodup_flatMap_values {Item : Type} (items : Value → List Item)
    (each : ∀ {key value}, table.get? key = some value → (items value).Nodup)
    (apart : ∀ {key other value otherValue item}, table.get? key = some value →
      table.get? other = some otherValue → item ∈ items value → item ∈ items otherValue →
      key = other) :
    (table.values.flatMap items).Nodup := by
  have found : ∀ {entry}, entry ∈ table.entries → table.get? entry.1 = some entry.2 :=
    fun member => mem_toList.1 (List.mem_map.mpr ⟨_, member, rfl⟩)
  rw [values, flatMap_map, nodup_flatMap]
  refine ⟨fun entry member => each (found member), ?_⟩
  have keys := nodupKeys_iff_pairwise.mp table.nodupKeys
  refine keys.imp_of_mem ?_
  intro _ _ _ _ _ item _ _
  grind

@[simp] theorem contains_iff {table : Table Key Value} {key : Key} :
    table.contains key = true ↔ ∃ value, table.get? key = some value :=
  Option.isSome_iff_exists

@[simp] theorem contains_eq_false {table : Table Key Value} {key : Key} :
    table.contains key = false ↔ table.get? key = none := by
  simp [contains]

theorem size_eq_zero_iff {table : Table Key Value} :
    table.size = 0 ↔ ∀ key, table.get? key = none := by
  rw [size, length_eq_zero_iff]
  constructor
  · intro empty key
    have noEntry : table = ∅ := AList.ext empty
    rw [noEntry, get?_empty]
  · intro absent
    rw [eq_nil_iff_forall_not_mem]
    rintro ⟨key, value⟩ member
    have found : table.get? key = some value :=
      mem_toList.1 (List.mem_map.mpr ⟨_, member, rfl⟩)
    rw [absent] at found
    cases found

theorem eq_empty_of_get? {table : Table Key Value} (absent : ∀ key, table.get? key = none) :
    table = ∅ :=
  AList.ext (length_eq_zero_iff.mp (size_eq_zero_iff.2 absent))

omit [DecidableEq Key] in
@[simp] theorem total_empty (weight : Value → Nat) : (∅ : Table Key Value).total weight = 0 := rfl

/-- The entries of a table that holds a key are that entry and the rest. -/
private theorem entries_perm_erase {table : Table Key Value} {key : Key}
    (found : table.get? key = some value) :
    table.entries.Perm (⟨key, value⟩ :: (table.erase key).entries) := by
  have present : key ∈ table.entries.keys := by
    rw [← AList.keys, mem_keys]
    exact ⟨value, found⟩
  obtain ⟨stored, before, after, _, split, erased⟩ := exists_of_kerase present
  have storedEq : stored = value := by
    have holds : table.get? key = some stored := by
      rw [← mem_toList]
      exact List.mem_map.mpr ⟨⟨key, stored⟩, by rw [split]; simp, rfl⟩
    exact Option.some.inj (holds.symm.trans found)
  subst storedEq
  have erasedEq : (table.erase key).entries = before ++ after := erased
  rw [erasedEq, split]
  exact perm_middle

theorem values_perm_of_get? {table : Table Key Value} {key : Key}
    (found : table.get? key = some value) :
    table.values.Perm (value :: (table.erase key).values) := by
  simpa [values] using (entries_perm_erase found).map fun entry => entry.2

@[simp] theorem values_insert (value : Value) :
    (table.insert key value).values = value :: (table.erase key).values := rfl

theorem total_eq_of_get? {table : Table Key Value} {key : Key} (weight : Value → Nat)
    (found : table.get? key = some value) :
    table.total weight = weight value + (table.erase key).total weight := by
  have permuted := ((entries_perm_erase found).map fun entry => entry.2).map weight
  simpa [total, values] using permuted.sum_eq

theorem total_insert (value : Value) (weight : Value → Nat) :
    (table.insert key value).total weight = weight value + (table.erase key).total weight := by
  simp [total, values_insert]

/-- In a sum over the entries only one has a given key. -/
theorem sum_toList_of_key (weight : Value → Nat) :
    (table.toList.map fun entry => if entry.1 = key then weight entry.2 else 0).sum =
      ((table.get? key).map weight).getD 0 := by
  have absent : ∀ {others : Table Key Value}, others.get? key = none →
      (others.toList.map fun entry => if entry.1 = key then weight entry.2 else 0).sum = 0 := by
    intro others missing
    refine sum_eq_zero fun _ member => ?_
    obtain ⟨⟨other, value⟩, listed, rfl⟩ := List.mem_map.mp member
    have different : other ≠ key := by
      rintro rfl
      rw [mem_toList.1 listed] at missing
      cases missing
    exact if_neg different
  cases found : table.get? key with
  | none => exact absent found
  | some value =>
    have permuted := ((entries_perm_erase found).map fun entry => (entry.1, entry.2)).map
      fun entry => if entry.1 = key then weight entry.2 else 0
    have rest := absent (get?_erase_self table key)
    rw [toList] at rest ⊢
    rw [permuted.sum_eq, map_cons, map_cons, sum_cons, rest]
    simp

omit [DecidableEq Key] in
theorem nodup_keys_toList : (table.toList.map Prod.fst).Nodup := by
  have keys := table.nodupKeys
  simpa [toList, List.NodupKeys, List.keys, comp_def] using keys

theorem erase_of_get?_eq_none {table : Table Key Value} {key : Key}
    (absent : table.get? key = none) : table.erase key = table := by
  have notKey : key ∉ table.entries.keys := by
    intro listed
    obtain ⟨_, found⟩ := mem_keys.1 listed
    rw [absent] at found
    cases found
  exact AList.ext (kerase_of_notMem_keys notKey)

/-- A weight over a table is a sum over any distinct keys that cover it. -/
theorem total_eq_sum_of_keys {table : Table Key Value} {keys : List Key} (distinct : keys.Nodup)
    (covers : ∀ key value, table.get? key = some value → key ∈ keys) (weight : Value → Nat) :
    table.total weight = (keys.map fun key => ((table.get? key).map weight).getD 0).sum := by
  induction keys generalizing table with
  | nil =>
    have empty : table = ∅ := eq_empty_of_get? fun key => by
      cases found : table.get? key with
      | none => rfl
      | some value => exact absurd (covers key value found) not_mem_nil
    rw [empty]
    rfl
  | cons key keys ih =>
    obtain ⟨fresh, distinct⟩ := nodup_cons.mp distinct
    have rest := @ih _ distinct (by
      intro other value found
      rw [get?_erase] at found
      split at found
      · cases found
      · next different =>
          exact (mem_cons.mp (covers other value found)).resolve_left different)
    have same : (keys.map fun other => (((table.erase key).get? other).map weight).getD 0) =
        keys.map fun other => ((table.get? other).map weight).getD 0 := by
      refine map_congr_left fun other member => ?_
      have different : other ≠ key := by
        rintro rfl
        exact fresh member
      rw [get?_erase, if_neg different]
    rw [map_cons, sum_cons, ← same, ← rest]
    cases found : table.get? key with
    | none => rw [erase_of_get?_eq_none found]; simp
    | some value => rw [total_eq_of_get? weight found]; rfl

omit [DecidableEq Key] in
theorem size_eq_total : table.size = table.total fun _ => 1 := by
  simp [size, total, values, comp_def]

theorem size_insert (value : Value) :
    (table.insert key value).size = if table.contains key then table.size else table.size + 1 := by
  rw [size_eq_total, size_eq_total, total_insert]
  cases found : table.get? key with
  | none => simp [found, erase_of_get?_eq_none found, Nat.add_comm]
  | some => simp [found, total_eq_of_get? _ found]

theorem size_erase_le : (table.erase key).size ≤ table.size := by
  cases found : table.get? key with
  | none => rw [erase_of_get?_eq_none found]
  | some =>
    rw [size_eq_total, size_eq_total, total_eq_of_get? _ found]
    omega

theorem size_erase_lt {table : Table Key Value} {key : Key} (found : table.get? key = some value) :
    (table.erase key).size < table.size := by
  rw [size_eq_total, size_eq_total, total_eq_of_get? _ found]
  omega

theorem size_le_of_get? {first second : Table Key Value}
    (within : ∀ {key value}, first.get? key = some value → ∃ other, second.get? key = some other) :
    first.size ≤ second.size := by
  have subset : first.keys ⊆ second.keys := by
    intro key member
    obtain ⟨value, found⟩ := mem_keys.1 member
    exact mem_keys.2 (within found)
  have shorter := (subperm_of_subset first.nodupKeys subset).length_le
  simpa [AList.keys, List.keys, size] using shorter

omit [DecidableEq Key] in
theorem size_retain_le (keep : Key → Value → Bool) :
    (table.retain keep).size ≤ table.size := length_filter_le _ _

theorem erase_comm (first second : Key) :
    (table.erase first).erase second = (table.erase second).erase first :=
  AList.erase_erase first second table

theorem retain_eq_self {table : Table Key Value} {keep : Key → Value → Bool}
    (kept : ∀ key value, table.get? key = some value → keep key value = true) :
    table.retain keep = table := by
  apply AList.ext
  refine filter_eq_self.mpr fun entry member => kept entry.1 entry.2 ?_
  exact AList.mem_lookup_iff.mpr member

@[simp] theorem erase_insert_self (value : Value) :
    (table.insert key value).erase key = table.erase key :=
  AList.ext (kerase_cons_eq rfl)

omit [DecidableEq Key] in
@[simp] theorem values_mapValues (convert : Value → Result) :
    (table.mapValues convert).values = table.values.map convert := by
  simp [values, mapValues, comp_def]

omit [DecidableEq Key] in
@[simp] theorem size_mapValues (convert : Value → Result) :
    (table.mapValues convert).size = table.size := by
  simp [size, mapValues]

omit [DecidableEq Key] in
@[simp] theorem total_mapValues (convert : Value → Result) (weight : Result → Nat) :
    (table.mapValues convert).total weight = table.total fun value => weight (convert value) := by
  simp [total, values, mapValues, comp_def]

/-! ### Erasing several keys -/

theorem get?_foldl_erase (keys : List Key) (key : Key) :
    (keys.foldl erase table).get? key = if key ∈ keys then none else table.get? key := by
  induction keys generalizing table with
  | nil => simp
  | cons _ keys =>
    grind

/-- Erasing keys whose values all have one weight. -/
theorem total_foldl_erase {table : Table Key Value} {keys : List Key} {weight : Value → Nat}
    {share : Nat} (distinct : keys.Nodup)
    (held : ∀ key ∈ keys, ∃ value, table.get? key = some value ∧ weight value = share) :
    (keys.foldl erase table).total weight + keys.length * share = table.total weight := by
  induction keys generalizing table with
  | nil => simp
  | cons first keys ih =>
    obtain ⟨fresh, distinct⟩ := nodup_cons.mp distinct
    obtain ⟨value, found, weighs⟩ := held first mem_cons_self
    have rest : ∀ key ∈ keys, ∃ value, (table.erase first).get? key = some value ∧
        weight value = share := by
      intro key member
      grind
    rw [foldl_cons, total_eq_of_get? weight found, ← ih distinct rest, length_cons, Nat.add_mul]
    omega

/-! ### Dividing a table -/

private theorem sum_filter_add (values : List Value) (keep : Value → Bool) (weight : Value → Nat) :
    ((values.filter keep).map weight).sum +
      ((values.filter fun value => !keep value).map weight).sum = (values.map weight).sum := by
  induction values with
  | nil => rfl
  | cons value values =>
    grind

omit [DecidableEq Key] in
theorem total_retain_add (keep : Key → Value → Bool) (weight : Value → Nat) :
    (table.retain keep).total weight + (table.retain fun key value => !keep key value).total weight =
      table.total weight := by
  have divided := sum_filter_add table.entries (fun entry => keep entry.1 entry.2)
    fun entry => weight entry.2
  simpa [total, values, retain, comp_def] using divided

end Table

end SprakCapture.Data
