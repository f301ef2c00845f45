import Mathlib.Algebra.GroupWithZero.Nat
import Mathlib.Algebra.BigOperators.Group.List.Basic
import Mathlib.Data.List.Sort

/-!
# Ordered tables

A table whose entries are listed in ascending order of their keys. A table is
determined by its entries (`ext_mem`), which turns questions about the order of
insertions into questions about membership.
-/

namespace SprakCapture.Data

open List

/-- A finite map whose entries stand in strictly ascending order of their keys. -/
structure OrderedTable (Key Value : Type) [LinearOrder Key] where
  entries : List (Key × Value)
  ascending : entries.Pairwise fun left right => left.1 < right.1

namespace OrderedTable

variable {Key Value : Type} [LinearOrder Key]

instance : EmptyCollection (OrderedTable Key Value) := ⟨⟨[], .nil⟩⟩

@[simp] theorem entries_empty : (∅ : OrderedTable Key Value).entries = [] := rfl

/-- The value stored under a key, if there is one. -/
def get? (table : OrderedTable Key Value) (key : Key) : Option Value :=
  (table.entries.find? fun entry => entry.1 == key).map Prod.snd

private theorem insert_ascending (table : OrderedTable Key Value) (key : Key) (value : Value) :
    (table.entries.filter (fun entry => decide (entry.1 < key)) ++
      (key, value) :: table.entries.filter fun entry => decide (key < entry.1)).Pairwise
        fun left right => left.1 < right.1 := by
  rw [pairwise_append, pairwise_cons]
  refine ⟨table.ascending.filter _, ⟨?_, table.ascending.filter _⟩, ?_⟩
  · simp
  · intro left leftMember right rightMember
    have below : left.1 < key := by simpa using (mem_filter.mp leftMember).2
    rcases mem_cons.mp rightMember with rfl | _
    · exact below
    grind

/-- Store a value, replacing any previous value of the key. -/
def insert (table : OrderedTable Key Value) (key : Key) (value : Value) :
    OrderedTable Key Value where
  entries := table.entries.filter (fun entry => decide (entry.1 < key)) ++
    (key, value) :: table.entries.filter fun entry => decide (key < entry.1)
  ascending := insert_ascending table key value

/-- Forget one key. -/
def erase (table : OrderedTable Key Value) (key : Key) : OrderedTable Key Value where
  entries := table.entries.filter fun entry => entry.1 != key
  ascending := table.ascending.filter _

/-- The values in ascending order of their keys. -/
def values (table : OrderedTable Key Value) : List Value := table.entries.map Prod.snd

/-- The sum of a weight over all values. -/
def total (table : OrderedTable Key Value) (weight : Value → Nat) : Nat :=
  (table.values.map weight).sum

variable {table : OrderedTable Key Value}

/-- Two entries of one key are the same entry. -/
theorem entry_unique {left right : Key × Value} (leftMember : left ∈ table.entries)
    (rightMember : right ∈ table.entries) (sameKey : left.1 = right.1) : left = right := by
  have keys : (table.entries.map Prod.fst).Nodup :=
    (pairwise_map.mpr table.ascending).imp ne_of_lt
  exact inj_on_of_nodup_map keys leftMember rightMember sameKey

variable {key : Key} {value : Value}

theorem get?_eq_some : table.get? key = some value ↔ (key, value) ∈ table.entries := by
  unfold get?
  constructor
  · intro found
    obtain ⟨entry, located, rfl⟩ := Option.map_eq_some_iff.mp found
    have sameKey : entry.1 = key := by simpa using find?_some located
    have member := mem_of_find?_eq_some located
    rw [← sameKey]
    exact member
  · cases located : table.entries.find? fun entry => entry.1 == key with
    | none =>
      grind
    | some entry =>
      grind [entry_unique]

theorem get?_eq_none : table.get? key = none ↔ ∀ entry ∈ table.entries, entry.1 ≠ key := by
  unfold get?
  simp

variable {entry : Key × Value}

/-- Insertion adds one entry and drops an earlier one of the same key. -/
theorem mem_insert :
    entry ∈ (table.insert key value).entries ↔
      entry = (key, value) ∨ entry ∈ table.entries ∧ entry.1 ≠ key := by
  simp only [insert, mem_append, mem_cons, mem_filter, decide_eq_true_eq]
  constructor
  · grind
  · rintro (rfl | ⟨member, different⟩)
    · exact .inr (.inl rfl)
    · rcases lt_or_gt_of_ne different with below | above
      · exact .inl ⟨member, below⟩
      · exact .inr (.inr ⟨member, above⟩)

theorem mem_erase : entry ∈ (table.erase key).entries ↔ entry ∈ table.entries ∧ entry.1 ≠ key := by
  simp [erase]

variable {left right : OrderedTable Key Value}
  (same : ∀ entry, entry ∈ left.entries ↔ entry ∈ right.entries)
include same

theorem ext_mem : left.entries = right.entries := by
  have nodup : ∀ table : OrderedTable Key Value, table.entries.Nodup := fun table =>
    table.ascending.imp fun less equal => less.ne (congrArg Prod.fst equal)
  refine List.Perm.eq_of_pairwise ?_ left.ascending right.ascending
    ((perm_ext_iff_of_nodup (nodup left) (nodup right)).mpr same)
  grind

theorem eq_of_mem : left = right := by
  have entries := ext_mem same
  cases right
  cases entries
  rfl

omit same

theorem insert_self (found : table.get? key = some value) : table.insert key value = table := by
  have stored := get?_eq_some.mp found
  refine eq_of_mem fun _ => ?_
  grind [mem_insert, entry_unique]

theorem erase_insert_self (table : OrderedTable Key Value) (key : Key) (value : Value) :
    (table.insert key value).erase key = table.erase key := by
  refine eq_of_mem fun _ => ?_
  grind [mem_erase, mem_insert]

theorem erase_insert_of_ne (table : OrderedTable Key Value) {key other : Key} (value : Value)
    (different : key ≠ other) :
    (table.insert key value).erase other = (table.erase other).insert key value := by
  refine eq_of_mem fun _ => ?_
  grind [mem_erase, mem_insert]

theorem get?_insert (table : OrderedTable Key Value) (key other : Key) (value : Value) :
    (table.insert key value).get? other = if other = key then some value else table.get? other := by
  split
  · rename_i same
    rw [get?_eq_some, mem_insert, same]
    exact .inl rfl
  · ext found
    rw [get?_eq_some, mem_insert, get?_eq_some]
    simp_all

theorem get?_erase (table : OrderedTable Key Value) (key other : Key) :
    (table.erase key).get? other = if other = key then none else table.get? other := by
  split
  · rename_i same
    rw [get?_eq_none]
    intro _ member equal
    exact (mem_erase.mp member).2 (equal.trans same)
  · rename_i different
    ext found
    rw [get?_eq_some, mem_erase, get?_eq_some]
    exact and_iff_left different

theorem entries_insert_above (above : ∀ entry ∈ table.entries, entry.1 < key) (value : Value) :
    (table.insert key value).entries = table.entries ++ [(key, value)] := by
  have below : table.entries.filter (fun entry => decide (entry.1 < key)) = table.entries :=
    filter_eq_self.mpr fun entry member => decide_eq_true (above entry member)
  have none : table.entries.filter (fun entry => decide (key < entry.1)) = [] :=
    filter_eq_nil_iff.mpr fun entry member less =>
      (above entry member).asymm (of_decide_eq_true less)
  simp [insert, below, none]

theorem entries_insert_last {front : List (Key × Value)} {old : Value}
    (entries : table.entries = front ++ [(key, old)]) (value : Value) :
    (table.insert key value).entries = front ++ [(key, value)] := by
  have ascending := table.ascending
  rw [entries, pairwise_append] at ascending
  have above : ∀ entry ∈ front, entry.1 < key := fun entry member =>
    ascending.2.2 entry member (key, old) mem_cons_self
  have below : front.filter (fun entry => decide (entry.1 < key)) = front :=
    filter_eq_self.mpr fun entry member => decide_eq_true (above entry member)
  have none : front.filter (fun entry => decide (key < entry.1)) = [] :=
    filter_eq_nil_iff.mpr fun entry member less =>
      (above entry member).asymm (of_decide_eq_true less)
  simp [insert, entries, below, none]

theorem entries_erase_first {first : Key × Value} {rest : List (Key × Value)}
    (entries : table.entries = first :: rest) : (table.erase first.1).entries = rest := by
  have ascending := table.ascending
  rw [entries, pairwise_cons] at ascending
  have kept : rest.filter (fun entry => entry.1 != first.1) = rest :=
    filter_eq_self.mpr fun entry member => by
      simpa using (ascending.1 entry member).ne'
  simp [erase, entries, kept]

@[simp] theorem total_empty (weight : Value → Nat) :
    (∅ : OrderedTable Key Value).total weight = 0 := rfl

theorem total_insert (fresh : table.get? key = none) (value : Value) (weight : Value → Nat) :
    (table.insert key value).total weight = weight value + table.total weight := by
  have split : (table.insert key value).entries.Perm ((key, value) :: table.entries) := by
    have nodup : (table.insert key value).entries.Nodup :=
      (table.insert key value).ascending.imp fun less equal => less.ne (congrArg Prod.fst equal)
    have absent := get?_eq_none.mp fresh
    have consNodup : ((key, value) :: table.entries).Nodup := by
      refine nodup_cons.mpr ⟨fun member => absent _ member rfl, ?_⟩
      exact table.ascending.imp fun less equal => less.ne (congrArg Prod.fst equal)
    refine (perm_ext_iff_of_nodup nodup consNodup).mpr fun _ => ?_
    rw [mem_insert]
    grind
  have summed := ((split.map Prod.snd).map weight).sum_eq
  simpa [total, values] using summed

end OrderedTable

end SprakCapture.Data
