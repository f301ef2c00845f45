import SprakCapture.Data.Table

/-!
# A bounded memory of keys

A set of keys that forgets the oldest one when it is full, with the order in which they came. A
key that is remembered already keeps its place. Along a history of keys, the latest first, the
memory is the beginning of the history.
-/

namespace SprakCapture.Data

open List

/-- The keys with the order in which they came, the oldest first. -/
structure RecentKeys (Key : Type) where
  keys : Table Key Unit
  order : List Key

namespace RecentKeys

variable {Key : Type} [DecidableEq Key]

def empty : RecentKeys Key where
  keys := ∅
  order := []

/-- Forget the oldest keys that are over the limit. -/
def trim (limit : Nat) : List Key → Table Key Unit → RecentKeys Key
  | [], keys => { keys, order := [] }
  | oldest :: order, keys =>
    if limit < (oldest :: order).length then trim limit order (keys.erase oldest)
    else { keys, order := oldest :: order }

def contains (recent : RecentKeys Key) (key : Key) : Bool := recent.keys.contains key

def remember (recent : RecentKeys Key) (limit : Nat) (key : Key) : RecentKeys Key :=
  if recent.contains key then recent
  else trim limit (recent.order ++ [key]) (recent.keys.insert key ())

/-- The history after a key comes to a memory. -/
def recorded (limit : Nat) (history : List Key) (key : Key) : List Key :=
  if key ∈ history.take limit then history else key :: history

/-- The memory is the beginning of a history. -/
structure Recalls (limit : Nat) (recent : RecentKeys Key) (history : List Key) : Prop where
  order : recent.order = (history.take limit).reverse
  nodup : (history.take limit).Nodup
  contains : ∀ key, recent.contains key = true ↔ key ∈ history.take limit

variable {limit : Nat} {recent : RecentKeys Key} {history : List Key}

theorem recalls_empty : Recalls limit (empty : RecentKeys Key) [] where
  order := by simp [empty]
  nodup := by simp
  contains := by simp [empty, RecentKeys.contains]

theorem trim_of_le {order : List Key} {keys : Table Key Unit} (fits : order.length ≤ limit) :
    trim limit order keys = { keys, order } := by
  cases order with
  | nil => rfl
  | cons _ order => exact if_neg (Nat.not_lt.mpr fits)

section

variable (recalls : Recalls limit recent history)
include recalls

theorem Recalls.remember (positive : 0 < limit) (key : Key) :
    Recalls limit (recent.remember limit key) (recorded limit history key) := by
  unfold RecentKeys.remember recorded
  by_cases known : key ∈ history.take limit
  · rw [if_pos ((recalls.contains key).mpr known), if_pos known]
    exact recalls
  rw [if_neg (mt (recalls.contains key).mp known), if_neg known, recalls.order]
  obtain ⟨before, rfl⟩ : ∃ before, limit = before + 1 := ⟨limit - 1, by omega⟩
  have inserted : ∀ other, (recent.keys.insert key ()).contains other = true ↔
      other = key ∨ other ∈ history.take (before + 1) := by
    intro other
    rw [← recalls.contains other]
    grind [RecentKeys.contains, Table.contains]
  have nodup : (history.take before).Nodup :=
    recalls.nodup.sublist (take_sublist_take_left (Nat.le_succ before))
  by_cases full : before < history.length
  · have split : history.take (before + 1) = history.take before ++ [history[before]] :=
      take_succ_eq_append_getElem full
    have distinct := recalls.nodup
    rw [split, nodup_append] at distinct
    have last : history[before] ∉ history.take before := fun member =>
      distinct.2.2 _ member _ (mem_singleton_self _) rfl
    have kept : (key :: (history.take before)).reverse.length ≤ before + 1 := by
      grind
    rw [split, reverse_append, reverse_singleton, singleton_append,
      cons_append, ← reverse_cons, trim, if_pos, trim_of_le kept]
    · refine ⟨by rw [take_succ_cons], ?_, fun other => ?_⟩
      · grind
      · have erased : ((recent.keys.insert key ()).erase history[before]).contains other = true ↔
            other ≠ history[before] ∧ (recent.keys.insert key ()).contains other = true := by
          grind [Table.contains]
        rw [RecentKeys.contains, erased, inserted, split, take_succ_cons, mem_cons,
          mem_append, mem_singleton]
        constructor
        · rintro ⟨different, isKey | member | isLast⟩
          · exact .inl isKey
          · exact .inr member
          · exact absurd isLast different
        · rintro (rfl | member)
          · refine ⟨fun same => known ?_, .inl rfl⟩
            rw [split, same]
            exact mem_append_right _ (mem_singleton_self _)
          · exact ⟨fun same => last (same ▸ member), .inr (.inl member)⟩
    grind
  · have whole : history.take (before + 1) = history :=
      take_of_length_le (by omega)
    have wholeBefore : history.take before = history := take_of_length_le (by omega)
    have fits : (history.reverse ++ [key]).length ≤ before + 1 := by
      simp_all
    rw [whole, trim_of_le fits]
    refine ⟨by rw [take_succ_cons, wholeBefore, reverse_cons], ?_, fun other => ?_⟩
    · grind
    grind [RecentKeys.contains]

theorem Recalls.order_length_le :
    recent.order.length ≤ limit := by
  rw [recalls.order, length_reverse]
  exact length_take_le _ _

/-- The memory holds no more keys than the limit. -/
theorem Recalls.size_le : recent.keys.size ≤ limit := by
  have subset : recent.keys.toList.map Prod.fst ⊆ history.take limit := by
    intro _ member
    obtain ⟨entry, isEntry, rfl⟩ := List.mem_map.mp member
    exact (recalls.contains entry.1).mp
      (Table.contains_iff.mpr ⟨entry.2, Table.mem_toList.mp isEntry⟩)
  have shorter := (subperm_of_subset (Table.nodup_keys_toList recent.keys) subset).length_le
  have size : (recent.keys.toList.map Prod.fst).length = recent.keys.size := by
    simp [Table.toList, Table.size]
  grind

end

end RecentKeys

end SprakCapture.Data
