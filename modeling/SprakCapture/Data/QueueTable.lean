import SprakCapture.Data.Table

/-!
# Tables of queues

Items wait in queues that are found by a key and an index, in a table of rows of queues. A
queue that becomes empty is taken out of its row. What an operation does is told by the
queues it leaves (`queue`), by the number of items of a kind in all queues (`count`) and by
the number of items in a row (`rowCount`).
-/

namespace SprakCapture.Data

open List Option Table

/-- Rows of queues. -/
abbrev QueueTable (Key Index Item : Type) := Table Key (Table Index (List Item))

namespace QueueTable

variable {Key Index Item : Type} [DecidableEq Key] [DecidableEq Index]

/-- The row of a key. A key without a row has an empty one. -/
def row (queues : QueueTable Key Index Item) (key : Key) : Table Index (List Item) :=
  (queues.get? key).getD ∅

/-- A queue. There is an empty one where none is stored. -/
def queue (queues : QueueTable Key Index Item) (key : Key) (index : Index) : List Item :=
  ((queues.row key).get? index).getD []

omit [DecidableEq Key] [DecidableEq Index] in
/-- The number of items with a property in all queues. -/
def count (queues : QueueTable Key Index Item) (property : Item → Bool) : Nat :=
  queues.total fun row => row.total fun queue => queue.countP property

/-- The number of items in a row. -/
def rowCount (queues : QueueTable Key Index Item) (key : Key) : Nat :=
  (queues.row key).total List.length

/-- Store a queue, or take it out if it is empty. -/
def store (row : Table Index (List Item)) (index : Index) (queue : List Item) :
    Table Index (List Item) :=
  if queue.isEmpty then row.erase index else row.insert index queue

/-- Replace a queue in its row. -/
def withQueue (queues : QueueTable Key Index Item) (key : Key) (index : Index)
    (queue : List Item) : QueueTable Key Index Item :=
  queues.insert key (store (queues.row key) index queue)

/-- Put an item behind the others of its queue. -/
def push (queues : QueueTable Key Index Item) (key : Key) (index : Index) (item : Item) :
    QueueTable Key Index Item :=
  queues.withQueue key index (queues.queue key index ++ [item])

/-- Take the last item out of a queue. -/
def pop (queues : QueueTable Key Index Item) (key : Key) (index : Index) :
    QueueTable Key Index Item :=
  queues.withQueue key index (queues.queue key index).dropLast

/-- Take the first item with a property out of a queue. -/
def removeFirst (queues : QueueTable Key Index Item) (key : Key) (index : Index)
    (property : Item → Bool) : QueueTable Key Index Item :=
  queues.withQueue key index ((queues.queue key index).eraseP property)

/-- Keep the items with a property, and the queues that have one. -/
def keep (queues : QueueTable Key Index Item) (property : Item → Bool) :
    QueueTable Key Index Item :=
  queues.mapValues fun row =>
    (row.mapValues fun queue => queue.filter property).retain fun _ queue => !queue.isEmpty

/-- The items without a property. -/
def discarded (queues : QueueTable Key Index Item) (property : Item → Bool) : List Item :=
  queues.values.flatMap fun row =>
    row.values.flatMap fun queue => queue.filter fun item => !property item

/-! ### Queues -/

variable {queues : QueueTable Key Index Item} {key other : Key} {index place : Index}

@[simp] theorem queue_empty (key : Key) (index : Index) :
    (∅ : QueueTable Key Index Item).queue key index = [] := by
  simp [queue, row]

variable (row : Table Index (List Item))

theorem get?_store (index place : Index) (queue : List Item) :
    ((store row index queue).get? place).getD [] =
      if place = index then queue else (row.get? place).getD [] := by
  grind [store]

omit [DecidableEq Index] in
@[simp] theorem row_insert :
    QueueTable.row (queues.insert key row) other =
      if other = key then row else queues.row other := by
  grind [QueueTable.row]

theorem queue_withQueue (queue : List Item) :
    (queues.withQueue key index queue).queue other place =
      if other = key ∧ place = index then queue else queues.queue other place := by
  unfold withQueue QueueTable.queue
  rw [row_insert]
  by_cases same : other = key
  · rw [if_pos same, get?_store, same]
    simp
  · rw [if_neg same, if_neg fun both => same both.1]

theorem queue_push (item : Item) :
    (queues.push key index item).queue other place =
      if other = key ∧ place = index then queues.queue key index ++ [item]
      else queues.queue other place :=
  queue_withQueue _

@[simp] theorem queue_push_self (item : Item) :
    (queues.push key index item).queue key index = queues.queue key index ++ [item] := by
  rw [queue_push, if_pos ⟨rfl, rfl⟩]

/-- An item of a queue after a push was there before or is the new one. -/
theorem mem_queue_push {item pushed : Item} :
    item ∈ (queues.push key index pushed).queue other place ↔
      item ∈ queues.queue other place ∨ item = pushed ∧ other = key ∧ place = index := by
  rw [queue_push]
  split
  · rename_i same
    obtain ⟨rfl, rfl⟩ := same
    simp
  · rename_i different
    simp [different]

/-- Taking back a push leaves every queue as it was. -/
@[simp] theorem queue_pop_push (item : Item) :
    ((queues.push key index item).pop key index).queue other place = queues.queue other place := by
  unfold pop
  rw [queue_withQueue]
  split
  · rename_i same
    obtain ⟨rfl, rfl⟩ := same
    rw [queue_push_self, dropLast_concat]
  grind [queue_push]

theorem queue_removeFirst (property : Item → Bool) :
    (queues.removeFirst key index property).queue other place =
      if other = key ∧ place = index then (queues.queue key index).eraseP property
      else queues.queue other place :=
  queue_withQueue _

variable {property : Item → Bool} {item : Item}

theorem mem_queue_removeFirst
    (member : item ∈ (queues.removeFirst key index property).queue other place) :
    item ∈ queues.queue other place := by
  rw [queue_removeFirst] at member
  split at member
  · rename_i same
    obtain ⟨rfl, rfl⟩ := same
    exact mem_of_mem_eraseP member
  · exact member

@[simp] theorem queue_keep (property : Item → Bool) :
    (queues.keep property).queue key index = (queues.queue key index).filter property := by
  unfold keep QueueTable.queue row
  rw [get?_mapValues]
  cases queues.get? key with
  | none => simp
  | some row =>
    simp only [map_some, getD_some, get?_retain, get?_mapValues]
    cases row.get? index with
    | none => rfl
    | some queue =>
      grind

theorem mem_discarded :
    item ∈ queues.discarded property ↔
      (∃ key index, item ∈ queues.queue key index) ∧ property item = false := by
  have listed : item ∈ queues.discarded property ↔ (∃ key row, queues.get? key = some row ∧
      ∃ index queue, row.get? index = some queue ∧ item ∈ queue) ∧ property item = false := by
    simp only [discarded, mem_flatMap, mem_values]
    grind
  rw [listed]
  refine and_congr_left fun _ => ⟨?_, ?_⟩
  · rintro ⟨key, row, found, index, queue, stored, member⟩
    exact ⟨key, index, by simpa [QueueTable.queue, QueueTable.row, found, stored] using member⟩
  rintro ⟨key, index, member⟩
  unfold QueueTable.queue row at member
  cases found : queues.get? key with
  | none => simp [found] at member
  | some row =>
    rw [found] at member
    cases stored : row.get? index with
    | none => simp [stored] at member
    | some queue =>
      grind

/-! ### Numbers of items -/

omit [DecidableEq Key] [DecidableEq Index] in
@[simp] theorem count_empty (property : Item → Bool) :
    (∅ : QueueTable Key Index Item).count property = 0 := rfl

theorem total_store (index : Index) (queue : List Item) {weight : List Item → Nat}
    (nothing : weight [] = 0) :
    (store row index queue).total weight + weight ((row.get? index).getD []) =
      row.total weight + weight queue := by
  have before : row.total weight =
      weight ((row.get? index).getD []) + (row.erase index).total weight := by
    cases found : row.get? index with
    | none => rw [erase_of_get?_eq_none found, getD_none, nothing, Nat.zero_add]
    | some queue => exact total_eq_of_get? weight found
  unfold store
  split
  · grind
  · rw [Table.total_insert]
    omega

theorem count_withQueue (queue : List Item) (property : Item → Bool) :
    (queues.withQueue key index queue).count property + (queues.queue key index).countP property =
      queues.count property + queue.countP property := by
  have rows : (store (queues.row key) index queue).total (fun queue => queue.countP property) +
      (((queues.row key).get? index).getD []).countP property =
        (queues.row key).total (fun queue => queue.countP property) + queue.countP property :=
    total_store (queues.row key) index queue rfl
  have before : queues.count property =
      (queues.row key).total (fun queue => queue.countP property) +
        QueueTable.count (queues.erase key) property := by
    unfold row count
    cases found : queues.get? key with
    | none =>
      rw [erase_of_get?_eq_none found, getD_none, Table.total_empty, Nat.zero_add]
    | some row => exact total_eq_of_get? _ found
  have after : (queues.withQueue key index queue).count property =
      (store (queues.row key) index queue).total (fun queue => queue.countP property) +
        QueueTable.count (queues.erase key) property :=
    Table.total_insert queues key _ _
  unfold QueueTable.queue
  omega

@[simp] theorem count_push (item : Item) (property : Item → Bool) :
    (queues.push key index item).count property =
      queues.count property + if property item then 1 else 0 := by
  have counted := @count_withQueue _ _ _ _ _ queues key index
    (queues.queue key index ++ [item]) property
  grind [push]

@[simp] theorem count_pop_push (item : Item) (property : Item → Bool) :
    ((queues.push key index item).pop key index).count property = queues.count property := by
  have counted := @count_withQueue _ _ _ _ _ (queues.push key index item) key index
    ((queues.push key index item).queue key index).dropLast property
  grind [pop, count_push, queue_push_self]

/-- An item that is taken out was counted once. -/
theorem count_removeFirst {search : Item → Bool}
    (found : (queues.queue key index).find? search = some item) (property : Item → Bool) :
    (queues.removeFirst key index search).count property + (if property item then 1 else 0) =
      queues.count property := by
  have counted := @count_withQueue _ _ _ _ _ queues key index
    ((queues.queue key index).eraseP search) property
  have taken : (queues.queue key index).countP property =
      ((queues.queue key index).eraseP search).countP property +
        if property item then 1 else 0 := by
    obtain ⟨_, _, _, _, _⟩ := find?_eq_some_iff_append.mp found
    grind
  unfold removeFirst
  omega

theorem sum_eq_zero_of_all {weights : List Nat} (nothing : ∀ weight ∈ weights, weight = 0) :
    weights.sum = 0 := by
  induction weights with
  | nil => rfl
  | cons weight weights =>
    simp_all

omit [DecidableEq Key] [DecidableEq Index] in
/-- The items that are kept and those that are discarded are all items. -/
theorem count_keep_add (search property : Item → Bool) :
    (queues.keep search).count property + (queues.discarded search).countP property =
      queues.count property := by
  have oneQueue : ∀ queue : List Item, (queue.filter search).countP property +
      (queue.filter fun item => !search item).countP property = queue.countP property := by
    intro queue
    induction queue with
    | nil => rfl
    | cons item queue => cases kept : search item <;> simp [kept, countP_cons] <;> omega
  have oneRow : ∀ row : Table Index (List Item),
      ((row.mapValues fun queue => queue.filter search).retain fun _ queue =>
          !queue.isEmpty).total (fun queue => queue.countP property) +
        (row.values.flatMap fun queue => queue.filter fun item => !search item).countP property =
      row.total fun queue => queue.countP property := by
    intro row
    have divided := (row.mapValues fun queue => queue.filter search).total_retain_add
      (fun _ queue => !queue.isEmpty) (fun queue => queue.countP property)
    have nothing : ((row.mapValues fun queue => queue.filter search).retain fun _ queue =>
        !!queue.isEmpty).total (fun queue => queue.countP property) = 0 := by
      refine sum_eq_zero_of_all fun _ member => ?_
      obtain ⟨queue, isValue, rfl⟩ := List.mem_map.mp member
      have empty : queue.isEmpty = true := by
        simp only [Table.values, Table.retain, List.mem_map, mem_filter] at isValue
        obtain ⟨_, ⟨-, empty⟩, rfl⟩ := isValue
        simpa using empty
      rw [List.isEmpty_iff.mp empty]
      rfl
    rw [nothing, Nat.add_zero] at divided
    rw [divided, total_mapValues, countP_flatMap]
    unfold Table.total
    rw [← sum_map_add]
    simp_all
  unfold count keep discarded
  rw [total_mapValues, countP_flatMap]
  unfold Table.total at oneRow ⊢
  rw [← sum_map_add]
  simp_all

theorem rowCount_withQueue (queue : List Item) :
    (queues.withQueue key index queue).rowCount other +
        (if other = key then (queues.queue key index).length else 0) =
      queues.rowCount other + if other = key then queue.length else 0 := by
  unfold rowCount withQueue
  rw [row_insert]
  by_cases same : other = key
  · subst same
    simp only
    exact total_store _ index queue rfl
  · simp [same]

theorem rowCount_push_le (item : Item) :
    (queues.push key index item).rowCount other ≤
      queues.rowCount other + if other = key then 1 else 0 := by
  have counted := @rowCount_withQueue _ _ _ _ _ queues key other index
    (queues.queue key index ++ [item])
  grind [push]

theorem rowCount_pop_push (item : Item) :
    ((queues.push key index item).pop key index).rowCount other = queues.rowCount other := by
  have pushed := @rowCount_withQueue _ _ _ _ _ queues key other index
    (queues.queue key index ++ [item])
  have popped := @rowCount_withQueue _ _ _ _ _ (queues.push key index item) key other index
    (queues.queue key index)
  rw [queue_push_self] at popped
  rw [pop, queue_push_self, dropLast_concat]
  change (queues.push key index item).rowCount other + _ = _ at pushed
  omega

theorem rowCount_removeFirst_le (property : Item → Bool) :
    (queues.removeFirst key index property).rowCount other ≤ queues.rowCount other := by
  have counted := @rowCount_withQueue _ _ _ _ _ queues key other index
    ((queues.queue key index).eraseP property)
  have shorter := (eraseP_sublist (p := property) (l := queues.queue key index)).length_le
  unfold removeFirst
  split at counted <;> omega

omit [DecidableEq Key] in
theorem total_le_total (table : Table Key Item) {less more : Item → Nat}
    (within : ∀ item, less item ≤ more item) : table.total less ≤ table.total more := by
  unfold Table.total
  induction table.values with
  | nil => exact Nat.le_refl _
  | cons item =>
    have first := within item
    grind

omit [DecidableEq Index] in
theorem rowCount_keep_le (property : Item → Bool) :
    (queues.keep property).rowCount key ≤ queues.rowCount key := by
  unfold rowCount row keep
  rw [get?_mapValues]
  cases queues.get? key with
  | none => exact Nat.le_refl _
  | some row =>
    have divided := (row.mapValues fun queue => queue.filter property).total_retain_add
      (fun _ queue => !queue.isEmpty) List.length
    rw [total_mapValues] at divided
    have fewer := total_le_total row fun queue : List Item => queue.length_filter_le property
    grind

omit [DecidableEq Key] in
theorem queue_of_row_empty [DecidableEq Key] (empty : (queues.row key).size = 0) (index : Index) :
    queues.queue key index = [] := by
  unfold QueueTable.queue
  rw [size_eq_zero_iff.mp empty index]
  rfl

theorem count_pos_of_mem (member : item ∈ queues.queue key index) (has : property item = true) :
    0 < queues.count property := by
  unfold QueueTable.queue row at member
  cases found : queues.get? key with
  | none => simp [found] at member
  | some row =>
    rw [found, getD_some] at member
    cases stored : row.get? index with
    | none => simp [stored] at member
    | some queue =>
      rw [stored] at member
      have counted : 0 < queue.countP property := countP_pos_iff.mpr ⟨item, member, has⟩
      unfold count
      rw [total_eq_of_get? _ found, total_eq_of_get? _ stored]
      omega

end QueueTable

end SprakCapture.Data
