import Mathlib.Algebra.GroupWithZero.Nat
import Mathlib.Algebra.Order.BigOperators.Group.List
import Mathlib.Algebra.Order.Group.Nat
import Mathlib.Data.List.Perm.Subperm

/-!
# Cutting a sequence into consecutive pieces

A sequence that is cut into pieces is known by the pieces and where each of them
starts. Cuts follow each other without overlap, so a set of cuts is complete as soon
as its pieces are as long as the sequence (`mem_of_length_le`). Another sequence can be
cut at the same places (`recut`); it keeps the cuts that it reaches.
-/

namespace SprakCapture.Data

open List

/-- A piece of a sequence, where it starts and whether pieces follow. -/
structure Cut (Item : Type) where
  offset : Nat
  content : List Item
  more : Bool
deriving DecidableEq

variable {Item : Type}

/-- Where a cut ends. -/
def Cut.stop (cut : Cut Item) : Nat := cut.offset + cut.content.length

/-- A cut by its place and its content. -/
def Cut.piece (cut : Cut Item) : Nat × List Item := (cut.offset, cut.content)

/-- The cuts of a sequence that starts at an offset. -/
def cuts (offset : Nat) : List (List Item) → List (Cut Item)
  | [] => []
  | piece :: rest =>
    { offset, content := piece, more := !rest.isEmpty } :: cuts (offset + piece.length) rest

variable {offset : Nat} {pieces : List (List Item)} {cut other : Cut Item}

open Cut

theorem mem_cuts_cons {piece : List Item} :
    cut ∈ cuts offset (piece :: pieces) ↔ cut = ⟨offset, piece, !pieces.isEmpty⟩ ∨
      cut ∈ cuts (offset + piece.length) pieces := mem_cons

@[simp] theorem map_content_cuts (offset : Nat) (pieces : List (List Item)) :
    (cuts offset pieces).map content = pieces := by
  induction pieces generalizing offset with
  | nil => rfl
  | cons _ _ ih => simp [cuts, ih]

section

variable (member : cut ∈ cuts offset pieces)
include member

theorem content_mem : cut.content ∈ pieces := by
  grind [map_content_cuts]

/-- A cut lies within the sequence. -/
theorem bounds_of_mem : offset ≤ cut.offset ∧ cut.stop ≤ offset + pieces.flatten.length := by
  induction pieces generalizing offset with
  | nil => cases member
  | cons _ _ ih =>
    rw [mem_cuts_cons] at member
    rw [flatten_cons, length_append]
    rcases member with rfl | member
    · simp only [stop]
      omega
    · have inside := ih member
      omega

/-- A cut stands in the sequence where its offset says. -/
theorem flatten_split :
    ∃ front back, pieces.flatten = front ++ (cut.content ++ back) ∧
      offset + front.length = cut.offset := by
  induction pieces generalizing offset with
  | nil => cases member
  | cons _ rest _ =>
    rw [mem_cuts_cons] at member
    rcases member with rfl | member
    · exact ⟨[], rest.flatten, by simp, by simp⟩
    · grind

theorem stop_of_last (last : cut.more = false) : cut.stop = offset + pieces.flatten.length := by
  induction pieces generalizing offset with
  | nil => cases member
  | cons _ rest ih =>
    rw [mem_cuts_cons] at member
    rw [flatten_cons, length_append]
    rcases member with rfl | member
    · have ended : rest = [] := by simpa using last
      simp [stop, ended]
    · rw [ih member, Nat.add_assoc]

omit member in
theorem exists_last (nonempty : pieces ≠ []) : ∃ cut ∈ cuts offset pieces, cut.more = false := by
  induction pieces generalizing offset with
  | nil => exact absurd rfl nonempty
  | cons piece rest ih =>
    by_cases ended : rest = []
    · exact ⟨_, mem_cons_self, by simp [ended]⟩
    · obtain ⟨cut, member, last⟩ := @ih (offset + piece.length) ended
      exact ⟨cut, mem_cons_of_mem _ member, last⟩

omit member in
theorem exists_first (nonempty : pieces ≠ []) : ∃ cut ∈ cuts offset pieces, cut.offset = offset := by
  cases pieces with
  | nil => exact absurd rfl nonempty
  | cons => exact ⟨_, mem_cons_self, rfl⟩

theorem exists_next (inside : cut.stop < offset + pieces.flatten.length) :
    ∃ next ∈ cuts offset pieces, next.offset = cut.stop := by
  induction pieces generalizing offset with
  | nil => cases member
  | cons piece rest ih =>
    rw [flatten_cons, length_append] at inside
    rw [mem_cuts_cons] at member
    rcases member with rfl | member
    · have remaining : rest ≠ [] := by
        rintro rfl
        simp [stop] at inside
      obtain ⟨next, nextMember, place⟩ := exists_first remaining
      exact ⟨next, mem_cons_of_mem _ nextMember, place⟩
    · obtain ⟨next, nextMember, place⟩ := ih member (by omega)
      exact ⟨next, mem_cons_of_mem _ nextMember, place⟩

theorem two_le_length_of_more (more : cut.more = true) : 2 ≤ pieces.length := by
  induction pieces generalizing offset with
  | nil => cases member
  | cons _ rest ih =>
    rw [mem_cuts_cons] at member
    rw [length_cons]
    rcases member with rfl | member
    · have remaining : rest ≠ [] := by simpa using more
      have positive := length_pos_iff.mpr remaining
      omega
    · have found := ih member
      omega

omit member in
/-- A cut that starts and ends the sequence is all of it. -/
theorem eq_singleton_of_first_of_last (nonempty : ∀ piece ∈ pieces, piece ≠ [])
    (member : cut ∈ cuts offset pieces) (first : cut.offset = offset) (last : cut.more = false) :
    pieces = [cut.content] := by
  cases pieces with
  | nil => cases member
  | cons piece rest =>
    rw [mem_cuts_cons] at member
    rcases member with rfl | member
    · have ended : rest = [] := by simpa using last
      rw [ended]
    · have inside := (bounds_of_mem member).1
      have positive := length_pos_iff.mpr (nonempty piece mem_cons_self)
      omega

omit member in
theorem pairwise_cuts (offset : Nat) (pieces : List (List Item)) :
    (cuts offset pieces).Pairwise fun left right => left.stop ≤ right.offset := by
  induction pieces generalizing offset with
  | nil => exact .nil
  | cons _ _ ih =>
    refine .cons ?_ (ih _)
    intro _ member
    exact (bounds_of_mem member).1

theorem eq_of_overlap (otherMember : other ∈ cuts offset pieces)
    (overlap : cut.offset < other.stop ∧ other.offset < cut.stop) : cut = other := by
  induction pieces generalizing offset with
  | nil => cases member
  | cons _ _ ih =>
    rw [mem_cuts_cons] at member otherMember
    rcases member with rfl | member
    · rcases otherMember with rfl | otherMember
      · rfl
      · have inside := (bounds_of_mem otherMember).1
        simp only [stop] at overlap inside
        omega
    · rcases otherMember with rfl | otherMember
      · have inside := (bounds_of_mem member).1
        simp only [stop] at overlap inside
        omega
      · exact ih member otherMember

end

theorem pairwise_offset_cuts (nonempty : ∀ piece ∈ pieces, piece ≠ []) :
    ((cuts offset pieces).map piece).Pairwise fun left right => left.1 < right.1 := by
  rw [pairwise_map]
  refine (pairwise_cuts offset pieces).imp_of_mem ?_
  intro left right member _ follows
  have positive := length_pos_iff.mpr (nonempty _ (content_mem member))
  simp only [stop, piece] at follows ⊢
  omega

/-- Cuts that are together as long as the sequence are all the cuts. -/
theorem mem_of_length_le {entries : List (Nat × List Item)} (nodup : entries.Nodup)
    (contained : ∀ entry ∈ entries, entry ∈ (cuts offset pieces).map piece)
    (nonempty : ∀ piece ∈ pieces, piece ≠ [])
    (long : pieces.flatten.length ≤ (entries.map fun entry => entry.2.length).sum)
    (member : cut ∈ cuts offset pieces) : cut.piece ∈ entries := by
  by_contra missing
  have subperm : (cut.piece :: entries).Subperm ((cuts offset pieces).map piece) := by
    refine subperm_of_subset (nodup_cons.mpr ⟨missing, nodup⟩) ?_
    intro entry entryMember
    rcases mem_cons.mp entryMember with rfl | old
    · exact List.mem_map_of_mem member
    · exact contained entry old
  obtain ⟨_, perm, sublist⟩ := subperm
  have total : (((cuts offset pieces).map piece).map fun entry => entry.2.length).sum =
      pieces.flatten.length := by
    rw [List.map_map, List.length_flatten]
    conv_rhs => rw [← map_content_cuts offset pieces, List.map_map]
    rfl
  have smaller := (sublist.map fun entry => entry.2.length).sum_le_sum fun _ _ => Nat.zero_le _
  have same := (perm.map fun entry => entry.2.length).sum_eq
  have positive := length_pos_iff.mpr (nonempty _ (content_mem member))
  rw [map_cons, sum_cons] at same
  have width : cut.piece.2.length = cut.content.length := rfl
  omega

/-! ### Cutting another sequence at the same places -/

/-- Cut a sequence where another one was cut, as far as it reaches. -/
def recut (items : List Item) : List (List Item) → List (List Item)
  | [] => []
  | piece :: rest =>
    if items.isEmpty then []
    else items.take piece.length :: recut (items.drop piece.length) rest

/-- The cut of a sequence at the place of another cut. -/
def Cut.recut (cut : Cut Item) (items : List Item) : Cut Item where
  offset := cut.offset
  content := (items.drop cut.offset).take cut.content.length
  more := decide (cut.stop < items.length)

@[simp] theorem recut_nil (pieces : List (List Item)) : recut ([] : List Item) pieces = [] := by
  cases pieces with
  | nil | cons => rfl

variable {items : List Item}

section

variable (long : items.length ≤ pieces.flatten.length)
include long

theorem flatten_recut : (recut items pieces).flatten = items := by
  induction pieces generalizing items with
  | nil => exact (length_eq_zero_iff.mp (Nat.le_zero.mp long)).symm
  | cons _ _ ih =>
    rw [flatten_cons, length_append] at long
    rw [recut]
    split
    · simp_all
    · rw [flatten_cons, ih (by rw [length_drop]; omega), take_append_drop]

omit long in
theorem recut_nonempty (nonempty : ∀ piece ∈ pieces, piece ≠ []) :
    ∀ piece ∈ recut items pieces, piece ≠ [] := by
  induction pieces generalizing items with
  | nil => simp [recut]
  | cons piece =>
    rw [recut]
    split
    · simp
    rename_i filled
    intro _ member
    rcases mem_cons.mp member with rfl | member
    · have itemsFilled : items ≠ [] := fun empty => filled (List.isEmpty_iff.mpr empty)
      simp_all
    grind

theorem recut_eq_nil_iff : recut items pieces = [] ↔ items = [] := by
  constructor
  · intro empty
    rw [← flatten_recut long, empty]
    rfl
  · rintro rfl
    exact recut_nil pieces

/-- The cuts of the other sequence are the old cuts that it reaches. -/
theorem mem_cuts_recut_from :
    cut ∈ cuts offset (recut items pieces) ↔
      ∃ old ∈ cuts offset pieces, old.offset < offset + items.length ∧
        cut = ⟨old.offset, (items.drop (old.offset - offset)).take old.content.length,
          decide (old.stop < offset + items.length)⟩ := by
  induction pieces generalizing items offset with
  | nil => simp [recut, cuts]
  | cons piece rest ih =>
    rw [flatten_cons, length_append] at long
    have restLong : (items.drop piece.length).length ≤ rest.flatten.length := by
      rw [length_drop]
      omega
    rw [recut]
    split
    · rename_i empty
      rw [List.isEmpty_iff.mp empty]
      constructor
      · nofun
      · rintro ⟨old, member, reached, _⟩
        have bounds := (bounds_of_mem member).1
        rw [length_nil] at reached
        omega
    · rename_i filled
      have positive : 0 < items.length :=
        length_pos_iff.mpr fun empty => filled (List.isEmpty_iff.mpr empty)
      have more : (!(recut (items.drop piece.length) rest).isEmpty) =
          decide (offset + piece.length < offset + items.length) := by
        rw [Bool.eq_iff_iff, Bool.not_eq_true', Bool.eq_false_iff, Ne, List.isEmpty_iff,
          recut_eq_nil_iff restLong, drop_eq_nil_iff, decide_eq_true_iff]
        omega
      simp only [mem_cuts_cons, exists_eq_or_imp]
      refine or_congr ?_ ?_
      · simp only [stop]
        simp_all
      by_cases short : items.length ≤ piece.length
      · -- The other sequence ends within this piece.
        rw [drop_of_length_le short, recut_nil]
        constructor
        · nofun
        · rintro ⟨old, member, reached, _⟩
          have bounds := (bounds_of_mem member).1
          omega
      · have takeLength : (items.take piece.length).length = piece.length := by
          rw [length_take]
          omega
        have total : offset + piece.length + (items.drop piece.length).length =
            offset + items.length := by
          rw [length_drop]
          omega
        rw [takeLength, ih restLong, total]
        refine exists_congr fun old => and_congr_right fun member => ?_
        have bounds := (bounds_of_mem member).1
        rw [drop_drop]
        have place : piece.length + (old.offset - (offset + piece.length)) =
            old.offset - offset := by
          omega
        rw [place]

theorem mem_cuts_recut :
    cut ∈ cuts 0 (recut items pieces) ↔
      ∃ old ∈ cuts 0 pieces, old.offset < items.length ∧ cut = old.recut items := by
  rw [mem_cuts_recut_from long, Nat.zero_add]
  rfl

/-- A cut that the other sequence goes on behind is as long as the old one. -/
theorem length_recut_of_more (member : cut ∈ cuts 0 pieces) (more : (cut.recut items).more = true) :
    cut.more = true ∧ (cut.recut items).content.length = cut.content.length := by
  have inside : cut.stop < items.length := of_decide_eq_true more
  constructor
  · by_contra last
    have stop := stop_of_last member (Bool.eq_false_iff.mpr last)
    omega
  grind [Cut.recut, stop]

end

end SprakCapture.Data
