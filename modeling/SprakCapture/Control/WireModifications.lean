import SprakCapture.Control.TransparentRecording

/-!
# Wire modifications as a difference

The modifications of a block say exactly what was changed: to undo them gives the bytes that
were read. Blocks of one length differ in runs, with an equal byte between two of them. Blocks
of different lengths have one modification, between what they begin and end with in common.
-/

namespace SprakCapture.Control

open Data Capture List

namespace StreamPacketModification

/-- The end of the range in the modified block. -/
def stop (change : StreamPacketModification) : Nat :=
  change.offsetBytes + change.modifiedBytes.items.length

/-- Put the original bytes in place of the range. -/
def undo (change : StreamPacketModification) (bytes : Bytes) : Bytes :=
  bytes.take change.offsetBytes ++ change.originalBytes.items ++ bytes.drop (stop change)

/-- Both texts of a change are slices of their blocks. -/
structure Slices (original modified : Bytes) (change : StreamPacketModification) : Prop where
  originalRange :
    change.offsetBytes + change.originalBytes.items.length ≤ original.length
  modifiedRange : stop change ≤ modified.length
  original : change.originalBytes.items =
    (original.drop change.offsetBytes).take change.originalBytes.items.length
  modified : change.modifiedBytes.items =
    (modified.drop change.offsetBytes).take change.modifiedBytes.items.length

end StreamPacketModification

open StreamPacketModification

/-- Bytes that are different at each place. -/
abbrev Differ : Bytes → Bytes → Prop := List.Forall₂ (· ≠ ·)

/-- The changes are the exact difference of two blocks. -/
structure ExactDifference (original modified : Bytes) (changes : List StreamPacketModification) :
    Prop where
  empty : changes = [] ↔ original = modified
  slices : ∀ change ∈ changes, Slices original modified change
  ordered : changes.Pairwise fun first second =>
    first.offsetBytes < second.offsetBytes ∧ stop first ≤ second.offsetBytes
  /-- Undone from the last to the first, the changes give the original block. -/
  undone : changes.foldr undo modified = original
  differ : original.length = modified.length → ∀ change ∈ changes,
    Differ change.originalBytes.items change.modifiedBytes.items
  /-- Behind a run stands a byte that is equal, before the next run. -/
  apart : original.length = modified.length →
    (changes.Pairwise fun first second => stop first < second.offsetBytes) ∧
      ∀ change ∈ changes, original[stop change]? = modified[stop change]?

/-! ### Runs -/

/-- The runs of positions, counted from an offset, in which two blocks differ. -/
inductive Runs : Nat → Bytes → Bytes → List StreamPacketModification → Prop where
  | done (offset : Nat) : Runs offset [] [] []
  | same {offset : Nat} {byte : UInt8} {original modified : Bytes}
      {changes : List StreamPacketModification}
      (others : Runs (offset + 1) original modified changes) :
      Runs offset (byte :: original) (byte :: modified) changes
  | run {offset : Nat} {first second original modified : Bytes}
      {changes : List StreamPacketModification} (differ : Differ first second)
      (nonempty : 0 < second.length) (ends : original.head? = modified.head?)
      (others : Runs (offset + second.length) original modified changes) :
      Runs offset (first ++ original) (second ++ modified)
        (⟨offset, ⟨first, 0⟩, ⟨second, 0⟩⟩ :: changes)

variable {offset : Nat} {original modified : Bytes} {changes : List StreamPacketModification}

variable (runs : Runs offset original modified changes)
include runs

theorem Runs.offset_le : ∀ change ∈ changes, offset ≤ change.offsetBytes := by
  induction runs with
  | done => nofun
  | same _ ih => exact fun change member => (Nat.le_succ _).trans (ih change member)
  | run _ _ _ _ ih =>
    intro change member
    rcases mem_cons.mp member with rfl | later
    · exact Nat.le_refl _
    · exact (Nat.le_add_right _ _).trans (ih change later)

/-- When the blocks go on with the same byte, the next run starts behind it. -/
theorem Runs.lt_offset (equal : original.head? = modified.head?) :
    ∀ change ∈ changes, offset < change.offsetBytes := by
  cases runs with
  | done => nofun
  | same others => exact others.offset_le
  | run differ nonempty =>
    cases differ with
    | nil => cases nonempty
    | cons different => exact absurd (Option.some.inj equal) different

omit runs

theorem runs_differenceRuns (sameLength : original.length = modified.length) :
    Runs offset original modified (differenceRuns offset original modified) := by
  induction original generalizing offset modified with
  | nil =>
    obtain rfl := length_eq_zero_iff.mp sameLength.symm
    exact .done offset
  | cons first original ih =>
    match modified with
    | second :: modified =>
      have others := @ih (offset + 1) _ (Nat.succ.inj sameLength)
      rw [differenceRuns]
      split
      · next same => exact same ▸ .same others
      next different =>
      have one : Differ [first] [second] := .cons different .nil
      generalize differenceRuns (offset + 1) original modified = changes at others
      cases others with
      | done => exact .run one Nat.one_pos rfl (.done _)
      | @same _ _ original modified changes others =>
        have later := others.offset_le
        cases changes with
        | nil => exact .run one Nat.one_pos rfl (.same others)
        | cons change changes =>
          have behind := later change mem_cons_self
          simp only
          rw [if_neg (by omega)]
          exact .run one Nat.one_pos rfl (.same others)
      | @run _ _ second _ _ _ differ _ ends others =>
        simp only
        refine .run (.cons different differ) (Nat.succ_pos _) ends ?_
        rw [length_cons, Nat.add_comm second.length, ← Nat.add_assoc]
        exact others

/-- What runs say of the blocks that have `offset` bytes in front of them. -/
structure RunsIn (original modified : Bytes) (changes : List StreamPacketModification) : Prop where
  slices : ∀ change ∈ changes, Slices original modified change
  differ : ∀ change ∈ changes, Differ change.originalBytes.items change.modifiedBytes.items
  equal : ∀ change ∈ changes, original[stop change]? = modified[stop change]?
  apart : changes.Pairwise fun first second => stop first < second.offsetBytes

include runs

theorem Runs.runsIn :
    ∀ front other : Bytes, front.length = offset → other.length = offset →
      RunsIn (front ++ original) (other ++ modified) changes := by
  induction runs with
  | done => exact fun _ _ _ _ => ⟨nofun, nofun, nofun, .nil⟩
  | @same _ byte original modified changes _ ih =>
    intro front other isFront isOther
    simpa using ih (front ++ [byte]) (other ++ [byte]) (by simp [isFront]) (by simp [isOther])
  | @run offset first second original modified changes differ _ ends others ih =>
    rintro front other isFront isOther
    have width := differ.length_eq
    have later :=
      ih (front ++ first) (other ++ second) (by simp [isFront, width]) (by simp [isOther])
    rw [append_assoc, append_assoc] at later
    refine ⟨?_, ?_, ?_, pairwise_cons.mpr ⟨others.lt_offset ends, later.apart⟩⟩
    · refine forall_mem_cons.mpr ⟨⟨?_, ?_, ?_, ?_⟩, later.slices⟩
      · simp [isFront]
      · simp [stop, isOther]
      · simp [← isFront]
      · simp [← isOther]
    · exact forall_mem_cons.mpr ⟨differ, later.differ⟩
    · refine forall_mem_cons.mpr ⟨?_, later.equal⟩
      rw [stop, ← append_assoc, ← append_assoc, getElem?_append_right (by simp [isFront, width]),
        getElem?_append_right (by simp [isOther])]
      simpa [isFront, isOther, width, ← head?_eq_getElem?] using ends

theorem Runs.undone :
    ∀ front : Bytes, front.length = offset →
      changes.foldr undo (front ++ modified) = front ++ original := by
  induction runs with
  | done => exact fun _ _ => rfl
  | @same _ byte _ _ _ _ ih =>
    intro front isFront
    simpa using ih (front ++ [byte]) (by simp [isFront])
  | @run offset _ second original modified changes _ _ _ _ ih =>
    intro front isFront
    have later := ih (front ++ second) (by simp [isFront])
    rw [append_assoc] at later
    rw [foldr_cons, later, undo, stop]
    simp [← isFront]

/-! ### Blocks of different lengths -/

omit runs

variable {count : Nat}

theorem take_commonBytes (within : count ≤ commonBytes original modified) :
    original.take count = modified.take count := by
  induction original generalizing modified count with
  | nil => simp_all [commonBytes]
  | cons first original ih =>
    match modified, count with
    | _, 0 => rfl
    | [], _ + 1 => simp [commonBytes] at within
    | second :: modified, count + 1 =>
      by_cases same : first = second
      · subst same
        rw [commonBytes, zip_cons_cons, takeWhile_cons_of_pos (by simp)] at within
        exact congrArg (first :: ·) (ih (Nat.le_of_succ_le_succ within))
      · rw [commonBytes, zip_cons_cons, takeWhile_cons_of_neg (by simpa using same)] at within
        cases within

theorem commonBytes_le : commonBytes original modified ≤ min original.length modified.length :=
  (takeWhile_sublist _).length_le.trans_eq length_zip

theorem drop_commonBytes (within : count ≤ commonBytes original.reverse modified.reverse) :
    original.drop (original.length - count) = modified.drop (modified.length - count) := by
  have same := take_commonBytes within
  rwa [take_reverse, take_reverse, reverse_inj] at same

/-! ### The difference -/

theorem exactDifference_of_runs (runs : Runs 0 original modified changes)
    (different : original ≠ modified) : ExactDifference original modified changes := by
  have whole := runs.runsIn [] [] rfl rfl
  have undone := runs.undone [] rfl
  refine
    { empty := ⟨?_, fun same => absurd same different⟩
      slices := whole.slices
      ordered := whole.apart.imp fun {_ _} apart => ⟨?_, apart.le⟩
      undone := undone
      differ := fun _ => whole.differ
      apart := fun _ => ⟨whole.apart, whole.equal⟩ }
  · rintro rfl
    exact undone.symm
  · exact (Nat.le_add_right _ _).trans_lt apart

/-- The part between what the blocks begin and end with in common is their difference. -/
theorem exactDifference_of_middle {front back : Nat}
    (otherLength : original.length ≠ modified.length)
    (inOriginal : front + back ≤ original.length) (inModified : front + back ≤ modified.length)
    (sameFront : original.take front = modified.take front)
    (sameBack : original.drop (original.length - back) = modified.drop (modified.length - back)) :
    ExactDifference original modified
      [⟨front, ⟨(original.take (original.length - back)).drop front, 0⟩,
        ⟨(modified.take (modified.length - back)).drop front, 0⟩⟩] where
  empty := ⟨nofun, fun same => absurd (congrArg List.length same) otherLength⟩
  slices := by
    rintro _ ⟨⟩
    · refine ⟨?_, ?_, ?_, ?_⟩ <;> simp only [stop, drop_take, length_take, length_drop]
      · omega
      · omega
      · congr 1
        omega
      · congr 1
        omega
    · contradiction
  ordered := pairwise_singleton _ _
  undone := by
    have ends : front + (modified.length - back - front) = modified.length - back := by omega
    simp only [foldr_cons, foldr_nil, undo, stop, drop_take, length_take, length_drop]
    have rest := take_append_drop (original.length - back - front) (original.drop front)
    rw [drop_drop,
      show front + (original.length - back - front) = original.length - back by omega] at rest
    rw [Nat.min_eq_left (by omega), ends, ← sameFront, ← sameBack, append_assoc, rest,
      take_append_drop]
  differ := fun same => absurd same otherLength
  apart := fun same => absurd same otherLength

/-- The modifications that are recorded are the exact difference of a block. -/
theorem deriveWireByteModifications_exact (original modified : Bytes) :
    ExactDifference original modified (deriveWireByteModifications original modified) := by
  rw [deriveWireByteModifications]
  split
  · next same =>
    subst same
    exact ⟨iff_of_true rfl rfl, nofun, .nil, rfl, fun _ => nofun, fun _ => ⟨.nil, nofun⟩⟩
  next different =>
  split
  · next sameLength => exact exactDifference_of_runs (runs_differenceRuns sameLength) different
  · next otherLength =>
    have front := @commonBytes_le original modified
    exact exactDifference_of_middle otherLength (by omega) (by omega)
      (take_commonBytes (Nat.le_refl _)) (drop_commonBytes (Nat.min_le_right _ _))

end SprakCapture.Control
