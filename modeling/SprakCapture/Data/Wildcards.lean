import Mathlib.Data.List.Forall2

/-!
# Rewriting matches of a wildcard pattern

A pattern is a list of expected symbols with wildcards, and a replacement a list of symbols
with places that keep what they replace. `Rewritten` says what it is to replace the leftmost
match of a pattern, or all of its leftmost matches that do not overlap, without naming an
algorithm.
-/

namespace SprakCapture.Data

open List

variable {Symbol : Type}

/-- A segment fits a pattern: it has the pattern's length and each expected symbol. -/
def Fits (pattern : List (Option Symbol)) (segment : List Symbol) : Prop :=
  List.Forall₂ (fun expected actual => expected = none ∨ expected = some actual) pattern segment

/-- The segment at an offset fits the pattern. -/
def OccursAt (pattern : List (Option Symbol)) (symbols : List Symbol) (offset : Nat) : Prop :=
  Fits pattern ((symbols.drop offset).take pattern.length)

/-- A replacement with its open places filled from the segment that it replaces. -/
def fill (replacement : List (Option Symbol)) (segment : List Symbol) : List Symbol :=
  List.zipWith (fun place symbol => place.getD symbol) replacement segment

/-- The symbols with the leftmost match replaced, or with `every` all matches that are
leftmost behind the one before. Everything between the matches stays. -/
inductive Rewritten (pattern replacement : List (Option Symbol)) :
    Bool → List Symbol → List Symbol → Prop where
  | unmatched {every : Bool} {symbols : List Symbol}
      (none : ∀ offset, ¬OccursAt pattern symbols offset) :
      Rewritten pattern replacement every symbols symbols
  | first {gap segment rest : List Symbol} (fits : Fits pattern segment)
      (leftmost : ∀ offset < gap.length, ¬OccursAt pattern (gap ++ segment ++ rest) offset) :
      Rewritten pattern replacement false (gap ++ segment ++ rest)
        (gap ++ fill replacement segment ++ rest)
  | every {gap segment rest output : List Symbol} (fits : Fits pattern segment)
      (leftmost : ∀ offset < gap.length, ¬OccursAt pattern (gap ++ segment ++ rest) offset)
      (others : Rewritten pattern replacement true rest output) :
      Rewritten pattern replacement true (gap ++ segment ++ rest)
        (gap ++ fill replacement segment ++ output)

variable {pattern replacement : List (Option Symbol)} {segment : List Symbol}

theorem fits_cons {expected : Option Symbol} {symbol : Symbol} :
    Fits (expected :: pattern) (symbol :: segment) ↔
      (expected = none ∨ expected = some symbol) ∧ Fits pattern segment :=
  List.forall₂_cons

theorem Fits.length_eq (fits : Fits pattern segment) :
    segment.length = pattern.length :=
  (List.Forall₂.length_eq fits).symm

variable {every : Bool} {gap symbols : List Symbol}

/-- A match lies within the symbols. -/
theorem OccursAt.within {offset : Nat} (nonempty : pattern ≠ [])
    (occurs : OccursAt pattern symbols offset) : offset + pattern.length ≤ symbols.length := by
  have length := occurs.length_eq
  have positive := length_pos_iff.mpr nonempty
  grind

theorem occursAt_drop {start offset : Nat} :
    OccursAt pattern (symbols.drop start) offset ↔ OccursAt pattern symbols (start + offset) := by
  rw [OccursAt, OccursAt, drop_drop]

theorem Fits.occursAt {segment rest : List Symbol} (fits : Fits pattern segment) :
    OccursAt pattern (gap ++ segment ++ rest) gap.length := by
  rw [OccursAt, append_assoc, drop_left, ← fits.length_eq, take_left]
  exact fits

theorem length_fill_le (segment : List Symbol) :
    (fill replacement segment).length ≤ replacement.length := by
  rw [fill, length_zipWith]
  omega

variable {output : List Symbol}

/-- With a replacement no longer than the pattern, rewriting makes nothing longer. -/
theorem Rewritten.length_le (rewritten : Rewritten pattern replacement every symbols output)
    (short : replacement.length ≤ pattern.length) : output.length ≤ symbols.length := by
  induction rewritten with
  | unmatched => exact Nat.le_refl _
  | @first _ segment _ fits | @every _ segment _ _ fits =>
    have filled := @length_fill_le _ replacement segment
    have length := fits.length_eq
    simp only [length_append]
    omega

theorem leftmost_unique {segment rest otherGap otherSegment otherRest : List Symbol}
    (same : gap ++ segment ++ rest = otherGap ++ otherSegment ++ otherRest)
    (fits : Fits pattern segment) (otherFits : Fits pattern otherSegment)
    (leftmost : ∀ offset < gap.length, ¬OccursAt pattern (gap ++ segment ++ rest) offset)
    (otherLeftmost : ∀ offset < otherGap.length,
      ¬OccursAt pattern (otherGap ++ otherSegment ++ otherRest) offset) :
    gap = otherGap ∧ segment = otherSegment ∧ rest = otherRest := by
  have occurs := @Fits.occursAt _ _ gap _ rest fits
  have otherOccurs := @Fits.occursAt _ _ otherGap _ otherRest otherFits
  rw [same] at occurs
  rw [← same] at otherOccurs
  have sameLength : gap.length = otherGap.length := by
    rcases Nat.lt_trichotomy gap.length otherGap.length with less | equal | greater
    · exact absurd occurs (otherLeftmost _ less)
    · exact equal
    · exact absurd otherOccurs (leftmost _ greater)
  rw [append_assoc, append_assoc] at same
  obtain ⟨sameGap, same⟩ := append_inj same sameLength
  obtain ⟨sameSegment, sameRest⟩ :=
    append_inj same (fits.length_eq.trans otherFits.length_eq.symm)
  exact ⟨sameGap, sameSegment, sameRest⟩

theorem Rewritten.unique {other : List Symbol}
    (rewritten : Rewritten pattern replacement every symbols output)
    (others : Rewritten pattern replacement every symbols other) : output = other := by
  induction rewritten generalizing other with
  | unmatched none =>
    cases others with
    | unmatched _ => rfl
    | first fits _ | every fits _ _ => exact absurd fits.occursAt (none _)
  | @first gap segment rest fits leftmost =>
    generalize equal : gap ++ segment ++ rest = symbols at others
    cases others with
    | unmatched none =>
      subst equal
      exact absurd fits.occursAt (none _)
    | first otherFits otherLeftmost =>
      obtain ⟨rfl, rfl, rfl⟩ := leftmost_unique equal fits otherFits leftmost otherLeftmost
      rfl
  | @every gap segment rest _ fits leftmost _ ih =>
    generalize equal : gap ++ segment ++ rest = symbols at others
    cases others with
    | unmatched none =>
      subst equal
      exact absurd fits.occursAt (none _)
    | every otherFits otherLeftmost otherRest =>
      obtain ⟨rfl, rfl, rfl⟩ := leftmost_unique equal fits otherFits leftmost otherLeftmost
      rw [ih otherRest]

end SprakCapture.Data
