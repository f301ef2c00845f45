import Mathlib.Data.List.Sort
import Mathlib.Data.List.TakeWhile
import SprakCapture.Capture.Model

/-!
# The plan of a media preview

The stored ranges of an entity are put together to its longest prefix. The plan takes, of the
ranges that reach the byte behind those it has, the one that ends last.
-/

namespace SprakCapture.Control

open Capture List

/-- A part of the body of a transaction. -/
structure PlannedRangeSegment where
  transactionId : Uuid
  body : BodyHandleMeta
  bodyOffset : Nat
  length : Nat

/-- Candidates by their starts; of the same start the longest and latest ones come first. -/
def startsBefore (left right : ResponseRangeCandidate) : Bool :=
  decide (left.start < right.start ∨ left.start = right.start ∧ (right.stop < left.stop ∨
    right.stop = left.stop ∧ right.sequence ≤ left.sequence))

/-- The order in which the heap of reachable candidates gives them out. -/
def poppedBefore (left right : ResponseRangeCandidate × Nat) : Bool :=
  decide (right.1.stop < left.1.stop ∨ right.1.stop = left.1.stop ∧
    (right.1.sequence < left.1.sequence ∨ right.1.sequence = left.1.sequence ∧ right.2 ≤ left.2))

/-- The segment of a candidate behind the bytes that are planned. -/
def segmentFrom (capturedBytes : Nat) (candidate : ResponseRangeCandidate) :
    PlannedRangeSegment where
  transactionId := candidate.transactionId
  body := candidate.body.clone
  bodyOffset := capturedBytes - candidate.start
  length := candidate.stop - capturedBytes + 1

/-- The loop of `buildMetadataPlan`, over the candidates that have not been pushed yet. No sum
overflows, because candidates end within their entity. -/
def planFrom (total : Nat) :
    Nat → Nat → List (ResponseRangeCandidate × Nat) → Option (List PlannedRangeSegment × Nat)
  | 0, _, _ => none
  | turns + 1, capturedBytes, candidates =>
    if capturedBytes < total then
      let reachable := candidates.takeWhile (·.1.start ≤ capturedBytes)
      match (reachable.mergeSort poppedBefore).find? (capturedBytes ≤ ·.1.stop) with
      | none => some ([], capturedBytes)
      | some (candidate, _) =>
        let segment := segmentFrom capturedBytes candidate
        (planFrom total turns (capturedBytes + segment.length)
          (candidates.dropWhile (·.1.start ≤ capturedBytes))).map fun (plan, bytes) =>
            (segment :: plan, bytes)
    else some ([], capturedBytes)

def buildMetadataPlan (candidates : List ResponseRangeCandidate) (total : Nat) :
    Option (List PlannedRangeSegment × Nat) :=
  planFrom total (candidates.length + 1) 0 (candidates.mergeSort startsBefore).zipIdx

/-- A candidate has a byte. -/
def Has (candidate : ResponseRangeCandidate) (byte : Nat) : Prop :=
  candidate.start ≤ byte ∧ byte ≤ candidate.stop

/-- Segments follow each other from one byte to another, each out of a candidate. -/
inductive Tiles (candidates : List ResponseRangeCandidate) :
    Nat → List PlannedRangeSegment → Nat → Prop
  | done (byte : Nat) : Tiles candidates byte [] byte
  | segment {byte last : Nat} {candidate : ResponseRangeCandidate} {plan : List PlannedRangeSegment}
      (member : candidate ∈ candidates) (has : Has candidate byte)
      (rest : Tiles candidates (candidate.stop + 1) plan last) :
      Tiles candidates byte (segmentFrom byte candidate :: plan) last

/-- A plan from a byte on: it ends where the candidates or the entity end, and there is none with
fewer segments. -/
structure PlansFrom (candidates : List ResponseRangeCandidate) (total byte : Nat)
    (plan : List PlannedRangeSegment) (last : Nat) : Prop where
  tiles : Tiles candidates byte plan last
  bounded : last ≤ total
  covered : ∀ other, byte ≤ other → other < last → ∃ candidate ∈ candidates, Has candidate other
  longest : last = total ∨ ∀ candidate ∈ candidates, ¬ Has candidate last
  fewest : ∀ cover : List ResponseRangeCandidate, cover ⊆ candidates →
    (∀ other, byte ≤ other → other < last → ∃ candidate ∈ cover, Has candidate other) →
      plan.length ≤ cover.length

variable {candidates : List ResponseRangeCandidate} {total : Nat}

/-- A plan begins with the candidate that ends last, of those that have its first byte. -/
theorem PlansFrom.cons {byte last : Nat} {chosen : ResponseRangeCandidate}
    {plan : List PlannedRangeSegment} (member : chosen ∈ candidates) (has : Has chosen byte)
    (farthest : ∀ candidate ∈ candidates, candidate.start ≤ byte → candidate.stop ≤ chosen.stop)
    (plans : PlansFrom candidates total (chosen.stop + 1) plan last)
    (further : byte < last) :
    PlansFrom candidates total byte (segmentFrom byte chosen :: plan) last where
  tiles := .segment member has plans.tiles
  bounded := plans.bounded
  covered := fun other reached below => by
    by_cases within : other ≤ chosen.stop
    · exact ⟨chosen, member, has.1.trans reached, within⟩
    · exact plans.covered other (by omega) below
  longest := plans.longest
  fewest := fun cover inside covers => by
    obtain ⟨first, firstIn, hasFirst⟩ := covers byte (Nat.le_refl _) further
    have behind := farthest first (inside firstIn) hasFirst.1
    have rest := plans.fewest (cover.erase first) (fun _ erased => inside (mem_of_mem_erase erased))
      fun other reached below => by
        obtain ⟨candidate, candidateIn, hasOther⟩ := covers other (by have := has.2; omega) below
        have other : candidate ≠ first := fun same => by
          have := hasOther.2
          rw [same] at this
          omega
        exact ⟨candidate, (mem_erase_of_ne other).mpr candidateIn, hasOther⟩
    rw [length_erase_of_mem firstIn] at rest
    have some := length_pos_of_mem firstIn
    rw [length_cons]
    omega

theorem farthest_of_find {reachable : List (ResponseRangeCandidate × Nat)} {capturedBytes : Nat}
    {chosen : ResponseRangeCandidate × Nat}
    (found : (reachable.mergeSort poppedBefore).find? (capturedBytes ≤ ·.1.stop) = some chosen) :
    chosen ∈ reachable ∧ capturedBytes ≤ chosen.1.stop ∧
      ∀ other ∈ reachable, other.1.stop ≤ chosen.1.stop := by
  obtain ⟨reaches, front, back, split, short⟩ := find?_eq_some_iff_append.mp found
  have sorted : (reachable.mergeSort poppedBefore).Pairwise (poppedBefore · ·) := by
    refine pairwise_mergeSort (fun first second _ => ?_) (fun first second => ?_) _
    · simp only [poppedBefore, decide_eq_true_eq]
      omega
    · simp only [poppedBefore, Bool.or_eq_true, decide_eq_true_eq]
      omega
  have members : ∀ other, other ∈ reachable ↔ other ∈ front ++ chosen :: back := fun other => by
    rw [← split, mem_mergeSort]
  rw [split, pairwise_append, pairwise_cons] at sorted
  rw [decide_eq_true_eq] at reaches
  simp only [Bool.not_eq_true', decide_eq_false_iff_not, Nat.not_le] at short
  refine ⟨(members chosen).mpr (by simp), reaches, fun other member => ?_⟩
  rcases mem_append.mp ((members other).mp member) with earlier | here
  · exact (short other earlier).le.trans reaches
  rcases mem_cons.mp here with rfl | later
  · exact Nat.le_refl _
  · have order := sorted.2.1.1 other later
    simp only [poppedBefore, decide_eq_true_eq] at order
    omega

/-- The loop plans from the bytes it has, when the candidates it has pushed end before them. -/
theorem plansFrom_planFrom (inside : ∀ candidate ∈ candidates, candidate.stop < total)
    {turns capturedBytes : Nat} {remaining : List (ResponseRangeCandidate × Nat)}
    (bounded : capturedBytes ≤ total) (enough : remaining.length < turns)
    (within : ∀ entry ∈ remaining, entry.1 ∈ candidates)
    (sorted : remaining.Pairwise (·.1.start ≤ ·.1.start))
    (pushed : ∀ candidate ∈ candidates, (∃ index, (candidate, index) ∈ remaining) ∨
      candidate.stop < capturedBytes) :
    ∃ plan last, planFrom total turns capturedBytes remaining = some (plan, last) ∧
      capturedBytes ≤ last ∧ PlansFrom candidates total capturedBytes plan last := by
  induction turns generalizing capturedBytes remaining with
  | zero => cases enough
  | succ turns ih =>
    have ends : (capturedBytes = total ∨ ∀ candidate ∈ candidates, ¬ Has candidate capturedBytes) →
        PlansFrom candidates total capturedBytes [] capturedBytes := fun longest =>
      ⟨.done _, bounded, by omega, longest, fun _ _ _ => Nat.zero_le _⟩
    rw [planFrom]
    split
    · next _ =>
      have parts : remaining = remaining.takeWhile (·.1.start ≤ capturedBytes) ++
          remaining.dropWhile (·.1.start ≤ capturedBytes) := takeWhile_append_dropWhile.symm
      have reached : ∀ entry ∈ remaining.takeWhile (·.1.start ≤ capturedBytes),
          entry.1.start ≤ capturedBytes := fun entry member => by
        simpa using mem_takeWhile_imp member
      have reachable : ∀ candidate ∈ candidates, candidate.start ≤ capturedBytes →
          (∃ index, (candidate, index) ∈ remaining.takeWhile (·.1.start ≤ capturedBytes)) ∨
            candidate.stop < capturedBytes := by
        intro candidate member starts
        refine (pushed candidate member).imp_left fun ⟨index, stands⟩ => ⟨index, ?_⟩
        rw [parts] at stands sorted
        refine (mem_append.mp stands).elim id fun behind => ?_
        obtain ⟨_, rest, later⟩ := exists_cons_of_ne_nil (ne_nil_of_mem behind)
        have late := head_dropWhile_not _ (ne_nil_of_mem behind)
        simp only [later, decide_eq_false_iff_not] at late
        rw [later] at behind
        have order := (pairwise_append.mp sorted).2.1
        rw [later, pairwise_cons] at order
        rcases mem_cons.mp behind with same | behind
        · exact absurd (same ▸ starts) late
        · exact absurd ((order.1 _ behind).trans starts) late
      generalize remaining.takeWhile (·.1.start ≤ capturedBytes) = heap at *
      generalize remaining.dropWhile (·.1.start ≤ capturedBytes) = rest at *
      subst parts
      dsimp only
      cases found : (heap.mergeSort poppedBefore).find? (capturedBytes ≤ ·.1.stop) with
      | none =>
        refine ⟨[], capturedBytes, rfl, Nat.le_refl _, ends (.inr fun candidate member has => ?_)⟩
        rcases reachable candidate member has.1 with ⟨index, stands⟩ | past
        · have behind := find?_eq_none.mp found _ (mem_mergeSort.mpr stands)
          exact behind (decide_eq_true has.2)
        · exact absurd has.2 (Nat.not_le_of_lt past)
      | some chosen =>
        obtain ⟨chosen, index⟩ := chosen
        obtain ⟨stands, reaches, farthest⟩ := farthest_of_find found
        have member := within _ (mem_append_left _ stands)
        dsimp only at reaches farthest member ⊢
        have some := length_pos_of_mem stands
        have next : capturedBytes + (segmentFrom capturedBytes chosen).length =
            chosen.stop + 1 := by
          simp only [segmentFrom]
          omega
        rw [length_append] at enough
        obtain ⟨plan, last, planned, _, plans⟩ := @ih _ _
          (inside _ member) (by omega) (fun _ behind => within _ (mem_append_right _ behind))
          (pairwise_append.mp sorted).2.1 fun candidate candidateIn => by
            rcases pushed candidate candidateIn with ⟨index, stands⟩ | past
            · rcases mem_append.mp stands with gone | behind
              · exact .inr (Nat.lt_succ_of_le (farthest _ gone))
              · exact .inl ⟨index, behind⟩
            · exact .inr (by omega)
        refine ⟨segmentFrom capturedBytes chosen :: plan, last, ?_, by omega,
          plans.cons member ⟨reached _ stands, reaches⟩ (fun candidate candidateIn starts => ?_)
            (by omega)⟩
        · rw [next, planned]
          rfl
        · rcases reachable candidate candidateIn starts with ⟨index, stands⟩ | past
          · exact farthest _ stands
          · omega
    · exact ⟨[], capturedBytes, rfl, Nat.le_refl _, ends (.inl (by omega))⟩

end SprakCapture.Control
