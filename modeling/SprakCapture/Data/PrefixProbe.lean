import Mathlib.Data.List.Infix

/-!
# Probing the beginning of a stream

A probe looks at what has arrived of a stream, up to a capacity, and answers as soon as that is
enough. It settles if an answer is not changed by what arrives later. Then the answer does not
depend on how the stream is cut into pieces (`Settles.probeArrivals_eq`).
-/

namespace SprakCapture.Data

variable {Item Answer : Type}

/-- Once a probe answers, it answers the same to every longer prefix within the capacity. -/
def Settles (capacity : Nat) (undecided : Answer) (probe : List Item → Answer) : Prop :=
  ∀ ⦃short long : List Item⦄, short <+: long → long.length ≤ capacity →
    probe short ≠ undecided → probe long = probe short

/-- Probe after each piece that arrives. The first answer counts. -/
def probeArrivals [DecidableEq Answer] (capacity : Nat) (undecided : Answer)
    (probe : List Item → Answer) : List Item → List (List Item) → Answer
  | _, [] => undecided
  | arrived, piece :: pieces =>
    let answer := probe ((arrived ++ piece).take capacity)
    if answer = undecided then probeArrivals capacity undecided probe (arrived ++ piece) pieces
    else answer

namespace Settles

variable {capacity : Nat} {undecided : Answer} {probe : List Item → Answer}

theorem take_eq (settles : Settles capacity undecided probe) {short long : List Item}
    (begins : short <+: long) (answers : probe (short.take capacity) ≠ undecided) :
    probe (long.take capacity) = probe (short.take capacity) :=
  settles (begins.take capacity) (List.length_take_le ..) answers

/-- All cuts of a stream lead to the answer to the whole of it. -/
theorem probeArrivals_eq [DecidableEq Answer] (settles : Settles capacity undecided probe)
    {pieces : List (List Item)} (nonempty : pieces ≠ []) (arrived : List Item) :
    probeArrivals capacity undecided probe arrived pieces =
      probe ((arrived ++ pieces.flatten).take capacity) := by
  induction pieces generalizing arrived with
  | nil => exact absurd rfl nonempty
  | cons piece pieces ih =>
    rw [probeArrivals, List.flatten_cons, ← List.append_assoc]
    split
    · by_cases last : pieces = []
      · grind [probeArrivals]
      · exact ih last (arrived ++ piece)
    · rename_i answers
      exact (settles.take_eq (List.prefix_append ..) answers).symm

/-- A probe that hands one answer over to a second probe settles if both do, where the second
probe is only asked about what is handed over. -/
theorem handOver [DecidableEq Answer] {first second : List Item → Answer} {fallback : Answer}
    (decides : fallback ≠ undecided) (firstSettles : Settles capacity undecided first)
    (secondSettles : ∀ ⦃short long : List Item⦄, short <+: long → long.length ≤ capacity →
      first short = fallback → second short ≠ undecided → second long = second short) :
    Settles capacity undecided
      (fun items => if first items ≠ fallback then first items else second items) := by
  intro short long begins within answers
  by_cases handed : first short = fallback
  · have same := firstSettles begins within (by rw [handed]; exact decides)
    grind
  · simp only [ne_eq, handed] at answers
    have same := firstSettles begins within answers
    simp_all

end Settles

end SprakCapture.Data
