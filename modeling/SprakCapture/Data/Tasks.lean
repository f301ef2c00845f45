import Mathlib.Data.List.Basic

/-!
# Tasks at the positions of a list

Concurrent tasks are kept in a list, each at its own position for good. A step of one task
replaces its entry. The lemmas say what this does to the number of tasks of a kind and to the
question whether there is one.
-/

namespace SprakCapture.Data.Tasks

variable {Task : Type} {tasks : List Task} {position : Nat} {old : Task}

theorem countP_set (kind : Task → Bool) (found : tasks[position]? = some old) (new : Task) :
    (tasks.set position new).countP kind + (kind old).toNat =
      tasks.countP kind + (kind new).toNat := by
  induction tasks generalizing position with
  | nil => simp at found
  | cons _ tasks ih =>
    cases position with
    | zero | succ position => grind

variable {kind : Task → Prop} {new : Task}

/-- A task of a kind that is there after a step was there before or is the one that stepped. -/
theorem exists_of_exists_set (there : ∃ task ∈ tasks.set position new, kind task) :
    kind new ∨ ∃ task ∈ tasks, kind task := by
  obtain ⟨task, member, holds⟩ := there
  rcases List.mem_or_eq_of_mem_set member with before | rfl
  · exact .inr ⟨task, before, holds⟩
  · exact .inl holds

theorem exists_set_self (found : tasks[position]? = some old) (holds : kind new) :
    ∃ task ∈ tasks.set position new, kind task := by
  obtain ⟨inside, -⟩ := List.getElem?_eq_some_iff.mp found
  exact ⟨new, List.mem_set inside new, holds⟩

/-- A step of a task that is not of a kind leaves the tasks of the kind alone. -/
theorem exists_set_of_exists (found : tasks[position]? = some old) (other : ¬ kind old)
    (there : ∃ task ∈ tasks, kind task) : ∃ task ∈ tasks.set position new, kind task := by
  obtain ⟨task, member, holds⟩ := there
  obtain ⟨place, isTask⟩ := List.mem_iff_getElem?.mp member
  have apart : position ≠ place := by
    grind
  exact ⟨task, List.mem_iff_getElem?.mpr ⟨place, by rw [List.getElem?_set_ne apart, isTask]⟩, holds⟩

end SprakCapture.Data.Tasks
