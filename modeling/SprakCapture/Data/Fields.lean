import Mathlib.Data.List.Basic

/-!
# Fields with several values

A list of named values, where a name may occur more than once. The lemmas say which values each
name has after a change.
-/

namespace SprakCapture.Data

abbrev Fields (Name Value : Type) := List (Name × Value)

namespace Fields

variable {Name Value : Type} [DecidableEq Name]

/-- All values of a name. -/
def getAll (fields : Fields Name Value) (name : Name) : List Value :=
  (fields.filter (·.1 = name)).map Prod.snd

/-- Remove all values of a name. -/
def remove (fields : Fields Name Value) (name : Name) : Fields Name Value :=
  fields.filter (·.1 ≠ name)

/-- Give a name one value, in place of those that it has. -/
def insert (fields : Fields Name Value) (name : Name) (value : Value) : Fields Name Value :=
  fields.remove name ++ [(name, value)]

/-- Remove all values of some names. -/
def removeAll (fields : Fields Name Value) (names : List Name) : Fields Name Value :=
  names.foldl remove fields

variable (fields : Fields Name Value) (name other : Name)

@[simp] theorem getAll_remove :
    (fields.remove name).getAll other = if other = name then [] else fields.getAll other := by
  unfold getAll remove
  rw [List.filter_filter]
  split
  · rename_i same
    subst same
    simp
  grind

@[simp] theorem getAll_insert (value : Value) :
    (fields.insert name value).getAll other =
      if other = name then [value] else fields.getAll other := by
  have appended : (fields.insert name value).getAll other =
      (fields.remove name).getAll other ++ if other = name then [value] else [] := by
    grind [insert, getAll]
  rw [appended, getAll_remove]
  split
  · rfl
  · exact List.append_nil _

@[simp] theorem getAll_removeAll (names : List Name) (other : Name) :
    (fields.removeAll names).getAll other = if other ∈ names then [] else fields.getAll other := by
  induction names generalizing fields with
  | nil => simp [removeAll]
  | cons name names ih =>
    have step : fields.removeAll (name :: names) = (fields.remove name).removeAll names := rfl
    rw [step, ih, getAll_remove]
    grind

end Fields

end SprakCapture.Data
