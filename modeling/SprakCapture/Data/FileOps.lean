import Mathlib.Data.Option.Basic

/-!
# Programs of file operations

A `FileProgram` is a sequence of operations on named files. One incident may befall a run: an
operation fails, or the process stops right before it. A file that is being written may be left
with any contents then. All other operations take effect at once and for good.

The rules say what an operation does in each case. After a failure the rest of the run is calm,
and calm programs are evaluated by the simp set.
-/

namespace SprakCapture.Data

inductive FileOperation (Name : Type) where
  | createDirectory
  | probe (name : Name)
  | read (name : Name)
  | write (name : Name)
  | remove (name : Name)
  | rename (source target : Name)
deriving DecidableEq

def FileOperation.isRename {Name : Type} : FileOperation Name → Bool
  | .rename _ _ => true
  | _ => false

/-- What befalls an operation, and what it leaves of a file that it was to write. -/
inductive Trouble (Content : Type) where
  | fails (left : Option Content)
  | stops (left : Option Content)
deriving DecidableEq

/-- Trouble at an operation, after a number of times at which the same operation went well. -/
structure Incident (Name Content : Type) where
  operation : FileOperation Name
  earlier : Nat
  trouble : Trouble Content
deriving DecidableEq

/-- The files, and the incident that is still to come. -/
structure FileSystem (Name Content : Type) where
  disk : Name → Option Content
  incident : Option (Incident Name Content)

/-- A program that runs to a value, unless the process stops. -/
def FileProgram (Name Content Value : Type) : Type :=
  FileSystem Name Content → Option Value × FileSystem Name Content

variable {Name Content Value Result : Type}

namespace FileProgram

instance : Monad (FileProgram Name Content) where
  pure value := fun files => (some value, files)
  bind program next := fun files =>
    match program files with
    | (some value, files) => next value files
    | (none, files) => (none, files)

theorem bind_apply (program : FileProgram Name Content Value)
    (next : Value → FileProgram Name Content Result) (files : FileSystem Name Content) :
    (program >>= next) files = match program files with
      | (some value, files) => next value files
      | (none, files) => (none, files) := rfl

/-- A program goes on after a part that has run. -/
theorem bind_of_done {program : FileProgram Name Content Value}
    {next : Value → FileProgram Name Content Result} {files later : FileSystem Name Content}
    {value : Value} (done : program files = (some value, later)) :
    (program >>= next) files = next value later := by
  rw [bind_apply, done]

end FileProgram

namespace FileSystem

/-- No incident is to come. -/
def Calm (files : FileSystem Name Content) : Prop := files.incident = none

/-- The incident that is still to come is one of an operation, after the next turns of it. -/
def Faces (files : FileSystem Name Content) (operation : FileOperation Name) (earlier : Nat)
    (trouble : Trouble Content) : Prop :=
  files.incident = some ⟨operation, earlier, trouble⟩

variable [DecidableEq Name]

/-- Some operations went well: what is still to come after them was to come before them. -/
def Onward (done : List (FileOperation Name)) (files later : FileSystem Name Content) : Prop :=
  ∀ operation earlier trouble, later.Faces operation earlier trouble →
    files.Faces operation (earlier + done.count operation) trouble

theorem Onward.trans {left right : List (FileOperation Name)}
    {first second third : FileSystem Name Content} (before : first.Onward left second)
    (after : second.Onward right third) : first.Onward (left ++ right) third := by
  intro _ _ _ faces
  have further := before _ _ _ (after _ _ _ faces)
  grind

/-- What an operation faces at its next turn was to come, if it is not one of those done. -/
theorem Onward.next {done : List (FileOperation Name)} {files later : FileSystem Name Content}
    (onward : files.Onward done later) {operation : FileOperation Name}
    {trouble : Trouble Content} (faces : later.Faces operation 0 trouble)
    (other : operation ∉ done) : files.Faces operation 0 trouble := by
  have before := onward _ _ _ faces
  rwa [List.count_eq_zero.mpr other] at before

/-- The trouble that befalls an operation. -/
def strike (files : FileSystem Name Content) (operation : FileOperation Name) :
    Option (Trouble Content) × FileSystem Name Content :=
  match files.incident with
  | none => (none, files)
  | some incident =>
    if incident.operation = operation then
      match incident.earlier with
      | 0 => (some incident.trouble, { files with incident := none })
      | earlier + 1 => (none, { files with incident := some { incident with earlier } })
    else (none, files)

/-- Either all is well, and what is to come was to come, or the incident of the operation
strikes, and no other follows. -/
theorem strike_cases (files : FileSystem Name Content) (operation : FileOperation Name) :
    (∃ later, files.strike operation = (none, later) ∧ later.disk = files.disk ∧
        files.Onward [operation] later) ∨
      ∃ trouble, files.strike operation = (some trouble, ⟨files.disk, none⟩) ∧
        files.Faces operation 0 trouble := by
  have unchanged (other : ∀ incident, files.incident = some incident →
      incident.operation ≠ operation) : files.Onward [operation] files := by
    intro faced earlier trouble faces
    have apart : operation ≠ faced := (other _ faces).symm
    simpa [apart] using faces
  unfold strike
  split
  · simp_all
  rename_i incident isIncident
  split
  · rename_i same
    obtain ⟨_, earlier, trouble⟩ := incident
    subst same
    cases earlier with
    | zero => exact .inr ⟨trouble, rfl, isIncident⟩
    | succ earlier =>
      refine .inl ⟨_, rfl, rfl, ?_⟩
      intro faced _ _ faces
      cases faces
      simpa [FileSystem.Faces] using isIncident
  simp_all

end FileSystem

variable (operation : FileOperation Name) {source target : Name}

namespace FileProgram

variable [DecidableEq Name]

/-- An operation with its effect, the value of a failure, and what is left of a file that was
to be written. -/
def perform (operation : FileOperation Name)
    (effect : (Name → Option Content) → Value × (Name → Option Content)) (failed : Value)
    (spoil : Option Content → (Name → Option Content) → Name → Option Content) :
    FileProgram Name Content Value := fun files =>
  match files.strike operation with
  | (none, files) => (some (effect files.disk).1, { files with disk := (effect files.disk).2 })
  | (some (.fails left), files) => (some failed, { files with disk := spoil left files.disk })
  | (some (.stops left), files) => (none, { files with disk := spoil left files.disk })

section

variable (effect : (Name → Option Content) → Value × (Name → Option Content))
include effect

variable (failed : Value) (spoil : Option Content → (Name → Option Content) → Name → Option Content)

/-- What an operation can do. -/
theorem perform_cases (files : FileSystem Name Content) :
    (∃ later, perform operation effect failed spoil files =
        (some (effect files.disk).1, later) ∧ later.disk = (effect files.disk).2 ∧
        files.Onward [operation] later) ∨
      (∃ left, perform operation effect failed spoil files =
        (some failed, ⟨spoil left files.disk, none⟩) ∧ files.Faces operation 0 (.fails left)) ∨
      ∃ left, perform operation effect failed spoil files =
        (none, ⟨spoil left files.disk, none⟩) ∧ files.Faces operation 0 (.stops left) := by
  unfold perform
  rcases files.strike_cases operation with ⟨later, struck, same, onward⟩ | ⟨_, struck, _⟩
  · rw [struck]
    refine .inl ⟨{ later with disk := (effect later.disk).2 }, ?_, by rw [same], onward⟩
    dsimp only
    rw [same]
  grind

theorem perform_calm (disk : Name → Option Content) :
    perform operation effect failed spoil ⟨disk, none⟩ =
      (some (effect disk).1, ⟨(effect disk).2, none⟩) := rfl

end

/-- What is left of a file whose writing did not end well. -/
def spoilFile (name : Name) : Option Content → (Name → Option Content) → Name → Option Content
  | none, disk => disk
  | some content, disk => Function.update disk name (some content)

/-- Operations other than writing leave nothing. -/
def spoilNothing : Option Content → (Name → Option Content) → Name → Option Content :=
  fun _ disk => disk

def createDirectory : FileProgram Name Content Bool :=
  perform .createDirectory (fun disk => (true, disk)) false spoilNothing

/-- Whether a file is there. A failure says that it is not. -/
def probe (name : Name) : FileProgram Name Content Bool :=
  perform (.probe name) (fun disk => ((disk name).isSome, disk)) false spoilNothing

def read (name : Name) : FileProgram Name Content (Option Content) :=
  perform (.read name) (fun disk => (disk name, disk)) none spoilNothing

/-- Create or replace a file, with its contents in safe storage. -/
def write (name : Name) (content : Content) : FileProgram Name Content Bool :=
  perform (.write name) (fun disk => (true, Function.update disk name (some content))) false
    (spoilFile name)

/-- Write a file that must not exist. -/
def writeNew (name : Name) (content : Content) : FileProgram Name Content Bool :=
  perform (.write name)
    (fun disk =>
      if (disk name).isSome then (false, disk)
      else (true, Function.update disk name (some content)))
    false (spoilFile name)

/-- Remove a file that may be absent. -/
def removeIfExists (name : Name) : FileProgram Name Content Bool :=
  perform (.remove name) (fun disk => (true, Function.update disk name none)) false spoilNothing

/-- Give a file another name, in place of a file of that name. -/
def rename (source target : Name) : FileProgram Name Content Bool :=
  perform (.rename source target)
    (fun disk =>
      match disk source with
      | none => (false, disk)
      | some content =>
        (true, Function.update (Function.update disk source none) target (some content)))
    false spoilNothing

/-! ### Rules -/

/-- What a program leads to from some files: its value, if the process does not stop, and the
files. -/
def Meets (program : FileProgram Name Content Value) (files : FileSystem Name Content)
    (post : Option Value → FileSystem Name Content → Prop) : Prop :=
  post (program files).1 (program files).2

variable {program : FileProgram Name Content Value} {files : FileSystem Name Content}
  {post : Option Value → FileSystem Name Content → Prop}
  {after : Option Result → FileSystem Name Content → Prop}

omit [DecidableEq Name] in
theorem meets_pure {value : Value} (holds : post (some value) files) :
    Meets (pure value) files post := holds

omit [DecidableEq Name] in
/-- The rule of sequences. -/
theorem meets_bind {next : Value → FileProgram Name Content Result}
    (first : Meets program files fun result later =>
      match result with
      | some value => Meets (next value) later after
      | none => after none later) :
    Meets (program >>= next) files after := by
  grind [Meets, bind_apply]

omit [DecidableEq Name] in
theorem Meets.mono {other : Option Value → FileSystem Name Content → Prop}
    (meets : Meets program files post)
    (weaker : ∀ result later, post result later → other result later) : Meets program files other :=
  weaker _ _ meets

/-- The rule of an operation: it is done, it fails and the rest is calm, or the process stops. -/
theorem meets_perform {operation : FileOperation Name}
    {effect : (Name → Option Content) → Value × (Name → Option Content)} {failed : Value}
    {spoil : Option Content → (Name → Option Content) → Name → Option Content}
    (done : ∀ later : FileSystem Name Content, later.disk = (effect files.disk).2 →
      files.Onward [operation] later → post (some (effect files.disk).1) later)
    (fails : ∀ left, files.Faces operation 0 (.fails left) →
      post (some failed) ⟨spoil left files.disk, none⟩)
    (stops : ∀ left, files.Faces operation 0 (.stops left) →
      post none ⟨spoil left files.disk, none⟩) :
    Meets (perform operation effect failed spoil) files post := by
  unfold Meets
  rcases perform_cases operation effect failed spoil files with
    ⟨later, ran, isDisk, onward⟩ | ⟨left, ran, faces⟩ | ⟨left, ran, faces⟩
  · rw [ran]
    exact done later isDisk onward
  · rw [ran]
    exact fails left faces
  · rw [ran]
    exact stops left faces

/-! ### Operations and what follows them -/

theorem meets_createDirectory_bind {next : Bool → FileProgram Name Content Result}
    (done : ∀ later : FileSystem Name Content, later.disk = files.disk →
      files.Onward [.createDirectory] later → Meets (next true) later after)
    (fails : Meets (next false) ⟨files.disk, none⟩ after) (stops : after none ⟨files.disk, none⟩) :
    Meets (createDirectory >>= next) files after :=
  meets_bind (meets_perform done (fun _ _ => fails) fun _ _ => stops)

variable {name : Name}

theorem meets_probe_bind {next : Bool → FileProgram Name Content Result}
    (done : ∀ later : FileSystem Name Content, later.disk = files.disk →
      files.Onward [.probe name] later → Meets (next (files.disk name).isSome) later after)
    (fails : Meets (next false) ⟨files.disk, none⟩ after) (stops : after none ⟨files.disk, none⟩) :
    Meets (probe name >>= next) files after :=
  meets_bind (meets_perform done (fun _ _ => fails) fun _ _ => stops)

theorem meets_read_bind {next : Option Content → FileProgram Name Content Result}
    (done : ∀ later : FileSystem Name Content, later.disk = files.disk →
      files.Onward [.read name] later → Meets (next (files.disk name)) later after)
    (fails : Meets (next none) ⟨files.disk, none⟩ after) (stops : after none ⟨files.disk, none⟩) :
    Meets (read name >>= next) files after :=
  meets_bind (meets_perform done (fun _ _ => fails) fun _ _ => stops)

variable {content : Content}

variable {next : Bool → FileProgram Name Content Result}

theorem meets_write_bind (done : ∀ later : FileSystem Name Content,
      later.disk = Function.update files.disk name (some content) →
      files.Onward [.write name] later → Meets (next true) later after)
    (fails : ∀ left, Meets (next false) ⟨spoilFile name left files.disk, none⟩ after)
    (stops : ∀ left, after none ⟨spoilFile name left files.disk, none⟩) :
    Meets (write name content >>= next) files after :=
  meets_bind (meets_perform done (fun left _ => fails left) fun left _ => stops left)

theorem meets_writeNew_bind (absent : files.disk name = none)
    (done : ∀ later : FileSystem Name Content,
      later.disk = Function.update files.disk name (some content) →
      files.Onward [.write name] later → Meets (next true) later after)
    (fails : ∀ left, Meets (next false) ⟨spoilFile name left files.disk, none⟩ after)
    (stops : ∀ left, after none ⟨spoilFile name left files.disk, none⟩) :
    Meets (writeNew name content >>= next) files after := by
  refine meets_bind (meets_perform (fun later _ _ => ?_) (fun left _ => fails left)
    fun left _ => stops left)
  simp_all

theorem meets_removeIfExists_bind (done : ∀ later : FileSystem Name Content,
      later.disk = Function.update files.disk name none → files.Onward [.remove name] later →
      Meets (next true) later after) (fails : ∀ left, files.Faces (.remove name) 0 (.fails left) →
      Meets (next false) ⟨files.disk, none⟩ after) (stops : after none ⟨files.disk, none⟩) :
    Meets (removeIfExists name >>= next) files after :=
  meets_bind (meets_perform done fails fun _ _ => stops)

theorem meets_rename_bind (present : files.disk source = some content)
    (done : ∀ later : FileSystem Name Content,
      later.disk = Function.update (Function.update files.disk source none) target (some content) →
      files.Onward [.rename source target] later → Meets (next true) later after)
    (fails : Meets (next false) ⟨files.disk, none⟩ after)
    (stops : ∀ left, files.Faces (.rename source target) 0 (.stops left) →
      after none ⟨files.disk, none⟩) : Meets (rename source target >>= next) files after := by
  refine meets_bind (meets_perform (fun later _ _ => ?_) (fun _ _ => fails) stops)
  simp_all

/-! ### Calm runs -/

variable {disk : Name → Option Content} {next : Bool → FileProgram Name Content Result}

@[simp] theorem meets_createDirectory_calm :
    Meets (createDirectory >>= next) ⟨disk, none⟩ after ↔ Meets (next true) ⟨disk, none⟩ after :=
  Iff.rfl

@[simp] theorem meets_probe_calm :
    Meets (probe name >>= next) ⟨disk, none⟩ after ↔
      Meets (next (disk name).isSome) ⟨disk, none⟩ after :=
  Iff.rfl

@[simp] theorem meets_read_calm {next : Option Content → FileProgram Name Content Result} :
    Meets (read name >>= next) ⟨disk, none⟩ after ↔ Meets (next (disk name)) ⟨disk, none⟩ after :=
  Iff.rfl

@[simp] theorem meets_write_calm :
    Meets (write name content >>= next) ⟨disk, none⟩ after ↔
      Meets (next true) ⟨Function.update disk name (some content), none⟩ after :=
  Iff.rfl

theorem meets_writeNew_calm (absent : disk name = none) :
    Meets (writeNew name content >>= next) ⟨disk, none⟩ after ↔
      Meets (next true) ⟨Function.update disk name (some content), none⟩ after := by
  unfold Meets
  rw [bind_apply, writeNew, perform_calm, absent]
  rfl

@[simp] theorem meets_removeIfExists_calm :
    Meets (removeIfExists name >>= next) ⟨disk, none⟩ after ↔
      Meets (next true) ⟨Function.update disk name none, none⟩ after :=
  Iff.rfl

theorem meets_rename_calm (present : disk source = some content) :
    Meets (rename source target >>= next) ⟨disk, none⟩ after ↔
      Meets (next true)
        ⟨Function.update (Function.update disk source none) target (some content), none⟩ after := by
  unfold Meets
  rw [bind_apply, rename, perform_calm, present]

end FileProgram

end SprakCapture.Data
