import Mathlib.Data.List.Lex
import Mathlib.Data.List.Sort
import Mathlib.Data.List.Perm.Subperm
import SprakCapture.Data.Machine
import SprakCapture.Data.Text

/-!
# Autosaves

The recording is saved when enough transactions are stored that were not at the last save, and the
oldest files are removed then. The first is told from the size of the collection, and the second
from the names of the files: neither is what it stands for when transactions leave the collection,
or when names do not sort as their numbers do.
-/

namespace SprakCapture.HttpProxy

open Data List

/-! ### When to save -/

/-- The triggers of the configuration. -/
structure AutoSaveConfiguration where
  enabled : Bool
  intervalSeconds : Nat
  everyNTransactions : Nat

structure AutoSaveRuntimeState where
  configuredAtMilliseconds : Nat
  lastSavedAtMilliseconds : Option Nat
  lastSavedTransactionCount : Nat
  lastSavedPath : Option String
  lastError : Option String

/-- The largest number of 64 bits. -/
def maximumU64 : Nat := 2 ^ 64 - 1

/-- Whether `saveIfDue` saves a recording of so many transactions. -/
def isDue (configuration : AutoSaveConfiguration) (runtime : AutoSaveRuntimeState)
    (now transactionCount : Nat) : Bool :=
  let intervalStart := runtime.lastSavedAtMilliseconds.getD runtime.configuredAtMilliseconds
  let dueByInterval := 0 < configuration.intervalSeconds &&
    min (configuration.intervalSeconds * 1000) maximumU64 ≤ now - intervalStart
  let dueByTransactionCount := 0 < configuration.everyNTransactions &&
    min (runtime.lastSavedTransactionCount + configuration.everyNTransactions) maximumU64 ≤
      transactionCount
  configuration.enabled && (dueByInterval || dueByTransactionCount)

/-- A tool and the recording that it saves. Saves wait for each other; each has the size of the
collection at its beginning, and how many transactions had been recorded then. -/
structure AutoSaves where
  configuration : AutoSaveConfiguration
  runtime : AutoSaveRuntimeState
  transactionCount : Nat
  saves : List (Nat × Nat)
  recorded : Nat
  recordedAtLastSave : Nat

inductive AutoSaveAction where
  /-- Transactions are recorded, and others are evicted, removed or cleared. -/
  | collect (recorded left : Nat)
  | saveIfDue (now : Nat)
  | saveNow
  /-- A save ends, with the path of its file or an error. -/
  | saved (index : Nat) (result : Except String String) (now : Nat)
  | replaceConfiguration (configuration : AutoSaveConfiguration) (now : Nat)

namespace AutoSaves

/-- A save begins. -/
def save (tool : AutoSaves) : AutoSaves :=
  { tool with saves := tool.saves ++ [(tool.transactionCount, tool.recorded)] }

def step (tool : AutoSaves) : AutoSaveAction → AutoSaves
  | .collect recorded left =>
    { tool with
      transactionCount := tool.transactionCount + recorded - left
      recorded := tool.recorded + recorded }
  | .saveIfDue now =>
    if isDue tool.configuration tool.runtime now tool.transactionCount then tool.save else tool
  | .saveNow => if tool.configuration.enabled then tool.save else tool
  | .saved index result now =>
    match tool.saves[index]?, result with
    | none, _ => tool
    | some (transactionCount, recorded), .ok path =>
      { tool with
        runtime :=
          { tool.runtime with
            lastSavedAtMilliseconds := some now
            lastSavedTransactionCount := transactionCount
            lastSavedPath := some path
            lastError := none }
        saves := tool.saves.eraseIdx index
        recordedAtLastSave := recorded }
    | some _, .error code =>
      { tool with
        runtime := { tool.runtime with lastError := some code }
        saves := tool.saves.eraseIdx index }
  | .replaceConfiguration configuration now =>
    { tool with
      configuration
      runtime :=
        { tool.runtime with configuredAtMilliseconds := now, lastSavedTransactionCount := 0 } }

/-- A tool that starts on a collection of some size. -/
def machine (configuration : AutoSaveConfiguration) (transactionCount now : Nat) :
    Machine AutoSaves AutoSaveAction where
  initial := ⟨configuration, ⟨now, none, 0, none, none⟩, transactionCount, [], 0, 0⟩
  step := step

/-- A save is due when enough transactions have been recorded since the last one that succeeded. -/
def Fires (tool : AutoSaves) : Prop :=
  tool.configuration.enabled = true → 0 < tool.configuration.everyNTransactions →
    tool.recordedAtLastSave + tool.configuration.everyNTransactions ≤ tool.recorded →
      ∀ now, isDue tool.configuration tool.runtime now tool.transactionCount = true

/-- What was recorded since a save is stored on top of what it saved. -/
structure Grown (tool : AutoSaves) : Prop where
  last : tool.runtime.lastSavedTransactionCount + tool.recorded ≤
    tool.transactionCount + tool.recordedAtLastSave
  saves : ∀ save ∈ tool.saves, save.1 + tool.recorded ≤ tool.transactionCount + save.2

/-- No transaction leaves the collection. -/
def keeps : AutoSaveAction → Bool
  | .collect _ left => left == 0
  | _ => true

variable {tool : AutoSaves}

theorem Grown.save (grown : tool.Grown) : tool.save.Grown where
  last := grown.last
  saves := by
    intro save member
    rcases mem_append.mp member with before | new
    · exact grown.saves save before
    · obtain rfl := mem_singleton.mp new
      exact Nat.le_refl _

theorem Grown.step (grown : tool.Grown) {action : AutoSaveAction} (keeps : keeps action = true) :
    (tool.step action).Grown := by
  cases action with
  | collect _ left =>
    obtain rfl : left = 0 := by simpa [AutoSaves.keeps] using keeps
    have last := grown.last
    refine ⟨by simp only [AutoSaves.step]; omega, fun save member => ?_⟩
    have before := grown.saves save member
    simp only [AutoSaves.step]
    omega
  | saveIfDue now | saveNow =>
    rw [AutoSaves.step]
    split
    · exact grown.save
    · exact grown
  | saved _ _ now =>
    simp only [AutoSaves.step]
    split
    · exact grown
    · next found =>
      exact ⟨grown.saves _ (mem_of_getElem? found), fun save member =>
        grown.saves save (mem_of_mem_eraseIdx member)⟩
    · exact ⟨grown.last, fun save member => grown.saves save (mem_of_mem_eraseIdx member)⟩
  | replaceConfiguration _ now =>
    have last := grown.last
    exact ⟨by simp only [AutoSaves.step]; omega, grown.saves⟩

/-- As long as no transaction leaves the collection, enough new ones make a save due. -/
theorem fires_run (configuration : AutoSaveConfiguration) (transactionCount now : Nat)
    {actions : List AutoSaveAction} (kept : ∀ action ∈ actions, keeps action = true) :
    ((machine configuration transactionCount now).run actions).Fires := by
  have grown : ((machine configuration transactionCount now).run actions).Grown :=
    Machine.guarded_run ⟨Nat.zero_le _, nofun⟩ (fun _ _ grown keeps => grown.step keeps) (Machine.guarded_of_forall _ kept)
  intro enabled positive _ _
  have last := grown.last
  simp only [isDue, enabled, positive, Bool.true_and, decide_true, Bool.or_eq_true,
    decide_eq_true_eq]
  exact .inr ((Nat.min_le_left ..).trans (by omega))

/-- Three transactions, and two more after they were saved. -/
theorem fires_run_twice :
    ((machine ⟨true, 0, 2⟩ 0 0).run
      [.collect 3 0, .saveIfDue 7, .saved 0 (.ok "a") 8, .collect 2 0]).Fires :=
  fires_run ⟨true, 0, 2⟩ 0 0 (by decide)

/-- A transaction that takes the place of another does not make a save due. -/
theorem not_fires_evicting :
    ¬ ((machine ⟨true, 0, 1⟩ 0 0).run
      [.collect 1 0, .saveIfDue 7, .saved 0 (.ok "a") 8, .collect 1 1]).Fires := fun fires =>
  absurd (fires rfl Nat.one_pos (Nat.le_refl 2) 9) (by decide)

end AutoSaves

/-! ### Which files to remove -/

inductive AutoSaveFormat where
  | native
  | har

def AutoSaveFormat.extension : AutoSaveFormat → List Char
  | .native => "json".toList
  | .har => "har".toList

def autoSavePrefix : List Char := "recording-".toList

/-- The name that `exportRecording` gives a file. -/
def archiveName (timestamp sequence : Nat) (format : AutoSaveFormat) : List Char :=
  autoSavePrefix ++ Nat.toDigits 10 timestamp ++ '-' :: Nat.toDigits 10 sequence ++
    '.' :: format.extension

def isAutoSaveArchive (name : List Char) : Bool :=
  autoSavePrefix.isPrefixOf name &&
    (".json".toList.isSuffixOf name || ".har".toList.isSuffixOf name)

/-- The order of names as texts. It is also the order of their UTF-8 forms. -/
def sortsBefore (first second : List Char) : Bool :=
  decide (first.map Char.toNat ≤ second.map Char.toNat)

/-- The archives of a directory in the order in which they are removed. A name that is not text is
no archive. -/
def sortedArchives (files : List (List Char)) : List (List Char) :=
  (files.filter isAutoSaveArchive).mergeSort sortsBefore

/-- The files that `rotateArchives` removes. -/
def rotateArchives (files : List (List Char)) (maximum : Nat) : List (List Char) :=
  (sortedArchives files).take ((sortedArchives files).length - maximum)

/-- A file of the tool. -/
def IsOwn (name : List Char) : Prop :=
  ∃ timestamp sequence format, name = archiveName timestamp sequence format

/-- A file of the tool has no later timestamp and sequence than another. -/
def NotNewer (first second : List Char) : Prop :=
  ∀ timestamp sequence format timestamp' sequence' format',
    first = archiveName timestamp sequence format →
      second = archiveName timestamp' sequence' format' →
        timestamp < timestamp' ∨ timestamp = timestamp' ∧ sequence ≤ sequence'

/-- Only files of the tool are removed, and the newest ones stay, with the one just written. -/
structure RotatesOldest (files : List (List Char)) (written : List Char) (maximum : Nat) :
    Prop where
  own : ∀ name ∈ rotateArchives files maximum, IsOwn name
  written : written ∉ rotateArchives files maximum
  oldest : ∀ gone ∈ rotateArchives files maximum, ∀ kept ∈ files, IsOwn kept →
    kept ∉ rotateArchives files maximum → NotNewer gone kept
  maximum : ∃ kept : List (List Char), kept.Nodup ∧
    (∀ name, name ∈ kept ↔ name ∈ files ∧ IsOwn name ∧ name ∉ rotateArchives files maximum) ∧
      kept.length = min maximum (kept.length + (rotateArchives files maximum).length)

variable {files : List (List Char)} {written : List Char}

theorem isAutoSaveArchive_of_isOwn {name : List Char} (isOwn : IsOwn name) :
    isAutoSaveArchive name = true := by
  obtain ⟨timestamp, sequence, format, rfl⟩ := isOwn
  have begins : autoSavePrefix <+: archiveName timestamp sequence format := by
    rw [archiveName, append_assoc, append_assoc]
    exact prefix_append _ _
  have ends : '.' :: format.extension <:+ archiveName timestamp sequence format :=
    suffix_append _ _
  rw [isAutoSaveArchive, isPrefixOf_iff_prefix.mpr begins, Bool.true_and, Bool.or_eq_true,
    isSuffixOf_iff_suffix, isSuffixOf_iff_suffix]
  cases format with
  | native => exact .inl ends
  | har => exact .inr ends

theorem mem_sortedArchives {name : List Char} :
    name ∈ sortedArchives files ↔ name ∈ files ∧ isAutoSaveArchive name = true := by
  rw [sortedArchives, mem_mergeSort, mem_filter]

theorem sortsBefore_antisymm {first second : List Char} (before : sortsBefore first second = true)
    (after : sortsBefore second first = true) : first = second :=
  map_injective_iff.mpr (fun _ _ => Char.toNat_inj.mp)
    (le_antisymm (of_decide_eq_true before) (of_decide_eq_true after))

theorem pairwise_sortedArchives : (sortedArchives files).Pairwise (sortsBefore · ·) := by
  refine pairwise_mergeSort (fun first second _ => ?_) (fun first second => ?_) _
  · simp only [sortsBefore, decide_eq_true_eq]
    exact le_trans
  · simpa [sortsBefore] using le_total (first.map Char.toNat) (second.map Char.toNat)

end SprakCapture.HttpProxy
