import SprakCapture.Data.Outcome
import SprakCapture.HttpProxy.RootAuthority

/-!
# Replacement of the root certificate

A call that fails, or is stopped, leaves the old certificate and key or the new ones, unless the
process stops while the two files are being switched: no file has its final name then, or only
one. `rootReplacement_atomic` says this for every run.
-/

namespace SprakCapture.HttpProxy

open Data FileProgram Option

section Replacement

variable {Pem Der Info Leaf : Type} {library : RootLibrary Pem Der Info}

/-- The files that `loadOrGenerate` looks for. -/
def rootPair (disk : RootFile → Option Pem) : Option Pem × Option Pem :=
  (disk .certificate, disk .key)

/-- The pair of a generated root. -/
def GeneratedRootMaterial.pair (generated : GeneratedRootMaterial library) :
    Option Pem × Option Pem :=
  (some generated.rootPem, some generated.rootKeyPem)

/-- The process is not stopped right before one of some operations. -/
def Quiet (operations : List (FileOperation RootFile)) (files : FileSystem RootFile Pem) : Prop :=
  ∀ operation ∈ operations, ∀ left, ¬ files.Faces operation 0 (.stops left)

theorem Quiet.onward {operations : List (FileOperation RootFile)}
    {files later : FileSystem RootFile Pem} {done : List (FileOperation RootFile)}
    (quiet : Quiet operations files) (onward : files.Onward done later)
    (apart : ∀ operation ∈ operations, operation ∉ done) : Quiet operations later :=
  fun operation member left faces =>
    quiet operation member left (onward.next faces (apart operation member))

variable {files : FileSystem RootFile Pem}

theorem Quiet.sub {operations fewer : List (FileOperation RootFile)}
    (quiet : Quiet operations files) (among : ∀ operation ∈ fewer, operation ∈ operations) :
    Quiet fewer files :=
  fun operation member => quiet operation (among operation member)

variable {disk : RootFile → Option Pem}

theorem quiet_calm {operations : List (FileOperation RootFile)} :
    Quiet operations (⟨disk, none⟩ : FileSystem RootFile Pem) := by
  intro _ _ _ faces
  cases faces

/-- The operations before which some file of the root may not have its final name. Where there is
a root, these are the ones between the renaming of the current certificate and that of the new
key. -/
def switchOperations (disk : RootFile → Option Pem) : List (FileOperation RootFile) :=
  if (disk .certificate).isSome then
    [.rename .key .keyBackup, .rename .certificateNext .certificate, .rename .keyNext .key]
  else [.rename .keyNext .key]

/-- What comes before the switch renames nothing. -/
theorem Quiet.untilSwitch {files later : FileSystem RootFile Pem}
    {done : List (FileOperation RootFile)} (quiet : Quiet (switchOperations disk) files)
    (onward : files.Onward done later) (others : ∀ operation ∈ done, operation.isRename = false) :
    Quiet (switchOperations disk) later := by
  refine quiet.onward onward fun operation member _ => ?_
  have isRename : operation.isRename = true := by
    unfold switchOperations at member
    split at member
    · simp only [List.mem_cons, List.not_mem_nil, or_false] at member
      rcases member with rfl | rfl | rfl <;> rfl
    · rw [List.mem_singleton.mp member]
      rfl
  simp_all

/-- What `persistRootMaterial` may lead to. -/
def Persisted (generated : GeneratedRootMaterial library) (before : RootFile → Option Pem)
    (result : Option (Except SslMitmError Unit)) (later : FileSystem RootFile Pem) : Prop :=
  match result with
  | some (.ok ()) => rootPair later.disk = generated.pair
  | some (.error _) => rootPair later.disk = rootPair before
  | none => rootPair later.disk = rootPair before ∨ rootPair later.disk = generated.pair

/-- What the backups must hold for a failure to be undone. -/
def Restores (hadCurrent : Bool) (before disk : RootFile → Option Pem) : Prop :=
  if hadCurrent then
    ∃ pem key, rootPair before = (some pem, some key) ∧ disk .certificateBackup = some pem ∧
      disk .keyBackup = some key
  else rootPair before = (none, none)

variable {generated : GeneratedRootMaterial library}

/-- A failure is undone. -/
theorem meets_restoreRootMaterial {before disk : RootFile → Option Pem} {hadCurrent : Bool}
    (restores : Restores hadCurrent before disk) :
    Meets (restoreRootMaterial hadCurrent) ⟨disk, none⟩ (Persisted generated before) := by
  rw [restoreRootMaterial, meets_removeIfExists_calm, meets_removeIfExists_calm]
  cases hadCurrent with
  | false =>
    have absent : rootPair before = (none, none) := restores
    refine meets_pure (show rootPair _ = rootPair before from ?_)
    rw [absent]
    simp [rootPair]
  | true =>
    obtain ⟨pem, key, pair, isPem, isKey⟩ := restores
    have pemThere : Function.update (Function.update disk .certificate none) .key none
        .certificateBackup = some pem := by simpa using isPem
    rw [if_pos rfl, meets_rename_calm pemThere]
    rw [meets_rename_calm (show _ = some key by simpa using isKey)]
    refine meets_pure (show rootPair _ = rootPair before from ?_)
    rw [pair]
    simp [rootPair]

/-- The new files are ready. -/
structure Ready (generated : GeneratedRootMaterial library) (disk : RootFile → Option Pem) :
    Prop where
  certificate : disk .certificateNext = some generated.rootPem
  key : disk .keyNext = some generated.rootKeyPem

/-- The new pair is in place. -/
def Replaced (generated : GeneratedRootMaterial library)
    (result : Option (Except SslMitmError Unit)) (later : FileSystem RootFile Pem) : Prop :=
  result = some (.ok ()) ∧ later.incident = none ∧ rootPair later.disk = generated.pair

variable {before : RootFile → Option Pem}

variable {result : Option (Except SslMitmError Unit)} {name : RootFile}
  {later : FileSystem RootFile Pem}

theorem Replaced.persisted (replaced : Replaced generated result later) :
    Persisted generated before result later := by
  obtain ⟨rfl, -, pair⟩ := replaced
  exact pair

theorem meets_switchRootMaterial_calm (ready : Ready generated disk) (hadCurrent : Bool) :
    Meets (switchRootMaterial hadCurrent) ⟨disk, none⟩ (Replaced generated) := by
  rw [switchRootMaterial, meets_rename_calm ready.certificate, if_pos rfl,
    meets_rename_calm (show _ = some generated.rootKeyPem by simpa using ready.key), if_pos rfl]
  refine meets_pure ⟨rfl, rfl, ?_⟩
  simp [rootPair, GeneratedRootMaterial.pair]

/-- Backups that cannot be removed are no failure. -/
theorem meets_cleanUp (pair : rootPair files.disk = generated.pair) :
    Meets (do
        let _ ← removeIfExists .certificateBackup
        let _ ← removeIfExists .keyBackup
        pure (.ok ()))
      files (Persisted generated before) := by
  have kept {disk : RootFile → Option Pem} {name : RootFile} (apart : name ≠ .certificate)
      (other : name ≠ .key) : rootPair (Function.update disk name none) = rootPair disk := by
    grind [rootPair]
  refine meets_removeIfExists_bind (fun first isFirst _ => ?_) (fun _ _ => ?_) (.inr pair)
  · have same : rootPair first.disk = generated.pair := by
      rw [isFirst, kept (by decide) (by decide), pair]
    refine meets_removeIfExists_bind (fun second isSecond _ => ?_) (fun _ _ => meets_pure same)
      (.inr same)
    refine meets_pure (show rootPair second.disk = generated.pair from ?_)
    rw [isSecond, kept (by decide) (by decide), same]
  · refine meets_pure (show rootPair _ = generated.pair from ?_)
    rw [kept (by decide) (by decide), pair]

/-- Both new files get their final names, or the old pair is there again. -/
theorem meets_switchRootMaterial {hadCurrent : Bool} (ready : Ready generated files.disk)
    (restores : Restores hadCurrent before files.disk)
    (stopsFirst : ∀ left, files.Faces (.rename .certificateNext .certificate) 0 (.stops left) →
      rootPair files.disk = rootPair before) (quiet : Quiet [.rename .keyNext .key] files) :
    Meets (switchRootMaterial hadCurrent) files (Persisted generated before) := by
  have restoresLater {disk : RootFile → Option Pem}
      (certificate : disk .certificateBackup = files.disk .certificateBackup)
      (key : disk .keyBackup = files.disk .keyBackup) : Restores hadCurrent before disk := by
    grind [Restores]
  refine meets_rename_bind ready.certificate (fun first isFirst onward => ?_)
    (meets_restoreRootMaterial restores) fun left faces => .inl (stopsFirst left faces)
  have isKey : first.disk .keyNext = some generated.rootKeyPem := by
    rw [isFirst]
    simpa using ready.key
  refine meets_rename_bind isKey (fun _ isSecond _ => ?_)
    (meets_restoreRootMaterial (restoresLater ?_ ?_))
    fun left faces => absurd faces (quiet.onward onward (by decide) _ (by decide) left)
  · refine meets_cleanUp ?_
    rw [isSecond, isFirst]
    simp [rootPair, GeneratedRootMaterial.pair]
  · rw [isFirst]
    simp
  · rw [isFirst]
    simp

theorem meets_backUpRootMaterial {pem key : Pem} (ready : Ready generated files.disk)
    (same : rootPair files.disk = rootPair before) (pair : rootPair before = (some pem, some key))
    (quiet : Quiet [.rename .key .keyBackup, .rename .certificateNext .certificate,
      .rename .keyNext .key] files) :
    Meets backUpRootMaterial files (Persisted generated before) := by
  obtain ⟨isPem, isKey⟩ := Prod.mk.inj (same.trans pair)
  refine meets_stored (meets_rename_bind isPem (fun first isFirst onward => ?_)
    (meets_pure same) fun _ _ => .inl same)
  have quietFirst := quiet.onward onward (by decide)
  have isKeyFirst : first.disk .key = some key := by
    rw [isFirst]
    simpa using isKey
  refine meets_rename_bind isKeyFirst (fun second isSecond onwardSecond => ?_) ?_
    fun left faces => absurd faces (quietFirst _ (by decide) left)
  · have quietSecond : Quiet [.rename .certificateNext .certificate, .rename .keyNext .key]
        second := (quietFirst.sub (by decide)).onward onwardSecond (by decide)
    refine meets_switchRootMaterial ⟨?_, ?_⟩ ⟨pem, key, pair, ?_, ?_⟩
      (fun left faces => absurd faces (quietSecond _ (by decide) left))
      (quietSecond.sub (by decide))
    · rw [isSecond, isFirst]
      simpa using ready.certificate
    · rw [isSecond, isFirst]
      simpa using ready.key
    · rw [isSecond, isFirst]
      simp
    · rw [isSecond]
      simp
  · refine meets_pure (show rootPair _ = rootPair before from ?_)
    rw [pair, isFirst]
    simp [rootPair, isKey]

theorem meets_replaceRootMaterial (ready : Ready generated files.disk)
    (same : rootPair files.disk = rootPair before)
    (whole : (before .certificate).isSome = (before .key).isSome)
    (quiet : Quiet (switchOperations before) files) :
    Meets replaceRootMaterial files (Persisted generated before) := by
  obtain ⟨sameCertificate, sameKey⟩ := Prod.mk.inj same
  unfold switchOperations at quiet
  refine meets_probe_bind (fun _ isFirst onward => ?_) ?_ (.inl same)
  · rw [← isFirst] at same ready
    cases isPem : before .certificate with
    | none =>
      have noKey : before .key = none := by simpa [isPem] using whole
      rw [isPem, if_neg (by simp)] at quiet
      rw [sameCertificate, isPem]
      exact meets_switchRootMaterial ready (Prod.ext isPem noKey) (fun _ _ => same)
        (quiet.onward onward (by decide))
    | some =>
      have hasKey : (before .key).isSome := by simp [← whole, isPem]
      obtain ⟨key, isKey⟩ := isSome_iff_exists.mp hasKey
      rw [isPem, if_pos isSome_some] at quiet
      rw [sameCertificate, isPem]
      refine meets_probe_bind (fun _ isSecond onwardSecond => ?_) ?_ (.inl same)
      · rw [← isSecond] at same ready
        rw [isFirst, sameKey, isKey]
        exact meets_backUpRootMaterial ready same (Prod.ext isPem isKey)
          (quiet.onward (onward.trans onwardSecond) (by decide))
      · exact (meets_switchRootMaterial_calm ready false).mono fun _ _ => Replaced.persisted
  · exact (meets_switchRootMaterial_calm ready false).mono fun _ _ => Replaced.persisted

/-- The pair does not change with another file. -/
theorem rootPair_update (content : Option Pem) (certificate : name ≠ .certificate)
    (key : name ≠ .key) : rootPair (Function.update disk name content) = rootPair disk := by
  grind [rootPair]

theorem rootPair_spoilFile (left : Option Pem) (certificate : name ≠ .certificate)
    (key : name ≠ .key) : rootPair (spoilFile name left disk) = rootPair disk := by
  cases left with
  | none => rfl
  | some => exact rootPair_update _ certificate key

theorem meets_persistRootMaterial (generated : GeneratedRootMaterial library)
    (whole : (files.disk .certificate).isSome = (files.disk .key).isSome)
    (quiet : Quiet (switchOperations files.disk) files) :
    Meets (persistRootMaterial generated) files (Persisted generated files.disk) := by
  have removed {disk : RootFile → Option Pem} {name : RootFile} (certificate : name ≠ .certificate)
      (key : name ≠ .key) (same : rootPair disk = rootPair files.disk) :
      rootPair (Function.update disk name none) = rootPair files.disk :=
    (rootPair_update none certificate key).trans same
  refine meets_stored (meets_removeIfExists_bind (fun first isFirst onward₁ => ?_)
    (fun _ _ => meets_pure rfl) (.inl rfl))
  have same₁ : rootPair first.disk = rootPair files.disk :=
    isFirst ▸ removed (by decide) (by decide) rfl
  refine meets_stored (meets_removeIfExists_bind (fun second isSecond onward₂ => ?_)
    (fun _ _ => meets_pure same₁) (.inl same₁))
  have same₂ : rootPair second.disk = rootPair files.disk :=
    isSecond ▸ removed (by decide) (by decide) same₁
  refine meets_stored (meets_removeIfExists_bind (fun third isThird onward₃ => ?_)
    (fun _ _ => meets_pure same₂) (.inl same₂))
  have same₃ : rootPair third.disk = rootPair files.disk :=
    isThird ▸ removed (by decide) (by decide) same₂
  refine meets_stored (meets_removeIfExists_bind (fun fourth isFourth onward₄ => ?_)
    (fun _ _ => meets_pure same₃) (.inl same₃))
  have same₄ : rootPair fourth.disk = rootPair files.disk :=
    isFourth ▸ removed (by decide) (by decide) same₃
  have spoiled {disk : RootFile → Option Pem} {name : RootFile} (left : Option Pem)
      (certificate : name ≠ .certificate) (key : name ≠ .key)
      (same : rootPair disk = rootPair files.disk) :
      rootPair (spoilFile name left disk) = rootPair files.disk :=
    (rootPair_spoilFile left certificate key).trans same
  refine meets_stored (meets_write_bind (fun fifth isFifth onward₅ => ?_)
    (fun left => meets_pure (spoiled left (by decide) (by decide) same₄))
    fun left => .inl (spoiled left (by decide) (by decide) same₄))
  have same₅ : rootPair fifth.disk = rootPair files.disk := by
    grind [rootPair_update]
  have absent : fifth.disk .keyNext = none := by
    rw [isFifth, isFourth, isThird, isSecond]
    simp
  refine meets_stored (meets_writeNew_bind absent (fun sixth isSixth onward₆ => ?_)
    (fun left => meets_pure (spoiled left (by decide) (by decide) same₅))
    fun left => .inl (spoiled left (by decide) (by decide) same₅))
  have same₆ : rootPair sixth.disk = rootPair files.disk := by
    grind [rootPair_update]
  have onward :=
    ((((onward₁.trans onward₂).trans onward₃).trans onward₄).trans onward₅).trans onward₆
  refine meets_replaceRootMaterial ⟨?_, ?_⟩ same₆ whole (quiet.untilSwitch onward (by decide))
  · rw [isSixth, isFifth]
    simp
  · rw [isSixth]
    simp

theorem meets_persistRootMaterial_calm (generated : GeneratedRootMaterial library)
    (absent : rootPair disk = (none, none)) :
    Meets (persistRootMaterial generated) ⟨disk, none⟩ (Replaced generated) := by
  obtain ⟨noCertificate, _⟩ := Prod.mk.inj absent
  simp only [persistRootMaterial, stored, meets_removeIfExists_calm, meets_write_calm, if_true]
  rw [meets_writeNew_calm (by simp), if_pos rfl, replaceRootMaterial, meets_probe_calm,
    if_neg (by simpa using noCertificate)]
  exact meets_switchRootMaterial_calm ⟨by simp, by simp⟩ false

/-! ### Loading -/

/-- Two texts that load as a root. -/
def Loads (library : RootLibrary Pem Der Info) (rootPem rootKeyPem : Pem) : Prop :=
  ∃ rootDer info, library.parseSingleCertificate rootPem = .ok rootDer ∧
    library.validateIssuerPair rootPem rootKeyPem = .ok () ∧
    library.certificateInfo rootDer = .ok info

theorem GeneratedRootMaterial.loads (generated : GeneratedRootMaterial library) :
    Loads library generated.rootPem generated.rootKeyPem := by
  obtain ⟨info, informs⟩ := generated.informs
  exact ⟨generated.rootDer, info, generated.parses, generated.belongs, informs⟩

/-- A directory with no root, or with both files of one. -/
def Sound (library : RootLibrary Pem Der Info) (disk : RootFile → Option Pem) : Prop :=
  rootPair disk = (none, none) ∨
    ∃ rootPem rootKeyPem, rootPair disk = (some rootPem, some rootKeyPem) ∧
      Loads library rootPem rootKeyPem

theorem Sound.whole (sound : Sound library disk) :
    (disk .certificate).isSome = (disk .key).isSome := by
  rcases sound with pair | ⟨_, _, pair, -⟩
  all_goals
    obtain ⟨isCertificate, isKey⟩ := Prod.mk.inj pair
    simp [isCertificate, isKey]

/-- Loading changes nothing. -/
theorem meets_loadRoot :
    Meets (loadRoot library : FileProgram RootFile Pem
        (Except SslMitmError (CertificateAuthority Pem Der Info Leaf))) files
      fun _ later => later.disk = files.disk := by
  refine meets_read_bind (fun _ isFirst _ => ?_) rfl rfl
  split
  · exact isFirst
  · refine meets_read_bind (fun _ isSecond _ => ?_) isFirst isFirst
    split <;> exact isSecond.trans isFirst

/-- What a call leaves is the pair that was there, or the generated one. -/
def LeavesPair (generated : Except SslMitmError (GeneratedRootMaterial library))
    (before later : RootFile → Option Pem) : Prop :=
  rootPair later = rootPair before ∨ ∃ root, generated = .ok root ∧ rootPair later = root.pair

theorem Persisted.leavesPair (persisted : Persisted generated before result later) :
    LeavesPair (.ok generated) before later.disk := by
  unfold Persisted at persisted
  split at persisted
  · exact .inr ⟨generated, rfl, persisted⟩
  · exact .inl persisted
  · exact persisted.imp id fun pair => ⟨generated, rfl, pair⟩

theorem meets_generateRoot {generated : Except SslMitmError (GeneratedRootMaterial library)}
    (whole : (files.disk .certificate).isSome = (files.disk .key).isSome)
    (quiet : Quiet (switchOperations files.disk) files) :
    Meets (generateRoot generated : FileProgram RootFile Pem
        (Except SslMitmError (CertificateAuthority Pem Der Info Leaf))) files
      fun _ later => LeavesPair generated files.disk later.disk := by
  cases generated with
  | error error => exact .inl rfl
  | ok root =>
    refine meets_bind ((meets_persistRootMaterial root whole quiet).mono ?_)
    intro result later persisted
    have leaves := persisted.leavesPair
    cases result with
    | none => exact leaves
    | some result =>
      cases result with
      | error error => exact leaves
      | ok _ => exact meets_loadRoot.mono fun _ _ same => same ▸ leaves

variable (Leaf) in
theorem meets_loadOrGenerate (generated : Except SslMitmError (GeneratedRootMaterial library))
    (whole : (files.disk .certificate).isSome = (files.disk .key).isSome)
    (quiet : Quiet (switchOperations files.disk) files) :
    Meets (loadOrGenerate generated : FileProgram RootFile Pem
        (Except SslMitmError (CertificateAuthority Pem Der Info Leaf))) files
      fun _ later => LeavesPair generated files.disk later.disk := by
  have unchanged {later : FileSystem RootFile Pem} (same : later.disk = files.disk) :
      LeavesPair generated files.disk later.disk := .inl (by rw [same])
  refine meets_createDirectory_bind (fun _ isFirst onward₁ => ?_) (unchanged rfl) (unchanged rfl)
  -- Whatever the two questions are answered, the branches leave a pair.
  have branches (certificateExists keyExists : Bool) {later : FileSystem RootFile Pem}
      (same : later.disk = files.disk) (quietLater : Quiet (switchOperations files.disk) later) :
      Meets (if certificateExists ≠ keyExists then pure (.error .certificateStorage)
        else if certificateExists then loadRoot library
        else generateRoot generated : FileProgram RootFile Pem
          (Except SslMitmError (CertificateAuthority Pem Der Info Leaf))) later
        fun _ last => LeavesPair generated files.disk last.disk := by
    split
    · exact unchanged same
    split
    · exact meets_loadRoot.mono fun _ _ sameLast => unchanged (sameLast.trans same)
    grind [meets_generateRoot]
  refine meets_probe_bind (fun _ isSecond onward₂ => ?_) ?_ (unchanged isFirst)
  · have sameSecond := isSecond.trans isFirst
    refine meets_probe_bind (fun _ isThird onward₃ => ?_) ?_ (unchanged sameSecond)
    · have sameThird := isThird.trans sameSecond
      exact branches _ _ sameThird
        (quiet.untilSwitch ((onward₁.trans onward₂).trans onward₃) (by decide))
    · exact branches _ _ sameSecond quiet_calm
  · exact branches _ _ isFirst quiet_calm

/-- What a later start of the process loads: the pair of its root, or an error. The last argument
is what would be generated. -/
def loadedPair (Leaf : Type) (disk : RootFile → Option Pem)
    (fresh : GeneratedRootMaterial library) : Option (Except SslMitmError (Pem × Pem)) :=
  let load : FileProgram RootFile Pem
    (Except SslMitmError (CertificateAuthority Pem Der Info Leaf)) := loadOrGenerate (.ok fresh)
  (load ⟨disk, none⟩).1.map (Except.map fun authority => (authority.rootPem, authority.rootKeyPem))

variable (Leaf) in
theorem loadRoot_of_pair {rootPem rootKeyPem : Pem}
    (pair : rootPair disk = (some rootPem, some rootKeyPem))
    (loads : Loads library rootPem rootKeyPem) :
    Meets (loadRoot library : FileProgram RootFile Pem
        (Except SslMitmError (CertificateAuthority Pem Der Info Leaf))) ⟨disk, none⟩
      fun result _ => result.map (Except.map fun authority =>
        (authority.rootPem, authority.rootKeyPem)) = some (.ok (rootPem, rootKeyPem)) := by
  obtain ⟨isCertificate, isKey⟩ := Prod.mk.inj pair
  obtain ⟨_, _, parses, belongs, informs⟩ := loads
  rw [loadRoot, meets_read_calm, isCertificate, meets_read_calm, isKey]
  refine meets_pure ?_
  rw [parses, belongs, Checked.ok_bind, informs]
  rfl

/-- A pair that loads is loaded. -/
theorem loadedPair_of_pair {rootPem rootKeyPem : Pem}
    (pair : rootPair disk = (some rootPem, some rootKeyPem))
    (loads : Loads library rootPem rootKeyPem) (fresh : GeneratedRootMaterial library) :
    loadedPair Leaf disk fresh = some (.ok (rootPem, rootKeyPem)) := by
  obtain ⟨_, _⟩ := Prod.mk.inj pair
  have meets := loadRoot_of_pair Leaf pair loads
  suffices run : Meets (loadOrGenerate (.ok fresh) : FileProgram RootFile Pem
      (Except SslMitmError (CertificateAuthority Pem Der Info Leaf))) ⟨disk, none⟩
      fun result _ => result.map (Except.map fun authority =>
        (authority.rootPem, authority.rootKeyPem)) = some (.ok (rootPem, rootKeyPem)) from run
  grind [loadOrGenerate, stored, meets_createDirectory_calm, meets_probe_calm]

theorem loadedPair_of_absent (pair : rootPair disk = (none, none))
    (fresh : GeneratedRootMaterial library) :
    loadedPair Leaf disk fresh = some (.ok (fresh.rootPem, fresh.rootKeyPem)) := by
  obtain ⟨noCertificate, noKey⟩ := Prod.mk.inj pair
  suffices run : Meets (loadOrGenerate (.ok fresh) : FileProgram RootFile Pem
      (Except SslMitmError (CertificateAuthority Pem Der Info Leaf))) ⟨disk, none⟩
      fun result _ => result.map (Except.map fun authority =>
        (authority.rootPem, authority.rootKeyPem)) =
          some (.ok (fresh.rootPem, fresh.rootKeyPem)) from run
  rw [loadOrGenerate, stored, meets_createDirectory_calm, if_pos rfl, meets_probe_calm,
    meets_probe_calm, noCertificate, noKey]
  refine meets_bind ((meets_persistRootMaterial_calm fresh pair).mono ?_)
  rintro _ ⟨_, _⟩ ⟨rfl, calm, isPair⟩
  subst calm
  exact loadRoot_of_pair Leaf isPair fresh.loads

theorem loadedPair_congr {first second : RootFile → Option Pem} (sound : Sound library first)
    (same : rootPair second = rootPair first) (fresh : GeneratedRootMaterial library) :
    loadedPair Leaf second fresh = loadedPair Leaf first fresh := by
  rcases sound with pair | ⟨_, _, pair, loads⟩
  · grind [loadedPair_of_absent]
  · rw [loadedPair_of_pair pair loads, loadedPair_of_pair (same.trans pair) loads]

variable (Leaf) in
theorem exists_loadedPair (sound : Sound library disk) (fresh : GeneratedRootMaterial library) :
    ∃ pair, loadedPair Leaf disk fresh = some (.ok pair) := by
  rcases sound with pair | ⟨_, _, pair, loads⟩
  · exact ⟨_, loadedPair_of_absent pair fresh⟩
  · exact ⟨_, loadedPair_of_pair pair loads fresh⟩

theorem Sound.of_pair {before later : RootFile → Option Pem} (sound : Sound library before)
    (same : rootPair later = rootPair before) : Sound library later := by
  unfold Sound at sound ⊢
  rwa [same]

/-! ### Calls -/

namespace RootAction

/-- The pair that the library generates for a call. -/
def newPair : RootAction library Leaf → Option (Pem × Pem)
  | .start (.ok root) _ => some (root.rootPem, root.rootKeyPem)
  | .regenerate (.ok root) _ => some (root.rootPem, root.rootKeyPem)
  | _ => none

def incident : RootAction library Leaf → Option (Incident RootFile Pem)
  | .start _ incident => incident
  | .regenerate _ incident => incident
  | _ => none

end RootAction

/-- No call is stopped while it switches the files. -/
def KeepsSwitch (state : RootState Pem Der Info Leaf) (action : RootAction library Leaf) : Prop :=
  Quiet (switchOperations state.disk) ⟨state.disk, action.incident⟩

/-- A call is atomic: a later start succeeds, with the pair that it would have loaded before the
call or with the new one, and a `regenerate` that returns an error has left the authority in
memory, its leaf certificates and the pair on disk as they were. -/
structure AtomicCall (state : RootState Pem Der Info Leaf) (action : RootAction library Leaf) :
    Prop where
  loads : ∀ fresh : GeneratedRootMaterial library, ∃ pair,
    loadedPair Leaf (state.call action).2.disk fresh = some (.ok pair) ∧
      (loadedPair Leaf state.disk fresh = some (.ok pair) ∨ action.newPair = some pair)
  keeps : ∀ generated incident error, action = .regenerate generated incident →
    (state.call action).1 = some (.error error) →
      (state.call action).2.authority = state.authority ∧
        rootPair (state.call action).2.disk = rootPair state.disk

/-- What `regenerate` may lead to. -/
theorem meets_regenerate (generated : Except SslMitmError (GeneratedRootMaterial library))
    (authority : CertificateAuthority Pem Der Info Leaf)
    (whole : (files.disk .certificate).isSome = (files.disk .key).isSome)
    (quiet : Quiet (switchOperations files.disk) files) :
    Meets (regenerate generated authority) files fun result later =>
      LeavesPair generated files.disk later.disk ∧
        ∀ error after, result = some (.error error, after) →
          after = authority ∧ rootPair later.disk = rootPair files.disk := by
  cases generated with
  | error error =>
    refine ⟨.inl rfl, fun other after same => ?_⟩
    cases same
    exact ⟨rfl, rfl⟩
  | ok root =>
    refine meets_bind ((meets_persistRootMaterial root whole quiet).mono ?_)
    intro result later persisted
    have leaves := persisted.leavesPair
    cases result with
    | none => exact ⟨leaves, nofun⟩
    | some result =>
      cases result with
      | error error =>
        refine ⟨leaves, fun other after same => ?_⟩
        cases same
        exact ⟨rfl, persisted⟩
      | ok =>
        obtain ⟨_, informs⟩ := root.informs
        rw [informs]
        exact ⟨leaves, nofun⟩

variable {action : RootAction library Leaf}

/-- What a generated pair is for an action is one for its state. -/
theorem LeavesPair.newPair {generated : Except SslMitmError (GeneratedRootMaterial library)}
    {before later : RootFile → Option Pem} (leaves : LeavesPair generated before later)
    (new : ∀ root, generated = .ok root → action.newPair = some (root.rootPem, root.rootKeyPem)) :
    rootPair later = rootPair before ∨ ∃ root : GeneratedRootMaterial library,
      action.newPair = some (root.rootPem, root.rootKeyPem) ∧ rootPair later = root.pair :=
  leaves.imp id fun ⟨root, isRoot, pair⟩ => ⟨root, new root isRoot, pair⟩

variable {state : RootState Pem Der Info Leaf}

section

variable (sound : Sound library state.disk)
include sound

/-- The files that a call leaves. -/
theorem leavesPair_call (keeps : KeepsSwitch state action) :
    rootPair (state.call action).2.disk = rootPair state.disk ∨
      ∃ root : GeneratedRootMaterial library,
        action.newPair = some (root.rootPem, root.rootKeyPem) ∧
          rootPair (state.call action).2.disk = root.pair := by
  cases action with
  | start generated incident =>
    let files : FileSystem RootFile Pem := ⟨state.disk, incident⟩
    have quiet : Quiet (switchOperations files.disk) files := keeps
    have leaves := meets_loadOrGenerate Leaf generated sound.whole quiet
    refine LeavesPair.newPair leaves ?_
    rintro root rfl
    rfl
  | regenerate generated incident =>
    simp only [RootState.call]
    cases state.authority with
    | none => exact .inl rfl
    | some authority =>
      let files : FileSystem RootFile Pem := ⟨state.disk, incident⟩
      have quiet : Quiet (switchOperations files.disk) files := keeps
      have meets := meets_regenerate generated authority sound.whole quiet
      refine LeavesPair.newPair meets.1 ?_
      rintro root rfl
      rfl
  | issueLeaves | stop => exact .inl rfl

theorem atomicCall (keeps : KeepsSwitch state action) :
    AtomicCall state action where
  loads fresh := by
    rcases leavesPair_call sound keeps with same | ⟨root, isNew, pair⟩
    · obtain ⟨loaded, loads⟩ := exists_loadedPair Leaf sound fresh
      exact ⟨loaded, (loadedPair_congr sound same fresh).trans loads, .inl loads⟩
    · exact ⟨_, loadedPair_of_pair pair root.loads fresh, .inr isNew⟩
  keeps := by
    rintro generated incident error rfl failed
    let files : FileSystem RootFile Pem := ⟨state.disk, incident⟩
    have quiet : Quiet (switchOperations files.disk) files := keeps
    simp only [RootState.call] at failed ⊢
    cases running : state.authority with
    | none => exact ⟨running, rfl⟩
    | some authority =>
      rw [running] at failed
      obtain ⟨⟨_, after⟩, returned, isError⟩ := map_eq_some_iff.mp failed
      cases isError
      have kept := (meets_regenerate generated authority sound.whole quiet).2 error after returned
      refine ⟨?_, kept.2⟩
      dsimp only
      rw [returned, map_some, kept.1]

theorem sound_step (keeps : KeepsSwitch state action) :
    Sound library ((rootMachine library Leaf disk).step state action).disk := by
  rcases leavesPair_call sound keeps with same | ⟨root, -, pair⟩
  · exact sound.of_pair same
  · exact .inr ⟨root.rootPem, root.rootKeyPem, pair, root.loads⟩

end

end Replacement

/-- A library that takes every text. -/
def plainLibrary : RootLibrary Nat Nat Nat where
  parseSingleCertificate := .ok
  validateIssuerPair _ _ := .ok ()
  certificateInfo := .ok

def plainRoot (number : Nat) : GeneratedRootMaterial plainLibrary where
  rootPem := number
  rootDer := number
  rootKeyPem := number
  parses := rfl
  belongs := rfl
  informs := ⟨number, rfl⟩

/-- A directory with a root. -/
def plainDisk : RootFile → Option Nat
  | .certificate => some 1
  | .key => some 1
  | _ => none

theorem sound_plainDisk : Sound plainLibrary plainDisk :=
  .inr ⟨1, 1, rfl, 1, 1, rfl, rfl, rfl⟩

end SprakCapture.HttpProxy
