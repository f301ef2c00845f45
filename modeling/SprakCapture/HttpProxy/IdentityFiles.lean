import SprakCapture.HttpProxy.ClientCertificates

/-!
# The files of client identities

What the programs that write the manifest, write and remove the files of an identity and load
the store may lead to. A manifest that could not be written is as it was, unless the process is
stopped while no manifest has its final name, or the backup cannot be removed after the new
manifest has it.
-/

namespace SprakCapture.HttpProxy

open Data FileProgram IdentityFile

section Files

variable {Content Material Der Key Details : Type}
  {library : IdentityLibrary Content Material Der Key Details}

/-! ### The manifest -/

/-- The files of the identities are the same. -/
def SameIdentityFiles (before later : IdentityFile → Option Content) : Prop :=
  ∀ id, later (.chain id) = before (.chain id) ∧ later (.key id) = before (.key id)

theorem SameIdentityFiles.refl (disk : IdentityFile → Option Content) :
    SameIdentityFiles disk disk :=
  fun _ => ⟨rfl, rfl⟩

/-- The files that `persistManifest` works on. -/
def IdentityFile.ofManifest : IdentityFile → Bool
  | .chain _ => false
  | .key _ => false
  | _ => true

variable {before later : IdentityFile → Option Content} {name : IdentityFile}
  (content : Option Content)

theorem sameIdentityFiles_update (ofManifest : name.ofManifest = true)
    (same : SameIdentityFiles before later) :
    SameIdentityFiles before (Function.update later name content) := by
  intro id
  have notChain : chain id ≠ name := by
    rintro rfl
    cases ofManifest
  have notKey : key id ≠ name := by
    rintro rfl
    cases ofManifest
  rw [Function.update_of_ne notChain, Function.update_of_ne notKey]
  exact same id

theorem sameIdentityFiles_spoilFile (left : Option Content) (ofManifest : name.ofManifest = true)
    (same : SameIdentityFiles before later) :
    SameIdentityFiles before (spoilFile name left later) := by
  cases left with
  | none => exact same
  | some => exact sameIdentityFiles_update _ ofManifest same

/-- What `persistManifest` may lead to. -/
structure ManifestWritten (content : Content) (before : IdentityFile → Option Content)
    (result : Option (Except SslMitmError Unit)) (later : FileSystem IdentityFile Content) :
    Prop where
  identities : SameIdentityFiles before later.disk
  manifest :
    match result with
    | some (.ok ()) => later.disk .manifest = some content
    | some (.error _) => later.disk .manifest = before .manifest
    | none => later.disk .manifest = before .manifest ∨ later.disk .manifest = some content

/-- Where there is a manifest, the process is not stopped right before the new one gets its final
name, and the second removal of the backup, which is the one after that, does not fail. -/
def CommitsCleanly (files : FileSystem IdentityFile Content) : Prop :=
  files.disk .manifest ≠ none →
    (∀ left, ¬ files.Faces (.rename .manifestNext .manifest) 0 (.stops left)) ∧
      ∀ left, ¬ files.Faces (.remove .manifestBackup) 1 (.fails left)

/-- What the files hold when a failure can be undone. -/
inductive RestoresManifest (before disk : IdentityFile → Option Content) : Bool → Prop where
  | untouched (manifest : disk .manifest = before .manifest) : RestoresManifest before disk false
  | backup (old : Content) (manifest : before .manifest = some old)
      (there : disk .manifestBackup = some old) : RestoresManifest before disk true

/-- A failure is undone. -/
theorem meets_restoreManifest {content : Content} {before disk : IdentityFile → Option Content}
    {hadCurrent : Bool} (same : SameIdentityFiles before disk)
    (restores : RestoresManifest before disk hadCurrent) :
    Meets (restoreManifest hadCurrent) ⟨disk, none⟩ (ManifestWritten content before) := by
  rw [restoreManifest]
  cases restores with
  | untouched manifest =>
    refine meets_pure ⟨sameIdentityFiles_update _ rfl same, ?_⟩
    simpa using manifest
  | backup _ manifest there =>
    rw [if_pos rfl, meets_rename_calm there]
    refine meets_pure ⟨?_, ?_⟩
    · exact sameIdentityFiles_update _ rfl
        (sameIdentityFiles_update _ rfl (sameIdentityFiles_update _ rfl same))
    · rw [manifest]
      simp

variable {files : FileSystem IdentityFile Content}

theorem meets_commitManifest_false {content : Content} {before : IdentityFile → Option Content}
    (same : SameIdentityFiles before files.disk) (next : files.disk .manifestNext = some content)
    (manifest : files.disk .manifest = before .manifest) :
    Meets (commitManifest false) files (ManifestWritten content before) := by
  refine meets_rename_bind next (fun _ isLater _ => ?_)
    (meets_restoreManifest same (.untouched manifest)) fun _ _ => ⟨same, .inl manifest⟩
  refine meets_pure ⟨?_, ?_⟩
  · rw [isLater]
    exact sameIdentityFiles_update _ rfl (sameIdentityFiles_update _ rfl same)
  · rw [isLater]
    simp

theorem meets_commitManifest_true {content old : Content} {before : IdentityFile → Option Content}
    (same : SameIdentityFiles before files.disk) (next : files.disk .manifestNext = some content)
    (isOld : before .manifest = some old) (backup : files.disk .manifestBackup = some old)
    (stops : ∀ left, ¬ files.Faces (.rename .manifestNext .manifest) 0 (.stops left))
    (fails : ∀ left, ¬ files.Faces (.remove .manifestBackup) 0 (.fails left)) :
    Meets (commitManifest true) files (ManifestWritten content before) := by
  refine meets_rename_bind next (fun later isLater onward => ?_)
    (meets_restoreManifest same (.backup old isOld backup))
    fun left faces => absurd faces (stops left)
  have sameLater : SameIdentityFiles before later.disk := by
    rw [isLater]
    exact sameIdentityFiles_update _ rfl (sameIdentityFiles_update _ rfl same)
  have committed : later.disk .manifest = some content := by
    rw [isLater]
    simp
  refine meets_stored (meets_removeIfExists_bind (fun _ isLast _ => ?_)
    (fun left faces => ?_) ⟨sameLater, .inr committed⟩)
  · refine meets_pure ⟨?_, ?_⟩
    · rw [isLast]
      exact sameIdentityFiles_update _ rfl sameLater
    · rw [isLast]
      simpa using committed
  · exact absurd (onward.next faces (by simp)) (fails left)

theorem meets_persistManifest (infos : List (ClientCertificateInfo Details))
    (clean : CommitsCleanly files) :
    Meets (persistManifest library infos) files
      (ManifestWritten (library.toJson infos) files.disk) := by
  have spoiled (left : Option Content) :
      SameIdentityFiles files.disk (spoilFile .manifestNext left files.disk) :=
    sameIdentityFiles_spoilFile left rfl (.refl files.disk)
  have untouched (left : Option Content) :
      spoilFile .manifestNext left files.disk .manifest = files.disk .manifest := by
    cases left <;> simp [spoilFile]
  refine meets_stored (meets_write_bind (fun first isFirst onward₁ => ?_)
    (fun left => meets_pure ⟨spoiled left, untouched left⟩)
    fun left => ⟨spoiled left, .inl (untouched left)⟩)
  have same₁ : SameIdentityFiles files.disk first.disk := by
    rw [isFirst]
    exact sameIdentityFiles_update _ rfl (.refl files.disk)
  have manifest₁ : first.disk .manifest = files.disk .manifest := by
    rw [isFirst]
    simp
  have next₁ : first.disk .manifestNext = some (library.toJson infos) := by
    rw [isFirst]
    simp
  refine meets_probe_bind (fun _ isSecond onward₂ => ?_) ?_ ⟨same₁, .inl manifest₁⟩
  · rw [← isSecond] at same₁ manifest₁ next₁
    cases isOld : files.disk .manifest with
    | none =>
      rw [← isSecond, manifest₁, isOld]
      exact meets_commitManifest_false same₁ next₁ manifest₁
    | some =>
      obtain ⟨stops, fails⟩ := clean (by simp [isOld])
      rw [← isSecond, manifest₁, isOld]
      refine meets_stored (meets_removeIfExists_bind (fun third isThird onward₃ => ?_)
        (fun _ _ => meets_pure ⟨same₁, manifest₁⟩) ⟨same₁, .inl manifest₁⟩)
      have same₃ : SameIdentityFiles files.disk third.disk := by
        rw [isThird]
        exact sameIdentityFiles_update _ rfl same₁
      have manifest₃ : third.disk .manifest = files.disk .manifest := by
        rw [isThird]
        simpa using manifest₁
      have next₃ : third.disk .manifestNext = some (library.toJson infos) := by
        rw [isThird]
        simpa using next₁
      refine meets_stored (meets_rename_bind (manifest₃.trans isOld)
        (fun _ isFourth onward₄ => ?_) (meets_pure ⟨same₃, manifest₃⟩)
        fun _ _ => ⟨same₃, .inl manifest₃⟩)
      have onward := ((onward₁.trans onward₂).trans onward₃).trans onward₄
      refine meets_commitManifest_true ?_ ?_ isOld ?_
        (fun left faces => stops left (onward.next faces (by simp)))
        fun left faces => fails left ?_
      · rw [isFourth]
        exact sameIdentityFiles_update _ rfl (sameIdentityFiles_update _ rfl same₃)
      · rw [isFourth]
        simpa using next₃
      · rw [isFourth]
        simp
      · -- The backup was removed once before.
        have faced := onward _ _ _ faces
        simpa using faced
  grind [meets_commitManifest_false]

/-! ### The files of one identity -/

/-- The manifest and the files of other identities are the same. -/
structure SameBut (id : IdentityId) (before later : IdentityFile → Option Content) : Prop where
  manifest : later .manifest = before .manifest
  others : ∀ other, other ≠ id →
    later (.chain other) = before (.chain other) ∧ later (.key other) = before (.key other)

theorem SameBut.refl (id : IdentityId) (disk : IdentityFile → Option Content) :
    SameBut id disk disk :=
  ⟨rfl, fun _ _ => ⟨rfl, rfl⟩⟩

/-- One of the two files of an identity. -/
def IdentityFile.isOf (id : IdentityId) : IdentityFile → Prop
  | .chain other => other = id
  | .key other => other = id
  | _ => False

theorem sameBut_update {id : IdentityId} (isOf : name.isOf id) (same : SameBut id before later) :
    SameBut id before (Function.update later name content) where
  manifest := by
    have apart : manifest ≠ name := by
      rintro rfl
      exact isOf
    rw [Function.update_of_ne apart]
    exact same.manifest
  others other apart := by
    have notChain : chain other ≠ name := by
      rintro rfl
      exact apart isOf
    have notKey : key other ≠ name := by
      rintro rfl
      exact apart isOf
    rw [Function.update_of_ne notChain, Function.update_of_ne notKey]
    exact same.others other apart

theorem sameBut_spoilFile {id : IdentityId} (left : Option Content) (isOf : name.isOf id)
    (same : SameBut id before later) : SameBut id before (spoilFile name left later) := by
  cases left with
  | none => exact same
  | some => exact sameBut_update _ isOf same

/-- What `persistIdentity` may lead to. -/
structure IdentityWritten (library : IdentityLibrary Content Material Der Key Details)
    (identity : ClientCertificateIdentity Der Key Details)
    (files : FileSystem IdentityFile Content) (result : Option (Except SslMitmError Unit))
    (later : FileSystem IdentityFile Content) : Prop where
  same : SameBut identity.info.id files.disk later.disk
  written : result = some (.ok ()) →
    later.disk (.chain identity.info.id) = some (library.chainPem identity.chain) ∧
      later.disk (.key identity.info.id) = some (library.secretDer identity.privateKey) ∧
      files.Onward [.write (.chain identity.info.id), .write (.key identity.info.id)] later

theorem meets_persistIdentity (identity : ClientCertificateIdentity Der Key Details)
    (files : FileSystem IdentityFile Content) :
    Meets (persistIdentity library identity) files (IdentityWritten library identity files) := by
  have untouched : SameBut identity.info.id files.disk files.disk := .refl _ _
  refine meets_stored (meets_write_bind (fun first isFirst onward₁ => ?_)
    (fun left => meets_pure ⟨sameBut_spoilFile left rfl untouched, nofun⟩)
    fun left => ⟨sameBut_spoilFile left rfl untouched, nofun⟩)
  have same₁ : SameBut identity.info.id files.disk first.disk := by
    rw [isFirst]
    exact sameBut_update _ rfl untouched
  refine meets_write_bind (fun _ isSecond onward₂ => ?_) (fun left => ?_)
    fun left => ⟨sameBut_spoilFile left rfl same₁, nofun⟩
  · refine meets_pure ⟨?_, fun _ => ⟨?_, ?_, onward₁.trans onward₂⟩⟩
    · rw [isSecond]
      exact sameBut_update _ rfl same₁
    · rw [isSecond, isFirst]
      simp
    · rw [isSecond]
      simp
  · exact meets_pure ⟨sameBut_update _ rfl (sameBut_spoilFile left rfl same₁), nofun⟩

theorem meets_removeIdentityFiles (id : IdentityId) (files : FileSystem IdentityFile Content) :
    Meets (removeIdentityFiles id) files fun _ later => SameBut id files.disk later.disk := by
  have untouched : SameBut id files.disk files.disk := .refl _ _
  have second {later : FileSystem IdentityFile Content} (same : SameBut id files.disk later.disk) :
      Meets (do
          let _ ← removeIfExists (.key id)
          pure ())
        later fun _ last => SameBut id files.disk last.disk := by
    refine meets_removeIfExists_bind (fun last isLast _ => ?_) (fun _ _ => same) same
    refine meets_pure ?_
    rw [isLast]
    exact sameBut_update _ rfl same
  refine meets_removeIfExists_bind (fun _ isFirst _ => second ?_)
    (fun _ _ => second untouched) untouched
  rw [isFirst]
  exact sameBut_update _ rfl untouched

theorem CommitsCleanly.onward {files later : FileSystem IdentityFile Content}
    {done : List (FileOperation IdentityFile)} (clean : CommitsCleanly files)
    (onward : files.Onward done later) (manifest : later.disk .manifest = files.disk .manifest)
    (noRename : .rename .manifestNext .manifest ∉ done)
    (noRemove : .remove .manifestBackup ∉ done) : CommitsCleanly later := by
  intro there
  obtain ⟨stops, _⟩ := clean (manifest ▸ there)
  refine ⟨fun left faces => stops left (onward.next faces noRename), fun left faces => ?_⟩
  have faced := onward _ _ _ faces
  grind

/-! ### Loading -/

/-- What the libraries promise of what they have written. -/
structure IdentityLibrary.Lawful (library : IdentityLibrary Content Material Der Key Details) :
    Prop where
  json : ∀ infos, library.fromJson (library.toJson infos) = .ok infos
  chain : ∀ chain, validateChain library chain = .ok () →
    library.readChain (library.chainPem chain) = .ok chain
  key : ∀ chain privateKey, library.validateIdentity chain privateKey = .ok () →
    library.readKey (library.secretDer privateKey) = .ok privateKey

/-- An identity that passes the checks of `load`. -/
structure ClientCertificateIdentity.Valid
    (library : IdentityLibrary Content Material Der Key Details)
    (identity : ClientCertificateIdentity Der Key Details) : Prop where
  info : validateInfo identity.info = .ok ()
  chain : validateChain library identity.chain = .ok ()
  belongs : library.validateIdentity identity.chain identity.privateKey = .ok ()

variable {store : ClientCertificateStore Der Key Details}

namespace ClientCertificateStore

/-- Every identity is listed exactly once, under its own name, and is valid. -/
structure WellFormed (library : IdentityLibrary Content Material Der Key Details)
    (store : ClientCertificateStore Der Key Details) : Prop where
  distinct : store.order.Nodup
  listed : ∀ id, id ∈ store.order ↔ (store.identities.get? id).isSome
  valid : ∀ id identity, store.identities.get? id = some identity →
    identity.info.id = id ∧ identity.Valid library

/-- The directory holds the store. -/
structure Recorded (library : IdentityLibrary Content Material Der Key Details)
    (disk : IdentityFile → Option Content) (store : ClientCertificateStore Der Key Details) :
    Prop where
  manifest : disk .manifest = some (library.toJson store.publicState) ∨
    disk .manifest = none ∧ store.order = []
  files : ∀ id identity, store.identities.get? id = some identity →
    disk (.chain id) = some (library.chainPem identity.chain) ∧
      disk (.key id) = some (library.secretDer identity.privateKey)

/-- Two stores list the same identities in the same order. -/
def Same (first second : ClientCertificateStore Der Key Details) : Prop :=
  first.order = second.order ∧ ∀ id, first.identities.get? id = second.identities.get? id

/-- A later `load` succeeds with the store. -/
def LoadsFrom (library : IdentityLibrary Content Material Der Key Details)
    (disk : IdentityFile → Option Content) (store : ClientCertificateStore Der Key Details) :
    Prop :=
  ∃ loaded, load library ⟨disk, none⟩ = (some (.ok loaded), ⟨disk, none⟩) ∧ loaded.Same store

variable {disk : IdentityFile → Option Content}

/-- The files of a valid identity are read back. -/
theorem loadIdentity_of_files (lawful : library.Lawful)
    {identity : ClientCertificateIdentity Der Key Details} (valid : identity.Valid library)
    (chain : disk (.chain identity.info.id) = some (library.chainPem identity.chain))
    (key : disk (.key identity.info.id) = some (library.secretDer identity.privateKey)) :
    loadIdentity library identity.info ⟨disk, none⟩ = (some (.ok identity), ⟨disk, none⟩) := by
  suffices reads : Meets (loadIdentity library identity.info) ⟨disk, none⟩
      fun result later => (result, later) = (some (.ok identity), ⟨disk, none⟩) from reads
  rw [loadIdentity, meets_read_calm, chain, meets_read_calm, key]
  refine meets_pure ?_
  rw [lawful.chain _ valid.chain, lawful.key _ _ valid.belongs, Checked.ok_bind,
    valid.chain, Checked.ok_bind, valid.belongs]
  rfl

/-- The loop of `load`, for the identities that are still to be loaded. -/
theorem loadIdentities_of_recorded (lawful : library.Lawful) (wellFormed : store.WellFormed library)
    (recorded : store.Recorded library disk) (rest : List IdentityId)
    (loaded : ClientCertificateStore Der Key Details) (order : loaded.order ++ rest = store.order)
    (identities : ∀ id, loaded.identities.get? id =
      if id ∈ loaded.order then store.identities.get? id else none) :
    ∃ result, loadIdentities library loaded
        ((rest.filterMap store.identities.get?).map (·.info)) ⟨disk, none⟩ =
          (some (.ok result), ⟨disk, none⟩) ∧ result.Same store := by
  induction rest generalizing loaded with
  | nil =>
    have sameOrder : loaded.order = store.order := by rw [← order, List.append_nil]
    refine ⟨loaded, rfl, sameOrder, fun id => ?_⟩
    rw [identities, sameOrder]
    split
    · rfl
    · rename_i absent
      rw [wellFormed.listed, Option.not_isSome_iff_eq_none] at absent
      exact absent.symm
  | cons id rest ih =>
    have member : id ∈ store.order := by
      rw [← order]
      simp
    obtain ⟨identity, found⟩ := Option.isSome_iff_exists.mp ((wellFormed.listed id).mp member)
    obtain ⟨rfl, valid⟩ := wellFormed.valid id identity found
    obtain ⟨chain, key⟩ := recorded.files _ identity found
    have distinct : (loaded.order ++ identity.info.id :: rest).Nodup :=
      order ▸ wellFormed.distinct
    have fresh : identity.info.id ∉ loaded.order := fun there =>
      (List.nodup_append.mp distinct).2.2 _ there _ List.mem_cons_self rfl
    have unknown : loaded.identities.contains identity.info.id = false := by
      rw [Table.contains_eq_false, identities, if_neg fresh]
    have identitiesNext : ∀ other, (loaded.withIdentity identity).identities.get? other =
        if other ∈ (loaded.withIdentity identity).order then store.identities.get? other
        else none := by
      intro other
      rw [withIdentity, Table.get?_insert, identities]
      by_cases isNew : other = identity.info.id
      · simp [isNew, found]
      · simp [isNew]
    obtain ⟨result, _, same⟩ := ih (loaded.withIdentity identity)
      (by simpa [withIdentity] using order) identitiesNext
    have read : loadIdentity library identity.info ⟨disk, none⟩ = _ :=
      loadIdentity_of_files lawful valid chain key
    rw [List.filterMap_cons_some found, List.map_cons, loadIdentities, valid.info]
    grind [bind_of_done]

/-- A directory that holds a store is loaded as it. -/
theorem loadsFrom_of_recorded (lawful : library.Lawful) (wellFormed : store.WellFormed library)
    (recorded : store.Recorded library disk) : store.LoadsFrom library disk := by
  have loop := loadIdentities_of_recorded lawful wellFormed recorded
  suffices loads : ∃ loaded, Meets (load library) ⟨disk, none⟩ (fun result later =>
      (result, later) = (some (.ok loaded), ⟨disk, none⟩)) ∧ loaded.Same store from loads
  rcases recorded.manifest with there | ⟨absent, noOrder⟩
  · obtain ⟨loaded, loads, same⟩ := loop store.order .empty rfl fun id => by
      simp [empty]
    refine ⟨loaded, ?_, same⟩
    rw [load, stored, meets_createDirectory_calm, if_pos rfl, meets_probe_calm, there,
      if_pos Option.isSome_some, meets_read_calm, there]
    dsimp only
    rw [lawful.json]
    exact loads
  · obtain ⟨loaded, loads, same⟩ := loop [] .empty noOrder.symm fun id => by
      simp [empty]
    refine ⟨loaded, ?_, same⟩
    rw [load, stored, meets_createDirectory_calm, if_pos rfl, meets_probe_calm, absent]
    exact loads

end ClientCertificateStore

end Files

end SprakCapture.HttpProxy
