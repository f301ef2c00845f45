import SprakCapture.HttpProxy.IdentityFiles

/-!
# Client identities and their directory

A call that fails leaves the list as it was, in memory and in the directory, and a call that is
stopped leaves the old list or the new one, unless it is stopped while no manifest has its final
name, or the old manifest cannot be removed after the new one has it.
`identities_consistent` says this for every call of every run.
-/

namespace SprakCapture.HttpProxy

open Data FileProgram List Option Data.Table Checked

section Persistence

variable {Content Material Der Key Details : Type}
  {library : IdentityLibrary Content Material Der Key Details}

/-! ### Checked records -/

theorem validateNameAndLocations_trim {name : List Char} {locations : List Location.LocationPattern}
    (checked : validateNameAndLocations name locations = .ok ()) :
    validateNameAndLocations (Text.trim name) locations = .ok () := by
  have again : Text.trim (Text.trim name) = Text.trim name := Text.trimWith_trimWith
  have shorter : (Text.trim name).length ≤ name.length := Text.length_trimWith_le
  grind [validateNameAndLocations]

theorem all_hexByte (byte : UInt8) : (hexByte byte).all isHexDigit = true := by
  have digits : ∀ digit < 16, isHexDigit (Nat.digitChar digit) = true := by decide
  have high : byte.toNat / 16 < 16 := by
    have := byte.toNat_lt
    omega
  grind [hexByte]

theorem length_flatMap_hexByte (bytes : List UInt8) :
    (bytes.flatMap hexByte).length = 2 * bytes.length := by
  induction bytes with
  | nil => rfl
  | cons _ bytes =>
    grind [hexByte]

theorem length_identityId (leaf : Der) : (identityId library leaf).length = 32 := by
  rw [identityId, length_flatMap_hexByte, length_take, (library.digest leaf).width]
  rfl

theorem all_identityId (leaf : Der) : (identityId library leaf).all isHexDigit = true := by
  simp only [identityId, all_flatMap, all_hexByte]
  simp

variable {info : ClientCertificateInfo Details}

theorem validateInfo_of_id (length : info.id.length = 32) (hex : info.id.all isHexDigit = true) :
    validateInfo info = validateNameAndLocations info.name info.locations := by
  rw [validateInfo, if_neg (by simp [length, hex])]

theorem validateInfo_id (checked : validateInfo info = .ok ()) :
    info.id.length = 32 ∧ info.id.all isHexDigit = true := by
  grind [validateInfo]

variable {before later : IdentityFile → Option Content} {disk : IdentityFile → Option Content}
  {index : Nat}

namespace ClientCertificateStore

/-! ### Changes of the store -/

variable {store : ClientCertificateStore Der Key Details}
  {identity : ClientCertificateIdentity Der Key Details} {input : ClientCertificateImport Material}

/-- What `prepareImport` accepts may be added. -/
theorem prepareImport_eq_ok (accepted : store.prepareImport library input = .ok identity) :
    identity.Valid library ∧ store.identities.get? identity.info.id = none := by
  unfold prepareImport at accepted
  split at accepted
  · cases accepted
  obtain ⟨_, checked, accepted⟩ := bind_eq_ok.mp accepted
  obtain ⟨⟨_, _⟩, parsed, accepted⟩ := bind_eq_ok.mp accepted
  dsimp only at accepted
  split at accepted
  · cases accepted
  rename_i leaf rest
  obtain ⟨info, built, accepted⟩ := bind_eq_ok.mp accepted
  split at accepted
  · cases accepted
  rename_i absent
  cases accepted
  refine ⟨⟨?_, ?_, ?_⟩, contains_eq_false.mp (eq_false_of_ne_true absent)⟩
  · obtain ⟨_, -, isInfo⟩ := bind_eq_ok.mp built
    cases isInfo
    rw [validateInfo_of_id (length_identityId leaf) (all_identityId leaf)]
    exact validateNameAndLocations_trim checked
  all_goals
    obtain ⟨_, -, parsed⟩ := bind_eq_ok.mp parsed
    obtain ⟨_, isChain, parsed⟩ := bind_eq_ok.mp parsed
    obtain ⟨_, -, parsed⟩ := bind_eq_ok.mp parsed
    obtain ⟨_, isKey, parsed⟩ := bind_eq_ok.mp parsed
    cases parsed
  · exact isChain
  · exact isKey

theorem Same.refl (store : ClientCertificateStore Der Key Details) : store.Same store :=
  ⟨rfl, fun _ => rfl⟩

variable {first second : ClientCertificateStore Der Key Details}

theorem Same.publicState (same : first.Same second) : first.publicState = second.publicState := by
  rw [ClientCertificateStore.publicState, ClientCertificateStore.publicState, same.1, funext same.2]

theorem WellFormed.ofSame (wellFormed : first.WellFormed library) (same : second.Same first) :
    second.WellFormed library where
  distinct := same.1 ▸ wellFormed.distinct
  listed id := by rw [same.1, same.2, wellFormed.listed]
  valid id identity found := wellFormed.valid id identity ((same.2 id).symm.trans found)

theorem Recorded.ofSame (recorded : first.Recorded library disk) (same : second.Same first) :
    second.Recorded library disk where
  manifest := by
    rw [same.publicState, same.1]
    exact recorded.manifest
  files id identity found := recorded.files id identity ((same.2 id).symm.trans found)

theorem WellFormed.withIdentity (wellFormed : store.WellFormed library)
    (valid : identity.Valid library) (fresh : store.identities.get? identity.info.id = none) :
    (store.withIdentity identity).WellFormed library where
  distinct := by
    have unlisted : identity.info.id ∉ store.order := by
      rw [wellFormed.listed, fresh]
      simp
    exact nodup_append.mpr ⟨wellFormed.distinct, nodup_singleton _, fun id there new
      isNew same => unlisted (mem_singleton.mp isNew ▸ same ▸ there)⟩
  listed id := by
    rw [ClientCertificateStore.withIdentity, mem_append, mem_singleton,
      wellFormed.listed, Table.get?_insert]
    by_cases isNew : id = identity.info.id <;> simp [isNew]
  valid id other found := by
    rw [ClientCertificateStore.withIdentity, Table.get?_insert] at found
    split at found
    · rename_i isNew
      cases found
      exact ⟨isNew.symm, valid⟩
    · exact wellFormed.valid id other found

variable {id : IdentityId}

theorem WellFormed.withInfo (wellFormed : store.WellFormed library) (named : info.id = id)
    (checked : validateInfo info = .ok ()) :
    (store.withInfo id info).WellFormed library where
  distinct := wellFormed.distinct
  listed other := by
    rw [ClientCertificateStore.withInfo, wellFormed.listed, get?_modify]
    split <;> simp
  valid other identity found := by
    rw [ClientCertificateStore.withInfo, get?_modify] at found
    split at found
    · rename_i isId
      obtain ⟨current, there, rfl⟩ := map_eq_some_iff.mp found
      have valid := (wellFormed.valid _ current there).2
      exact ⟨named.trans isId.symm, checked, valid.chain, valid.belongs⟩
    · exact wellFormed.valid other identity found

theorem order_without (listedAt : store.order.idxOf? id = some index) :
    (store.without id index).order = store.order.erase id := by
  rw [erase_eq_eraseIdx, listedAt]
  rfl

theorem WellFormed.without (wellFormed : store.WellFormed library)
    (listedAt : store.order.idxOf? id = some index) :
    (store.without id index).WellFormed library where
  distinct := by
    rw [order_without listedAt]
    exact wellFormed.distinct.erase id
  listed other := by
    rw [order_without listedAt, wellFormed.distinct.mem_erase_iff, wellFormed.listed,
      ClientCertificateStore.without, Table.get?_erase]
    by_cases isId : other = id <;> simp [isId]
  valid other identity found := by
    rw [ClientCertificateStore.without, Table.get?_erase] at found
    split at found
    · cases found
    · exact wellFormed.valid other identity found

/-! ### Changes that are taken back -/

theorem withoutLast_withIdentity (wellFormed : store.WellFormed library)
    (fresh : store.identities.get? identity.info.id = none) :
    ((store.withIdentity identity).withoutLast identity.info.id).Same store := by
  have unlisted : identity.info.id ∉ store.order := by
    rw [wellFormed.listed, fresh]
    simp
  refine ⟨?_, fun id => ?_⟩
  · have kept : store.order.filter (· ≠ identity.info.id) = store.order := by
      refine filter_eq_self.mpr fun id _ => ?_
      grind
    rw [withoutLast, withIdentity, filter_append, kept]
    simp
  · rw [withoutLast, withIdentity, Table.get?_erase, Table.get?_insert]
    simp_all

theorem withInfo_withInfo (found : store.identities.get? id = some identity)
    (info : ClientCertificateInfo Details) :
    ((store.withInfo id info).withInfo id identity.info).Same store := by
  refine ⟨rfl, fun other => ?_⟩
  rw [withInfo, withInfo, get?_modify, get?_modify]
  by_cases isId : other = id <;> simp [isId, found]

theorem withBack_without (found : store.identities.get? id = some identity)
    (listedAt : store.order.idxOf? id = some index) :
    ((store.without id index).withBack id index identity).Same store := by
  obtain ⟨inside, isId, -⟩ := idxOf?_eq_some_iff.mp listedAt
  refine ⟨?_, fun _ => ?_⟩
  · have sameId : store.order[index] = id := by simpa using isId
    rw [← sameId]
    exact insertIdx_eraseIdx_getElem inside
  grind [withBack, without]

/-! ### The directory of a changed store -/

theorem Recorded.sameBut (recorded : store.Recorded library before) (same : SameBut id before later)
    (absent : store.identities.get? id = none) :
    store.Recorded library later where
  manifest := by
    rw [same.manifest]
    exact recorded.manifest
  files other identity found := by
    have apart : other ≠ id := by
      rintro rfl
      exact nomatch absent.symm.trans found
    obtain ⟨chain, key⟩ := same.others other apart
    rw [chain, key]
    exact recorded.files other identity found

theorem Recorded.sameIdentityFiles (recorded : store.Recorded library before)
    (same : SameIdentityFiles before later) (manifest : later .manifest = before .manifest) :
    store.Recorded library later where
  manifest := by
    rw [manifest]
    exact recorded.manifest
  files id identity found := by
    rw [(same id).1, (same id).2]
    exact recorded.files id identity found

/-! ### Calls -/

/-- The store that an import is for, if it is accepted. -/
def afterImport (library : IdentityLibrary Content Material Der Key Details)
    (store : ClientCertificateStore Der Key Details) (input : ClientCertificateImport Material) :
    Option (ClientCertificateStore Der Key Details) :=
  (store.prepareImport library input).toOption.map store.withIdentity

/-- The store that an update is for, if it is accepted. -/
def afterUpdate (store : ClientCertificateStore Der Key Details) (id : IdentityId)
    (change : ClientCertificateUpdate) : Option (ClientCertificateStore Der Key Details) := do
  let _ ← (validateNameAndLocations change.name change.locations).toOption
  let identity ← store.identities.get? id
  some <| store.withInfo id
    { identity.info with
      name := change.name
      enabled := change.enabled
      locations := change.locations }

/-- The store that a removal is for, if it is accepted. -/
def afterRemove (store : ClientCertificateStore Der Key Details) (id : IdentityId) :
    Option (ClientCertificateStore Der Key Details) := do
  let index ← store.order.idxOf? id
  let _ ← store.identities.get? id
  some (store.without id index)

/-- What a call may lead to that is to change a store to another. -/
def Settles {Value : Type} (library : IdentityLibrary Content Material Der Key Details)
    (store changed : ClientCertificateStore Der Key Details)
    (result : Option (Except SslMitmError Value × ClientCertificateStore Der Key Details))
    (later : FileSystem IdentityFile Content) : Prop :=
  match result with
  | some (.ok _, after) => after = changed ∧ changed.Recorded library later.disk
  | some (.error _, after) => after.Same store ∧ store.Recorded library later.disk
  | none => store.Recorded library later.disk ∨ changed.Recorded library later.disk

variable {files : FileSystem IdentityFile Content}

theorem meets_importIdentity (wellFormed : store.WellFormed library)
    (recorded : store.Recorded library files.disk) (input : ClientCertificateImport Material)
    (clean : (store.afterImport library input).isSome → CommitsCleanly files) :
    Meets (store.importIdentity library input) files
      (Settles library store ((store.afterImport library input).getD store)) := by
  unfold importIdentity
  unfold afterImport at clean ⊢
  cases prepared : store.prepareImport library input with
  | error error => exact meets_pure ⟨.refl store, recorded⟩
  | ok identity =>
    rw [prepared] at clean
    have fresh := (prepareImport_eq_ok prepared).2
    refine meets_bind ((meets_persistIdentity identity files).mono fun result first written => ?_)
    have recordedFirst := recorded.sameBut written.same fresh
    rcases result with _ | error | ⟨⟩
    · exact .inl recordedFirst
    · exact meets_pure ⟨.refl store, recordedFirst⟩
    · obtain ⟨chain, key, onward⟩ := written.written rfl
      have cleanFirst : CommitsCleanly first :=
        (clean rfl).onward onward written.same.manifest (by simp) (by simp)
      refine meets_bind ((meets_persistManifest _ cleanFirst).mono fun result second manifest => ?_)
      have files (later : IdentityFile → Option Content)
          (same : SameIdentityFiles first.disk later) :
          ∀ id other, (store.withIdentity identity).identities.get? id = some other →
            later (.chain id) = some (library.chainPem other.chain) ∧
              later (.key id) = some (library.secretDer other.privateKey) := by
        intro id other found
        rw [withIdentity, Table.get?_insert] at found
        rw [(same id).1, (same id).2]
        split at found
        · simp_all
        · exact recordedFirst.files id other found
      rcases result with _ | error | ⟨⟩
      · exact manifest.manifest.imp (recordedFirst.sameIdentityFiles manifest.identities)
          fun written => ⟨.inl written, files _ manifest.identities⟩
      · have recordedSecond :=
          recordedFirst.sameIdentityFiles manifest.identities manifest.manifest
        refine meets_bind ((meets_removeIdentityFiles identity.info.id second).mono
          fun result _ same => ?_)
        have recordedLast := recordedSecond.sameBut same fresh
        rcases result with _ | ⟨⟩
        · exact .inl recordedLast
        · exact meets_pure ⟨withoutLast_withIdentity wellFormed fresh, recordedLast⟩
      · exact meets_pure ⟨rfl, .inl manifest.manifest, files _ manifest.identities⟩

theorem meets_update (recorded : store.Recorded library files.disk) (id : IdentityId)
    (change : ClientCertificateUpdate)
    (clean : (store.afterUpdate id change).isSome → CommitsCleanly files) :
    Meets (store.update library id change) files
      (Settles library store ((store.afterUpdate id change).getD store)) := by
  unfold update
  unfold afterUpdate at clean ⊢
  cases checked : validateNameAndLocations change.name change.locations with
  | error error => exact meets_pure ⟨.refl store, recorded⟩
  | ok =>
    cases found : store.identities.get? id with
    | none => exact meets_pure ⟨.refl store, recorded⟩
    | some =>
      rw [checked, found] at clean
      refine meets_bind ((meets_persistManifest _ (clean rfl)).mono fun result later manifest => ?_)
      have kept := recorded.sameIdentityFiles manifest.identities
      -- The files of an identity do not depend on its record.
      have files (info : ClientCertificateInfo Details) :
          ∀ other current, (store.withInfo id info).identities.get? other = some current →
            later.disk (.chain other) = some (library.chainPem current.chain) ∧
              later.disk (.key other) = some (library.secretDer current.privateKey) := by
        intro other current there
        rw [(manifest.identities other).1, (manifest.identities other).2]
        rw [withInfo, get?_modify] at there
        split at there
        · obtain ⟨unchanged, present, rfl⟩ := map_eq_some_iff.mp there
          exact recorded.files other unchanged present
        · exact recorded.files other current there
      match result with
      | none => exact manifest.manifest.imp kept fun written => ⟨.inl written, files _⟩
      | some (.ok ()) => exact meets_pure ⟨rfl, .inl manifest.manifest, files _⟩
      | some (.error error) => exact meets_pure ⟨withInfo_withInfo found _, kept manifest.manifest⟩

theorem meets_remove (recorded : store.Recorded library files.disk) (id : IdentityId)
    (clean : (store.afterRemove id).isSome → CommitsCleanly files) :
    Meets (store.remove library id) files
      (Settles library store ((store.afterRemove id).getD store)) := by
  unfold remove
  unfold afterRemove at clean ⊢
  cases listedAt : store.order.idxOf? id with
  | none => exact meets_pure ⟨.refl store, recorded⟩
  | some index =>
    cases found : store.identities.get? id with
    | none => exact meets_pure ⟨.refl store, recorded⟩
    | some =>
      rw [listedAt, found] at clean
      refine meets_bind ((meets_persistManifest _ (clean rfl)).mono fun result later manifest => ?_)
      have kept := recorded.sameIdentityFiles manifest.identities
      have absent : (store.without id index).identities.get? id = none :=
        get?_erase_self store.identities id
      have changed (written : later.disk .manifest =
          some (library.toJson (store.without id index).publicState)) :
          (store.without id index).Recorded library later.disk := by
        refine ⟨.inl written, fun other identity there => ?_⟩
        rw [(manifest.identities other).1, (manifest.identities other).2]
        rw [without, Table.get?_erase] at there
        split at there
        · cases there
        · exact recorded.files other identity there
      match result with
      | none => exact manifest.manifest.imp kept changed
      | some (.error error) =>
        exact meets_pure ⟨withBack_without found listedAt, kept manifest.manifest⟩
      | some (.ok ()) =>
        refine meets_bind ((meets_removeIdentityFiles id later).mono fun result _ same => ?_)
        have settled := (changed manifest.manifest).sameBut same absent
        match result with
        | none => exact .inr settled
        | some () => exact meets_pure ⟨rfl, settled⟩

theorem wellFormed_afterImport {store changed : ClientCertificateStore Der Key Details}
    (wellFormed : store.WellFormed library)
    (accepted : store.afterImport library input = some changed) : changed.WellFormed library := by
  unfold afterImport at accepted
  cases prepared : store.prepareImport library input with
  | error error =>
    rw [prepared] at accepted
    cases accepted
  | ok =>
    rw [prepared] at accepted
    cases accepted
    obtain ⟨valid, fresh⟩ := prepareImport_eq_ok prepared
    exact wellFormed.withIdentity valid fresh

theorem wellFormed_afterUpdate {store changed : ClientCertificateStore Der Key Details}
    {change : ClientCertificateUpdate} (wellFormed : store.WellFormed library)
    (accepted : store.afterUpdate id change = some changed) : changed.WellFormed library := by
  unfold afterUpdate at accepted
  cases checked : validateNameAndLocations change.name change.locations with
  | error error =>
    rw [checked] at accepted
    cases accepted
  | ok _ =>
    cases found : store.identities.get? id with
    | none =>
      rw [checked, found] at accepted
      cases accepted
    | some identity =>
      rw [checked, found] at accepted
      cases accepted
      obtain ⟨named, valid⟩ := wellFormed.valid id identity found
      obtain ⟨length, hex⟩ := validateInfo_id valid.info
      refine wellFormed.withInfo named (Eq.trans (validateInfo_of_id ?_ ?_) checked)
      · exact length
      · exact hex

theorem wellFormed_afterRemove {store changed : ClientCertificateStore Der Key Details}
    (wellFormed : store.WellFormed library) (accepted : store.afterRemove id = some changed) :
    changed.WellFormed library := by
  obtain ⟨_, listedAt, accepted⟩ := bind_eq_some_iff.mp accepted
  obtain ⟨_, -, accepted⟩ := bind_eq_some_iff.mp accepted
  cases accepted
  exact wellFormed.without listedAt

end ClientCertificateStore

/-! ### Runs -/

namespace IdentityAction

/-- The store that a call is for, if it is accepted. -/
def intended (library : IdentityLibrary Content Material Der Key Details)
    (store : ClientCertificateStore Der Key Details) :
    IdentityAction Content Material → Option (ClientCertificateStore Der Key Details)
  | .importIdentity input _ => store.afterImport library input
  | .update id change _ => store.afterUpdate id change
  | .remove id _ => store.afterRemove id
  | _ => none

def incident : IdentityAction Content Material → Option (Incident IdentityFile Content)
  | .importIdentity _ incident => incident
  | .update _ _ incident => incident
  | .remove _ incident => incident
  | _ => none

/-- The calls that change the store. -/
def changes : IdentityAction Content Material → Bool
  | .start => false
  | .stop => false
  | _ => true

/-- An accepted call replaces the manifest without trouble at the end. -/
def Clean (library : IdentityLibrary Content Material Der Key Details)
    (state : IdentityState Content Der Key Details) (action : IdentityAction Content Material) :
    Prop :=
  ∀ store, state.store = some store → (action.intended library store).isSome →
    CommitsCleanly ⟨state.disk, action.incident⟩

end IdentityAction

open ClientCertificateStore

/-- The directory holds a store, which is the one in memory if a process runs. -/
def IdentityState.Consistent (library : IdentityLibrary Content Material Der Key Details)
    (state : IdentityState Content Der Key Details) : Prop :=
  ∃ store : ClientCertificateStore Der Key Details, store.WellFormed library ∧
    store.Recorded library state.disk ∧ ∀ current, state.store = some current → current = store

/-- What a call may lead to, for its result and the state after it. -/
structure CallConsistent (library : IdentityLibrary Content Material Der Key Details)
    (store changed : ClientCertificateStore Der Key Details)
    (result : Option (Except SslMitmError Unit)) (later : IdentityState Content Der Key Details) :
    Prop where
  failed : ∀ error, result = some (.error error) → ∃ after, later.store = some after ∧
    after.Same store ∧ after.LoadsFrom library later.disk
  done : result = some (.ok ()) → later.store = some changed ∧ changed.LoadsFrom library later.disk
  stopped : result = none → later.store = none ∧
    (store.LoadsFrom library later.disk ∨ changed.LoadsFrom library later.disk)

variable {incident : Option (Incident IdentityFile Content)}

theorem commitsCleanly_of_other
    (other : ∀ operation ∈ incident.map (·.operation),
      operation ≠ .rename .manifestNext .manifest ∧ operation ≠ .remove .manifestBackup) :
    CommitsCleanly ⟨disk, incident⟩ := by
  intro _
  refine ⟨fun left faces => ?_, fun left faces => ?_⟩
  · cases faces
    exact (other _ rfl).1 rfl
  · cases faces
    exact (other _ rfl).2 rfl

variable {action : IdentityAction Content Material}

theorem wellFormed_intended {store changed : ClientCertificateStore Der Key Details}
    (wellFormed : store.WellFormed library)
    (accepted : action.intended library store = some changed) : changed.WellFormed library := by
  cases action with
  | importIdentity _ incident => exact wellFormed_afterImport wellFormed accepted
  | update id _ incident => exact wellFormed_afterUpdate wellFormed accepted
  | remove id incident => exact wellFormed_afterRemove wellFormed accepted
  | start | stop => cases accepted

variable {state : IdentityState Content Der Key Details}

/-- A call on the store in memory that settles. -/
theorem consistent_runStore {Value : Type} (lawful : library.Lawful)
    {store changed : ClientCertificateStore Der Key Details} (running : state.store = some store)
    (wellFormed : store.WellFormed library) (changedWellFormed : changed.WellFormed library)
    {program : ClientCertificateStore Der Key Details →
      FileProgram IdentityFile Content
        (Except SslMitmError Value × ClientCertificateStore Der Key Details)}
    (settles : Meets (program store) ⟨state.disk, incident⟩ (Settles library store changed)) :
    (state.runStore incident program).2.Consistent library ∧
      CallConsistent library store changed (state.runStore incident program).1
        (state.runStore incident program).2 := by
  unfold Meets at settles
  unfold IdentityState.runStore
  rw [running]
  dsimp only
  match (program store ⟨state.disk, incident⟩).1, settles with
  | none, settles =>
    refine ⟨?_, nofun, nofun, fun _ => ⟨rfl, settles.imp (loadsFrom_of_recorded lawful wellFormed)
      (loadsFrom_of_recorded lawful changedWellFormed)⟩⟩
    rcases settles with recorded | recorded
    · exact ⟨store, wellFormed, recorded, nofun⟩
    · exact ⟨changed, changedWellFormed, recorded, nofun⟩
  | some (.error error, after), ⟨same, recorded⟩ =>
    have afterWellFormed := wellFormed.ofSame same
    have afterRecorded := recorded.ofSame same
    refine ⟨⟨after, afterWellFormed, afterRecorded, fun current isCurrent => ?_⟩,
      fun _ _ => ⟨after, rfl, same, loadsFrom_of_recorded lawful afterWellFormed afterRecorded⟩,
      nofun, nofun⟩
    cases isCurrent
    rfl
  | some (.ok _, after), ⟨isChanged, recorded⟩ =>
    subst isChanged
    refine ⟨⟨after, changedWellFormed, recorded, fun current isCurrent => ?_⟩, nofun,
      fun _ => ⟨rfl, loadsFrom_of_recorded lawful changedWellFormed recorded⟩, nofun⟩
    cases isCurrent
    rfl

theorem consistent_call (lawful : library.Lawful) {store : ClientCertificateStore Der Key Details}
    (consistent : state.Consistent library) (clean : action.Clean library state)
    (running : state.store = some store) (changes : action.changes = true) :
    (state.call library action).2.Consistent library ∧
      CallConsistent library store ((action.intended library store).getD store)
        (state.call library action).1 (state.call library action).2 := by
  obtain ⟨_, wellFormed, recorded, isStore⟩ := consistent
  cases isStore store running
  have cleanHere := clean store running
  have changedWellFormed :
      ((action.intended library store).getD store).WellFormed library := by
    cases accepted : action.intended library store with
    | none => exact wellFormed
    | some => exact wellFormed_intended wellFormed accepted
  cases action with
  | start | stop => cases changes
  | importIdentity input incident =>
    exact consistent_runStore lawful running wellFormed changedWellFormed
      (meets_importIdentity wellFormed recorded input cleanHere)
  | update id change incident =>
    exact consistent_runStore lawful running wellFormed changedWellFormed
      (meets_update recorded id change cleanHere)
  | remove id incident =>
    exact consistent_runStore lawful running wellFormed changedWellFormed
      (meets_remove recorded id cleanHere)

theorem consistent_initial : (identityMachine library).initial.Consistent library := by
  refine ⟨.empty, ⟨nodup_nil, fun id => ?_, fun id identity found => ?_⟩,
    ⟨.inr ⟨rfl, rfl⟩, fun id identity found => ?_⟩, nofun⟩
  · simp [ClientCertificateStore.empty]
  all_goals
    cases found

theorem consistent_start (lawful : library.Lawful) (consistent : state.Consistent library) :
    (state.call library (.start : IdentityAction Content Material)).2.Consistent library := by
  obtain ⟨_, wellFormed, recorded, -⟩ := consistent
  obtain ⟨loaded, loads, same⟩ := loadsFrom_of_recorded lawful wellFormed recorded
  rw [IdentityState.call, loads]
  refine ⟨loaded, wellFormed.ofSame same, recorded.ofSame same, fun _ isCurrent => ?_⟩
  cases isCurrent
  rfl

theorem consistent_step (lawful : library.Lawful) (clean : action.Clean library state)
    (consistent : state.Consistent library) :
    ((identityMachine library).step state action).Consistent library := by
  by_cases changes : action.changes = true
  · cases running : state.store with
    | some store => exact (consistent_call lawful consistent clean running changes).1
    | none =>
      have unchanged : (identityMachine library).step state action = state := by
        cases action with
        | start | stop => cases changes
        | _ => simp [identityMachine, IdentityState.call, IdentityState.runStore, running]
      rw [unchanged]
      exact consistent
  · cases action with
    | start => exact consistent_start lawful consistent
    | stop =>
      obtain ⟨store, wellFormed, recorded, -⟩ := consistent
      exact ⟨store, wellFormed, recorded, nofun⟩
    | _ => exact absurd rfl changes

/-- Every identity is listed exactly once. -/
def ClientCertificateStore.ListsEachOnce (store : ClientCertificateStore Der Key Details) : Prop :=
  store.order.Nodup ∧ ∀ id, id ∈ store.order ↔ (store.identities.get? id).isSome

/-- Memory and directory agree after every call of a run in which every accepted call replaces the
manifest without trouble at the end. -/
theorem identities_consistent (lawful : library.Lawful)
    {actions : List (IdentityAction Content Material)}
    (clean : (identityMachine library).Guarded (IdentityAction.Clean library)
      (identityMachine library).initial actions) :
    (∀ store, ((identityMachine library).run actions).store = some store → store.ListsEachOnce) ∧
      ∀ earlier action store, earlier ++ [action] <+: actions →
        ((identityMachine library).run earlier).store = some store → action.changes = true →
        CallConsistent library store ((action.intended library store).getD store)
          (((identityMachine library).run earlier).call library action).1
          (((identityMachine library).run earlier).call library action).2 := by
  have consistent {calls : List (IdentityAction Content Material)}
      (cleanCalls : (identityMachine library).Guarded (IdentityAction.Clean library)
        (identityMachine library).initial calls) :
      ((identityMachine library).run calls).Consistent library :=
    Machine.guarded_run consistent_initial
      (fun _ _ holds cleanStep => consistent_step lawful cleanStep holds) cleanCalls
  refine ⟨fun store running => ?_, fun earlier action store isPrefix running changes => ?_⟩
  · obtain ⟨_, wellFormed, -, isHeld⟩ := consistent clean
    cases isHeld store running
    exact ⟨wellFormed.distinct, wellFormed.listed⟩
  · obtain ⟨_, rfl⟩ := isPrefix
    obtain ⟨cleanEarlier, cleanAction⟩ :=
      Machine.guarded_concat _ |>.mp ((Machine.guarded_append _).mp clean).1
    exact (consistent_call lawful (consistent cleanEarlier) cleanAction running changes).2

end Persistence

/-! ### A library of numbers -/

/-- What the files of the sample hold. -/
inductive SampleContent where
  | infos (infos : List (ClientCertificateInfo Unit))
  | chain (chain : List UInt8)
  | key (key : UInt8)

/-- Certificates are bytes, and a certificate is its own key. -/
def sampleIdentityLibrary : IdentityLibrary SampleContent UInt8 UInt8 UInt8 Unit where
  containerChain material := .ok [material]
  containerKey material := .ok material
  isCertificate _ := true
  validateIdentity chain privateKey :=
    if chain.head? = some privateKey then .ok () else .error .invalidPrivateKey
  digest leaf := ⟨List.replicate 32 leaf, rfl⟩
  describe _ _ := .ok ()
  toJson := .infos
  fromJson
    | .infos infos => .ok infos
    | _ => .error .invalidClientCertificate
  chainPem := .chain
  readChain
    | .chain chain => .ok chain
    | _ => .error .invalidClientCertificate
  secretDer := .key
  readKey
    | .key key => .ok key
    | _ => .error .invalidPrivateKey

theorem sampleIdentityLibrary_lawful : sampleIdentityLibrary.Lawful :=
  ⟨fun _ => rfl, fun _ _ => rfl, fun _ _ _ => rfl⟩

/-- An import for every host. -/
def sampleImport (material : UInt8) : ClientCertificateImport UInt8 where
  name := ['n']
  enabled := true
  locations := [⟨['*'], ['*'], [], [], none⟩]
  material := material

/-- One identity is imported. -/
def sampleCalls : List (IdentityAction SampleContent UInt8) :=
  [.start, .importIdentity (sampleImport 1) none]

/-- The import of another one, where the manifest cannot be renamed. -/
def sampleFailure : IdentityAction SampleContent UInt8 :=
  .importIdentity (sampleImport 2) (some ⟨.rename .manifest .manifestBackup, 0, .fails none⟩)

theorem identities_consistent_failure :
    ∃ store, ((identityMachine sampleIdentityLibrary).run sampleCalls).store = some store ∧
      CallConsistent sampleIdentityLibrary store
        ((sampleFailure.intended sampleIdentityLibrary store).getD store)
        (((identityMachine sampleIdentityLibrary).run sampleCalls).call sampleIdentityLibrary
          sampleFailure).1
        (((identityMachine sampleIdentityLibrary).run sampleCalls).call sampleIdentityLibrary
          sampleFailure).2 := by
  have runs : ((identityMachine sampleIdentityLibrary).run sampleCalls).store.isSome = true := by
    decide +kernel
  obtain ⟨store, running⟩ := isSome_iff_exists.mp runs
  have clean : (identityMachine sampleIdentityLibrary).Guarded
      (IdentityAction.Clean sampleIdentityLibrary) (identityMachine sampleIdentityLibrary).initial
      (sampleCalls ++ [sampleFailure]) := by
    refine ⟨?_, ?_, ?_, trivial⟩
    all_goals
      intro _ _ _
      exact commitsCleanly_of_other (by decide)
  exact ⟨store, running, (identities_consistent sampleIdentityLibrary_lawful clean).2 sampleCalls
    sampleFailure store prefix_rfl running rfl⟩

/-- The import of another one, where the backup of the manifest is not removed. -/
def sampleLeftover : IdentityAction SampleContent UInt8 :=
  .importIdentity (sampleImport 2) (some ⟨.remove .manifestBackup, 1, .fails none⟩)

/-- The import fails, and the directory can no longer be loaded. -/
theorem not_identities_consistent_leftover :
    (((identityMachine sampleIdentityLibrary).run sampleCalls).call sampleIdentityLibrary
        sampleLeftover).1 = some (.error .certificateStorage) ∧
      ∀ store, ¬ ClientCertificateStore.LoadsFrom sampleIdentityLibrary
        (((identityMachine sampleIdentityLibrary).run sampleCalls).call sampleIdentityLibrary
          sampleLeftover).2.disk store := by
  refine ⟨by decide +kernel, fun store ⟨_, loads, _⟩ => ?_⟩
  have refused : (ClientCertificateStore.load sampleIdentityLibrary
      ⟨(((identityMachine sampleIdentityLibrary).run sampleCalls).call sampleIdentityLibrary
        sampleLeftover).2.disk, none⟩).1.map Except.isOk = some false := by decide +kernel
  rw [loads] at refused
  cases refused

end SprakCapture.HttpProxy
