import SprakCapture.Capture.RecordingChains

/-!
# Files of stored bodies

A file that a stored transaction refers to is there: neither a cleanup nor its retries
nor the clearing of the directory deletes it. Each file name contains a UUID of its own,
so the names of live bodies, of bodies that wait for their deletion, of orphans and of
spools never meet.
-/

namespace SprakCapture.Capture

open Data List RecordingSession Data.Table Spool

theorem Spool.suffix_path (suffix : Uuid) (spool : Spool) : (spool.path suffix).suffix = suffix := by
  unfold Spool.path
  cases spool.stage with
  | opened | staged => rfl

/-- The files of bodies. -/
def filesOf (bodies : List BodyRef) : List SpillName := bodies.filterMap BodyRef.file

theorem filesOf_append (first second : List BodyRef) :
    filesOf (first ++ second) = filesOf first ++ filesOf second :=
  filterMap_append

theorem filesOf_clone (bodies : List BodyRef) :
    filesOf (bodies.map BodyRef.clone) = filesOf bodies := by
  unfold filesOf
  rw [filterMap_map]
  refine filterMap_congr fun body _ => ?_
  obtain ⟨_, storage⟩ := body
  cases storage with
  | memory | spill => rfl

/-- The files of live bodies are there and in nobody else's hands. `queued` are the files that
wait for their deletion, and `stored` are the transactions of the session. -/
structure FilesKept (live queued : List SpillName) (stored : Uuid → Prop) (store : BodyStore) :
    Prop where
  present : ∀ name ∈ live, name ∈ store.files
  distinct : (live.map SpillName.suffix).Nodup
  unreleased : ∀ name ∈ live, ∀ other ∈ queued ++ store.orphanedSpills, name.suffix ≠ other.suffix
  settled : ∀ name ∈ live ++ (queued ++ store.orphanedSpills),
    name.suffix ∈ store.known ∧ store.spools.get? name.suffix = none
  known : ∀ {suffix spool}, store.spools.get? suffix = some spool → suffix ∈ store.known
  /-- A spool that was staged for a transaction still has its file while that is stored. -/
  staged : ∀ {suffix spool target}, store.spools.get? suffix = some spool →
    spool.stage = .staged target → stored target → spool.path suffix ∈ store.files
  targets : ∀ {suffix spool target}, store.spools.get? suffix = some spool →
    spool.stage = .staged target → target ∈ store.known

variable {spool : Spool}

namespace FilesKept

variable {live queued : List SpillName} {stored : Uuid → Prop} {store : BodyStore}

/-! ### Changes of the session -/

section

variable (kept : FilesKept live queued stored store)
include kept

theorem perm {other : List SpillName} (permuted : live.Perm other) :
    FilesKept other queued stored store where
  present := fun name member => kept.present name (permuted.mem_iff.mpr member)
  distinct := (permuted.map _).nodup_iff.mp kept.distinct
  unreleased := fun name member => kept.unreleased name (permuted.mem_iff.mpr member)
  settled := fun name member => kept.settled name ((permuted.append_right _).mem_iff.mpr member)
  known := kept.known
  staged := kept.staged
  targets := kept.targets

theorem forget {remaining : Uuid → Prop} (fewer : ∀ target, remaining target → stored target) :
    FilesKept live queued remaining store where
  present := kept.present
  distinct := kept.distinct
  unreleased := kept.unreleased
  settled := kept.settled
  known := kept.known
  staged := fun found stage target => kept.staged found stage (fewer _ target)
  targets := kept.targets

omit kept in
theorem release {moved : List SpillName} (kept : FilesKept (moved ++ live) queued stored store) :
    FilesKept live (queued ++ moved) stored store := by
  have distinct := kept.distinct
  rw [map_append, nodup_append] at distinct
  obtain ⟨_, distinctLive, apart⟩ := distinct
  refine ⟨fun name member => kept.present name (mem_append_right _ member), distinctLive,
    ?_, ?_, kept.known, kept.staged, kept.targets⟩
  · intro name member other otherMember
    rcases mem_append.mp otherMember with waiting | orphan
    · rcases mem_append.mp waiting with old | new
      · exact kept.unreleased name (mem_append_right _ member) other (mem_append_left _ old)
      · exact fun same => apart _ (List.mem_map_of_mem new) _ (List.mem_map_of_mem member) same.symm
    · exact kept.unreleased name (mem_append_right _ member) other (mem_append_right _ orphan)
  · intro name member
    refine kept.settled name ?_
    simp only [mem_append] at member ⊢
    tauto

theorem enroll {fresh : Uuid} (new : fresh ∉ store.known) :
    FilesKept live queued (fun target => target = fresh ∨ stored target)
      { store with known := fresh :: store.known } where
  present := kept.present
  distinct := kept.distinct
  unreleased := kept.unreleased
  settled := fun name member =>
    ⟨mem_cons_of_mem _ (kept.settled name member).1, (kept.settled name member).2⟩
  known := fun found => mem_cons_of_mem _ (kept.known found)
  staged := by
    intro _ _ target found stage storedTarget
    rcases storedTarget with rfl | old
    · exact absurd (kept.targets found stage) new
    · exact kept.staged found stage old
  targets := fun found stage => mem_cons_of_mem _ (kept.targets found stage)

theorem shrink {remaining orphans : List SpillName}
    (fewerQueued : ∀ name ∈ remaining, name ∈ queued)
    (fewerOrphans : ∀ name ∈ orphans, name ∈ store.orphanedSpills) :
    FilesKept live remaining stored { store with orphanedSpills := orphans } := by
  have fewer : ∀ name ∈ remaining ++ orphans, name ∈ queued ++ store.orphanedSpills := by
    intro name member
    rcases mem_append.mp member with _ | _
    · simp_all
    simp_all
  refine ⟨kept.present, kept.distinct, ?_, ?_, kept.known, kept.staged, kept.targets⟩
  · exact fun name member other released => kept.unreleased name member other (fewer other released)
  · intro name member
    refine kept.settled name ?_
    rcases mem_append.mp member with alive | released
    · exact mem_append_left _ alive
    · exact mem_append_right _ (fewer name released)

end

/-! ### Deletions -/

variable {name : SpillName}

variable (kept : FilesKept live queued stored store)
include kept

/-- The deletion of a file that is neither live nor a spool's. -/
theorem removeFile (dead : ∀ other ∈ live, other.suffix ≠ name.suffix)
    (unspooled : ∀ {suffix spool}, store.spools.get? suffix = some spool → suffix ≠ name.suffix) :
    FilesKept live queued stored (store.removeFile name) := by
  have stays : ∀ other ∈ store.files, other.suffix ≠ name.suffix →
      other ∈ (store.removeFile name).files := by
    intro other member different
    refine mem_filter.mpr ⟨member, bne_iff_ne.mpr ?_⟩
    rintro rfl
    exact different rfl
  refine ⟨?_, kept.distinct, kept.unreleased, kept.settled, kept.known, ?_, kept.targets⟩
  · exact fun other member => stays other (kept.present other member) (dead other member)
  · intro suffix spool _ found stage storedTarget
    refine stays _ (kept.staged found stage storedTarget) ?_
    rw [suffix_path]
    exact unspooled found

theorem removeReleased (released : name ∈ queued ++ store.orphanedSpills) :
    FilesKept live queued stored (store.removeFile name) := by
  refine kept.removeFile (fun other member => kept.unreleased other member name released) ?_
  rintro _ _ found rfl
  rw [(kept.settled name (mem_append_right _ released)).2] at found
  cases found

omit kept

/-- Without transactions any file can be deleted. -/
theorem removeFiles (kept : FilesKept [] queued (fun _ => False) store)
    (deleted : List SpillName) : FilesKept [] queued (fun _ => False) (store.removeFiles deleted) where
  present := nofun
  distinct := kept.distinct
  unreleased := kept.unreleased
  settled := kept.settled
  known := kept.known
  staged := fun _ _ impossible => impossible.elim
  targets := kept.targets

/-! ### Other tasks -/

include kept

theorem learn (uuid : Uuid) :
    FilesKept live queued stored { store with known := uuid :: store.known } where
  present := kept.present
  distinct := kept.distinct
  unreleased := kept.unreleased
  settled := fun name member =>
    ⟨mem_cons_of_mem _ (kept.settled name member).1, (kept.settled name member).2⟩
  known := fun found => mem_cons_of_mem _ (kept.known found)
  staged := kept.staged
  targets := fun found stage => mem_cons_of_mem _ (kept.targets found stage)

variable {suffix : Uuid}

/-- A spool is in nobody else's hands. -/
theorem spool_apart (found : store.spools.get? suffix = some spool) :
    ∀ name ∈ live ++ (queued ++ store.orphanedSpills), name.suffix ≠ suffix := by
  rintro name member rfl
  rw [(kept.settled name member).2] at found
  cases found

theorem setSpool {files : List SpillName} (known : suffix ∈ store.known)
    (apart : ∀ name ∈ live ++ (queued ++ store.orphanedSpills), name.suffix ≠ suffix)
    (others : ∀ name ∈ store.files, name.suffix ≠ suffix → name ∈ files)
    (own : ∀ {target}, spool.stage = .staged target →
      target ∈ store.known ∧ (stored target → spool.path suffix ∈ files)) :
    FilesKept live queued stored { store with files, spools := store.spools.insert suffix spool } := by
  refine ⟨?_, kept.distinct, kept.unreleased, ?_, ?_, ?_, ?_⟩
  · intro name member
    exact others name (kept.present name member) (apart name (mem_append_left _ member))
  · intro name member
    obtain ⟨_, _⟩ := kept.settled name member
    grind
  · intro identifier other found
    rw [Table.get?_insert] at found
    split at found
    · rename_i equal
      rw [equal]
      exact known
    · exact kept.known found
  · intro identifier other target found stage storedTarget
    rw [Table.get?_insert] at found
    split at found
    · simp_all
    · rename_i different
      refine others _ (kept.staged found stage storedTarget) ?_
      rw [suffix_path]
      exact different
  · intro identifier other target found stage
    rw [Table.get?_insert] at found
    split at found
    · cases found
      exact (own stage).1
    · exact kept.targets found stage

theorem eraseSpool (suffix : Uuid) :
    FilesKept live queued stored { store with spools := store.spools.erase suffix } := by
  have earlier : ∀ {identifier : Uuid} {spool : Spool},
      (store.spools.erase suffix).get? identifier = some spool →
      store.spools.get? identifier = some spool := by
    grind
  refine ⟨kept.present, kept.distinct, kept.unreleased, ?_, fun found => kept.known (earlier found),
    fun found => kept.staged (earlier found), fun found => kept.targets (earlier found)⟩
  intro name member
  obtain ⟨known, _⟩ := kept.settled name member
  grind

theorem orphan (known : name.suffix ∈ store.known)
    (unspooled : store.spools.get? name.suffix = none)
    (dead : ∀ other ∈ live, other.suffix ≠ name.suffix) :
    FilesKept live queued stored
      { store with orphanedSpills := store.orphanedSpills.insert name } := by
  have released : ∀ other ∈ queued ++ store.orphanedSpills.insert name,
      other = name ∨ other ∈ queued ++ store.orphanedSpills := by
    intro other member
    rcases mem_append.mp member with waiting | orphaned
    · exact .inr (mem_append_left _ waiting)
    · rcases mem_insert_iff.mp orphaned with new | old
      · exact .inl new
      · exact .inr (mem_append_right _ old)
  refine ⟨kept.present, kept.distinct, ?_, ?_, kept.known, kept.staged, kept.targets⟩
  · intro other member candidate candidateReleased
    rcases released candidate candidateReleased with rfl | old
    · exact dead other member
    · exact kept.unreleased other member candidate old
  · intro other member
    rcases mem_append.mp member with alive | otherReleased
    · exact kept.settled other (mem_append_left _ alive)
    · rcases released other otherReleased with rfl | old
      · exact ⟨known, unspooled⟩
      · exact kept.settled other (mem_append_right _ old)

theorem addFile (name : SpillName) :
    FilesKept live queued stored { store with files := name :: store.files } :=
  ⟨fun other member => mem_cons_of_mem _ (kept.present other member), kept.distinct,
    kept.unreleased, kept.settled, kept.known,
    fun found stage target => mem_cons_of_mem _ (kept.staged found stage target),
    kept.targets⟩

theorem dropSpool (suffix : Uuid) (removed : Bool) :
    FilesKept live queued stored (store.dropSpool suffix removed) := by
  unfold BodyStore.dropSpool
  split
  · exact kept
  rename_i spool found
  have erased := kept.eraseSpool suffix
  have gone : (store.spools.erase suffix).get? suffix = none := get?_erase_self ..
  have dead : ∀ other ∈ live, other.suffix ≠ (spool.path suffix).suffix := by
    intro other member
    rw [suffix_path]
    exact kept.spool_apart found other (mem_append_left _ member)
  unfold BodyStore.dropGuard
  split
  · refine erased.removeFile dead ?_
    grind [suffix_path]
  refine erased.orphan ?_ ?_ dead
  · rw [suffix_path]
    exact kept.known found
  · rw [suffix_path]
    exact gone

theorem event (env : Environment) (event : StoreEvent) :
    FilesKept live queued stored (store.event env event) := by
  have fresh := env.fresh store.known
  cases event with
  | createSpool =>
    have learnt := kept.learn (env.newV4 store.known)
    unfold BodyStore.event BodyStore.createSpool
    dsimp only
    split
    · refine learnt.setSpool mem_cons_self ?_ (fun _ member _ => mem_cons_of_mem _ member) nofun
      rintro name member same
      exact fresh (same ▸ (kept.settled name member).1)
    · exact learnt
  | appendSpool suffix =>
    unfold BodyStore.event BodyStore.appendSpool Table.modify
    dsimp only
    split
    · rename_i spool found
      refine kept.setSpool (kept.known found) (kept.spool_apart found) (fun _ member _ => member)
        fun stage => ⟨kept.targets found stage, fun storedTarget => ?_⟩
      have own := kept.staged found stage storedTarget
      exact own
    · exact kept
  | stageSpool suffix target _ removed =>
    have learnt := kept.learn target
    unfold BodyStore.event BodyStore.stageSpool
    dsimp only
    split
    · exact learnt
    rename_i spool found
    split
    · split
      · refine learnt.setSpool (learnt.known found) (learnt.spool_apart found) ?_ ?_
        · intro name member different
          refine mem_cons_of_mem _ (mem_filter.mpr ⟨member, bne_iff_ne.mpr ?_⟩)
          rintro rfl
          exact different rfl
        · intro _ stage
          cases stage
          exact ⟨mem_cons_self, fun _ => mem_cons_self⟩
      · exact learnt.dropSpool suffix removed
    · exact learnt
  | dropSpool suffix removed => exact kept.dropSpool suffix removed

theorem abandon (known : name.suffix ∈ store.known)
    (unspooled : store.spools.get? name.suffix = none)
    (dead : ∀ other ∈ live, other.suffix ≠ name.suffix) (leftover : Option Bool) :
    FilesKept live queued stored (store.abandon name leftover) := by
  unfold BodyStore.abandon
  split
  · exact kept
  · rename_i renamed
    cases renamed with
    | true => exact (kept.addFile name).orphan known unspooled dead
    | false => exact (kept.addFile (.pending name.suffix)).orphan known unspooled dead

/-! ### New bodies -/

section

variable (kept : FilesKept live queued stored store)
include kept

/-- A file that nobody has becomes live. -/
theorem enliven (present : name ∈ store.files) (known : name.suffix ∈ store.known)
    (unspooled : store.spools.get? name.suffix = none)
    (apart : ∀ other ∈ live ++ (queued ++ store.orphanedSpills), other.suffix ≠ name.suffix) :
    FilesKept (name :: live) queued stored store := by
  refine ⟨?_, ?_, ?_, ?_, kept.known, kept.staged, kept.targets⟩
  · intro other member
    rcases mem_cons.mp member with rfl | old
    · exact present
    · exact kept.present other old
  · rw [map_cons, nodup_cons]
    refine ⟨fun member => ?_, kept.distinct⟩
    obtain ⟨other, old, same⟩ := List.mem_map.mp member
    exact apart other (mem_append_left _ old) same
  · intro other member released releasedMember
    rcases mem_cons.mp member with rfl | old
    · grind
    · exact kept.unreleased other old released releasedMember
  · intro other member
    rcases mem_cons.mp member with rfl | old
    · exact ⟨known, unspooled⟩
    · exact kept.settled other old

/-- A new UUID is in no name and belongs to no spool. -/
theorem fresh_apart (env : Environment) :
    (∀ other ∈ live ++ (queued ++ store.orphanedSpills), other.suffix ≠ env.newV4 store.known) ∧
      store.spools.get? (env.newV4 store.known) = none := by
  refine ⟨fun other member same => env.fresh store.known (same ▸ (kept.settled other member).1), ?_⟩
  by_contra present
  obtain ⟨_, found⟩ := Option.ne_none_iff_exists'.mp present
  exact env.fresh store.known (kept.known found)

theorem enlivenSpool {suffix target : Uuid} (found : store.spools.get? suffix = some spool)
    (stage : spool.stage = .staged target) (storedTarget : stored target) :
    FilesKept (spool.path suffix :: live) queued stored
      { store with spools := store.spools.erase suffix } := by
  refine (kept.eraseSpool suffix).enliven (kept.staged found stage storedTarget) ?_ ?_ ?_
  · rw [suffix_path]
    exact kept.known found
  · rw [suffix_path]
    exact get?_erase_self ..
  · rw [suffix_path]
    exact kept.spool_apart found

theorem place {env : Environment} {transactionId : Uuid} {added : List BodyRef} {after : BodyStore}
    (placed : Placed env store transactionId added after) (storedTarget : stored transactionId) :
    FilesKept (filesOf added ++ live) queued stored after := by
  obtain ⟨freshApart, freshUnspooled⟩ := kept.fresh_apart env
  cases placed with
  | memory body file =>
    have none : filesOf [body] = [] := by simp [filesOf, file]
    rw [none]
    exact kept
  | written body name file fresh =>
    have one : filesOf [body] = [name] := by simp [filesOf, file]
    rw [one]
    refine ((kept.learn _).addFile name).enliven mem_cons_self ?_ ?_ ?_
    · rw [fresh]
      exact mem_cons_self
    · rw [fresh]
      exact freshUnspooled
    · rw [fresh]
      exact freshApart
  | spools request response first second firstSpool secondSpool different firstFound secondFound
      firstStaged secondStaged requestFile responseFile =>
      have both : filesOf [request, response] = [firstSpool.path first, secondSpool.path second] := by
        simp [filesOf, requestFile, responseFile]
      have secondLater : (store.spools.erase first).get? second = some secondSpool := by
        rw [Table.get?_erase, if_neg (Ne.symm different)]
        exact secondFound
      have enlivened := (kept.enlivenSpool firstFound firstStaged storedTarget).enlivenSpool
        secondLater secondStaged storedTarget
      rw [both]
      exact enlivened.perm (List.Perm.swap ..)

end

end FilesKept

/-! ### The session -/

variable {state : RecordingStateInner} {record : TransactionRecord}

namespace RecordingStateInner

/-- The bodies of all stored transactions. -/
def liveBodies (state : RecordingStateInner) : List BodyRef :=
  state.transactions.values.flatMap TransactionRecord.bodyReferences

theorem mem_liveBodies {transactionId : Uuid}
    (found : state.transactions.get? transactionId = some record) {body : BodyRef}
    (member : body ∈ record.bodyReferences) : body ∈ state.liveBodies :=
  mem_flatMap.mpr ⟨record, mem_values.mpr ⟨transactionId, found⟩, member⟩

/-- A record is replaced, and its bodies with it. -/
theorem liveBodies_withRecord {transactionId : Uuid} {before : TransactionRecord}
    (found : state.transactions.get? transactionId = some before) (after : TransactionRecord) :
    ∃ others, state.liveBodies.Perm (before.bodyReferences ++ others) ∧
      (state.withRecord transactionId after).liveBodies = after.bodyReferences ++ others := by
  refine ⟨(state.transactions.erase transactionId).values.flatMap
    TransactionRecord.bodyReferences, ?_, ?_⟩
  · have permuted := (values_perm_of_get? found).flatMap_right TransactionRecord.bodyReferences
    exact permuted
  rfl

theorem liveBodies_evict (layout : Layout) (state : RecordingStateInner)
    (transactionIds : List Uuid) :
    state.liveBodies.Perm ((state.removeTransactions layout transactionIds).1 ++
      (state.evict layout transactionIds).liveBodies) := by
  obtain ⟨_, removed⟩ := removeTransactions_eq layout state transactionIds
  rw [evict, removed]
  exact bodies_dropRecords layout transactionIds (state.unlist transactionIds)

end RecordingStateInner

/-- The files of the session, and the clearing of its directory. -/
structure SessionFiles (session : RecordingSession) : Prop where
  files : FilesKept (filesOf session.state.liveBodies) (filesOf session.state.cleanupQueue)
    (fun target => ∃ record, session.state.transactions.get? target = some record)
    session.bodyStore
  idle : session.state.directoryCleanupPending = true → session.state.transactions = ∅

namespace SessionFiles

open RecordingStateInner

variable {env : Environment} {session : RecordingSession}

variable {transactionId : Uuid}

variable (files : SessionFiles session)
include files

/-- No clearing is pending while a transaction is stored. -/
theorem not_pending (found : session.state.transactions.get? transactionId = some record) :
    session.state.directoryCleanupPending ≠ true := by
  intro pending
  rw [files.idle pending] at found
  cases found

/-- Nothing that the files depend on changes but the body store. -/
theorem withStore {bodyStore : BodyStore}
    (transactions : state.transactions = session.state.transactions)
    (queue : state.cleanupQueue = session.state.cleanupQueue)
    (pending : state.directoryCleanupPending = session.state.directoryCleanupPending)
    (kept : FilesKept (filesOf session.state.liveBodies) (filesOf session.state.cleanupQueue)
      (fun target => ∃ record, session.state.transactions.get? target = some record) bodyStore) :
    SessionFiles { state, bodyStore } := by
  have live : state.liveBodies = session.state.liveBodies := by
    unfold liveBodies
    rw [transactions]
  refine ⟨?_, ?_⟩
  · simp_all
  · rw [pending, transactions]
    exact files.idle

variable {before after : TransactionRecord}

theorem withRecord (found : session.state.transactions.get? transactionId = some before)
    (bodies : after.bodyReferences = before.bodyReferences) :
    SessionFiles { session with state := session.state.withRecord transactionId after } := by
  obtain ⟨_, liveBefore, liveAfter⟩ := liveBodies_withRecord found after
  refine ⟨?_, fun pending => absurd pending (files.not_pending found)⟩
  have permuted : (filesOf session.state.liveBodies).Perm
      (filesOf (session.state.withRecord transactionId after).liveBodies) := by
    rw [liveAfter, bodies]
    exact liveBefore.filterMap _
  refine (files.files.perm permuted).forget ?_
  rintro _ ⟨_, stored⟩
  exact get?_withRecord found stored

theorem evict (transactionIds : List Uuid) :
    SessionFiles { session with state := session.state.evict env.layout transactionIds } := by
  have frame := evict_frame env.layout session.state transactionIds
  have live := (liveBodies_evict env.layout session.state transactionIds).filterMap BodyRef.file
  rw [filterMap_append] at live
  have released := (files.files.perm live).release
  refine ⟨?_, ?_⟩
  · rw [frame.cleanupQueue]
    rw [filesOf_append]
    refine released.forget ?_
    rintro _ ⟨record, stored⟩
    exact ⟨record, get?_of_evict stored⟩
  · intro pending
    refine eq_empty_of_get? fun _ => ?_
    have before : session.state.directoryCleanupPending = true := by
      rw [← pending, frame.directoryCleanupPending]
    rw [get?_evict, files.idle before]
    split <;> rfl

theorem register {kept dropped added : List BodyRef} {bodyStore : BodyStore}
    {limits : RecordingLimits} {total : Nat}
    (found : session.state.transactions.get? transactionId = some before)
    (registers : Registers limits total before after kept dropped added)
    (placed : Placed env session.bodyStore transactionId added bodyStore) (totalBodyBytes : Nat) :
    SessionFiles
      { bodyStore
        state := { session.state.withRecord transactionId after with
          totalBodyBytes }.enqueueBodyReferences env.layout (dropped.map BodyRef.clone) } := by
  obtain ⟨others, liveBefore, liveAfter⟩ := liveBodies_withRecord found after
  refine ⟨?_, fun pending => absurd pending (files.not_pending found)⟩
  -- The old bodies are released before the new ones take their place.
  have split : session.state.liveBodies.Perm (dropped ++ (kept ++ others)) := by
    refine liveBefore.trans ((registers.bodiesBefore.append_right others).trans ?_)
    rw [← append_assoc]
    exact perm_append_comm.append_right others
  have filesSplit := split.filterMap BodyRef.file
  rw [filterMap_append] at filesSplit
  have replaced := (files.files.perm filesSplit).release.place placed ⟨before, found⟩
  have joined : (session.state.withRecord transactionId after).liveBodies.Perm
      (added ++ (kept ++ others)) := by
    rw [liveAfter]
    refine (registers.bodiesAfter.append_right others).trans ?_
    rw [← append_assoc]
    exact perm_append_comm.append_right others
  have filesJoined := joined.filterMap BodyRef.file
  rw [filterMap_append] at filesJoined
  unfold enqueueBodyReferences
  rw [filesOf_append, filesOf_clone]
  refine (replaced.perm filesJoined.symm).forget ?_
  rintro _ ⟨_, stored⟩
  exact get?_withRecord found stored

theorem enroll (input : BeginTransaction) (bytes : Nat)
    (idle : session.state.directoryCleanupPending = false) (shaped : session.Shaped) :
    SessionFiles
      { state := session.state.enroll (env.newV4 session.bodyStore.known)
          (session.state.newRecord env.layout (env.newV4 session.bodyStore.known) input) bytes
        bodyStore :=
          { session.bodyStore with
            known := env.newV4 session.bodyStore.known :: session.bodyStore.known } } := by
  refine ⟨?_, ?_⟩
  · have live : (session.state.enroll (env.newV4 session.bodyStore.known)
        (session.state.newRecord env.layout (env.newV4 session.bodyStore.known) input)
        bytes).liveBodies = session.state.liveBodies := by
      unfold liveBodies RecordingStateInner.enroll
      rw [values_insert, erase_of_get?_eq_none (shaped.fresh env)]
      rfl
    rw [live]
    refine (files.files.enroll (env.fresh _)).forget ?_
    rintro _ ⟨record, stored⟩
    unfold RecordingStateInner.enroll at stored
    rw [Table.get?_insert] at stored
    split at stored
    · rename_i equal
      exact .inl equal
    · exact .inr ⟨record, stored⟩
  · intro pending
    have same : session.state.directoryCleanupPending = true := pending
    rw [idle] at same
    cases same

omit files

theorem edit {before after : RecordingSession} (edit : SessionEdit env before after)
    (shaped : before.Shaped) (files : SessionFiles before) : SessionFiles after := by
  cases edit with
  | charge | configure => exact files.withStore rfl rfl rfl files.files
  | evict transactionIds => exact files.evict transactionIds
  | amend transactionId _ _ found amends => exact files.withRecord found amends.bodyReferences
  | finish transactionId _ _ limited found finishes =>
    have finished := files.withRecord found finishes.bodyReferences
    have evicted := @SessionFiles.evict env _ finished limited
    rw [insertResponseEntityEntry_eq]
    exact evicted.withStore rfl rfl rfl evicted.files
  | register transactionId _ _ _ _ _ _ found registers placed =>
    exact files.register found registers placed _
  | enroll input bytes idle => exact files.enroll input bytes idle shaped
  | removeAll =>
    refine ⟨?_, fun _ => rfl⟩
    have all := files.files
    rw [← append_nil (filesOf before.state.liveBodies)] at all
    have released := all.release
    rw [← filesOf_append] at released
    exact released.forget fun target stored => by
      obtain ⟨record, found⟩ := stored
      cases found
  | requestClear empty => exact ⟨(files.withStore rfl rfl rfl files.files).files, fun _ => empty⟩
  | dequeue body rest queue =>
    refine ⟨files.files.shrink ?_ fun _ orphan => orphan, files.idle⟩
    intro name member
    rw [queue]
    exact (sublist_cons_self body rest).filterMap _ |>.mem member
  | deleteFile name unused =>
    refine files.withStore rfl rfl rfl (files.files.removeReleased ?_)
    rcases unused with orphan | ⟨body, queued, file⟩
    · exact mem_append_right _ orphan
    · exact mem_append_left _ (mem_filterMap.mpr ⟨body, queued, file⟩)
  | deleteFiles deleted unused =>
    have empty : before.state.transactions = ∅ := unused.elim files.idle id
    have live : before.state.liveBodies = [] := by
      unfold liveBodies
      rw [empty]
      rfl
    have kept := files.files
    rw [live] at kept
    refine ⟨?_, files.idle⟩
    rw [live, empty]
    refine (FilesKept.removeFiles (kept.forget fun _ impossible => impossible.elim)
      deleted).forget ?_
    rintro target ⟨record, found⟩
    cases found
  | forgetOrphans =>
    exact files.withStore rfl rfl rfl
      (files.files.shrink (fun _ member => member) fun _ member => mem_of_mem_filter member)
  | cleared => exact ⟨files.files, nofun⟩
  | event event => exact files.withStore rfl rfl rfl (files.files.event env event)
  | abandon name leftover fresh =>
    obtain ⟨_, unspooled⟩ := files.files.fresh_apart env
    refine files.withStore rfl rfl rfl ((files.files.learn _).abandon ?_ ?_ ?_ leftover)
    · rw [fresh]
      exact mem_cons_self
    · rw [fresh]
      exact unspooled
    simp_all

end SessionFiles

/-- The file of every stored body is there, and no cleanup is about to delete it. While the
directory is to be cleared, nothing is stored. -/
structure LiveFilesKept (session : RecordingSession) : Prop where
  present : ∀ {transactionId record}, session.state.transactions.get? transactionId = some record →
    ∀ body ∈ record.bodyReferences, ∀ name, body.file = some name → name ∈ session.bodyStore.files
  unqueued : ∀ {transactionId record}, session.state.transactions.get? transactionId = some record →
    ∀ body ∈ record.bodyReferences, ∀ name, body.file = some name →
      ∀ other ∈ session.state.cleanupQueue, other.file ≠ some name
  notOrphaned : ∀ {transactionId record},
    session.state.transactions.get? transactionId = some record →
    ∀ body ∈ record.bodyReferences, ∀ name, body.file = some name →
      name ∉ session.bodyStore.orphanedSpills
  idle : session.state.directoryCleanupPending = true → session.state.transactions = ∅

theorem SessionFiles.liveFilesKept {session : RecordingSession} (files : SessionFiles session) :
    LiveFilesKept session := by
  have live : ∀ {transactionId record},
      session.state.transactions.get? transactionId = some record →
      ∀ body ∈ record.bodyReferences, ∀ name, body.file = some name →
        name ∈ filesOf session.state.liveBodies :=
    fun found body member name file => mem_filterMap.mpr
      ⟨body, RecordingStateInner.mem_liveBodies found member, file⟩
  refine ⟨?_, ?_, ?_, files.idle⟩
  · intro transactionId record found body member name file
    exact files.files.present name (live found body member name file)
  · intro transactionId record found body member name file other queued otherFile
    refine files.files.unreleased name (live found body member name file) name ?_ rfl
    exact mem_append_left _ (mem_filterMap.mpr ⟨other, queued, otherFile⟩)
  · intro transactionId record found body member name file orphan
    exact files.files.unreleased name (live found body member name file) name
      (mem_append_right _ orphan) rfl

theorem sessionFiles_run (env : Environment) (configuration : RecordingConfiguration)
    (startedAtMilliseconds : UInt64) (actions : List RecordingAction) :
    SessionFiles ((recordingMachine env configuration startedAtMilliseconds).run actions) := by
  refine edits_run ?_ SessionFiles.edit actions
  refine ⟨⟨?_, nodup_nil, ?_, ?_, ?_, ?_, ?_⟩, fun _ => rfl⟩
  · exact nofun
  · exact nofun
  · exact nofun
  · exact nofun
  · exact nofun
  · exact nofun

/-- The files of stored bodies are kept between the calls of every run and at every point within
a call, whatever file operations fail. -/
theorem liveFilesKept_run (env : Environment) (configuration : RecordingConfiguration)
    (startedAtMilliseconds : UInt64) (actions : List RecordingAction) :
    LiveFilesKept ((recordingMachine env configuration startedAtMilliseconds).run actions) ∧
      ∀ action, Relation.ReflTransGen
        (fun before after => SessionEdit env before after ∧ LiveFilesKept after)
        ((recordingMachine env configuration startedAtMilliseconds).run actions)
        ((recordingMachine env configuration startedAtMilliseconds).run (actions ++ [action])) := by
  have files := sessionFiles_run env configuration startedAtMilliseconds actions
  have shaped := @shaped_run env configuration startedAtMilliseconds actions
  refine ⟨files.liveFilesKept, fun action => ?_⟩
  rw [Machine.run_concat]
  have edits := @RecordingSession.step_edits env _ shaped action
  have preserved : ∀ {before after : RecordingSession}, SessionEdit env before after →
      before.Shaped ∧ SessionFiles before → after.Shaped ∧ SessionFiles after :=
    fun edit both => ⟨both.1.edit edit, both.2.edit edit both.1⟩
  have consequence : ∀ {session : RecordingSession},
      session.Shaped ∧ SessionFiles session → LiveFilesKept session :=
    fun both => both.2.liveFilesKept
  exact edits.throughout preserved consequence ⟨shaped, files⟩

end SprakCapture.Capture
