import SprakCapture.Capture.MetadataBudget

/-!
# Files of bodies

Bodies above a threshold are kept in files of the spill directory of the session. A
file belongs to a guard until its body is registered, and a guard that is dropped
deletes its file, or notes it as an orphan if it cannot.

Calls of the session hold its lock across file operations. An `Await` says how one
such operation ends and what other tasks do to the body store meanwhile, and a call is
given the list of its awaits. A call is dropped where its list ends.
-/

namespace SprakCapture.Capture

open Data

/-- What the session relies on and does not define itself. -/
structure Environment where
  layout : Layout
  /-- `Uuid::new_v4`, given the UUIDs that were generated or named before. -/
  newV4 : List Uuid → Uuid
  fresh : ∀ known, newV4 known ∉ known
  validateLocationPattern : LocationPattern → Except LocationError Unit
  /-- `locationMatches` with the default options. -/
  locationMatches : LocationPattern → ResolvedLocation → Except LocationError Bool

/-- Why a call ends before its last statement. -/
inductive Stop where
  | dropped
  | error (error : CaptureError)
deriving DecidableEq

inductive SpoolStage where
  /-- The file has its temporary name. -/
  | opened
  /-- The file has its final name, on behalf of a call that names a transaction. -/
  | staged (target : Uuid)
deriving DecidableEq

/-- A body that is written piece by piece. -/
structure Spool where
  transactionId : Uuid
  side : MessageSide
  writtenBytes : Nat
  stage : SpoolStage
deriving DecidableEq

/-- The path that the guard of a spool holds. -/
def Spool.path (suffix : Uuid) (spool : Spool) : SpillName :=
  match spool.stage with
  | .opened => .stream suffix
  | .staged _ => .body spool.side spool.transactionId suffix

/-- The spill directory and the tasks that write to it. -/
structure BodyStore where
  memoryThreshold : Nat
  sessionDirectoryBytes : Nat
  files : List SpillName
  orphanedSpills : List SpillName
  /-- The spools that no transaction owns yet. -/
  spools : Table Uuid Spool
  /-- The UUIDs that were generated or named so far. -/
  known : List Uuid

/-- What a task does to the body store without the lock of the session. -/
inductive StoreEvent where
  | createSpool (transactionId : Uuid) (side : MessageSide) (opened : Bool)
  | appendSpool (suffix : Uuid) (bytes : Nat)
  | stageSpool (suffix : Uuid) (target : Uuid) (renamed : Bool) (removed : Bool)
  | dropSpool (suffix : Uuid) (removed : Bool)

inductive IoResult where
  | done
  | failed
  | dropped
deriving DecidableEq

/-- How an awaited file operation ends. -/
structure Await where
  background : List StoreEvent
  result : IoResult
  /-- What a removal that did not finish has deleted. -/
  deleted : List SpillName
  /-- Whether a write that did not finish leaves its temporary (`false`) or its final file
  (`true`) behind, which its guard could not delete. -/
  leftover : Option Bool
  /-- The bytes allocated beyond the path of a new file. -/
  pathSpare : Nat

namespace BodyStore

def removeFile (store : BodyStore) (name : SpillName) : BodyStore :=
  { store with files := store.files.filter (· != name) }

/-- The guard of a file is dropped. -/
def dropGuard (store : BodyStore) (name : SpillName) (removed : Bool) : BodyStore :=
  if removed then store.removeFile name
  else { store with orphanedSpills := store.orphanedSpills.insert name }

/-- `BodyStore::createSpool`, after the session has checked the transaction. -/
def createSpool (env : Environment) (store : BodyStore) (transactionId : Uuid)
    (side : MessageSide) (opened : Bool) : BodyStore :=
  let suffix := env.newV4 store.known
  let store := { store with known := suffix :: store.known }
  if opened then
    { store with
      files := .stream suffix :: store.files
      spools := store.spools.insert suffix
        { transactionId, side, writtenBytes := 0, stage := .opened } }
  else store

def appendSpool (store : BodyStore) (suffix : Uuid) (bytes : Nat) : BodyStore :=
  { store with
    spools := store.spools.modify suffix fun spool =>
      { spool with writtenBytes := spool.writtenBytes + bytes } }

/-- Drop a spool that was not registered. -/
def dropSpool (store : BodyStore) (suffix : Uuid) (removed : Bool) : BodyStore :=
  match store.spools.get? suffix with
  | none => store
  | some spool =>
    dropGuard { store with spools := store.spools.erase suffix } (spool.path suffix) removed

/-- `BodySpool::stage`. The file can be renamed only if it is still there. -/
def stageSpool (store : BodyStore) (suffix target : Uuid) (renamed removed : Bool) : BodyStore :=
  let store := { store with known := target :: store.known }
  match store.spools.get? suffix with
  | none => store
  | some spool =>
    if spool.stage = .opened then
      if renamed && store.files.contains (.stream suffix) then
        { store.removeFile (.stream suffix) with
          files := .body spool.side spool.transactionId suffix ::
            (store.removeFile (.stream suffix)).files
          spools := store.spools.insert suffix { spool with stage := .staged target } }
      else store.dropSpool suffix removed
    else store

def event (env : Environment) (store : BodyStore) : StoreEvent → BodyStore
  | .createSpool transactionId side opened => store.createSpool env transactionId side opened
  | .appendSpool suffix bytes => store.appendSpool suffix bytes
  | .stageSpool suffix target renamed removed => store.stageSpool suffix target renamed removed
  | .dropSpool suffix removed => store.dropSpool suffix removed

/-- What other tasks do during an await. -/
def background (env : Environment) (store : BodyStore) (await : Await) : BodyStore :=
  await.background.foldl (event env) store

/-- The outcome of a write that did not finish. -/
def abandon (store : BodyStore) (name : SpillName) (leftover : Option Bool) : BodyStore :=
  match leftover with
  | none => store
  | some renamed =>
    let left : SpillName := if renamed then name else .pending name.suffix
    { store with
      files := left :: store.files
      orphanedSpills := store.orphanedSpills.insert left }

/-- Store a body. A small one stays in memory, another one is written to a new file. The name of
the file counts from the end of the write on, since no other task sees it before. -/
def store (env : Environment) (store : BodyStore) (transactionId : Uuid) (side : MessageSide)
    (bytes : List UInt8) (handle : BodyHandleMeta) (script : List Await) :
    Except Stop BodyRef × BodyStore × List Await :=
  if bytes.length ≤ store.memoryThreshold then
    (.ok { handle, storage := .memory bytes }, store, script)
  else
    match script with
    | [] => (.error .dropped, store, [])
    | await :: rest =>
      let store := store.background env await
      let uniqueSuffix := env.newV4 store.known
      let name : SpillName := .body side transactionId uniqueSuffix
      let store := { store with known := uniqueSuffix :: store.known }
      match await.result with
      | .done =>
        (.ok
          { handle
            storage := .spill
              { name
                len := store.sessionDirectoryBytes + 1 + name.len
                spare := await.pathSpare } },
          { store with files := name :: store.files }, rest)
      | .failed => (.error (.error .io), store.abandon name await.leftover, rest)
      | .dropped => (.error .dropped, store.abandon name await.leftover, rest)

/-- Delete the file of a body. A file that is not there counts as deleted. -/
def remove (env : Environment) (store : BodyStore) (body : BodyRef) (script : List Await) :
    Except Stop Unit × BodyStore × List Await :=
  match body.storage with
  | .memory _ => (.ok (), store, script)
  | .spill path =>
    match script with
    | [] => (.error .dropped, store, [])
    | await :: rest =>
      let store := store.background env await
      match await.result with
      | .done => (.ok (), store.removeFile path.name, rest)
      | .failed => (.error (.error .io), store, rest)
      | .dropped =>
        (.error .dropped,
          if await.deleted.contains path.name then store.removeFile path.name else store,
          rest)

/-- Retry the files that guards could not delete. -/
def cleanupOrphanedSpills (env : Environment) (store : BodyStore) :
    List Await → Except Stop Unit × BodyStore × List Await
  | [] =>
    match store.orphanedSpills with
    | [] => (.ok (), store, [])
    | _ :: _ => (.error .dropped, store, [])
  | await :: rest =>
    match store.orphanedSpills with
    | [] => (.ok (), store, await :: rest)
    | name :: _ =>
      let store := store.background env await
      match await.result with
      | .done =>
        let store := store.removeFile name
        cleanupOrphanedSpills env
          { store with orphanedSpills := store.orphanedSpills.filter (· != name) } rest
      | .failed => (.error (.error .io), store, rest)
      | .dropped =>
        (.error .dropped,
          if await.deleted.contains name then store.removeFile name else store, rest)

/-- The files that a removal of the directory has not deleted yet. -/
def removeFiles (store : BodyStore) (deleted : List SpillName) : BodyStore :=
  { store with files := store.files.filter fun name => !deleted.contains name }

/-- `remove_dir_all` on the spill directory. -/
def removeDirectory (env : Environment) (store : BodyStore) (script : List Await) :
    Except Stop Unit × BodyStore × List Await :=
  match script with
  | [] => (.error .dropped, store, [])
  | await :: rest =>
    let store := store.background env await
    match await.result with
    | .done => (.ok (), store.removeFiles store.files, rest)
    | .failed => (.error (.error .io), store.removeFiles await.deleted, rest)
    | .dropped => (.error .dropped, store.removeFiles await.deleted, rest)

/-- Empty the spill directory and create it again. -/
def clear (env : Environment) (store : BodyStore) (script : List Await) :
    Except Stop Unit × BodyStore × List Await :=
  match store.removeDirectory env script with
  | (.error stop, store, script) => (.error stop, store, script)
  | (.ok (), store, script) =>
    match script with
    | [] => (.error .dropped, store, [])
    | await :: rest =>
      let store := store.background env await
      match await.result with
      | .done => (.ok (), { store with orphanedSpills := [] }, rest)
      | .failed => (.error (.error .io), store, rest)
      | .dropped => (.error .dropped, store, rest)

/-- Delete the spill directory for good. -/
def close (env : Environment) (store : BodyStore) (script : List Await) :
    Except Stop Unit × BodyStore × List Await :=
  match store.removeDirectory env script with
  | (.error stop, store, script) => (.error stop, store, script)
  | (.ok (), store, script) => (.ok (), { store with orphanedSpills := [] }, script)

end BodyStore

end SprakCapture.Capture
