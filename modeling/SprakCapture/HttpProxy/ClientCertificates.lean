import SprakCapture.Data.Table
import SprakCapture.HttpProxy.RootAuthority
import SprakCapture.Location.Matcher

/-!
# The store of client identities

Client certificates for upstream servers are kept with their keys, two files each, and listed in
a manifest. `importIdentity`, `update` and `remove` change the memory and the files, and take the
change of the memory back when the manifest could not be written. `load` reads the manifest and
the files that it names.
-/

namespace SprakCapture.HttpProxy

open Data FileProgram Location

def maximumClientCertificates : Nat := 64

/-- The name of an identity: 32 hexadecimal digits. -/
abbrev IdentityId := List Char

/-- The files of the certificate directory that belong to the store. -/
inductive IdentityFile where
  | manifest
  | manifestNext
  | manifestBackup
  | chain (id : IdentityId)
  | key (id : IdentityId)
deriving DecidableEq

/-- The public record of an identity. `details` has the format and what the leaf certificate says
of itself. -/
structure ClientCertificateInfo (Details : Type) where
  id : IdentityId
  name : List Char
  enabled : Bool
  locations : List LocationPattern
  details : Details

/-- An import. `material` has the format, the bytes and the password. -/
structure ClientCertificateImport (Material : Type) where
  name : List Char
  enabled : Bool
  locations : List LocationPattern
  material : Material

structure ClientCertificateUpdate where
  name : List Char
  enabled : Bool
  locations : List LocationPattern

structure ClientCertificateIdentity (Der Key Details : Type) where
  info : ClientCertificateInfo Details
  chain : List Der
  privateKey : Key

/-- The certificate and JSON libraries, and what files hold. -/
structure IdentityLibrary (Content Material Der Key Details : Type) where
  containerChain : Material → Except SslMitmError (List Der)
  containerKey : Material → Except SslMitmError Key
  isCertificate : Der → Bool
  /-- Whether the key belongs to the leaf of a chain. -/
  validateIdentity : List Der → Key → Except SslMitmError Unit
  digest : Der → Octets 32
  describe : Material → Der → Except SslMitmError Details
  toJson : List (ClientCertificateInfo Details) → Content
  fromJson : Content → Except SslMitmError (List (ClientCertificateInfo Details))
  chainPem : List Der → Content
  readChain : Content → Except SslMitmError (List Der)
  secretDer : Key → Content
  readKey : Content → Except SslMitmError Key

section Identities

variable {Content Material Der Key Details : Type}

/-- The store in memory. -/
structure ClientCertificateStore (Der Key Details : Type) where
  identities : Table IdentityId (ClientCertificateIdentity Der Key Details)
  order : List IdentityId

/-! ### Checks -/

/-- `validateNameAndLocations`. -/
def validateNameAndLocations (name : List Char) (locations : List LocationPattern) :
    Except SslMitmError Unit :=
  if (Text.trim name).isEmpty ∨ 80 < name.length ∨ locations.isEmpty then
    .error .invalidClientCertificate
  else if locations.all fun pattern => (validateLocationPattern pattern).isOk then .ok ()
  else .error .invalidLocation

def isHexDigit (char : Char) : Bool := (Text.hexDigit char).isSome

/-- `validateInfo`. -/
def validateInfo (info : ClientCertificateInfo Details) : Except SslMitmError Unit :=
  if info.id.length ≠ 32 ∨ !info.id.all isHexDigit then .error .invalidClientCertificate
  else validateNameAndLocations info.name info.locations

variable (library : IdentityLibrary Content Material Der Key Details)

def validateChain (chain : List Der) : Except SslMitmError Unit :=
  if chain.isEmpty ∨ chain.any (fun certificate => !library.isCertificate certificate) then
    .error .invalidClientCertificate
  else .ok ()

/-- `parseImport`, which the three formats share. -/
def parseImport (material : Material) : Except SslMitmError (List Der × Key) := do
  let chain ← library.containerChain material
  validateChain library chain
  let privateKey ← library.containerKey material
  library.validateIdentity chain privateKey
  pure (chain, privateKey)

/-- Two lower-case hexadecimal digits. -/
def hexByte (byte : UInt8) : List Char :=
  [Nat.digitChar (byte.toNat / 16), Nat.digitChar (byte.toNat % 16)]

/-- The first half of the digest of a leaf certificate. -/
def identityId (leaf : Der) : IdentityId := ((library.digest leaf).bytes.take 16).flatMap hexByte

def buildInfo (input : ClientCertificateImport Material) (leaf : Der) :
    Except SslMitmError (ClientCertificateInfo Details) := do
  let details ← library.describe input.material leaf
  pure
    { id := identityId library leaf
      name := Text.trim input.name
      enabled := input.enabled
      locations := input.locations
      details }

/-! ### Files -/

/-- `persistIdentity`. -/
def persistIdentity (identity : ClientCertificateIdentity Der Key Details) :
    FileProgram IdentityFile Content (Except SslMitmError Unit) :=
  stored (write (.chain identity.info.id) (library.chainPem identity.chain)) do
    if ← write (.key identity.info.id) (library.secretDer identity.privateKey) then pure (.ok ())
    else
      let _ ← removeIfExists (.chain identity.info.id)
      pure (.error .certificateStorage)

/-- `removeIdentityFiles`. A file that cannot be removed is left. -/
def removeIdentityFiles (id : IdentityId) : FileProgram IdentityFile Content Unit := do
  let _ ← removeIfExists (.chain id)
  let _ ← removeIfExists (.key id)
  pure ()

/-- The failure of `persistManifest`. -/
def restoreManifest (hadCurrent : Bool) :
    FileProgram IdentityFile Content (Except SslMitmError Unit) := do
  if hadCurrent then
    let _ ← rename .manifestBackup .manifest
    let _ ← removeIfExists .manifestNext
    pure (.error .certificateStorage)
  else
    let _ ← removeIfExists .manifestNext
    pure (.error .certificateStorage)

/-- The end of `persistManifest`: the new manifest gets its final name. -/
def commitManifest (hadCurrent : Bool) :
    FileProgram IdentityFile Content (Except SslMitmError Unit) := do
  if ← rename .manifestNext .manifest then
    if hadCurrent then stored (removeIfExists .manifestBackup) (pure (.ok ()))
    else pure (.ok ())
  else restoreManifest hadCurrent

/-- `persistManifest`, for the records of the store. -/
def persistManifest (infos : List (ClientCertificateInfo Details)) :
    FileProgram IdentityFile Content (Except SslMitmError Unit) :=
  stored (write .manifestNext (library.toJson infos)) do
    if ← probe .manifest then
      stored (removeIfExists .manifestBackup) <|
      stored (rename .manifest .manifestBackup) <|
      commitManifest true
    else commitManifest false

/-! ### The store -/

namespace ClientCertificateStore

def empty : ClientCertificateStore Der Key Details where
  identities := ∅
  order := []

/-- `publicState`: the records in the order of their import. -/
def publicState (store : ClientCertificateStore Der Key Details) :
    List (ClientCertificateInfo Details) :=
  (store.order.filterMap store.identities.get?).map (·.info)

/-- The checks of `import` before anything is written. -/
def prepareImport (store : ClientCertificateStore Der Key Details)
    (input : ClientCertificateImport Material) :
    Except SslMitmError (ClientCertificateIdentity Der Key Details) :=
  if maximumClientCertificates ≤ store.identities.size then .error .clientCertificateLimit
  else do
    validateNameAndLocations input.name input.locations
    let (chain, privateKey) ← parseImport library input.material
    match chain with
    -- `parseImport` refuses an empty chain.
    | [] => .error .invalidClientCertificate
    | leaf :: _ =>
      let info ← buildInfo library input leaf
      if store.identities.contains info.id then .error .duplicateClientCertificate
      else pure { info, chain, privateKey }

/-- The store with one identity more. -/
def withIdentity (store : ClientCertificateStore Der Key Details)
    (identity : ClientCertificateIdentity Der Key Details) :
    ClientCertificateStore Der Key Details where
  identities := store.identities.insert identity.info.id identity
  order := store.order ++ [identity.info.id]

/-- The store without an identity that was added. -/
def withoutLast (store : ClientCertificateStore Der Key Details) (id : IdentityId) :
    ClientCertificateStore Der Key Details where
  identities := store.identities.erase id
  order := store.order.filter (· ≠ id)

/-- `import`. -/
def importIdentity (store : ClientCertificateStore Der Key Details)
    (input : ClientCertificateImport Material) :
    FileProgram IdentityFile Content
      (Except SslMitmError (ClientCertificateInfo Details) ×
        ClientCertificateStore Der Key Details) :=
  match store.prepareImport library input with
  | .error error => pure (.error error, store)
  | .ok identity => do
      match ← persistIdentity library identity with
      | .error error => pure (.error error, store)
      | .ok () =>
        let changed := store.withIdentity identity
        match ← persistManifest library changed.publicState with
        | .error error =>
          removeIdentityFiles identity.info.id
          pure (.error error, changed.withoutLast identity.info.id)
        | .ok () => pure (.ok identity.info, changed)

/-- Replace the record of an identity. -/
def withInfo (store : ClientCertificateStore Der Key Details) (id : IdentityId)
    (info : ClientCertificateInfo Details) : ClientCertificateStore Der Key Details :=
  { store with identities := store.identities.modify id fun identity => { identity with info } }

/-- `update`. -/
def update (store : ClientCertificateStore Der Key Details) (id : IdentityId)
    (change : ClientCertificateUpdate) :
    FileProgram IdentityFile Content
      (Except SslMitmError (ClientCertificateInfo Details) ×
        ClientCertificateStore Der Key Details) :=
  match validateNameAndLocations change.name change.locations with
  | .error error => pure (.error error, store)
  | .ok () =>
    match store.identities.get? id with
    | none => pure (.error .clientCertificateNotFound, store)
    | some identity => do
        let current :=
          { identity.info with
            name := change.name
            enabled := change.enabled
            locations := change.locations }
        let changed := store.withInfo id current
        match ← persistManifest library changed.publicState with
        | .error error => pure (.error error, changed.withInfo id identity.info)
        | .ok () => pure (.ok current, changed)

/-- The store without an identity. -/
def without (store : ClientCertificateStore Der Key Details) (id : IdentityId) (index : Nat) :
    ClientCertificateStore Der Key Details where
  identities := store.identities.erase id
  order := store.order.eraseIdx index

/-- The store with an identity at its old place. -/
def withBack (store : ClientCertificateStore Der Key Details) (id : IdentityId) (index : Nat)
    (identity : ClientCertificateIdentity Der Key Details) :
    ClientCertificateStore Der Key Details where
  identities := store.identities.insert id identity
  order := store.order.insertIdx index id

/-- `remove`. The manifest is written before the files go. -/
def remove (store : ClientCertificateStore Der Key Details) (id : IdentityId) :
    FileProgram IdentityFile Content
      (Except SslMitmError Unit × ClientCertificateStore Der Key Details) :=
  match store.order.idxOf? id with
  | none => pure (.error .clientCertificateNotFound, store)
  | some index =>
    match store.identities.get? id with
    | none => pure (.error .invalidClientCertificate, store)
    | some removed => do
        let changed := store.without id index
        match ← persistManifest library changed.publicState with
        | .error error => pure (.error error, changed.withBack id index removed)
        | .ok () =>
          removeIdentityFiles id
          pure (.ok (), changed)

/-! ### Loading -/

/-- `loadIdentity`. -/
def loadIdentity (info : ClientCertificateInfo Details) :
    FileProgram IdentityFile Content
      (Except SslMitmError (ClientCertificateIdentity Der Key Details)) := do
  match ← read (.chain info.id) with
  | none => pure (.error .certificateStorage)
  | some chainBytes =>
    match ← read (.key info.id) with
    | none => pure (.error .certificateStorage)
    | some keyBytes =>
      pure do
        let chain ← library.readChain chainBytes
        let privateKey ← library.readKey keyBytes
        validateChain library chain
        library.validateIdentity chain privateKey
        pure { info, chain, privateKey }

/-- The loop of `load` over the records of the manifest. -/
def loadIdentities (loaded : ClientCertificateStore Der Key Details) :
    List (ClientCertificateInfo Details) →
      FileProgram IdentityFile Content
        (Except SslMitmError (ClientCertificateStore Der Key Details))
  | [] => pure (.ok loaded)
  | info :: infos =>
    match validateInfo info with
    | .error error => pure (.error error)
    | .ok () => do
        match ← loadIdentity library info with
        | .error error => pure (.error error)
        | .ok identity =>
          if loaded.identities.contains identity.info.id then
            pure (.error .invalidClientCertificate)
          else loadIdentities (loaded.withIdentity identity) infos

/-- `load`. -/
def load :
    FileProgram IdentityFile Content
      (Except SslMitmError (ClientCertificateStore Der Key Details)) :=
  stored createDirectory do
    if ← probe .manifest then
      match ← read .manifest with
      | none => pure (.error .certificateStorage)
      | some content =>
        match library.fromJson content with
        | .error error => pure (.error error)
        | .ok infos => loadIdentities library empty infos
    else loadIdentities library empty []

end ClientCertificateStore

/-! ### Runs -/

/-- The certificate directory and the store of the process that runs, if one does. -/
structure IdentityState (Content Der Key Details : Type) where
  disk : IdentityFile → Option Content
  store : Option (ClientCertificateStore Der Key Details)

/-- A call, with the incident that befalls it. -/
inductive IdentityAction (Content Material : Type) where
  | start
  | importIdentity (input : ClientCertificateImport Material)
      (incident : Option (Incident IdentityFile Content))
  | update (id : IdentityId) (change : ClientCertificateUpdate)
      (incident : Option (Incident IdentityFile Content))
  | remove (id : IdentityId) (incident : Option (Incident IdentityFile Content))
  /-- The process ends. -/
  | stop

namespace IdentityState

/-- Run a call on the store in memory and the files. -/
def runStore {Value : Type} (state : IdentityState Content Der Key Details)
    (incident : Option (Incident IdentityFile Content))
    (program : ClientCertificateStore Der Key Details →
      FileProgram IdentityFile Content
        (Except SslMitmError Value × ClientCertificateStore Der Key Details)) :
    Option (Except SslMitmError Unit) × IdentityState Content Der Key Details :=
  match state.store with
  | none => (none, state)
  | some store =>
    let (result, files) := program store ⟨state.disk, incident⟩
    (result.map fun returned => returned.1.map fun _ => (), ⟨files.disk, result.map Prod.snd⟩)

/-- What a call returns, unless the process stops or does not run, and the state it leaves. -/
def call (state : IdentityState Content Der Key Details) :
    IdentityAction Content Material →
      Option (Except SslMitmError Unit) × IdentityState Content Der Key Details
  | .start =>
    let (result, files) := ClientCertificateStore.load library ⟨state.disk, none⟩
    (result.map (Except.map fun _ => ()), ⟨files.disk, result.bind Except.toOption⟩)
  | .importIdentity input incident =>
    state.runStore incident fun store => store.importIdentity library input
  | .update id change incident =>
    state.runStore incident fun store => store.update library id change
  | .remove id incident => state.runStore incident fun store => store.remove library id
  | .stop => (none, { state with store := none })

end IdentityState

/-- The store over any number of processes, from an empty directory on. -/
def identityMachine :
    Machine (IdentityState Content Der Key Details) (IdentityAction Content Material) where
  initial := ⟨fun _ => none, none⟩
  step state action := (state.call library action).2

end Identities

end SprakCapture.HttpProxy
