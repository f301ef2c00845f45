import SprakCapture.Data.FileOps
import SprakCapture.Data.Machine

/-!
# The root certificate authority

The root of the proxy's own certificates is a certificate file and a key file. `loadOrGenerate`
looks for the two files only, and generates a root where both are missing; `regenerate` replaces
the two files, by way of new files and backups that are renamed.
-/

namespace SprakCapture.HttpProxy

open Data FileProgram

/-- The errors of certificate storage. -/
inductive SslMitmError where
  | certificateStorage
  | certificateGeneration
  | invalidCertificate
  | invalidPrivateKey
  | invalidClientCertificate
  | invalidLocation
  | clientCertificateLimit
  | duplicateClientCertificate
  | clientCertificateNotFound
deriving DecidableEq, Repr

/-- `map_err(|_| SslMitmError::CertificateStorage)?`: go on after an operation that was done. -/
def stored {Name Content Value : Type} (operation : FileProgram Name Content Bool)
    (next : FileProgram Name Content (Except SslMitmError Value)) :
    FileProgram Name Content (Except SslMitmError Value) := do
  if ← operation then next else pure (.error .certificateStorage)

/-- The rule of `stored`. -/
theorem meets_stored {Name Content Value : Type} {operation : FileProgram Name Content Bool}
    {next : FileProgram Name Content (Except SslMitmError Value)} {files : FileSystem Name Content}
    {after : Option (Except SslMitmError Value) → FileSystem Name Content → Prop}
    (meets : Meets (operation >>= fun done =>
      if done then next else pure (.error .certificateStorage)) files after) :
    Meets (stored operation next) files after := meets

/-- The files of the certificate directory. -/
inductive RootFile where
  | certificate
  | key
  | certificateNext
  | keyNext
  | certificateBackup
  | keyBackup
deriving DecidableEq, Repr

/-- The certificate library. PEM texts are the contents of files. -/
structure RootLibrary (Pem Der Info : Type) where
  parseSingleCertificate : Pem → Except SslMitmError Der
  validateIssuerPair : Pem → Pem → Except SslMitmError Unit
  certificateInfo : Der → Except SslMitmError Info

section Root

variable {Pem Der Info Leaf : Type}

/-- A root that the library has generated: its texts belong together and can be read again. -/
structure GeneratedRootMaterial (library : RootLibrary Pem Der Info) where
  rootPem : Pem
  rootDer : Der
  rootKeyPem : Pem
  parses : library.parseSingleCertificate rootPem = .ok rootDer
  belongs : library.validateIssuerPair rootPem rootKeyPem = .ok ()
  informs : ∃ info, library.certificateInfo rootDer = .ok info

/-- The root in memory, with the leaf certificates that it has issued. -/
structure CertificateAuthority (Pem Der Info Leaf : Type) where
  rootPem : Pem
  rootDer : Der
  rootKeyPem : Pem
  info : Info
  leafCertificates : List (List Char × Leaf)
  leafOrder : List (List Char)

variable {library : RootLibrary Pem Der Info}

/-- The failure of `persistRootMaterial`: the new files go, and the backups get their names
back. -/
def restoreRootMaterial (hadCurrent : Bool) :
    FileProgram RootFile Pem (Except SslMitmError Unit) := do
  let _ ← removeIfExists .certificate
  let _ ← removeIfExists .key
  if hadCurrent then
    let _ ← rename .certificateBackup .certificate
    let _ ← rename .keyBackup .key
    pure (.error .certificateStorage)
  else pure (.error .certificateStorage)

/-- The end of `persistRootMaterial`: both new files get their final names. A backup that cannot
be removed is no failure. -/
def switchRootMaterial (hadCurrent : Bool) :
    FileProgram RootFile Pem (Except SslMitmError Unit) := do
  if ← rename .certificateNext .certificate then
    if ← rename .keyNext .key then
      let _ ← removeIfExists .certificateBackup
      let _ ← removeIfExists .keyBackup
      pure (.ok ())
    else restoreRootMaterial hadCurrent
  else restoreRootMaterial hadCurrent

/-- Both current files become backups. -/
def backUpRootMaterial : FileProgram RootFile Pem (Except SslMitmError Unit) :=
  stored (rename .certificate .certificateBackup) do
    if ← rename .key .keyBackup then switchRootMaterial true
    else
      let _ ← rename .certificateBackup .certificate
      pure (.error .certificateStorage)

/-- The middle of `persistRootMaterial`: a current root, of which both files are there, is backed
up before the switch. -/
def replaceRootMaterial : FileProgram RootFile Pem (Except SslMitmError Unit) := do
  if ← probe .certificate then
    if ← probe .key then backUpRootMaterial else switchRootMaterial false
  else switchRootMaterial false

/-- `persistRootMaterial`. -/
def persistRootMaterial (generated : GeneratedRootMaterial library) :
    FileProgram RootFile Pem (Except SslMitmError Unit) :=
  stored (removeIfExists .certificateNext) <|
  stored (removeIfExists .keyNext) <|
  stored (removeIfExists .certificateBackup) <|
  stored (removeIfExists .keyBackup) <|
  stored (write .certificateNext generated.rootPem) <|
  stored (writeNew .keyNext generated.rootKeyPem)
  replaceRootMaterial

/-- The end of `loadOrGenerate`: both files are read and checked. -/
def loadRoot (library : RootLibrary Pem Der Info) :
    FileProgram RootFile Pem (Except SslMitmError (CertificateAuthority Pem Der Info Leaf)) := do
  match ← read .certificate with
  | none => pure (.error .certificateStorage)
  | some rootPem =>
    match ← read .key with
    | none => pure (.error .certificateStorage)
    | some rootKeyPem =>
      pure do
        let rootDer ← library.parseSingleCertificate rootPem
        library.validateIssuerPair rootPem rootKeyPem
        let info ← library.certificateInfo rootDer
        pure { rootPem, rootDer, rootKeyPem, info, leafCertificates := [], leafOrder := [] }

/-- The branch of `loadOrGenerate` for a directory without a root. -/
def generateRoot (generated : Except SslMitmError (GeneratedRootMaterial library)) :
    FileProgram RootFile Pem (Except SslMitmError (CertificateAuthority Pem Der Info Leaf)) :=
  match generated with
  | .error error => pure (.error error)
  | .ok generated => do
      match ← persistRootMaterial generated with
      | .error error => pure (.error error)
      | .ok () => loadRoot library

/-- `loadOrGenerate`. The argument is what `generateRootMaterial` returns when it is called. -/
def loadOrGenerate (generated : Except SslMitmError (GeneratedRootMaterial library)) :
    FileProgram RootFile Pem (Except SslMitmError (CertificateAuthority Pem Der Info Leaf)) :=
  stored createDirectory do
    let certificateExists ← probe .certificate
    let keyExists ← probe .key
    if certificateExists ≠ keyExists then pure (.error .certificateStorage)
    else if certificateExists then loadRoot library
    else generateRoot generated

/-- `regenerate`. The memory is changed when the files are, and all leaf certificates go. -/
def regenerate (generated : Except SslMitmError (GeneratedRootMaterial library))
    (authority : CertificateAuthority Pem Der Info Leaf) :
    FileProgram RootFile Pem
      (Except SslMitmError Unit × CertificateAuthority Pem Der Info Leaf) := do
  match generated with
  | .error error => pure (.error error, authority)
  | .ok generated =>
    match ← persistRootMaterial generated with
    | .error error => pure (.error error, authority)
    | .ok () =>
      let authority :=
        { authority with
          rootPem := generated.rootPem
          rootDer := generated.rootDer
          rootKeyPem := generated.rootKeyPem }
      match library.certificateInfo generated.rootDer with
      | .error error => pure (.error error, authority)
      | .ok info => pure (.ok (), { authority with info, leafCertificates := [], leafOrder := [] })

/-- The certificate directory and the authority of the process that runs, if one does. -/
structure RootState (Pem Der Info Leaf : Type) where
  disk : RootFile → Option Pem
  authority : Option (CertificateAuthority Pem Der Info Leaf)

/-- A call, with what the library generates for it and the incident that befalls it. -/
inductive RootAction (library : RootLibrary Pem Der Info) (Leaf : Type) where
  | start (generated : Except SslMitmError (GeneratedRootMaterial library))
      (incident : Option (Incident RootFile Pem))
  | regenerate (generated : Except SslMitmError (GeneratedRootMaterial library))
      (incident : Option (Incident RootFile Pem))
  /-- Requests for leaf certificates change the cache. -/
  | issueLeaves (leafCertificates : List (List Char × Leaf)) (leafOrder : List (List Char))
  /-- The process ends. -/
  | stop

namespace RootState

/-- Run a program on the files. -/
def runFiles {Value : Type} (state : RootState Pem Der Info Leaf)
    (incident : Option (Incident RootFile Pem)) (program : FileProgram RootFile Pem Value) :
    Option Value × FileSystem RootFile Pem :=
  program ⟨state.disk, incident⟩

/-- What a call returns, unless the process stops or does not run, and the state it leaves. -/
def call (state : RootState Pem Der Info Leaf) :
    RootAction library Leaf → Option (Except SslMitmError Unit) × RootState Pem Der Info Leaf
  | .start generated incident =>
    let (result, files) := state.runFiles incident (loadOrGenerate generated)
    (result.map (Except.map fun _ => ()), ⟨files.disk, result.bind Except.toOption⟩)
  | .regenerate generated incident =>
    match state.authority with
    | none => (none, state)
    | some authority =>
      let (result, files) :=
        state.runFiles incident (HttpProxy.regenerate generated authority)
      (result.map Prod.fst, ⟨files.disk, result.map Prod.snd⟩)
  | .issueLeaves leafCertificates leafOrder =>
    (none, { state with
      authority := state.authority.map fun authority =>
        { authority with leafCertificates, leafOrder } })
  | .stop => (none, { state with authority := none })

end RootState

/-- The certificate authority over any number of processes, from some files on. -/
def rootMachine (library : RootLibrary Pem Der Info) (Leaf : Type) (disk : RootFile → Option Pem) :
    Machine (RootState Pem Der Info Leaf) (RootAction library Leaf) where
  initial := ⟨disk, none⟩
  step state action := (state.call action).2

end Root

end SprakCapture.HttpProxy
