import SprakCapture.Data.Machine
import SprakCapture.Data.Table

/-!
# The cache of leaf certificates

`leafCertificate` reads the limit of the cache before it takes the lock of the authority, and
`updateConfiguration` trims the cache before it publishes its limit. The machine has a step for
each region under a lock. A certificate is known by the root that issued it.
-/

namespace SprakCapture.HttpProxy

open Data List

/-- The part of the authority that leaf certificates are issued and kept with. -/
structure LeafCache (Root : Type) where
  root : Root
  leafCertificates : Table String Root
  leafOrder : List String

/-- What a regeneration comes to. The root is persisted and switched before its information is
read and the cache is cleared. -/
inductive Regeneration (Root : Type) where
  | failed
  | switched (root : Root)
  | regenerated (root : Root)

/-- The manager, with the calls that have read a limit, the updates that have trimmed the cache
and, for the certificates that were returned, their roots and the root at the time. -/
structure SslMitm (Root : Type) where
  maxCachedCertificates : Nat
  authority : LeafCache Root
  calls : List (String × Nat)
  updates : List Nat
  returned : List (Root × Root)
  /-- The loop of `trimLeafCache` does not end. -/
  spins : Bool

inductive SslAction (Root : Type) where
  | readLimit (normalizedHost : String)
  /-- The rest of a call; it may fail to issue a certificate. -/
  | lockAuthority (call : Nat) (issued : Bool)
  | trimUpdate (maxCachedCertificates : Nat)
  | publishUpdate (update : Nat)
  | regenerateRoot (outcome : Regeneration Root)

variable {Root : Type}

/-- `trimLeafCache`, unless its loop does not end. -/
def trimLeafCache (limit : Nat) (root : Root) (leafCertificates : Table String Root) :
    List String → Option (LeafCache Root)
  | [] => if leafCertificates.size > limit then none else some ⟨root, leafCertificates, []⟩
  | host :: leafOrder =>
    if leafCertificates.size > limit then
      trimLeafCache limit root (leafCertificates.erase host) leafOrder
    else some ⟨root, leafCertificates, host :: leafOrder⟩

namespace SslMitm

variable (state : SslMitm Root)

def trim (authority : LeafCache Root) (limit : Nat) : SslMitm Root :=
  match trimLeafCache limit authority.root authority.leafCertificates authority.leafOrder with
  | none => { state with spins := true }
  | some authority => { state with authority }

/-- The region of `leafCertificate` under the lock of the authority. -/
def lockAuthority (normalizedHost : String) (cacheLimit : Nat) (issued : Bool) : SslMitm Root :=
  let authority := state.authority
  match authority.leafCertificates.get? normalizedHost with
  | some certificate => { state with returned := (certificate, authority.root) :: state.returned }
  | none =>
    if issued then
      { state with returned := (authority.root, authority.root) :: state.returned }.trim
        { authority with
          leafCertificates := authority.leafCertificates.insert normalizedHost authority.root
          leafOrder := authority.leafOrder ++ [normalizedHost] }
        cacheLimit
    else state

def step : SslAction Root → SslMitm Root
  | .readLimit normalizedHost =>
    { state with calls := state.calls ++ [(normalizedHost, state.maxCachedCertificates)] }
  | .lockAuthority call issued =>
    match state.calls[call]? with
    | none => state
    | some (normalizedHost, cacheLimit) =>
      { state with calls := state.calls.eraseIdx call }.lockAuthority
        normalizedHost cacheLimit issued
  | .trimUpdate limit =>
    if 1 ≤ limit ∧ limit ≤ 4096 then
      { state with updates := state.updates ++ [limit] }.trim state.authority limit
    else state
  | .publishUpdate update =>
    match state.updates[update]? with
    | none => state
    | some maxCachedCertificates =>
      { state with maxCachedCertificates, updates := state.updates.eraseIdx update }
  | .regenerateRoot .failed => state
  | .regenerateRoot (.switched root) => { state with authority := { state.authority with root } }
  | .regenerateRoot (.regenerated root) => { state with authority := ⟨root, ∅, []⟩ }

/-- What is promised of the cache. -/
structure CacheKept : Prop where
  sameKeys : state.authority.leafOrder ~ state.authority.leafCertificates.keys
  terminates : state.spins = false
  cached : ∀ host certificate, state.authority.leafCertificates.get? host = some certificate →
    certificate = state.authority.root
  returned : ∀ certificate ∈ state.returned, certificate.1 = certificate.2
  bounded : state.calls = [] →
    state.authority.leafCertificates.size ≤ state.maxCachedCertificates

/-- A certificate that is issued comes within the limit that is published and those that are going
to be, or the call has read a limit within them; and no regeneration fails once the root is
switched. -/
def InLimits : SslAction Root → Prop
  | .lockAuthority call true => ∀ pending ∈ state.calls[call]?,
    state.authority.leafCertificates.get? pending.1 = none →
      ∀ limit ∈ state.maxCachedCertificates :: state.updates,
        pending.2 ≤ limit ∨ state.authority.leafCertificates.size < limit
  | .regenerateRoot (.switched _) => False
  | _ => True

/-- The invariant: the cache fits every limit that is or will be published. -/
structure Fits : Prop where
  sameKeys : state.authority.leafOrder ~ state.authority.leafCertificates.keys
  terminates : state.spins = false
  cached : ∀ host certificate, state.authority.leafCertificates.get? host = some certificate →
    certificate = state.authority.root
  returned : ∀ certificate ∈ state.returned, certificate.1 = certificate.2
  fits : ∀ limit ∈ state.maxCachedCertificates :: state.updates,
    state.authority.leafCertificates.size ≤ limit

/-- What holds whatever fails and in whatever order the steps come. -/
structure Orderly : Prop where
  sameKeys : state.authority.leafOrder ~ state.authority.leafCertificates.keys
  terminates : state.spins = false
  limits : ∀ limit ∈ state.maxCachedCertificates :: state.updates, limit ≤ 4096
  calls : ∀ call ∈ state.calls, call.2 ≤ 4096
  bounded : state.authority.leafCertificates.size ≤ 4096

end SslMitm

open SslMitm

/-- The manager as a machine. -/
def sslMitm (root : Root) : Machine (SslMitm Root) (SslAction Root) where
  initial :=
    { maxCachedCertificates := 256, authority := ⟨root, ∅, []⟩, calls := [], updates := []
      returned := [], spins := false }
  step := SslMitm.step

/-- The loop ends, as each turn removes a key from both. -/
theorem trimLeafCache_spec {limit : Nat} {root : Root} {certificates : Table String Root}
    {order : List String} (sameKeys : order ~ certificates.keys) :
    ∃ trimmed, trimLeafCache limit root certificates order = some trimmed ∧
      trimmed.root = root ∧ trimmed.leafOrder ~ trimmed.leafCertificates.keys ∧
      trimmed.leafCertificates.size = min certificates.size limit ∧
      ∀ host certificate, trimmed.leafCertificates.get? host = some certificate →
        certificates.get? host = some certificate := by
  have count : certificates.size = order.length := by
    rw [sameKeys.length_eq, AList.keys, List.keys, length_map]
    rfl
  induction order generalizing certificates with
  | nil =>
    refine ⟨_, if_neg (by simp [count]), rfl, sameKeys, ?_, fun _ _ found => found⟩
    simp [count]
  | cons host order ih =>
    rw [trimLeafCache]
    by_cases exceeds : certificates.size > limit
    · have erased : order ~ (certificates.erase host).keys := by
        simpa [Table.erase] using sameKeys.erase host
      have fewer : (certificates.erase host).size = order.length := by
        rw [erased.length_eq, AList.keys, List.keys, length_map]
        rfl
      obtain ⟨trimmed, done, sameRoot, same, least, kept⟩ := ih erased fewer
      rw [if_pos exceeds]
      refine ⟨trimmed, done, sameRoot, same, ?_, fun other certificate found => ?_⟩
      · rw [count, length_cons] at exceeds ⊢
        omega
      · have := kept other certificate found
        rw [Table.get?_erase] at this
        split at this
        · cases this
        · exact this
    · exact ⟨_, if_neg exceeds, rfl, sameKeys, (Nat.min_eq_left (Nat.le_of_not_lt exceeds)).symm,
        fun _ _ found => found⟩

variable {state : SslMitm Root}

/-- Trimming a cache that is right but for its size leaves one that is right. -/
theorem fits_trim (terminates : state.spins = false)
    (returned : ∀ certificate ∈ state.returned, certificate.1 = certificate.2)
    {authority : LeafCache Root} {cacheLimit : Nat}
    (sameKeys : authority.leafOrder ~ authority.leafCertificates.keys)
    (cached : ∀ host certificate, authority.leafCertificates.get? host = some certificate →
      certificate = authority.root)
    (limits : ∀ limit ∈ state.maxCachedCertificates :: state.updates,
      cacheLimit ≤ limit ∨ authority.leafCertificates.size ≤ limit) :
    (state.trim authority cacheLimit).Fits := by
  obtain ⟨trimmed, done, root, same, least, found⟩ :=
    @trimLeafCache_spec _ cacheLimit authority.root _ _ sameKeys
  rw [trim, done]
  refine ⟨same, terminates, fun host certificate present => ?_, returned, fun limit member => ?_⟩
  · exact (cached host certificate (found host certificate present)).trans root.symm
  · have := limits limit member
    dsimp only
    omega

theorem sameKeys_insert {order : List String} {certificates : Table String Root} {host : String}
    {root : Root} (sameKeys : order ~ certificates.keys) (absent : certificates.get? host = none) :
    order ++ [host] ~ (certificates.insert host root).keys := by
  have fresh : host ∉ certificates.keys := AList.lookup_eq_none.mp absent
  rw [Table.insert, AList.keys_insert, erase_of_not_mem fresh]
  exact perm_append_comm.trans (sameKeys.cons host)

/-- A call keeps the invariant if what it inserts is within the limits. -/
theorem fits_lockAuthority (inv : state.Fits) {host : String} {cacheLimit : Nat} {issued : Bool}
    (inLimits : issued = true → state.authority.leafCertificates.get? host = none →
      ∀ limit ∈ state.maxCachedCertificates :: state.updates,
        cacheLimit ≤ limit ∨ state.authority.leafCertificates.size < limit) :
    (state.lockAuthority host cacheLimit issued).Fits := by
  unfold lockAuthority
  dsimp only
  split
  · rename_i certificate found
    exact { inv with returned := forall_mem_cons.mpr ⟨inv.cached _ _ found, inv.returned⟩ }
  · rename_i absent
    split
    · rename_i isIssued
      apply fits_trim
      · exact inv.terminates
      · exact forall_mem_cons.mpr ⟨rfl, inv.returned⟩
      · exact sameKeys_insert inv.sameKeys absent
      · intro other certificate found
        rw [Table.get?_insert] at found
        split at found
        · cases found
          rfl
        · exact inv.cached other certificate found
      · intro limit member
        refine (inLimits isIssued absent limit member).imp_right fun room => ?_
        rw [Table.size_insert, Table.contains, absent]
        exact room
    · exact inv

theorem fits_step (inv : state.Fits) {action : SslAction Root} (inLimits : state.InLimits action) :
    (state.step action).Fits := by
  cases action with
  | readLimit host => exact { inv with }
  | lockAuthority call issued =>
    rw [step]
    split
    · exact inv
    · rename_i pending isPending
      apply fits_lockAuthority
      · exact { inv with }
      · intro isIssued absent limit member
        subst isIssued
        exact inLimits _ isPending absent limit member
  | trimUpdate limit =>
    rw [step]
    split
    · apply fits_trim
      · exact inv.terminates
      · exact inv.returned
      · exact inv.sameKeys
      · exact inv.cached
      · intro other member
        rw [← cons_append, mem_append, mem_singleton] at member
        rcases member with known | rfl
        · exact .inr (inv.fits other known)
        · exact .inl (Nat.le_refl _)
    · exact inv
  | publishUpdate update =>
    rw [step]
    split
    · exact inv
    · rename_i isUpdate
      have kept : ∀ limit ∈ state.updates, state.authority.leafCertificates.size ≤ limit :=
        fun limit member => inv.fits limit (.tail _ member)
      exact { inv with
        fits := forall_mem_cons.mpr ⟨kept _ (mem_of_getElem? isUpdate),
          fun limit member => kept limit (mem_of_mem_eraseIdx member)⟩ }
  | regenerateRoot outcome =>
    cases outcome with
    | failed => exact inv
    | switched root => exact inLimits.elim
    | regenerated root =>
      exact { inv with
        sameKeys := .refl _
        cached := fun _ _ found => absurd found (by simp [step])
        fits := fun _ _ => Nat.zero_le _ }

/-- In a run within the limits the cache is kept. -/
theorem cacheKept_run (root : Root) {actions : List (SslAction Root)}
    (inLimits : (sslMitm root).Guarded SslMitm.InLimits (sslMitm root).initial actions) :
    ((sslMitm root).run actions).CacheKept := by
  have inv : ((sslMitm root).run actions).Fits := by
    apply Machine.guarded_run _ (fun _ _ inv inLimits => fits_step inv inLimits) inLimits
    exact ⟨.refl _, rfl, fun _ _ found => absurd found (by simp [sslMitm]), by simp [sslMitm],
      fun _ _ => Nat.zero_le _⟩
  exact { inv with bounded := fun _ => inv.fits _ mem_cons_self }

/-- A limit of two is published, one certificate is cached, and a call has read the limit when an
update to one comes. -/
def overtakenUpdate : List (SslAction Nat) :=
  [.trimUpdate 2, .publishUpdate 0, .readLimit "a", .lockAuthority 0 true, .readLimit "b",
    .trimUpdate 1, .publishUpdate 0, .lockAuthority 0 true]

theorem cacheKept_call :
    ((sslMitm 0).run [.readLimit "a", .lockAuthority 0 true]).CacheKept :=
  cacheKept_run 0 ⟨trivial, by simp [InLimits, sslMitm, step], trivial⟩

theorem not_cacheKept_overtakenUpdate : ¬ ((sslMitm 0).run overtakenUpdate).CacheKept := by
  intro kept
  have bounded := kept.bounded rfl
  revert bounded
  decide

theorem orderly_trim (inv : state.Orderly) {authority : LeafCache Root} {cacheLimit : Nat}
    (sameKeys : authority.leafOrder ~ authority.leafCertificates.keys)
    (limited : cacheLimit ≤ 4096) : (state.trim authority cacheLimit).Orderly := by
  obtain ⟨trimmed, done, -, same, least, -⟩ :=
    @trimLeafCache_spec _ cacheLimit authority.root _ _ sameKeys
  rw [trim, done]
  refine { inv with sameKeys := same, bounded := ?_ }
  dsimp only
  omega

theorem orderly_lockAuthority (inv : state.Orderly) {host : String} {cacheLimit : Nat}
    {issued : Bool} (limited : cacheLimit ≤ 4096) :
    (state.lockAuthority host cacheLimit issued).Orderly := by
  unfold lockAuthority
  dsimp only
  split
  · exact { inv with }
  · rename_i absent
    split
    · apply orderly_trim
      · exact { inv with }
      · exact sameKeys_insert inv.sameKeys absent
      · exact limited
    · exact inv

theorem orderly_step (inv : state.Orderly) (action : SslAction Root) :
    (state.step action).Orderly := by
  cases action with
  | readLimit host =>
    refine { inv with calls := forall_mem_append.mpr ⟨inv.calls, ?_⟩ }
    exact forall_mem_singleton.mpr (inv.limits _ mem_cons_self)
  | lockAuthority call issued =>
    rw [step]
    split
    · exact inv
    · rename_i isPending
      apply orderly_lockAuthority
      · exact { inv with calls := fun call member => inv.calls call (mem_of_mem_eraseIdx member) }
      · exact inv.calls _ (mem_of_getElem? isPending)
  | trimUpdate limit =>
    rw [step]
    split
    · rename_i accepted
      apply orderly_trim
      · refine { inv with limits := fun other member => ?_ }
        rw [← cons_append, mem_append, mem_singleton] at member
        rcases member with known | rfl
        · exact inv.limits other known
        · exact accepted.2
      · exact inv.sameKeys
      · exact accepted.2
    · exact inv
  | publishUpdate update =>
    rw [step]
    split
    · exact inv
    · rename_i isUpdate
      have kept : ∀ limit ∈ state.updates, limit ≤ 4096 :=
        fun limit member => inv.limits limit (.tail _ member)
      exact { inv with
        limits := forall_mem_cons.mpr ⟨kept _ (mem_of_getElem? isUpdate),
          fun limit member => kept limit (mem_of_mem_eraseIdx member)⟩ }
  | regenerateRoot outcome =>
    cases outcome with
    | failed => exact inv
    | switched root => exact { inv with }
    | regenerated root => exact { inv with sameKeys := .refl _, bounded := Nat.zero_le _ }

/-- In every run the loop ends, the order lists the keys of the cache, and the cache holds at most
as many certificates as the largest limit that is accepted. -/
theorem orderly_run (root : Root) (actions : List (SslAction Root)) :
    ((sslMitm root).run actions).Orderly := by
  apply Machine.invariant_run
  · exact ⟨.refl _, rfl, by simp [sslMitm], by simp [sslMitm], Nat.zero_le _⟩
  · exact fun _ action inv => orderly_step inv action

end SprakCapture.HttpProxy
