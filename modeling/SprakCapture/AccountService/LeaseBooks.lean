import Mathlib.Algebra.Order.BigOperators.Group.List
import Mathlib.Algebra.Order.Group.Nat
import SprakCapture.AccountService.LeaseRegistry

/-!
# Books of the leases

The total of a lease is the largest that any response has acknowledged. Part of it is settled,
which is to say in the database, and the rest is pending. The methods of the registry are
described by what they do to the two parts.
-/

namespace SprakCapture.AccountService

open Data List Option Data.Table AccountStore LeaseState UsageIncrement

inductive Direction where
  | uploaded
  | downloaded
deriving DecidableEq

def Direction.column : Direction → UsageColumn
  | .uploaded => .uploadedBytes
  | .downloaded => .downloadedBytes

def LeaseState.total (lease : LeaseState) : Direction → Nat
  | .uploaded => lease.uploadedBytes
  | .downloaded => lease.downloadedBytes

def LeaseState.persisted (lease : LeaseState) : Direction → Nat
  | .uploaded => lease.persistedUploadedBytes
  | .downloaded => lease.persistedDownloadedBytes

def LeaseSynchronizationResult.acknowledged (result : LeaseSynchronizationResult) :
    Direction → Nat
  | .uploaded => result.acknowledgedUploadedBytes
  | .downloaded => result.acknowledgedDownloadedBytes

/-- The largest total that results acknowledge for a lease. -/
def largestAcknowledged (results : List LeaseSynchronizationResult) (leaseId : String)
    (direction : Direction) : Nat :=
  (results.map fun result =>
    if result.leaseId = leaseId then result.acknowledged direction else 0).foldr max 0

/-- The traffic of an account's leases that is not in the database. -/
def pendingTotal (leases : Table String LeaseState) (accountId : String)
    (direction : Direction) : Nat :=
  leases.total fun lease =>
    if lease.accountId = accountId then lease.total direction - lease.persisted direction else 0

theorem largestAcknowledged_cons (result : LeaseSynchronizationResult)
    (results : List LeaseSynchronizationResult) (leaseId : String) (direction : Direction) :
    largestAcknowledged (result :: results) leaseId direction =
      max (if result.leaseId = leaseId then result.acknowledged direction else 0)
        (largestAcknowledged results leaseId direction) := rfl

theorem largestAcknowledged_append (first second : List LeaseSynchronizationResult)
    (leaseId : String) (direction : Direction) :
    largestAcknowledged (first ++ second) leaseId direction =
      max (largestAcknowledged first leaseId direction)
        (largestAcknowledged second leaseId direction) := by
  induction first with
  | nil => exact (Nat.zero_max _).symm
  | cons _ first ih =>
    rw [cons_append, largestAcknowledged_cons, largestAcknowledged_cons, ih, Nat.max_assoc]

/-! ### Pending usage as increments -/

theorem incrementOf_addPending {usage : Table String UsageIncrement} (lease : LeaseState)
    (accountId : String) (direction : Direction)
    (bounded : incrementOf usage accountId direction.column ≤ maximumIncrement) :
    incrementOf (addPending usage lease) accountId direction.column =
      min maximumIncrement (incrementOf usage accountId direction.column +
        if lease.accountId = accountId then
          lease.total direction - lease.persisted direction else 0) := by
  rw [addPending]
  split
  · next none =>
      have zero : lease.total direction - lease.persisted direction = 0 := by
        cases direction with
        | uploaded => exact none.1
        | downloaded => exact none.2
      rw [zero, ite_self, Nat.add_zero, Nat.min_eq_right bounded]
  · rw [incrementOf, incrementOf]
    rw [incrementOf] at bounded
    by_cases same : accountId = lease.accountId
    · subst same
      cases found : usage.get? lease.accountId with
      | none | some =>
        cases direction with
        | uploaded | downloaded =>
          simp [Direction.column, column, LeaseState.total, persisted]
          omega
    grind

/-- The increment of an account is its pending traffic, as far as an increment can say. -/
theorem incrementOf_pendingUsage (leases : Table String LeaseState) (accountId : String)
    (direction : Direction) :
    incrementOf (pendingUsage leases) accountId direction.column =
      min maximumIncrement (pendingTotal leases accountId direction) := by
  have fold : ∀ (values : List LeaseState) (usage : Table String UsageIncrement),
      incrementOf usage accountId direction.column ≤ maximumIncrement →
        incrementOf (values.foldl addPending usage) accountId direction.column =
          min maximumIncrement (incrementOf usage accountId direction.column +
            (values.map fun lease => if lease.accountId = accountId then
              lease.total direction - lease.persisted direction else 0).sum) := by
    intro values
    induction values with
    | nil =>
      simp
    | cons lease values ih =>
      intro usage bounded
      have one := incrementOf_addPending lease accountId direction bounded
      rw [foldl_cons, ih _ (by rw [one]; exact Nat.min_le_left _ _), map_cons, sum_cons]
      omega
  have start : incrementOf ∅ accountId direction.column = 0 := rfl
  rw [pendingUsage, fold _ _ (by rw [start]; exact Nat.zero_le _), start, Nat.zero_add]
  rfl

/-! ### Leases and the history of acknowledgements -/

variable {leases after : Table String LeaseState} {created : List (String × String)}
  {results : List LeaseSynchronizationResult}

/-- The leases agree with the history: each was created for its account, and its total is the
largest that was acknowledged. -/
structure Books (leases : Table String LeaseState) (created : List (String × String))
    (results : List LeaseSynchronizationResult) : Prop where
  distinct : (created.map Prod.fst).Nodup
  key : ∀ leaseId lease, leases.get? leaseId = some lease → lease.leaseId = leaseId
  known : ∀ leaseId lease, leases.get? leaseId = some lease → (leaseId, lease.accountId) ∈ created
  total : ∀ leaseId lease direction, leases.get? leaseId = some lease →
    lease.total direction = largestAcknowledged results leaseId direction
  bounded : ∀ leaseId lease direction, leases.get? leaseId = some lease →
    lease.persisted direction ≤ lease.total direction
  unseen : ∀ leaseId direction, leaseId ∉ created.map Prod.fst →
    largestAcknowledged results leaseId direction = 0

/-- What of a lease is settled: all of it once the lease is gone. -/
def settled (leases : Table String LeaseState) (results : List LeaseSynchronizationResult)
    (leaseId : String) (direction : Direction) : Nat :=
  match leases.get? leaseId with
  | some lease => lease.persisted direction
  | none => largestAcknowledged results leaseId direction

/-- The sum of an amount over the leases that were created for an account. -/
def createdTotal (created : List (String × String)) (accountId : String) (amount : String → Nat) :
    Nat :=
  (created.map fun lease => if lease.2 = accountId then amount lease.1 else 0).sum

variable {accountId : String} {first second : String → Nat}

theorem createdTotal_congr
    (same : ∀ leaseId, (leaseId, accountId) ∈ created → first leaseId = second leaseId) :
    createdTotal created accountId first = createdTotal created accountId second := by
  unfold createdTotal
  congr 1
  refine map_congr_left fun _ _ => ?_
  grind

theorem createdTotal_mono (le : ∀ leaseId, first leaseId ≤ second leaseId) :
    createdTotal created accountId first ≤ createdTotal created accountId second := by
  refine sum_le_sum fun lease _ => ?_
  split
  · exact le lease.1
  · exact Nat.le_refl 0

theorem createdTotal_add (first second : String → Nat) :
    createdTotal created accountId (fun leaseId => first leaseId + second leaseId) =
      createdTotal created accountId first + createdTotal created accountId second := by
  unfold createdTotal
  rw [← sum_map_add]
  grind

/-- What of a lease is pending. -/
def outstanding (leases : Table String LeaseState) (leaseId : String) (direction : Direction) :
    Nat :=
  ((leases.get? leaseId).map fun lease => lease.total direction - lease.persisted direction).getD 0

variable {lease : LeaseState}

namespace Books

variable (books : Books leases created results)

include books

theorem known_unique {leaseId accountId : String} (found : leases.get? leaseId = some lease)
    (listed : (leaseId, accountId) ∈ created) : lease.accountId = accountId := by
  have own := books.known leaseId lease found
  have pairs := inj_on_of_nodup_map books.distinct own listed rfl
  exact congrArg Prod.snd pairs

/-- The pending traffic of an account is what is outstanding of its leases. -/
theorem pendingTotal_eq (accountId : String) (direction : Direction) :
    pendingTotal leases accountId direction =
      createdTotal created accountId (outstanding leases · direction) := by
  have covers : ∀ leaseId lease, leases.get? leaseId = some lease →
      leaseId ∈ created.map Prod.fst :=
    fun leaseId lease found => List.mem_map_of_mem (books.known leaseId lease found)
  rw [pendingTotal, total_eq_sum_of_keys books.distinct covers, createdTotal, List.map_map]
  congr 1
  refine map_congr_left fun lease member => ?_
  rw [Function.comp_apply, outstanding]
  cases found : leases.get? lease.1 with
  | none => simp
  | some =>
    rw [map_some, map_some, getD_some, getD_some, books.known_unique found member]

theorem settled_add_outstanding (leaseId : String) (direction : Direction) :
    settled leases results leaseId direction + outstanding leases leaseId direction =
      largestAcknowledged results leaseId direction := by
  rw [settled, outstanding]
  cases found : leases.get? leaseId with
  | none => rfl
  | some lease =>
    have bounded := books.bounded leaseId lease direction found
    rw [← books.total leaseId lease direction found]
    exact Nat.add_sub_cancel' bounded

/-- What is settled and what is pending of an account make up what was acknowledged. -/
theorem settled_add_pending (accountId : String) (direction : Direction) :
    createdTotal created accountId (settled leases results · direction) +
        pendingTotal leases accountId direction =
      createdTotal created accountId (largestAcknowledged results · direction) := by
  rw [books.pendingTotal_eq, ← createdTotal_add]
  exact createdTotal_congr fun leaseId _ => books.settled_add_outstanding leaseId direction

end Books

/-! ### Methods that leave the totals alone -/

/-- What a change to the leases may do that reports and settles nothing: it keeps the totals of
the leases that it keeps, and it drops leases that are settled or excused. -/
structure Keeps (excused : List String) (before after : Table String LeaseState) : Prop where
  kept : ∀ leaseId lease, after.get? leaseId = some lease →
    ∃ old, before.get? leaseId = some old ∧ lease.leaseId = old.leaseId ∧
      lease.accountId = old.accountId ∧
      ∀ direction, lease.total direction = old.total direction ∧
        lease.persisted direction = old.persisted direction
  dropped : ∀ leaseId old, before.get? leaseId = some old → after.get? leaseId = none →
    old.accountId ∈ excused ∨ ∀ direction, old.persisted direction = old.total direction

namespace Keeps

variable {excused : List String}

section

variable (keeps : Keeps excused leases after)
include keeps

theorem books (books : Books leases created results) :
    Books after created results where
  distinct := books.distinct
  key leaseId lease found := by
    obtain ⟨old, isOld, sameId, _⟩ := keeps.kept leaseId lease found
    rw [sameId, books.key leaseId old isOld]
  known leaseId lease found := by
    obtain ⟨old, isOld, _, sameAccount, _⟩ := keeps.kept leaseId lease found
    rw [sameAccount]
    exact books.known leaseId old isOld
  total leaseId lease direction found := by
    obtain ⟨old, isOld, _, _, same⟩ := keeps.kept leaseId lease found
    rw [(same direction).1, books.total leaseId old direction isOld]
  bounded leaseId lease direction found := by
    obtain ⟨old, isOld, _, _, same⟩ := keeps.kept leaseId lease found
    rw [(same direction).1, (same direction).2]
    exact books.bounded leaseId old direction isOld
  unseen := books.unseen

/-- The settled amounts stay. -/
theorem settled_eq (books : Books leases created results) {leaseId accountId : String}
    (listed : (leaseId, accountId) ∈ created) (notExcused : accountId ∉ excused)
    (direction : Direction) :
    settled after results leaseId direction = settled leases results leaseId direction := by
  rw [settled, settled]
  cases found : after.get? leaseId with
  | some lease =>
    obtain ⟨old, isOld, _, _, same⟩ := keeps.kept leaseId lease found
    rw [isOld]
    exact (same direction).2
  | none =>
    cases isOld : leases.get? leaseId with
    | none => rfl
    | some old =>
      rcases keeps.dropped leaseId old isOld found with isExcused | isSettled
      · rw [books.known_unique isOld listed] at isExcused
        exact absurd isExcused notExcused
      · change largestAcknowledged results leaseId direction = old.persisted direction
        rw [isSettled direction, books.total leaseId old direction isOld]

/-- So the pending traffic stays. -/
theorem pendingTotal_eq (books : Books leases created results) {accountId : String}
    (notExcused : accountId ∉ excused) (direction : Direction) :
    pendingTotal after accountId direction = pendingTotal leases accountId direction := by
  have before := books.settled_add_pending accountId direction
  have afterwards := (keeps.books books).settled_add_pending accountId direction
  rw [createdTotal_congr fun _ listed =>
    keeps.settled_eq books listed notExcused direction] at afterwards
  omega

end

theorem mapValues {change : LeaseState → LeaseState}
    (same : ∀ lease, (change lease).leaseId = lease.leaseId ∧
      (change lease).accountId = lease.accountId ∧
      ∀ direction, (change lease).total direction = lease.total direction ∧
        (change lease).persisted direction = lease.persisted direction) :
    Keeps excused leases (leases.mapValues change) where
  kept leaseId lease found := by
    rw [get?_mapValues] at found
    obtain ⟨old, isOld, rfl⟩ := map_eq_some_iff.mp found
    exact ⟨old, isOld, (same old).1, (same old).2.1, (same old).2.2⟩
  dropped leaseId old isOld gone := by
    rw [get?_mapValues, isOld] at gone
    cases gone

theorem retain {keep : String → LeaseState → Bool}
    (drops : ∀ leaseId lease, keep leaseId lease = false →
      lease.accountId ∈ excused ∨ ∀ direction, lease.persisted direction = lease.total direction) :
    Keeps excused leases (leases.retain keep) where
  kept leaseId lease found := by
    rw [get?_retain, filter_eq_some_iff] at found
    exact ⟨lease, found.1, rfl, rfl, fun _ => ⟨rfl, rfl⟩⟩
  dropped leaseId old isOld gone := by
    rw [get?_retain, isOld] at gone
    apply drops leaseId old
    by_contra kept
    rw [filter_some, if_pos (by simpa using kept)] at gone
    cases gone

theorem refl (leases : Table String LeaseState) : Keeps excused leases leases where
  kept _ lease found := ⟨lease, found, rfl, rfl, fun _ => ⟨rfl, rfl⟩⟩
  dropped _ _ found gone := by
    rw [found] at gone
    cases gone

theorem trans {middle : Table String LeaseState} (first : Keeps excused leases middle)
    (second : Keeps excused middle after) : Keeps excused leases after where
  kept leaseId lease found := by
    obtain ⟨between, isBetween, sameId, sameAccount, same⟩ := second.kept leaseId lease found
    obtain ⟨old, isOld, sameOldId, sameOldAccount, sameOld⟩ :=
      first.kept leaseId between isBetween
    exact ⟨old, isOld, sameId.trans sameOldId, sameAccount.trans sameOldAccount, fun direction =>
      ⟨(same direction).1.trans (sameOld direction).1,
        (same direction).2.trans (sameOld direction).2⟩⟩
  dropped leaseId old isOld gone := by
    cases isBetween : middle.get? leaseId with
    | none => exact first.dropped leaseId old isOld isBetween
    | some between =>
      obtain ⟨_, isHeld, _, sameAccount, same⟩ := first.kept leaseId between isBetween
      cases isOld.symm.trans isHeld
      rcases second.dropped leaseId between isBetween gone with isExcused | isSettled
      · exact .inl (sameAccount ▸ isExcused)
      · refine .inr fun direction => ?_
        rw [← (same direction).1, ← (same direction).2]
        exact isSettled direction

theorem purgeExpiredLeases (leases : Table String LeaseState) (now : Int) :
    Keeps excused leases (AccountService.purgeExpiredLeases leases now) := by
  unfold AccountService.purgeExpiredLeases
  refine (Keeps.mapValues fun lease => ?_).trans (Keeps.retain fun _ lease dropped => ?_)
  · split
    · refine ⟨rfl, rfl, fun direction => ?_⟩
      cases direction with
      | uploaded | downloaded => exact ⟨rfl, rfl⟩
    · exact ⟨rfl, rfl, fun _ => ⟨rfl, rfl⟩⟩
  · rw [Bool.or_eq_false_iff] at dropped
    have none := dropped.2
    simp only [hasPending, Bool.or_eq_false_iff, decide_eq_false_iff_not, not_not] at none
    refine .inr fun direction => ?_
    cases direction with
    | uploaded => exact none.1.symm
    | downloaded => exact none.2.symm

section Registry

variable {Digest : Type} (registry : LeaseRegistry Digest)

theorem revokeAccount (accountId : String) :
    Keeps excused registry.leases (registry.revokeAccount accountId).leases := by
  dsimp only [LeaseRegistry.revokeAccount]
  refine Keeps.mapValues fun _ => ?_
  split
  · exact ⟨rfl, rfl, fun direction => by cases direction <;> exact ⟨rfl, rfl⟩⟩
  · exact ⟨rfl, rfl, fun _ => ⟨rfl, rfl⟩⟩

theorem reconcileAccount (account : StoredAccount) (serverTime : Int) :
    Keeps excused registry.leases (registry.reconcileAccount account serverTime).leases := by
  dsimp only [LeaseRegistry.reconcileAccount]
  refine Keeps.mapValues fun _ => ?_
  split
  · exact ⟨rfl, rfl, fun direction => by cases direction <;> exact ⟨rfl, rfl⟩⟩
  · exact ⟨rfl, rfl, fun _ => ⟨rfl, rfl⟩⟩

theorem removeAccount {accountId : String} (isExcused : accountId ∈ excused) :
    Keeps excused registry.leases (registry.removeAccount accountId).leases := by
  dsimp only [LeaseRegistry.removeAccount]
  refine Keeps.retain fun _ lease dropped => .inl ?_
  have same : lease.accountId = accountId := by simpa using dropped
  rwa [same]

end Registry

end Keeps

/-! ### A new lease -/

variable (books : Books leases created results) (fresh : lease.leaseId ∉ created.map Prod.fst)
include books fresh

theorem Books.insert (zero : ∀ direction, lease.total direction = 0)
    (zeroPersisted : ∀ direction, lease.persisted direction = 0) :
    Books (leases.insert lease.leaseId lease) ((lease.leaseId, lease.accountId) :: created)
      results where
  distinct := by
    rw [map_cons, nodup_cons]
    exact ⟨fresh, books.distinct⟩
  key leaseId held found := by
    rw [Table.get?_insert] at found
    split at found
    · next same =>
        cases found
        exact same.symm
    · exact books.key leaseId held found
  known leaseId held found := by
    rw [Table.get?_insert] at found
    split at found
    · next same =>
        cases found
        rw [same]
        exact mem_cons_self
    · exact mem_cons_of_mem _ (books.known leaseId held found)
  total leaseId held direction found := by
    rw [Table.get?_insert] at found
    split at found
    · next same =>
        cases found
        rw [zero, same, books.unseen _ direction fresh]
    · exact books.total leaseId held direction found
  bounded leaseId held direction found := by
    rw [Table.get?_insert] at found
    split at found
    · cases found
      rw [zeroPersisted]
      exact Nat.zero_le _
    · exact books.bounded leaseId held direction found
  unseen leaseId direction notCreated := by
    rw [map_cons, mem_cons, not_or] at notCreated
    exact books.unseen leaseId direction notCreated.2

theorem Books.settled_insert (zeroPersisted : ∀ direction, lease.persisted direction = 0)
    (leaseId : String) (direction : Direction) :
    settled (leases.insert lease.leaseId lease) results leaseId direction =
      settled leases results leaseId direction := by
  rw [settled, settled, Table.get?_insert]
  split
  · next found =>
      split at found
      · next same =>
          cases found
          have absent : leases.get? leaseId = none := by
            cases held : leases.get? leaseId with
            | none => rfl
            | some old =>
              refine absurd ?_ fresh
              rw [← same]
              exact List.mem_map_of_mem (books.known leaseId old held)
          rw [absent, zeroPersisted, same, books.unseen _ direction fresh]
      · rw [found]
  grind

/-! ### Committing -/

omit fresh

/-- Once everything pending is written, all of every lease is settled. -/
theorem Books.confirm :
    let confirmed := (leases.mapValues fun lease =>
      { lease with
        persistedUploadedBytes := lease.uploadedBytes
        persistedDownloadedBytes := lease.downloadedBytes }).retain fun _ lease =>
          !lease.finalPending
    Books confirmed created results ∧
      (∀ leaseId direction,
        settled confirmed results leaseId direction =
          largestAcknowledged results leaseId direction) ∧
      ∀ accountId direction, pendingTotal confirmed accountId direction = 0 := by
  intro confirmed
  have held : ∀ leaseId lease, confirmed.get? leaseId = some lease →
      ∃ old, leases.get? leaseId = some old ∧ lease.leaseId = old.leaseId ∧
        lease.accountId = old.accountId ∧ ∀ direction,
          lease.total direction = old.total direction ∧
            lease.persisted direction = old.total direction := by
    intro leaseId lease found
    rw [get?_retain, get?_mapValues, filter_eq_some_iff] at found
    obtain ⟨old, isOld, rfl⟩ := map_eq_some_iff.mp found.1
    refine ⟨old, isOld, rfl, rfl, fun direction => ?_⟩
    cases direction with
    | uploaded | downloaded => exact ⟨rfl, rfl⟩
  have all : ∀ leaseId direction, settled confirmed results leaseId direction =
      largestAcknowledged results leaseId direction := by
    intro leaseId direction
    rw [settled]
    split
    · next lease found =>
        obtain ⟨old, isOld, _, _, same⟩ := held leaseId lease found
        rw [(same direction).2, books.total leaseId old direction isOld]
    · rfl
  have kept : Books confirmed created results :=
    { distinct := books.distinct
      key := fun leaseId lease found => by
        obtain ⟨old, isOld, sameId, _⟩ := held leaseId lease found
        rw [sameId, books.key leaseId old isOld]
      known := fun leaseId lease found => by
        obtain ⟨old, isOld, _, sameAccount, _⟩ := held leaseId lease found
        rw [sameAccount]
        exact books.known leaseId old isOld
      total := fun leaseId lease direction found => by
        obtain ⟨old, isOld, _, _, same⟩ := held leaseId lease found
        rw [(same direction).1, books.total leaseId old direction isOld]
      bounded := fun leaseId lease direction found => by
        obtain ⟨old, isOld, _, _, same⟩ := held leaseId lease found
        rw [(same direction).1, (same direction).2]
      unseen := books.unseen }
  refine ⟨kept, all, fun accountId direction => ?_⟩
  have sum := kept.settled_add_pending accountId direction
  rw [createdTotal_congr fun leaseId _ => all leaseId direction] at sum
  omega

end SprakCapture.AccountService
