import SprakCapture.Data.Table

/-!
# Accounts and their usage in the database

The database keeps a row of counters and a row for each day of every account. Both are written
in one transaction, so that they agree whatever fails in between. The rows of an account go
when the account goes.
-/

namespace SprakCapture.AccountService

open Data Option Data.Table
open Table (get?_insert get?_erase)

/-! ### Rows -/

/-- The columns that count. -/
inductive UsageColumn where
  | uploadedBytes
  | downloadedBytes
  | acceptedConnections
  | rejectedAuthentications
deriving DecidableEq

structure UsageIncrement where
  uploadedBytes : Nat := 0
  downloadedBytes : Nat := 0
  acceptedConnections : Nat := 0
  rejectedAuthentications : Nat := 0
deriving DecidableEq

namespace UsageIncrement

def column (usage : UsageIncrement) : UsageColumn → Nat
  | .uploadedBytes => usage.uploadedBytes
  | .downloadedBytes => usage.downloadedBytes
  | .acceptedConnections => usage.acceptedConnections
  | .rejectedAuthentications => usage.rejectedAuthentications

def add (usage increment : UsageIncrement) : UsageIncrement where
  uploadedBytes := usage.uploadedBytes + increment.uploadedBytes
  downloadedBytes := usage.downloadedBytes + increment.downloadedBytes
  acceptedConnections := usage.acceptedConnections + increment.acceptedConnections
  rejectedAuthentications := usage.rejectedAuthentications + increment.rejectedAuthentications

@[simp] theorem column_add (usage increment : UsageIncrement) (column : UsageColumn) :
    (usage.add increment).column column = usage.column column + increment.column column := by
  cases column with
  | _ => rfl

@[simp] theorem column_zero (column : UsageColumn) : ({} : UsageIncrement).column column = 0 := by
  cases column with
  | _ => rfl

end UsageIncrement

structure UsageCounters where
  usage : UsageIncrement
  lastConnectedAt : Option Int
  updatedAt : Int
deriving DecidableEq

/-- Limits of an account; minus one means no limit. -/
structure AccountPolicy where
  maxUploadBytesPerSecond : Int
  maxDownloadBytesPerSecond : Int
  maxConnections : Int
  maxOnlineIps : Int
  expiresAt : Int
deriving DecidableEq

namespace AccountPolicy

def disabled (policy : AccountPolicy) : Bool :=
  policy.maxUploadBytesPerSecond = 0 || policy.maxDownloadBytesPerSecond = 0 ||
    policy.maxConnections = 0 || policy.maxOnlineIps = 0 || policy.expiresAt = 0

def expired (policy : AccountPolicy) (serverTime : Int) : Bool :=
  0 < policy.expiresAt && policy.expiresAt < serverTime

end AccountPolicy

structure StoredAccount where
  accountId : String
  username : String
  password : Option (String × String)
  policy : AccountPolicy
  policyRevision : Int
deriving DecidableEq

/-- The tables of the database. The daily rows have the account and the day as their key. -/
structure AccountStore where
  accounts : Table String StoredAccount
  usageCounters : Table String UsageCounters
  usageDaily : Table String (Table Int UsageIncrement)

namespace AccountStore

/-! ### Accounts -/

def accountByUsername (store : AccountStore) (username : String) : Option StoredAccount :=
  store.accounts.values.find? (·.username = username)

/-- A new account starts with a row of zeros. -/
def createAccount (store : AccountStore) (account : StoredAccount) (now : Int) :
    Option AccountStore :=
  if store.accounts.contains account.accountId ||
      store.accounts.values.any (·.username = account.username) then none
  else
    some
      { store with
        accounts := store.accounts.insert account.accountId account
        usageCounters := store.usageCounters.insert account.accountId
          { usage := {}, lastConnectedAt := none, updatedAt := now } }

/-- The change of one account in a transaction: the revision must be the expected one. Without
a new policy the row stays as it is. -/
def updateAccount (store : AccountStore) (change : String × Int × Option AccountPolicy) :
    Option (AccountStore × StoredAccount) :=
  match store.accounts.get? change.1 with
  | none => none
  | some account =>
    if account.policyRevision ≠ change.2.1 then none
    else match change.2.2 with
      | none => some (store, account)
      | some policy =>
        let updated := { account with
          policy
          policyRevision := min (account.policyRevision + 1) (2 ^ 63 - 1) }
        some ({ store with accounts := store.accounts.insert change.1 updated }, updated)

/-- A batch of changes, all or none of them. -/
def updateAccountsBatch (store : AccountStore) :
    List (String × Int × Option AccountPolicy) → Option (AccountStore × List StoredAccount)
  | [] => some (store, [])
  | change :: changes => do
      let (store, account) ← store.updateAccount change
      let (store, accounts) ← store.updateAccountsBatch changes
      some (store, account :: accounts)

def replaceAccountPassword (store : AccountStore) (accountId : String)
    (password : Option (String × String)) : Option AccountStore :=
  match store.accounts.get? accountId with
  | none => none
  | some account =>
    some { store with accounts := store.accounts.insert accountId { account with password } }

/-- Deleting an account deletes its rows. -/
def removeAccount (store : AccountStore) (accountId : String) : AccountStore where
  accounts := store.accounts.erase accountId
  usageCounters := store.usageCounters.erase accountId
  usageDaily := store.usageDaily.erase accountId

def deleteAccount (store : AccountStore) (accountId : String) : Option AccountStore :=
  if store.accounts.contains accountId then some (store.removeAccount accountId) else none

/-- A batch of deletions; every account must exist with the expected revision. -/
def deleteAccountsBatch (store : AccountStore) (selections : List (String × Int)) :
    Option AccountStore :=
  if selections.all fun selection =>
      (store.accounts.get? selection.1).any (·.policyRevision = selection.2) then
    some ((selections.map Prod.fst).foldl removeAccount store)
  else none

/-! ### Usage -/

def utcDate (now : Int) : Int := now.tdiv 86400000

/-- The day's row with an increment; a missing row is inserted. -/
def upsertDaily (rows : Table Int UsageIncrement) (date : Int) (usage : UsageIncrement) :
    Table Int UsageIncrement :=
  rows.insert date (((rows.get? date).getD {}).add usage)

/-- The two statements for one account. Without the account the second breaks a foreign key. -/
def applyIncrement (now : Int) (store : AccountStore) (entry : String × UsageIncrement) :
    Option AccountStore :=
  if store.accounts.contains entry.1 then
    some
      { store with
        usageCounters := store.usageCounters.modify entry.1 fun counters =>
          { usage := counters.usage.add entry.2
            lastConnectedAt :=
              if 0 < entry.2.acceptedConnections then some now else counters.lastConnectedAt
            updatedAt := now }
        usageDaily := store.usageDaily.insert entry.1
          (upsertDaily ((store.usageDaily.get? entry.1).getD ∅) (utcDate now) entry.2) }
  else none

/-- What a transaction of `applyUsage` writes when it commits. -/
def applyUsage (store : AccountStore) (usageByAccount : Table String UsageIncrement) (now : Int) :
    Option AccountStore :=
  usageByAccount.toList.foldlM (applyIncrement now) store

/-! ### Sums -/

/-- The counter of an account, zero without a row. -/
def counted (store : AccountStore) (accountId : String) (column : UsageColumn) : Nat :=
  ((store.usageCounters.get? accountId).map fun counters => counters.usage.column column).getD 0

/-- The sum of the daily rows of an account. -/
def dailyTotal (store : AccountStore) (accountId : String) (column : UsageColumn) : Nat :=
  ((store.usageDaily.get? accountId).map fun rows => rows.total (·.column column)).getD 0

/-- Every account has a row of counters, and it agrees with the daily rows. -/
structure Consistent (store : AccountStore) : Prop where
  row : ∀ accountId, store.usageCounters.contains accountId = store.accounts.contains accountId
  orphan : ∀ accountId, store.accounts.get? accountId = none →
    store.usageDaily.get? accountId = none
  agrees : ∀ accountId column, store.counted accountId column = store.dailyTotal accountId column

/-! ### What the writes do to the sums -/

variable {store after : AccountStore}

theorem contains_insert (table : Table String StoredAccount) (key other : String)
    (account : StoredAccount) :
    (table.insert key account).contains other = (decide (other = key) || table.contains other) := by
  grind [Table.contains]

variable {account : StoredAccount} {accountId : String}

/-- Rewriting the row of an account that exists leaves its usage alone. -/
theorem Consistent.rewrite (consistent : store.Consistent)
    (exists_ : store.accounts.contains accountId = true) :
    Consistent { store with accounts := store.accounts.insert accountId account } where
  row other := by
    rw [contains_insert, consistent.row other]
    by_cases same : other = accountId
    · simp [same, exists_]
    · simp [same]
  orphan other absent := by
    rw [get?_insert] at absent
    split at absent
    · cases absent
    · exact consistent.orphan other absent
  agrees := consistent.agrees

theorem counted_congr {column : UsageColumn}
    (same : after.usageCounters.get? accountId = store.usageCounters.get? accountId) :
    after.counted accountId column = store.counted accountId column := by
  rw [counted, counted, same]

theorem createAccount_eq_some (consistent : store.Consistent) {now : Int}
    (created : store.createAccount account now = some after) :
    after.Consistent ∧ after.accounts = store.accounts.insert account.accountId account ∧
      store.accounts.get? account.accountId = none ∧
      ∀ accountId column, after.counted accountId column = store.counted accountId column := by
  rw [createAccount] at created
  split at created
  · cases created
  next fresh =>
    rw [Bool.or_eq_true, not_or] at fresh
    have absent : store.accounts.get? account.accountId = none := by
      rw [← contains_eq_false]
      exact Bool.not_eq_true _ |>.mp fresh.1
    have noRow : store.usageCounters.get? account.accountId = none := by
      rw [← contains_eq_false, consistent.row, contains_eq_false]
      exact absent
    cases created
    have sameCounted : ∀ accountId column,
        counted { store with
          accounts := store.accounts.insert account.accountId account
          usageCounters := store.usageCounters.insert account.accountId
            { usage := {}, lastConnectedAt := none, updatedAt := now } } accountId column =
          store.counted accountId column := by
      intro accountId column
      rw [counted, counted, get?_insert]
      split
      · next same => simp [same, noRow]
      · rfl
    refine ⟨⟨fun other => ?_, fun other absentOther => ?_, fun accountId column => ?_⟩, rfl, absent,
      sameCounted⟩
    · rw [contains_insert, ← consistent.row]
      unfold Table.contains
      rw [get?_insert]
      by_cases same : other = account.accountId <;> simp [same]
    · rw [get?_insert] at absentOther
      split at absentOther
      · cases absentOther
      · exact consistent.orphan other absentOther
    · rw [sameCounted, consistent.agrees]
      rfl

/-- A change of accounts rewrites rows of accounts that exist. -/
structure Rewrites (before after : AccountStore) : Prop where
  consistent : before.Consistent → after.Consistent
  accounts : ∀ accountId, after.accounts.contains accountId = before.accounts.contains accountId
  counted : ∀ accountId column, after.counted accountId column = before.counted accountId column

theorem Rewrites.refl (store : AccountStore) : Rewrites store store :=
  ⟨id, fun _ => rfl, fun _ _ => rfl⟩

theorem Rewrites.trans {middle : AccountStore} (first : Rewrites store middle)
    (second : Rewrites middle after) : Rewrites store after where
  consistent := second.consistent ∘ first.consistent
  accounts accountId := (second.accounts accountId).trans (first.accounts accountId)
  counted accountId column := (second.counted accountId column).trans (first.counted accountId column)

theorem Rewrites.insert (exists_ : store.accounts.contains accountId = true) :
    Rewrites store { store with accounts := store.accounts.insert accountId account } where
  consistent consistent := consistent.rewrite exists_
  accounts other := by
    rw [contains_insert]
    by_cases same : other = accountId
    · simp [same, exists_]
    · simp [same]
  counted _ _ := rfl

theorem rewrites_updateAccount {change : String × Int × Option AccountPolicy}
    (updated : store.updateAccount change = some (after, account)) : Rewrites store after := by
  rw [updateAccount] at updated
  split at updated
  · cases updated
  next held isHeld =>
    split at updated
    · cases updated
    split at updated
    · cases updated
      exact .refl store
    · cases updated
      exact .insert (Table.contains_iff.mpr ⟨held, isHeld⟩)

theorem rewrites_updateAccountsBatch {changes : List (String × Int × Option AccountPolicy)}
    {accounts : List StoredAccount}
    (updated : store.updateAccountsBatch changes = some (after, accounts)) :
    Rewrites store after := by
  induction changes generalizing store accounts with
  | nil =>
    cases updated
    exact .refl _
  | cons _ changes ih =>
    simp only [updateAccountsBatch, bind_eq_bind, bind_eq_some_iff, Prod.exists] at updated
    obtain ⟨_, _, first, _, _, others, done⟩ := updated
    cases done
    exact (rewrites_updateAccount first).trans (ih others)

theorem rewrites_replaceAccountPassword {password : Option (String × String)}
    (replaced : store.replaceAccountPassword accountId password = some after) :
    Rewrites store after := by
  rw [replaceAccountPassword] at replaced
  split at replaced
  · cases replaced
  · next held isHeld =>
      cases replaced
      exact .insert (Table.contains_iff.mpr ⟨held, isHeld⟩)

/-! ### Deleting -/

theorem removeAccount_get? (accountId other : String) :
    (store.removeAccount accountId).accounts.get? other =
      if other = accountId then none else store.accounts.get? other :=
  get?_erase ..

theorem counted_removeAccount {accountId other : String} (different : other ≠ accountId)
    (column : UsageColumn) :
    (store.removeAccount accountId).counted other column = store.counted other column := by
  grind [removeAccount, counted_congr]

theorem Consistent.removeAccount (consistent : store.Consistent) (accountId : String) :
    (store.removeAccount accountId).Consistent where
  row other := by
    have row := consistent.row other
    unfold Table.contains at row ⊢
    rw [AccountStore.removeAccount, get?_erase, get?_erase]
    split
    · rfl
    · exact row
  orphan other absent := by
    rw [AccountStore.removeAccount, get?_erase] at *
    split
    · rfl
    · next different =>
        rw [if_neg different] at absent
        exact consistent.orphan other absent
  agrees other column := by
    have agrees := consistent.agrees other column
    unfold counted dailyTotal at agrees ⊢
    rw [AccountStore.removeAccount, get?_erase, get?_erase]
    split
    · rfl
    · exact agrees

/-- What a batch of deletions leaves. -/
theorem foldl_removeAccount (consistent : store.Consistent) (accountIds : List String) :
    (accountIds.foldl removeAccount store).Consistent ∧
      (∀ other, (accountIds.foldl removeAccount store).accounts.get? other =
        if other ∈ accountIds then none else store.accounts.get? other) ∧
      ∀ other column, other ∉ accountIds →
        (accountIds.foldl removeAccount store).counted other column = store.counted other column := by
  induction accountIds generalizing store with
  | nil => exact ⟨consistent, fun _ => by simp, fun _ _ _ => rfl⟩
  | cons accountId accountIds ih =>
    obtain ⟨kept, gone, _⟩ := ih (consistent.removeAccount accountId)
    refine ⟨kept, fun other => ?_, fun other column _ => ?_⟩
    · rw [List.foldl_cons, gone, removeAccount_get?]
      grind
    grind [counted_removeAccount]

/-! ### Committing usage -/

/-- The increment that a map holds for an account, zero without one. -/
def incrementOf (usageByAccount : Table String UsageIncrement) (accountId : String)
    (column : UsageColumn) : Nat :=
  ((usageByAccount.get? accountId).map (·.column column)).getD 0

theorem total_upsertDaily (rows : Table Int UsageIncrement) (date : Int) (usage : UsageIncrement)
    (column : UsageColumn) :
    (upsertDaily rows date usage).total (·.column column) =
      rows.total (·.column column) + usage.column column := by
  rw [upsertDaily, Table.total_insert]
  cases found : rows.get? date with
  | none => simp [erase_of_get?_eq_none found, Nat.add_comm]
  | some =>
    rw [total_eq_of_get? _ found, getD_some, UsageIncrement.column_add]
    omega

/-- One account of a transaction: its counter and its daily rows grow by the same increment. -/
theorem applyIncrement_eq_some (consistent : store.Consistent) {now : Int}
    {entry : String × UsageIncrement} (applied : applyIncrement now store entry = some after) :
    after.Consistent ∧ after.accounts = store.accounts ∧
      ∀ accountId column, after.counted accountId column =
        store.counted accountId column + if accountId = entry.1 then entry.2.column column else 0 := by
  rw [applyIncrement] at applied
  split at applied
  case isFalse => cases applied
  case isTrue exists_ =>
    have hasRow : store.usageCounters.contains entry.1 = true := by rw [consistent.row, exists_]
    obtain ⟨row, isRow⟩ := Table.contains_iff.mp hasRow
    have grown : ∀ accountId column, after.counted accountId column =
        store.counted accountId column +
          if accountId = entry.1 then entry.2.column column else 0 := by
      cases applied
      intro accountId column
      rw [counted, counted, get?_modify]
      by_cases same : accountId = entry.1
      · simp [same, isRow]
      · simp [same]
    have grownDaily : ∀ accountId column, after.dailyTotal accountId column =
        store.dailyTotal accountId column +
          if accountId = entry.1 then entry.2.column column else 0 := by
      cases applied
      intro accountId column
      rw [dailyTotal, dailyTotal, get?_insert]
      by_cases same : accountId = entry.1
      · rw [if_pos same, if_pos same, map_some, total_upsertDaily, same]
        cases store.usageDaily.get? entry.1 with
        | none | some => rfl
      · simp [same]
    have sameAccounts : after.accounts = store.accounts := by
      cases applied
      rfl
    refine ⟨⟨fun other => ?_, fun other absent => ?_, fun accountId column => ?_⟩, sameAccounts,
      grown⟩
    · rw [sameAccounts, ← consistent.row]
      cases applied
      unfold Table.contains
      rw [get?_modify]
      split
      · exact isSome_map
      · rfl
    · rw [sameAccounts] at absent
      have different : other ≠ entry.1 := by
        rintro rfl
        rw [← contains_eq_false, exists_] at absent
        cases absent
      cases applied
      rw [get?_insert, if_neg different]
      exact consistent.orphan other absent
    · rw [grown, grownDaily, consistent.agrees]

/-- A committed transaction adds to every account what the map holds for it. -/
theorem applyUsage_eq_some (consistent : store.Consistent)
    {usageByAccount : Table String UsageIncrement} {now : Int}
    (applied : store.applyUsage usageByAccount now = some after) :
    after.Consistent ∧ after.accounts = store.accounts ∧
      ∀ accountId column, after.counted accountId column =
        store.counted accountId column + incrementOf usageByAccount accountId column := by
  have entries : ∀ (entries : List (String × UsageIncrement)) {store : AccountStore},
      store.Consistent → entries.foldlM (applyIncrement now) store = some after →
        after.Consistent ∧ after.accounts = store.accounts ∧
          ∀ accountId column, after.counted accountId column =
            store.counted accountId column + (entries.map fun entry =>
              if entry.1 = accountId then entry.2.column column else 0).sum := by
    intro entries
    induction entries with
    | nil =>
      grind
    | cons entry entries _ =>
      intro store consistent applied
      rw [List.foldlM_cons, bind_eq_bind, bind_eq_some_iff] at applied
      obtain ⟨_, first, _⟩ := applied
      obtain ⟨kept, accounts, grown⟩ := applyIncrement_eq_some consistent first
      grind
  obtain ⟨kept, accounts, grown⟩ := entries _ consistent applied
  refine ⟨kept, accounts, fun accountId column => ?_⟩
  rw [grown, sum_toList_of_key usageByAccount accountId (·.column column), incrementOf]

end AccountStore

end SprakCapture.AccountService
