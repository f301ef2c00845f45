import SprakCapture.AccountService.UsageStore
import SprakCapture.Data.Text
import Mathlib.Data.List.Infix
import Mathlib.Data.List.Sort

/-!
# Queries of accounts

`queryAccounts` filters the accounts, sorts them and returns one page. The pages of a listing are
its parts, as the comparison leaves no two accounts unordered. The filters on the expiration leave
out an account that expires at the instant of the query.
-/

namespace SprakCapture.AccountService

open Data List Std

inductive PasswordMode where
  | any
  | fixed
deriving DecidableEq

structure AccountView where
  accountId : String
  username : String
  passwordMode : PasswordMode
  policy : AccountPolicy
  policyRevision : Int
  remark : Option String
  createdAt : Int
  updatedAt : Int
  uploadedBytes : Int
  downloadedBytes : Int
  activeConnections : Nat
  onlineIps : Nat
deriving DecidableEq

inductive AccountStatusFilter where
  | available
  | disabled
  | expired
deriving DecidableEq

inductive AccountExpirationFilter where
  | never
  | scheduled
  | expired
deriving DecidableEq

inductive AccountSortField where
  | createdAt
  | username
  | expiresAt
  | uploadedBytes
  | downloadedBytes
  | totalBytes
  | activeConnections
  | onlineIps

inductive SortOrder where
  | asc
  | desc

structure AccountQuery where
  offset : Int := 0
  limit : Int := 100
  search : Option String := none
  status : Option AccountStatusFilter := none
  expiration : Option AccountExpirationFilter := none
  sort : AccountSortField := .createdAt
  order : SortOrder := .desc

/-! ### Filters -/

/-- The text occurs in another. -/
def occurs (search text : String) : Bool := decide (search.toList <:+: text.toList)

def matchesSearch (toLowercase : String → String) (account : AccountView)
    (search : Option String) : Bool :=
  search.all fun search =>
    occurs search (toLowercase account.username) ||
      account.remark.any fun remark => occurs search (toLowercase remark)

def matchesStatus (account : AccountView) (filter : Option AccountStatusFilter) (now : Int) :
    Bool :=
  let status : AccountStatusFilter :=
    if account.policy.disabled then .disabled
    else if account.policy.expired now then .expired
    else .available
  filter.all (· = status)

def matchesExpiration (account : AccountView) (filter : Option AccountExpirationFilter)
    (now : Int) : Bool :=
  filter.all fun
    | .never => account.policy.expiresAt = -1
    | .scheduled => now < account.policy.expiresAt
    | .expired => 0 < account.policy.expiresAt && account.policy.expiresAt < now

/-! ### Order -/

/-- Without an instant at which it expires, an account stands behind those that have one. -/
def sortableExpiration (account : AccountView) : Int :=
  if 0 < account.policy.expiresAt then account.policy.expiresAt else 2 ^ 63 - 1

def accountTotalBytes (account : AccountView) : Int :=
  account.uploadedBytes + account.downloadedBytes

/-- The comparison of two keys in a direction. -/
def SortOrder.direct : SortOrder → Ordering → Ordering
  | .asc, primary => primary
  | .desc, primary => primary.swap

def compareAccounts (field : AccountSortField) (order : SortOrder) (left right : AccountView) :
    Ordering :=
  let primary := match field with
    | .createdAt => compare left.createdAt right.createdAt
    | .username => compare left.username right.username
    | .expiresAt => compare (sortableExpiration left) (sortableExpiration right)
    | .uploadedBytes => compare left.uploadedBytes right.uploadedBytes
    | .downloadedBytes => compare left.downloadedBytes right.downloadedBytes
    | .totalBytes => compare (accountTotalBytes left) (accountTotalBytes right)
    | .activeConnections => compare left.activeConnections right.activeConnections
    | .onlineIps => compare left.onlineIps right.onlineIps
  (order.direct primary).then (compare left.accountId right.accountId)

/-! ### Queries -/

/-- The accounts that a query matches, `toLowercase` being `str::to_lowercase`. -/
def matchingAccounts (toLowercase : String → String) (accounts : List AccountView) (now : Int)
    (query : AccountQuery) : List AccountView :=
  let trimmed := query.search.map fun search => Text.trim search.toList
  let normalizedSearch := (trimmed.filter fun search => !search.isEmpty).map fun search =>
    toLowercase (String.ofList search)
  accounts.filter fun account =>
    matchesSearch toLowercase account normalizedSearch &&
      matchesStatus account query.status now && matchesExpiration account query.expiration now

/-- `queryAccounts`, once the accounts are read and the clock is. -/
def queryAccounts (toLowercase : String → String) (accounts : List AccountView) (now : Int)
    (query : AccountQuery) : Except String (List AccountView) :=
  if query.offset < 0 ∨ ¬(1 ≤ query.limit ∧ query.limit ≤ 200) then
    .error "offset 必须非负且 limit 必须位于 1..=200"
  else
    let sorted := (matchingAccounts toLowercase accounts now query).mergeSort fun left right =>
      (compareAccounts query.sort query.order left right).isLE
    .ok ((sorted.drop query.offset.toNat).take query.limit.toNat)

/-- What queries promise of a set of accounts: the comparison orders accounts unless they have one
identifier, the pages of a limit put together are the matching accounts in this order, and an
account with an expiration matches one filter on it, that for expired ones as its policy says. -/
structure QueriesConsistent (toLowercase : String → String) (accounts : List AccountView)
    (now : Int) : Prop where
  ordered (field : AccountSortField) (order : SortOrder) : TransCmp (compareAccounts field order)
  distinguished {field : AccountSortField} {order : SortOrder} {left right : AccountView}
    (same : compareAccounts field order left right = .eq) : left.accountId = right.accountId
  paged (query : AccountQuery) {limit count : Nat} (positive : 0 < limit) (most : limit ≤ 200)
    (enough : (matchingAccounts toLowercase accounts now query).length ≤ count * limit) :
    ∃ pages, (range count).mapM (fun page => queryAccounts toLowercase accounts now
        { query with offset := (page * limit : Nat), limit }) = .ok pages ∧
      pages.flatten ~ matchingAccounts toLowercase accounts now query ∧
      pages.flatten.Pairwise fun left right => compareAccounts query.sort query.order left right = .lt
  dated {account : AccountView} (member : account ∈ accounts)
    (expires : account.policy.expiresAt ≠ 0) :
    (∃! filter, matchesExpiration account (some filter) now = true) ∧
      matchesExpiration account (some .expired) now = account.policy.expired now

theorem transCmp_direct {Key : Type} [Ord Key] [TransOrd Key] (key : AccountView → Key)
    (order : SortOrder) :
    TransCmp fun left right : AccountView =>
      (order.direct (compare (key left) (key right))).then
        (compare left.accountId right.accountId) := by
  cases order with
  | asc => exact inferInstanceAs (TransCmp (compareLex (compareOn key) (compareOn (·.accountId))))
  | desc =>
    simp only [SortOrder.direct, ← OrientedCmp.eq_swap]
    exact inferInstanceAs (TransCmp (compareLex
      (fun left right => compareOn key right left) (compareOn (·.accountId))))

theorem transCmp_compareAccounts (field : AccountSortField) (order : SortOrder) :
    TransCmp (compareAccounts field order) := by
  cases field with
  | createdAt => exact transCmp_direct (·.createdAt) order
  | username => exact transCmp_direct (·.username) order
  | expiresAt => exact transCmp_direct sortableExpiration order
  | uploadedBytes => exact transCmp_direct (·.uploadedBytes) order
  | downloadedBytes => exact transCmp_direct (·.downloadedBytes) order
  | totalBytes => exact transCmp_direct accountTotalBytes order
  | activeConnections => exact transCmp_direct (·.activeConnections) order
  | onlineIps => exact transCmp_direct (·.onlineIps) order

variable {toLowercase : String → String} {accounts : List AccountView} {now : Int}

theorem accountId_of_compareAccounts {field : AccountSortField} {order : SortOrder}
    {left right : AccountView} (same : compareAccounts field order left right = .eq) :
    left.accountId = right.accountId :=
  Std.compare_eq_iff_eq.mp (Ordering.then_eq_eq.mp same).2

theorem pages_flatten (listed : List AccountView) (limit count : Nat) :
    ((range count).map fun page => (listed.drop (page * limit)).take limit).flatten =
      listed.take (count * limit) := by
  induction count with
  | zero => simp
  | succ count ih =>
    rw [range_succ, map_append, flatten_append, ih, Nat.succ_mul, take_add]
    simp

/-- The listing that the pages are taken from. -/
theorem sorted_matchingAccounts (distinct : (accounts.map (·.accountId)).Nodup)
    (query : AccountQuery) :
    ((matchingAccounts toLowercase accounts now query).mergeSort fun left right =>
      (compareAccounts query.sort query.order left right).isLE).Pairwise fun left right =>
        compareAccounts query.sort query.order left right = .lt := by
  have order := transCmp_compareAccounts query.sort query.order
  set matching := matchingAccounts toLowercase accounts now query
  set least := fun left right => (compareAccounts query.sort query.order left right).isLE
  have sorted := @pairwise_mergeSort _ least (fun _ _ _ => TransCmp.isLE_trans)
    (fun left right => by
      simp only [least, OrientedCmp.eq_swap (a := right) (b := left)]
      cases compareAccounts query.sort query.order left right <;> rfl) matching
  have different : (matching.mergeSort least).Pairwise fun left right =>
      left.accountId ≠ right.accountId :=
    pairwise_map.mp (((mergeSort_perm matching least).map _).nodup_iff.mpr
      (distinct.sublist (filter_sublist.map _)))
  refine (sorted.and different).imp fun {left right} ⟨most, apart⟩ => ?_
  cases compared : compareAccounts query.sort query.order left right with
  | lt => rfl
  | eq => exact absurd (accountId_of_compareAccounts compared) apart
  | gt => simp [least, compared] at most

/-- An account that expires at another instant than that of the query matches one filter. -/
theorem matchesExpiration_unique {account : AccountView}
    (least : -1 ≤ account.policy.expiresAt) (clock : 0 ≤ now)
    (expires : account.policy.expiresAt ≠ 0)
    (apart : 0 < account.policy.expiresAt → account.policy.expiresAt ≠ now) :
    ∃! filter, matchesExpiration account (some filter) now = true := by
  by_cases never : account.policy.expiresAt = -1
  · refine ⟨.never, by simp [matchesExpiration, never], fun filter matched => ?_⟩
    cases filter <;> simp [matchesExpiration] at matched ⊢ <;> omega
  by_cases future : now < account.policy.expiresAt
  · refine ⟨.scheduled, by simp [matchesExpiration, future], fun filter matched => ?_⟩
    cases filter <;> simp [matchesExpiration] at matched ⊢ <;> omega
  · refine ⟨.expired, by simp [matchesExpiration]; omega, fun filter matched => ?_⟩
    cases filter <;> simp [matchesExpiration] at matched ⊢ <;> omega

/-- Queries keep their promise exactly when no account expires at the instant of the query. -/
theorem queriesConsistent_iff (distinct : (accounts.map (·.accountId)).Nodup)
    (valid : ∀ account ∈ accounts, -1 ≤ account.policy.expiresAt) (clock : 0 ≤ now) :
    QueriesConsistent toLowercase accounts now ↔
      ∀ account ∈ accounts, 0 < account.policy.expiresAt → account.policy.expiresAt ≠ now := by
  constructor
  · intro consistent account member future same
    obtain ⟨filter, matched, _⟩ := (consistent.dated member (by omega)).1
    cases filter <;> simp [matchesExpiration] at matched <;> omega
  · intro apart
    refine ⟨transCmp_compareAccounts, accountId_of_compareAccounts, ?_, ?_⟩
    · intro query limit count positive most enough
      set sorted := (matchingAccounts toLowercase accounts now query).mergeSort fun left right =>
        (compareAccounts query.sort query.order left right).isLE with isSorted
      have page : ∀ page, queryAccounts toLowercase accounts now
          { query with offset := (page * limit : Nat), limit } =
            pure ((sorted.drop (page * limit)).take limit) := by
        intro page
        rw [queryAccounts, if_neg (by dsimp only; omega)]
        rfl
      refine ⟨_, by simp only [page]; exact mapM_pure, ?_⟩
      rw [pages_flatten, take_of_length_le (by rwa [length_mergeSort])]
      exact ⟨mergeSort_perm _ _, sorted_matchingAccounts distinct query⟩
    · intro account member expires
      exact ⟨matchesExpiration_unique (valid account member) clock expires (apart account member),
        rfl⟩

/-- An account without limits that expires at the instant five. -/
def expiringAccount : AccountView where
  accountId := "a"
  username := "user"
  passwordMode := .any
  policy := ⟨-1, -1, -1, -1, 5⟩
  policyRevision := 1
  remark := none
  createdAt := 0
  updatedAt := 0
  uploadedBytes := 0
  downloadedBytes := 0
  activeConnections := 0
  onlineIps := 0

theorem queriesConsistent_later : QueriesConsistent id [expiringAccount] 6 :=
  (queriesConsistent_iff (by decide) (by decide) (by decide)).mpr (by decide)

/-- At the instant five the account matches no filter on the expiration. -/
theorem not_queriesConsistent : ¬ QueriesConsistent id [expiringAccount] 5 := by
  intro consistent
  obtain ⟨filter, matched, _⟩ := (consistent.dated mem_cons_self (by decide)).1
  cases filter <;> exact absurd matched (by decide)

end SprakCapture.AccountService
