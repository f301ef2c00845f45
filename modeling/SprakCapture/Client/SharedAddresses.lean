import SprakCapture.Client.UdpFrames
import Mathlib.Data.List.Infix
import Mathlib.Data.List.Sort

/-!
# Rules for shared addresses

One address may serve several domains. `evaluateTarget` looks at every domain that was resolved to
the address and lets the strictest action win, but its callers hand it the domain that was resolved
last, and then only this domain counts.
-/

namespace SprakCapture.Client

open Data List

inductive RouteAction where
  | proxy
  | direct
  | reject
deriving DecidableEq

structure RouteMatchResult where
  action : RouteAction
  reason : Bytes
deriving DecidableEq

/-- What a rule looks at. The mask and the network of a CIDR are computed when it is parsed. -/
inductive RuleMatch where
  | port (start stop : UInt16)
  | ipv4Cidr (network mask : UInt32)
  | domain (text : Bytes)
  | domainKeyword (text : Bytes)
  | final

structure Rule where
  type : RuleMatch
  action : RouteAction

structure RoutingRules where
  selectedRules : List Rule
  globalRules : List Rule

/-- A target with a host, by name or by address. -/
structure RouteTarget where
  host : Bytes
  port : UInt16

/-- A domain that was resolved to an address. The parser of answers accepts no empty name. -/
structure CachedDomain where
  domain : Bytes
  expiry : Nat
  observationSequence : Nat
  named : domain ≠ []

/-! ### Rules -/

def routeActionText : RouteAction → String
  | .proxy => "PROXY"
  | .direct => "DIRECT"
  | .reject => "REJECT"

/-- The rule is for the target, `domainLower` being the domain in lower case. -/
def Rule.matches (rule : Rule) (ipHost : Option UInt32) (dstPort : UInt16) (domainLower : Bytes) :
    Bool :=
  match rule.type with
  | .port start stop => start ≤ dstPort && dstPort ≤ stop
  | .ipv4Cidr network mask => ipHost.any fun ipHost => ipHost &&& mask == network
  | .domain text => domainLower ≠ [] && domainLower = text
  | .domainKeyword text => domainLower ≠ [] && decide (text <:+: domainLower)
  | .final => true

def evaluateIpv4ForContext (inet : InetPton) (rules : RoutingRules) (target : RouteTarget)
    (domain : Bytes) (selectedApplication : Bool) : RouteMatchResult :=
  let ipHost := inet.v4 (cString target.host)
  let domainLower := toLower (trim domain)
  let chosen := if selectedApplication then rules.selectedRules else rules.globalRules
  match chosen.find? (·.matches ipHost target.port domainLower) with
  | some rule =>
    { action := rule.action
      reason := message ((if selectedApplication then "应用规则 " else "全局规则 ") ++
        routeActionText rule.action) }
  | none =>
    { action := .direct
      reason := message (if selectedApplication then "应用默认 DIRECT" else "全局默认 DIRECT") }

/-! ### Domains of addresses -/

abbrev DomainCache := Table Bytes (List CachedDomain)

def domainCacheKey (address : Bytes) (selectedApplication : Bool) : Bytes :=
  message (if selectedApplication then "S|" else "G|") ++ address

/-- The domains of an address that have not expired, the one that was resolved last first. -/
def lookupDomains (cache : DomainCache) (address : Bytes) (selectedApplication : Bool)
    (now : Nat) : List Bytes × DomainCache :=
  let key := domainCacheKey address selectedApplication
  match cache.get? key with
  | none => ([], cache)
  | some candidates =>
    let candidates := candidates.filter fun entry => now < entry.expiry
    if candidates.isEmpty then ([], cache.erase key)
    else
      let ordered := candidates.insertionSort fun left right =>
        right.observationSequence ≤ left.observationSequence
      (ordered.map (·.domain), cache.insert key candidates)

/-! ### Routes -/

def isIpLiteralHost (inet : InetPton) (host : Bytes) : Bool := inet.accepts (cString host)

variable (inet : InetPton) (rules : RoutingRules) (cache : DomainCache) (target : RouteTarget)
variable (selectedApplication : Bool)

/-- The domains that are tried for a target. -/
def candidateDomains (now : Nat) : List Bytes × DomainCache :=
  if isIpLiteralHost inet target.host then
    lookupDomains cache target.host selectedApplication now
  else ([target.host], cache)

/-- The loop of `EvaluateTarget`. -/
def selectRoute (selected : RouteMatchResult) : List RouteMatchResult → RouteMatchResult
  | [] => selected
  | candidate :: rest =>
    if candidate.action = .reject then candidate
    else selectRoute (if candidate.action = .proxy then candidate else selected) rest

def evaluateTarget (observedDomain : Bytes) (now : Nat) : RouteMatchResult :=
  let evaluate domain := evaluateIpv4ForContext inet rules target domain selectedApplication
  if observedDomain ≠ [] then evaluate observedDomain
  else
    match (candidateDomains inet cache target selectedApplication now).1 with
    | [] => evaluate []
    | domains => selectRoute ⟨.direct, message "DNS 候选域名默认直连"⟩ (domains.map evaluate)

/-- The route that a caller takes, which reads the clock for the candidates and in
`evaluateTarget`. -/
def routeOfLatest (now later : Nat) : RouteMatchResult :=
  let (cachedDomains, cache) := candidateDomains inet cache target selectedApplication now
  evaluateTarget inet rules cache target selectedApplication (cachedDomains.head?.getD []) later

/-- The route of `HandleTcp` where the first packet shows no domain; DNS has a handler of its own
and encrypted DNS is refused. -/
def handleTcp (now later : Nat) : Option RouteMatchResult :=
  if target.port = 53 ∨ target.port = 853 then none
  else some (routeOfLatest inet rules cache target selectedApplication now later)

/-- The route of `SendUdp`. -/
def sendUdp (now later : Nat) : Option RouteMatchResult :=
  if target.port = 853 ∨ target.port = 53 then none
  else some (routeOfLatest inet rules cache target selectedApplication now later)

/-- The action that is safe for all candidates. -/
def conservativeAction (actions : List RouteAction) : RouteAction :=
  if .reject ∈ actions then .reject else if .proxy ∈ actions then .proxy else .direct

def RouteAction.strictness : RouteAction → Nat
  | .direct => 0
  | .proxy => 1
  | .reject => 2

/-- Both callers take the conservative action. -/
def RoutedConservatively (now later : Nat) : Prop :=
  ∀ route, handleTcp inet rules cache target selectedApplication now later = some route ∨
      sendUdp inet rules cache target selectedApplication now later = some route →
    route.action = conservativeAction
      ((lookupDomains cache target.host selectedApplication now).1.map fun domain =>
        (evaluateIpv4ForContext inet rules target domain selectedApplication).action)

theorem conservativeAction_cons (latest : RouteAction) (others : List RouteAction) :
    latest = conservativeAction (latest :: others) ↔
      ∀ other ∈ others, other.strictness ≤ latest.strictness := by
  unfold conservativeAction
  constructor
  · intro same other member
    cases other with
    | direct => exact Nat.zero_le _
    | reject =>
      rw [if_pos (mem_cons_of_mem _ member)] at same
      rw [same]
    | proxy =>
      rw [if_pos (mem_cons_of_mem latest member)] at same
      split at same <;> simp [same, RouteAction.strictness]
  · intro least
    cases latest with
    | reject => simp
    | proxy =>
      have : RouteAction.reject ∉ others := fun member => absurd (least _ member) (by decide)
      simp [this]
    | direct =>
      have : RouteAction.reject ∉ others := fun member => absurd (least _ member) (by decide)
      have : RouteAction.proxy ∉ others := fun member => absurd (least _ member) (by decide)
      simp [*]

variable {inet rules cache target selectedApplication} {now : Nat}

theorem lookupDomains_named {address domain : Bytes}
    (found : domain ∈ (lookupDomains cache address selectedApplication now).1) : domain ≠ [] := by
  unfold lookupDomains at found
  dsimp only at found
  split at found
  · cases found
  · split at found
    · cases found
    · obtain ⟨entry, _, rfl⟩ := mem_map.mp found
      exact entry.named

/-- The callers are conservative about a shared address exactly when no earlier domain has a
stricter action than the latest one. -/
theorem routedConservatively_iff {latest : Bytes} {others : List Bytes}
    (literal : isIpLiteralHost inet target.host = true)
    (candidates : (lookupDomains cache target.host selectedApplication now).1 = latest :: others)
    (later : Nat) :
    RoutedConservatively inet rules cache target selectedApplication now later ↔
      target.port = 53 ∨ target.port = 853 ∨ ∀ other ∈ others,
        (evaluateIpv4ForContext inet rules target other selectedApplication).action.strictness ≤
          (evaluateIpv4ForContext inet rules target latest selectedApplication).action.strictness := by
  have named : latest ≠ [] := lookupDomains_named (candidates ▸ mem_cons_self)
  have route : routeOfLatest inet rules cache target selectedApplication now later =
      evaluateIpv4ForContext inet rules target latest selectedApplication := by
    simp [routeOfLatest, candidateDomains, literal, candidates, evaluateTarget, named]
  have conservative := conservativeAction_cons
    (evaluateIpv4ForContext inet rules target latest selectedApplication).action
    (others.map fun other =>
      (evaluateIpv4ForContext inet rules target other selectedApplication).action)
  rw [forall_mem_map] at conservative
  rw [RoutedConservatively, candidates, map_cons, ← or_assoc, ← conservative]
  by_cases reserved : target.port = 53 ∨ target.port = 853
  · simp [handleTcp, sendUdp, reserved, reserved.symm]
  · simp [handleTcp, sendUdp, reserved, mt Or.symm reserved, route]

/-- Two domains were resolved to the address, and only the earlier one is to be refused. -/
def sharedCache : DomainCache :=
  (∅ : DomainCache).insert (domainCacheKey (message "1.1.1.1") false)
    [⟨message "b", 10, 1, by decide⟩, ⟨message "a", 10, 2, by decide⟩]

def sharedTarget : RouteTarget := ⟨message "1.1.1.1", 443⟩

theorem routedConservatively_proxied :
    RoutedConservatively strictInetPton ⟨[], [⟨.final, .proxy⟩]⟩ sharedCache sharedTarget false 0 0 :=
  (routedConservatively_iff (by decide)
    (show _ = message "a" :: [message "b"] by decide) 0).mpr
    (.inr (.inr (by decide)))

theorem not_routedConservatively :
    ¬ RoutedConservatively strictInetPton ⟨[], [⟨.domain (message "b"), .reject⟩]⟩ sharedCache
      sharedTarget false 0 0 :=
  fun conservative => absurd (conservative _ (.inl rfl)) (by decide)

end SprakCapture.Client
