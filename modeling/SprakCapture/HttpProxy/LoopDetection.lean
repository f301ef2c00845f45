import SprakCapture.HttpProxy.RequestTarget

/-!
# Loops through the listener

A request whose target is the listener of the proxy itself is refused, as it would be forwarded
without end. The test looks at the host as it is written, while the connector dials the address
that a rule of the DNS spoofing tool puts in its place.
-/

namespace SprakCapture.HttpProxy

open Data Data.IpText Location List

/-- Where a configuration puts the listener. -/
structure HttpProxyConfig where
  listenHost : IpAddr
  listenPort : UInt16

structure DnsSpoofingRule where
  enabled : Bool
  hostPattern : List Char
  ipAddress : List Char

structure DnsSpoofingConfiguration where
  enabled : Bool
  rules : List DnsSpoofingRule

/-- What forwarding a request depends on besides the request: the configurations, Unicode lower
case, the local addresses and the library for URIs. -/
structure ProxyContext where
  config : HttpProxyConfig
  dnsSpoofing : DnsSpoofingConfiguration
  toLowercase : List Char → List Char
  localIpCanBeBound : IpAddr → Bool
  uris : UriLibrary

def isUnspecified : IpAddr → Bool
  | .v4 address => address = 0
  | .v6 groups => groups.all (· = 0)

def isLoopback : IpAddr → Bool
  | .v4 address => address.toNat / 2 ^ 24 = 127
  | .v6 groups => groups = [0, 0, 0, 0, 0, 0, 0, 1]

/-- An IPv4-mapped address. -/
def isMapped : IpAddr → Bool
  | .v4 _ => false
  | .v6 groups => isIpv4Mapped groups

/-- The address, as the IPv4 address if it is IPv4-mapped. -/
def toCanonical : IpAddr → IpAddr
  | .v4 address => .v4 address
  | .v6 groups =>
    if isIpv4Mapped groups then
      .v4 (UInt32.ofNat (groups.getD 6 0 * 65536 + groups.getD 7 0))
    else .v6 groups

inductive ProxyRequest where
  /-- A decoded request, with the URI that the tools have left. -/
  | decoded (uri : Uri)
  | connect (authority : List Char)

/-- What becomes of a request. A host that is no address is left to the resolver. -/
inductive Forwarding where
  | failed (failure : RequestFailure)
  | loopDetected
  | dialled (address : Option IpAddr) (port : UInt16)
deriving DecidableEq

namespace ProxyContext

variable (context : ProxyContext)

/-! ### Names -/

def hostMatches (pattern host : List Char) : Bool :=
  let pattern : LocationPattern :=
    { protocol := ['*'], host := pattern, port := ['*'], path := [], query := none }
  let candidate : ResolvedLocation :=
    { protocol := "socks".toList, host, port := 1, path := [], query := [], display := host }
  match locationMatches context.toLowercase pattern candidate .default with
  | .ok isMatch => isMatch
  | .error _ => false

/-- The address of the first rule for a name. -/
def resolveIp (host : List Char) : Option IpAddr :=
  if (IpAddr.parse host).isSome ∨ !context.dnsSpoofing.enabled then none
  else context.dnsSpoofing.rules.findSome? fun rule =>
    if !rule.enabled || !context.hostMatches rule.hostPattern host then none
    else IpAddr.parse rule.ipAddress

/-- The address that a host is dialled at, unless the resolver is asked. -/
def dialledAddress (host : List Char) : Option IpAddr :=
  match context.resolveIp host with
  | some address => some address
  | none => IpAddr.parse host

/-! ### The loop test -/

/-- The last test of `targetsProxyListener`, on the address as it is written. -/
def isListenerIp (targetIp : IpAddr) : Bool :=
  if !isUnspecified context.config.listenHost then targetIp = context.config.listenHost
  else isUnspecified targetIp || context.localIpCanBeBound targetIp

def trimBrackets (host : List Char) : List Char :=
  Text.trimWith (fun char => char == '[' || char == ']') host

/-- The host names the listener, whatever the port. -/
def namesListener (host : List Char) : Bool :=
  let normalizedHost := trimBrackets host
  if eqIgnoreAsciiCase normalizedHost "localhost".toList then
    isUnspecified context.config.listenHost || isLoopback context.config.listenHost
  else (IpAddr.parse normalizedHost).any context.isListenerIp

def targetsProxyListener (host : List Char) (port : UInt16) : Bool :=
  port = context.config.listenPort && context.namesListener host

/-! ### Requests -/

/-- `ProxyConnector::call` of a connector without a fixed target. -/
def connectorCall (uri : Uri) : Option IpAddr × UInt16 :=
  let authority := uri.authority.getD []
  (context.dialledAddress (context.uris.host authority),
    (context.uris.portU16 authority).getD (if uri.scheme = some "https".toList then 443 else 80))

def parseConnectTarget (authority : List Char) : Except RequestFailure (List Char × UInt16) :=
  if !context.uris.isAuthority authority then .error .invalidRequest
  else
    match context.uris.portU16 authority with
    | none => .error .invalidRequest
    | some port =>
      if (context.uris.host authority).isEmpty then .error .invalidRequest
      else .ok (context.uris.host authority, port)

/-- The host and the port that the loop test looks at, and what the connector makes of them. -/
def targetOfRequest :
    ProxyRequest → Except RequestFailure ((List Char × UInt16) × (Option IpAddr × UInt16))
  | .decoded uri => do
    let target ← parsePipelineTarget context.uris uri
    return ((target.location.host, target.location.port), context.connectorCall target.upstreamUri)
  | .connect authority => do
    let (host, port) ← context.parseConnectTarget authority
    return ((host, port), (context.dialledAddress host, port))

/-- `forwardDecodedHttp` and `forwardConnect`, up to the connection. -/
def forward (request : ProxyRequest) : Forwarding :=
  match context.targetOfRequest request with
  | .error failure => .failed failure
  | .ok ((host, port), (address, dialledPort)) =>
    if context.targetsProxyListener host port then .loopDetected
    else .dialled address dialledPort

/-! ### Loops -/

/-- A connection to the address and the port ends at the listener. -/
def Reaches (address : IpAddr) (port : UInt16) : Prop :=
  let listener := toCanonical context.config.listenHost
  port = context.config.listenPort ∧
    (toCanonical address = listener ∨ isUnspecified listener = true ∧
      (isUnspecified (toCanonical address) = true ∨
        context.localIpCanBeBound (toCanonical address) = true))

/-- A request whose destination is the listener is refused. -/
def NeverDialsItself (request : ProxyRequest) : Prop :=
  ∀ target address port, context.targetOfRequest request = .ok (target, (some address, port)) →
    context.Reaches address port → context.forward request = .loopDetected

/-- What is in the way of a loop for a host and a port. -/
structure Caught (host : List Char) (port : UInt16) : Prop where
  /-- An address that is the listener's as an IPv4 address is so as it is written. -/
  mapped : ∀ address, IpAddr.parse host = some address → context.Reaches address port →
    isMapped address = true ∨ isMapped context.config.listenHost = true →
      context.isListenerIp address = true
  /-- A name with an address of the listener in its place names the listener itself. -/
  substituted : ∀ address, context.resolveIp host = some address → context.Reaches address port →
    context.namesListener host = true

/-- What the library for URIs reads from an authority that is made of the host of another. -/
structure ReadsCanonical : Prop where
  host : ∀ authority port defaultPort canonical,
    canonicalAuthority context.uris (context.uris.host authority) port defaultPort = .ok canonical →
      context.uris.host canonical = context.uris.host authority
  port : ∀ authority port defaultPort canonical,
    canonicalAuthority context.uris (context.uris.host authority) port defaultPort = .ok canonical →
      context.uris.portU16 canonical = if port = defaultPort then none else some port

end ProxyContext

open ProxyContext

theorem toCanonical_of_not_mapped {address : IpAddr} (plain : isMapped address = false) :
    toCanonical address = address := by
  cases address with
  | v4 address => rfl
  | v6 groups => simp [toCanonical, show isIpv4Mapped groups = false from plain]

theorem isAddressChar_of_parse {text : List Char} {address : IpAddr}
    (parsed : IpAddr.parse text = some address) : ∀ char ∈ text, isAddressChar char = true := by
  unfold IpAddr.parse at parsed
  split at parsed
  · rename_i isV4
    exact (shape_parseIpv4 (by simp [isV4])).2.2
  · obtain ⟨_, isV6, _⟩ := Option.map_eq_some_iff.mp parsed
    exact (shape_isIpv6Text (by simp [isIpv6Text, isV6])).2.2

variable {context : ProxyContext} {host : List Char} {address : IpAddr} {port : UInt16}

/-- An address is tested as it is written. -/
theorem namesListener_of_parse (parsed : IpAddr.parse host = some address) :
    context.namesListener host = context.isListenerIp address := by
  have chars := isAddressChar_of_parse parsed
  have trimmed : trimBrackets host = host := by
    refine Text.trimWith_eq_self fun char member => ?_
    have := chars char member
    simp only [Bool.or_eq_false_iff, beq_eq_false_iff_ne]
    constructor <;> (rintro rfl; exact absurd this (by decide))
  have notLocal : eqIgnoreAsciiCase host "localhost".toList = false := by
    by_contra isLocal
    have member : 'l' ∈ Text.toAsciiLowercase host := by
      rw [show Text.toAsciiLowercase host = Text.toAsciiLowercase "localhost".toList by
        simpa [eqIgnoreAsciiCase] using isLocal]
      decide
    obtain ⟨char, inside, lower⟩ := mem_map.mp member
    have code := chars char inside
    split at lower
    · have valid : (char.toNat + 32).isValidChar := by
        simp [isAddressChar, isAddressCode] at code
        exact .inl (by omega)
      rw [Char.ofNat, dif_pos valid] at lower
      have same : char.toNat + 32 = 108 := congrArg Char.toNat lower
      simp [isAddressChar, isAddressCode] at code
      omega
    · subst lower
      exact absurd code (by decide)
  rw [namesListener, trimmed, notLocal, parsed]
  rfl

/-- Away from IPv4-mapped addresses the test is right about addresses. -/
theorem isListenerIp_of_reaches (plain : isMapped address = false)
    (plainListener : isMapped context.config.listenHost = false)
    (reaches : context.Reaches address port) : context.isListenerIp address = true := by
  obtain ⟨_, reaches⟩ := reaches
  rw [toCanonical_of_not_mapped plain, toCanonical_of_not_mapped plainListener] at reaches
  unfold isListenerIp
  grind

/-- Both handlers look for the listener under the host that is dialled. -/
theorem targetOfRequest_spec (reads : context.ReadsCanonical) {request : ProxyRequest}
    {target : List Char × UInt16} {dialled : Option IpAddr × UInt16}
    (parsed : context.targetOfRequest request = .ok (target, dialled)) :
    dialled = (context.dialledAddress target.1, target.2) := by
  cases request with
  | connect authority =>
    obtain ⟨_, _, done⟩ := Checked.bind_eq_ok.mp parsed
    cases done
    rfl
  | decoded uri =>
    obtain ⟨http, isTarget, done⟩ := Checked.bind_eq_ok.mp parsed
    cases done
    have connects : ∀ {scheme : List Char} {defaultPort : UInt16},
        defaultPort = (if scheme = "https".toList then 443 else 80) →
        targetOf context.uris scheme defaultPort uri = .ok http →
          context.connectorCall http.upstreamUri =
            (context.dialledAddress http.location.host, http.location.port) := by
      intro scheme defaultPort isDefault done
      obtain ⟨authority, canonical, _, _, isHost, isPort, made, isAuthority, isScheme⟩ :=
        targetOf_eq_ok done
      simp only [connectorCall, isAuthority, Option.getD_some,
        reads.host _ _ _ _ made, reads.port _ _ _ _ made]
      split <;> simp_all
    unfold parsePipelineTarget at isTarget
    split at isTarget
    · cases isTarget
    · split at isTarget
      · rename_i scheme
        exact connects (by rw [scheme]; decide) isTarget
      · split at isTarget
        · rename_i scheme
          exact connects (if_pos scheme).symm isTarget
        · cases isTarget

/-- A request is safe exactly when its host is caught. -/
theorem neverDialsItself_iff (reads : context.ReadsCanonical) (request : ProxyRequest) :
    context.NeverDialsItself request ↔ ∀ host port dialled,
      context.targetOfRequest request = .ok ((host, port), dialled) → context.Caught host port := by
  constructor
  · intro safe host port dialled parsed
    obtain rfl := targetOfRequest_spec reads parsed
    have caught : ∀ address, context.dialledAddress host = some address →
        context.Reaches address port → context.namesListener host = true := by
      intro address isDialled reaches
      have refused := safe _ address port (isDialled ▸ parsed) reaches
      rw [forward, parsed] at refused
      dsimp only at refused
      split at refused
      · rename_i targets
        exact (Bool.and_eq_true_iff.mp targets).2
      · cases refused
    refine ⟨fun address literal reaches _ => ?_, fun address substituted reaches => ?_⟩
    · rw [← namesListener_of_parse literal]
      refine caught address ?_ reaches
      rw [dialledAddress, resolveIp, if_pos (.inl (by rw [literal]; rfl)), literal]
    · exact caught address (by rw [dialledAddress, substituted]) reaches
  · intro caught target address port parsed reaches
    obtain ⟨host, port'⟩ := target
    obtain ⟨isDialled, rfl⟩ := Prod.mk.inj (targetOfRequest_spec reads parsed)
    have caught := caught host port _ parsed
    have names : context.namesListener host = true := by
      rw [dialledAddress] at isDialled
      split at isDialled
      · rename_i substituted
        cases isDialled
        exact caught.substituted address substituted reaches
      · rw [namesListener_of_parse isDialled.symm]
        by_cases mapped : isMapped address = true ∨ isMapped context.config.listenHost = true
        · exact caught.mapped address isDialled.symm reaches mapped
        · simp only [not_or, Bool.not_eq_true] at mapped
          exact isListenerIp_of_reaches mapped.1 mapped.2 reaches
    rw [forward, parsed]
    exact if_pos (Bool.and_eq_true_iff.mpr ⟨decide_eq_true reaches.1, names⟩)

/-- A listener at a local address, and a rule that puts the address in the place of a name. The
library knows one authority. -/
def spoofedContext (authority host : String) (port : Option UInt16) : ProxyContext where
  config := ⟨.v4 0x7F000001, 80⟩
  dnsSpoofing := ⟨true, [⟨true, "self.test".toList, "127.0.0.1".toList⟩]⟩
  toLowercase := Text.toAsciiLowercase
  localIpCanBeBound _ := false
  uris :=
    { parseUri := fun _ => none
      isAuthority := fun text => text = authority.toList
      host := fun _ => host.toList
      portU16 := fun _ => port
      isHeaderValue := fun _ => true }

theorem readsCanonical_spoofedContext :
    (spoofedContext "127.0.0.1" "127.0.0.1" none).ReadsCanonical := by
  refine ⟨fun _ _ _ _ _ => rfl, fun _ port defaultPort _ made => (if_pos ?_).symm⟩
  by_contra other
  simp [canonicalAuthority, other, spoofedContext] at made

theorem neverDialsItself_literal :
    (spoofedContext "127.0.0.1" "127.0.0.1" none).NeverDialsItself
      (.decoded ⟨some "http".toList, some "127.0.0.1".toList, ['/'], none⟩) :=
  (neverDialsItself_iff readsCanonical_spoofedContext _).mpr fun host _ _ parsed => by
    obtain rfl : "127.0.0.1".toList = host := congrArg (·.1.1) (Except.ok.inj parsed)
    exact ⟨fun _ literal _ mapped => by cases literal; exact absurd mapped (by decide),
      fun _ substituted => by cases substituted⟩

/-- The name of a rule is dialled at the listener. -/
theorem not_neverDialsItself :
    ¬ (spoofedContext "self.test:80" "self.test" (some 80)).NeverDialsItself
      (.connect "self.test:80".toList) := by
  intro safe
  have refused := safe ("self.test".toList, 80) (.v4 0x7F000001) 80 (by decide) ⟨rfl, .inl rfl⟩
  exact absurd refused (by decide)

end SprakCapture.HttpProxy
