import SprakCapture.Control.SettledClassification

/-!
# Plain requests behind the classification

A tunnel that is classified as plain HTTP is served by the HTTP handler, which reads the request
again and rejects it unless it names the target of the tunnel. `plainRequest_served` says for
which heads it does not: one of HTTP/1.0 without a Host header is classified and then rejected.
-/

namespace SprakCapture.Control

open Data HttpProxy Location List Option

/-- The handler of plain requests: the target that a request is forwarded to, if it is the one
of the tunnel. -/
def servePlainRequest (uris : UriLibrary) (host : List Char) (port : UInt16) (request : Request) :
    Except RequestFailure HttpTarget :=
  match parseHttpTarget uris request with
  | .ok target =>
    if eqIgnoreAsciiCase target.location.host host ∧ target.location.port = port then .ok target
    else .error .invalidRequest
  | .error _ => .error .invalidRequest

/-! ### How the head of a request is read -/

/-- The bytes of the head of a request. -/
def requestHead (arrived : Bytes) : Bytes := arrived.take ((findHeaderEnd arrived).getD 0)

/-- The request target in the first line of a head. -/
def headTarget (headerText : List Char) : Option (List Char) :=
  match Text.splitAsciiWhitespace ((splitCrLf headerText).headD []) with
  | [_, requestTarget, _] => some requestTarget
  | _ => none

/-- Space and tabulator. -/
def isFieldSpace (char : Char) : Bool := char == ' ' || char == '\t'

/-- The value of a line that is a Host field, without spaces and tabulators around it. -/
def hostField (line : List Char) : Option (List Char) := do
  let (name, value) ← splitAtColon line
  if eqIgnoreAsciiCase name "host".toList then some (Text.trimWith isFieldSpace value) else none

/-- A line without the carriage return at its end. -/
def withoutReturn (line : List Char) : List Char :=
  if line.getLast? = some '\r' then line.dropLast else line

/-- The Host fields of a head whose lines are ended by line feeds, with a carriage return before
them or not, as a reader of HTTP/1 takes them. -/
def hostFields (headerText : List Char) : List (List Char) :=
  (((headerText.splitOn '\n').map withoutReturn).tail.takeWhile (· ≠ [])).filterMap hostField

/-- What a reader of HTTP/1 makes of the head of a request, if it takes the head for one. -/
structure ReadsHeads (uris : UriLibrary) (readRequest : Bytes → Option Request) : Prop where
  /-- The request has the URI of its request target. -/
  target : ∀ head request text requestTarget, readRequest head = some request →
    Utf8.decode head = some text → headTarget text = some requestTarget →
      uris.parseUri requestTarget = some request.uri
  /-- The request has the first of its Host fields. -/
  host : ∀ head request text, readRequest head = some request → Utf8.decode head = some text →
    request.header "host".toList = (hostFields text).head?

/-- The handler takes a head for a request to an endpoint. -/
def ServedFor (uris : UriLibrary) (readRequest : Bytes → Option Request) (head : Bytes)
    (host : List Char) (port : UInt16) : Prop :=
  ∃ request target, readRequest head = some request ∧
    servePlainRequest uris host port request = .ok target

/-- The first Host field of a head is an ASCII authority that names an endpoint. -/
def HostFieldNames (uris : UriLibrary) (text host : List Char) (port : UInt16) : Prop :=
  ∃ value, (hostFields text).head? = some value ∧ headerText value = some value ∧
    uris.isAuthority value ∧ uris.host value ≠ [] ∧
      eqIgnoreAsciiCase (uris.host value) host ∧ authorityPort uris value = port

/-- A head names the endpoint of its tunnel where the handler looks for it: in a request target
in absolute form, where the host of the tunnel has to be a name without brackets around it, or in
the first Host field. -/
def NamesTunnel (uris : UriLibrary) (target : TunnelTarget) (tunnelHost : List Char)
    (head : Bytes) : Prop :=
  ∃ text requestTarget, Utf8.decode head = some text ∧ headTarget text = some requestTarget ∧
    if absoluteStart.isPrefixOf requestTarget then
      tunnelHost ≠ [] ∧ (target.routePinned ∨ withoutBrackets target.host = target.host)
    else HostFieldNames uris text tunnelHost target.port

/-! ### What the classification has checked -/

variable {uris : UriLibrary} {text : List Char}

/-- The parts of a head whose authorities were found. -/
theorem headAuthorities_eq_some {inTarget inHost : Option (List Char)}
    (found : headAuthorities uris text = some (inTarget, inHost)) :
    ∃ requestTarget httpVersion, headTarget text = some requestTarget ∧
      requestAuthority uris requestTarget = some inTarget ∧
        hostAuthority uris httpVersion (splitCrLf text).tail = some inHost := by
  rw [headAuthorities] at found
  cases split : splitCrLf text with
  | nil =>
    rw [split] at found
    cases found
  | cons =>
    simp only [split] at found
    split at found
    · rename_i method requestTarget httpVersion tokens
      have target : headTarget text = some requestTarget := by
        rw [headTarget, split, headD_cons, tokens]
      split at found
      · cases found
      obtain ⟨_, _, found⟩ := bind_eq_some_iff.mp found
      obtain ⟨_, _, found⟩ := bind_eq_some_iff.mp found
      grind
    · cases found

variable {logicalHost : Option (List Char)} {target : TunnelTarget}

theorem classifyHttpHead_eq_http
    (classified : classifyHttpHead uris target text = .http logicalHost) :
    ∃ inTarget inHost, headAuthorities uris text = some (inTarget, inHost) ∧
      (∀ requested host, inTarget = some requested → inHost = some host →
        authoritiesEquivalent uris requested host) ∧
      match inHost <|> inTarget with
      | none => logicalHost = none
      | some authority => authorityPort uris authority = target.port ∧
          (target.routePinned ∨ authorityMatchesTarget uris authority target.host target.port) ∧
          logicalHost = if target.routePinned then some (uris.host authority) else none := by
  rw [classifyHttpHead] at classified
  cases found : headAuthorities uris text with
  | none =>
    rw [found] at classified
    cases classified
  | some _ =>
    grind [authoritiesConflict]

variable {shouldIntercept : ResolvedLocation → Bool} {arrived : Bytes}

theorem classifyTlsPrefix_ne_http {capacity : Nat} :
    classifyTlsPrefix uris target shouldIntercept capacity arrived ≠ .ok (.http logicalHost) := by
  have hello : ∀ name, classifyHello target shouldIntercept name ≠ .http logicalHost := by
    intro name
    rw [classifyHello]
    split <;> nofun
  rw [classifyTlsPrefix]
  intro classified
  split at classified
  · cases classified
  split at classified
  · cases classified
  obtain ⟨_, _, classified⟩ := Outcome.bind_eq_ok.mp classified
  obtain ⟨_, _, classified⟩ := Outcome.bind_eq_ok.mp classified
  split at classified
  · cases classified
  split at classified
  · cases classified
  obtain ⟨_, _, classified⟩ := Outcome.bind_eq_ok.mp classified
  split at classified
  · cases classified
  split at classified
  · cases classified
  obtain ⟨_, _, classified⟩ := Outcome.bind_eq_ok.mp classified
  split at classified
  · cases classified
  split at classified
  · exact hello _ (Except.ok.inj classified)
  obtain ⟨extraction, _, classified⟩ := Outcome.bind_eq_ok.mp classified
  cases extraction with
  | needMoreBytes => cases classified
  | absent | host name => exact hello _ (Except.ok.inj classified)

theorem classified_head {capacity : Nat} (request : ¬http2Preface <+: arrived)
    (classified : classifyClientPrefix uris target shouldIntercept capacity arrived =
      .ok (.http logicalHost)) :
    ∃ text, Utf8.decode (requestHead arrived) = some text ∧
      classifyHttpHead uris target text = .http logicalHost := by
  rw [classifyClientPrefix, classifyHttpPrefix_eq, Outcome.ok_bind] at classified
  split at classified
  · have answer : httpAnswer uris target capacity arrived = .http logicalHost :=
      Except.ok.inj classified
    rw [httpAnswer] at answer
    split at answer
    · rename_i prefaced
      split at answer
      · rename_i long
        refine absurd ?_ request
        rcases prefaced with inside | behind
        · rw [inside.eq_of_length_le long]
        · exact behind
      · cases answer
    cases scanned : scanHttpMethod arrived with
    | needMoreBytes | invalid =>
      rw [scanned] at answer
      cases answer
    | complete =>
      grind [headAnswer, requestHead]
  · exact absurd classified classifyTlsPrefix_ne_http

/-! ### What the handler finds -/

variable {left right : List Char}

theorem eqIgnoreAsciiCase_iff :
    eqIgnoreAsciiCase left right = true ↔
      Text.toAsciiLowercase left = Text.toAsciiLowercase right :=
  beq_iff_eq

theorem length_eq_of_eqIgnoreAsciiCase (same : eqIgnoreAsciiCase left right = true) :
    left.length = right.length := by
  have lengths := congrArg List.length (eqIgnoreAsciiCase_iff.mp same)
  simpa [Text.toAsciiLowercase] using lengths

theorem nil_iff_of_eqIgnoreAsciiCase (same : eqIgnoreAsciiCase left right = true) :
    left = [] ↔ right = [] := by
  rw [← length_eq_zero_iff, length_eq_of_eqIgnoreAsciiCase same, length_eq_zero_iff]

theorem withoutBrackets_sublist (host : List Char) : (withoutBrackets host).Sublist host := by
  have front : (host.dropWhile (· == '[')).Sublist host := (dropWhile_suffix _).sublist
  have back : (Text.trimEndWith (· == ']') (host.dropWhile (· == '['))).Sublist
      (host.dropWhile (· == '[')) :=
    (List.rdropWhile_prefix _ _).sublist
  exact back.trans front

variable {host : List Char}

theorem eqIgnoreAsciiCase_withoutBrackets :
    eqIgnoreAsciiCase (withoutBrackets host) host = true ↔ withoutBrackets host = host := by
  constructor
  · intro same
    exact (withoutBrackets_sublist host).eq_of_length (length_eq_of_eqIgnoreAsciiCase same)
  · intro same
    rw [same, eqIgnoreAsciiCase_iff]

variable {request : Request}

/-- A request whose target is that of a URI is served if the authority of the URI names the
endpoint. -/
theorem served_iff (lawful : uris.Lawful) {uri : Uri} {authority : List Char}
    (upstream : parseHttpTarget uris request = targetOf uris "http".toList 80 uri)
    (isSome : uri.authority = some authority) (valid : uris.isAuthority authority)
    (path : uri.path.head? = some '/') {port : UInt16} :
    (∃ target, servePlainRequest uris host port request = .ok target) ↔
      uris.host authority ≠ [] ∧ eqIgnoreAsciiCase (uris.host authority) host ∧
        authorityPort uris authority = port := by
  rw [servePlainRequest, upstream]
  cases done : targetOf uris "http".toList 80 uri with
  | error =>
    refine ⟨?_, fun ⟨named, _⟩ => ?_⟩
    · rintro ⟨target, served⟩
      cases served
    obtain ⟨target, total⟩ := targetOf_total lawful isSome valid named path "http".toList 80
    rw [done] at total
    cases total
  | ok target =>
    obtain ⟨_, _, isSome', named, _, samePort, _⟩ := targetOf_eq_ok done
    rw [isSome] at isSome'
    cases isSome'
    dsimp only
    rw [samePort]
    change (∃ other, (if _ ∧ authorityPort uris authority = port then _ else _) = _) ↔ _
    grind

/-- A request in origin form is served if its Host header names the endpoint. -/
theorem served_origin_iff (lawful : uris.Lawful) (scheme : request.uri.scheme = none)
    (path : request.uri.path.head? = some '/') {port : UInt16} :
    (∃ target, servePlainRequest uris host port request = .ok target) ↔
      ∃ value, request.header "host".toList = some value ∧ headerText value = some value ∧
        uris.isAuthority value ∧ uris.host value ≠ [] ∧
          eqIgnoreAsciiCase (uris.host value) host ∧ authorityPort uris value = port := by
  have isUri := @absoluteUri_origin uris _ scheme path
  have rejected : ∀ failure, absoluteUri uris request = .error failure →
      ¬∃ target, servePlainRequest uris host port request = .ok target := by
    rintro failure failed ⟨target, served⟩
    rw [servePlainRequest, parseHttpTarget, failed] at served
    cases served
  cases isHeader : request.header "host".toList with
  | none =>
    simp only [isHeader] at isUri
    refine iff_of_false (rejected _ isUri) ?_
    rintro ⟨value, found, _⟩
    cases found
  | some value =>
    simp only [isHeader, bind_some] at isUri
    cases isText : headerText value with
    | none =>
      simp_all
    | some =>
      cases eq_of_headerText isText
      simp only [isText] at isUri
      by_cases valid : uris.isAuthority value = true
      · rw [if_pos valid] at isUri
        rw [served_iff lawful (parseHttpTarget_of_uri isUri rfl) rfl valid path]
        simp_all
      simp_all

theorem uri_of_absolute {requestTarget : List Char}
    (absolute : absoluteStart.isPrefixOf requestTarget = true) {inTarget : Option (List Char)}
    (isRequested : requestAuthority uris requestTarget = some inTarget) {uri : Uri}
    (parsed : uris.parseUri requestTarget = some uri) :
    uri.scheme = some "http".toList ∧
      ∃ authority, uri.authority = some authority ∧ inTarget = some authority := by
  rw [requestAuthority, if_pos absolute, parsed] at isRequested
  cases isSome : uri.authority with
  | none =>
    simp only [isSome] at isRequested
    cases isRequested
  | some authority =>
    simp only [isSome] at isRequested
    split at isRequested
    · rename_i scheme
      cases isRequested
      exact ⟨scheme, authority, rfl, rfl⟩
    · cases isRequested

/-- The authority of a classified request target names the tunnel, unless the host of the tunnel
is empty or is compared without its brackets. -/
theorem names_iff {requested : List Char} {inHost logicalHost : Option (List Char)}
    (agree : ∀ host, inHost = some host → authoritiesEquivalent uris requested host)
    (logical : match inHost <|> some requested with
      | none => logicalHost = none
      | some authority => authorityPort uris authority = target.port ∧
          (target.routePinned ∨ authorityMatchesTarget uris authority target.host target.port) ∧
          logicalHost = if target.routePinned then some (uris.host authority) else none) :
    (uris.host requested ≠ [] ∧
      eqIgnoreAsciiCase (uris.host requested) (logicalHost.getD target.host) ∧
        authorityPort uris requested = target.port) ↔
      logicalHost.getD target.host ≠ [] ∧
        (target.routePinned ∨ withoutBrackets target.host = target.host) := by
  obtain ⟨authority, sameHost, port, matched, isLogical⟩ : ∃ authority,
      eqIgnoreAsciiCase (uris.host requested) (uris.host authority) ∧
        authorityPort uris requested = target.port ∧
        (target.routePinned ∨
          eqIgnoreAsciiCase (uris.host authority) (withoutBrackets target.host)) ∧
        logicalHost = if target.routePinned then some (uris.host authority) else none := by
    cases inHost with
    | none =>
      obtain ⟨port, matched, isLogical⟩ := logical
      refine ⟨requested, eqIgnoreAsciiCase_iff.mpr rfl, port, matched.imp_right ?_, isLogical⟩
      exact fun both => (Bool.and_eq_true_iff.mp both).1
    | some host =>
      obtain ⟨port, matched, isLogical⟩ := logical
      obtain ⟨sameHost, samePort⟩ := Bool.and_eq_true_iff.mp (agree host rfl)
      refine ⟨host, sameHost, (beq_iff_eq.mp samePort).trans port, matched.imp_right ?_, isLogical⟩
      exact fun both => (Bool.and_eq_true_iff.mp both).1
  cases pinned : target.routePinned with
  | true =>
    have empty := nil_iff_of_eqIgnoreAsciiCase sameHost
    simp_all
  | false =>
    have stripped := matched.resolve_left (by rw [pinned]; exact Bool.false_ne_true)
    have same : Text.toAsciiLowercase (uris.host requested) =
        Text.toAsciiLowercase (withoutBrackets target.host) :=
      (eqIgnoreAsciiCase_iff.mp sameHost).trans (eqIgnoreAsciiCase_iff.mp stripped)
    have equal : eqIgnoreAsciiCase (uris.host requested) target.host = true ↔
        withoutBrackets target.host = target.host := by
      rw [← eqIgnoreAsciiCase_withoutBrackets, eqIgnoreAsciiCase_iff, eqIgnoreAsciiCase_iff, same]
    constructor
    · grind [nil_iff_of_eqIgnoreAsciiCase]
    · rintro ⟨_, unbracketed⟩
      grind [nil_iff_of_eqIgnoreAsciiCase]

/-- A letter, a digit, a dot, a hyphen or the colon before a port. -/
def isNameChar (char : Char) : Bool :=
  let code := char.toNat
  (48 ≤ code && code ≤ 58) || (65 ≤ code && code ≤ 90) || (97 ≤ code && code ≤ 122) ||
    code == 45 || code == 46

def isNameAuthority (text : List Char) : Bool := !text.isEmpty && text.all isNameChar

/-- The library for HTTP on authorities of names and ports, and on URIs without queries. -/
def nameUris : UriLibrary where
  parseUri text :=
    if absoluteStart.isPrefixOf text then
      let authority := (text.drop 7).takeWhile (· != '/')
      let path := (text.drop 7).dropWhile (· != '/')
      if isNameAuthority authority then
        some ⟨some "http".toList, some authority, if path.isEmpty then ['/'] else path, none⟩
      else none
    else if text.head? = some '/' then some ⟨none, none, text, none⟩
    else none
  isAuthority := isNameAuthority
  host text := text.takeWhile (· != ':')
  portU16 text := (Text.parseUnsigned 65536 ((text.dropWhile (· != ':')).drop 1)).map UInt16.ofNat
  isHeaderValue text := (headerText text).isSome

theorem nameUris_lawful : nameUris.Lawful := by
  have hostAuthority : ∀ authority, isNameAuthority authority = true →
      authority.takeWhile (· != ':') ≠ [] →
        isNameAuthority (authority.takeWhile (· != ':')) = true := by
    intro authority valid named
    rw [isNameAuthority, Bool.and_eq_true_iff, List.all_eq_true] at valid ⊢
    refine ⟨by simpa using named, fun char member => valid.2 char ?_⟩
    exact (takeWhile_sublist _).subset member
  refine {
    host_isAuthority := hostAuthority
    host_port_isAuthority := ?_
    host_brackets := ?_
    isHeaderValue := ?_
    authority_of_uri := ?_
    path_of_absolute := ?_
    origin := ?_ }
  · intro authority _ valid named
    have valid := hostAuthority authority valid named
    change isNameAuthority (authority.takeWhile (· != ':') ++ ':' :: Nat.toDigits 10 _) = true
    rw [isNameAuthority, Bool.and_eq_true_iff, List.all_eq_true] at valid ⊢
    refine ⟨by simp, fun char member => ?_⟩
    rcases mem_append.mp member with inHost | inPort
    · exact valid.2 char inHost
    rcases mem_cons.mp inPort with rfl | digit
    · decide
    have isDigit := Nat.isDigit_of_mem_toDigits (by decide) (by decide) digit
    simp only [Char.isDigit, Bool.and_eq_true, decide_eq_true_eq] at isDigit
    have low : 48 ≤ char.toNat := isDigit.1
    have high : char.toNat ≤ 58 := Nat.le_succ_of_le isDigit.2
    simp [isNameChar, low, high]
  · intro authority _ colon
    have member : ':' ∈ authority.takeWhile (· != ':') := contains_iff_mem.mp colon
    exact absurd (mem_takeWhile_imp member) (by decide)
  · intro authority valid
    have visible : authority.all
        (fun char => (32 ≤ char.toNat && char.toNat < 127) || char == '\t') = true := by
      have allowed := List.all_eq_true.mp (Bool.and_eq_true_iff.mp valid).2
      refine List.all_eq_true.mpr fun char member => ?_
      grind [isNameChar]
    change (headerText authority).isSome = true
    rw [headerText, if_pos visible]
    rfl
  · intro text uri authority parsed isSome
    simp only [nameUris] at parsed
    split at parsed
    · split at parsed
      · rename_i valid
        cases parsed
        cases isSome
        exact valid
      · cases parsed
    grind
  · intro text uri parsed _
    simp only [nameUris] at parsed
    split at parsed
    · split at parsed
      · cases parsed
        split
        · rfl
        have isHead := head?_dropWhile_not (· != '/') (text.drop 7)
        cases path : (text.drop 7).dropWhile (· != '/') with
        | nil =>
          simp_all
        | cons char =>
          rw [path] at isHead
          simpa using isHead
      · cases parsed
    grind
  · intro text uri slash parsed
    have relative : ¬absoluteStart.isPrefixOf text = true := by
      cases text with
      | nil => simp at slash
      | cons char text =>
        cases slash
        exact Bool.false_ne_true
    grind [nameUris]

/-- A reader of requests that takes every head with a request target. -/
def readName (head : Bytes) : Option Request := do
  let text ← Utf8.decode head
  let requestTarget ← headTarget text
  let uri ← nameUris.parseUri requestTarget
  some ⟨uri, ((hostFields text).head?.map ("host".toList, ·)).toList⟩

theorem readName_eq_some {head : Bytes} (read : readName head = some request)
    (decoded : Utf8.decode head = some text) :
    ∃ requestTarget, headTarget text = some requestTarget ∧
      nameUris.parseUri requestTarget = some request.uri ∧
        request.headers = ((hostFields text).head?.map ("host".toList, ·)).toList := by
  obtain ⟨_, decoded', read⟩ := bind_eq_some_iff.mp read
  rw [decoded] at decoded'
  obtain ⟨requestTarget, _, read⟩ := bind_eq_some_iff.mp read
  obtain ⟨uri, _, read⟩ := bind_eq_some_iff.mp read
  grind

theorem readName_reads : ReadsHeads nameUris readName where
  target head request text requestTarget read decoded isTarget := by
    obtain ⟨_, isTarget', parsed, _⟩ := readName_eq_some read decoded
    rw [isTarget] at isTarget'
    cases isTarget'
    exact parsed
  host head request text read decoded := by
    obtain ⟨_, _, _, headers⟩ := readName_eq_some read decoded
    rw [Request.header, headers]
    cases (hostFields text).head? with
    | none | some => rfl

/-- A tunnel to a host `a`. -/
def nameTunnel : TunnelTarget := ⟨['a'], 80, false⟩

/-- A request of HTTP/1.1, and one of HTTP/1.0 without a Host header. -/
def hostRequest : List Char := "GET / HTTP/1.1\r\nHost: a\r\n\r\n".toList

def oldRequest : List Char := "GET / HTTP/1.0\r\n\r\n".toList

end SprakCapture.Control
