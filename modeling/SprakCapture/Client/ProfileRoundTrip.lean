import SprakCapture.Client.ProfilePackaging

/-!
# Profile round trip

A plaintext is a version, four fields behind their lengths and a port. The native validator and
the Kotlin decoder read the same layout that the packager writes; only the tests for addresses
are not the same.
-/

namespace SprakCapture.Client

open Data Data.IpText List Option Utf8 ProfileFields ProfileDecoder
open Checked (ok_bind)
open Text (isControl utf8Length)
open KotlinPlatform (digitsToInt parseIpv4Bytes isLiteral)

/-! ### The layout of a plaintext -/

/-- A value that a 16-bit length can stand in front of. -/
def Sized (value : List Char) : Prop :=
  1 ≤ (Utf8.encode value).length ∧ (Utf8.encode value).length ≤ 65535

/-- A value behind its length. -/
def fieldBytes (value : List Char) : Bytes :=
  u16ToBe (UInt16.ofNat (Utf8.encode value).length) ++ Utf8.encode value

namespace ProfileFields

structure AllSized (fields : ProfileFields) : Prop where
  host : Sized fields.host
  username : Sized fields.username
  password : Sized fields.password
  rulesUrl : Sized fields.rulesUrl

/-- The bytes of a plaintext. -/
def layout (fields : ProfileFields) : Bytes :=
  1 :: (fieldBytes fields.host ++ (u16ToBe fields.port ++ (fieldBytes fields.username ++
    (fieldBytes fields.password ++ (fieldBytes fields.rulesUrl ++ [])))))

end ProfileFields

variable {value : List Char}

theorem appendProfileField_eq_ok {output result : Bytes} {fieldName : String} :
    appendProfileField output value fieldName = .ok result ↔
      Sized value ∧ result = output ++ fieldBytes value := by
  grind [appendProfileField, Sized, fieldBytes]

variable {fields : ProfileFields}

/-- The packager writes the layout, and it fails only on a value that has no length. -/
theorem encodeProfilePlaintext_eq_ok {plaintext : Bytes} :
    encodeProfilePlaintext fields = .ok plaintext ↔
      fields.AllSized ∧ plaintext = fields.layout := by
  have written : ∀ {sized : fields.AllSized}, fields.layout =
      [1] ++ fieldBytes fields.host ++ u16ToBe fields.port ++ fieldBytes fields.username ++
        fieldBytes fields.password ++ fieldBytes fields.rulesUrl := by
    simp [layout]
  simp only [encodeProfilePlaintext, Checked.bind_eq_ok, appendProfileField_eq_ok]
  constructor
  · rintro ⟨_, ⟨host, rfl⟩, _, ⟨username, rfl⟩, _, ⟨password, rfl⟩, rulesUrl, rfl⟩
    have sized : fields.AllSized := ⟨host, username, password, rulesUrl⟩
    exact ⟨sized, (@written sized).symm⟩
  · rintro ⟨sized, rfl⟩
    exact ⟨_, ⟨sized.host, rfl⟩, _, ⟨sized.username, rfl⟩, _, ⟨sized.password, rfl⟩,
      sized.rulesUrl, @written sized⟩

/-! ### Reading the layout -/

theorem toNat_length (sized : Sized value) :
    (UInt16.ofNat (encode value).length).toNat = (encode value).length :=
  UInt16.toNat_ofNat_of_lt' (Nat.lt_of_le_of_lt sized.2 (by decide))

theorem readU16_u16ToBe (value : UInt16) (rest : Bytes) :
    readU16 (u16ToBe value ++ rest) = some (value, rest) :=
  congrArg (fun number => some (number, rest)) (u16FromBe_toBe value)

theorem readUnsignedShort_u16ToBe (value : UInt16) (rest : Bytes) (fieldName : String) :
    readUnsignedShort (u16ToBe value ++ rest) fieldName = .ok (value, rest) :=
  congrArg (fun number => Except.ok (number, rest)) (u16FromBe_toBe value)

theorem readProfileField_fieldBytes (sized : Sized value)
    (strict : isStrictUtf8 (encode value) = true) (rest : Bytes) :
    readProfileField (fieldBytes value ++ rest) = some (encode value, rest) := by
  have length := toNat_length sized
  have nonzero : UInt16.ofNat (encode value).length ≠ 0 := by
    intro zero
    rw [zero] at length
    have positive := sized.1
    grind
  rw [readProfileField, fieldBytes, append_assoc, readU16_u16ToBe]
  simp [length, strict, nonzero]

theorem readUtf8_fieldBytes (sized : Sized value) (rest : Bytes) (fieldName : String) :
    readUtf8 (fieldBytes value ++ rest) fieldName = .ok (value, rest) := by
  have length := toNat_length sized
  rw [readUtf8, fieldBytes, append_assoc, readUnsignedShort_u16ToBe, ok_bind]
  simp only [length, requireRemaining, length_append, Nat.le_add_right,
    take_left', drop_left', decode_encode]
  rfl

/-- The Kotlin side decodes the layout to its fields. -/
theorem decodeProfile_layout (sized : fields.AllSized) :
    decodeProfile fields.layout = .ok fields := by
  simp only [decodeProfile, layout, readUnsignedByte, ok_bind,
    ne_eq, not_true_eq_false, if_false, readUtf8_fieldBytes sized.host, readUnsignedShort_u16ToBe,
    readUtf8_fieldBytes sized.username, readUtf8_fieldBytes sized.password,
    readUtf8_fieldBytes sized.rulesUrl, if_true]

/-! ### What the validator accepts is a layout -/

theorem eq_of_readU16 {bytes rest : Bytes} {value : UInt16}
    (read : readU16 bytes = some (value, rest)) : bytes = u16ToBe value ++ rest := by
  cases bytes with
  | nil => cases read
  | cons high tail =>
    cases tail with
    | nil => cases read
    | cons low tail =>
      cases read
      have lowBound := low.toNat_lt
      have quotient : (high.toNat * 256 + low.toNat) / 256 = high.toNat := by omega
      have remainder : (high.toNat * 256 + low.toNat) % 256 = low.toNat := by omega
      rw [u16ToBe, toNat_u16FromBe, quotient, remainder, UInt8.ofNat_toNat, UInt8.ofNat_toNat]
      rfl

theorem eq_of_readProfileField {bytes field rest : Bytes}
    (read : readProfileField bytes = some (field, rest)) :
    ∃ value, field = encode value ∧ Sized value ∧ bytes = fieldBytes value ++ rest := by
  rw [readProfileField, bind_eq_bind, bind_eq_some_iff] at read
  obtain ⟨⟨length, _⟩, isLength, read⟩ := read
  dsimp only at read
  split at read
  · cases read
  next valid =>
    simp only [not_or, Bool.not_eq_true', Bool.not_eq_false, Nat.not_lt] at valid
    obtain ⟨nonzero, fits, strict⟩ := valid
    obtain ⟨value, isValue⟩ := exists_encode_of_isStrictUtf8 strict
    cases read
    have size : (encode value).length = length.toNat := by
      rw [isValue, length_take, Nat.min_eq_left fits]
    have positive : length.toNat ≠ 0 := fun zero => nonzero (UInt16.toNat_inj.mp zero)
    have bound := length.toNat_lt
    refine ⟨value, isValue.symm, ⟨by omega, by omega⟩, ?_⟩
    rw [eq_of_readU16 isLength, fieldBytes, size, UInt16.ofNat_toNat, isValue, append_assoc,
      take_append_drop]

variable {inet : InetPton}

theorem exists_layout_of_validatePlaintext {plaintext : Bytes}
    (valid : validatePlaintext inet plaintext = true) :
    ∃ fields : ProfileFields, fields.AllSized ∧ plaintext = fields.layout := by
  cases plaintext with
  | nil => cases valid
  | cons _ bytes =>
    rw [validatePlaintext, Bool.and_eq_true, beq_iff_eq] at valid
    obtain ⟨rfl, checked⟩ := valid
    cases read : readPlaintext bytes with
    | none => rw [read] at checked; cases checked
    | some fields =>
      simp only [readPlaintext, bind_eq_bind, bind_eq_some_iff, Prod.exists] at read
      obtain ⟨_, _, readHost, port, _, readPort, _, _, readUsername, _, _, readPassword, _, _,
        readRulesUrl, rest⟩ := read
      obtain ⟨host, _, hostSized, rfl⟩ := eq_of_readProfileField readHost
      have portBytes := eq_of_readU16 readPort
      obtain ⟨username, _, usernameSized, usernameBytes⟩ := eq_of_readProfileField readUsername
      obtain ⟨password, _, passwordSized, passwordBytes⟩ := eq_of_readProfileField readPassword
      obtain ⟨rulesUrl, _, rulesUrlSized, rulesUrlBytes⟩ := eq_of_readProfileField readRulesUrl
      split at rest
      · next empty =>
          refine ⟨⟨host, port, username, password, rulesUrl⟩,
            ⟨hostSized, usernameSized, passwordSized, rulesUrlSized⟩, ?_⟩
          rw [layout, portBytes, usernameBytes, passwordBytes, rulesUrlBytes, empty]
      · cases rest

/-- An accepted plaintext is the encoding of exactly one tuple of fields, the decoded one. -/
theorem existsUnique_of_validatePlaintext {plaintext : Bytes}
    (valid : validatePlaintext inet plaintext = true) :
    ∃ fields, decodeProfile plaintext = .ok fields ∧
      ∀ other, encodeProfilePlaintext other = .ok plaintext ↔ other = fields := by
  obtain ⟨fields, sized, rfl⟩ := exists_layout_of_validatePlaintext valid
  refine ⟨fields, decodeProfile_layout sized, fun other => ?_⟩
  rw [encodeProfilePlaintext_eq_ok]
  constructor
  · rintro ⟨otherSized, _⟩
    grind [decodeProfile_layout]
  · rintro rfl
    exact ⟨sized, rfl⟩

/-! ### Address tests of the two sides -/

/-- The rules URL that the packager demands, at a port. -/
def rulesUrlText (port : UInt16) : List Char :=
  "http".toList ++ "://".toList ++ rulesAuthorityHost ++ ':' :: IpAddr.decimal port.toNat ++ rulesPath

/-- What is documented of the Kotlin platform: decimal digits and white space in ASCII, that
`InetAddress.getByName` gives an IPv6 address for the text of one unless it stands for an IPv4
address, and how `java.net.URI` takes a rules URL apart. -/
structure KotlinPlatform.Documented (platform : KotlinPlatform) : Prop where
  digit : ∀ char, char.toNat < 128 →
    platform.digit char = if char.isDigit then some (char.toNat - 48) else none
  isInet6 : ∀ text groups, parseIpv6 text = some groups →
    platform.isInet6 text = !isIpv4Mapped groups
  isWhitespace : ∀ char, 33 ≤ char.toNat → char.toNat ≤ 126 → platform.isWhitespace char = false
  uri : ∀ port, port ≠ 0 → platform.uri (rulesUrlText port) =
    .ok
      { scheme := some "http".toList
        host := some rulesAuthorityHost
        rawUserInfo := none
        rawFragment := none
        port := port.toNat }

section Literals

variable {platform : KotlinPlatform} {text : List Char}

section

variable (documented : platform.Documented)
include documented

/-- A decimal part of the strict form is a number for the Kotlin side. -/
theorem digitsToInt_of_parseOctet {digits : List Char} (octet : (parseOctet digits).isSome) :
    ∃ value, platform.digitsToInt digits = some value ∧ value ≤ 255 := by
  have range := (shape_parseOctet octet).2
  have decimal : ∀ char ∈ digits, char.isDigit = true := by
    intro char member
    exact Char.isDigit_iff_toNat.mpr (by simpa using range char member)
  have values : digits.mapM platform.digit = some (digits.map (·.toNat - 48)) := by
    refine Text.mapM_eq_some_map fun char member => ?_
    have ascii : char.toNat < 128 := by
      have digit := range char member
      omega
    rw [documented.digit char ascii, if_pos (decimal char member)]
  have value : (digits.map (·.toNat - 48)).foldl (fun value digit => value * 10 + digit) 0 =
      Nat.ofDigitChars 10 digits 0 := by
    rw [foldl_map, Nat.ofDigitChars_eq_foldl]
    simp only [Nat.mul_comm 10]
    rfl
  have small : Nat.ofDigitChars 10 digits 0 < 256 := by
    grind [parseOctet]
  refine ⟨_, ?_, Nat.le_of_lt_succ small⟩
  have fits : Nat.ofDigitChars 10 digits 0 < 2 ^ 31 := Nat.lt_trans small (by decide)
  rw [digitsToInt, values, bind_eq_bind, bind_some]
  rw [value, if_pos fits]

theorem parseIpv4Bytes_of_parseIpv4 (address : (parseIpv4 text).isSome) :
    (platform.parseIpv4Bytes text).isSome := by
  obtain ⟨count, octets⟩ := pieces_of_parseIpv4 address
  rw [parseIpv4Bytes]
  rw [if_neg (not_not.mpr count), @Text.mapM_eq_some_map _ _ _ _ fun octet =>
    (platform.digitsToInt octet).getD 0]
  · rfl
  intro octet member
  have parsed := octets octet member
  obtain ⟨_, isValue, small⟩ := digitsToInt_of_parseOctet documented parsed
  rw [parseOctet] at parsed
  split at parsed
  · next conditions =>
      obtain ⟨nonempty, _, _, noZero, _⟩ := conditions
      have plain : (octet.isEmpty || (1 < octet.length && octet.head? == some '0')) = false := by
        rcases noZero with one | other
        · simp [nonempty, one]
        · simp [nonempty, other]
      rw [plain, isValue]
      simp [small]
  · cases parsed

theorem parseIpv4Bytes_of_colon (colon : ':' ∈ text) :
    platform.parseIpv4Bytes text = none := by
  have noDigit : platform.digit ':' = none := documented.digit ':' (by decide)
  rw [parseIpv4Bytes]
  split
  · rfl
  rcases @Text.exists_mem_splitOnP _ (· == '.') _ _ colon with dot | ⟨piece, member, inside⟩
  · exact absurd dot (by decide)
  refine Text.mapM_eq_none ⟨piece, member, ?_⟩
  split
  · rfl
  · rw [digitsToInt, Text.mapM_eq_none ⟨':', inside, noDigit⟩]
    rfl

/-- Of the addresses that the packager parses, the Kotlin side rejects those in IPv6 form that
stand for IPv4 addresses. -/
theorem isLiteral_of_parse {host : List Char} {address : IpAddr}
    (parsed : IpAddr.parse host = some address) :
    platform.isLiteral host = !(parseIpv6 host).any isIpv4Mapped := by
  rw [IpAddr.parse] at parsed
  cases v4 : parseIpv4 host with
  | some =>
    have isV4 : (parseIpv4 host).isSome := by rw [v4]; rfl
    have noColon : parseIpv6 host = none := by
      cases v6 : parseIpv6 host with
      | none => rfl
      | some groups =>
        rcases chars_of_parseIpv4 isV4 ':' (colon_of_parseIpv6 v6) with dot | digit
        · exact absurd dot (by decide)
        · exact absurd digit.2 (by decide)
    rw [isLiteral, parseIpv4Bytes_of_parseIpv4 documented isV4, noColon]
    rfl
  | none =>
    rw [v4] at parsed
    obtain ⟨groups, v6, _⟩ := map_eq_some_iff.mp parsed
    have colon := colon_of_parseIpv6 v6
    have noPercent : '%' ∉ host := by
      intro member
      have allowed := (shape_isIpv6Text (show isIpv6Text host = true by
        rw [isIpv6Text, v6]; rfl)).2.2 '%' member
      exact absurd allowed (by decide)
    rw [isLiteral, parseIpv4Bytes_of_colon documented colon, v6, documented.isInet6 host groups v6]
    simp [colon, noPercent]

end

end Literals

/-! ### What an accepted request promises -/

/-- A credential of a request: 1 to 255 bytes, no control characters. -/
structure Credential (value : List Char) : Prop where
  nonempty : value ≠ []
  short : (Utf8.encode value).length ≤ 255
  plain : value.any isControl = false

structure CheckedRequest (request : ClientTemplateRequest) : Prop where
  username : Credential request.username
  password : Credential request.password
  address : ∃ address, IpAddr.parse request.nodeHost = some address
  rulesUrl : ∃ port, port ≠ 0 ∧ request.rulesUrl = rulesUrlText port
  shortUrl : (Utf8.encode request.rulesUrl).length ≤ 2048

theorem credential_of_validate {name : String} (valid : validateCredential name value = .ok ()) :
    Credential value := by
  rw [validateCredential] at valid
  split at valid
  · cases valid
  split at valid
  · cases valid
  next size plain =>
    simp only [Bool.or_eq_true, decide_eq_true_eq, not_or, List.isEmpty_iff, Nat.not_lt] at size
    exact ⟨size.1, by rw [length_encode]; exact size.2, by simpa using plain⟩

theorem rulesUrl_of_validate {urls : UrlParser} {rulesUrl : List Char}
    (valid : validateRulesUrl urls rulesUrl = .ok ()) :
    (∃ port, port ≠ 0 ∧ rulesUrl = rulesUrlText port) ∧ (encode rulesUrl).length ≤ 2048 := by
  rw [validateRulesUrl] at valid
  split at valid
  · cases valid
  next parsed isParsed =>
    split at valid
    · next conditions =>
        obtain ⟨_, scheme, host, port, path, query, fragment, username, password, same⟩ :=
          conditions
        obtain ⟨number, isNumber, nonzero⟩ := Option.any_eq_true _ _ |>.mp port
        refine ⟨⟨number, by simpa using nonzero, ?_⟩, by rwa [length_encode]⟩
        have text := urls.serialized rulesUrl parsed _ number isParsed host isNumber username
          password query fragment
        rw [← same, text, scheme, path]
        rfl
    · cases valid

theorem CheckedRequest.of_validate {urls : UrlParser} {isFile : String → Bool}
    {request : ClientTemplateRequest} (valid : validateRequest urls isFile request = .ok ()) :
    CheckedRequest request := by
  rw [validateRequest] at valid
  split at valid
  · cases valid
  split at valid
  · cases valid
  split at valid
  · cases valid
  simp only [Checked.bind_eq_ok] at valid
  obtain ⟨_, username, _, password, _, _, _, rulesUrl, _⟩ := valid
  obtain ⟨isRulesUrl, shortUrl⟩ := rulesUrl_of_validate rulesUrl
  refine ⟨credential_of_validate username, credential_of_validate password, ?_, isRulesUrl, shortUrl⟩
  grind [validateNodeHost]

/-- The texts of addresses are short, and `inet_pton` accepts them. -/
theorem shape_of_parse (inet : InetPton) {host : List Char} {address : IpAddr}
    (parsed : IpAddr.parse host = some address) :
    (host ≠ [] ∧ ∀ char ∈ host, isAddressChar char = true) ∧ inet.accepts (encode host) = true := by
  rw [IpAddr.parse] at parsed
  cases v4 : parseIpv4 host with
  | some dotted =>
    have shape := shape_parseIpv4 (by rw [v4]; rfl)
    refine ⟨⟨shape.1, shape.2.2⟩, ?_⟩
    rw [InetPton.accepts, inet.v4_strict host dotted v4]
    rfl
  | none =>
    rw [v4] at parsed
    obtain ⟨_, v6, _⟩ := map_eq_some_iff.mp parsed
    have isText : isIpv6Text host = true := by
      rw [isIpv6Text, v6]
      rfl
    have shape := shape_isIpv6Text isText
    refine ⟨⟨shape.1, shape.2.2⟩, ?_⟩
    rw [InetPton.accepts, inet.v6_text host isText, Bool.or_true]

theorem Credential.sized (credential : Credential value) : Sized value := by
  have short := credential.short
  refine ⟨?_, by omega⟩
  exact length_pos_iff.mpr fun empty => credential.nonempty (encode_injective empty)

theorem Credential.strict (credential : Credential value) :
    isStrictUtf8 (encode value) = true := by
  refine isStrictUtf8_encode fun char member => ?_
  have noControl := List.any_eq_false.mp credential.plain char member
  simp [isControl] at noControl
  omega

variable (port : UInt16)

-- The generated equation compares the literals by evaluation.
theorem rulesUrlText_eq : rulesUrlText port =
    "http".toList ++ "://".toList ++ rulesAuthorityHost ++
      ':' :: IpAddr.decimal port.toNat ++ rulesPath := by
  delta rulesUrlText
  rfl

theorem printable_rulesUrlText :
    ∀ char ∈ rulesUrlText port, 33 ≤ char.toNat ∧ char.toNat ≤ 126 := by
  have digits : ∀ char ∈ IpAddr.decimal port.toNat, 33 ≤ char.toNat ∧ char.toNat ≤ 126 := by
    intro char member
    have isDigits : IpAddr.decimal port.toNat = Nat.toDigits 10 port.toNat := Nat.toList_repr
    rw [isDigits] at member
    have digit : 48 ≤ char.toNat ∧ char.toNat ≤ 57 := by
      simpa using Char.isDigit_iff_toNat.mp
        (Nat.isDigit_of_mem_toDigits (by decide) (by decide) member)
    omega
  have front : ("http".toList ++ "://".toList ++ rulesAuthorityHost).all
      (fun char => 33 ≤ char.toNat ∧ char.toNat ≤ 126) = true := by decide
  have path : rulesPath.all (fun char => 33 ≤ char.toNat ∧ char.toNat ≤ 126) = true := by decide
  rw [rulesUrlText_eq, forall_mem_append, forall_mem_append, forall_mem_cons]
  refine ⟨⟨fun char member => ?_, by decide, digits⟩, fun char member => ?_⟩
  · simpa using List.all_eq_true.mp front char member
  · simpa using List.all_eq_true.mp path char member

theorem prefix_rulesUrlText :
    (message "http://").isPrefixOf (encode (rulesUrlText port)) = true := by
  rw [List.isPrefixOf_iff_prefix]
  have split : rulesUrlText port = "http://".toList ++
      (rulesAuthorityHost ++ ':' :: IpAddr.decimal port.toNat ++ rulesPath) := by
    simp [rulesUrlText_eq]
  rw [split]
  exact prefix_append _ _

/-! ### From a request to a profile -/

namespace CheckedRequest

variable {request : ClientTemplateRequest}

/-- The fields of an accepted request have the sizes and the contents that the readers demand. -/
structure FieldShape (inet : InetPton) (fields : ProfileFields) : Prop where
  sized : fields.AllSized
  shortHost : (Utf8.encode fields.host).length ≤ 45
  shortUsername : (Utf8.encode fields.username).length ≤ 255
  shortPassword : (Utf8.encode fields.password).length ≤ 255
  shortRulesUrl : (Utf8.encode fields.rulesUrl).length ≤ 2048
  strictHost : isStrictUtf8 (Utf8.encode fields.host) = true
  strictUsername : isStrictUtf8 (Utf8.encode fields.username) = true
  strictPassword : isStrictUtf8 (Utf8.encode fields.password) = true
  strictRulesUrl : isStrictUtf8 (Utf8.encode fields.rulesUrl) = true
  accepted : inet.accepts (Utf8.encode fields.host) = true
  isHttp : (message "http://").isPrefixOf (Utf8.encode fields.rulesUrl) = true

theorem fieldShape (inet : InetPton) (checked : CheckedRequest request) :
    FieldShape inet request.fields := by
  obtain ⟨address, parsed⟩ := checked.address
  obtain ⟨⟨_, hostChars⟩, accepted⟩ := shape_of_parse inet parsed
  obtain ⟨hostBytes, hostShort, _⟩ := inet.shape (encode request.nodeHost) (by
    simpa only [InetPton.accepts, Bool.or_eq_true] using accepted)
  obtain ⟨port, _, isRulesUrl⟩ := checked.rulesUrl
  have shortUrl := checked.shortUrl
  have isHttp := prefix_rulesUrlText port
  have urlBytes : encode request.rulesUrl ≠ [] := by
    rw [isRulesUrl]
    intro empty
    rw [empty] at isHttp
    exact absurd isHttp (by decide)
  exact
    { sized :=
        { host := ⟨length_pos_iff.mpr hostBytes, Nat.le_trans hostShort (by decide)⟩
          username := checked.username.sized
          password := checked.password.sized
          rulesUrl := ⟨length_pos_iff.mpr urlBytes, Nat.le_trans shortUrl (by decide)⟩ }
      shortHost := hostShort
      shortUsername := checked.username.short
      shortPassword := checked.password.short
      shortRulesUrl := shortUrl
      strictHost := isStrictUtf8_encode fun char member => by
        have allowed := hostChars char member
        simp [isAddressChar, isAddressCode] at allowed
        omega
      strictUsername := checked.username.strict
      strictPassword := checked.password.strict
      strictRulesUrl := by
        refine isStrictUtf8_encode fun char member => ?_
        change char ∈ request.rulesUrl at member
        rw [isRulesUrl] at member
        have printable := printable_rulesUrlText port char member
        omega
      accepted := accepted
      isHttp := by
        change (message "http://").isPrefixOf (encode request.rulesUrl) = true
        rw [isRulesUrl]
        exact isHttp }

theorem length_fieldBytes (value : List Char) :
    (fieldBytes value).length = 2 + (encode value).length := by
  rw [fieldBytes, length_append, length_u16ToBe]

theorem FieldShape.length_layout (shape : FieldShape inet fields) :
    1 ≤ fields.layout.length ∧ fields.layout.length ≤ maximumPlaintextSize := by
  have host := shape.shortHost
  have username := shape.shortUsername
  have password := shape.shortPassword
  have rulesUrl := shape.shortRulesUrl
  grind [layout, maximumPlaintextSize, length_fieldBytes, length_u16ToBe]

theorem FieldShape.validatePlaintext (shape : FieldShape inet fields) (nonzero : fields.port ≠ 0) :
    validatePlaintext inet fields.layout = true := by
  have host := shape.shortHost
  have read : readPlaintext (fieldBytes fields.host ++ (u16ToBe fields.port ++
      (fieldBytes fields.username ++ (fieldBytes fields.password ++
        (fieldBytes fields.rulesUrl ++ []))))) =
      some (encode fields.host, fields.port, encode fields.username,
        encode fields.password, encode fields.rulesUrl) := by
    simp only [readPlaintext, readProfileField_fieldBytes shape.sized.host shape.strictHost,
      readU16_u16ToBe, readProfileField_fieldBytes shape.sized.username shape.strictUsername,
      readProfileField_fieldBytes shape.sized.password shape.strictPassword,
      readProfileField_fieldBytes shape.sized.rulesUrl shape.strictRulesUrl, bind_eq_bind,
      bind_some, if_true]
  have hostBytes : encode fields.host ≠ [] := length_pos_iff.mp shape.sized.host.1
  rw [layout, Client.validatePlaintext, read]
  have fits : (encode fields.host).length ≤ 253 := by omega
  have inBuffer : (encode fields.host).length < 46 := by omega
  simp [isIpLiteral, fits, inBuffer, hostBytes, nonzero, shape.shortUsername, shape.shortPassword,
    shape.shortRulesUrl, shape.isHttp, shape.accepted]

end CheckedRequest

/-! ### The container -/

section Container

variable {nonce plaintext cipher tag : Bytes}

/-- The header that the packager writes. -/
def containerHeader (nonce plaintext : Bytes) : Bytes :=
  containerMagic ++ [1, 1, 0, 0] ++ nonce ++ u32ToBe (UInt32.ofNat plaintext.length)

theorem length_containerHeader (nonceSize : nonce.length = 24) :
    (containerHeader nonce plaintext).length = headerSize := by
  have magic : containerMagic.length = 8 := by decide
  simp [containerHeader, magic, nonceSize, headerSize]

/-- The container of a packager passes the header and size checks. -/
theorem checkContainer_containerHeader (nonceSize : nonce.length = 24)
    (cipherSize : cipher.length = plaintext.length) (tagLength : tag.length = tagSize)
    (nonempty : 1 ≤ plaintext.length) (small : plaintext.length ≤ maximumPlaintextSize) :
    checkContainer (containerHeader nonce plaintext ++ cipher ++ tag) = .ok plaintext.length := by
  have header := @length_containerHeader _ plaintext nonceSize
  have bound : plaintext.length < 2 ^ 32 := Nat.lt_of_le_of_lt small (by decide)
  have number : (UInt32.ofNat plaintext.length).toNat = plaintext.length :=
    UInt32.toNat_ofNat_of_lt' bound
  have size : (containerHeader nonce plaintext ++ cipher ++ tag).length =
      headerSize + plaintext.length + tagSize := by
    grind
  have front : containerHeader nonce plaintext ++ cipher ++ tag =
      containerMagic ++ ([1, 1, 0, 0] ++ (nonce ++
        (u32ToBe (UInt32.ofNat plaintext.length) ++ (cipher ++ tag)))) := by
    simp [containerHeader]
  have magic : (containerHeader nonce plaintext ++ cipher ++ tag).take 8 = containerMagic := by
    rw [front]
    exact take_left' (by decide)
  have bytes : ∀ index, (containerHeader nonce plaintext ++ cipher ++ tag)[8 + index]? =
      ([1, 1, 0, 0] ++ (nonce ++
        (u32ToBe (UInt32.ofNat plaintext.length) ++ (cipher ++ tag))))[index]? := by
    intro index
    rw [front, getElem?_append_right (Nat.le_add_right 8 index)]
    congr 1
    exact Nat.add_sub_cancel_left 8 index
  have read : readU32 (containerHeader nonce plaintext ++ cipher ++ tag) 36 =
      some (UInt32.ofNat plaintext.length) := by
    have dropped : (containerHeader nonce plaintext ++ cipher ++ tag).drop 36 =
        u32ToBe (UInt32.ofNat plaintext.length) ++ (cipher ++ tag) := by
      have regrouped : containerHeader nonce plaintext ++ cipher ++ tag =
          (containerMagic ++ [1, 1, 0, 0] ++ nonce) ++
            (u32ToBe (UInt32.ofNat plaintext.length) ++ (cipher ++ tag)) := by
        simp [containerHeader]
      have magicSize : containerMagic.length = 8 := by decide
      rw [regrouped]
      exact drop_left' (by simp [magicSize, nonceSize])
    rw [readU32, dropped]
    exact congrArg some (u32FromBe_toBe _)
  have nonzero : UInt32.ofNat plaintext.length ≠ 0 := by
    intro zero
    rw [zero] at number
    exact absurd number.symm (Nat.ne_of_gt nonempty)
  rw [checkContainer, if_neg]
  · grind
  have version := bytes 0
  have algorithm := bytes 1
  have reserved := bytes 2
  have reservedNext := bytes 3
  rw [size, magic, version, algorithm, reserved, reservedNext]
  have tooLong : ¬headerSize + maximumPlaintextSize + tagSize <
      headerSize + plaintext.length + tagSize := by omega
  have tooShort : ¬headerSize + plaintext.length + tagSize < headerSize + tagSize := by omega
  simp [tooLong]

end Container

theorem decryptProfile_encryptProfile (aead : Aead) {request : ClientTemplateRequest}
    {key nonce : Bytes} (nonceSize : nonce.length = 24) (nonzero : request.nodePort ≠ 0)
    (host : encode request.nodeHost ≠ [] ∧ (encode request.nodeHost).length ≤ 253 ∧
      request.nodeHost.any isControl = false)
    (shape : CheckedRequest.FieldShape inet request.fields) :
    ∃ container, encryptProfile aead key nonce request = .ok container ∧
      checkContainer container = .ok request.fields.layout.length ∧
      (key.any (· != 0) = true →
        decryptProfile inet aead key container = .ok request.fields.layout) := by
  obtain ⟨nonempty, small⟩ := shape.length_layout
  have encoded : encodeProfilePlaintext request.fields = .ok request.fields.layout :=
    encodeProfilePlaintext_eq_ok.mpr ⟨shape.sized, rfl⟩
  have notLong : ¬2 ^ 32 ≤ request.fields.layout.length :=
    Nat.not_le_of_lt (Nat.lt_of_le_of_lt small (by decide))
  have cipherSize := aead.length_cipher key nonce
    (containerHeader nonce request.fields.layout) request.fields.layout
  have tagLength := aead.length_tag key nonce
    (containerHeader nonce request.fields.layout) request.fields.layout
  have unlocked := aead.unlock_lock key nonce
    (containerHeader nonce request.fields.layout) request.fields.layout
  generalize isLocked : aead.lock key nonce (containerHeader nonce request.fields.layout)
    request.fields.layout = locked at cipherSize tagLength unlocked
  obtain ⟨cipher, tag⟩ := locked
  have checked := checkContainer_containerHeader nonceSize cipherSize tagLength nonempty small
  refine ⟨containerHeader nonce request.fields.layout ++ cipher ++ tag, ?_, checked, fun filled => ?_⟩
  · rw [encryptProfile]
    rw [if_neg (by
      simp only [host.1, host.2.2, maximumNodeHostBytes, Nat.not_lt_of_le host.2.1]
      decide), if_neg nonzero, encoded, ok_bind, if_neg notLong]
    change Except.ok (containerHeader nonce request.fields.layout ++
      (aead.lock key nonce (containerHeader nonce request.fields.layout)
        request.fields.layout).1 ++ (aead.lock key nonce
          (containerHeader nonce request.fields.layout) request.fields.layout).2) = _
    rw [isLocked]
  · have header := @length_containerHeader _ request.fields.layout nonceSize
    have unfilled : key.all (· == 0) = false := by
      simp_all
    have noncePart : ((containerHeader nonce request.fields.layout ++ cipher ++ tag).drop 12).take 24
        = nonce := by
      have regrouped : containerHeader nonce request.fields.layout ++ cipher ++ tag =
          (containerMagic ++ [1, 1, 0, 0]) ++ (nonce ++
            (u32ToBe (UInt32.ofNat request.fields.layout.length) ++ (cipher ++ tag))) := by
        simp [containerHeader]
      rw [regrouped, drop_left' (by decide), take_left' nonceSize]
    have headerPart : (containerHeader nonce request.fields.layout ++ cipher ++ tag).take headerSize
        = containerHeader nonce request.fields.layout := by
      rw [append_assoc, take_left' header]
    have cipherPart : ((containerHeader nonce request.fields.layout ++ cipher ++ tag).drop
        headerSize).take request.fields.layout.length = cipher := by
      simp_all
    have tagPart : ((containerHeader nonce request.fields.layout ++ cipher ++ tag).drop
        (headerSize + request.fields.layout.length)).take tagSize = tag := by
      rw [drop_left' (by rw [length_append, header, cipherSize]), ← tagLength, take_length]
    rw [decryptProfile, checked, ok_bind, unfilled]
    dsimp only
    rw [if_neg Bool.false_ne_true, noncePart, headerPart, cipherPart, tagPart, unlocked]
    dsimp only
    rw [shape.validatePlaintext nonzero, if_pos rfl]

/-! ### The profile on the Kotlin side -/

/-- The decoded profile passes its check exactly when the host is no IPv6 text that stands for
an IPv4 address. -/
theorem validate_toProfile_iff {platform : KotlinPlatform} (documented : platform.Documented)
    {request : ClientTemplateRequest} (checked : CheckedRequest request)
    (nonzero : request.nodePort ≠ 0) :
    request.fields.toProfile.validate platform = .ok () ↔
      (parseIpv6 request.nodeHost).any isIpv4Mapped = false := by
  obtain ⟨address, parsed⟩ := checked.address
  have literal := isLiteral_of_parse documented parsed
  obtain ⟨⟨hostChars, hostAddress⟩, _⟩ := shape_of_parse strictInetPton parsed
  have notBlank : request.nodeHost.all platform.isWhitespace = false := by
    obtain ⟨first, _, isHost⟩ := exists_cons_of_ne_nil hostChars
    have allowed := hostAddress first (by rw [isHost]; exact mem_cons_self)
    simp [isAddressChar, isAddressCode] at allowed
    rw [isHost, all_cons, documented.isWhitespace first (by omega) (by omega), Bool.false_and]
  have positive : request.nodePort.toNat ≠ 0 := fun zero => nonzero (UInt16.toNat_inj.mp zero)
  have bound := request.nodePort.toNat_lt
  have node : request.fields.toProfile.node.validate platform = .ok () ↔
      (parseIpv6 request.nodeHost).any isIpv4Mapped = false := by
    change (if request.nodeHost.all platform.isWhitespace then _
      else if !platform.isLiteral request.nodeHost then _
      else if (request.nodePort.toNat : Int) < 1 ∨ 65535 < (request.nodePort.toNat : Int) then _
      else Except.ok ()) = Except.ok () ↔ _
    grind
  have credentials : request.fields.toProfile.credentials.validate = .ok () := by
    have usernameSize := checked.username.sized.1
    have passwordSize := checked.password.sized.1
    have usernameShort := checked.username.short
    have passwordShort := checked.password.short
    rw [length_encode] at usernameSize passwordSize usernameShort passwordShort
    change (if utf8Length request.username < 1 ∨ 255 < utf8Length request.username then _
      else if utf8Length request.password < 1 ∨ 255 < utf8Length request.password then _
      else if request.username.any isControl || request.password.any isControl then _
      else Except.ok ()) = Except.ok ()
    grind [checked.username.plain, checked.password.plain]
  have uri : (platform.uri request.fields.toProfile.rulesUrl >>= validateRulesUri platform) =
      .ok () := by
    obtain ⟨port, portNonzero, isRulesUrl⟩ := checked.rulesUrl
    have portPositive : port.toNat ≠ 0 := fun zero => portNonzero (UInt16.toNat_inj.mp zero)
    have portBound := port.toNat_lt
    have host : rulesAuthorityHost.all platform.isWhitespace = false := by
      have first : rulesAuthorityHost = 'c' :: rulesAuthorityHost.tail := by decide
      rw [first, all_cons, documented.isWhitespace 'c' (by decide) (by decide), Bool.false_and]
    have ascii : (rulesAuthorityHost.any fun char => char.toNat < 33 || 126 < char.toNat) = false := by
      decide
    have inRange : ¬((port.toNat : Int) < -1 ∨ 65535 < (port.toNat : Int) ∨
        (port.toNat : Int) = 0) := by
      omega
    change (platform.uri request.rulesUrl >>= validateRulesUri platform) = .ok ()
    rw [isRulesUrl, documented.uri port portNonzero, ok_bind, validateRulesUri]
    dsimp only
    rw [host, if_neg inRange]
    rfl
  rw [← node, EmbeddedClientProfile.validate]
  constructor
  · intro valid
    obtain ⟨⟨⟩, nodeValid, _⟩ := Checked.bind_eq_ok.mp valid
    exact nodeValid
  · intro nodeValid
    rw [nodeValid, credentials]
    exact uri

/-! ### The round trip -/

/-- A request goes through all three programs: its plaintext is small and validated, its
container is opened to the plaintext by every key that fills the slot, and the Kotlin side gets
the profile of the request. -/
def PackagedRoundTrip (inet : InetPton) (platform : KotlinPlatform) (aead : Aead)
    (request : ClientTemplateRequest) : Prop :=
  ∃ plaintext, encodeProfilePlaintext request.fields = .ok plaintext ∧ plaintext.length ≤ 4096 ∧
    (∀ (key : Octets 32) (nonce : Octets 24), ∃ container,
      encryptProfile aead key.bytes nonce.bytes request = .ok container ∧
        checkContainer container = .ok plaintext.length ∧
        (key.bytes.any (· != 0) = true →
          decryptProfile inet aead key.bytes container = .ok plaintext)) ∧
    validatePlaintext inet plaintext = true ∧
    parseDecrypted platform plaintext = .ok request.fields.toProfile

/-- Every accepted request goes through, except that the Kotlin side rejects a host in IPv6 form
that stands for an IPv4 address. An accepted plaintext is the encoding of exactly one tuple of
fields. -/
theorem packagedProfile_roundTrip (inet : InetPton) (platform : KotlinPlatform) (urls : UrlParser)
    (aead : Aead) (isFile : String → Bool) (documented : platform.Documented) :
    (∀ request, validateRequest urls isFile request = .ok () → request.nodePort ≠ 0 →
      (PackagedRoundTrip inet platform aead request ↔
        (parseIpv6 request.nodeHost).any isIpv4Mapped = false)) ∧
    ∀ plaintext, validatePlaintext inet plaintext = true →
      ∃ fields, decodeProfile plaintext = .ok fields ∧
        ∀ other, encodeProfilePlaintext other = .ok plaintext ↔ other = fields := by
  refine ⟨fun request valid nonzero => ?_, fun plaintext => existsUnique_of_validatePlaintext⟩
  have checked := CheckedRequest.of_validate valid
  have shape := checked.fieldShape inet
  have profile := validate_toProfile_iff documented checked nonzero
  have encoded : encodeProfilePlaintext request.fields = .ok request.fields.layout :=
    encodeProfilePlaintext_eq_ok.mpr ⟨shape.sized, rfl⟩
  have parsed : parseDecrypted platform request.fields.layout = .ok request.fields.toProfile ↔
      request.fields.toProfile.validate platform = .ok () := by
    rw [parseDecrypted, decodeProfile_layout shape.sized, ok_bind]
    constructor
    · intro done
      obtain ⟨⟨⟩, validated, _⟩ := Checked.bind_eq_ok.mp done
      exact validated
    · intro validated
      rw [validated]
      rfl
  constructor
  · rintro ⟨plaintext, _, _, _, _, done⟩
    simp_all
  · intro notMapped
    obtain ⟨address, isAddress⟩ := checked.address
    obtain ⟨⟨_, hostChars⟩, _⟩ := shape_of_parse inet isAddress
    have hostShort := shape.shortHost
    have hostPlain : request.nodeHost.any isControl = false := by
      rw [List.any_eq_false]
      intro char member
      have allowed := hostChars char member
      simp [isAddressChar, isAddressCode] at allowed
      simp [isControl]
      omega
    have host : Utf8.encode request.nodeHost ≠ [] ∧ (Utf8.encode request.nodeHost).length ≤ 253 ∧
        request.nodeHost.any isControl = false :=
      ⟨length_pos_iff.mp shape.sized.host.1, Nat.le_trans hostShort (by decide), hostPlain⟩
    exact ⟨request.fields.layout, encoded, shape.length_layout.2,
      fun _ nonce => decryptProfile_encryptProfile aead nonce.width nonzero host shape,
      shape.validatePlaintext nonzero, parsed.mpr (profile.mpr notMapped)⟩

/-! ### Two requests -/

/-- A rules URL taken apart, and the port in it. -/
def rulesUrlPort (text : List Char) : Option Nat :=
  let front := "http://".toList ++ rulesAuthorityHost ++ [':']
  let rest := text.drop front.length
  let digits := rest.takeWhile Char.isDigit
  if front.isPrefixOf text ∧ rest.dropWhile Char.isDigit = rulesPath then
    fromChars (Utf8.encode digits)
  else none

/-- A platform that knows rules URLs only. -/
def packagePlatform : KotlinPlatform where
  digit char := if char.isDigit then some (char.toNat - 48) else none
  isInet6 text := (parseIpv6 text).any fun groups => !isIpv4Mapped groups
  isWhitespace := Text.isWhitespace
  uri text :=
    match rulesUrlPort text with
    | some port =>
      .ok
        { scheme := some "http".toList
          host := some rulesAuthorityHost
          rawUserInfo := none
          rawFragment := none
          port := port }
    | none => .error "Expected authority"

theorem rulesUrlPort_rulesUrlText :
    rulesUrlPort (rulesUrlText port) = some port.toNat := by
  have isDigits : IpAddr.decimal port.toNat = Nat.toDigits 10 port.toNat := Nat.toList_repr
  have decimal : ∀ char ∈ Nat.toDigits 10 port.toNat, char.isDigit = true :=
    fun _ member => Nat.isDigit_of_mem_toDigits (by decide) (by decide) member
  have split : rulesUrlText port = ("http://".toList ++ rulesAuthorityHost ++ [':']) ++
      (Nat.toDigits 10 port.toNat ++ rulesPath) := by
    simp [rulesUrlText_eq, isDigits]
  have front : rulesPath.takeWhile Char.isDigit = [] := by
    rfl
  have back : rulesPath.dropWhile Char.isDigit = rulesPath := by
    rfl
  have bound := port.toNat_lt
  rw [rulesUrlPort, split]
  rw [drop_left' rfl, takeWhile_append_of_pos decimal, dropWhile_append_of_pos decimal,
    front, back, append_nil, fromChars_toDigits (by omega)]
  simp

theorem packagePlatform_documented : packagePlatform.Documented where
  digit char _ := rfl
  isInet6 text groups parsed := by
    change (parseIpv6 text).any _ = _
    rw [parsed]
    rfl
  isWhitespace char low high := by
    change Text.isWhitespace char = false
    simp [Text.isWhitespace]
    omega
  uri port _ := by
    change (match rulesUrlPort (rulesUrlText port) with | some port => _ | none => _) = _
    rw [rulesUrlPort_rulesUrlText]

/-- A parser that knows one rules URL. -/
def packageUrls : UrlParser where
  parse text :=
    if text = rulesUrlText 12580 then
      some
        { scheme := "http".toList
          username := []
          password := none
          host := some rulesAuthorityHost
          port := some 12580
          path := rulesPath
          query := none
          fragment := none
          asStr := rulesUrlText 12580 }
    else none
  serialized text url host port parsed isHost isPort _ _ _ _ := by
    split at parsed
    · cases parsed
      cases isHost
      cases isPort
      rfl
    · cases parsed

/-- A stand-in for the cipher that changes nothing and has an empty tag. -/
def plainAead : Aead where
  lock _ _ _ plaintext := (plaintext, List.replicate tagSize 0)
  unlock _ _ _ cipher _ := some cipher
  length_cipher _ _ _ _ := rfl
  length_tag _ _ _ _ := rfl
  unlock_lock _ _ _ _ := rfl

def packageRequest (nodeHost : String) : ClientTemplateRequest where
  templatePath := "template.apk"
  applicationId := "app.proxy.client".toList
  applicationName := "Client".toList
  nodeHost := nodeHost.toList
  nodePort := 1080
  username := "user".toList
  password := "secret ".toList
  rulesUrl := rulesUrlText 12580
  iconBytes := none

theorem packagedProfile_roundTrip_ipv6 :
    validateRequest packageUrls (· == "template.apk") (packageRequest "2001:db8::1") = .ok () ∧
      PackagedRoundTrip strictInetPton packagePlatform plainAead (packageRequest "2001:db8::1") := by
  have valid : validateRequest packageUrls (· == "template.apk") (packageRequest "2001:db8::1") =
      .ok () := by rfl
  refine ⟨valid, ?_⟩
  exact ((packagedProfile_roundTrip strictInetPton packagePlatform packageUrls plainAead
    (· == "template.apk") packagePlatform_documented).1 _ valid (by decide)).mpr (by decide)

/-- The packager and the native side accept a host that the Kotlin side rejects. -/
theorem mappedHost_rejected :
    validateRequest packageUrls (· == "template.apk") (packageRequest "::ffff:192.0.2.1") = .ok () ∧
      (packageRequest "::ffff:192.0.2.1").nodePort ≠ 0 ∧
      ∃ plaintext,
        encodeProfilePlaintext (packageRequest "::ffff:192.0.2.1").fields = .ok plaintext ∧
          validatePlaintext strictInetPton plaintext = true ∧
          parseDecrypted packagePlatform plaintext = .error "安装包内置服务地址必须是 IPv4 或 IPv6 字面量" := by
  have valid : validateRequest packageUrls (· == "template.apk")
      (packageRequest "::ffff:192.0.2.1") = .ok () := by rfl
  have shape := (CheckedRequest.of_validate valid).fieldShape strictInetPton
  refine ⟨valid, by decide, _, encodeProfilePlaintext_eq_ok.mpr ⟨shape.sized, rfl⟩,
    shape.validatePlaintext (by decide), ?_⟩
  rw [parseDecrypted, decodeProfile_layout shape.sized]
  rfl

end SprakCapture.Client
