import SprakCapture.Client.RuntimeConfig

/-!
# Configuration round trip

The configuration that the Kotlin side writes for a profile is read back by the native side. A
line is trimmed as a whole before it is cut, so a value loses white space at its end; and the
two sides have their own tests for addresses. These are the only obstacles.
-/

namespace SprakCapture.Client

open Data Data.IpText List Data.Text Data.Utf8 Utf8 ConfigReader RuntimeConfig

/-- The key and value of each line of a configuration. -/
def configurationFields (profile : EmbeddedClientProfile) (internal : InternalSocksCredentials) :
    List (String × List Char) :=
  [("upstreamHost", profile.node.host), ("upstreamPort", (toString profile.node.port).toList),
    ("username", profile.credentials.username), ("password", profile.credentials.password),
    ("localUsername", internal.username), ("localPassword", internal.password)] ++
    fixedPorts.map fun field => (field.1, (toString field.2.toNat).toList)

/-- The bytes of a line, without the line feed. -/
def fieldLine (field : String × List Char) : Bytes := message field.1 ++ 61 :: Utf8.encode field.2

/-- The value that is read from a line. -/
def fieldValue (value : List Char) : Bytes := Utf8.encode (trimEndWith isAsciiSpace value)

theorem encode_configurationLine (key : String) (value : List Char) :
    encode (configurationLine key value) = fieldLine (key, value) ++ [10] := by
  simp only [configurationLine, fieldLine, encode_append, encode_cons]
  rfl

variable (profile : EmbeddedClientProfile) {port : Nat} (internal : InternalSocksCredentials)

theorem encode_createConfiguration :
    encode (createConfiguration profile internal) =
      ((configurationFields profile internal).map fieldLine).flatMap (· ++ [10]) := by
  have fixed : ∀ fields : List (String × UInt16),
      encode (fields.flatMap fun field =>
        configurationLine field.1 (toString field.2.toNat).toList) =
      ((fields.map fun field => (field.1, (toString field.2.toNat).toList)).map fieldLine).flatMap
        (· ++ [10]) := by
    intro fields
    induction fields with
    | nil => rfl
    | cons field fields ih =>
      rw [flatMap_cons, encode_append, encode_configurationLine, ih]
      rfl
  rw [createConfiguration, configurationFields, map_append, flatMap_append, ← fixed]
  simp [encode_configurationLine]

/-! ### Reading one line -/

/-- A key of letters only. -/
def isPlainKey (key : Bytes) : Bool :=
  !key.isEmpty && key.all fun byte =>
    (65 ≤ byte.toNat && byte.toNat ≤ 90) || (97 ≤ byte.toNat && byte.toNat ≤ 122)

theorem letter_of_isPlainKey {key : Bytes} (plain : isPlainKey key = true) :
    key ≠ [] ∧ ∀ byte ∈ key, isAsciiWhitespace byte = false ∧ byte ≠ 61 ∧ byte ≠ 0xEF ∧
      byte ≠ 0 ∧ byte ≠ 10 := by
  simp only [isPlainKey, Bool.and_eq_true, Bool.not_eq_true', isEmpty_eq_false_iff,
    List.all_eq_true, Bool.or_eq_true, decide_eq_true_eq] at plain
  refine ⟨plain.1, fun byte member => ?_⟩
  have letter := plain.2 byte member
  have notSpace : isAsciiWhitespace byte = false := by
    have notBlank : byte.toNat ≠ 32 := by omega
    have notControl : ¬byte.toNat ≤ 13 := by omega
    simp [isAsciiWhitespace, isSpaceCode, notBlank, notControl]
  have other : ∀ code : UInt8, ¬((65 ≤ code.toNat ∧ code.toNat ≤ 90) ∨
      (97 ≤ code.toNat ∧ code.toNat ≤ 122)) → byte ≠ code := by
    rintro code outside rfl
    exact outside letter
  simp_all

/-- A line with a plain key is cut into its key and its value. -/
theorem readLine_fieldLine {reader : ConfigReader} {field : String × List Char}
    (plain : isPlainKey (message field.1) = true) (fresh : message field.1 ∉ reader.keys) :
    reader.readLine (fieldLine field) =
      (assignConfiguration (message field.1) (fieldValue field.2) reader.parsed).map fun parsed =>
        { keys := message field.1 :: reader.keys, parsed } := by
  obtain ⟨nonempty, letters⟩ := letter_of_isPlainKey plain
  obtain ⟨first, _, split⟩ := exists_cons_of_ne_nil nonempty
  have firstLetter := letters first (by rw [split]; exact mem_cons_self)
  have noMark : removeUtf8Bom (fieldLine field) = fieldLine field := by
    have differs : ((0xEF : UInt8) == first) = false := by
      simpa using firstLetter.2.2.1.symm
    simp [removeUtf8Bom, fieldLine, split, List.isPrefixOf, differs]
  have row : trim (fieldLine field) = message field.1 ++ 61 :: fieldValue field.2 := by
    rw [fieldLine, split, trim_append firstLetter.1 (by decide),
      isAsciiWhitespace_test.trimEnd_encode]
    rfl
  have cut : cutAt 61 (message field.1 ++ 61 :: fieldValue field.2) =
      some (message field.1, fieldValue field.2) :=
    cutAt_append (fun member => (letters 61 member).2.1 rfl) _
  have key : trim (message field.1) = message field.1 :=
    trimWith_eq_self fun byte member => (letters byte member).1
  rw [readLine, noMark, row]
  simp only [cut, key, nonempty, fresh, append_eq_nil_iff]
  rfl

/-! ### Reading all lines -/

/-- Lines with distinct plain keys are assigned one after another. -/
theorem foldlM_readLine {fields : List (String × List Char)} {reader : ConfigReader}
    (plain : ∀ field ∈ fields, isPlainKey (message field.1) = true)
    (distinct : (fields.map Prod.fst).Nodup)
    (fresh : ∀ field ∈ fields, message field.1 ∉ reader.keys) :
    ((fields.map fieldLine).foldlM readLine reader).map parsed =
      fields.foldlM (fun parsed field =>
        assignConfiguration (message field.1) (fieldValue field.2) parsed) reader.parsed := by
  induction fields generalizing reader with
  | nil => rfl
  | cons field fields ih =>
    rw [map_cons, foldlM_cons, foldlM_cons,
      readLine_fieldLine (plain field mem_cons_self) (fresh field mem_cons_self)]
    cases assignConfiguration (message field.1) (fieldValue field.2) reader.parsed with
    | error => rfl
    | ok parsed =>
      rw [map_cons, nodup_cons] at distinct
      refine ih (fun other member => plain other (mem_cons_of_mem _ member))
        distinct.2 fun other member => ?_
      rw [mem_cons, not_or]
      refine ⟨fun same => distinct.1 ?_, fresh other (mem_cons_of_mem _ member)⟩
      rw [← message_inj.mp same]
      exact List.mem_map_of_mem member

/-- The decimal form of a port is read back. -/
theorem parsePort_toDigits (low : 1 ≤ port) (high : port ≤ 65535) :
    parsePort (encode (Nat.toDigits 10 port)) = some (UInt16.ofNat port) := by
  rw [parsePort, fromChars_toDigits (Nat.lt_of_le_of_lt high (by decide))]
  have valid : ¬(port = 0 ∨ 65535 < port) := by omega
  simp [valid]

theorem fieldValue_of_isDigit {digits : List Char}
    (decimal : ∀ char ∈ digits, char.isDigit = true) : fieldValue digits = encode digits := by
  rw [fieldValue, trimEndWith_eq_self_iff.mpr]
  intro last isLast
  have digit : 48 ≤ last.toNat ∧ last.toNat ≤ 57 := by
    simpa using Char.isDigit_iff_toNat.mp (decimal last (mem_of_getLast? isLast))
  have notBlank : last.toNat ≠ 32 := by omega
  have notControl : ¬last.toNat ≤ 13 := by omega
  simp [isAsciiSpace, isSpaceCode, notBlank, notControl]

theorem parsePort_fieldValue (low : 1 ≤ port) (high : port ≤ 65535) :
    parsePort (fieldValue (toString port).toList) = some (UInt16.ofNat port) := by
  have digits : (toString port).toList = Nat.toDigits 10 port := Nat.toList_repr
  rw [digits, fieldValue_of_isDigit, parsePort_toDigits low high]
  exact fun _ member => Nat.isDigit_of_mem_toDigits (by decide) (by decide) member

theorem foldlM_assignConfiguration (low : 1 ≤ profile.node.port)
    (high : profile.node.port ≤ 65535) :
    (configurationFields profile internal).foldlM (fun parsed field =>
        assignConfiguration (message field.1) (fieldValue field.2) parsed) {} =
      .ok
        { upstream := ⟨fieldValue profile.node.host, UInt16.ofNat profile.node.port.toNat⟩
          username := fieldValue profile.credentials.username
          password := fieldValue profile.credentials.password
          localUsername := fieldValue internal.username
          localPassword := fieldValue internal.password } := by
  obtain ⟨port, isPort⟩ := Int.eq_ofNat_of_zero_le (show 0 ≤ profile.node.port by omega)
  have upstreamPort : parsePort (fieldValue (toString profile.node.port).toList) =
      some (UInt16.ofNat profile.node.port.toNat) := by
    rw [isPort]
    exact parsePort_fieldValue (by omega) (by omega)
  have fixed : ∀ port : UInt16, port ≠ 0 →
      parsePort (fieldValue (toString port.toNat).toList) = some port := by
    intro port nonzero
    have positive : port.toNat ≠ 0 := fun zero => nonzero (UInt16.toNat_inj.mp zero)
    rw [parsePort_fieldValue (by omega) (Nat.le_of_lt_succ port.toNat_lt), UInt16.ofNat_toNat]
  have bindOk : ∀ (parsed : RuntimeConfig) (next : RuntimeConfig → Except Bytes RuntimeConfig),
      (Except.ok parsed >>= next) = next parsed := fun _ _ => rfl
  simp only [configurationFields, fixedPorts, map_cons, cons_append,
    nil_append, foldlM_cons, assignConfiguration, message_inj,
    upstreamPort, fixed _ (show (12348 : UInt16) ≠ 0 by decide), fixed _ (show (6100 : UInt16) ≠ 0 by decide),
    fixed _ (show (6101 : UInt16) ≠ 0 by decide), bindOk, String.reduceEq, reduceIte]
  rfl

/-! ### What a valid profile promises -/

/-- A text of 1 to 255 visible ASCII characters. -/
def isVisibleAscii (text : List Char) : Bool :=
  1 ≤ text.length && text.length ≤ 255 && text.all fun char => '!' ≤ char && char ≤ '~'

theorem bounds_of_isVisibleAscii {text : List Char} (visible : isVisibleAscii text = true) :
    text ≠ [] ∧ text.length ≤ 255 ∧ ∀ char ∈ text, 33 ≤ char.toNat ∧ char.toNat ≤ 126 := by
  simp only [isVisibleAscii, Bool.and_eq_true, decide_eq_true_eq, List.all_eq_true] at visible
  exact ⟨length_pos_iff.mp visible.1.1, visible.1.2, visible.2⟩

/-- A value that fits into one line of a configuration. -/
structure LineValue (value : List Char) : Prop where
  short : (Utf8.encode value).length ≤ 255
  noNul : 0 ∉ Utf8.encode value
  noLineFeed : 10 ∉ Utf8.encode value

variable {value : List Char}

open LineValue

theorem LineValue.of_printable (short : (encode value).length ≤ 255)
    (printable : ∀ char ∈ value, 32 ≤ char.toNat) : LineValue value := by
  have absent : ∀ byte : UInt8, byte.toNat < 32 → byte ∉ encode value := by
    intro byte _ member
    obtain ⟨char, charMember, _⟩ := exists_of_mem_encode member (by omega)
    have high := printable char charMember
    omega
  exact ⟨short, absent 0 (by decide), absent 10 (by decide)⟩

theorem LineValue.of_visible (short : value.length ≤ 255)
    (visible : ∀ char ∈ value, 33 ≤ char.toNat ∧ char.toNat ≤ 126) : LineValue value := by
  have bytes : (encode value).length = value.length := by
    clear short
    induction value with
    | nil => rfl
    | cons char value ih =>
      have ascii := visible char mem_cons_self
      rw [encode_cons, utf8EncodeChar_of_ascii (by omega), singleton_append,
        length_cons, length_cons,
        ih fun other member => visible other (mem_cons_of_mem _ member)]
  exact of_printable (by rwa [bytes]) fun char member => by
    have range := visible char member
    omega

theorem LineValue.of_port {port : Nat} (small : port ≤ 65535) :
    LineValue (toString port).toList := by
  have digits : (toString port).toList = Nat.toDigits 10 port := Nat.toList_repr
  rw [digits]
  refine of_visible ?_ fun char member => ?_
  · have few : (Nat.toDigits 10 port).length ≤ 5 :=
      (Nat.length_toDigits_le_iff (by decide) (by decide)).mpr (by omega)
    omega
  · have digit : 48 ≤ char.toNat ∧ char.toNat ≤ 57 := by
      simpa using Char.isDigit_iff_toNat.mp
        (Nat.isDigit_of_mem_toDigits (by decide) (by decide) member)
    omega

theorem LineValue.of_accepts {inet : InetPton}
    (accepted : inet.accepts (encode value) = true) : LineValue value := by
  obtain ⟨_, short, address⟩ := inet.shape (encode value) (by
    simpa only [InetPton.accepts, Bool.or_eq_true] using accepted)
  rw [List.all_eq_true] at address
  exact
    { short := by omega
      noNul := fun member => absurd (address _ member) (by decide)
      noLineFeed := fun member => absurd (address _ member) (by decide) }

/-- What a successful check of a profile says about its node and its credentials. -/
structure CheckedProfile (profile : EmbeddedClientProfile) : Prop where
  portLow : 1 ≤ profile.node.port
  portHigh : profile.node.port ≤ 65535
  username : profile.credentials.username ≠ [] ∧ LineValue profile.credentials.username ∧
    profile.credentials.username.any isControl = false
  password : profile.credentials.password ≠ [] ∧ LineValue profile.credentials.password ∧
    profile.credentials.password.any isControl = false

theorem lineValue_of_utf8Length (nonempty : 1 ≤ utf8Length value)
    (short : utf8Length value ≤ 255) (plain : value.any isControl = false) :
    value ≠ [] ∧ LineValue value ∧ value.any isControl = false := by
  refine ⟨?_, of_printable (by rwa [length_encode]) fun char member => ?_, plain⟩
  · rintro rfl
    exact absurd nonempty (by decide)
  · have noControl := List.any_eq_false.mp plain char member
    simp [isControl] at noControl
    omega

theorem CheckedProfile.of_validate {platform : KotlinPlatform} {profile : EmbeddedClientProfile}
    (valid : profile.validate platform = .ok ()) : CheckedProfile profile := by
  unfold EmbeddedClientProfile.validate at valid
  have node : profile.node.validate platform = .ok () := by
    cases checked : profile.node.validate platform with
    | ok => rfl
    | error failure => rw [checked] at valid; cases valid
  have credentials : profile.credentials.validate = .ok () := by
    rw [node] at valid
    cases checked : profile.credentials.validate with
    | ok => rfl
    | error failure => rw [checked] at valid; cases valid
  simp only [EmbeddedNode.validate] at node
  simp only [AccountCredentials.validate] at credentials
  split at node
  · cases node
  split at node
  · cases node
  split at node
  · cases node
  split at credentials
  · cases credentials
  split at credentials
  · cases credentials
  split at credentials
  · cases credentials
  rename_i port usernameSize passwordSize controls
  rw [Bool.or_eq_true, not_or, Bool.not_eq_true, Bool.not_eq_true] at controls
  exact
    { portLow := by omega
      portHigh := by omega
      username := lineValue_of_utf8Length (by omega) (by omega) controls.1
      password := lineValue_of_utf8Length (by omega) (by omega) controls.2 }

/-! ### The round trip -/

/-- The configuration that stands for a profile. -/
def runtimeConfigOf (profile : EmbeddedClientProfile) (internal : InternalSocksCredentials)
    (dnsServers : List Endpoint) : RuntimeConfig where
  upstream := ⟨Utf8.encode profile.node.host, UInt16.ofNat profile.node.port.toNat⟩
  username := Utf8.encode profile.credentials.username
  password := Utf8.encode profile.credentials.password
  localUsername := Utf8.encode internal.username
  localPassword := Utf8.encode internal.password
  localSocksPort := 12580
  selectedSocksPort := 12581
  transparentTcpPort := 12345
  transparentUdpPort := 12346
  selectedTransparentTcpPort := 12347
  selectedTransparentUdpPort := 12348
  globalUdpQueueNumber := 6100
  selectedUdpQueueNumber := 6101
  dnsServers := dnsServers

/-- The keys of a configuration, in the order of its lines. -/
def configurationKeys : List String :=
  ["upstreamHost", "upstreamPort", "username", "password", "localUsername", "localPassword"] ++
    fixedPorts.map Prod.fst

theorem map_fst_configurationFields (profile : EmbeddedClientProfile)
    (internal : InternalSocksCredentials) :
    (configurationFields profile internal).map Prod.fst = configurationKeys := rfl

theorem nodup_configurationKeys : configurationKeys.Nodup := by decide

theorem isPlainKey_of_mem_configurationKeys :
    ∀ key ∈ configurationKeys, isPlainKey (message key) = true ∧ (message key).length ≤ 26 := by
  decide

/-- Lines that fit are not too many bytes. -/
theorem length_flatMap_le {lines : List Bytes} {bound : Nat}
    (short : ∀ line ∈ lines, line.length ≤ bound) :
    (lines.flatMap (· ++ [10])).length ≤ (bound + 1) * lines.length := by
  induction lines with
  | nil => exact Nat.zero_le _
  | cons line lines ih =>
    have head := short line mem_cons_self
    have tail := ih fun other member => short other (mem_cons_of_mem _ member)
    rw [flatMap_cons, length_append, length_append, length_singleton, length_cons, Nat.mul_succ]
    omega

section RoundTrip

variable {inet : InetPton} {profile : EmbeddedClientProfile} {internal : InternalSocksCredentials}

/-- Every value of a checked profile with an accepted host fits into its line. -/
theorem lineValue_of_mem_configurationFields (checked : CheckedProfile profile)
    (visibleUsername : isVisibleAscii internal.username = true)
    (visiblePassword : isVisibleAscii internal.password = true)
    (accepted : inet.accepts (encode profile.node.host) = true) :
    ∀ field ∈ configurationFields profile internal, LineValue field.2 := by
  obtain ⟨_, shortUsername, usernameChars⟩ := bounds_of_isVisibleAscii visibleUsername
  obtain ⟨_, shortPassword, passwordChars⟩ := bounds_of_isVisibleAscii visiblePassword
  obtain ⟨port, isPort⟩ := Int.eq_ofNat_of_zero_le (show 0 ≤ profile.node.port by
    have low := checked.portLow
    omega)
  have upstreamPort : LineValue (toString profile.node.port).toList := by
    have high := checked.portHigh
    rw [isPort]
    exact of_port (by omega)
  intro field member
  rcases mem_append.mp member with own | fixed
  · simp only [mem_cons, not_mem_nil, or_false] at own
    rcases own with rfl | rfl | rfl | rfl | rfl | rfl
    · exact of_accepts accepted
    · exact upstreamPort
    · exact checked.username.2.1
    · exact checked.password.2.1
    · exact of_visible shortUsername usernameChars
    · exact of_visible shortPassword passwordChars
  · obtain ⟨entry, _, rfl⟩ := List.mem_map.mp fixed
    exact of_port (Nat.le_of_lt_succ entry.2.toNat_lt)

/-- Reading back the configuration of a checked profile comes down to the final check of its
fields, each without the white space at its end. -/
theorem parseRuntimeConfig_createConfiguration (checked : CheckedProfile profile)
    (visibleUsername : isVisibleAscii internal.username = true)
    (visiblePassword : isVisibleAscii internal.password = true)
    (accepted : inet.accepts (encode profile.node.host) = true) (routing : Bytes) :
    parseRuntimeConfig inet (encode (createConfiguration profile internal)) routing =
      finish inet
        { upstream := ⟨fieldValue profile.node.host, UInt16.ofNat profile.node.port.toNat⟩
          username := fieldValue profile.credentials.username
          password := fieldValue profile.credentials.password
          localUsername := fieldValue internal.username
          localPassword := fieldValue internal.password } routing := by
  have values :=
    lineValue_of_mem_configurationFields checked visibleUsername visiblePassword accepted
  have keys : ∀ field ∈ configurationFields profile internal,
      isPlainKey (message field.1) = true ∧ (message field.1).length ≤ 26 := by
    intro field member
    apply isPlainKey_of_mem_configurationKeys
    exact List.mem_map_of_mem member
  have lines : ∀ line ∈ (configurationFields profile internal).map fieldLine,
      line.length ≤ 282 ∧ 0 ∉ line ∧ 10 ∉ line := by
    intro line member
    obtain ⟨field, fieldMember, rfl⟩ := List.mem_map.mp member
    obtain ⟨plain, _⟩ := keys field fieldMember
    obtain ⟨short, noNul, noLineFeed⟩ := values field fieldMember
    have letters := (letter_of_isPlainKey plain).2
    refine ⟨?_, ?_, ?_⟩
    · rw [fieldLine, length_append, length_cons]
      omega
    · rw [fieldLine, mem_append, mem_cons, not_or, not_or]
      exact ⟨fun zero => (letters 0 zero).2.2.2.1 rfl, by decide, noNul⟩
    · rw [fieldLine, mem_append, mem_cons, not_or, not_or]
      exact ⟨fun feed => (letters 10 feed).2.2.2.2 rfl, by decide, noLineFeed⟩
  have nonempty : encode (createConfiguration profile internal) ≠ [] := by
    rw [encode_createConfiguration, configurationFields]
    simp
  have short : (encode (createConfiguration profile internal)).length ≤
      maximumConfigurationBytes := by
    rw [encode_createConfiguration]
    refine Nat.le_trans (length_flatMap_le fun line member => (lines line member).1) ?_
    rw [length_map, ← length_map (f := Prod.fst), map_fst_configurationFields]
    decide
  have noNul : 0 ∉ encode (createConfiguration profile internal) := by
    rw [encode_createConfiguration, mem_flatMap]
    rintro ⟨line, member, zero⟩
    rcases mem_append.mp zero with inside | last
    · exact (lines line member).2.1 inside
    · exact absurd last (by decide)
  have rows : getLines (· == 10) (encode (createConfiguration profile internal)) =
      (configurationFields profile internal).map fieldLine := by
    rw [encode_createConfiguration]
    refine getLines_flatMap (by decide) fun line member _ inside => ?_
    rw [beq_eq_false_iff_ne]
    rintro rfl
    exact (lines line member).2.2 inside
  have read := @foldlM_readLine _ {} (fun field member => (keys field member).1)
    (by rw [map_fst_configurationFields]; exact nodup_configurationKeys)
    (fun field _ => not_mem_nil)
  rw [foldlM_assignConfiguration profile internal checked.portLow checked.portHigh] at read
  rw [parseRuntimeConfig, if_neg (by simp [nonempty, Nat.not_lt_of_le short, noNul]), rows]
  cases folded : ((configurationFields profile internal).map fieldLine).foldlM
      readLine {} with
  | error =>
    rw [folded] at read
    cases read
  | ok reader =>
    rw [folded] at read
    have parsed : reader.parsed = _ := Except.ok.inj read
    change finish inet reader.parsed routing = _
    rw [parsed]

/-- When the final check passes. -/
theorem finish_eq_ok {parsed config : RuntimeConfig} {routing : Bytes} :
    parsed.finish inet routing = .ok config ↔
      (parsed.upstream.host ≠ [] ∧ parsed.upstream.port ≠ 0 ∧ parsed.username ≠ [] ∧
        parsed.password ≠ [] ∧ parsed.localUsername ≠ [] ∧ parsed.localPassword ≠ []) ∧
      (parsed.username.length ≤ 255 ∧ parsed.password.length ≤ 255 ∧
        parsed.localUsername.length ≤ 255 ∧ parsed.localPassword.length ≤ 255) ∧
      inet.accepts parsed.upstream.host = true ∧
      ∃ dnsServers, parseDnsServers inet routing = .ok dnsServers ∧
        config = { parsed with dnsServers } := by
  rw [finish]
  split
  · grind
  split
  · grind
  split
  · simp_all
  next present short accepted =>
    have conditions : _ ∧ _ ∧ inet.accepts parsed.upstream.host = true :=
      ⟨by simpa only [not_or] using present, by simpa only [not_or, Nat.not_lt] using short,
        by simpa using accepted⟩
    cases servers : parseDnsServers inet routing with
    | error => exact ⟨nofun, fun ⟨_, _, _, dnsServers, found, _⟩ => nomatch found⟩
    | ok dnsServers =>
      constructor
      · intro done
        exact ⟨conditions.1, conditions.2.1, conditions.2.2, dnsServers, rfl,
          (Except.ok.inj done).symm⟩
      · rintro ⟨_, _, _, _, found, rfl⟩
        rw [← Except.ok.inj found]
        rfl

theorem accepts_of_parseRuntimeConfig {configuration routing : Bytes} {config : RuntimeConfig}
    (read : parseRuntimeConfig inet configuration routing = .ok config) :
    inet.accepts config.upstream.host = true := by
  rw [parseRuntimeConfig] at read
  split at read
  · cases read
  cases folded : (getLines (· == 10) configuration).foldlM readLine {} with
  | error =>
    rw [folded] at read
    cases read
  | ok =>
    rw [folded] at read
    obtain ⟨_, _, accepted, _, _, rfl⟩ := finish_eq_ok.mp read
    exact accepted

/-- A value without control characters is kept when it does not end with a space. -/
theorem fieldValue_eq_encode_iff {value : List Char} (plain : value.any isControl = false) :
    fieldValue value = encode value ↔ value.getLast? ≠ some ' ' := by
  have kept : fieldValue value = encode value ↔ trimEndWith isAsciiSpace value = value :=
    ⟨encode_injective, congrArg encode⟩
  rw [kept, trimEndWith_eq_self_iff]
  constructor
  · intro noSpace isLast
    exact absurd (noSpace ' ' isLast) (by decide)
  · intro notBlank last isLast
    have noControl := List.any_eq_false.mp plain last (mem_of_getLast? isLast)
    have other : last.toNat ≠ 32 := by
      intro same
      apply notBlank
      rw [isLast, Char.toNat_inj.mp (show last.toNat = ' '.toNat from same)]
    simp [isControl] at noControl
    simp [isAsciiSpace, isSpaceCode]
    omega

theorem fieldValue_of_accepts {value : List Char}
    (accepted : inet.accepts (encode value) = true) :
    fieldValue value = encode value ∧ encode value ≠ [] := by
  obtain ⟨nonempty, _, address⟩ := inet.shape (encode value) (by
    simpa only [InetPton.accepts, Bool.or_eq_true] using accepted)
  rw [List.all_eq_true] at address
  refine ⟨?_, nonempty⟩
  rw [fieldValue, ← isAsciiWhitespace_test.trimEnd_encode, trimEndWith_eq_self_iff]
  intro last isLast
  have allowed := address last (mem_of_getLast? isLast)
  grind [isAddressByte, isAddressCode, isAsciiWhitespace, isSpaceCode]

theorem fieldValue_of_isVisibleAscii {value : List Char} (visible : isVisibleAscii value = true) :
    fieldValue value = encode value ∧ encode value ≠ [] ∧ (encode value).length ≤ 255 := by
  obtain ⟨nonempty, short, chars⟩ := bounds_of_isVisibleAscii visible
  refine ⟨?_, fun empty => nonempty (encode_injective empty), (of_visible short chars).short⟩
  rw [fieldValue, trimEndWith_eq_self_iff.mpr]
  intro last isLast
  have range := chars last (mem_of_getLast? isLast)
  have notBlank : last.toNat ≠ 32 := by omega
  have notControl : ¬last.toNat ≤ 13 := by omega
  simp [isAsciiSpace, isSpaceCode, notBlank, notControl]

end RoundTrip

/-- The configuration of a valid profile is read back as it was written exactly when the native
side accepts its host as an address and neither field of its credentials ends with a space. -/
theorem configuration_roundTrip (inet : InetPton) (platform : KotlinPlatform)
    (profile : EmbeddedClientProfile) (internal : InternalSocksCredentials) (routing : Bytes)
    (dnsServers : List Endpoint) (valid : profile.validate platform = .ok ())
    (visibleUsername : isVisibleAscii internal.username = true)
    (visiblePassword : isVisibleAscii internal.password = true)
    (dns : parseDnsServers inet routing = .ok dnsServers) :
    parseRuntimeConfig inet (Utf8.encode (createConfiguration profile internal)) routing =
        .ok (runtimeConfigOf profile internal dnsServers) ↔
      inet.accepts (Utf8.encode profile.node.host) = true ∧
        profile.credentials.username.getLast? ≠ some ' ' ∧
        profile.credentials.password.getLast? ≠ some ' ' := by
  have checked := CheckedProfile.of_validate valid
  obtain ⟨usernameChars, usernameLine, usernamePlain⟩ := checked.username
  obtain ⟨passwordChars, passwordLine, passwordPlain⟩ := checked.password
  obtain ⟨localUsername, localUsernameBytes, localUsernameShort⟩ :=
    fieldValue_of_isVisibleAscii visibleUsername
  obtain ⟨localPassword, localPasswordBytes, localPasswordShort⟩ :=
    fieldValue_of_isVisibleAscii visiblePassword
  constructor
  · intro read
    have accepted : inet.accepts (Utf8.encode profile.node.host) = true :=
      accepts_of_parseRuntimeConfig read
    rw [parseRuntimeConfig_createConfiguration checked visibleUsername visiblePassword accepted,
      finish_eq_ok] at read
    obtain ⟨_, _, _, _, _, same⟩ := read
    have username : Utf8.encode profile.credentials.username =
        fieldValue profile.credentials.username := congrArg RuntimeConfig.username same
    have password : Utf8.encode profile.credentials.password =
        fieldValue profile.credentials.password := congrArg RuntimeConfig.password same
    grind [fieldValue_eq_encode_iff]
  · rintro ⟨accepted, usernameEnd, passwordEnd⟩
    obtain ⟨host, hostBytes⟩ := fieldValue_of_accepts accepted
    have username := (fieldValue_eq_encode_iff usernamePlain).mpr usernameEnd
    have password := (fieldValue_eq_encode_iff passwordPlain).mpr passwordEnd
    have port : UInt16.ofNat profile.node.port.toNat ≠ 0 := by
      intro zero
      have low := checked.portLow
      have high := checked.portHigh
      have number : profile.node.port.toNat % 2 ^ 16 = 0 := by
        rw [← UInt16.toNat_ofNat', zero]
        rfl
      omega
    rw [parseRuntimeConfig_createConfiguration checked visibleUsername visiblePassword accepted,
      finish_eq_ok, host, username, password, localUsername, localPassword]
    refine ⟨⟨hostBytes, port, ?_, ?_, localUsernameBytes, localPasswordBytes⟩,
      ⟨usernameLine.short, passwordLine.short, localUsernameShort, localPasswordShort⟩, accepted,
      dnsServers, dns, rfl⟩
    · exact fun empty => usernameChars (encode_injective empty)
    · exact fun empty => passwordChars (encode_injective empty)

/-! ### A password with a space at its end -/

/-- The platform on the texts of the sample profiles. -/
def samplePlatform : KotlinPlatform where
  digit char := if char.isDigit then some (char.toNat - 48) else none
  isInet6 := isIpv6Text
  isWhitespace := Text.isWhitespace
  uri text :=
    if text = "http://198.51.100.7:12580/rules".toList then
      .ok
        { scheme := some "http".toList
          host := some "198.51.100.7".toList
          rawUserInfo := none
          rawFragment := none
          port := 12580 }
    else .error "Expected authority"

def sampleProfile (password : String) : EmbeddedClientProfile where
  node := ⟨"198.51.100.7".toList, 1080⟩
  credentials := ⟨"user".toList, password.toList⟩
  rulesUrl := "http://198.51.100.7:12580/rules".toList

def sampleInternal : InternalSocksCredentials := ⟨"local".toList, "token".toList⟩

def sampleRouting : Bytes := message "[DNS]\nPRIMARY,9.9.9.9\n"

theorem configuration_roundTrip_innerSpace :
    (sampleProfile " se cret").validate samplePlatform = .ok () ∧
      isVisibleAscii sampleInternal.username = true ∧
      isVisibleAscii sampleInternal.password = true ∧
      parseRuntimeConfig strictInetPton
          (Utf8.encode (createConfiguration (sampleProfile " se cret") sampleInternal))
          sampleRouting =
        .ok (runtimeConfigOf (sampleProfile " se cret") sampleInternal
          [⟨message "9.9.9.9", 53⟩]) := by
  have valid : (sampleProfile " se cret").validate samplePlatform = .ok () := by rfl
  refine ⟨valid, by decide, by decide, ?_⟩
  refine (configuration_roundTrip strictInetPton samplePlatform (sampleProfile " se cret")
    sampleInternal sampleRouting _ valid (by decide) (by decide) (by rfl)).mpr ?_
  decide

/-- A valid profile whose password ends with a space: the native side gets the password without
it. -/
theorem password_changed_by_trailingSpace :
    (sampleProfile "secret ").validate samplePlatform = .ok () ∧
      isVisibleAscii sampleInternal.username = true ∧
      isVisibleAscii sampleInternal.password = true ∧
      parseDnsServers strictInetPton sampleRouting = .ok [⟨message "9.9.9.9", 53⟩] ∧
      ∃ config, parseRuntimeConfig strictInetPton
          (Utf8.encode (createConfiguration (sampleProfile "secret ") sampleInternal))
          sampleRouting = .ok config ∧
        config.password = message "secret" ∧
        config.password ≠ Utf8.encode (sampleProfile "secret ").credentials.password := by
  have valid : (sampleProfile "secret ").validate samplePlatform = .ok () := by rfl
  have read := parseRuntimeConfig_createConfiguration (CheckedProfile.of_validate valid)
    (show isVisibleAscii sampleInternal.username = true by decide)
    (show isVisibleAscii sampleInternal.password = true by decide)
    (show strictInetPton.accepts (message "198.51.100.7") = true by decide) sampleRouting
  refine ⟨valid, by decide, by decide, by rfl,
    { runtimeConfigOf (sampleProfile "secret ") sampleInternal [⟨message "9.9.9.9", 53⟩] with
      password := message "secret" }, read.trans (by rfl), rfl, by decide⟩

end SprakCapture.Client
