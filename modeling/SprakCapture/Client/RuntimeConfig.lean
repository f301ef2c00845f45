import SprakCapture.Client.IpLiterals

/-!
# Native runtime configuration

The Kotlin side writes the profile of a client as lines of a key, an equals sign and a value;
the native side reads them back and takes the DNS servers from the rule text. Every error of
the reader carries its message.
-/

namespace SprakCapture.Client

open Data

structure Endpoint where
  host : Bytes
  port : UInt16
deriving DecidableEq

/-- The configuration of the native data plane, with its defaults. -/
structure RuntimeConfig where
  upstream : Endpoint := ⟨[], 0⟩
  username : Bytes := []
  password : Bytes := []
  localUsername : Bytes := []
  localPassword : Bytes := []
  localSocksPort : UInt16 := 12580
  selectedSocksPort : UInt16 := 12581
  transparentTcpPort : UInt16 := 12345
  transparentUdpPort : UInt16 := 12346
  selectedTransparentTcpPort : UInt16 := 12347
  selectedTransparentUdpPort : UInt16 := 12348
  globalUdpQueueNumber : UInt16 := 6100
  selectedUdpQueueNumber : UInt16 := 6101
  dnsServers : List Endpoint := []
deriving DecidableEq

/-! ### DNS servers of a rule text -/

def maximumContentBytes : Nat := 1024 * 1024

def maximumLineBytes : Nat := 8192

inductive RuleSection where
  | none
  | dns
  | routingRule
  | globalRoutingRule
  | proxyApp
deriving DecidableEq

/-- A line that is a section header by its brackets. -/
def isHeader (line : Bytes) : Bool := line.head? == some 91 && line.getLast? == some 93

/-- The section that a header names. -/
def sectionNamed (header : Bytes) : Option RuleSection :=
  let name := toUpper header
  if name = message "[DNS]" then some .dns
  else if name = message "[ROUTINGRULE]" then some .routingRule
  else if name = message "[GROUTINGRULE]" then some .globalRoutingRule
  else if name = message "[PROXY_APP]" then some .proxyApp
  else none

/-- What `ParseDns` keeps while it reads lines. -/
structure DnsReader where
  current : RuleSection := .none
  sectionCount : Nat := 0
  roles : List Bytes := []
  servers : List Endpoint := []
deriving DecidableEq

/-- The text that counts of a line: without a byte order mark, a comment and white space. -/
def dnsLine (line : Bytes) : Bytes := trim ((removeUtf8Bom line).takeWhile (· != 35))

namespace DnsReader

def readHeader (reader : DnsReader) (line : Bytes) : Except Bytes DnsReader :=
  match sectionNamed line with
  | none => .error (message "规则包含未知段：" ++ line)
  | some .dns =>
    if 0 < reader.sectionCount then .error (message "规则只能包含一个 [DNS] 段")
    else .ok { reader with current := .dns, sectionCount := reader.sectionCount + 1 }
  | some named => .ok { reader with current := named }

def readServer (inet : InetPton) (reader : DnsReader) (line : Bytes) : Except Bytes DnsReader :=
  match cutAt 44 line with
  | none => .error (message "[DNS] 行必须使用 ROLE,HOST 格式")
  | some (before, after) =>
    if after.contains 44 then .error (message "[DNS] 行必须使用 ROLE,HOST 格式")
    else
      let role := toUpper (trim before)
      let host := trim after
      if (role ≠ message "PRIMARY" ∧ role ≠ message "SECONDARY") ∨ host = [] ∨
          role ∈ reader.roles then
        .error (message "[DNS] 仅允许唯一的 PRIMARY 和 SECONDARY")
      else if !inet.accepts host then .error (message "[DNS] 地址必须是 IPv4 或 IPv6 字面量")
      else
        let server : Endpoint := ⟨host, 53⟩
        .ok
          { reader with
            roles := role :: reader.roles
            servers :=
              if role = message "PRIMARY" then server :: reader.servers
              else reader.servers ++ [server] }

/-- Read one line of a rule text. -/
def readLine (inet : InetPton) (reader : DnsReader) (line : Bytes) : Except Bytes DnsReader :=
  if maximumLineBytes < line.length then .error (message "规则单行超过 8192 字节")
  else
    let row := dnsLine line
    if row = [] then .ok reader
    else if isHeader row then reader.readHeader row
    else match reader.current with
      | .none => .error (message "规则包含已知段之外的有效文本")
      | .dns => readServer inet reader row
      | _ => .ok reader

end DnsReader

/-- `ParseDnsServers`: the DNS servers of a rule text, the primary one first. -/
def parseDnsServers (inet : InetPton) (routingText : Bytes) : Except Bytes (List Endpoint) :=
  if routingText = [] ∨ maximumContentBytes < routingText.length ∨ 0 ∈ routingText then
    .error (message "规则正文大小无效或包含 NUL")
  else do
    let reader ← (getLines (· == 10) routingText).foldlM (DnsReader.readLine inet) {}
    if reader.servers = [] ∨ message "PRIMARY" ∉ reader.roles then
      .error (message "规则缺少 [DNS] PRIMARY")
    else .ok reader.servers

/-! ### Configuration lines -/

def maximumConfigurationBytes : Nat := 4 * 1024

def parsePort (value : Bytes) : Option UInt16 :=
  match fromChars value with
  | some parsed => if parsed = 0 ∨ 65535 < parsed then none else some (UInt16.ofNat parsed)
  | none => none

/-- Write a value to the field that a key names. -/
def assignConfiguration (key value : Bytes) (output : RuntimeConfig) : Except Bytes RuntimeConfig :=
  let port (write : UInt16 → RuntimeConfig) : Except Bytes RuntimeConfig :=
    match parsePort value with
    | some parsed => .ok (write parsed)
    | none => .error (message "Native 配置端口无效：" ++ key)
  if key = message "upstreamHost" then
    .ok { output with upstream := { output.upstream with host := value } }
  else if key = message "username" then .ok { output with username := value }
  else if key = message "password" then .ok { output with password := value }
  else if key = message "localUsername" then .ok { output with localUsername := value }
  else if key = message "localPassword" then .ok { output with localPassword := value }
  else if key = message "upstreamPort" then
    port fun parsed => { output with upstream := { output.upstream with port := parsed } }
  else if key = message "localSocksPort" then
    port fun parsed => { output with localSocksPort := parsed }
  else if key = message "selectedSocksPort" then
    port fun parsed => { output with selectedSocksPort := parsed }
  else if key = message "transparentTcpPort" then
    port fun parsed => { output with transparentTcpPort := parsed }
  else if key = message "transparentUdpPort" then
    port fun parsed => { output with transparentUdpPort := parsed }
  else if key = message "selectedTransparentTcpPort" then
    port fun parsed => { output with selectedTransparentTcpPort := parsed }
  else if key = message "selectedTransparentUdpPort" then
    port fun parsed => { output with selectedTransparentUdpPort := parsed }
  else if key = message "globalUdpQueueNumber" then
    port fun parsed => { output with globalUdpQueueNumber := parsed }
  else if key = message "selectedUdpQueueNumber" then
    port fun parsed => { output with selectedUdpQueueNumber := parsed }
  else .error (message "Native 配置包含未知字段：" ++ key)

/-- A configuration under way, with the keys that have occurred. -/
structure ConfigReader where
  keys : List Bytes := []
  parsed : RuntimeConfig := {}

/-- Read one line of a configuration. Of the value only white space at its end is lost. -/
def ConfigReader.readLine (reader : ConfigReader) (line : Bytes) : Except Bytes ConfigReader :=
  let row := trim (removeUtf8Bom line)
  if row = [] then .ok reader
  else match cutAt 61 row with
    | none => .error (message "Native 配置行缺少等号")
    | some (before, value) =>
      let key := trim before
      if key = [] ∨ key ∈ reader.keys then
        .error (message "Native 配置字段为空或重复：" ++ key)
      else do
        let parsed ← assignConfiguration key value reader.parsed
        .ok { keys := key :: reader.keys, parsed }

/-- Check a configuration whose lines have all been read, and add the DNS servers. -/
def RuntimeConfig.finish (inet : InetPton) (parsed : RuntimeConfig) (routingText : Bytes) :
    Except Bytes RuntimeConfig :=
  if parsed.upstream.host = [] ∨ parsed.upstream.port = 0 ∨ parsed.username = [] ∨
      parsed.password = [] ∨ parsed.localUsername = [] ∨ parsed.localPassword = [] then
    .error (message "Native 配置缺少上游节点或本地数据面凭据")
  else if 255 < parsed.username.length ∨ 255 < parsed.password.length ∨
      255 < parsed.localUsername.length ∨ 255 < parsed.localPassword.length then
    .error (message "Native 配置凭据超过 RFC1929 单字段 255 字节上限")
  else if !inet.accepts parsed.upstream.host then
    .error (message "内置上游节点必须是 IP 字面量，禁止启动期隐式使用系统 DNS")
  else do
    let dnsServers ← parseDnsServers inet routingText
    .ok { parsed with dnsServers }

/-- `ParseRuntimeConfig`. -/
def parseRuntimeConfig (inet : InetPton) (configurationText routingText : Bytes) :
    Except Bytes RuntimeConfig :=
  if configurationText = [] ∨ maximumConfigurationBytes < configurationText.length ∨
      0 ∈ configurationText then
    .error (message "Native 配置大小无效或包含 NUL")
  else do
    let reader ← (getLines (· == 10) configurationText).foldlM ConfigReader.readLine {}
    reader.parsed.finish inet routingText

/-! ### The Kotlin side -/

structure EmbeddedNode where
  host : List Char
  port : Int

structure AccountCredentials where
  username : List Char
  password : List Char

structure EmbeddedClientProfile where
  node : EmbeddedNode
  credentials : AccountCredentials
  rulesUrl : List Char

structure InternalSocksCredentials where
  username : List Char
  password : List Char

def EmbeddedNode.validate (platform : KotlinPlatform) (node : EmbeddedNode) : Except String Unit :=
  if node.host.all platform.isWhitespace then .error "安装包未内置服务地址"
  else if !platform.isLiteral node.host then .error "安装包内置服务地址必须是 IPv4 或 IPv6 字面量"
  else if node.port < 1 ∨ 65535 < node.port then .error "安装包内置服务端口无效"
  else .ok ()

/-- Both fields take 1 to 255 bytes and have no control characters. -/
def AccountCredentials.validate (credentials : AccountCredentials) : Except String Unit :=
  let usernameBytes := Text.utf8Length credentials.username
  let passwordBytes := Text.utf8Length credentials.password
  if usernameBytes < 1 ∨ 255 < usernameBytes then .error "账号不能为空且 UTF-8 长度不能超过 255 字节"
  else if passwordBytes < 1 ∨ 255 < passwordBytes then
    .error "密码不能为空且 UTF-8 长度不能超过 255 字节"
  else if credentials.username.any Text.isControl || credentials.password.any Text.isControl then
    .error "账号密码不能包含控制字符"
  else .ok ()

def validateRulesUri (platform : KotlinPlatform) (uri : PlatformUri) : Except String Unit :=
  if uri.scheme.map Text.toAsciiLowercase ≠ some "http".toList then .error "安装包内置规则地址必须使用 HTTP"
  else match uri.host with
    | none => .error "安装包内置规则地址缺少主机"
    | some host =>
      if host.all platform.isWhitespace then .error "安装包内置规则地址缺少主机"
      else if host.any fun char => char.toNat < 33 || 126 < char.toNat then
        .error "安装包内置规则地址主机必须是 ASCII"
      else if uri.rawUserInfo.isSome || uri.rawFragment.isSome then
        .error "安装包内置规则地址包含不允许的字段"
      else if uri.port < -1 ∨ 65535 < uri.port ∨ uri.port = 0 then
        .error "安装包内置规则地址端口无效"
      else .ok ()

def EmbeddedClientProfile.validate (platform : KotlinPlatform) (profile : EmbeddedClientProfile) :
    Except String Unit := do
  profile.node.validate platform
  profile.credentials.validate
  let uri ← platform.uri profile.rulesUrl
  validateRulesUri platform uri

/-- The ports and queue numbers that the client always uses. -/
def fixedPorts : List (String × UInt16) :=
  [("localSocksPort", 12580), ("selectedSocksPort", 12581), ("transparentTcpPort", 12345),
    ("transparentUdpPort", 12346), ("selectedTransparentTcpPort", 12347),
    ("selectedTransparentUdpPort", 12348), ("globalUdpQueueNumber", 6100),
    ("selectedUdpQueueNumber", 6101)]

/-- One line of a configuration. -/
def configurationLine (key : String) (value : List Char) : List Char :=
  key.toList ++ '=' :: value ++ ['\n']

/-- `NativeRuntimeConfiguration.create`. -/
def createConfiguration (profile : EmbeddedClientProfile) (internal : InternalSocksCredentials) :
    List Char :=
  configurationLine "upstreamHost" profile.node.host ++
    configurationLine "upstreamPort" (toString profile.node.port).toList ++
    configurationLine "username" profile.credentials.username ++
    configurationLine "password" profile.credentials.password ++
    configurationLine "localUsername" internal.username ++
    configurationLine "localPassword" internal.password ++
    fixedPorts.flatMap fun field => configurationLine field.1 (toString field.2.toNat).toList

end SprakCapture.Client
