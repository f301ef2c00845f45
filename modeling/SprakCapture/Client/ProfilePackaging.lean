import SprakCapture.Client.ProfileContainer
import SprakCapture.Client.RuntimeConfig

/-!
# Profile packaging

The packager on the server checks a request, writes its connection data as the fields of a
plaintext and locks them in a container. The Kotlin side decodes the plaintext that the native
side unlocked and checks the profile once more.
-/

namespace SprakCapture.Client

open Data Data.IpText

/-! ### Requests -/

/-- A parsed URL and its serialisation. -/
structure Url where
  scheme : List Char
  username : List Char
  password : Option (List Char)
  host : Option (List Char)
  port : Option UInt16
  path : List Char
  query : Option (List Char)
  fragment : Option (List Char)
  asStr : List Char

/-- The URL parser of the packager. A URL that has a host but no user information, query or
fragment is written as its scheme, host, port and path. -/
structure UrlParser where
  parse : List Char → Option Url
  serialized : ∀ text url host port, parse text = some url → url.host = some host →
    url.port = some port → url.username = [] → url.password = none → url.query = none →
    url.fragment = none →
    url.asStr = url.scheme ++ "://".toList ++ host ++ ':' :: IpAddr.decimal port.toNat ++ url.path

structure ClientTemplateRequest where
  templatePath : String
  applicationId : List Char
  applicationName : List Char
  nodeHost : List Char
  nodePort : UInt16
  username : List Char
  password : List Char
  rulesUrl : List Char
  iconBytes : Option Bytes

def maximumIconInputBytes : Nat := 1024 * 1024

def maximumNodeHostBytes : Nat := 253

def maximumCredentialBytes : Nat := 255

def rulesUrlSlotBytes : Nat := 2048

def rulesAuthorityHost : List Char := "client-rules.internal.invalid".toList

def rulesPath : List Char := "/api/v1/client/routing.txt".toList

def isAsciiLowercase (char : Char) : Bool := 'a' ≤ char && char ≤ 'z'

def isValidApplicationId (applicationId : List Char) : Bool :=
  let segments := applicationId.splitOnP (· == '.')
  Text.utf8Length applicationId ≤ 127 && (2 ≤ segments.length && segments.length ≤ 8) &&
    segments.all fun segment =>
      segment.head?.any isAsciiLowercase &&
        segment.all fun char => isAsciiLowercase char || char.isDigit || char == '_'

def validateCredential (name : String) (value : List Char) : Except String Unit :=
  if value.isEmpty || maximumCredentialBytes < Text.utf8Length value then
    .error ("客户端" ++ name ++ "长度必须位于 1..=255 个 UTF-8 字节")
  else if value.any Text.isControl then .error ("客户端" ++ name ++ "不能包含控制字符")
  else .ok ()

/-- The host is the canonical text of an address. -/
def validateNodeHost (nodeHost : List Char) : Except String Unit :=
  match IpAddr.parse nodeHost with
  | none => .error "客户端节点主机必须是规范 IP 字面量"
  | some address => if address.toText ≠ nodeHost then .error "客户端节点主机必须是规范 IP 字面量" else .ok ()

def validateRulesUrl (urls : UrlParser) (rulesUrl : List Char) : Except String Unit :=
  match urls.parse rulesUrl with
  | none => .error "客户端规则地址格式无效"
  | some parsed =>
    if Text.utf8Length rulesUrl ≤ rulesUrlSlotBytes ∧ parsed.scheme = "http".toList ∧
        parsed.host = some rulesAuthorityHost ∧ parsed.port.any (· != 0) ∧
        parsed.path = rulesPath ∧ parsed.query = none ∧ parsed.fragment = none ∧
        parsed.username = [] ∧ parsed.password = none ∧ parsed.asStr = rulesUrl then
      .ok ()
    else .error "客户端规则地址必须是保留域上的规范绝对 HTTP 地址"

/-- `validateRequest`, where the file system says whether a path is a file. -/
def validateRequest (urls : UrlParser) (isFile : String → Bool) (request : ClientTemplateRequest) :
    Except String Unit :=
  if !isValidApplicationId request.applicationId then
    .error "Android applicationId 必须是 2 到 8 段、总长不超过 127 字节的小写包名"
  else if Text.trim request.applicationName ≠ request.applicationName ∨
      request.applicationName.length < 1 ∨ 32 < request.applicationName.length ∨
      request.applicationName.any Text.isControl then
    .error "Android 软件名必须是 1 到 32 个非控制字符且首尾不能留空"
  else if !isFile request.templatePath then
    .error ("预编译客户端模板不存在：" ++ request.templatePath)
  else do
    validateCredential "账号" request.username
    validateCredential "密码" request.password
    validateNodeHost request.nodeHost
    validateRulesUrl urls request.rulesUrl
    if request.iconBytes.any fun bytes => bytes.isEmpty || maximumIconInputBytes < bytes.length then
      .error "自定义图标必须位于 1..=1048576 字节"
    else .ok ()

/-! ### Writing the plaintext and the container -/

/-- The connection data of a profile. -/
structure ProfileFields where
  host : List Char
  port : UInt16
  username : List Char
  password : List Char
  rulesUrl : List Char
deriving DecidableEq

def ClientTemplateRequest.fields (request : ClientTemplateRequest) : ProfileFields where
  host := request.nodeHost
  port := request.nodePort
  username := request.username
  password := request.password
  rulesUrl := request.rulesUrl

/-- Append a field behind its length. -/
def appendProfileField (output : Bytes) (value : List Char) (fieldName : String) :
    Except String Bytes :=
  let bytes := Utf8.encode value
  if 65535 < bytes.length then .error ("客户端" ++ fieldName ++ "超过静态资料字段上限")
  else if bytes.length = 0 then .error ("客户端" ++ fieldName ++ "不能为空")
  else .ok (output ++ u16ToBe (UInt16.ofNat bytes.length) ++ bytes)

def encodeProfilePlaintext (fields : ProfileFields) : Except String Bytes := do
  let plaintext ← appendProfileField [1] fields.host "节点主机"
  let plaintext ← appendProfileField (plaintext ++ u16ToBe fields.port) fields.username "账号"
  let plaintext ← appendProfileField plaintext fields.password "密码"
  appendProfileField plaintext fields.rulesUrl "规则地址"

/-- `encryptProfile` with the random key and nonce of the package. -/
def encryptProfile (aead : Aead) (key nonce : Bytes) (request : ClientTemplateRequest) :
    Except String Bytes :=
  let hostBytes := Utf8.encode request.nodeHost
  if hostBytes = [] ∨ maximumNodeHostBytes < hostBytes.length ∨
      request.nodeHost.any Text.isControl then
    .error "客户端节点主机必须是 1 到 253 字节且不含控制字符"
  else if request.nodePort = 0 then .error "客户端节点端口不能为 0"
  else do
    let plaintext ← encodeProfilePlaintext request.fields
    if 2 ^ 32 ≤ plaintext.length then .error "客户端静态资料明文过长"
    else
      let header :=
        containerMagic ++ [1, 1, 0, 0] ++ nonce ++ u32ToBe (UInt32.ofNat plaintext.length)
      let (cipher, tag) := aead.lock key nonce header plaintext
      .ok (header ++ cipher ++ tag)

/-! ### Decoding on the Kotlin side -/

namespace ProfileDecoder

def requireRemaining (contents : Bytes) (length : Nat) (fieldName : String) : Except String Unit :=
  if length ≤ contents.length then .ok ()
  else .error ("安装包静态资料" ++ fieldName ++ "字段截断")

def readUnsignedByte (contents : Bytes) (fieldName : String) : Except String (UInt8 × Bytes) :=
  match contents with
  | byte :: rest => .ok (byte, rest)
  | [] => .error ("安装包静态资料" ++ fieldName ++ "字段截断")

def readUnsignedShort (contents : Bytes) (fieldName : String) : Except String (UInt16 × Bytes) :=
  match contents with
  | high :: low :: rest => .ok (u16FromBe high low, rest)
  | _ => .error ("安装包静态资料" ++ fieldName ++ "字段截断")

def readUtf8 (contents : Bytes) (fieldName : String) : Except String (List Char × Bytes) := do
  let (length, rest) ← readUnsignedShort contents (fieldName ++ " 长度")
  requireRemaining rest length.toNat fieldName
  match Utf8.decode (rest.take length.toNat) with
  | some text => .ok (text, rest.drop length.toNat)
  | none => .error ("安装包静态资料" ++ fieldName ++ "不是有效 UTF-8")

end ProfileDecoder

def ProfileFields.toProfile (fields : ProfileFields) : EmbeddedClientProfile where
  node := ⟨fields.host, fields.port.toNat⟩
  credentials := ⟨fields.username, fields.password⟩
  rulesUrl := fields.rulesUrl

/-- The decoding part of `parseDecrypted`. -/
def decodeProfile (contents : Bytes) : Except String ProfileFields := do
  let (version, rest) ← ProfileDecoder.readUnsignedByte contents "版本"
  if version ≠ 1 then .error "安装包静态资料版本不受支持"
  else
    let (host, rest) ← ProfileDecoder.readUtf8 rest "服务地址"
    let (port, rest) ← ProfileDecoder.readUnsignedShort rest "服务端口"
    let (username, rest) ← ProfileDecoder.readUtf8 rest "账号"
    let (password, rest) ← ProfileDecoder.readUtf8 rest "密码"
    let (rulesUrl, rest) ← ProfileDecoder.readUtf8 rest "规则地址"
    if rest = [] then .ok { host, port, username, password, rulesUrl }
    else .error "安装包静态资料包含尾随字节"

def parseDecrypted (platform : KotlinPlatform) (contents : Bytes) :
    Except String EmbeddedClientProfile := do
  let fields ← decodeProfile contents
  fields.toProfile.validate platform
  .ok fields.toProfile

end SprakCapture.Client
