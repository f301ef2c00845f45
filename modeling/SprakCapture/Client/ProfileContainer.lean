import SprakCapture.Client.IpLiterals
import SprakCapture.Client.StrictUtf8

/-!
# Profile container

The native side opens the container that a package carries: it checks the header and the sizes,
unlocks the cipher text with the key of the package and checks that the plaintext is a list of
strict UTF-8 fields around a port.
-/

namespace SprakCapture.Client

open Data Data.IpText

/-! ### Plaintext -/

def readU16 : Bytes → Option (UInt16 × Bytes)
  | high :: low :: rest => some (u16FromBe high low, rest)
  | _ => none

/-- Read a field behind its length; fields are not empty. -/
def readProfileField (bytes : Bytes) : Option (Bytes × Bytes) := do
  let (length, rest) ← readU16 bytes
  let field := rest.take length.toNat
  if length = 0 ∨ rest.length < length.toNat ∨ !isStrictUtf8 field then none
  else some (field, rest.drop length.toNat)

/-- `IsIpLiteral`: the host fits into the buffer for an address and is one. -/
def isIpLiteral (inet : InetPton) (host : Bytes) : Bool :=
  host ≠ [] && host.length < 46 && inet.accepts host

/-- Read the fields behind the version: host, port, username, password and rules URL. -/
def readPlaintext (fields : Bytes) : Option (Bytes × UInt16 × Bytes × Bytes × Bytes) := do
  let (host, rest) ← readProfileField fields
  let (port, rest) ← readU16 rest
  let (username, rest) ← readProfileField rest
  let (password, rest) ← readProfileField rest
  let (rulesUrl, rest) ← readProfileField rest
  if rest = [] then some (host, port, username, password, rulesUrl) else none

/-- `ValidatePlaintext`. -/
def validatePlaintext (inet : InetPton) : Bytes → Bool
  | [] => false
  | version :: fields =>
    version == 1 &&
      match readPlaintext fields with
      | some (host, port, username, password, rulesUrl) =>
        host.length ≤ 253 && port != 0 && username.length ≤ 255 && password.length ≤ 255 &&
          rulesUrl.length ≤ 2048 && (message "http://").isPrefixOf rulesUrl &&
          isIpLiteral inet host
      | none => false

/-! ### Container -/

def containerMagic : Bytes := message "SPRKPF01"

def headerSize : Nat := 40

def tagSize : Nat := 16

def maximumPlaintextSize : Nat := 4096

/-- XChaCha20-Poly1305 with a detached tag: unlocking inverts locking, the cipher text is as
long as the plaintext. -/
structure Aead where
  lock : Bytes → Bytes → Bytes → Bytes → Bytes × Bytes
  unlock : Bytes → Bytes → Bytes → Bytes → Bytes → Option Bytes
  length_cipher : ∀ key nonce header plaintext,
    (lock key nonce header plaintext).1.length = plaintext.length
  length_tag : ∀ key nonce header plaintext, (lock key nonce header plaintext).2.length = tagSize
  unlock_lock : ∀ key nonce header plaintext,
    unlock key nonce header (lock key nonce header plaintext).1
      (lock key nonce header plaintext).2 = some plaintext

/-- The big-endian number at an offset. -/
def readU32 (container : Bytes) (offset : Nat) : Option UInt32 :=
  match container.drop offset with
  | first :: second :: third :: fourth :: _ => some (u32FromBe first second third fourth)
  | _ => none

/-- The header and size checks of `DecryptProfile`, with the size of the cipher text. -/
def checkContainer (container : Bytes) : Except String Nat :=
  if container.length < headerSize + tagSize ∨
      headerSize + maximumPlaintextSize + tagSize < container.length ∨
      container.take 8 ≠ containerMagic ∨ container[8]? ≠ some 1 ∨ container[9]? ≠ some 1 ∨
      container[10]? ≠ some 0 ∨ container[11]? ≠ some 0 then
    .error "节点配置密文容器无效"
  else match readU32 container 36 with
    | none => .error "节点配置密文长度无效"
    | some size =>
      if size = 0 ∨ maximumPlaintextSize < size.toNat ∨
          container.length ≠ headerSize + size.toNat + tagSize then
        .error "节点配置密文长度无效"
      else .ok size.toNat

/-- `DecryptProfile` with the key of the package; a key of zeros is an unfilled slot. -/
def decryptProfile (inet : InetPton) (aead : Aead) (key container : Bytes) :
    Except String Bytes := do
  let size ← checkContainer container
  if key.all (· == 0) then .error "节点配置密钥槽尚未封装"
  else
    let nonce := (container.drop 12).take 24
    let cipher := (container.drop headerSize).take size
    let tag := (container.drop (headerSize + size)).take tagSize
    match aead.unlock key nonce (container.take headerSize) cipher tag with
    | none => .error "节点配置认证失败"
    | some plaintext =>
      if validatePlaintext inet plaintext then .ok plaintext else .error "节点配置明文字段无效"

end SprakCapture.Client
