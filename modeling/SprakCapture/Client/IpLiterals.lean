import SprakCapture.Client.NativeText
import SprakCapture.Data.IpText

/-!
# Address literals

The native client asks `inet_pton` whether a text is an address, the Kotlin client a parser of
its own for IPv4 and the platform for IPv6. The first is a function with the laws that its
documentation gives, the second has the platform as a parameter.
-/

namespace SprakCapture.Client

open Data Data.IpText List

/-- A byte that occurs in addresses. -/
def isAddressByte (byte : UInt8) : Bool := isAddressCode byte.toNat

/-- What `inet_pton` documents: the strict dotted form and the text form of IPv6 addresses are
addresses, and an address is no longer than `INET6_ADDRSTRLEN` allows and has no other bytes. -/
structure InetPton where
  v4 : Bytes → Option UInt32
  v6 : Bytes → Bool
  v4_strict : ∀ text address, parseIpv4 text = some address → v4 (Utf8.encode text) = some address
  v6_text : ∀ text, isIpv6Text text = true → v6 (Utf8.encode text) = true
  shape : ∀ text, (v4 text).isSome ∨ v6 text = true →
    text ≠ [] ∧ text.length ≤ 45 ∧ text.all isAddressByte = true

/-- The text is an address of either family. -/
def InetPton.accepts (inet : InetPton) (text : Bytes) : Bool := (inet.v4 text).isSome || inet.v6 text

/-- The URI of a profile, taken apart by the platform. -/
structure PlatformUri where
  scheme : Option (List Char)
  host : Option (List Char)
  rawUserInfo : Option (List Char)
  rawFragment : Option (List Char)
  port : Int

/-- What the Kotlin code takes from its platform: `Character.digit`, whether
`InetAddress.getByName` gives an IPv6 address, white space and `java.net.URI`. -/
structure KotlinPlatform where
  digit : Char → Option Nat
  isInet6 : List Char → Bool
  isWhitespace : Char → Bool
  uri : List Char → Except String PlatformUri

/-- `String.toIntOrNull` on digits without a sign. -/
def KotlinPlatform.digitsToInt (platform : KotlinPlatform) (digits : List Char) : Option Nat := do
  let values ← digits.mapM platform.digit
  let value := values.foldl (fun value digit => value * 10 + digit) 0
  if value < 2 ^ 31 then some value else none

/-- `IpAddressLiteral.parseIpv4Bytes`. -/
def KotlinPlatform.parseIpv4Bytes (platform : KotlinPlatform) (value : List Char) :
    Option (List Nat) :=
  let octets := value.splitOnP (· == '.')
  if octets.length ≠ 4 then none
  else octets.mapM fun octet =>
    if octet.isEmpty || (1 < octet.length && octet.head? == some '0') then none
    else do
      let numeric ← platform.digitsToInt octet
      if numeric ≤ 255 then some numeric else none

/-- `IpAddressLiteral.matches`. -/
def KotlinPlatform.isLiteral (platform : KotlinPlatform) (value : List Char) : Bool :=
  (platform.parseIpv4Bytes value).isSome ||
    (value.contains ':' && !value.contains '%' && platform.isInet6 value)

/-- ASCII bytes as characters. -/
def asciiText (bytes : Bytes) : List Char := bytes.map fun byte => Char.ofNat byte.toNat

theorem toNat_ofNat_toNat (byte : UInt8) : (Char.ofNat byte.toNat).toNat = byte.toNat := by
  have small := byte.toNat_lt
  have valid : byte.toNat.isValidChar := .inl (by omega)
  rw [Char.ofNat, dif_pos valid]
  rfl

theorem asciiText_encode {text : List Char}
    (address : ∀ char ∈ text, isAddressChar char = true) : asciiText (Utf8.encode text) = text := by
  induction text with
  | nil => rfl
  | cons char text ih =>
    have allowed := address char mem_cons_self
    have ascii : char.toNat < 128 := by
      simp [isAddressChar, isAddressCode] at allowed
      omega
    have rest :=
      ih fun other member => address other (mem_cons_of_mem _ member)
    have back : Char.ofNat (UInt8.ofNat char.toNat).toNat = char := by
      rw [UInt8.toNat_ofNat_of_lt' (Nat.lt_trans ascii (by decide)), Char.ofNat_toNat]
    rw [Utf8.encode_cons, Utf8.utf8EncodeChar_of_ascii ascii, asciiText, map_append,
      map_singleton, back, singleton_append, ← asciiText, rest]

/-- The `inet_pton` that accepts the documented forms and nothing else. -/
def strictInetPton : InetPton where
  v4 bytes := parseIpv4 (asciiText bytes)
  v6 bytes := isIpv6Text (asciiText bytes)
  v4_strict text address parsed := by
    rw [asciiText_encode (shape_parseIpv4 (by rw [parsed]; rfl)).2.2, parsed]
  v6_text text address := by
    rw [asciiText_encode (shape_isIpv6Text address).2.2, address]
  shape bytes address := by
    have shape : asciiText bytes ≠ [] ∧ (asciiText bytes).length ≤ 45 ∧
        ∀ char ∈ asciiText bytes, isAddressChar char = true := by
      rcases address with v4 | v6
      · obtain ⟨nonempty, short, chars⟩ := shape_parseIpv4 v4
        exact ⟨nonempty, by omega, chars⟩
      · exact shape_isIpv6Text v6
    obtain ⟨nonempty, short, chars⟩ := shape
    refine ⟨by rintro rfl; exact nonempty rfl, by rwa [asciiText, length_map] at short, ?_⟩
    rw [List.all_eq_true]
    intro byte member
    have allowed := chars _ (List.mem_map_of_mem member)
    rwa [isAddressChar, toNat_ofNat_toNat] at allowed

end SprakCapture.Client
