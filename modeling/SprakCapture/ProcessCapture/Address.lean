import SprakCapture.Data.Bytes

/-!
# Addresses

IP and socket addresses as the capture code sees them, with the queries of the
standard library it relies on. `normalizeIpAddress` folds an IPv4-mapped IPv6
address into IPv4, so that socket events and network packets use one key.
-/

namespace SprakCapture.ProcessCapture

open Data

/-- An instant of the monotonic clock, in nanoseconds. -/
abbrev Instant := Nat

/-- A span of the monotonic clock, in nanoseconds. -/
abbrev Duration := Nat

/-- `Duration::from_secs`. -/
def fromSeconds (seconds : Nat) : Duration := seconds * 1000000000

/-- An IP address by its octets in network order. -/
inductive IpAddr where
  | v4 (octets : Octets 4)
  | v6 (octets : Octets 16)
deriving DecidableEq

/-- A transport address; IPv6 carries flow information and a scope. -/
inductive SocketAddr where
  | v4 (ip : Octets 4) (port : UInt16)
  | v6 (ip : Octets 16) (port : UInt16) (flowinfo scopeId : UInt32)
deriving DecidableEq

variable (address : IpAddr)

namespace IpAddr

/-- The IPv4 address with the given octets. -/
def ipv4 (first second third fourth : UInt8) : IpAddr := .v4 (.quad first second third fourth)

/-- The address `0.0.0.0`. -/
def unspecifiedV4 : IpAddr := ipv4 0 0 0 0

/-- The address `127.0.0.1`. -/
def localhostV4 : IpAddr := ipv4 127 0 0 1

/-- The address `::`. -/
def unspecifiedV6 : IpAddr := .v6 ⟨[0, 0, 0, 0, 0, 0, 0, 0, 0, 0, 0, 0, 0, 0, 0, 0], rfl⟩

/-- The address `::1`. -/
def localhostV6 : IpAddr := .v6 ⟨[0, 0, 0, 0, 0, 0, 0, 0, 0, 0, 0, 0, 0, 0, 0, 1], rfl⟩

/-- The octets as they stand in a packet. -/
def octets : IpAddr → Bytes
  | .v4 octets => octets.bytes
  | .v6 octets => octets.bytes

def isIpv4 : IpAddr → Bool
  | .v4 _ => true
  | .v6 _ => false

def isLoopback : IpAddr → Bool
  | .v4 octets => octets.bytes.head? == some 127
  | .v6 octets => IpAddr.v6 octets == localhostV6

def isUnspecified (address : IpAddr) : Bool :=
  address == unspecifiedV4 || address == unspecifiedV6

/-- The unspecified address of the same family. -/
def wildcard (address : IpAddr) : IpAddr :=
  if address.isIpv4 then unspecifiedV4 else unspecifiedV6

theorem length_octets :
    address.octets.length = if address.isIpv4 then 4 else 16 := by
  cases address with
  | v4 octets | v6 octets => exact octets.width

theorem exists_v4 {address : IpAddr} (family : address.isIpv4 = true) :
    ∃ octets, address = .v4 octets := by
  cases address with
  | v4 octets => exact ⟨octets, rfl⟩
  | v6 octets => cases family

theorem exists_v6 {address : IpAddr} (family : address.isIpv4 = false) :
    ∃ octets, address = .v6 octets := by
  cases address with
  | v4 octets => cases family
  | v6 octets => exact ⟨octets, rfl⟩

@[simp] theorem isIpv4_wildcard : address.wildcard.isIpv4 = address.isIpv4 := by
  cases address with
  | v4 octets | v6 octets => rfl

end IpAddr

/-- `Ipv6Addr::is_unicast_link_local`, the block `fe80::/10`. -/
def isUnicastLinkLocal (octets : Octets 16) : Bool :=
  match octets.bytes with
  | first :: second :: _ => first == 0xfe && second &&& 0xc0 == 0x80
  | _ => false

/-- The twelve octets in front of an IPv4 address in its IPv4-mapped form. -/
def ipv4MappedPrefix : Bytes := [0, 0, 0, 0, 0, 0, 0, 0, 0, 0, 0xff, 0xff]

/-- `Ipv6Addr::to_ipv4_mapped`. -/
def toIpv4Mapped (octets : Octets 16) : Option (Octets 4) :=
  if octets.bytes.take 12 = ipv4MappedPrefix then
    some ⟨octets.bytes.drop 12, by rw [List.length_drop, octets.width]⟩
  else none

def normalizeIpAddress : IpAddr → IpAddr
  | .v6 octets =>
    match toIpv4Mapped octets with
    | some mapped => .v4 mapped
    | none => .v6 octets
  | .v4 octets => .v4 octets

namespace SocketAddr

/-- `SocketAddr::new`: an IPv6 address starts without flow information or scope. -/
def new : IpAddr → UInt16 → SocketAddr
  | .v4 octets, port => .v4 octets port
  | .v6 octets, port => .v6 octets port 0 0

def ip : SocketAddr → IpAddr
  | .v4 octets _ => .v4 octets
  | .v6 octets _ _ _ => .v6 octets

def port : SocketAddr → UInt16
  | .v4 _ port => port
  | .v6 _ port _ _ => port

end SocketAddr

/-- A normalised address is a fixed point of normalisation. -/
@[simp] theorem normalizeIpAddress_idem :
    normalizeIpAddress (normalizeIpAddress address) = normalizeIpAddress address := by
  cases address with
  | v4 octets => rfl
  | v6 octets =>
    grind [normalizeIpAddress]

end SprakCapture.ProcessCapture
