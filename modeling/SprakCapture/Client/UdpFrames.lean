import SprakCapture.Client.DnsForwarding
import SprakCapture.Socks5.TargetAddress

/-!
# SOCKS5 datagrams of the native client

The client writes and reads the frames of relayed datagrams. The type of an address is found by
asking `inet_pton` whether the host, as a C string, is an address. An `AddressField` is what the
wire knows of an address, and `appendAddress_eq` and `parseUdpFrame_eq_some` say what the client
writes and reads in its terms.
-/

namespace SprakCapture.Client

open Data List
open ProcessCapture (IpAddr)
open Socks5 (octets? readU8_eq_ok readExact_eq_ok getElem?_eq_some_iff_read
  octets?_eq_some_iff_read)

/-- `inet_pton` and `inet_ntop` for both families, on C strings. -/
structure InetText where
  pton4 : Bytes → Option (Octets 4)
  pton6 : Bytes → Option (Octets 16)
  ntop4 : Octets 4 → Bytes
  ntop6 : Octets 16 → Bytes

namespace InetText

/-- The text of an address. -/
def ntop (inet : InetText) : IpAddr → Bytes
  | .v4 octets => inet.ntop4 octets
  | .v6 octets => inet.ntop6 octets

/-- The address that a text is, as `AppendAddress` asks for it. -/
def literal? (inet : InetText) (text : Bytes) : Option IpAddr :=
  match inet.pton4 text with
  | some octets => some (.v4 octets)
  | none => (inet.pton6 text).map .v6

/-- What is documented: the text that is made of an address is that address, and an address is
short and has no bytes but hexadecimal digits, dots and colons. -/
structure Lawful (inet : InetText) : Prop where
  literal_ntop : ∀ address, inet.literal? (inet.ntop address) = some address
  shape : ∀ text, (inet.literal? text).isSome →
    text ≠ [] ∧ text.length ≤ 45 ∧ text.all isAddressByte = true

end InetText

/-! ### The codec of the client -/

def kAddressIpv4 : UInt8 := 1
def kAddressDomain : UInt8 := 3
def kAddressIpv6 : UInt8 := 4

/-- `c_str()`, as far as a function for C strings reads it. -/
def cString (text : Bytes) : Bytes := text.takeWhile (· ≠ 0)

section Codec

variable (inet : InetText)

/-- Append the address field of a target. -/
def appendAddress (target : TargetAddress) (bytes : Bytes) : Option Bytes :=
  match inet.pton4 (cString target.host) with
  | some ipv4 => some (bytes ++ [kAddressIpv4] ++ ipv4.bytes ++ u16ToBe target.port)
  | none =>
    match inet.pton6 (cString target.host) with
    | some ipv6 => some (bytes ++ [kAddressIpv6] ++ ipv6.bytes ++ u16ToBe target.port)
    | none =>
      if target.host = [] ∨ 255 < target.host.length then none
      else
        some (bytes ++ [kAddressDomain, UInt8.ofNat target.host.length] ++ target.host ++
          u16ToBe target.port)

/-- The host behind a type byte, and the offset behind the host. -/
def parseMemoryHost (bytes : Bytes) (type : UInt8) (cursor : Nat) : Option (Bytes × Nat) :=
  if type = kAddressIpv4 then
    (octets? 4 bytes cursor).map fun octets => (inet.ntop4 octets, cursor + 4)
  else if type = kAddressIpv6 then
    (octets? 16 bytes cursor).map fun octets => (inet.ntop6 octets, cursor + 16)
  else if type = kAddressDomain then
    match bytes[cursor]? with
    | none => none
    | some size =>
      if size = 0 then none
      else
        (octets? size.toNat bytes (cursor + 1)).map fun octets =>
          (octets.bytes, cursor + 1 + size.toNat)
  else none

/-- The target at an offset, and the offset behind it. -/
def parseMemoryAddress (bytes : Bytes) (cursor : Nat) : Option (TargetAddress × Nat) :=
  match bytes[cursor]? with
  | none => none
  | some type =>
    match parseMemoryHost inet bytes type (cursor + 1) with
    | none => none
    | some (host, cursor) =>
      match bytes[cursor]?, bytes[cursor + 1]? with
      | some high, some low =>
        let port := u16FromBe high low
        if port = 0 then none else some (⟨host, port⟩, cursor + 2)
      | _, _ => none

def parseUdpFrame (bytes : Bytes) : Option (TargetAddress × Bytes) :=
  if bytes.length < 4 ∨ bytes[0]? ≠ some 0 ∨ bytes[1]? ≠ some 0 ∨ bytes[2]? ≠ some 0 then none
  else
    match parseMemoryAddress inet bytes 3 with
    | none => none
    | some (target, cursor) => some (target, bytes.drop cursor)

def buildUdpFrame (target : TargetAddress) (payload : Bytes) : Option Bytes :=
  match appendAddress inet target [0, 0, 0] with
  | none => none
  | some frame => some (frame ++ payload)

end Codec

/-! ### Address fields -/

/-- The type and the host of an address as they stand on the wire. -/
inductive AddressField where
  | ip (address : IpAddr)
  | domain (text : Bytes) (nonempty : text ≠ []) (fits : text.length < 256)

namespace AddressField

def wire : AddressField → Bytes
  | .ip (.v4 octets) => kAddressIpv4 :: octets.bytes
  | .ip (.v6 octets) => kAddressIpv6 :: octets.bytes
  | .domain text _ _ => kAddressDomain :: UInt8.ofNat text.length :: text

/-- The host that the client takes a field for. -/
def text (inet : InetText) : AddressField → Bytes
  | .ip address => inet.ntop address
  | .domain text _ _ => text

end AddressField

/-- The field that is written for a host. -/
def InetText.fieldOf (inet : InetText) (host : Bytes) : Option AddressField :=
  match inet.literal? (cString host) with
  | some address => some (.ip address)
  | none =>
    if valid : host ≠ [] ∧ host.length < 256 then some (.domain host valid.1 valid.2) else none

variable {cursor stop : Nat} (target : TargetAddress)

section Fields

variable {inet : InetText}

theorem appendAddress_eq (bytes : Bytes) :
    appendAddress inet target bytes =
      (inet.fieldOf target.host).map fun field => bytes ++ field.wire ++ u16ToBe target.port := by
  grind [appendAddress, InetText.fieldOf, InetText.literal?, AddressField.wire]

theorem buildUdpFrame_eq (payload : Bytes) :
    buildUdpFrame inet target payload =
      (inet.fieldOf target.host).map fun field =>
        [0, 0, 0] ++ (field.wire ++ u16ToBe target.port) ++ payload := by
  rw [buildUdpFrame, appendAddress_eq]
  cases inet.fieldOf target.host with
  | none => rfl
  | some field => simp

/-- Two ends of a buffer that differ by a part lie as far apart as the part is long. -/
theorem stop_of_drop_eq {bytes part : Bytes} (inside : cursor ≤ bytes.length)
    (stopInside : stop ≤ bytes.length) (split : bytes.drop cursor = part ++ bytes.drop stop) :
    stop = cursor + part.length := by
  have lengths := congrArg List.length split
  grind

variable {bytes : Bytes}

/-- A range of a buffer, as a part of what is left of the buffer. -/
theorem octets?_eq_some {count : Nat} {start : Nat} {octets : Octets count} :
    octets? count bytes start = some octets ↔
      start + count ≤ bytes.length ∧
        bytes.drop start = octets.bytes ++ bytes.drop (start + count) := by
  rw [octets?_eq_some_iff_read, readExact_eq_ok]

/-- A text that a buffer goes on with is read with its length. -/
theorem octets?_map_of_drop {count : Nat} {bytes text : Bytes} {start : Nat}
    (counted : count = text.length) (inside : start + text.length ≤ bytes.length)
    (split : bytes.drop start = text ++ bytes.drop (start + text.length)) :
    ((octets? count bytes start).map fun octets => (octets.bytes, start + count)) =
      some (text, start + text.length) := by
  subst counted
  rw [octets?_eq_some.2 (⟨inside, split⟩ :
    _ ∧ _ = (⟨text, rfl⟩ : Octets text.length).bytes ++ _)]
  rfl

theorem getElem?_eq_some_iff_drop {index : Nat} {byte : UInt8} :
    bytes[index]? = some byte ↔
      index + 1 ≤ bytes.length ∧ bytes.drop index = byte :: bytes.drop (index + 1) := by
  rw [getElem?_eq_some_iff_read, readU8_eq_ok]

/-- A length byte that is not zero, with a text of that length, is a field. -/
theorem exists_domain {size : UInt8} (octets : Octets size.toNat) (nonempty : ¬size = 0) :
    ∃ field : AddressField, field.text inet = octets.bytes ∧
      field.wire = kAddressDomain :: size :: octets.bytes := by
  have notEmpty : octets.bytes ≠ [] := by
    intro empty
    have width := octets.width
    rw [empty] at width
    exact nonempty (UInt8.toNat_inj.mp width.symm)
  have fits : octets.bytes.length < 256 := by
    rw [octets.width]
    exact size.toNat_lt
  refine ⟨.domain octets.bytes notEmpty fits, rfl, ?_⟩
  rw [AddressField.wire, octets.width, UInt8.ofNat_toNat]

theorem parseMemoryHost_eq_some {type : UInt8} {host : Bytes} (inside : cursor ≤ bytes.length) :
    parseMemoryHost inet bytes type cursor = some (host, stop) ↔
      ∃ field : AddressField, field.text inet = host ∧ stop ≤ bytes.length ∧
        type :: bytes.drop cursor = field.wire ++ bytes.drop stop := by
  constructor
  · intro parsed
    unfold parseMemoryHost at parsed
    split at parsed
    · rename_i isIpv4
      obtain ⟨octets, found, same⟩ := Option.map_eq_some_iff.mp parsed
      cases same
      obtain ⟨fits, split⟩ := octets?_eq_some.1 found
      exact ⟨.ip (.v4 octets), rfl, fits, by rw [isIpv4, split]; rfl⟩
    split at parsed
    · rename_i isIpv6
      obtain ⟨octets, found, same⟩ := Option.map_eq_some_iff.mp parsed
      cases same
      obtain ⟨fits, split⟩ := octets?_eq_some.1 found
      exact ⟨.ip (.v6 octets), rfl, fits, by rw [isIpv6, split]; rfl⟩
    split at parsed
    · split at parsed
      · cases parsed
      rename_i size isSize
      split at parsed
      · cases parsed
      rename_i nonempty
      obtain ⟨octets, found, same⟩ := Option.map_eq_some_iff.mp parsed
      obtain ⟨-, sized⟩ := getElem?_eq_some_iff_drop.1 isSize
      obtain ⟨fits, split⟩ := octets?_eq_some.1 found
      obtain ⟨field, _, _⟩ := @exists_domain inet _ octets nonempty
      grind
    · cases parsed
  · rintro ⟨field, rfl, stopInside, split⟩
    rcases field with (octets | octets) | ⟨text, nonempty, fits⟩
    · obtain ⟨rfl, rest⟩ := List.cons.inj split
      obtain rfl := stop_of_drop_eq inside stopInside rest
      rw [octets.width] at stopInside rest ⊢
      rw [parseMemoryHost, octets?_eq_some.2 ⟨stopInside, rest⟩]
      rfl
    · obtain ⟨rfl, rest⟩ := List.cons.inj split
      obtain rfl := stop_of_drop_eq inside stopInside rest
      rw [octets.width] at stopInside rest ⊢
      rw [parseMemoryHost, octets?_eq_some.2 ⟨stopInside, rest⟩]
      rfl
    · obtain ⟨rfl, rest⟩ := List.cons.inj split
      have counted : (UInt8.ofNat text.length).toNat = text.length := by
        rw [UInt8.toNat_ofNat', Nat.mod_eq_of_lt fits]
      have positive : ¬UInt8.ofNat text.length = 0 := by
        intro zero
        rw [zero] at counted
        grind
      have sized : bytes[cursor]? = some (UInt8.ofNat text.length) := by
        have first : (bytes.drop cursor)[0]? = some (UInt8.ofNat text.length) := by
          rw [rest]
          rfl
        rwa [getElem?_drop] at first
      obtain ⟨sizeInside, dropped⟩ := getElem?_eq_some_iff_drop.1 sized
      have behind : bytes.drop (cursor + 1) = text ++ bytes.drop stop :=
        (List.cons.inj (dropped.symm.trans rest)).2
      obtain rfl := stop_of_drop_eq sizeInside stopInside behind
      rw [parseMemoryHost, sized]
      dsimp only
      rw [if_neg positive]
      exact octets?_map_of_drop counted stopInside behind

theorem getElem?_port_iff {cursor : Nat} {high low : UInt8} :
    (bytes[cursor]? = some high ∧ bytes[cursor + 1]? = some low) ↔
      cursor + 2 ≤ bytes.length ∧ bytes.drop cursor = [high, low] ++ bytes.drop (cursor + 2) := by
  constructor
  · rintro ⟨isHigh, isLow⟩
    obtain ⟨-, first⟩ := getElem?_eq_some_iff_drop.1 isHigh
    obtain ⟨inside, second⟩ := getElem?_eq_some_iff_drop.1 isLow
    exact ⟨inside, by rw [first, second]; rfl⟩
  · rintro ⟨inside, split⟩
    have bothBytes (index : Nat) : bytes[cursor + index]? =
        ([high, low] ++ bytes.drop (cursor + 2))[index]? := by
      rw [← getElem?_drop, split]
    exact ⟨bothBytes 0, bothBytes 1⟩

theorem parseMemoryAddress_eq_some {target : TargetAddress} :
    parseMemoryAddress inet bytes cursor = some (target, stop) ↔
      ∃ field : AddressField, field.text inet = target.host ∧ target.port ≠ 0 ∧
        stop ≤ bytes.length ∧
          bytes.drop cursor = field.wire ++ u16ToBe target.port ++ bytes.drop stop := by
  constructor
  · intro parsed
    unfold parseMemoryAddress at parsed
    split at parsed
    · cases parsed
    rename_i type isType
    obtain ⟨typeInside, typed⟩ := getElem?_eq_some_iff_drop.1 isType
    split at parsed
    · cases parsed
    rename_i host behind isHost
    obtain ⟨field, isText, -, wire⟩ := (parseMemoryHost_eq_some typeInside).mp isHost
    split at parsed
    · rename_i high low isHigh isLow
      obtain ⟨inside, split⟩ := getElem?_port_iff.1 ⟨isHigh, isLow⟩
      dsimp only at parsed
      split at parsed
      · cases parsed
      · rename_i notZero
        cases parsed
        refine ⟨field, isText, notZero, inside, ?_⟩
        rw [typed, wire, split, u16ToBe_fromBe, append_assoc]
    · cases parsed
  · rintro ⟨field, isText, notZero, inside, split⟩
    obtain ⟨type, body, isWire⟩ : ∃ type body, field.wire = type :: body := by
      rcases field with (octets | octets) | ⟨text, _, _⟩
      · exact ⟨_, _, rfl⟩
      · exact ⟨_, _, rfl⟩
      · exact ⟨_, _, rfl⟩
    have behind : bytes.drop (cursor + field.wire.length) =
        u16ToBe target.port ++ bytes.drop stop := by
      rw [← drop_drop, split, append_assoc, drop_left]
    have lengths := congrArg List.length split
    rw [length_append, length_append, length_u16ToBe, length_drop, length_drop] at lengths
    have stops : stop = cursor + field.wire.length + 2 := by omega
    subst stops
    have typed : bytes[cursor]? = some type := by
      have first : (bytes.drop cursor)[0]? = some type := by
        rw [split, isWire]
        rfl
      rwa [getElem?_drop] at first
    obtain ⟨typeInside, dropped⟩ := getElem?_eq_some_iff_drop.1 typed
    have hosted : parseMemoryHost inet bytes type (cursor + 1) =
        some (target.host, cursor + field.wire.length) := by
      refine (parseMemoryHost_eq_some typeInside).mpr ⟨field, isText, by omega, ?_⟩
      rw [← dropped, split, behind, append_assoc]
    obtain ⟨isHigh, isLow⟩ := getElem?_port_iff.2 ⟨inside, behind⟩
    unfold parseMemoryAddress
    rw [typed]
    dsimp only
    rw [hosted]
    dsimp only
    rw [isHigh, isLow]
    dsimp only
    rw [u16FromBe_toBe, if_neg notZero]

theorem eq_header_append (first : bytes[0]? = some 0) (second : bytes[1]? = some 0)
    (third : bytes[2]? = some 0) : bytes = [0, 0, 0] ++ bytes.drop 3 := by
  match bytes with
  | [] => cases first
  | [_] => cases second
  | [_, _] => cases third
  | zero :: one :: two :: rest =>
    cases first
    cases second
    cases third
    rfl

theorem parseUdpFrame_eq_some {bytes payload : Bytes} {target : TargetAddress} :
    parseUdpFrame inet bytes = some (target, payload) ↔
      ∃ field : AddressField, field.text inet = target.host ∧ target.port ≠ 0 ∧
        bytes = [0, 0, 0] ++ (field.wire ++ u16ToBe target.port) ++ payload := by
  unfold parseUdpFrame
  constructor
  · intro parsed
    split at parsed
    · cases parsed
    rename_i header
    split at parsed
    · cases parsed
    · rename_i found cursor isAddress
      obtain ⟨field, isText, notZero, -, split⟩ := parseMemoryAddress_eq_some.1 isAddress
      grind [eq_header_append]
  · rintro ⟨field, isText, notZero, rfl⟩
    have long : 4 ≤ ([0, 0, 0] ++ (field.wire ++ u16ToBe target.port) ++ payload).length := by
      grind [length_u16ToBe]
    have stops : ([0, 0, 0] ++ (field.wire ++ u16ToBe target.port) ++ payload).drop
        ([0, 0, 0] ++ (field.wire ++ u16ToBe target.port)).length = payload := drop_left
    have address : parseMemoryAddress inet
        ([0, 0, 0] ++ (field.wire ++ u16ToBe target.port) ++ payload) 3 =
          some (target, ([0, 0, 0] ++ (field.wire ++ u16ToBe target.port)).length) := by
      refine parseMemoryAddress_eq_some.2 ⟨field, isText, notZero, ?_, ?_⟩
      · simp
      · rw [stops]
        rfl
    simp_all

end Fields

end SprakCapture.Client
