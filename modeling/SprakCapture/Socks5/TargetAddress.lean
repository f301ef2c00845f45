import SprakCapture.ProcessCapture.Address

/-!
# SOCKS5 target addresses

The address field of SOCKS5 requests and datagrams: a type byte, an IPv4 address, an IPv6
address or a length-prefixed domain, and a port in network order. The slice decoder serves
datagrams and the stream decoder serves requests. `decodeTargetAddress_eq_ok` and
`readTargetAddress_eq_ok` characterise both by the same encoding, so that they accept the
same prefixes and invert the encoder.
-/

namespace SprakCapture.Socks5

open Data List Data.Outcome Outcome
open Outcome (bind_eq_ok ok_bind)
open ProcessCapture (IpAddr SocketAddr)

/-- The host part of a target; a domain keeps its text until it is resolved. -/
inductive TargetHost where
  | ip (address : IpAddr)
  | domain (name : String)
deriving DecidableEq

structure TargetAddress where
  host : TargetHost
  port : UInt16
deriving DecidableEq

/-- The errors of the address codec. -/
inductive Socks5Error where
  | unexpectedEof
  | invalidInput (detail : String)
  | unsupportedAddressType (addressType : UInt8)
  | invalidDomain
  | invalidUdpPacket (detail : String)
deriving DecidableEq

def addressTypeIpv4 : UInt8 := 0x01
def addressTypeDomain : UInt8 := 0x03
def addressTypeIpv6 : UInt8 := 0x04

/-- The target of a socket address, which needs no name resolution. -/
def TargetAddress.fromSocketAddress : SocketAddr → TargetAddress
  | .v4 ip port => ⟨.ip (.v4 ip), port⟩
  | .v6 ip port _ _ => ⟨.ip (.v6 ip), port⟩

/-- The UTF-8 bytes of a text. -/
def utf8Bytes (text : String) : Bytes := text.toByteArray.data.toList

/-- `String::from_utf8`. -/
def fromUtf8 (bytes : Bytes) : Option String := String.fromUTF8? ⟨bytes.toArray⟩

/-- An optional value, with the error that stands for its absence. -/
def orRaise {Value : Type} (value : Option Value) (error : Socks5Error) :
    Outcome Socks5Error Value :=
  match value with
  | some value => .ok value
  | none => Outcome.raise error

/-! ### Encoding -/

/-- The domain part of both encoders; they differ in the error for a text that is too long. -/
def encodeDomain (name : String) (tooLong : Socks5Error) : Outcome Socks5Error Bytes := do
  raiseIf (256 ≤ (utf8Bytes name).length) tooLong
  raiseIf ((utf8Bytes name).length = 0) .invalidDomain
  pure ([addressTypeDomain, UInt8.ofNat (utf8Bytes name).length] ++ utf8Bytes name)

/-- The type byte and the host part of both encoders. -/
def encodeTargetHost (host : TargetHost) (tooLong : Socks5Error) : Outcome Socks5Error Bytes :=
  match host with
  | .ip (.v4 octets) => pure ([addressTypeIpv4] ++ octets.bytes)
  | .ip (.v6 octets) => pure ([addressTypeIpv6] ++ octets.bytes)
  | .domain name => encodeDomain name tooLong

/-- Append the encoding of an address to a buffer. -/
def encodeTargetAddress (address : TargetAddress) (output : Bytes) : Outcome Socks5Error Bytes := do
  let host ← encodeTargetHost address.host .invalidDomain
  pure (output ++ host ++ u16ToBe address.port)

/-- The bytes that are written to a stream for an address. -/
def writeTargetAddress (address : TargetAddress) : Outcome Socks5Error Bytes := do
  let host ← encodeTargetHost address.host (.invalidInput "SOCKS5 域名超过255字节")
  pure (host ++ u16ToBe address.port)

/-! ### Decoding -/

/-- `input.get(start..start + count)`. -/
def octets? (count : Nat) (input : Bytes) (start : Nat) : Option (Octets count) :=
  if inside : start + count ≤ input.length then
    some ⟨(input.drop start).take count, length_take_drop inside⟩
  else none

/-- The host behind a type byte, and the offset behind the host. -/
def decodeTargetHost (input : Bytes) (addressType : UInt8) (cursor : Nat) :
    Outcome Socks5Error (TargetHost × Nat) :=
  if addressType = addressTypeIpv4 then do
    let octets ← orRaise (octets? 4 input cursor) (.invalidUdpPacket "IPv4 地址被截断")
    pure (.ip (.v4 octets), cursor + 4)
  else if addressType = addressTypeIpv6 then do
    let octets ← orRaise (octets? 16 input cursor) (.invalidUdpPacket "IPv6 地址被截断")
    pure (.ip (.v6 octets), cursor + 16)
  else if addressType = addressTypeDomain then do
    let length ← orRaise input[cursor]? (.invalidUdpPacket "缺少域名长度")
    raiseIf (length = 0) .invalidDomain
    let bytes ← orRaise (octets? length.toNat input (cursor + 1)) (.invalidUdpPacket "域名被截断")
    let name ← orRaise (fromUtf8 bytes.bytes) .invalidDomain
    pure (.domain name, cursor + 1 + length.toNat)
  else Outcome.raise (.unsupportedAddressType addressType)

/-- `u16::from_be_bytes` of a slice of two bytes. -/
def portOf (octets : Octets 2) : Outcome Socks5Error UInt16 := do
  let high ← byteAt octets.bytes 0
  let low ← byteAt octets.bytes 1
  pure (u16FromBe high low)

/-- Decode the address at an offset and return the offset behind it. -/
def decodeTargetAddress (input : Bytes) (offset : Nat) :
    Outcome Socks5Error (TargetAddress × Nat) := do
  let addressType ← orRaise input[offset]? (.invalidUdpPacket "缺少地址类型")
  let host ← decodeTargetHost input addressType (offset + 1)
  let portBytes ← orRaise (octets? 2 input host.2) (.invalidUdpPacket "端口被截断")
  let port ← portOf portBytes
  pure (⟨host.1, port⟩, host.2 + 2)

/-- The next byte of a stream. -/
def readU8 : Bytes → Outcome Socks5Error (UInt8 × Bytes)
  | [] => Outcome.raise .unexpectedEof
  | byte :: stream => pure (byte, stream)

/-- The next bytes of a stream, as many as the buffer holds. -/
def readExact (count : Nat) (stream : Bytes) : Outcome Socks5Error (Octets count × Bytes) :=
  if enough : count ≤ stream.length then
    pure (⟨stream.take count, by rw [length_take]; omega⟩, stream.drop count)
  else Outcome.raise .unexpectedEof

/-- The next two bytes of a stream in network order. -/
def readU16 (stream : Bytes) : Outcome Socks5Error (UInt16 × Bytes) := do
  let high ← readU8 stream
  let low ← readU8 high.2
  pure (u16FromBe high.1 low.1, low.2)

/-- The host behind a type byte, and the stream behind the host. -/
def readTargetHost (addressType : UInt8) (stream : Bytes) :
    Outcome Socks5Error (TargetHost × Bytes) :=
  if addressType = addressTypeIpv4 then do
    let octets ← readExact 4 stream
    pure (.ip (.v4 octets.1), octets.2)
  else if addressType = addressTypeIpv6 then do
    let octets ← readExact 16 stream
    pure (.ip (.v6 octets.1), octets.2)
  else if addressType = addressTypeDomain then do
    let length ← readU8 stream
    raiseIf (length.1 = 0) .invalidDomain
    let bytes ← readExact length.1.toNat length.2
    let name ← orRaise (fromUtf8 bytes.1.bytes) .invalidDomain
    pure (.domain name, bytes.2)
  else Outcome.raise (.unsupportedAddressType addressType)

/-- Read an address from a stream and return the rest of the stream. -/
def readTargetAddress (stream : Bytes) : Outcome Socks5Error (TargetAddress × Bytes) := do
  let addressType ← readU8 stream
  let host ← readTargetHost addressType.1 addressType.2
  let port ← readU16 host.2
  pure (⟨host.1, port.1⟩, port.2)

/-! ### Datagrams -/

structure UdpPacket where
  destination : TargetAddress
  payload : Bytes
deriving DecidableEq

def decodeUdpPacket (rawPacket : Bytes) : Outcome Socks5Error UdpPacket := do
  raiseIf (rawPacket.length < 4) (.invalidUdpPacket "数据报过短")
  let first ← byteAt rawPacket 0
  let second ← byteAt rawPacket 1
  raiseIf (first ≠ 0 ∨ second ≠ 0) (.invalidUdpPacket "保留字段非零")
  let fragment ← byteAt rawPacket 2
  raiseIf (fragment ≠ 0) (.invalidUdpPacket "当前实现不接受 UDP 分片")
  let destination ← decodeTargetAddress rawPacket 3
  let payload ← slice rawPacket destination.2 rawPacket.length
  pure { destination := destination.1, payload := payload }

def encodeUdpPacket (source : SocketAddr) (payload : Bytes) : Outcome Socks5Error Bytes := do
  let packet ← encodeTargetAddress (.fromSocketAddress source) [0x00, 0x00, 0x00]
  pure (packet ++ payload)

/-! ### The wire format -/

/-- The encoding of a host. -/
def TargetHost.wire : TargetHost → Bytes
  | .ip (.v4 octets) => addressTypeIpv4 :: octets.bytes
  | .ip (.v6 octets) => addressTypeIpv6 :: octets.bytes
  | .domain name => addressTypeDomain :: UInt8.ofNat (utf8Bytes name).length :: utf8Bytes name

/-- The encoding of an address. -/
def TargetAddress.wire (address : TargetAddress) : Bytes :=
  address.host.wire ++ u16ToBe address.port

/-- The hosts that have an encoding: the length of a domain fits its length byte. -/
def TargetHost.Encodable : TargetHost → Prop
  | .ip _ => True
  | .domain name => 0 < (utf8Bytes name).length ∧ (utf8Bytes name).length < 256

section Parts

variable {Value : Type} {value : Value} {option : Option Value} {error : Socks5Error}

theorem orRaise_eq_ok : orRaise option error = .ok value ↔ option = some value := by
  cases option with
  | none | some => simp [orRaise]

theorem fromUtf8_utf8Bytes (text : String) : fromUtf8 (utf8Bytes text) = some text := by
  exact dif_pos text.isValidUTF8

theorem utf8Bytes_of_fromUtf8 {bytes : Bytes} {text : String} (decoded : fromUtf8 bytes = some text) :
    utf8Bytes text = bytes := by
  unfold fromUtf8 String.fromUTF8? at decoded
  split at decoded
  · cases decoded
    simp [utf8Bytes, String.fromUTF8]
  · cases decoded

theorem fromUtf8_eq_some {bytes : Bytes} {text : String} :
    fromUtf8 bytes = some text ↔ bytes = utf8Bytes text := by
  grind [utf8Bytes_of_fromUtf8, fromUtf8_utf8Bytes]

end Parts

section Slices

variable {input rest : Bytes} {start count : Nat} {byte : UInt8}

theorem readU8_eq_ok : readU8 input = .ok (byte, rest) ↔ input = byte :: rest := by
  cases input with
  | nil => simp [readU8]
  | cons _ input => simp [readU8, pure, Except.pure]

variable {octets : Octets count}

theorem readExact_eq_ok :
    readExact count input = .ok (octets, rest) ↔ input = octets.bytes ++ rest := by
  unfold readExact
  split
  · simp only [pure, Except.pure]
    constructor
    · rintro ⟨rfl, rfl⟩
      exact (take_append_drop count input).symm
    simp_all
  · rename_i short
    constructor
    · rintro ⟨⟩
    · rintro rfl
      simp at short

theorem readU16_eq_ok {value : UInt16} :
    readU16 input = .ok (value, rest) ↔ input = u16ToBe value ++ rest := by
  unfold readU16
  simp only [bind_eq_ok, Prod.exists, readU8_eq_ok]
  constructor
  · rintro ⟨_, _, rfl, _, _, rfl, equal⟩
    cases equal
    rw [u16ToBe_fromBe]
    rfl
  · rintro rfl
    refine ⟨_, _, rfl, _, _, rfl, ?_⟩
    rw [u16FromBe_toBe]
    rfl

/-- A byte of a buffer is what a stream over the rest of the buffer delivers next. -/
theorem getElem?_eq_some_iff_read :
    input[start]? = some byte ↔
      start + 1 ≤ input.length ∧ readU8 (input.drop start) = .ok (byte, input.drop (start + 1)) := by
  rw [readU8_eq_ok, List.getElem?_eq_some_iff]
  constructor
  · rintro ⟨inside, rfl⟩
    exact ⟨inside, drop_eq_getElem_cons inside⟩
  · rintro ⟨inside, dropped⟩
    rw [drop_eq_getElem_cons inside] at dropped
    exact ⟨inside, (List.cons.inj dropped).1⟩

theorem octets?_eq_some_iff_read :
    octets? count input start = some octets ↔
      start + count ≤ input.length ∧
        readExact count (input.drop start) = .ok (octets, input.drop (start + count)) := by
  rw [readExact_eq_ok]
  unfold octets?
  split
  · rename_i inside
    simp only [Option.some.injEq, inside, true_and]
    constructor
    · rintro rfl
      rw [← drop_drop]
      exact (take_append_drop count (input.drop start)).symm
    simp_all
  · rename_i outside
    simp [outside]

/-- What a stream delivers next lies in the buffer it runs over. -/
theorem rest_of_readExact (inside : start ≤ input.length)
    (found : readExact count (input.drop start) = .ok (octets, rest)) :
    start + count ≤ input.length ∧ rest = input.drop (start + count) := by
  have dropped := readExact_eq_ok.1 found
  have lengths := congrArg List.length dropped
  rw [length_drop, length_append, octets.width] at lengths
  refine ⟨by omega, ?_⟩
  rw [← drop_drop, dropped, drop_left' octets.width]

theorem rest_of_readU8 (found : readU8 (input.drop start) = .ok (byte, rest)) :
    start + 1 ≤ input.length ∧ rest = input.drop (start + 1) := by
  have dropped := readU8_eq_ok.1 found
  have lengths := congrArg List.length dropped
  rw [length_drop, length_cons] at lengths
  refine ⟨by omega, ?_⟩
  rw [← drop_drop, dropped]
  rfl

end Slices

/-! ### Encoder and decoders against the wire format -/

section Codec

variable {address : TargetAddress} {input output rest : Bytes}

variable {host : TargetHost}

theorem encodeTargetHost_eq_ok {tooLong : Socks5Error} :
    encodeTargetHost host tooLong = .ok output ↔ host.Encodable ∧ output = host.wire := by
  match host with
  | .ip (.v4 octets) =>
    simp [encodeTargetHost, TargetHost.wire, TargetHost.Encodable, pure, Except.pure, eq_comm]
  | .ip (.v6 octets) =>
    simp [encodeTargetHost, TargetHost.wire, TargetHost.Encodable, pure, Except.pure, eq_comm]
  | .domain name =>
    simp only [encodeTargetHost, encodeDomain, bind_eq_ok, raiseIf_eq_ok,
      pure, Except.pure, TargetHost.Encodable, TargetHost.wire]
    grind

theorem encodeTargetAddress_eq_ok :
    encodeTargetAddress address output = .ok rest ↔
      address.host.Encodable ∧ rest = output ++ address.wire := by
  simp only [encodeTargetAddress, bind_eq_ok, encodeTargetHost_eq_ok, pure, Except.pure,
    TargetAddress.wire]
  grind

/-- A length byte that is not zero, with a text of that length, is the encoding of the text. -/
theorem wire_domain_of_length {length : UInt8} {name : String} (nonempty : ¬length = 0)
    (counted : (utf8Bytes name).length = length.toNat) :
    (TargetHost.domain name).Encodable ∧
      (TargetHost.domain name).wire = addressTypeDomain :: length :: utf8Bytes name := by
  have positive : 0 < length.toNat := by
    apply Nat.pos_of_ne_zero
    intro zero
    exact nonempty (UInt8.toNat_inj.mp (by simpa using zero))
  refine ⟨⟨by omega, by rw [counted]; exact length.toNat_lt⟩, ?_⟩
  rw [TargetHost.wire, counted, UInt8.ofNat_toNat]

/-- The length byte of a domain that has an encoding. -/
theorem length_byte_of_encodable {name : String} (encodable : (TargetHost.domain name).Encodable) :
    (UInt8.ofNat (utf8Bytes name).length).toNat = (utf8Bytes name).length ∧
      ¬UInt8.ofNat (utf8Bytes name).length = 0 := by
  obtain ⟨_, fits⟩ := encodable
  have counted : (UInt8.ofNat (utf8Bytes name).length).toNat = (utf8Bytes name).length := by
    rw [UInt8.toNat_ofNat', Nat.mod_eq_of_lt fits]
  refine ⟨counted, ?_⟩
  intro _
  simp_all

variable {addressType : UInt8}

theorem readTargetHost_sound (accepted : readTargetHost addressType input = .ok (host, rest)) :
    host.Encodable ∧ addressType :: input = host.wire ++ rest := by
  unfold readTargetHost at accepted
  split at accepted
  · rename_i isIpv4
    obtain ⟨⟨octets, after⟩, found, equal⟩ := bind_eq_ok.mp accepted
    obtain rfl := readExact_eq_ok.1 found
    cases equal
    exact ⟨trivial, by rw [isIpv4]; rfl⟩
  split at accepted
  · rename_i isIpv6
    obtain ⟨⟨octets, after⟩, found, equal⟩ := bind_eq_ok.mp accepted
    obtain rfl := readExact_eq_ok.1 found
    cases equal
    exact ⟨trivial, by rw [isIpv6]; rfl⟩
  split at accepted
  · obtain ⟨⟨length, after⟩, counted, checks⟩ := bind_eq_ok.mp accepted
    obtain ⟨_, nonempty, reads⟩ := bind_eq_ok.mp checks
    obtain ⟨⟨bytes, final⟩, found, decodes⟩ := bind_eq_ok.mp reads
    obtain ⟨name, decoded, equal⟩ := bind_eq_ok.mp decodes
    rw [raiseIf_eq_ok] at nonempty
    have start := readU8_eq_ok.1 counted
    have middle : after = bytes.bytes ++ final := readExact_eq_ok.1 found
    have text := fromUtf8_eq_some.1 (orRaise_eq_ok.1 decoded)
    have width : (utf8Bytes name).length = length.toNat := by rw [← text]; exact bytes.width
    obtain ⟨_, wire⟩ := wire_domain_of_length nonempty width
    simp_all
  · cases accepted

theorem readTargetHost_wire (encodable : host.Encodable) :
    ∃ addressType stream, host.wire ++ rest = addressType :: stream ∧
      readTargetHost addressType stream = .ok (host, rest) := by
  match host with
  | .ip (.v4 octets) =>
    refine ⟨addressTypeIpv4, octets.bytes ++ rest, rfl, ?_⟩
    rw [readTargetHost, readExact_eq_ok.2 rfl]
    rfl
  | .ip (.v6 octets) =>
    refine ⟨addressTypeIpv6, octets.bytes ++ rest, rfl, ?_⟩
    rw [readTargetHost, readExact_eq_ok.2 rfl]
    rfl
  | .domain name =>
    obtain ⟨counted, nonempty⟩ := length_byte_of_encodable encodable
    refine ⟨addressTypeDomain,
      UInt8.ofNat (utf8Bytes name).length :: (utf8Bytes name ++ rest), rfl, ?_⟩
    rw [readTargetHost, readU8_eq_ok.2 rfl, ok_bind, raiseIf_of_not _ nonempty, ok_bind,
      (@readExact_eq_ok _ _ _ ⟨utf8Bytes name, counted.symm⟩).mpr rfl, ok_bind,
      orRaise_eq_ok.2 (fromUtf8_utf8Bytes name)]
    rfl

/-- The stream behind a host is the end of the stream in front of it. -/
theorem suffix_of_readTargetHost (accepted : readTargetHost addressType input = .ok (host, rest)) :
    rest <:+ input := by
  obtain ⟨-, wire⟩ := readTargetHost_sound accepted
  have nonempty : host.wire ≠ [] := by
    match host with
    | .ip (.v4 octets) => exact cons_ne_nil _ _
    | .ip (.v6 octets) => exact cons_ne_nil _ _
    | .domain name => exact cons_ne_nil _ _
  obtain ⟨_, _, _⟩ := exists_cons_of_ne_nil nonempty
  simp_all

/-- The stream decoder accepts the encodings of the encodable addresses. -/
theorem readTargetAddress_eq_ok :
    readTargetAddress input = .ok (address, rest) ↔
      address.host.Encodable ∧ input = address.wire ++ rest := by
  constructor
  · intro accepted
    obtain ⟨⟨addressType, stream⟩, typed, readsHost⟩ := bind_eq_ok.mp accepted
    obtain ⟨⟨host, _⟩, hosted, readsPort⟩ := bind_eq_ok.mp readsHost
    obtain ⟨⟨port, _⟩, ported, equal⟩ := bind_eq_ok.mp readsPort
    cases equal
    obtain rfl := readU16_eq_ok.1 ported
    obtain rfl := readU8_eq_ok.1 typed
    obtain ⟨encodable, wire⟩ := readTargetHost_sound hosted
    exact ⟨encodable, by rw [wire, TargetAddress.wire, append_assoc]⟩
  · rintro ⟨encodable, rfl⟩
    obtain ⟨addressType, stream, split, hosted⟩ :=
      readTargetHost_wire encodable
    rw [TargetAddress.wire, append_assoc, split, readTargetAddress, readU8_eq_ok.2 rfl,
      ok_bind, hosted, ok_bind, readU16_eq_ok.2 rfl]
    rfl

/-- A field of fixed width, with the value made of its bytes: the slice decoder takes it
from the buffer exactly if the stream decoder takes it from a stream over the buffer. -/
theorem field_eq_ok {Value : Type} {count cursor stop : Nat} {error : Socks5Error} {value : Value}
    (build : Octets count → Outcome Socks5Error Value) (inside : cursor ≤ input.length) :
    (do
      let octets ← orRaise (octets? count input cursor) error
      let value ← build octets
      pure (value, cursor + count)) = Except.ok (value, stop) ↔
    stop ≤ input.length ∧
      (do
        let octets ← readExact count (input.drop cursor)
        let value ← build octets.1
        pure (value, octets.2)) = (Except.ok (value, input.drop stop) : Outcome Socks5Error _) := by
  simp only [bind_eq_ok, orRaise_eq_ok, octets?_eq_some_iff_read]
  constructor
  · rintro ⟨octets, ⟨fits, found⟩, built, holds, equal⟩
    cases equal
    exact ⟨fits, ⟨octets, _⟩, found, value, holds, rfl⟩
  · rintro ⟨_, ⟨octets, rest⟩, found, built, holds, equal⟩
    obtain ⟨fits, isRest⟩ := rest_of_readExact inside found
    obtain ⟨rfl, sameRest⟩ : value = built ∧ rest = input.drop stop := by
      simpa [pure, Except.pure, eq_comm] using equal
    have lengths := congrArg List.length (isRest.symm.trans sameRest)
    rw [length_drop, length_drop] at lengths
    obtain rfl : stop = cursor + count := by omega
    rw [isRest] at found
    exact ⟨octets, ⟨fits, found⟩, value, holds, rfl⟩

/-- The slice decoder reads a host as the stream decoder does. -/
theorem decodeTargetHost_eq_ok {cursor stop : Nat} (inside : cursor ≤ input.length) :
    decodeTargetHost input addressType cursor = .ok (host, stop) ↔
      stop ≤ input.length ∧
        readTargetHost addressType (input.drop cursor) = .ok (host, input.drop stop) := by
  unfold decodeTargetHost readTargetHost
  by_cases isIpv4 : addressType = addressTypeIpv4
  · rw [if_pos isIpv4, if_pos isIpv4]
    exact @field_eq_ok _ TargetHost 4 _ _ _ _ (fun octets => pure (.ip (.v4 octets))) inside
  by_cases isIpv6 : addressType = addressTypeIpv6
  · rw [if_neg isIpv4, if_neg isIpv4, if_pos isIpv6, if_pos isIpv6]
    exact @field_eq_ok _ TargetHost 16 _ _ _ _ (fun octets => pure (.ip (.v6 octets))) inside
  by_cases isDomain : addressType = addressTypeDomain
  · rw [if_neg isIpv4, if_neg isIpv4, if_neg isIpv6, if_neg isIpv6, if_pos isDomain,
      if_pos isDomain]
    have text := fun (length : UInt8) (fits : cursor + 1 ≤ input.length) =>
      @field_eq_ok _ _ length.toNat _ stop (.invalidUdpPacket "域名被截断") host
        (fun bytes => orRaise (fromUtf8 bytes.bytes) .invalidDomain >>= fun name =>
          pure (.domain name)) fits
    simp only [bind_assoc] at text
    rw [bind_eq_ok, bind_eq_ok]
    constructor
    · rintro ⟨length, counted, checks⟩
      obtain ⟨fits, found⟩ := getElem?_eq_some_iff_read.1 (orRaise_eq_ok.1 counted)
      obtain ⟨nothing, nonempty, reads⟩ := bind_eq_ok.mp checks
      simp_all
    · rintro ⟨stopInside, ⟨length, _⟩, found, checks⟩
      obtain ⟨fits, rfl⟩ := rest_of_readU8 found
      obtain ⟨nothing, nonempty, reads⟩ := bind_eq_ok.mp checks
      have counted := getElem?_eq_some_iff_read.2 ⟨fits, found⟩
      exact ⟨length, orRaise_eq_ok.2 counted, bind_eq_ok.mpr
        ⟨nothing, nonempty, (text length fits).mpr ⟨stopInside, reads⟩⟩⟩
  simp_all

theorem readU16_eq (stream : Bytes) :
    readU16 stream = (readExact 2 stream >>= fun octets =>
      portOf octets.1 >>= fun port => pure (port, octets.2)) := by
  match stream with
  | [] => rfl
  | [_] => rfl
  | high :: low :: rest =>
    rfl

/-- The slice decoder accepts an address exactly if the stream decoder does, and leaves the
same bytes behind it. -/
theorem decodeTargetAddress_iff_read {offset stop : Nat} :
    decodeTargetAddress input offset = .ok (address, stop) ↔
      stop ≤ input.length ∧
        readTargetAddress (input.drop offset) = .ok (address, input.drop stop) := by
  have port := fun (cursor : Nat) (port : UInt16) (fits : cursor ≤ input.length) =>
    @field_eq_ok _ _ 2 _ stop (.invalidUdpPacket "端口被截断") port portOf fits
  simp only [← readU16_eq] at port
  unfold decodeTargetAddress readTargetAddress
  rw [bind_eq_ok, bind_eq_ok]
  constructor
  · rintro ⟨addressType, typed, decodes⟩
    obtain ⟨fits, found⟩ := getElem?_eq_some_iff_read.1 (orRaise_eq_ok.1 typed)
    obtain ⟨⟨host, cursor⟩, hosted, decodesPort⟩ := bind_eq_ok.mp decodes
    obtain ⟨hostFits, hostRead⟩ := (decodeTargetHost_eq_ok fits).mp hosted
    obtain ⟨octets, taken, decodesValue⟩ := bind_eq_ok.mp decodesPort
    obtain ⟨value, built, equal⟩ := bind_eq_ok.mp decodesValue
    cases equal
    obtain ⟨stopFits, portRead⟩ := (port cursor value hostFits).mp
      (bind_eq_ok.mpr ⟨octets, taken, bind_eq_ok.mpr ⟨value, built, rfl⟩⟩)
    simp_all
  · rintro ⟨stopFits, ⟨addressType, _⟩, found, reads⟩
    obtain ⟨fits, rfl⟩ := rest_of_readU8 found
    obtain ⟨⟨host, remaining⟩, hostRead, readsPort⟩ := bind_eq_ok.mp reads
    obtain ⟨⟨value, last⟩, portRead, equal⟩ := bind_eq_ok.mp readsPort
    obtain ⟨cursor, cursorFits, rfl⟩ : ∃ cursor, cursor ≤ input.length ∧
        remaining = input.drop cursor := by
      have suffix := (suffix_of_readTargetHost hostRead).trans (drop_suffix _ _)
      exact ⟨_, Nat.sub_le _ _, suffix_iff_eq_drop.mp suffix⟩
    obtain ⟨rfl, rfl⟩ : (⟨host, value⟩ : TargetAddress) = address ∧ last = input.drop stop := by
      simpa [pure, Except.pure] using equal
    have hosted := (decodeTargetHost_eq_ok fits).mpr ⟨cursorFits, hostRead⟩
    obtain ⟨octets, taken, decodesValue⟩ := bind_eq_ok.mp
      ((port cursor value cursorFits).mpr ⟨stopFits, portRead⟩)
    obtain ⟨built, _, sameValue⟩ := bind_eq_ok.mp decodesValue
    refine ⟨addressType, orRaise_eq_ok.2 (getElem?_eq_some_iff_read.2 ⟨fits, found⟩), ?_⟩
    simp_all

/-- The slice decoder accepts the encodings of the encodable addresses. -/
theorem decodeTargetAddress_eq_ok {offset stop : Nat} :
    decodeTargetAddress input offset = .ok (address, stop) ↔
      stop ≤ input.length ∧ address.host.Encodable ∧
        input.drop offset = address.wire ++ input.drop stop := by
  rw [decodeTargetAddress_iff_read, readTargetAddress_eq_ok]

theorem decodeTargetAddress_wire {head : Bytes} (encodable : address.host.Encodable) :
    decodeTargetAddress (head ++ address.wire ++ rest) head.length =
      .ok (address, (head ++ address.wire).length) := by
  refine decodeTargetAddress_eq_ok.2 ⟨?_, encodable, ?_⟩
  · simp
  simp

/-- The offset behind an address is behind its encoding. -/
theorem take_of_decodeTargetAddress {stop : Nat}
    (accepted : decodeTargetAddress input 0 = .ok (address, stop)) :
    input.take stop = address.wire := by
  obtain ⟨_, -, split⟩ := decodeTargetAddress_eq_ok.1 accepted
  have whole := (take_append_drop stop input).trans split
  exact append_cancel_right whole

theorem TargetAddress.wire_ne_nil (address : TargetAddress) : address.wire ≠ [] := by
  intro empty
  have count := congrArg List.length empty
  grind [TargetAddress.wire, length_u16ToBe]

theorem decodeUdpPacket_wire {payload : Bytes} (encodable : address.host.Encodable) :
    decodeUdpPacket ([0, 0, 0] ++ address.wire ++ payload) = .ok ⟨address, payload⟩ := by
  have decoded : decodeTargetAddress ([0, 0, 0] ++ address.wire ++ payload) 3 =
      .ok (address, ([0, 0, 0] ++ address.wire).length) := decodeTargetAddress_wire encodable
  have rest : slice ([0, 0, 0] ++ address.wire ++ payload) ([0, 0, 0] ++ address.wire).length
      ([0, 0, 0] ++ address.wire ++ payload).length =
        (.ok payload : Outcome Socks5Error Bytes) := by
    rw [slice_eq_ok]
    simp
  have zeros : ∀ index < 3, byteAt ([0, 0, 0] ++ address.wire ++ payload) index =
      (.ok 0 : Outcome Socks5Error UInt8) := by
    intro index below
    match index, below with
    | 0, _ => rfl
    | 1, _ => rfl
    | 2, _ => rfl
  have positive := length_pos_iff.mpr address.wire_ne_nil
  have long : ¬([0, 0, 0] ++ address.wire ++ payload).length < 4 := by
    grind
  rw [decodeUdpPacket, raiseIf_of_not _ long, ok_bind, zeros 0 (by omega),
    ok_bind, zeros 1 (by omega), ok_bind, raiseIf_of_not _ (by simp),
    ok_bind, zeros 2 (by omega), ok_bind, raiseIf_of_not _ (by simp),
    ok_bind, decoded, ok_bind, rest]
  rfl

/-- The datagrams that are accepted: three zeros, the encoding of an address and a payload. -/
theorem decodeUdpPacket_eq_ok {rawPacket : Bytes} {packet : UdpPacket} :
    decodeUdpPacket rawPacket = .ok packet ↔ packet.destination.host.Encodable ∧
      rawPacket = [0, 0, 0] ++ packet.destination.wire ++ packet.payload := by
  constructor
  · intro decoded
    unfold decodeUdpPacket at decoded
    simp only [bind_eq_ok, raiseIf_eq_ok, byteAt_eq_ok, slice_eq_ok] at decoded
    obtain ⟨_, -, _, isFirst, _, isSecond, _, zeros, _, isThird, _, noFragment,
      ⟨destination, stop⟩, isDestination, payload, ⟨-, -, isPayload⟩, isPacket⟩ := decoded
    cases isPacket
    obtain ⟨-, encodable, _⟩ := decodeTargetAddress_eq_ok.1 isDestination
    have rest : rawPacket.drop stop = payload := by
      rw [isPayload, take_of_length_le (length_drop ▸ Nat.le_refl _)]
    match rawPacket, isFirst, isSecond, isThird with
    | zero :: one :: two :: others, isFirst, isSecond, isThird =>
      grind
  · rintro ⟨encodable, rfl⟩
    exact decodeUdpPacket_wire encodable

end Codec

/-! ### The codec as a whole -/

/-- Decoding inverts encoding in buffers, streams and datagrams; what is decoded encodes to
the bytes it was decoded from; and both decoders accept the same prefixes. -/
theorem targetAddress_codec :
    (∀ address output encoded rest, encodeTargetAddress address output = .ok encoded →
      decodeTargetAddress (encoded ++ rest) output.length = .ok (address, encoded.length) ∧
        readTargetAddress ((encoded ++ rest).drop output.length) = .ok (address, rest)) ∧
    (∀ source payload, ∃ packet, encodeUdpPacket source payload = .ok packet ∧
      decodeUdpPacket packet = .ok ⟨.fromSocketAddress source, payload⟩) ∧
    (∀ address packet payload, encodeTargetAddress address [0, 0, 0] = .ok packet →
      decodeUdpPacket (packet ++ payload) = .ok ⟨address, payload⟩) ∧
    (∀ input address stop, decodeTargetAddress input 0 = .ok (address, stop) →
      encodeTargetAddress address [] = .ok (input.take stop)) ∧
    ∀ input offset address stop, decodeTargetAddress input offset = .ok (address, stop) ↔
      stop ≤ input.length ∧
        readTargetAddress (input.drop offset) = .ok (address, input.drop stop) := by
  refine ⟨?_, ?_, ?_, ?_, ?_⟩
  · intro address output encoded rest accepted
    obtain ⟨encodable, rfl⟩ := encodeTargetAddress_eq_ok.1 accepted
    refine ⟨decodeTargetAddress_wire encodable, ?_⟩
    rw [append_assoc, drop_left]
    exact readTargetAddress_eq_ok.2 ⟨encodable, rfl⟩
  · intro source payload
    have encodable : (TargetAddress.fromSocketAddress source).host.Encodable := by
      cases source with
      | v4 ip port | v6 ip port => trivial
    refine ⟨_, ?_, decodeUdpPacket_wire encodable⟩
    rw [encodeUdpPacket, encodeTargetAddress_eq_ok.2 ⟨encodable, rfl⟩]
    rfl
  · intro address packet payload accepted
    obtain ⟨encodable, rfl⟩ := encodeTargetAddress_eq_ok.1 accepted
    exact decodeUdpPacket_wire encodable
  · intro input address stop accepted
    obtain ⟨-, encodable, -⟩ := decodeTargetAddress_eq_ok.1 accepted
    rw [take_of_decodeTargetAddress accepted]
    exact encodeTargetAddress_eq_ok.2 ⟨encodable, rfl⟩
  · intro input offset address stop
    exact decodeTargetAddress_iff_read

end SprakCapture.Socks5
