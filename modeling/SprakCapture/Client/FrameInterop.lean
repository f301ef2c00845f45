import SprakCapture.Client.UdpFrames

/-!
# Datagrams between the client and the server

Both sides write and read the same address fields. They differ in what they make of a host:
`inet_pton` reads a C string, and the text of an address comes back in the form that `inet_ntop`
gives it. `udpFrames_interoperate_iff` says for which hosts neither shows.
-/

namespace SprakCapture.Client

open Data List Option AddressField InetText
open IpText.IpAddr (formatIpv4 formatWide)
open ProcessCapture (IpAddr SocketAddr)
open Socks5 (TargetHost decodeUdpPacket encodeUdpPacket fromUtf8 utf8Bytes)

/-! ### What the server reads -/

/-- The host that the server takes a field for. -/
def AddressField.host : AddressField → Option TargetHost
  | .ip address => some (.ip address)
  | .domain text _ _ => (fromUtf8 text).map .domain

variable {host : TargetHost} {field : AddressField}

theorem AddressField.wire_host (isHost : field.host = some host) :
    host.Encodable ∧ host.wire = field.wire := by
  rcases field with (octets | octets) | ⟨_, nonempty, fits⟩
  · cases isHost
    exact ⟨trivial, rfl⟩
  · cases isHost
    exact ⟨trivial, rfl⟩
  · obtain ⟨_, decoded, rfl⟩ := map_eq_some_iff.mp isHost
    have isText := Socks5.utf8Bytes_of_fromUtf8 decoded
    subst isText
    exact ⟨⟨length_pos_iff.mpr nonempty, fits⟩, rfl⟩

/-- Every host that the server can write is that of a field. -/
theorem AddressField.exists_of_encodable (encodable : host.Encodable) :
    ∃ field : AddressField, field.host = some host ∧ field.wire = host.wire := by
  match host with
  | .ip (.v4 octets) => exact ⟨.ip (.v4 octets), rfl, rfl⟩
  | .ip (.v6 octets) => exact ⟨.ip (.v6 octets), rfl, rfl⟩
  | .domain name =>
    refine ⟨.domain (utf8Bytes name) (length_pos_iff.mp encodable.1) encodable.2, ?_, rfl⟩
    rw [AddressField.host, Socks5.fromUtf8_utf8Bytes]
    rfl

/-- The frame of a field, with a port and a payload. -/
def AddressField.frame (field : AddressField) (port : UInt16) (payload : Bytes) : Bytes :=
  [0, 0, 0] ++ (field.wire ++ u16ToBe port) ++ payload

theorem decodeUdpPacket_frame (isHost : field.host = some host) (port : UInt16) (payload : Bytes) :
    decodeUdpPacket (field.frame port payload) = .ok ⟨⟨host, port⟩, payload⟩ := by
  obtain ⟨encodable, isWire⟩ := field.wire_host isHost
  refine Socks5.decodeUdpPacket_eq_ok.mpr ⟨encodable, ?_⟩
  rw [frame, Socks5.TargetAddress.wire, isWire]

/-! ### What is claimed of both -/

variable {inet : InetText}

/-- The host that a text is: an address, or a domain if it is the text of none. -/
def InetText.hostOf (inet : InetText) (text : Bytes) : Option TargetHost :=
  match inet.literal? text with
  | some address => some (.ip address)
  | none => (fromUtf8 text).map .domain

/-- A host that the client accepts: a text of UTF-8 that is neither empty nor too long, or an
address. -/
def InetText.Accepts (inet : InetText) (host : Bytes) : Prop :=
  (host ≠ [] ∧ host.length ≤ 255 ∧ (fromUtf8 host).isSome) ∨ (inet.literal? host).isSome

/-- Both sides read the frame of a target, the server with the host that the text is and the
client with the text. -/
def FrameReturns (inet : InetText) (target : TargetAddress) (payload : Bytes) : Prop :=
  ∃ frame host, buildUdpFrame inet target payload = some frame ∧
    inet.hostOf target.host = some host ∧
      decodeUdpPacket frame = .ok ⟨⟨host, target.port⟩, payload⟩ ∧
        parseUdpFrame inet frame = some (target, payload)

/-- The client reads the frame that the server writes for a source. -/
def SourceReturns (inet : InetText) (source : SocketAddr) (payload : Bytes) : Prop :=
  ∃ frame target, encodeUdpPacket source payload = .ok frame ∧
    parseUdpFrame inet frame = some (target, payload) ∧
      inet.literal? target.host = some source.ip ∧ target.port = source.port

/-- Both sides accept a frame, and with the same port and payload, unless its domain is not UTF-8
or its port is zero. -/
structure DecodersAgree (inet : InetText) (frame : Bytes) : Prop where
  client : ∀ target payload, parseUdpFrame inet frame = some (target, payload) →
    fromUtf8 target.host = none ∨ ∃ host, decodeUdpPacket frame = .ok ⟨⟨host, target.port⟩, payload⟩
  server : ∀ packet, decodeUdpPacket frame = .ok packet →
    packet.destination.port = 0 ∨
      ∃ host, parseUdpFrame inet frame = some (⟨host, packet.destination.port⟩, packet.payload)

structure Interoperate (inet : InetText) (target : TargetAddress) (payload : Bytes) : Prop where
  target : FrameReturns inet target payload
  source : ∀ source reply, source.port ≠ 0 → SourceReturns inet source reply
  decoders : ∀ frame, DecodersAgree inet frame

/-- The host is not an address with a zero byte and something behind it, and if it is an address
it is in the form that `inet_ntop` gives it. -/
structure InetText.Plain (inet : InetText) (host : Bytes) : Prop where
  whole : 0 ∈ host → inet.literal? (cString host) = none
  canonical : ∀ address, inet.literal? host = some address → inet.ntop address = host

/-! ### Both ways -/

theorem parseUdpFrame_frame (field : AddressField) {port : UInt16} (notZero : port ≠ 0)
    (payload : Bytes) :
    parseUdpFrame inet (field.frame port payload) = some (⟨field.text inet, port⟩, payload) :=
  parseUdpFrame_eq_some.mpr ⟨field, rfl, notZero, rfl⟩

theorem decodersAgree (frame : Bytes) : DecodersAgree inet frame where
  client target payload parsed := by
    obtain ⟨field, isText, -, isFrame⟩ := parseUdpFrame_eq_some.mp parsed
    cases isHost : field.host with
    | some host =>
      refine .inr ⟨host, ?_⟩
      rw [isFrame]
      exact decodeUdpPacket_frame isHost target.port payload
    | none =>
      refine .inl ?_
      rw [← isText]
      cases field with
      | ip => cases isHost
      | domain text => exact map_eq_none_iff.mp isHost
  server packet decoded := by
    obtain ⟨encodable, isFrame⟩ := Socks5.decodeUdpPacket_eq_ok.mp decoded
    obtain ⟨field, -, isWire⟩ := exists_of_encodable encodable
    by_cases isZero : packet.destination.port = 0
    · exact .inl isZero
    · refine .inr ⟨field.text inet, ?_⟩
      have framed := @parseUdpFrame_frame inet field _ isZero packet.payload
      rwa [AddressField.frame, isWire, ← Socks5.TargetAddress.wire, ← isFrame] at framed

theorem sourceReturns (lawful : inet.Lawful) {source : SocketAddr} (notZero : source.port ≠ 0)
    (payload : Bytes) : SourceReturns inet source payload := by
  obtain ⟨-, writes, -⟩ := Socks5.targetAddress_codec
  obtain ⟨frame, encoded, decoded⟩ := writes source payload
  have isFrame : frame = (ip source.ip).frame source.port payload := by
    obtain ⟨-, isFrame⟩ := Socks5.decodeUdpPacket_eq_ok.mp decoded
    cases source with
    | v4 octets port | v6 octets port => exact isFrame
  refine ⟨frame, ⟨inet.ntop source.ip, source.port⟩, encoded, ?_, lawful.literal_ntop source.ip,
    rfl⟩
  rw [isFrame]
  exact parseUdpFrame_frame (.ip source.ip) notZero payload

/-- An address has no zero byte, so it is the C string that it is made of. -/
theorem InetText.Lawful.cString_of_literal (lawful : inet.Lawful) {host : Bytes}
    (isLiteral : (inet.literal? host).isSome) : 0 ∉ host ∧ cString host = host := by
  obtain ⟨-, -, allowed⟩ := lawful.shape host isLiteral
  have noZero : 0 ∉ host := fun member =>
    absurd (List.all_eq_true.mp allowed 0 member) (by decide)
  refine ⟨noZero, takeWhile_eq_self_iff.mpr fun _ member => ?_⟩
  grind

/-- The field that is written for the text of an address, up to a zero byte. -/
theorem fieldOf_of_literal {host : Bytes} {address : IpAddr}
    (isLiteral : inet.literal? (cString host) = some address) :
    inet.fieldOf host = some (.ip address) := by
  rw [fieldOf, isLiteral]

variable {target : TargetAddress}

variable (lawful : inet.Lawful)
include lawful

theorem frameReturns_of_literal {address : IpAddr} (payload : Bytes) (notZero : target.port ≠ 0)
    (isLiteral : inet.literal? (cString target.host) = some address) :
    FrameReturns inet target payload ↔ inet.Plain target.host := by
  have builds : buildUdpFrame inet target payload =
      some ((ip address).frame target.port payload) := by
    rw [buildUdpFrame_eq, fieldOf_of_literal isLiteral]
    rfl
  have decodes : decodeUdpPacket ((ip address).frame target.port payload) =
      .ok ⟨⟨.ip address, target.port⟩, payload⟩ := decodeUdpPacket_frame rfl target.port payload
  constructor
  · rintro ⟨frame, host, built, _, decoded, parsed⟩
    cases builds.symm.trans built
    have same := (parseUdpFrame_frame (.ip address) notZero payload).symm.trans parsed
    have isText : inet.ntop address = target.host :=
      congrArg Endpoint.host (congrArg Prod.fst (Option.some.inj same))
    have literal : inet.literal? target.host = some address := by
      rw [← isText, lawful.literal_ntop]
    refine ⟨fun member => ?_, fun _ _ => ?_⟩
    · exact absurd member (lawful.cString_of_literal (isSome_of_eq_some literal)).1
    simp_all
  · intro plain
    have noZero : 0 ∉ target.host := fun member =>
      nomatch (plain.whole member).symm.trans isLiteral
    have same : cString target.host = target.host :=
      takeWhile_eq_self_iff.mpr fun _ member =>
        decide_eq_true fun isZero => noZero (isZero ▸ member)
    rw [same] at isLiteral
    refine ⟨_, .ip address, builds, ?_, decodes, ?_⟩
    · rw [hostOf, isLiteral]
    · have parsed := @parseUdpFrame_frame inet (.ip address) _ notZero payload
      rwa [text, plain.canonical address isLiteral] at parsed

variable (text payload : Bytes)

theorem frameReturns_of_domain (notZero : target.port ≠ 0) (accepted : inet.Accepts target.host)
    (notLiteral : inet.literal? (cString target.host) = none) :
    FrameReturns inet target payload ∧ inet.Plain target.host := by
  have noAddress : inet.literal? target.host = none := by
    cases found : inet.literal? target.host with
    | none => rfl
    | some address =>
      obtain ⟨-, same⟩ := Lawful.cString_of_literal lawful (by
        rw [found]
        rfl)
      rw [same, found] at notLiteral
      cases notLiteral
  rcases accepted with ⟨nonempty, _, isText⟩ | isLiteral
  · obtain ⟨name, isName⟩ := isSome_iff_exists.mp isText
    have short : target.host.length < 256 := by omega
    have isField : inet.fieldOf target.host = some (.domain target.host nonempty short) := by
      grind [fieldOf]
    have isHost : (domain target.host nonempty short).host = some (.domain name) := by
      rw [host, isName]
      rfl
    refine ⟨⟨_, .domain name, ?_, ?_, decodeUdpPacket_frame isHost target.port payload,
      parseUdpFrame_frame _ notZero payload⟩, fun _ => notLiteral, fun address found => ?_⟩
    · rw [buildUdpFrame_eq, isField]
      rfl
    · rw [hostOf, noAddress, isName]
      rfl
    · cases noAddress.symm.trans found
  · rw [noAddress] at isLiteral
    cases isLiteral

theorem frameReturns_iff (notZero : target.port ≠ 0) (accepted : inet.Accepts target.host) :
    FrameReturns inet target payload ↔ inet.Plain target.host := by
  cases isLiteral : inet.literal? (cString target.host) with
  | some => exact frameReturns_of_literal lawful payload notZero isLiteral
  | none =>
    obtain ⟨returns, plain⟩ :=
      frameReturns_of_domain lawful payload notZero accepted isLiteral
    exact ⟨fun _ => plain, fun _ => returns⟩

omit lawful

/-- Both sides understand each other, for a target that the client accepts, exactly if its host is
read to its end and is in canonical form where it is an address. -/
theorem udpFrames_interoperate_iff (lawful : inet.Lawful) {target : TargetAddress}
    (payload : Bytes) (notZero : target.port ≠ 0) (accepted : inet.Accepts target.host) :
    Interoperate inet target payload ↔ inet.Plain target.host := by
  rw [← frameReturns_iff lawful payload notZero accepted]
  refine ⟨fun both => both.target, fun returns => ⟨returns, ?_, decodersAgree⟩⟩
  grind [sourceReturns]

/-! ### Samples -/

/-- The groups of an IPv6 address. -/
def groupsOf : Bytes → List Nat
  | high :: low :: rest => (u16FromBe high low).toNat :: groupsOf rest
  | _ => []

/-- The address of some groups, if there are eight of them. -/
def octetsOf (groups : List Nat) : Option (Octets 16) :=
  let bytes := groups.flatMap fun group => u16ToBe (UInt16.ofNat group)
  if width : bytes.length = 16 then some ⟨bytes, width⟩ else none

/-- The number of an IPv4 address. -/
def numberOf (octets : Octets 4) : UInt32 :=
  match octets.bytes with
  | [first, second, third, fourth] => u32FromBe first second third fourth
  | _ => 0

/-- The documented forms, where an IPv6 address is written with all its digits. -/
def strictInetText : InetText where
  pton4 text := (IpText.parseIpv4 (asciiText text)).map fun address => ⟨u32ToBe address, rfl⟩
  pton6 text := (IpText.parseIpv6 (asciiText text)).bind octetsOf
  ntop4 octets := Utf8.encode (formatIpv4 (numberOf octets).toNat)
  ntop6 octets := Utf8.encode (formatWide (groupsOf octets.bytes))

theorem strictInetText_pton4 : strictInetText.pton4 text =
    (IpText.parseIpv4 (asciiText text)).map fun address => ⟨u32ToBe address, rfl⟩ := rfl

theorem strictInetText_pton6 :
    strictInetText.pton6 text = (IpText.parseIpv6 (asciiText text)).bind octetsOf := rfl

theorem groupsOf_spec {bytes : Bytes} {count : Nat} (even : bytes.length = 2 * count) :
    (groupsOf bytes).length = count ∧ (∀ group ∈ groupsOf bytes, group < 65536) ∧
      (groupsOf bytes).flatMap (fun group => u16ToBe (UInt16.ofNat group)) = bytes := by
  induction count generalizing bytes with
  | zero =>
    obtain rfl := length_eq_zero_iff.mp even
    exact ⟨rfl, nofun, rfl⟩
  | succ count ih =>
    match bytes, even with
    | high :: low :: rest, even =>
      have shorter : rest.length = 2 * count := by
        simp only [length_cons] at even
        omega
      obtain ⟨counted, fits, back⟩ := ih shorter
      refine ⟨by rw [groupsOf, length_cons, counted], ?_, ?_⟩
      · intro group member
        rcases mem_cons.mp member with rfl | later
        · exact (u16FromBe high low).toNat_lt
        · exact fits group later
      · rw [groupsOf, flatMap_cons, back, UInt16.ofNat_toNat, u16ToBe_fromBe]
        rfl
    | [_], even =>
      grind

theorem u32ToBe_numberOf (octets : Octets 4) : u32ToBe (numberOf octets) = octets.bytes := by
  obtain ⟨bytes, width⟩ := octets
  match bytes, width with
  | [first, second, third, fourth], _ =>
    have firstBound := first.toNat_lt
    have secondBound := second.toNat_lt
    have thirdBound := third.toNat_lt
    have fourthBound := fourth.toNat_lt
    have number : (u32FromBe first second third fourth).toNat =
        ((first.toNat * 256 + second.toNat) * 256 + third.toNat) * 256 + fourth.toNat := by
      rw [u32FromBe, UInt32.toNat_ofNat']
      omega
    have byte {value : Nat} {byte : UInt8} (same : value = byte.toNat) :
        UInt8.ofNat value = byte := by rw [same, UInt8.ofNat_toNat]
    simp only [numberOf, u32ToBe]
    rw [@byte _ first (by omega), @byte _ second (by omega), @byte _ third (by omega),
      @byte _ fourth (by omega)]

theorem lawful_strictInetText : strictInetText.Lawful where
  literal_ntop address := by
    cases address with
    | v4 octets =>
      have parsed := IpText.IpAddr.parseIpv4_formatIpv4 (numberOf octets)
      have ascii : asciiText (strictInetText.ntop (.v4 octets)) =
          formatIpv4 (numberOf octets).toNat :=
        asciiText_encode (IpText.shape_parseIpv4 (by rw [parsed]; rfl)).2.2
      have isAddress : strictInetText.pton4 (strictInetText.ntop (.v4 octets)) = some octets := by
        rw [strictInetText_pton4, ascii, parsed]
        exact congrArg some (Octets.ext (u32ToBe_numberOf octets))
      rw [literal?, isAddress]
    | v6 octets =>
      obtain ⟨eight, fits, back⟩ := @groupsOf_spec octets.bytes 8 octets.width
      have parsed := IpText.IpAddr.parseIpv6_formatWide eight fits
      have ascii : asciiText (strictInetText.ntop (.v6 octets)) =
          formatWide (groupsOf octets.bytes) :=
        asciiText_encode (IpText.shape_isIpv6Text (by rw [IpText.isIpv6Text, parsed]; rfl)).2.2
      have notDotted :
          IpText.parseIpv4 (formatWide (groupsOf octets.bytes)) = none := by
        refine eq_none_iff_forall_ne_some.mpr fun _ isNumber => ?_
        have colon := IpText.colon_of_parseIpv6 parsed
        rcases IpText.chars_of_parseIpv4 (isSome_of_eq_some isNumber) _ colon with
          isDot | ⟨-, digit⟩
        · exact absurd isDot (by decide)
        · exact absurd digit (by decide)
      have isOctets : octetsOf (groupsOf octets.bytes) = some octets := by
        simp only [octetsOf, back, octets.width, dif_pos]
      have notFour : strictInetText.pton4 (strictInetText.ntop (.v6 octets)) = none := by
        rw [strictInetText_pton4, ascii, notDotted, map_none]
      have isSix : strictInetText.pton6 (strictInetText.ntop (.v6 octets)) = some octets := by
        rw [strictInetText_pton6, ascii, parsed, bind_some, isOctets]
      rw [literal?, notFour, isSix]
      rfl
  shape text isLiteral := by
    refine strictInetPton.shape text ?_
    unfold literal? at isLiteral
    split at isLiteral
    · rename_i octets isFour
      obtain ⟨address, isAddress, -⟩ := map_eq_some_iff.mp isFour
      exact .inl (isSome_of_eq_some isAddress)
    · rw [isSome_map] at isLiteral
      obtain ⟨octets, isSix⟩ := isSome_iff_exists.mp isLiteral
      obtain ⟨_, isGroups, -⟩ := bind_eq_some_iff.mp isSix
      exact .inr (isSome_of_eq_some isGroups)

/-- A target with a text for a host. -/
def sampleHost (text : String) : TargetAddress := ⟨Utf8.encode text.toList, 53⟩

theorem udpFrames_interoperate_domain : Interoperate strictInetText (sampleHost "a.b") [7] :=
  (udpFrames_interoperate_iff lawful_strictInetText [7] (by decide)
    (.inl ⟨by decide, by decide, by decide⟩)).mpr ⟨by decide, by decide⟩

/-- A domain that is an address up to a zero byte is sent as the address. -/
theorem not_interoperate_zero_byte :
    ¬ Interoperate strictInetText (sampleHost "10.0.0.1\x00a") [7] := by
  intro both
  have plain := (udpFrames_interoperate_iff lawful_strictInetText [7] (by decide)
    (.inl ⟨by decide, by decide, by decide⟩)).mp both
  exact absurd (plain.whole (by decide)) (by decide)

end SprakCapture.Client
