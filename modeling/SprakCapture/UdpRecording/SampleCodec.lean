import Mathlib.Logic.Equiv.List
import Mathlib.Tactic.DeriveCountable
import SprakCapture.UdpRecording.Spool

/-!
# The JSON texts of some headers and cursors

The codec of the spool is a parameter of the model. Runs over given datagrams need one. The
codec below writes the headers of one plain datagram, and the cursors behind its first frame,
as the JSON texts that the program writes for them; every other header and cursor gets some
text that differs from these.
-/

namespace SprakCapture.UdpRecording

open Data List Function
open ProcessCapture (SocketAddr UdpDatagramDirection UdpDatagramModification)

/-! ### Texts with a number in them -/

/-- The bytes of a text without characters beyond ASCII. -/
def ascii (text : List Char) : Bytes := text.map fun character => UInt8.ofNat character.toNat

/-- A text with a decimal number in it. -/
def numberedText (before after : String) (number : Nat) : Bytes :=
  ascii before.toList ++ ascii (Nat.toDigits 10 number) ++ ascii after.toList

/-- The number that follows the first part of a text. -/
def numberIn (before : String) (bytes : Bytes) : Nat :=
  Nat.ofDigitChars 10
    (((bytes.drop before.toList.length).map fun byte => Char.ofNat byte.toNat).takeWhile
      Char.isDigit) 0

@[simp] theorem length_ascii (text : List Char) : (ascii text).length = text.length :=
  length_map _

theorem ofNat_toNat_of_isDigit {character : Char} (digit : character.isDigit = true) :
    Char.ofNat (UInt8.ofNat character.toNat).toNat = character := by
  have bound : character.toNat ≤ 57 := by
    rw [Char.isDigit, Bool.and_eq_true] at digit
    exact of_decide_eq_true digit.2
  rw [UInt8.toNat_ofNat_of_lt' (Nat.lt_of_le_of_lt bound (by decide)), Char.ofNat_toNat]

/-- The number is read back if no digit follows it. -/
theorem numberIn_numberedText (before : String) {after : String} (number : Nat)
    (ends : ((ascii after.toList).map fun byte => Char.ofNat byte.toNat).takeWhile Char.isDigit =
      []) :
    numberIn before (numberedText before after number) = number := by
  have digits : ∀ character ∈ Nat.toDigits 10 number, character.isDigit = true :=
    fun character member => Nat.isDigit_of_mem_toDigits (by decide) (by decide) member
  have restored : (ascii (Nat.toDigits 10 number)).map (fun byte => Char.ofNat byte.toNat) =
      Nat.toDigits 10 number := by
    rw [ascii, List.map_map]
    exact (map_congr_left fun character member =>
      ofNat_toNat_of_isDigit (digits character member)).trans (List.map_id _)
  rw [numberIn, numberedText, append_assoc, ← length_ascii, drop_left, map_append,
    restored, takeWhile_append_of_pos digits, ends, append_nil,
    Nat.ofDigitChars_ten_toDigits]

theorem length_numberedText (before after : String) {number digits : Nat} (positive : 0 < digits)
    (bound : number < 10 ^ digits) :
    (numberedText before after number).length ≤
      before.toList.length + digits + after.toList.length := by
  have := (Nat.length_toDigits_le_iff (by decide) positive).mpr bound
  simp only [numberedText, length_append, length_ascii]
  omega

/-! ### Families of texts -/

/-- Values of which one per number has a known text. -/
structure TextFamily (Value : Type) where
  member : UInt64 → Value
  number : Value → UInt64
  before : String
  after : String
  opens : before.toList.head? = some '{'
  ends : ((ascii after.toList).map fun byte => Char.ofNat byte.toNat).takeWhile Char.isDigit = []

namespace TextFamily

variable {Value : Type} [DecidableEq Value] [Countable Value] (family : TextFamily Value)

/-- The numbers that tell the other values apart. -/
noncomputable def code (Value : Type) [Countable Value] : Value → Nat :=
  (exists_injective_nat Value).choose

noncomputable def encode (value : Value) : Bytes :=
  if value = family.member (family.number value) then
    numberedText family.before family.after (family.number value).toNat
  else
    0 :: List.replicate (code Value value) 0

noncomputable def decode (bytes : Bytes) : Option Value :=
  match bytes with
  | 0 :: rest => partialInv (code Value) rest.length
  | bytes =>
    let number := numberIn family.before bytes
    if numberedText family.before family.after number = bytes then
      some (family.member (UInt64.ofNat number))
    else
      none

theorem decode_encode (value : Value) : family.decode (family.encode value) = some value := by
  unfold encode
  split
  · rename_i isMember
    obtain ⟨_, opens⟩ := head?_eq_some_iff.mp family.opens
    have text : ∃ tail, numberedText family.before family.after (family.number value).toNat =
        123 :: tail := by
      rw [numberedText, opens]
      exact ⟨_, rfl⟩
    have read := numberIn_numberedText family.before (family.number value).toNat family.ends
    obtain ⟨tail, isText⟩ := text
    rw [isText, decode]
    · rw [← isText, read, if_pos rfl, UInt64.ofNat_toNat, ← isMember]
    · nofun
  · rw [decode, length_replicate]
    exact partialInv_left (exists_injective_nat Value).choose_spec value

end TextFamily

/-! ### The codec -/

instance countableUInt8 : Countable UInt8 := Injective.countable fun _ _ => UInt8.toNat_inj.mp
instance countableUInt16 : Countable UInt16 := Injective.countable fun _ _ => UInt16.toNat_inj.mp
instance countableUInt32 : Countable UInt32 := Injective.countable fun _ _ => UInt32.toNat_inj.mp
instance countableUInt64 : Countable UInt64 := Injective.countable fun _ _ => UInt64.toNat_inj.mp
instance countableChar : Countable Char := Injective.countable fun _ _ => Char.toNat_inj.mp
instance countableString : Countable String := Injective.countable fun _ _ => String.toList_inj.mp
instance (count : Nat) : Countable (Octets count) :=
  Injective.countable fun _ _ => Octets.ext

deriving instance Countable for SocketAddr
deriving instance Countable for UdpDatagramDirection
deriving instance Countable for UdpDatagramModification
deriving instance Countable for SpoolHeader
deriving instance Countable for PersistedCursor

/-- A datagram of one process of generation `g`, captured before any clear. -/
def plainDatagram (payload : Bytes) : CapturedUdpDatagram where
  event :=
    { processId := 7
      clientAddress := .v4 (.quad 127 0 0 1) 5353
      targetAddress := .v4 (.quad 192 0 2 1) 53
      direction := .up
      payload := payload
      capturedAtMilliseconds := 0
      modifications := [] }
  recordingProcessGeneration := "g"
  recordingEpoch := 0

def plainHeader (sequence : UInt64) : SpoolHeader :=
  { ((plainDatagram []).frame 0).header with sequence := sequence }

def plainCursor (readOffset : UInt64) : PersistedCursor where
  recordingGeneration := "g"
  segmentId := 1
  sequence := 1
  readOffset := readOffset

/-- The headers of the plain datagram, by their sequence. -/
def headerTexts : TextFamily SpoolHeader where
  member := plainHeader
  number := SpoolHeader.sequence
  before := "\x7b\"sequence\":"
  after := ",\"recordingProcessGeneration\":\"g\",\"recordingEpoch\":0,\"processId\":7," ++
    "\"clientAddress\":\"127.0.0.1:5353\",\"targetAddress\":\"192.0.2.1:53\"," ++
    "\"direction\":\"up\",\"capturedAtMilliseconds\":0,\"modifications\":[]\x7d"
  opens := by decide +kernel
  ends := by
    rw [String.toList_append, String.toList_append, String.toList_ofList]
    rfl

/-- The cursors behind the first frame, by their offset. -/
def cursorTexts : TextFamily PersistedCursor where
  member := plainCursor
  number := PersistedCursor.readOffset
  before := "\x7b\"recordingGeneration\":\"g\",\"segmentId\":1,\"sequence\":1,\"readOffset\":"
  after := "\x7d"
  opens := by decide +kernel
  ends := by decide +kernel

/-- A codec with the JSON texts of the plain headers and cursors. -/
noncomputable def sampleCodec : SpoolCodec where
  encodeHeader := headerTexts.encode
  decodeHeader := headerTexts.decode
  encodeCursor := cursorTexts.encode
  decodeCursor := cursorTexts.decode
  decodeHeader_encodeHeader := headerTexts.decode_encode
  decodeCursor_encodeCursor := cursorTexts.decode_encode

theorem encodeHeader_plain (sequence : UInt64) :
    sampleCodec.encodeHeader (plainHeader sequence) =
      numberedText headerTexts.before headerTexts.after sequence.toNat := by
  show headerTexts.encode (plainHeader sequence) = _
  rw [TextFamily.encode, if_pos]
  · rfl
  · rfl

/-- The length of the header of a plain datagram. -/
theorem length_plainHeader (sequence : UInt64) :
    206 < (sampleCodec.encodeHeader (plainHeader sequence)).length ∧
      (sampleCodec.encodeHeader (plainHeader sequence)).length ≤ 226 := by
  have before : headerTexts.before.toList.length = 12 := by decide +kernel
  have after : headerTexts.after.toList.length = 194 := by
    rw [headerTexts, String.toList_append, String.toList_append, String.toList_ofList,
      String.toList_ofList, String.toList_ofList]
    rfl
  have limit := sequence.toNat_lt
  have short := @length_numberedText headerTexts.before headerTexts.after _ 20
    (by decide) (limit.trans_le (by decide))
  rw [encodeHeader_plain]
  constructor
  · have positive := @Nat.length_toDigits_pos 10 sequence.toNat
    simp only [numberedText, length_append, length_ascii]
    omega
  · omega

end SprakCapture.UdpRecording
