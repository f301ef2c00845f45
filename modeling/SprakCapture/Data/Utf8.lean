import SprakCapture.Data.Bytes
import SprakCapture.Data.Text

/-!
# Text as UTF-8

A program that keeps text as bytes and looks only for ASCII characters in it sees the same
structure as one that keeps characters: a byte of a wider character is never an ASCII byte.
An `AsciiTest` is such a test, on bytes and on characters, and the operations that cut text at
a test commute with the encoding.
-/

namespace SprakCapture.Data.Utf8

open List

/-- The UTF-8 form of a text. -/
def encode (text : List Char) : Bytes := text.flatMap String.utf8EncodeChar

theorem encode_cons (char : Char) (text : List Char) :
    encode (char :: text) = String.utf8EncodeChar char ++ encode text := rfl

@[simp] theorem encode_append (first second : List Char) :
    encode (first ++ second) = encode first ++ encode second :=
  flatMap_append ..

theorem encode_singleton (char : Char) : encode [char] = String.utf8EncodeChar char :=
  append_nil _

theorem length_encode (text : List Char) : (encode text).length = Text.utf8Length text := by
  induction text with
  | nil => rfl
  | cons _ text ih =>
    rw [encode_cons, length_append, String.length_utf8EncodeChar, ih]
    rfl

variable {char : Char}

/-- An ASCII character is one byte. -/
theorem utf8EncodeChar_of_ascii (ascii : char.toNat < 128) :
    String.utf8EncodeChar char = [UInt8.ofNat char.toNat] :=
  if_pos (Nat.le_of_lt_succ ascii)

/-- No byte of a wider character is an ASCII byte. -/
theorem le_of_mem_utf8EncodeChar (wide : 128 ≤ char.toNat) :
    ∀ byte ∈ String.utf8EncodeChar char, 128 ≤ byte.toNat := by
  unfold Char.toNat at wide
  unfold String.utf8EncodeChar
  dsimp only
  rw [if_neg (Nat.not_le_of_lt wide)]
  split
  · simp
    omega
  split
  · simp
    omega
  · simp
    omega

/-- A character is one ASCII byte, or bytes that are not ASCII. -/
theorem utf8EncodeChar_cases (char : Char) :
    (char.toNat < 128 ∧ String.utf8EncodeChar char = [UInt8.ofNat char.toNat]) ∨
      (128 ≤ char.toNat ∧ String.utf8EncodeChar char ≠ [] ∧
        ∀ byte ∈ String.utf8EncodeChar char, 128 ≤ byte.toNat) := by
  rcases Nat.lt_or_ge char.toNat 128 with ascii | wide
  · exact .inl ⟨ascii, utf8EncodeChar_of_ascii ascii⟩
  · exact .inr ⟨wide, String.utf8EncodeChar_ne_nil, le_of_mem_utf8EncodeChar wide⟩

/-- An ASCII byte of a text is one of its characters. -/
theorem exists_of_mem_encode {byte : UInt8} {text : List Char} (member : byte ∈ encode text)
    (ascii : byte.toNat < 128) : ∃ char ∈ text, char.toNat = byte.toNat := by
  obtain ⟨char, charMember, inside⟩ := mem_flatMap.mp member
  rcases utf8EncodeChar_cases char with ⟨charAscii, encoded⟩ | ⟨_, _, _⟩
  · rw [encoded, mem_singleton] at inside
    refine ⟨char, charMember, ?_⟩
    rw [inside, UInt8.toNat_ofNat_of_lt' (Nat.lt_trans charAscii (by decide))]
  grind

theorem encode_injective {first second : List Char} (same : encode first = encode second) :
    first = second := by
  have sameBytes : first.utf8Encode = second.utf8Encode := congrArg List.toByteArray same
  have sameString : String.ofList first = String.ofList second := by
    rw [← String.toByteArray_inj]
    exact sameBytes
  rw [← String.toList_ofList (l := first), sameString, String.toList_ofList]

/-! ### The bytes of wider characters -/

theorem utf8EncodeChar_two (low : 0x80 ≤ char.toNat) (high : char.toNat < 0x800) :
    String.utf8EncodeChar char =
      [UInt8.ofNat (192 + char.toNat / 64), UInt8.ofNat (128 + char.toNat % 64)] := by
  unfold Char.toNat at *
  rw [String.utf8EncodeChar, if_neg (Nat.not_le_of_lt low), if_pos (Nat.le_of_lt_succ high),
    Nat.mod_eq_of_lt (by omega), Nat.add_comm 192, Nat.add_comm 128]

theorem utf8EncodeChar_three (low : 0x800 ≤ char.toNat) (high : char.toNat < 0x10000) :
    String.utf8EncodeChar char =
      [UInt8.ofNat (224 + char.toNat / 4096), UInt8.ofNat (128 + char.toNat / 64 % 64),
        UInt8.ofNat (128 + char.toNat % 64)] := by
  unfold Char.toNat at *
  rw [String.utf8EncodeChar, if_neg (by omega), if_neg (Nat.not_le_of_lt low),
    if_pos (Nat.le_of_lt_succ high), Nat.mod_eq_of_lt (by omega), Nat.add_comm 224,
    Nat.add_comm 128, Nat.add_comm 128]

theorem utf8EncodeChar_four (low : 0x10000 ≤ char.toNat) :
    String.utf8EncodeChar char =
      [UInt8.ofNat (240 + char.toNat / 262144), UInt8.ofNat (128 + char.toNat / 4096 % 64),
        UInt8.ofNat (128 + char.toNat / 64 % 64), UInt8.ofNat (128 + char.toNat % 64)] := by
  have valid := char.valid
  unfold UInt32.isValidChar Nat.isValidChar at valid
  unfold Char.toNat at *
  rw [String.utf8EncodeChar, if_neg (by omega), if_neg (by omega), if_neg (Nat.not_le_of_lt low),
    Nat.mod_eq_of_lt (by omega), Nat.add_comm 240, Nat.add_comm 128, Nat.add_comm 128,
    Nat.add_comm 128]

/-! ### Decoding -/

/-- The text whose UTF-8 form the bytes are. -/
def decode (bytes : Bytes) : Option (List Char) := bytes.toByteArray.utf8Decode?.map Array.toList

theorem decode_encode (text : List Char) : decode (encode text) = some text := by
  have decoded : (encode text).toByteArray.utf8Decode? = some text.toArray :=
    utf8Decode?_utf8Encode
  rw [decode, decoded]
  rfl

/-! ### Tests for ASCII characters -/

/-- A test on bytes and on characters that holds for ASCII characters only, the same ones. -/
structure AsciiTest (byteTest : UInt8 → Bool) (charTest : Char → Bool) : Prop where
  ascii : ∀ char, char.toNat < 128 → byteTest (UInt8.ofNat char.toNat) = charTest char
  high : ∀ byte, 128 ≤ byte.toNat → byteTest byte = false
  wide : ∀ char, 128 ≤ char.toNat → charTest char = false

namespace AsciiTest

/-- A test on codes that holds for ASCII codes only. -/
theorem ofCode {test : Nat → Bool} (narrow : ∀ code, 128 ≤ code → test code = false) :
    AsciiTest (fun byte => test byte.toNat) (fun char => test char.toNat) where
  ascii char ascii := by
    have small : char.toNat < UInt8.size := Nat.lt_trans ascii (by decide)
    simp only [UInt8.toNat_ofNat_of_lt' small]
  high byte high := narrow _ high
  wide char wide := narrow _ wide

variable {byteTest : UInt8 → Bool} {charTest : Char → Bool}

/-- On the bytes of one character the test answers as on the character. -/
theorem cases (test : AsciiTest byteTest charTest) (char : Char) :
    (∃ byte, String.utf8EncodeChar char = [byte] ∧ byteTest byte = charTest char) ∨
      (String.utf8EncodeChar char ≠ [] ∧ charTest char = false ∧
        ∀ byte ∈ String.utf8EncodeChar char, byteTest byte = false) := by
  rcases utf8EncodeChar_cases char with ⟨ascii, encoded⟩ | ⟨wide, nonempty, high⟩
  · exact .inl ⟨_, encoded, test.ascii char ascii⟩
  · exact .inr ⟨nonempty, test.wide char wide, fun byte member => test.high byte (high byte member)⟩

/-- Dropping a run at the end likewise. -/
theorem trimEnd_encode (test : AsciiTest byteTest charTest) (text : List Char) :
    Text.trimEndWith byteTest (encode text) = encode (Text.trimEndWith charTest text) := by
  induction text using List.reverseRecOn with
  | nil => rfl
  | append_singleton text char ih =>
    unfold Text.trimEndWith at ih ⊢
    rw [encode_append, encode_singleton, reverse_append, reverse_append]
    rcases test.cases char with ⟨_, encoded, same⟩ | ⟨nonempty, fails, none⟩
    · rw [encoded, reverse_singleton, reverse_singleton, singleton_append,
        singleton_append, dropWhile_cons, dropWhile_cons]
      grind [encode_append, encode_singleton]
    obtain ⟨_, last, encoded⟩ :=
      (eq_nil_or_concat (String.utf8EncodeChar char)).resolve_left nonempty
    have failsLast := none last (by rw [encoded]; simp)
    rw [encoded, concat_eq_append, reverse_append, reverse_singleton,
      singleton_append, cons_append, dropWhile_cons_of_neg (by simp [failsLast]),
      reverse_singleton, singleton_append,
      dropWhile_cons_of_neg (by simp [fails])]
    simp [encode_singleton, encoded]

end AsciiTest

end SprakCapture.Data.Utf8
