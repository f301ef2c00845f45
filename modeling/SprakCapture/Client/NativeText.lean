import SprakCapture.Data.Utf8

/-!
# Text in the native client

The native client keeps text in byte strings. Its parsers cut lines at line feeds, trim ASCII
white space and change the case of ASCII letters; on the UTF-8 form of a text each of these is
the same operation on characters.
-/

namespace SprakCapture.Client

open Data List Data.Text Utf8

/-- A message of the client as bytes. -/
def message (text : String) : Bytes := Utf8.encode text.toList

/-- Space, tabulator, line feed, vertical tab, form feed and carriage return. -/
def isSpaceCode (code : Nat) : Bool := code == 32 || (9 ≤ code && code ≤ 13)

def isAsciiWhitespace (byte : UInt8) : Bool := isSpaceCode byte.toNat

/-- The same on characters. -/
def isAsciiSpace (char : Char) : Bool := isSpaceCode char.toNat

/-- Remove ASCII white space at both ends. -/
def trim (value : Bytes) : Bytes := trimWith isAsciiWhitespace value

/-- Remove a byte order mark at the beginning. -/
def removeUtf8Bom (value : Bytes) : Bytes :=
  if [0xEF, 0xBB, 0xBF].isPrefixOf value then value.drop 3 else value

def upperByte (byte : UInt8) : UInt8 := if 97 ≤ byte ∧ byte ≤ 122 then byte - 32 else byte

def lowerByte (byte : UInt8) : UInt8 := if 65 ≤ byte ∧ byte ≤ 90 then byte + 32 else byte

/-- ASCII letters in upper case. -/
def toUpper (value : Bytes) : Bytes := value.map upperByte

/-- ASCII letters in lower case. -/
def toLower (value : Bytes) : Bytes := value.map lowerByte

/-- The lines that `std::getline` reads. A text that ends with a line feed has no empty line
behind it. -/
def getLines {Symbol : Type} (lineFeed : Symbol → Bool) (text : List Symbol) : List (List Symbol) :=
  let pieces := text.splitOnP lineFeed
  if pieces.getLast?.any List.isEmpty then pieces.dropLast else pieces

/-- What stands before and after the first occurrence of a byte. -/
def cutAt (separator : UInt8) (value : Bytes) : Option (Bytes × Bytes) :=
  match value.dropWhile (· != separator) with
  | [] => none
  | _ :: after => some (value.takeWhile (· != separator), after)

def isDigitByte (byte : UInt8) : Bool := 48 ≤ byte.toNat && byte.toNat ≤ 57

/-- The number that decimal digits stand for. -/
def decimalValue (digits : Bytes) : Nat :=
  digits.foldl (fun value digit => value * 10 + (digit.toNat - 48)) 0

/-- `std::from_chars` to an `unsigned int` when it takes the whole text. -/
def fromChars (text : Bytes) : Option Nat :=
  if text ≠ [] ∧ text.all isDigitByte ∧ decimalValue text < 2 ^ 32 then some (decimalValue text)
  else none

/-! ### On the UTF-8 form of a text -/

theorem isAsciiWhitespace_test : AsciiTest isAsciiWhitespace isAsciiSpace := by
  refine AsciiTest.ofCode fun code _ => ?_
  have notSpace : code ≠ 32 := by omega
  have notControl : ¬code ≤ 13 := by omega
  simp [isSpaceCode, notSpace, notControl]

theorem message_inj {first second : String} : message first = message second ↔ first = second :=
  ⟨fun same => String.toList_injective (encode_injective same), congrArg message⟩

/-! ### Lines and fields -/

/-- Lines that are each ended by a line feed are read back one by one. -/
theorem getLines_flatMap {Symbol : Type} {lineFeed : Symbol → Bool} {feed : Symbol}
    (feeds : lineFeed feed = true) {lines : List (List Symbol)}
    (single : ∀ line ∈ lines, ∀ symbol ∈ line, lineFeed symbol = false) :
    getLines lineFeed (lines.flatMap (· ++ [feed])) = lines := by
  have pieces : (lines.flatMap (· ++ [feed])).splitOnP lineFeed = lines ++ [[]] := by
    induction lines with
    | nil => rfl
    | cons line lines ih =>
      have headSingle := single line mem_cons_self
      have tailPieces :=
        ih fun other member => single other (mem_cons_of_mem _ member)
      rw [flatMap_cons, append_assoc, splitOnP_append_of_fails headSingle, singleton_append,
        splitOnP_cons_eq_if_modifyHead, if_pos feeds, tailPieces, modifyHead_cons,
        append_nil, cons_append]
  simp [getLines, pieces]

theorem cutAt_append {separator : UInt8} {before : Bytes} (absent : separator ∉ before)
    (after : Bytes) : cutAt separator (before ++ separator :: after) = some (before, after) := by
  have others : ∀ byte ∈ before, (byte != separator) = true := by
    grind
  simp [cutAt, dropWhile_append_of_pos others, takeWhile_append_of_pos others]

theorem trim_append {first mark : UInt8} {before : Bytes}
    (starts : isAsciiWhitespace first = false) (marks : isAsciiWhitespace mark = false)
    (after : Bytes) :
    trim (first :: before ++ mark :: after) =
      first :: before ++ mark :: trimEndWith isAsciiWhitespace after := by
  have kept : ∀ bytes : Bytes,
      trimEndWith isAsciiWhitespace (bytes ++ mark :: after) =
        bytes ++ mark :: trimEndWith isAsciiWhitespace after := by
    intro bytes
    unfold trimEndWith
    rw [reverse_append, reverse_cons, append_assoc, dropWhile_append]
    simp_all
  unfold trim trimWith
  rw [cons_append, dropWhile_cons_of_neg (by simp [starts]), ← cons_append, kept]

/-! ### Decimal numbers -/

theorem toNat_ofNat_of_isDigit {char : Char} (digit : char.isDigit = true) :
    char.toNat < 128 ∧ (UInt8.ofNat char.toNat).toNat = char.toNat ∧
      isDigitByte (UInt8.ofNat char.toNat) = true := by
  have range : 48 ≤ char.toNat ∧ char.toNat ≤ 57 := by
    simpa using Char.isDigit_iff_toNat.mp digit
  have narrow : (UInt8.ofNat char.toNat).toNat = char.toNat :=
    UInt8.toNat_ofNat_of_lt' (Nat.lt_of_le_of_lt range.2 (by decide))
  grind [isDigitByte]

/-- On decimal digits the byte parser computes what the digits stand for. -/
theorem decimalValue_encode {digits : List Char} (decimal : ∀ char ∈ digits, char.isDigit = true) :
    (encode digits).all isDigitByte = true ∧
      decimalValue (encode digits) = Nat.ofDigitChars 10 digits 0 := by
  have general : ∀ value, (encode digits).all isDigitByte = true ∧
      (encode digits).foldl (fun value digit => value * 10 + (digit.toNat - 48)) value =
        Nat.ofDigitChars 10 digits value := by
    induction digits with
    | nil => exact fun value => ⟨rfl, rfl⟩
    | cons char digits ih =>
      intro value
      obtain ⟨ascii, narrow, digit⟩ := toNat_ofNat_of_isDigit (decimal char mem_cons_self)
      obtain ⟨restDigits, restValue⟩ :=
        ih (fun other member => decimal other (mem_cons_of_mem _ member))
          (value * 10 + (char.toNat - 48))
      rw [encode_cons, utf8EncodeChar_of_ascii ascii, singleton_append]
      refine ⟨by rw [all_cons, digit, restDigits]; rfl, ?_⟩
      rw [foldl_cons, narrow, restValue, Nat.mul_comm value]
      rfl
  exact general 0

/-- The decimal form of a number is read back. -/
theorem fromChars_toDigits {number : Nat} (small : number < 2 ^ 32) :
    fromChars (encode (Nat.toDigits 10 number)) = some number := by
  have decimal : ∀ char ∈ Nat.toDigits 10 number, char.isDigit = true :=
    fun _ member => Nat.isDigit_of_mem_toDigits (by decide) (by decide) member
  obtain ⟨_, value⟩ := decimalValue_encode decimal
  rw [Nat.ofDigitChars_toDigits (by decide) (by decide)] at value
  have nonempty : encode (Nat.toDigits 10 number) ≠ [] :=
    fun empty => Nat.toDigits_ne_nil (encode_injective empty)
  grind [fromChars]

end SprakCapture.Client
