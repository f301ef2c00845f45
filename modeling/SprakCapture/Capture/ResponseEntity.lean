import SprakCapture.Capture.Model

/-!
# The identity of a response entity

Ranges of one entity may be put together only if their responses name the same strong
entity tag and the same total length. Both are read from headers that occur exactly
once.
-/

namespace SprakCapture.Capture

/-- `u8::to_ascii_lowercase` on the ASCII letters. -/
def asciiLower (char : Char) : Char :=
  if 'A' ≤ char ∧ char ≤ 'Z' then Char.ofNat (char.toNat + 32) else char

def toAsciiLowercase (chars : List Char) : List Char := chars.map asciiLower

def eqIgnoreAsciiCase (left right : List Char) : Bool :=
  toAsciiLowercase left == toAsciiLowercase right

/-- `char::is_whitespace`. -/
def isWhitespace (char : Char) : Bool :=
  let code := char.toNat
  (9 ≤ code && code ≤ 13) || code == 0x20 || code == 0x85 || code == 0xA0 || code == 0x1680 ||
    (0x2000 ≤ code && code ≤ 0x200A) || code == 0x2028 || code == 0x2029 || code == 0x202F ||
    code == 0x205F || code == 0x3000

/-- `str::trim`. -/
def trimText (chars : List Char) : List Char :=
  ((chars.dropWhile isWhitespace).reverse.dropWhile isWhitespace).reverse

/-- `str::split_once` at a character. -/
def splitOnce (separator : Char) (chars : List Char) : Option (List Char × List Char) :=
  match chars.dropWhile (· != separator) with
  | [] => none
  | _ :: rest => some (chars.takeWhile (· != separator), rest)

/-- `str::parse::<u64>`: an optional plus sign and decimal digits, in range. -/
def parseU64 (chars : List Char) : Option Nat :=
  let digits :=
    match chars with
    | '+' :: rest => rest
    | _ => chars
  if digits.isEmpty || !digits.all Char.isDigit then none
  else
    let value := digits.foldl (fun value digit => value * 10 + (digit.toNat - '0'.toNat)) 0
    if value < 2 ^ 64 then some value else none

/-- The value of a header that occurs exactly once. -/
def uniqueResponseHeaderValue (headers : List HeaderField) (name : List Char) :
    Option (List Char) :=
  match (headers.filter fun header => eqIgnoreAsciiCase header.name.chars name).map
      fun header => trimText header.value.chars with
  | [value] => some value
  | _ => none

/-- The entity tag, if it is a strong one. -/
def strongResponseEntityTag (headers : List HeaderField) : Option (List Char) :=
  (uniqueResponseHeaderValue headers ['e', 't', 'a', 'g']).bind fun entityTag =>
    if ['W', '/'].isPrefixOf entityTag || utf8Bytes entityTag < 2 ||
        !(['"'].isPrefixOf entityTag) || !(['"'].isSuffixOf entityTag) ||
        ((entityTag.drop 1).dropLast).contains '"' then none
    else some entityTag

/-- The bounds of the range and the total length, from `bytes START-END/TOTAL`. -/
def responseContentRange (headers : List HeaderField) : Option (Nat × Nat × Nat) :=
  (uniqueResponseHeaderValue headers
    ['c', 'o', 'n', 't', 'e', 'n', 't', '-', 'r', 'a', 'n', 'g', 'e']).bind fun value =>
  (splitOnce ' ' value).bind fun (unit, range) =>
  if !eqIgnoreAsciiCase unit ['b', 'y', 't', 'e', 's'] || range.contains ' ' then none
  else
    (splitOnce '/' range).bind fun (bounds, totalText) =>
    (splitOnce '-' bounds).bind fun (startText, endText) =>
    (parseU64 startText).bind fun start =>
    (parseU64 endText).bind fun stop =>
    (parseU64 totalText).bind fun total =>
    if start ≤ stop ∧ stop < total then some (start, stop, total) else none

example : responseContentRange
    [⟨⟨"Content-Range".toList, 0⟩, ⟨" bytes 0-3/10 ".toList, 0⟩⟩] = some (0, 3, 10) := by
  decide +kernel

example : strongResponseEntityTag [⟨⟨"ETag".toList, 0⟩, ⟨"W/\"a\"".toList, 0⟩⟩] = none := by
  decide +kernel

end SprakCapture.Capture
