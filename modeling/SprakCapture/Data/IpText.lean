import SprakCapture.Data.Bytes
import SprakCapture.Data.Text

/-!
# Texts of addresses

The text forms of IPv4 and IPv6 addresses: what they parse to, which characters they consist of
and how an address is written in its canonical form.
-/

namespace SprakCapture.Data

open List Option Text

variable {groups : List Nat} {endsText : Bool}

namespace IpText

/-- One decimal part of a dotted address: at most three digits, no superfluous zero in front. -/
def parseOctet (digits : List Char) : Option UInt8 :=
  let value := Nat.ofDigitChars 10 digits 0
  if digits ≠ [] ∧ digits.length ≤ 3 ∧ digits.all (fun char => '0' ≤ char && char ≤ '9') ∧
      (digits.length = 1 ∨ digits.head? ≠ some '0') ∧ value < 256 then
    some (UInt8.ofNat value)
  else none

/-- A dotted address in the strict form, as a number in host order. -/
def parseIpv4 (text : List Char) : Option UInt32 :=
  match text.splitOnP (· == '.') with
  | [first, second, third, fourth] => do
      some (u32FromBe (← parseOctet first) (← parseOctet second) (← parseOctet third)
        (← parseOctet fourth))
  | _ => none

/-- One to four hexadecimal digits. -/
def isHexGroup (group : List Char) : Bool :=
  group ≠ [] && group.length ≤ 4 && group.all fun char => (hexDigit char).isSome

/-- The number that hexadecimal digits stand for. -/
def hexValue (digits : List Char) : Nat :=
  digits.foldl (fun value digit => value * 16 + (hexDigit digit).getD 0) 0

/-- The 16-bit groups in a list of pieces. A dotted address may stand for the last two where
the list ends the text. -/
def readGroups (endsText : Bool) : List (List Char) → Option (List Nat)
  | [] => some []
  | [piece] =>
    if isHexGroup piece then some [hexValue piece]
    else if endsText then
      (parseIpv4 piece).map fun address => [address.toNat / 65536, address.toNat % 65536]
    else none
  | piece :: pieces =>
    if isHexGroup piece then (readGroups endsText pieces).map (hexValue piece :: ·) else none

/-- The pieces between single colons; an empty text has none. -/
def colonPieces (text : List Char) : List (List Char) :=
  if text.isEmpty then [] else text.splitOnP (· == ':')

/-- Cut a text at its first double colon. -/
def cutDoubleColon : List Char → Option (List Char × List Char)
  | ':' :: ':' :: rest => some ([], rest)
  | char :: rest => (cutDoubleColon rest).map fun parts => (char :: parts.1, parts.2)
  | [] => none

/-- The text form of an IPv6 address: eight groups, or fewer around one double colon that
stands for zeros. -/
def parseIpv6 (text : List Char) : Option (List Nat) :=
  match cutDoubleColon text with
  | none =>
    match readGroups true (colonPieces text) with
    | some groups => if groups.length = 8 then some groups else none
    | none => none
  | some (before, after) =>
    match readGroups false (colonPieces before), readGroups true (colonPieces after) with
    | some first, some second =>
      if first.length + second.length ≤ 7 then
        some (first ++ List.replicate (8 - (first.length + second.length)) 0 ++ second)
      else none
    | _, _ => none

def isIpv6Text (text : List Char) : Bool := (parseIpv6 text).isSome

/-- An IPv6 address that stands for an IPv4 address. -/
def isIpv4Mapped (groups : List Nat) : Bool :=
  groups.take 6 == [0, 0, 0, 0, 0, 0xFFFF]

/-- The code of a hexadecimal digit, a dot or a colon. -/
def isAddressCode (code : Nat) : Bool :=
  (48 ≤ code && code ≤ 58) || (65 ≤ code && code ≤ 70) || (97 ≤ code && code ≤ 102) || code == 46

/-- A character that occurs in addresses. -/
def isAddressChar (char : Char) : Bool := isAddressCode char.toNat

/-! ### The shape of addresses -/

theorem shape_parseOctet {digits : List Char} (octet : (parseOctet digits).isSome) :
    digits.length ≤ 3 ∧ ∀ char ∈ digits, 48 ≤ char.toNat ∧ char.toNat ≤ 57 := by
  simp only [parseOctet] at octet
  split at octet
  · next conditions =>
      obtain ⟨_, short, all, _⟩ := conditions
      refine ⟨short, fun char member => ?_⟩
      have range := List.all_eq_true.mp all char member
      simp only [Bool.and_eq_true, decide_eq_true_eq] at range
      exact range
  · cases octet

variable {text : List Char}

section

variable (address : (parseIpv4 text).isSome)
include address

/-- A dotted address is four decimal parts. -/
theorem pieces_of_parseIpv4 :
    (text.splitOnP (· == '.')).length = 4 ∧
      ∀ piece ∈ text.splitOnP (· == '.'), (parseOctet piece).isSome := by
  rw [parseIpv4] at address
  split at address
  · next _ _ _ _ pieces =>
      rw [pieces]
      simp only [isSome_bind, Option.any_eq_true, bind] at address
      obtain ⟨_, isFirst, _, isSecond, _, isThird, _, isFourth, _⟩ := address
      simp [isFirst, isSecond, isThird, isFourth]
  · cases address

theorem chars_of_parseIpv4 :
    ∀ char ∈ text, char = '.' ∨ (48 ≤ char.toNat ∧ char.toNat ≤ 57) := by
  intro char member
  rcases @exists_mem_splitOnP _ (· == '.') _ _ member with dot | ⟨piece, pieceMember, inside⟩
  · exact .inl (beq_iff_eq.mp dot)
  · exact .inr ((shape_parseOctet ((pieces_of_parseIpv4 address).2 piece pieceMember)).2 char inside)

theorem shape_parseIpv4 :
    text ≠ [] ∧ text.length ≤ 15 ∧ ∀ char ∈ text, isAddressChar char = true := by
  obtain ⟨count, octets⟩ := pieces_of_parseIpv4 address
  have total := sum_length_splitOnP (· == '.') text
  have bound : ∀ pieces : List (List Char), (∀ piece ∈ pieces, (parseOctet piece).isSome) →
      pieces.length ≤ (pieces.map (·.length + 1)).sum ∧
        (pieces.map (·.length + 1)).sum ≤ 4 * pieces.length := by
    intro pieces each
    induction pieces with
    | nil => exact ⟨Nat.le_refl _, Nat.le_refl _⟩
    | cons piece pieces ih =>
      have short := (shape_parseOctet (each piece mem_cons_self)).1
      grind
  have bounds := bound _ octets
  refine ⟨?_, by omega, fun char member => ?_⟩
  · rintro rfl
    cases count
  · rcases chars_of_parseIpv4 address char member with rfl | digit
    · decide
    · have upper : char.toNat ≤ 58 := by omega
      simp [isAddressChar, isAddressCode, digit.1, upper]

end

theorem shape_isHexGroup {group : List Char} (hexadecimal : isHexGroup group = true) :
    group.length ≤ 4 ∧ ∀ char ∈ group, isAddressChar char = true := by
  simp only [isHexGroup, Bool.and_eq_true, decide_eq_true_eq, List.all_eq_true] at hexadecimal
  refine ⟨hexadecimal.1.2, fun char member => ?_⟩
  obtain ⟨_, isDigit⟩ := Option.isSome_iff_exists.mp (hexadecimal.2 char member)
  have codes := Text.hexDigit_eq_some isDigit
  simp only [isAddressChar, isAddressCode, Bool.or_eq_true, Bool.and_eq_true, decide_eq_true_eq]
  omega

theorem shape_readGroups {pieces : List (List Char)}
    (read : readGroups endsText pieces = some groups) :
    (pieces.map (·.length + 1)).sum ≤ 5 * groups.length + (if endsText then 6 else 0) ∧
      ∀ piece ∈ pieces, ∀ char ∈ piece, isAddressChar char = true := by
  fun_induction readGroups endsText pieces generalizing groups with
  | case1 => simp
  | case2 piece hexadecimal =>
    obtain ⟨short, chars⟩ := shape_isHexGroup hexadecimal
    cases read
    simp only [map_cons, map_nil, sum_cons, sum_nil, mem_singleton, forall_eq, length_singleton]
    exact ⟨by omega, chars⟩
  | case3 piece _ ends =>
    obtain ⟨_, parsed, rfl⟩ := map_eq_some_iff.mp read
    obtain ⟨_, short, chars⟩ := shape_parseIpv4 (by rw [parsed]; rfl)
    simp only [map_cons, map_nil, sum_cons, sum_nil, mem_singleton,
      forall_eq, ends, if_true, length_cons]
    exact ⟨by omega, chars⟩
  | case4 | case6 => cases read
  | case5 piece pieces _ hexadecimal ih =>
    obtain ⟨short, chars⟩ := shape_isHexGroup hexadecimal
    obtain ⟨_, isRest, rfl⟩ := map_eq_some_iff.mp read
    obtain ⟨_, restChars⟩ := ih isRest
    refine ⟨?_, forall_mem_cons.mpr ⟨chars, restChars⟩⟩
    rw [map_cons, sum_cons, length_cons]
    omega

theorem cutDoubleColon_eq_some {text before after : List Char}
    (cut : cutDoubleColon text = some (before, after)) : text = before ++ ':' :: ':' :: after := by
  fun_induction cutDoubleColon text generalizing before with
  | case1 rest =>
    cases cut
    rfl
  | case2 _ rest _ ih =>
    obtain ⟨⟨_, _⟩, isParts, same⟩ := map_eq_some_iff.mp cut
    cases same
    rw [ih isParts]
    rfl
  | case3 => cases cut

theorem shape_colonPieces (read : readGroups endsText (colonPieces text) = some groups) :
    text.length ≤ 5 * groups.length + (if endsText then 5 else 0) ∧
      ∀ char ∈ text, isAddressChar char = true := by
  rw [colonPieces] at read
  split at read
  · simp_all
  obtain ⟨short, chars⟩ := shape_readGroups read
  rw [sum_length_splitOnP] at short
  refine ⟨?_, fun char member => ?_⟩
  · grind
  rcases @exists_mem_splitOnP _ (· == ':') _ _ member with colon | ⟨piece, pieceMember, inside⟩
  · rw [beq_iff_eq.mp colon]
    decide
  · exact chars piece pieceMember char inside

theorem shape_isIpv6Text (address : isIpv6Text text = true) :
    text ≠ [] ∧ text.length ≤ 45 ∧ ∀ char ∈ text, isAddressChar char = true := by
  rw [isIpv6Text, parseIpv6] at address
  split at address
  · split at address
    · next _ read =>
        split at address
        · next eight =>
            obtain ⟨short, chars⟩ := shape_colonPieces read
            refine ⟨?_, by simp only [if_true] at short; omega, chars⟩
            rintro rfl
            cases read
            cases eight
        · cases address
    · cases address
  · next _ _ cut =>
      split at address
      · next _ _ isFirst isSecond =>
          split at address
          · next _ =>
              obtain ⟨shortBefore, charsBefore⟩ := shape_colonPieces isFirst
              obtain ⟨shortAfter, charsAfter⟩ := shape_colonPieces isSecond
              simp only [Bool.false_eq_true, if_false, if_true] at shortBefore shortAfter
              rw [cutDoubleColon_eq_some cut]
              refine ⟨by simp, ?_, ?_⟩
              · simp only [length_append, length_cons]
                omega
              · simp only [forall_mem_append, forall_mem_cons]
                exact ⟨charsBefore, by decide, by decide, charsAfter⟩
          · cases address
      · cases address

/-- The text of an IPv6 address has a colon. -/
theorem colon_of_parseIpv6 (parsed : parseIpv6 text = some groups) : ':' ∈ text := by
  by_contra absent
  rw [parseIpv6] at parsed
  split at parsed
  · split at parsed
    · next read =>
        have pieces : colonPieces text = [] ∨ colonPieces text = [text] := by
          rw [colonPieces]
          split
          · exact .inl rfl
          have single := @splitOnP_append_of_fails _ (· == ':') _ (by
            intro _ member
            rw [beq_eq_false_iff_ne]
            rintro rfl
            exact absent member) []
          rw [append_nil] at single
          rw [single]
          simp
        rcases pieces with none | one
        · rw [none] at read
          cases read
          cases parsed
        rw [one, readGroups] at read
        split at read
        · cases read
          cases parsed
        · obtain ⟨_, _, rfl⟩ := map_eq_some_iff.mp read
          cases parsed
    · cases parsed
  · next cut =>
      rw [cutDoubleColon_eq_some cut] at absent
      simp at absent

/-! ### Addresses of either family -/

inductive IpAddr where
  | v4 (address : UInt32)
  | v6 (groups : List Nat)
deriving DecidableEq

namespace IpAddr

def parse (text : List Char) : Option IpAddr :=
  match parseIpv4 text with
  | some address => some (.v4 address)
  | none => (parseIpv6 text).map .v6

def decimal (number : Nat) : List Char := (toString number).toList

def formatIpv4 (address : Nat) : List Char :=
  decimal (address / 2 ^ 24) ++ '.' :: decimal (address / 2 ^ 16 % 256) ++
    '.' :: decimal (address / 2 ^ 8 % 256) ++ '.' :: decimal (address % 256)

def formatGroups (groups : List Nat) : List Char :=
  List.intercalate [':'] (groups.map (Nat.toDigits 16))

/-- The first of the longest runs of zeros, as its start and its length. -/
def longestZeros (groups : List Nat) : Nat × Nat :=
  let step (state : Nat × (Nat × Nat) × (Nat × Nat)) (group : Nat) :=
    let (index, current, longest) := state
    if group = 0 then
      let current := if current.2 = 0 then (index, 1) else (current.1, current.2 + 1)
      (index + 1, current, if longest.2 < current.2 then current else longest)
    else (index + 1, (0, 0), longest)
  (groups.foldl step (0, (0, 0), (0, 0))).2.2

def formatIpv6 (groups : List Nat) : List Char :=
  if isIpv4Mapped groups then
    "::ffff:".toList ++ formatIpv4 (groups.getD 6 0 * 65536 + groups.getD 7 0)
  else
    let (start, length) := longestZeros groups
    if 1 < length then
      formatGroups (groups.take start) ++ "::".toList ++ formatGroups (groups.drop (start + length))
    else formatGroups groups

/-- The canonical text of an address. -/
def toText : IpAddr → List Char
  | .v4 address => formatIpv4 address.toNat
  | .v6 groups => formatIpv6 groups

end IpAddr

/-! ### Written addresses -/

namespace IpAddr

/-- A group in four digits. -/
def wideGroup (group : Nat) : List Char :=
  [group / 4096 % 16, group / 256 % 16, group / 16 % 16, group % 16].map Nat.digitChar

/-- The text of an address with all digits of all groups, which is one of the texts that it may
have. -/
def formatWide (groups : List Nat) : List Char :=
  List.intercalate [':'] (groups.map wideGroup)

theorem head?_toDigits {number : Nat} (positive : 0 < number) :
    (Nat.toDigits 10 number).head? ≠ some '0' := by
  induction number using Nat.strong_induction_on with
  | h number ih =>
    rcases Nat.lt_or_ge number 10 with short | long
    · rw [Nat.toDigits_of_lt_base short]
      have nonzero : ∀ digit < 10, 0 < digit → Nat.digitChar digit ≠ '0' := by decide
      simpa using nonzero number short positive
    rw [Nat.toDigits_of_base_le (by decide) long]
    have first := ih (number / 10) (by omega) (by omega)
    have nonempty := @Nat.length_toDigits_pos 10 (number / 10)
    cases digits : Nat.toDigits 10 (number / 10) with
    | nil => simp [digits] at nonempty
    | cons digit => simpa [digits] using first

theorem parseOctet_decimal {number : Nat} (fits : number < 256) :
    parseOctet (decimal number) = some (UInt8.ofNat number) ∧
      ∀ char ∈ decimal number, (char == '.') = false := by
  have digits : decimal number = Nat.toDigits 10 number := by simp [decimal]
  have every : ∀ char ∈ Nat.toDigits 10 number, char.isDigit = true :=
    fun char member => Nat.isDigit_of_mem_toDigits (by decide) (by decide) member
  have nonempty := @Nat.length_toDigits_pos 10 number
  have short := (@Nat.length_toDigits_le_iff 10 number 3 (by decide) (by decide)).mpr (by omega)
  have leading : (Nat.toDigits 10 number).length = 1 ∨
      (Nat.toDigits 10 number).head? ≠ some '0' := by
    rcases Nat.eq_zero_or_pos number with rfl | positive
    · exact .inl rfl
    · exact .inr (head?_toDigits positive)
  rw [digits]
  refine ⟨?_, fun char member => ?_⟩
  · rw [parseOctet, Nat.ofDigitChars_ten_toDigits, if_pos]
    exact ⟨length_pos_iff.mp nonempty, short, all_eq_true.mpr fun char member => by
      simpa [Char.isDigit, Char.le_def] using every char member, leading, fits⟩
  · have isDigit := every char member
    rw [beq_eq_false_iff_ne]
    rintro rfl
    cases isDigit

/-- The text of an IPv4 address is that address. -/
theorem parseIpv4_formatIpv4 (address : UInt32) :
    parseIpv4 (formatIpv4 address.toNat) = some address := by
  have bound := address.toNat_lt
  have firstFits : address.toNat / 2 ^ 24 < 256 := by omega
  have fits (number : Nat) : number % 256 < 256 := Nat.mod_lt number (by decide)
  obtain ⟨isFirst, firstDotless⟩ := parseOctet_decimal firstFits
  obtain ⟨isSecond, secondDotless⟩ := parseOctet_decimal (fits (address.toNat / 2 ^ 16))
  obtain ⟨isThird, thirdDotless⟩ := parseOctet_decimal (fits (address.toNat / 2 ^ 8))
  obtain ⟨isFourth, fourthDotless⟩ := parseOctet_decimal (fits address.toNat)
  have pieces : (formatIpv4 address.toNat).splitOnP (· == '.') =
      [decimal (address.toNat / 2 ^ 24), decimal (address.toNat / 2 ^ 16 % 256),
        decimal (address.toNat / 2 ^ 8 % 256), decimal (address.toNat % 256)] := by
    simp only [formatIpv4, append_assoc, cons_append]
    rw [splitOnP_append_cons_of_forall_mem firstDotless _ rfl,
      splitOnP_append_cons_of_forall_mem secondDotless _ rfl,
      splitOnP_append_cons_of_forall_mem thirdDotless _ rfl,
      splitOnP_eq_singleton fourthDotless]
  have whole := u32FromBe_toBe address
  simp only [parseIpv4, pieces, isFirst, isSecond, isThird, isFourth]
  exact congrArg some whole

theorem hexDigit_digitChar : ∀ digit : Fin 16, hexDigit (Nat.digitChar digit.val) =
    some digit.val ∧ Nat.digitChar digit.val ≠ ':' := by
  decide +kernel

theorem hexDigit_of_lt {digit : Nat} (fits : digit < 16) :
    hexDigit (Nat.digitChar digit) = some digit := (hexDigit_digitChar ⟨digit, fits⟩).1

theorem wideGroup_spec {group : Nat} (fits : group < 65536) :
    isHexGroup (wideGroup group) = true ∧ hexValue (wideGroup group) = group ∧
      ':' ∉ wideGroup group := by
  have digits (number : Nat) : number % 16 < 16 := Nat.mod_lt number (by decide)
  grind [isHexGroup, wideGroup, hexValue, hexDigit_of_lt]

theorem readGroups_wide (fits : ∀ group ∈ groups, group < 65536) (endsText : Bool) :
    readGroups endsText (groups.map wideGroup) = some groups := by
  induction groups with
  | nil => rfl
  | cons group _ ih =>
    obtain ⟨_, _, -⟩ := wideGroup_spec (fits group mem_cons_self)
    grind [readGroups]

theorem cutDoubleColon_cons {char : Char} {rest : List Char}
    (apart : char ≠ ':' ∨ rest.head? ≠ some ':') (noneBehind : cutDoubleColon rest = none) :
    cutDoubleColon (char :: rest) = none := by
  rw [cutDoubleColon, noneBehind, map_none]
  rintro _ rfl rfl
  rcases apart with colon | colon
  · exact colon rfl
  · exact colon rfl

theorem cutDoubleColon_formatWide (groups : List Nat) :
    cutDoubleColon (formatWide groups) = none ∧ (formatWide groups).head? ≠ some ':' := by
  have noColon (number : Nat) : Nat.digitChar (number % 16) ≠ ':' :=
    (hexDigit_digitChar ⟨number % 16, Nat.mod_lt number (by decide)⟩).2
  have behind (group : Nat) {rest : List Char} (noneBehind : cutDoubleColon rest = none) :
      cutDoubleColon (wideGroup group ++ rest) = none ∧
        (wideGroup group ++ rest).head? ≠ some ':' := by
    refine ⟨?_, fun head => noColon _ (Option.some.inj head)⟩
    exact cutDoubleColon_cons (.inl (noColon _)) (cutDoubleColon_cons (.inl (noColon _))
      (cutDoubleColon_cons (.inl (noColon _)) (cutDoubleColon_cons (.inl (noColon _)) noneBehind)))
  induction groups with
  | nil => exact ⟨rfl, nofun⟩
  | cons group rest =>
    cases rest with
    | nil =>
      exact behind group rfl
    | cons second rest =>
      have split : formatWide (group :: second :: rest) =
          wideGroup group ++ ':' :: formatWide (second :: rest) := by
        simp [formatWide]
      grind [cutDoubleColon_cons]

theorem parseIpv6_formatWide (eight : groups.length = 8) (fits : ∀ group ∈ groups, group < 65536) :
    parseIpv6 (formatWide groups) = some groups := by
  have pieces : colonPieces (formatWide groups) = groups.map wideGroup := by
    have nonempty : groups.map wideGroup ≠ [] := by
      rw [Ne, map_eq_nil_iff]
      rintro rfl
      cases eight
    have colonless : ∀ piece ∈ groups.map wideGroup, ':' ∉ piece := by
      intro piece member
      obtain ⟨group, isGroup, rfl⟩ := List.mem_map.mp member
      exact (wideGroup_spec (fits group isGroup)).2.2
    have split : (formatWide groups).splitOnP (· == ':') = groups.map wideGroup :=
      splitOn_intercalate ':' colonless nonempty
    rw [colonPieces, split, if_neg]
    intro empty
    rw [List.isEmpty_iff.mp empty] at split
    have lengths := congrArg List.length split
    rw [length_map, eight] at lengths
    cases lengths
  rw [parseIpv6, (cutDoubleColon_formatWide groups).1, pieces, readGroups_wide fits]
  exact if_pos eight

end IpAddr

end IpText

end SprakCapture.Data
