import SprakCapture.Data.IpText
import SprakCapture.Plugins.FilterRules

/-!
# The grammar of byte patterns

A pattern is a text of tokens between ASCII white space, each two hexadecimal digits or two
question marks. The parser leaves the digits to a reader of integers, which takes a plus sign in
the place of the first, and it trims by the white space of Unicode.
-/

namespace SprakCapture.Plugins

open Data List Option Data.Text Text
open Text (isWhitespace isAsciiWhitespace)

/-- A token of the grammar: two question marks, or two hexadecimal digits. -/
def grammarToken (token : List Char) : Option (Option UInt8) :=
  if token = ['?', '?'] then some none
  else
    match token with
    | [high, low] =>
      (hexDigit high).bind fun first => (hexDigit low).map fun second =>
        some (UInt8.ofNat (first * 16 + second))
    | _ => none

/-- What the grammar says of a text: its tokens, or nothing when it is blank. -/
def grammarPattern (value : List Char) : Except Unit (Option (List (Option UInt8))) :=
  let tokens := splitAsciiWhitespace value
  match tokens.mapM grammarToken with
  | some bytes =>
    if tokens ≠ [] ∧ tokens.length ≤ maximumPatternTokens then .ok (some bytes)
    else if value.all isWhitespace then .ok none
    else .error ()
  | none => if value.all isWhitespace then .ok none else .error ()

/-- A token in two hexadecimal digits, or two question marks. -/
def formatToken : Option UInt8 → List Char
  | none => ['?', '?']
  | some byte => [Nat.digitChar (byte.toNat / 16), Nat.digitChar (byte.toNat % 16)]

def formatPattern (bytes : List (Option UInt8)) : List Char :=
  [' '].intercalate (bytes.map formatToken)

/-- The parser reads a text by the grammar, and reads what it accepts back from its format. -/
def FollowsGrammar (value : List Char) : Prop :=
  parseBytePattern value true = grammarPattern value ∧
    ∀ bytes, parseBytePattern value true = .ok (some bytes) →
      parseBytePattern (formatPattern bytes) true = .ok (some bytes)

/-- A plus sign in front of a hexadecimal digit. -/
def IsSigned (token : List Char) : Prop :=
  ∃ digit, token = ['+', digit] ∧ (hexDigit digit).isSome

/-- The trimmed text has as many tokens as a pattern may have, each of the grammar or signed. -/
def OnlySigned (value : List Char) : Prop :=
  let tokens := splitAsciiWhitespace (Text.trim value)
  tokens ≠ [] ∧ tokens.length ≤ maximumPatternTokens ∧
    ∀ token ∈ tokens, (grammarToken token).isSome ∨ IsSigned token

/-! ### Tokens -/

variable {char : Char}

theorem hexDigit_lt {digit : Nat} (isDigit : hexDigit char = some digit) : digit < 16 := by
  have codes := hexDigit_eq_some isDigit
  omega

/-- Digits, question marks and plus signs are ASCII characters and no white space. -/
def IsTokenChar (char : Char) : Prop := (hexDigit char).isSome ∨ char = '?' ∨ char = '+'

theorem IsTokenChar.ascii (isToken : IsTokenChar char) :
    char.utf8Size = 1 ∧ isWhitespace char = false ∧ isAsciiWhitespace char = false := by
  have codes : 48 ≤ char.toNat ∧ char.toNat ≤ 102 ∨ char = '+' := by
    rcases isToken with digit | rfl | rfl
    · obtain ⟨value, isDigit⟩ := isSome_iff_exists.mp digit
      have codes := hexDigit_eq_some isDigit
      omega
    · decide
    · exact .inr rfl
  rcases codes with ⟨low, high⟩ | rfl
  · refine ⟨?_, ?_, ?_⟩
    · rw [Char.utf8Size_eq_one_iff]
      exact high.trans (by decide)
    · simp only [isWhitespace, Bool.or_eq_false_iff, Bool.and_eq_false_iff,
        decide_eq_false_iff_not, beq_eq_false_iff_ne]
      omega
    · simp only [isAsciiWhitespace, Bool.or_eq_false_iff, beq_eq_false_iff_ne]
      refine ⟨⟨⟨⟨?_, ?_⟩, ?_⟩, ?_⟩, ?_⟩ <;> first | omega | (rintro rfl; revert low; decide)
  · decide

variable {token : List Char}

theorem tokenChar_of_grammar (member : char ∈ token)
    (accepted : (grammarToken token).isSome ∨ IsSigned token) : IsTokenChar char := by
  rcases accepted with accepted | ⟨digit, rfl, isDigit⟩
  · by_cases wild : token = ['?', '?']
    · subst wild
      exact .inr (.inl (by simpa using member))
    match token with
    | [high, low] =>
      rw [grammarToken, if_neg wild] at accepted
      obtain ⟨byte, read⟩ := isSome_iff_exists.mp accepted
      obtain ⟨first, isFirst, read⟩ := bind_eq_some_iff.mp read
      obtain ⟨second, isSecond, -⟩ := map_eq_some_iff.mp read
      rcases mem_pair.mp member with rfl | rfl
      · exact .inl (isSome_of_eq_some isFirst)
      · exact .inl (isSome_of_eq_some isSecond)
    | [] | [_] | _ :: _ :: _ :: _ => simp [grammarToken] at accepted
  · rcases mem_pair.mp member with rfl | rfl
    · exact .inr (.inr rfl)
    · exact .inl isDigit

theorem u8FromHex_pair {high low : Char} (unsigned : high ≠ '+') : u8FromHex [high, low] =
    (hexDigit high).bind fun first => (hexDigit low).map fun second =>
      UInt8.ofNat (first * 16 + second) := by
  have noSign : ['+'].isPrefixOf [high, low] = false := by
    simpa [List.isPrefixOf] using unsigned.symm
  simp only [u8FromHex, noSign]
  cases first : hexDigit high with
  | none => simp [first]
  | some value =>
    have small := hexDigit_lt first
    cases second : hexDigit low with
    | none => simp [second]
    | some other =>
      have smaller := hexDigit_lt second
      simp [first, second, show value < 256 by omega, show value * 16 + other < 256 by omega]

theorem utf8Size_of_hexDigit {value : Nat} (isDigit : hexDigit char = some value) :
    char.utf8Size = 1 :=
  (IsTokenChar.ascii (.inl (isSome_of_eq_some isDigit))).1

theorem parseByteToken_signed (digit : Char) : parseByteToken true ['+', digit] =
    (hexDigit digit).map fun value => some (UInt8.ofNat value) := by
  have notWild : (['+', digit] == ['?', '?']) = false := by simp
  rw [parseByteToken, notWild]
  cases isDigit : hexDigit digit with
  | none => simp [u8FromHex, isDigit]
  | some value =>
    have small := hexDigit_lt isDigit
    have size : '+'.utf8Size = 1 := rfl
    simp [utf8Length, utf8Size_of_hexDigit isDigit, size, u8FromHex, isDigit,
      show value < 256 by omega]

/-- Without the sign it is the grammar. -/
theorem parseByteToken_eq (unsigned : ∀ digit, token ≠ ['+', digit]) :
    parseByteToken true token = grammarToken token := by
  match token with
  | [] => rfl
  | [char] =>
    by_cases sign : char = '+'
    · subst sign
      rfl
    have noSign : ['+'].isPrefixOf [char] = false := by
      simpa [List.isPrefixOf] using Ne.symm sign
    cases digit : hexDigit char with
    | none => simp [parseByteToken, grammarToken, u8FromHex, noSign, digit]
    | some value => simp [parseByteToken, grammarToken, utf8Length, utf8Size_of_hexDigit digit]
  | first :: second :: third :: rest =>
    have long : utf8Length (first :: second :: third :: rest) ≠ 2 := by
      have positive := first.utf8Size_pos
      have positive' := second.utf8Size_pos
      have positive'' := third.utf8Size_pos
      simp only [utf8Length, map_cons, sum_cons]
      omega
    simp [parseByteToken, long, grammarToken]
  | [high, low] =>
    have noSign : high ≠ '+' := fun sign => unsigned low (sign ▸ rfl)
    rw [parseByteToken, grammarToken, u8FromHex_pair noSign, Bool.true_and]
    simp only [beq_iff_eq]
    split
    · rfl
    cases first : hexDigit high with
    | none => simp
    | some value =>
      cases second : hexDigit low with
      | none => simp
      | some other =>
        simp [utf8Length, utf8Size_of_hexDigit first, utf8Size_of_hexDigit second]

/-! ### Texts -/

theorem grammarToken_signed (digit : Char) : grammarToken ['+', digit] = none := by
  simp [grammarToken, show hexDigit '+' = none from rfl]

theorem parseByteToken_isSome : (parseByteToken true token).isSome ↔
    (grammarToken token).isSome ∨ IsSigned token := by
  by_cases sign : ∃ digit, token = ['+', digit]
  · obtain ⟨digit, rfl⟩ := sign
    simp [parseByteToken_signed, grammarToken_signed, IsSigned]
  · rw [parseByteToken_eq fun digit same => sign ⟨digit, same⟩]
    exact (or_iff_left fun ⟨digit, same, _⟩ => sign ⟨digit, same⟩).symm

/-- White space of Unicode that is no ASCII white space. -/
def HasOtherSpace (value : List Char) : Prop :=
  ∃ char ∈ value, isWhitespace char = true ∧ isAsciiWhitespace char = false

section Splitting

variable {value : List Char} {test : Char → Bool}

section

variable (ascii : ∀ char ∈ value, test char = true → isAsciiWhitespace char = true)
include ascii

theorem split_dropWhile :
    splitAsciiWhitespace (value.dropWhile test) = splitAsciiWhitespace value := by
  induction value with
  | nil => rfl
  | cons char value ih =>
    rw [dropWhile_cons]
    split
    · next drops =>
      rw [ih fun other member => ascii other (.tail _ member), splitAsciiWhitespace,
        splitAsciiWhitespace, splitOnP_cons_eq_if_modifyHead,
        ascii char mem_cons_self drops]
      simp
    · rfl

theorem split_trimEndWith :
    splitAsciiWhitespace (trimEndWith test value) = splitAsciiWhitespace value := by
  induction value using List.reverseRecOn with
  | nil => rfl
  | append_singleton value char ih =>
    rw [trimEndWith, reverse_append, reverse_singleton, singleton_append, dropWhile_cons]
    split
    · next drops =>
      have space := ascii char (by simp) drops
      have shorter := ih fun other member => ascii other (by simp [member])
      rw [trimEndWith] at shorter
      rw [shorter, splitAsciiWhitespace, splitAsciiWhitespace, splitOnP_append_cons value [] space]
      simp
    · simp

end

/-- Trimming ASCII white space keeps the tokens. -/
theorem split_trim (ascii : ¬ HasOtherSpace value) :
    splitAsciiWhitespace (trim value) = splitAsciiWhitespace value := by
  have every : ∀ char ∈ value, isWhitespace char = true → isAsciiWhitespace char = true := by
    intro char member space
    by_contra other
    exact ascii ⟨char, member, space, by simpa using other⟩
  rw [trim, trimWith, split_trimEndWith, split_dropWhile every]
  exact fun char member => every char ((dropWhile_sublist _).subset member)

/-- A text of tokens has no other white space. -/
theorem not_hasOtherSpace
    (tokens : ∀ token ∈ splitAsciiWhitespace value, ∀ char ∈ token, IsTokenChar char) :
    ¬ HasOtherSpace value := by
  rintro ⟨char, member, space, other⟩
  rcases @exists_mem_splitOnP _ isAsciiWhitespace _ _ member with
    ascii | ⟨token, isToken, inside⟩
  · rw [other] at ascii
    cases ascii
  · have kept : token ∈ splitAsciiWhitespace value :=
      mem_filter.mpr ⟨isToken, by cases token <;> simp_all⟩
    rw [(tokens token kept char inside).ascii.2.1] at space
    cases space

end Splitting

/-! ### The format -/

theorem formatToken_chars (byte : Option UInt8) : ∀ char ∈ formatToken byte, IsTokenChar char := by
  intro char member
  cases byte with
  | none => exact .inr (.inl (by simpa [formatToken] using member))
  | some byte =>
    have small := byte.toNat_lt
    rcases mem_pair.mp member with rfl | rfl
    · exact .inl (by rw [IpText.IpAddr.hexDigit_of_lt (by omega)]; rfl)
    · exact .inl (by rw [IpText.IpAddr.hexDigit_of_lt (by omega)]; rfl)

theorem parseByteToken_format (byte : Option UInt8) :
    parseByteToken true (formatToken byte) = some byte := by
  cases byte with
  | none => rfl
  | some byte =>
    have small := byte.toNat_lt
    have high := IpText.IpAddr.hexDigit_of_lt (show byte.toNat / 16 < 16 by omega)
    have low := IpText.IpAddr.hexDigit_of_lt (show byte.toNat % 16 < 16 by omega)
    have value : byte.toNat / 16 * 16 + byte.toNat % 16 = byte.toNat := by omega
    rw [formatToken, parseByteToken_eq, grammarToken, if_neg, high, low]
    · simp [-UInt8.ofNat_add, value]
    · intro wild
      rw [(List.cons.inj wild).1] at high
      cases high
    · intro digit sign
      rw [(List.cons.inj sign).1] at high
      cases high

theorem split_formatPattern (bytes : List (Option UInt8)) :
    splitAsciiWhitespace (formatPattern bytes) = bytes.map formatToken := by
  have noSpace : ∀ byte : Option UInt8, ∀ char ∈ formatToken byte, isAsciiWhitespace char = false :=
    fun byte char member => (formatToken_chars byte char member).ascii.2.2
  have filled : ∀ byte : Option UInt8, (formatToken byte).isEmpty = false := by
    rintro (_ | byte) <;> rfl
  induction bytes with
  | nil => rfl
  | cons byte bytes ih =>
    cases bytes with
    | nil =>
      simp [formatPattern, splitAsciiWhitespace, splitOnP_eq_singleton (noSpace byte), filled]
    | cons next bytes =>
      rw [formatPattern, map_cons, map_cons, intercalate_cons_cons, splitAsciiWhitespace, append_assoc, singleton_append,
        splitOnP_append_cons_of_forall_mem (noSpace byte) _ rfl, filter_cons_of_pos]
      · exact congrArg (formatToken byte :: ·) ih
      · simp [filled]

/-! ### The parser -/

variable {bytes : List (Option UInt8)}

section Parsing

variable {value : List Char}

theorem trim_ne_nil (more : splitAsciiWhitespace (trim value) ≠ []) :
    (trim value).isEmpty = false := by
  cases trimmed : trim value with
  | nil => simp [trimmed, splitAsciiWhitespace] at more
  | cons char rest => rfl

/-- A text is read when its tokens are. -/
theorem parseBytePattern_eq_ok :
    parseBytePattern value true = .ok (some bytes) ↔
      splitAsciiWhitespace (trim value) ≠ [] ∧
        (splitAsciiWhitespace (trim value)).length ≤ maximumPatternTokens ∧
        (splitAsciiWhitespace (trim value)).mapM (parseByteToken true) = some bytes := by
  rw [parseBytePattern]
  constructor
  · grind
  · rintro ⟨more, short, read⟩
    simp [trim_ne_nil more, more, read, Nat.not_lt.mpr short]

theorem parseBytePattern_formatPattern (parsed : parseBytePattern value true = .ok (some bytes)) :
    parseBytePattern (formatPattern bytes) true = .ok (some bytes) := by
  obtain ⟨more, short, read⟩ := parseBytePattern_eq_ok.1 parsed
  have length := length_of_mapM read
  have tokens : splitAsciiWhitespace (trim (formatPattern bytes)) = bytes.map formatToken := by
    rw [split_trim, split_formatPattern]
    refine not_hasOtherSpace fun token isToken => ?_
    rw [split_formatPattern] at isToken
    obtain ⟨byte, -, rfl⟩ := List.mem_map.mp isToken
    exact formatToken_chars byte
  refine parseBytePattern_eq_ok.2 ⟨?_, ?_, ?_⟩
  · rw [tokens]
    have nonempty := length_pos_iff.mpr more
    exact length_pos_iff.mp (by rw [length_map]; omega)
  · rw [tokens, length_map]
    omega
  rw [tokens]
  clear * -
  induction bytes with
  | nil => rfl
  | cons byte bytes ih => rw [map_cons, mapM_cons, ih, parseByteToken_format]; rfl

theorem grammarPattern_eq_ok :
    grammarPattern value = .ok (some bytes) ↔
      splitAsciiWhitespace value ≠ [] ∧ (splitAsciiWhitespace value).length ≤ maximumPatternTokens ∧
        (splitAsciiWhitespace value).mapM grammarToken = some bytes := by
  rw [grammarPattern]
  grind

theorem trim_isEmpty : (trim value).isEmpty = value.all isWhitespace := by
  rw [Bool.eq_iff_iff, List.isEmpty_iff, List.all_eq_true, trim, trimWith,
    trimEndWith, reverse_eq_nil_iff, dropWhile_eq_nil_iff]
  constructor
  · intro all
    have none : value.dropWhile isWhitespace = [] := by
      have first := head?_dropWhile_not isWhitespace value
      cases dropped : value.dropWhile isWhitespace with
      | nil => rfl
      | cons char rest => simp_all
    exact dropWhile_eq_nil_iff.mp none
  · intro all
    rw [dropWhile_eq_nil_iff.mpr all]
    rintro _ ⟨⟩

/-- Blank texts and errors are the same in both. -/
theorem parse_eq_grammar
    (same : ∀ bytes, parseBytePattern value true = .ok (some bytes) ↔
      grammarPattern value = .ok (some bytes)) :
    parseBytePattern value true = grammarPattern value := by
  have blank := @trim_isEmpty value
  cases parsed : parseBytePattern value true with
  | error _ =>
    have refused : ∀ bytes, grammarPattern value ≠ .ok (some bytes) := by simp [← same, parsed]
    unfold parseBytePattern at parsed
    unfold grammarPattern at refused ⊢
    grind
  | ok result =>
    cases result with
    | some bytes => exact ((same bytes).mp parsed).symm
    | none =>
      have refused : ∀ bytes, grammarPattern value ≠ .ok (some bytes) := by simp [← same, parsed]
      unfold parseBytePattern at parsed
      unfold grammarPattern at refused ⊢
      grind

theorem not_hasOtherSpace_of_grammar
    (read : (splitAsciiWhitespace value).mapM grammarToken = some bytes) :
    ¬ HasOtherSpace value := by
  have every := mapM_isSome.mp (isSome_of_eq_some read)
  exact not_hasOtherSpace fun token isToken char member =>
    tokenChar_of_grammar member (.inl (every token isToken))

end Parsing

/-- The parser follows the grammar, unless a token has a plus sign in place of a digit or white
space that is not ASCII is trimmed, and the text has no other mistake. -/
theorem followsGrammar_iff (value : List Char) : FollowsGrammar value ↔
    ¬ (OnlySigned value ∧ (HasOtherSpace value ∨
      ∃ token ∈ splitAsciiWhitespace (Text.trim value), IsSigned token)) := by
  constructor
  · rintro ⟨follows, -⟩ ⟨⟨more, short, every⟩, astray⟩
    have reads := Text.mapM_isSome.mpr fun token isToken =>
      parseByteToken_isSome.2 (every token isToken)
    obtain ⟨bytes, read⟩ := isSome_iff_exists.mp reads
    rw [parseBytePattern_eq_ok.2 ⟨more, short, read⟩] at follows
    obtain ⟨-, -, grammar⟩ := grammarPattern_eq_ok.1 follows.symm
    have ascii := not_hasOtherSpace_of_grammar grammar
    rcases astray with space | ⟨token, isToken, digit, rfl, -⟩
    · exact ascii space
    · rw [split_trim ascii] at isToken
      have accepted := Text.mapM_isSome.mp (isSome_of_eq_some grammar) _ isToken
      cases accepted
  · intro plain
    refine ⟨parse_eq_grammar fun bytes => ?_, fun bytes => parseBytePattern_formatPattern⟩
    rw [parseBytePattern_eq_ok, grammarPattern_eq_ok]
    constructor
    · rintro ⟨more, short, read⟩
      have every := Text.mapM_isSome.mp (isSome_of_eq_some read)
      have only : OnlySigned value :=
        ⟨more, short, fun token isToken => parseByteToken_isSome.1 (every token isToken)⟩
      have ascii : ¬ HasOtherSpace value := fun space => plain ⟨only, .inl space⟩
      have same : (splitAsciiWhitespace value).mapM grammarToken =
          (splitAsciiWhitespace value).mapM (parseByteToken true) := by
        refine Text.mapM_congr fun token isToken => (parseByteToken_eq fun digit sign => ?_).symm
        rw [← split_trim ascii] at isToken
        have isDigit := every token isToken
        rw [sign, parseByteToken_signed, isSome_map] at isDigit
        exact plain ⟨only, .inr ⟨token, isToken, digit, sign, isDigit⟩⟩
      rw [split_trim ascii] at more short read
      exact ⟨more, short, same.trans read⟩
    · rintro ⟨more, short, read⟩
      have ascii := not_hasOtherSpace_of_grammar read
      have every := Text.mapM_isSome.mp (isSome_of_eq_some read)
      rw [split_trim ascii]
      refine ⟨more, short, (Text.mapM_congr fun token isToken => ?_).trans read⟩
      refine parseByteToken_eq fun digit sign => ?_
      have accepted := every token isToken
      rw [sign] at accepted
      cases accepted

/-- A plus sign in front of a digit is taken for a byte. -/
theorem not_followsGrammar_signed : ¬ FollowsGrammar ['+', '5'] := by
  rw [followsGrammar_iff, not_not]
  refine ⟨⟨by decide, by decide, fun token isToken => .inr ?_⟩, .inr ⟨['+', '5'], by decide, ?_⟩⟩
  · exact ⟨'5', mem_singleton.mp isToken, rfl⟩
  · exact ⟨'5', rfl, rfl⟩

end SprakCapture.Plugins
