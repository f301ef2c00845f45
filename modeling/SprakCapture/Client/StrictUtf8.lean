import SprakCapture.Client.NativeText

/-!
# Strict UTF-8

The native check for UTF-8 works on bytes with masks and shifts. In numbers it accepts the
UTF-8 forms of the texts without ASCII control characters, and only these.
-/

namespace SprakCapture.Client

open Data List Data.Utf8

/-- Append one continuation byte to a code point under way. -/
def continueCode (code : UInt32) (next : UInt8) : Option UInt32 :=
  if next &&& 0xC0 = 0x80 then some (code <<< 6 ||| (next &&& 0x3F).toUInt32) else none

/-- The sequence is not overlong, not a surrogate and not out of range. -/
def isCodePoint (minimum code : UInt32) : Bool :=
  !(code < minimum || 0x10FFFF < code || (0xD800 ≤ code && code ≤ 0xDFFF))

/-- The continuation bytes complete a code point. -/
def completes (first : UInt8) (minimum : UInt32) (following : Bytes) : Bool :=
  match following.foldlM continueCode first.toUInt32 with
  | some code => isCodePoint minimum code
  | none => false

/-- `IsStrictUtf8`: well-formed UTF-8 without ASCII control characters. -/
def isStrictUtf8 : Bytes → Bool
  | [] => true
  | first :: rest =>
    if first < 0x80 then
      !(first == 0 || first < 0x20 || first == 0x7F) && isStrictUtf8 rest
    else if first &&& 0xE0 = 0xC0 then
      match rest with
      | second :: rest => completes (first &&& 0x1F) 0x80 [second] && isStrictUtf8 rest
      | _ => false
    else if first &&& 0xF0 = 0xE0 then
      match rest with
      | second :: third :: rest =>
        completes (first &&& 0x0F) 0x800 [second, third] && isStrictUtf8 rest
      | _ => false
    else if first &&& 0xF8 = 0xF0 then
      match rest with
      | second :: third :: fourth :: rest =>
        completes (first &&& 0x07) 0x10000 [second, third, fourth] && isStrictUtf8 rest
      | _ => false
    else false

/-! ### Bytes and code points as numbers -/

/-- What holds of the numbers below 256 holds of bytes. -/
theorem forall_byte {holds : UInt8 → Prop} (numbers : ∀ number < 256, holds (UInt8.ofNat number))
    (byte : UInt8) : holds byte := by
  rw [← @UInt8.ofNat_toNat byte]
  exact numbers byte.toNat byte.toNat_lt

theorem lead_iff : ∀ byte : UInt8,
    (byte &&& 0xE0 = 0xC0 ↔ byte.toNat / 32 = 6) ∧ (byte &&& 0xF0 = 0xE0 ↔ byte.toNat / 16 = 14) ∧
      (byte &&& 0xF8 = 0xF0 ↔ byte.toNat / 8 = 30) ∧
      (byte &&& 0xC0 = 0x80 ↔ byte.toNat / 64 = 2) :=
  forall_byte (by decide +kernel)

/-- The code point that continuation bytes extend a first part to. -/
def codeValue (first : Nat) (following : Bytes) : Nat :=
  following.foldl (fun value next => value * 64 + next.toNat % 64) first

theorem toNat_continued {code : UInt32} (room : code.toNat < 2 ^ 26) (next : UInt8) :
    (code <<< 6 ||| (next &&& 0x3F).toUInt32).toNat = code.toNat * 64 + next.toNat % 64 := by
  have shifted : (code <<< 6).toNat = 2 ^ 6 * code.toNat := by
    rw [UInt32.toNat_shiftLeft]
    change (code.toNat <<< 6) % 2 ^ 32 = _
    rw [Nat.shiftLeft_eq]
    omega
  have low : (next &&& 0x3F).toUInt32.toNat = next.toNat % 64 := by
    rw [UInt8.toNat_toUInt32, UInt8.toNat_and]
    exact Nat.and_two_pow_sub_one_eq_mod _ 6
  rw [UInt32.toNat_or, shifted, low,
    ← Nat.two_pow_add_eq_or_of_lt (show next.toNat % 64 < 2 ^ 6 by omega)]
  omega

theorem foldlM_continueCode {following : Bytes} {code result : UInt32} {bits : Nat}
    (narrow : code.toNat < 2 ^ bits) (room : bits + 6 * following.length ≤ 32) :
    following.foldlM continueCode code = some result ↔
      (∀ next ∈ following, next.toNat / 64 = 2) ∧ result.toNat = codeValue code.toNat following := by
  induction following generalizing code bits with
  | nil =>
    simp only [foldlM_nil, not_mem_nil, false_imp_iff, implies_true, true_and, codeValue,
      foldl_nil, UInt32.toNat_inj]
    grind
  | cons next following ih =>
    rw [length_cons] at room
    have small : code.toNat < 2 ^ 26 :=
      Nat.lt_of_lt_of_le narrow (Nat.pow_le_pow_right (by decide) (by omega))
    have value := toNat_continued small next
    rw [foldlM_cons, continueCode, forall_mem_cons]
    by_cases continuation : next &&& 0xC0 = 0x80
    · have narrowNext : (code <<< 6 ||| (next &&& 0x3F).toUInt32).toNat < 2 ^ (bits + 6) := by
        rw [value, Nat.pow_add]
        omega
      have rest := @ih _ _ narrowNext (by omega)
      rw [value] at rest
      rw [if_pos continuation]
      change following.foldlM continueCode _ = some result ↔ _
      rw [rest, codeValue, codeValue, foldl_cons]
      simp only [(lead_iff next).2.2.2.mp continuation, true_and]
    · have other : next.toNat / 64 ≠ 2 := fun mark => continuation ((lead_iff next).2.2.2.mpr mark)
      simp_all

theorem isCodePoint_iff {minimum code : UInt32} :
    isCodePoint minimum code = true ↔ minimum.toNat ≤ code.toNat ∧ code.toNat.isValidChar := by
  simp only [isCodePoint, Bool.not_eq_true', Bool.or_eq_false_iff, decide_eq_false_iff_not,
    Bool.and_eq_false_iff, UInt32.lt_iff_toNat_lt, UInt32.le_iff_toNat_le, UInt32.reduceToNat,
    Nat.isValidChar]
  omega

/-- When the continuation bytes complete a code point. -/
theorem completes_iff {first : UInt8} {minimum : UInt32} {following : Bytes} {bits : Nat}
    (narrow : first.toNat < 2 ^ bits) (room : bits + 6 * following.length ≤ 32) :
    completes first minimum following = true ↔
      (∀ next ∈ following, next.toNat / 64 = 2) ∧ minimum.toNat ≤ codeValue first.toNat following ∧
        (codeValue first.toNat following).isValidChar := by
  have narrowCode : first.toUInt32.toNat < 2 ^ bits := by rwa [UInt8.toNat_toUInt32]
  rw [completes]
  cases folded : following.foldlM continueCode first.toUInt32 with
  | some =>
    obtain ⟨marks, value⟩ := (foldlM_continueCode narrowCode room).mp folded
    rw [UInt8.toNat_toUInt32] at value
    simp only [isCodePoint_iff, value, and_iff_right marks]
  | none =>
    refine ⟨nofun, fun ⟨marks, _, valid⟩ => ?_⟩
    have small : codeValue first.toNat following < 2 ^ 32 := by
      rcases valid with _ | _
      · omega
      · omega
    have found := (@foldlM_continueCode following first.toUInt32
      (UInt32.ofNat (codeValue first.toNat following)) _ narrowCode room).mpr
      ⟨marks, by rw [UInt32.toNat_ofNat_of_lt' small, UInt8.toNat_toUInt32]⟩
    rw [folded] at found
    cases found

theorem toNat_and_mask (byte : UInt8) {mask : UInt8} (bits : Nat)
    (isMask : mask.toNat = 2 ^ bits - 1) : (byte &&& mask).toNat = byte.toNat % 2 ^ bits := by
  simp_all

theorem exists_char_of_isValidChar {code : Nat} (valid : code.isValidChar) :
    ∃ char : Char, char.toNat = code := by
  refine ⟨Char.ofNat code, ?_⟩
  rw [Char.ofNat, dif_pos valid]
  rfl

/-- A byte with its high part is determined by its low part. -/
theorem eq_ofNat_add {byte : UInt8} {high low : Nat} (same : byte.toNat = high + low) :
    UInt8.ofNat (high + low) = byte := by
  rw [← same, UInt8.ofNat_toNat]

/-! ### What the check accepts -/

/-- What is accepted as strict UTF-8 is the UTF-8 form of a text. -/
theorem exists_encode_of_isStrictUtf8 {bytes : Bytes} (strict : isStrictUtf8 bytes = true) :
    ∃ text, Utf8.encode text = bytes := by
  fun_induction isStrictUtf8 bytes with
  | case1 => exact ⟨[], rfl⟩
  | case2 first rest ascii ih =>
    rw [Bool.and_eq_true] at strict
    obtain ⟨text, rfl⟩ := ih strict.2
    have small : first.toNat < 128 := UInt8.lt_iff_toNat_lt.mp ascii
    have valid : first.toNat.isValidChar := .inl (by omega)
    obtain ⟨char, same⟩ := exists_char_of_isValidChar valid
    refine ⟨char :: text, ?_⟩
    rw [encode_cons, utf8EncodeChar_of_ascii (by rwa [same]), same, UInt8.ofNat_toNat,
      singleton_append]
  | case3 first wide lead second rest ih =>
    rw [Bool.and_eq_true] at strict
    obtain ⟨text, rfl⟩ := ih strict.2
    have mask := toNat_and_mask first 5 (show (0x1F : UInt8).toNat = 2 ^ 5 - 1 from rfl)
    have head := (lead_iff first).1.mp lead
    have complete :=
      (@completes_iff _ _ [second] 5 (by omega) (show 5 + 6 * 1 ≤ 32 by decide)).mp strict.1
    simp only [codeValue, foldl_cons, foldl_nil, mem_singleton, forall_eq,
      UInt32.reduceToNat, mask] at complete
    obtain ⟨_, low, valid⟩ := complete
    obtain ⟨char, same⟩ := exists_char_of_isValidChar valid
    refine ⟨char :: text, ?_⟩
    rw [encode_cons, utf8EncodeChar_two (by rwa [same]) (by rw [same]; omega), same,
      cons_append, singleton_append, @eq_ofNat_add first _ _ (by omega),
      @eq_ofNat_add second _ _ (by omega)]
  | case4 | case6 | case8 | case9 => cases strict
  | case5 first wide notTwo lead second third rest ih =>
    rw [Bool.and_eq_true] at strict
    obtain ⟨text, rfl⟩ := ih strict.2
    have mask := toNat_and_mask first 4 (show (0x0F : UInt8).toNat = 2 ^ 4 - 1 from rfl)
    have head := (lead_iff first).2.1.mp lead
    have complete :=
      (@completes_iff _ _ [second, third] 4 (by omega) (show 4 + 6 * 2 ≤ 32 by decide)).mp strict.1
    simp only [codeValue, foldl_cons, foldl_nil, forall_mem_cons, not_mem_nil,
      false_imp_iff, implies_true, and_true, UInt32.reduceToNat, mask] at complete
    obtain ⟨⟨markSecond, markThird⟩, low, valid⟩ := complete
    obtain ⟨char, same⟩ := exists_char_of_isValidChar valid
    refine ⟨char :: text, ?_⟩
    rw [encode_cons, utf8EncodeChar_three (by rwa [same]) (by rw [same]; omega), same,
      cons_append, cons_append, singleton_append,
      @eq_ofNat_add first _ _ (by omega), @eq_ofNat_add second _ _ (by omega),
      @eq_ofNat_add third _ _ (by omega)]
  | case7 first wide notTwo _ lead second third fourth rest ih =>
    rw [Bool.and_eq_true] at strict
    obtain ⟨text, rfl⟩ := ih strict.2
    have mask := toNat_and_mask first 3 (show (0x07 : UInt8).toNat = 2 ^ 3 - 1 from rfl)
    have head := (lead_iff first).2.2.1.mp lead
    have complete :=
      (@completes_iff _ _ [second, third, fourth] 3 (by omega)
        (show 3 + 6 * 3 ≤ 32 by decide)).mp strict.1
    simp only [codeValue, foldl_cons, foldl_nil, forall_mem_cons, not_mem_nil,
      false_imp_iff, implies_true, and_true, UInt32.reduceToNat, mask] at complete
    obtain ⟨⟨markSecond, markThird, _⟩, low, valid⟩ := complete
    obtain ⟨char, same⟩ := exists_char_of_isValidChar valid
    refine ⟨char :: text, ?_⟩
    rw [encode_cons, utf8EncodeChar_four (by rwa [same]), same,
      cons_append, cons_append, cons_append, singleton_append,
      @eq_ofNat_add first _ _ (by omega), @eq_ofNat_add second _ _ (by omega),
      @eq_ofNat_add third _ _ (by omega), @eq_ofNat_add fourth _ _ (by omega)]

theorem toNat_ofNat_lt {number : Nat} (small : number < 256) :
    (UInt8.ofNat number).toNat = number := UInt8.toNat_ofNat_of_lt' small

section Lead

variable {first second third fourth : UInt8} {rest : Bytes}

theorem not_lt_of_le_toNat (wide : 128 ≤ first.toNat) : ¬first < 0x80 := by
  rw [UInt8.lt_iff_toNat_lt]
  exact Nat.not_lt_of_le wide

theorem isStrictUtf8_cons :
    isStrictUtf8 (first :: rest) =
      if first < 0x80 then
        !(first == 0 || first < 0x20 || first == 0x7F) && isStrictUtf8 rest
      else if first &&& 0xE0 = 0xC0 then
        match rest with
        | second :: rest => completes (first &&& 0x1F) 0x80 [second] && isStrictUtf8 rest
        | _ => false
      else if first &&& 0xF0 = 0xE0 then
        match rest with
        | second :: third :: rest =>
          completes (first &&& 0x0F) 0x800 [second, third] && isStrictUtf8 rest
        | _ => false
      else if first &&& 0xF8 = 0xF0 then
        match rest with
        | second :: third :: fourth :: rest =>
          completes (first &&& 0x07) 0x10000 [second, third, fourth] && isStrictUtf8 rest
        | _ => false
      else false := by
  rw [isStrictUtf8.eq_def]
  rfl

theorem isStrictUtf8_one (printable : 32 ≤ first.toNat ∧ first.toNat < 127) :
    isStrictUtf8 (first :: rest) = isStrictUtf8 rest := by
  have ascii : first < 0x80 := UInt8.lt_iff_toNat_lt.mpr (Nat.lt_trans printable.2 (by decide))
  have zero : first ≠ 0 := by
    rintro rfl
    exact absurd printable.1 (by decide)
  have control : ¬first < 0x20 := by
    rw [UInt8.lt_iff_toNat_lt]
    exact Nat.not_lt_of_le printable.1
  have delete : first ≠ 0x7F := by
    rintro rfl
    exact absurd printable.2 (by decide)
  rw [isStrictUtf8_cons]
  simp [ascii, zero, control, delete]

theorem isStrictUtf8_two (lead : first.toNat / 32 = 6) :
    isStrictUtf8 (first :: second :: rest) =
      (completes (first &&& 0x1F) 0x80 [second] && isStrictUtf8 rest) := by
  rw [isStrictUtf8_cons, if_neg (not_lt_of_le_toNat (by omega)), if_pos ((lead_iff first).1.mpr lead)]

theorem isStrictUtf8_three (lead : first.toNat / 16 = 14) :
    isStrictUtf8 (first :: second :: third :: rest) =
      (completes (first &&& 0x0F) 0x800 [second, third] && isStrictUtf8 rest) := by
  rw [isStrictUtf8_cons, if_neg (not_lt_of_le_toNat (by omega)), if_neg,
    if_pos ((lead_iff first).2.1.mpr lead)]
  rw [(lead_iff first).1]
  omega

theorem isStrictUtf8_four (lead : first.toNat / 8 = 30) :
    isStrictUtf8 (first :: second :: third :: fourth :: rest) =
      (completes (first &&& 0x07) 0x10000 [second, third, fourth] && isStrictUtf8 rest) := by
  rw [isStrictUtf8_cons, if_neg (not_lt_of_le_toNat (by omega)), if_neg, if_neg,
    if_pos ((lead_iff first).2.2.1.mpr lead)]
  · rw [(lead_iff first).2.1]
    omega
  · rw [(lead_iff first).1]
    omega

end Lead

theorem isStrictUtf8_encode {text : List Char}
    (printable : ∀ char ∈ text, 32 ≤ char.toNat ∧ char.toNat ≠ 127) :
    isStrictUtf8 (Utf8.encode text) = true := by
  induction text with
  | nil => rfl
  | cons char text ih =>
    obtain ⟨_, _⟩ := printable char mem_cons_self
    have rest :=
      ih fun other member => printable other (mem_cons_of_mem _ member)
    have valid : char.toNat.isValidChar := char.valid
    have range : char.toNat < 0x110000 := by
      rcases valid with _ | high
      · omega
      · exact high.2
    rw [encode_cons]
    by_cases one : char.toNat < 0x80
    · have first := @toNat_ofNat_lt char.toNat (by omega)
      rw [utf8EncodeChar_of_ascii one, singleton_append, isStrictUtf8_one, rest]
      omega
    have last := @toNat_ofNat_lt (128 + char.toNat % 64) (by omega)
    have middle := @toNat_ofNat_lt (128 + char.toNat / 64 % 64) (by omega)
    by_cases two : char.toNat < 0x800
    · have first := @toNat_ofNat_lt (192 + char.toNat / 64) (by omega)
      have mask := toNat_and_mask (UInt8.ofNat (192 + char.toNat / 64)) 5
        (show (0x1F : UInt8).toNat = 2 ^ 5 - 1 from rfl)
      rw [utf8EncodeChar_two (by omega) two, cons_append, singleton_append,
        isStrictUtf8_two (by omega), rest, Bool.and_true,
        @completes_iff _ _ _ 5 (by omega) (by rw [length_singleton]; decide)]
      have value : codeValue (UInt8.ofNat (192 + char.toNat / 64) &&& 0x1F).toNat
          [UInt8.ofNat (128 + char.toNat % 64)] = char.toNat := by
        simp only [codeValue, foldl_cons, foldl_nil, mask, first, last]
        omega
      grind
    by_cases three : char.toNat < 0x10000
    · have first := @toNat_ofNat_lt (224 + char.toNat / 4096) (by omega)
      have mask := toNat_and_mask (UInt8.ofNat (224 + char.toNat / 4096)) 4
        (show (0x0F : UInt8).toNat = 2 ^ 4 - 1 from rfl)
      rw [utf8EncodeChar_three (by omega) three, cons_append, cons_append,
        singleton_append, isStrictUtf8_three (by omega), rest, Bool.and_true,
        @completes_iff _ _ _ 4 (by omega) (by rw [length_cons, length_singleton]; decide)]
      have value : codeValue (UInt8.ofNat (224 + char.toNat / 4096) &&& 0x0F).toNat
          [UInt8.ofNat (128 + char.toNat / 64 % 64), UInt8.ofNat (128 + char.toNat % 64)] =
            char.toNat := by
        simp only [codeValue, foldl_cons, foldl_nil, mask, first, middle, last]
        omega
      grind
    · have first := @toNat_ofNat_lt (240 + char.toNat / 262144) (by omega)
      have upper := @toNat_ofNat_lt (128 + char.toNat / 4096 % 64) (by omega)
      have mask := toNat_and_mask (UInt8.ofNat (240 + char.toNat / 262144)) 3
        (show (0x07 : UInt8).toNat = 2 ^ 3 - 1 from rfl)
      rw [utf8EncodeChar_four (by omega), cons_append, cons_append,
        cons_append, singleton_append, isStrictUtf8_four (by omega), rest,
        Bool.and_true, @completes_iff _ _ _ 3 (by omega)
          (by rw [length_cons, length_cons, length_singleton]; decide)]
      have value : codeValue (UInt8.ofNat (240 + char.toNat / 262144) &&& 0x07).toNat
          [UInt8.ofNat (128 + char.toNat / 4096 % 64),
            UInt8.ofNat (128 + char.toNat / 64 % 64), UInt8.ofNat (128 + char.toNat % 64)] =
            char.toNat := by
        simp only [codeValue, foldl_cons, foldl_nil, mask, first, upper, middle, last]
        omega
      grind

end SprakCapture.Client
