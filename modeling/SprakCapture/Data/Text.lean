import Mathlib.Algebra.GroupWithZero.Nat
import Mathlib.Data.List.DropRight

/-!
# Text operations

The operations that programs of different languages have on text, here on lists of
characters: trimming, cutting into tokens, letter case and the size of the UTF-8 form.
-/

namespace SprakCapture.Data.Text

open List

/-- The white space of Unicode. -/
def isWhitespace (char : Char) : Bool :=
  let code := char.toNat
  (9 ≤ code && code ≤ 13) || code == 0x20 || code == 0x85 || code == 0xA0 || code == 0x1680 ||
    (0x2000 ≤ code && code ≤ 0x200A) || code == 0x2028 || code == 0x2029 || code == 0x202F ||
    code == 0x205F || code == 0x3000

/-- Space, tabulator, line feed, form feed and carriage return. -/
def isAsciiWhitespace (char : Char) : Bool :=
  char == ' ' || char == '\t' || char == '\n' || char.toNat == 12 || char == '\r'

/-- The control characters of Unicode. -/
def isControl (char : Char) : Bool :=
  char.toNat < 0x20 || (0x7F ≤ char.toNat && char.toNat < 0xA0)

/-- Remove the symbols of a kind at the end. -/
def trimEndWith {Symbol : Type} (trimmed : Symbol → Bool) (text : List Symbol) : List Symbol :=
  (text.reverse.dropWhile trimmed).reverse

/-- Remove the symbols of a kind at both ends. -/
def trimWith {Symbol : Type} (trimmed : Symbol → Bool) (text : List Symbol) : List Symbol :=
  trimEndWith trimmed (text.dropWhile trimmed)

/-- Remove white space at both ends. -/
def trim (text : List Char) : List Char := trimWith isWhitespace text

/-- The tokens between ASCII white space. -/
def splitAsciiWhitespace (text : List Char) : List (List Char) :=
  (text.splitOnP isAsciiWhitespace).filter fun token => !token.isEmpty

def toAsciiLowercase (text : List Char) : List Char :=
  text.map fun char => if 'A' ≤ char ∧ char ≤ 'Z' then Char.ofNat (char.toNat + 32) else char

/-- The number of bytes of the UTF-8 form. -/
def utf8Length (text : List Char) : Nat := (text.map Char.utf8Size).sum

/-- The value of a hexadecimal digit. -/
def hexDigit (char : Char) : Option Nat :=
  if '0' ≤ char ∧ char ≤ '9' then some (char.toNat - '0'.toNat)
  else if 'a' ≤ char ∧ char ≤ 'f' then some (char.toNat - 'a'.toNat + 10)
  else if 'A' ≤ char ∧ char ≤ 'F' then some (char.toNat - 'A'.toNat + 10)
  else none

/-- `str::parse` of an unsigned integer below a bound: a plus sign may stand before the digits. -/
def parseUnsigned (bound : Nat) (text : List Char) : Option Nat :=
  let digits := if text.head? = some '+' then text.tail else text
  let value := Nat.ofDigitChars 10 digits 0
  if digits ≠ [] ∧ digits.all Char.isDigit ∧ value < bound then some value else none

/-- `rsplit_once`: what stands before and behind the last separator. -/
def rsplitOnce (separator : Char) (text : List Char) : Option (List Char × List Char) :=
  match text.reverse.dropWhile (· != separator) with
  | [] => none
  | _ :: before => some (before.reverse, (text.reverse.takeWhile (· != separator)).reverse)

/-! ### What trimming keeps -/

section Trimming

variable {Symbol : Type} {trimmed : Symbol → Bool} {text : List Symbol}

theorem trimEndWith_eq_self_iff :
    trimEndWith trimmed text = text ↔ ∀ last, text.getLast? = some last → trimmed last = false := by
  have right : trimEndWith trimmed text = text.rdropWhile trimmed := rfl
  rw [right]
  cases text using List.reverseRecOn with
  | nil | append_singleton _ last => simp

theorem trimWith_eq_self (kept : ∀ symbol ∈ text, trimmed symbol = false) :
    trimWith trimmed text = text := by
  have front : text.dropWhile trimmed = text := by
    simp_all
  grind [trimWith, trimEndWith_eq_self_iff]

theorem trimWith_trimWith : trimWith trimmed (trimWith trimmed text) = trimWith trimmed text := by
  have ends : trimWith trimmed text = (text.dropWhile trimmed).rdropWhile trimmed := rfl
  have front : (trimWith trimmed text).dropWhile trimmed = trimWith trimmed text := by
    rw [dropWhile_eq_self_iff, ends]
    intro positive
    obtain ⟨_, isRest⟩ := rdropWhile_prefix trimmed (text.dropWhile trimmed)
    have whole : 0 < (text.dropWhile trimmed).length := by
      rw [← isRest, length_append]
      omega
    have sameHead := getElem_of_eq isRest (isRest.symm ▸ whole)
    rw [getElem_append_left positive] at sameHead
    rw [sameHead]
    exact dropWhile_get_zero_not trimmed text whole
  rw [trimWith, front]
  exact rdropWhile_idempotent trimmed (text.dropWhile trimmed)

theorem length_trimWith_le : (trimWith trimmed text).length ≤ text.length := by
  exact (List.rdropWhile_prefix trimmed _).length_le.trans (length_dropWhile_le trimmed text)

end Trimming

/-! ### What cutting keeps -/

theorem sum_length_splitOnP {Symbol : Type} (cuts : Symbol → Bool) (text : List Symbol) :
    ((text.splitOnP cuts).map (·.length + 1)).sum = text.length + 1 := by
  induction text with
  | nil => rfl
  | cons _ text ih =>
    obtain ⟨_, _, split⟩ := exists_cons_of_ne_nil (splitOnP_ne_nil cuts text)
    rw [splitOnP_cons_eq_if_modifyHead, split]
    rw [split] at ih
    split
    · grind
    · simp only [modifyHead_cons, map_cons, sum_cons, length_cons] at *
      omega

theorem exists_mem_splitOnP {Symbol : Type} {cuts : Symbol → Bool} {text : List Symbol}
    {symbol : Symbol} (member : symbol ∈ text) :
    cuts symbol = true ∨ ∃ piece ∈ text.splitOnP cuts, symbol ∈ piece := by
  induction text with
  | nil => cases member
  | cons first text ih =>
    obtain ⟨piece, _, split⟩ := exists_cons_of_ne_nil (splitOnP_ne_nil cuts text)
    rw [splitOnP_cons_eq_if_modifyHead, split]
    rw [split] at ih
    cases passes : cuts first with
    | true =>
      rcases mem_cons.mp member with rfl | later
      · exact .inl passes
      simp_all
    | false =>
      rcases mem_cons.mp member with rfl | later
      · simp
      refine (ih later).imp_right ?_
      rintro ⟨other, otherMember, inside⟩
      rcases mem_cons.mp otherMember with rfl | rest
      · simp_all
      · exact ⟨other, mem_cons_of_mem _ rest, inside⟩

/-- Symbols that fail stay in front of the first piece. -/
theorem splitOnP_append_of_fails {Symbol : Type} {test : Symbol → Bool} {first : List Symbol}
    (fails : ∀ symbol ∈ first, test symbol = false) (second : List Symbol) :
    (first ++ second).splitOnP test = (second.splitOnP test).modifyHead (first ++ ·) := by
  induction first with
  | nil =>
    rw [nil_append]
    cases List.splitOnP test second with
    | nil | cons piece pieces => rfl
  | cons symbol first ih =>
    have failsHead := fails symbol mem_cons_self
    rw [cons_append, splitOnP_cons_eq_if_modifyHead, failsHead, ih fun other member => fails other (mem_cons_of_mem _ member)]
    cases List.splitOnP test second with
    | nil | cons piece pieces => rfl

/-! ### Reading items -/

/-- The codes of hexadecimal digits, with their values. -/
theorem hexDigit_eq_some {char : Char} {digit : Nat} (isDigit : hexDigit char = some digit) :
    48 ≤ char.toNat ∧ char.toNat ≤ 57 ∧ digit = char.toNat - 48 ∨
      97 ≤ char.toNat ∧ char.toNat ≤ 102 ∧ digit = char.toNat - 87 ∨
      65 ≤ char.toNat ∧ char.toNat ≤ 70 ∧ digit = char.toNat - 55 := by
  have range : ∀ {low high : Char}, low ≤ char ∧ char ≤ high →
      low.toNat ≤ char.toNat ∧ char.toNat ≤ high.toNat := fun bounds => bounds
  unfold hexDigit at isDigit
  split at isDigit
  · next decimal =>
    have bounds : 48 ≤ char.toNat ∧ char.toNat ≤ 57 := range decimal
    have value : digit = char.toNat - 48 := (Option.some.inj isDigit).symm
    omega
  split at isDigit
  · next lower =>
    have bounds : 97 ≤ char.toNat ∧ char.toNat ≤ 102 := range lower
    have value : digit = char.toNat - 97 + 10 := (Option.some.inj isDigit).symm
    omega
  split at isDigit
  · next upper =>
    have bounds : 65 ≤ char.toNat ∧ char.toNat ≤ 70 := range upper
    have value : digit = char.toNat - 65 + 10 := (Option.some.inj isDigit).symm
    omega
  · cases isDigit

section Reading

variable {Item Value : Type} {read other : Item → Option Value} {items : List Item}

/-- Items are read one by one. -/
theorem mapM_isSome :
    (items.mapM read).isSome ↔ ∀ item ∈ items, (read item).isSome := by
  induction items with
  | nil => simp
  | cons item items ih =>
    rw [mapM_cons, forall_mem_cons, ← ih]
    cases read item with
    | none => simp
    | some => cases items.mapM read <;> simp

theorem mapM_congr (same : ∀ item ∈ items, read item = other item) :
    items.mapM read = items.mapM other := by
  induction items with
  | nil => rfl
  | cons item items => simp_all

theorem mapM_eq_none (fails : ∃ item ∈ items, read item = none) : items.mapM read = none := by
  rw [← Option.not_isSome_iff_eq_none, mapM_isSome]
  obtain ⟨item, member, missing⟩ := fails
  intro reads
  have present := reads item member
  rw [missing] at present
  cases present

theorem mapM_eq_some_map {value : Item → Value}
    (reads : ∀ item ∈ items, read item = some (value item)) :
    items.mapM read = some (items.map value) :=
  (mapM_congr reads).trans mapM_pure

theorem length_of_mapM {values : List Value} (reads : items.mapM read = some values) :
    values.length = items.length := by
  induction items generalizing values with
  | nil => grind
  | cons _ items ih =>
    rw [mapM_cons] at reads
    obtain ⟨_, -, reads⟩ := Option.bind_eq_some_iff.mp reads
    obtain ⟨_, isRest, same⟩ := Option.bind_eq_some_iff.mp reads
    cases same
    exact congrArg (· + 1) (ih isRest)

end Reading

end SprakCapture.Data.Text
