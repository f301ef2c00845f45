import SprakCapture.Data.Bytes

/-!
# Ones' complement sums

The sum of 16-bit words in which a carry out of the highest bit is added at the lowest. A number
and its residue modulo 65535 stand for the same sum, except that a positive number never becomes
zero: `onesSum_eq` gives the sum in that closed form, and `onesValue_add_complement` is why a
complemented sum checks.
-/

namespace SprakCapture.Data

open List

/-- The words of a byte string, most significant byte first. An odd byte is the high half of the
last word. -/
def words : Bytes → List Nat
  | [] => []
  | [high] => [high.toNat * 256]
  | high :: low :: rest => (high.toNat * 256 + low.toNat) :: words rest

/-- Add two words with the carry around the end. -/
def endAround (first second : Nat) : Nat :=
  (first + second) % 0x10000 + (first + second) / 0x10000

/-- The ones' complement sum of some words. -/
def onesSum (terms : List Nat) : Nat := terms.foldl endAround 0

/-- The word that stands for a number. -/
def onesValue (number : Nat) : Nat := if number = 0 then 0 else (number - 1) % 0xffff + 1

/-! ### Words -/

theorem lt_of_mem_words {bytes : Bytes} : ∀ word ∈ words bytes, word < 0x10000 := by
  fun_induction words bytes with
  | case1 => nofun
  | case2 high =>
    intro word member
    obtain rfl := mem_singleton.mp member
    have bound := high.toNat_lt
    omega
  | case3 high low _ ih =>
    intro word member
    rcases mem_cons.mp member with rfl | later
    · have highBound := high.toNat_lt
      have lowBound := low.toNat_lt
      omega
    · exact ih word later

variable {first : Bytes} {terms : List Nat} (number : Nat) (second : Bytes)

/-- A byte string of even length ends between two words. -/
theorem words_append (even : first.length % 2 = 0) :
    words (first ++ second) = words first ++ words second := by
  fun_induction words first with
  | case1 => rfl
  | case2 high => cases even
  | case3 high _ rest ih =>
    have restEven : rest.length % 2 = 0 := by
      simp only [length_cons] at even
      omega
    rw [cons_append, cons_append, words, ih restEven, cons_append]

theorem sum_words_append (even : first.length % 2 = 0) :
    (words (first ++ second)).sum = (words first).sum + (words second).sum := by
  rw [words_append second even, sum_append]

theorem length_words_le (bytes : Bytes) : (words bytes).length ≤ bytes.length := by
  fun_induction words bytes with
  | case1 => exact Nat.le_refl 0
  | case2 high => exact Nat.le_refl 1
  | case3 high _ _ _ =>
    simp only [length_cons]
    omega

variable (small : ∀ word ∈ terms, word < 0x10000)
include small

theorem sum_words_le : terms.sum ≤ 0xffff * terms.length := by
  induction terms with
  | nil => exact Nat.le_refl 0
  | cons word _ ih =>
    have now := small word mem_cons_self
    have later := ih fun other member =>
      small other (mem_cons_of_mem _ member)
    rw [sum_cons, length_cons]
    omega

theorem sum_take_words_le (count : Nat) : (terms.take count).sum ≤ 0xffff * terms.length := by
  have bound := @sum_words_le (terms.take count) fun word member =>
    small word (mem_of_mem_take member)
  rw [length_take] at bound
  omega

/-! ### Sums in closed form -/

omit small

theorem onesValue_lt : onesValue number < 0x10000 := by
  unfold onesValue
  split
  · decide
  · omega

/-- Folding a carry back does not change the word that a number stands for. -/
theorem onesValue_fold : onesValue (number % 0x10000 + number / 0x10000) = onesValue number := by
  grind [onesValue]

theorem onesValue_of_lt {number : Nat} (small : number < 0x10000) : onesValue number = number := by
  unfold onesValue
  split <;> omega

theorem endAround_eq {first second : Nat} (firstSmall : first < 0x10000)
    (secondSmall : second < 0x10000) : endAround first second = onesValue (first + second) := by
  rw [← onesValue_fold, endAround, onesValue_of_lt]
  omega

theorem onesValue_add (first second : Nat) :
    onesValue (onesValue first + second) = onesValue (first + second) := by
  grind [onesValue]

theorem onesSum_eq (small : ∀ word ∈ terms, word < 0x10000) :
    onesSum terms = onesValue terms.sum := by
  have folds : ∀ start < 0x10000, terms.foldl endAround start = onesValue (start + terms.sum) := by
    induction terms with
    | nil =>
      grind [onesValue_of_lt]
    | cons word _ ih =>
      intro start below
      have wordSmall := small word mem_cons_self
      rw [foldl_cons, endAround_eq below wordSmall,
        ih (fun other member => small other (mem_cons_of_mem _ member)) _ (onesValue_lt _),
        onesValue_add, sum_cons, Nat.add_assoc]
  rw [onesSum, folds 0 (by decide), Nat.zero_add]

/-- A number and the complement of its word add up to all ones, also where the complement of zero
is written in place of zero. -/
theorem onesValue_add_complement {number complement : Nat}
    (isComplement : complement = 0xffff - onesValue number ∨
      (onesValue number = 0xffff ∧ complement = 0xffff)) :
    onesValue (number + complement) = 0xffff := by
  rw [← onesValue_add]
  have below := onesValue_lt number
  generalize onesValue number = word at *
  unfold onesValue
  rw [if_neg (by omega)]
  omega

end SprakCapture.Data
