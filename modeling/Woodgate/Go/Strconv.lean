import Mathlib.Data.List.Induction
import Mathlib.Data.Nat.Basic
import Mathlib.Data.Int.Order.Basic

/-!
# Go's `strconv`

Base 10 and 64 bits. The callers of `ParseInt` drop the error, so what counts is the value that
comes with it: 0 for text that is no number, the nearest `int64` for a number out of range.
`Atoi` accepts a number in several spellings, which `Numeral` lists.
-/

namespace Woodgate.Go

def minInt64 : Int := -9223372036854775808

def maxInt64 : Int := 9223372036854775807

/-- The sign of a number, and its digits. -/
def splitSign : List Char → Bool × List Char
  | '-' :: digits => (true, digits)
  | '+' :: digits => (false, digits)
  | digits => (false, digits)

/-- The value of `strconv.ParseInt(s, 10, 64)`. -/
def parseInt (s : String) : Int :=
  let (negative, digits) := splitSign s.toList
  if digits.isEmpty || !digits.all Char.isDigit then 0
  else
    let n : Int := Nat.ofDigitChars 10 digits 0
    if negative then max minInt64 (-n) else min maxInt64 n

theorem splitSign_of_digits {digits : List Char} (h : digits.all Char.isDigit = true) :
    splitSign digits = (false, digits) := by
  unfold splitSign
  split
  · simp at h
  · simp at h
  · rfl

theorem digits_toDigits (n : Nat) : (Nat.toDigits 10 n).all Char.isDigit = true := by
  rw [List.all_eq_true]
  intro c mem
  exact Nat.isDigit_of_mem_toDigits (by omega) (by omega) mem

section Atoi

/-- `strconv.Atoi` -/
def atoi (s : String) : Option Int :=
  let (negative, digits) := splitSign s.toList
  if digits.isEmpty || !digits.all Char.isDigit then none
  else
    let n : Int := Nat.ofDigitChars 10 digits 0
    let value := if negative then -n else n
    if value < minInt64 ∨ maxInt64 < value then none else some value

/-- A spelling of `n`: a sign, leading zeros and the digits. -/
def Numeral (text : List Char) (n : Nat) : Prop :=
  ∃ sign zeros, (sign = [] ∨ sign = ['+'] ∨ sign = ['-'] ∧ n = 0) ∧
    text = sign ++ (List.replicate zeros '0' ++ Nat.toDigits 10 n)

theorem digitChar_digit {c : Char} (digit : c.isDigit = true) : Nat.digitChar (c.toNat - '0'.toNat) = c ∧ c.toNat - '0'.toNat < 10 := by
  have range : 48 ≤ c.toNat ∧ c.toNat ≤ 57 := by simpa [Char.isDigit, UInt32.le_iff_toNat_le] using digit
  have zero : '0'.toNat = 48 := rfl
  have small : c.toNat - '0'.toNat < 10 := by omega
  refine ⟨Char.toNat_inj.1 ?_, small⟩
  rw [Nat.toNat_digitChar_of_lt_ten small]
  omega

/-- Digits are leading zeros and the digits of their value. -/
theorem digits_eq {digits : List Char} (nonempty : digits ≠ []) (all : digits.all Char.isDigit = true) :
    ∃ zeros, digits = List.replicate zeros '0' ++ Nat.toDigits 10 (Nat.ofDigitChars 10 digits 0) := by
  induction digits using List.reverseRecOn with
  | nil => exact absurd rfl nonempty
  | append_singleton digits c ih =>
    obtain ⟨before, digit⟩ : digits.all Char.isDigit = true ∧ c.isDigit = true := by simpa using all
    obtain ⟨char, small⟩ := digitChar_digit digit
    have value : Nat.ofDigitChars 10 (digits ++ [c]) 0 = 10 * Nat.ofDigitChars 10 digits 0 + (c.toNat - '0'.toNat) := by
      rw [Nat.ofDigitChars_append, Nat.ofDigitChars_cons, Nat.ofDigitChars_nil]
    have last : Nat.toDigits 10 (c.toNat - '0'.toNat) = [c] := by rw [Nat.toDigits_of_lt_base small, char]
    rw [value]
    cases digits with
    | nil =>
      refine ⟨0, ?_⟩
      rw [Nat.ofDigitChars_nil, Nat.mul_zero, Nat.zero_add, last]
      rfl
    | cons d digits =>
      obtain ⟨zeros, split⟩ := ih (List.cons_ne_nil _ _) before
      by_cases none : Nat.ofDigitChars 10 (d :: digits) 0 = 0
      · refine ⟨zeros + 1, ?_⟩
        rw [none] at split ⊢
        rw [Nat.mul_zero, Nat.zero_add, last, split, List.replicate_succ', Nat.toDigits_zero]
      · refine ⟨zeros, ?_⟩
        have tens := Nat.toDigits_append_toDigits (b := 10) (by decide) (Nat.pos_of_ne_zero none) small
        rw [← tens, last, ← List.append_assoc, ← split]

theorem numeral_digits {zeros n : Nat} : (List.replicate zeros '0' ++ Nat.toDigits 10 n) ≠ [] ∧
    (List.replicate zeros '0' ++ Nat.toDigits 10 n).all Char.isDigit = true ∧
    Nat.ofDigitChars 10 (List.replicate zeros '0' ++ Nat.toDigits 10 n) 0 = n := by
  refine ⟨?_, ?_, ?_⟩
  · exact fun empty => Nat.toDigits_ne_nil (List.append_eq_nil_iff.1 empty).2
  · rw [List.all_append, digits_toDigits, Bool.and_true]
    simp
  · rw [Nat.ofDigitChars_append, Nat.ofDigitChars_replicate_zero, Nat.mul_zero, Nat.ofDigitChars_ten_toDigits]

theorem splitSign_cases (text : List Char) : ∃ sign, text = sign ++ (splitSign text).2 ∧
    ((splitSign text).1 = false ∧ (sign = [] ∨ sign = ['+']) ∨ (splitSign text).1 = true ∧ sign = ['-']) := by
  unfold splitSign
  split
  · exact ⟨['-'], rfl, .inr ⟨rfl, rfl⟩⟩
  · exact ⟨['+'], rfl, .inl ⟨rfl, .inr rfl⟩⟩
  · exact ⟨[], rfl, .inl ⟨rfl, .inl rfl⟩⟩

theorem atoi_eq_some_iff {s : String} {value : Int} : atoi s = some value ↔
    (splitSign s.toList).2 ≠ [] ∧ (splitSign s.toList).2.all Char.isDigit = true ∧
      value = (if (splitSign s.toList).1 then -(Nat.ofDigitChars 10 (splitSign s.toList).2 0 : Int)
        else Nat.ofDigitChars 10 (splitSign s.toList).2 0) ∧ minInt64 ≤ value ∧ value ≤ maxInt64 := by
  unfold atoi
  constructor
  · intro read
    dsimp only at read
    split at read
    · cases read
    · rename_i digits
      generalize (if (splitSign s.toList).1 = true then -(Nat.ofDigitChars 10 (splitSign s.toList).2 0 : Int)
        else Nat.ofDigitChars 10 (splitSign s.toList).2 0) = number at read ⊢
      split at read
      · cases read
      · rename_i fits
        cases read
        rw [Bool.or_eq_true, not_or] at digits
        rw [not_or, Int.not_lt, Int.not_lt] at fits
        exact ⟨by simpa using digits.1, by simpa using digits.2, rfl, fits.1, fits.2⟩
  · rintro ⟨nonempty, all, rfl, low, high⟩
    dsimp only
    rw [if_neg (by simp [nonempty, all]), if_neg (not_or.2 ⟨Int.not_lt.2 low, Int.not_lt.2 high⟩)]

/-- **What `Atoi` reads** as a number that is not negative. -/
theorem atoi_nonneg_iff {s : String} {value : Int} :
    (atoi s = some value ∧ 0 ≤ value) ↔ ∃ n : Nat, value = n ∧ value ≤ maxInt64 ∧ Numeral s.toList n := by
  rw [atoi_eq_some_iff]
  constructor
  · rintro ⟨⟨nonempty, all, is, _, high⟩, nonneg⟩
    obtain ⟨sign, split, negative⟩ := splitSign_cases s.toList
    obtain ⟨zeros, digits⟩ := digits_eq nonempty all
    refine ⟨Nat.ofDigitChars 10 (splitSign s.toList).2 0, ?_, high, sign, zeros, ?_, ?_⟩
    · rcases negative with ⟨positive, _⟩ | ⟨negative, _⟩
      · rw [is, positive, if_neg Bool.false_ne_true]
      · rw [negative, if_pos rfl] at is
        omega
    · rcases negative with ⟨_, none | plus⟩ | ⟨negative, minus⟩
      · exact .inl none
      · exact .inr (.inl plus)
      · rw [negative, if_pos rfl] at is
        exact .inr (.inr ⟨minus, by omega⟩)
    · rw [← digits]
      exact split
  · rintro ⟨n, rfl, high, sign, zeros, signed, text⟩
    obtain ⟨nonempty, all, value⟩ := @numeral_digits zeros n
    have low : minInt64 ≤ (n : Int) := by
      unfold minInt64
      omega
    have splits : ∃ negative, splitSign s.toList = (negative, List.replicate zeros '0' ++ Nat.toDigits 10 n) ∧
        (negative = true → n = 0) := by
      rw [text]
      rcases signed with rfl | rfl | ⟨rfl, zero⟩
      · exact ⟨false, splitSign_of_digits all, nofun⟩
      · exact ⟨false, rfl, nofun⟩
      · exact ⟨true, rfl, fun _ => zero⟩
    obtain ⟨negative, splits, zero⟩ := splits
    rw [splits]
    refine ⟨⟨nonempty, all, ?_, low, high⟩, by omega⟩
    rw [value]
    split
    · rename_i negative
      rw [zero negative]
      rfl
    · rfl

end Atoi

end Woodgate.Go
