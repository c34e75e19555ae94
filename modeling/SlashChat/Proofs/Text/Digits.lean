import Mathlib.Data.Nat.Digits.Defs
import SlashChat.Text.Digits

/-!
# Laws of digits

Digits are read one by one, so a run of them can be read in two parts (`digitsFrom_append`).  In
base ten a text denotes a number exactly when it is made of ASCII digits, at least one
(`natural?_ten_eq_some_iff`); the decimal digits of a number denote the number
(`natural?_repr`).
-/

set_option autoImplicit false

namespace SlashChat.Text

/-- Digits put together are read one part after the other. -/
theorem digitsFrom_append (base value : Nat) (digits more : List Char) :
    digitsFrom base value (digits ++ more) =
      (digitsFrom base value digits).bind fun number => digitsFrom base number more := by
  induction digits generalizing value with
  | nil => rfl
  | cons c rest ih =>
    rw [List.cons_append, digitsFrom, digitsFrom]
    cases (digitValue? c).filter (· < base) with
    | none => rfl
    | some digit => exact ih (value * base + digit)

/-- Digits are read from zero on if there are any. -/
theorem natural?_of_ne_nil (base : Nat) {digits : List Char} (hne : digits ≠ []) :
    natural? base digits = digitsFrom base 0 digits := by
  cases digits with
  | nil => exact absurd rfl hne
  | cons c rest => rfl

/-- A decimal digit stands for its distance from zero, which is below ten. -/
theorem digitValue?_of_isDigit {c : Char} (hc : c.isDigit = true) :
    digitValue? c = some (c.toNat - '0'.toNat) ∧ c.toNat - '0'.toNat < 10 := by
  have hrange : 48 ≤ c.toNat ∧ c.toNat ≤ 57 := by
    simpa [Char.isDigit, UInt32.le_iff_toNat_le] using hc
  refine ⟨by rw [digitValue?, if_pos hc], ?_⟩
  have hzero : '0'.toNat = 48 := rfl
  omega

/-- Decimal digits are always read, with their value in base ten. -/
theorem digitsFrom_ten {digits : List Char} (hdigits : ∀ c ∈ digits, c.isDigit = true)
    (value : Nat) : digitsFrom 10 value digits = some (Nat.ofDigitChars 10 digits value) := by
  induction digits generalizing value with
  | nil => rfl
  | cons c rest ih =>
    obtain ⟨hc, hrest⟩ := List.forall_mem_cons.1 hdigits
    obtain ⟨hvalue, hlt⟩ := digitValue?_of_isDigit hc
    rw [digitsFrom, hvalue, Option.filter_some, if_pos (by simpa using hlt)]
    simp only []
    rw [ih hrest, Nat.ofDigitChars_cons, Nat.mul_comm]

/-- What stands for a number below ten is a decimal digit. -/
theorem isDigit_of_digitValue? {c : Char} {digit : Nat} (hvalue : digitValue? c = some digit)
    (hlt : digit < 10) : c.isDigit = true := by
  unfold digitValue? at hvalue
  split at hvalue
  · assumption
  · split_ifs at hvalue <;> simp at hvalue <;> omega

/-- Only decimal digits are read in base ten. -/
theorem isDigit_of_digitsFrom_ten {digits : List Char} {value number : Nat}
    (hnumber : digitsFrom 10 value digits = some number) : ∀ c ∈ digits, c.isDigit = true := by
  induction digits generalizing value with
  | nil => simp
  | cons c rest ih =>
    cases hdigit : (digitValue? c).filter (· < 10) with
    | none => simp [digitsFrom, hdigit] at hnumber
    | some digit =>
      obtain ⟨hvalue, hlt⟩ := Option.filter_eq_some_iff.1 hdigit
      simp only [digitsFrom, hdigit] at hnumber
      refine List.forall_mem_cons.2 ⟨isDigit_of_digitValue? hvalue (by simpa using hlt), ?_⟩
      exact ih hnumber

/-- In base ten the texts that denote a number are the ones made of ASCII digits. -/
theorem natural?_ten_eq_some_iff {digits : List Char} {number : Nat} :
    natural? 10 digits = some number ↔
      digits ≠ [] ∧ (∀ c ∈ digits, c.isDigit = true) ∧ Nat.ofDigitChars 10 digits 0 = number := by
  constructor
  · intro hnumber
    have hne : digits ≠ [] := by
      rintro rfl
      cases hnumber
    rw [natural?_of_ne_nil 10 hne] at hnumber
    have hdigits := isDigit_of_digitsFrom_ten hnumber
    rw [digitsFrom_ten hdigits] at hnumber
    exact ⟨hne, hdigits, Option.some.inj hnumber⟩
  · rintro ⟨hne, hdigits, rfl⟩
    rw [natural?_of_ne_nil 10 hne, digitsFrom_ten hdigits]

/-- The digits of a number other than zero do not start with a zero. -/
theorem head?_toDigits {n : Nat} (hpos : 0 < n) : (Nat.toDigits 10 n).head? ≠ some '0' := by
  have hdigits : ∀ d < 10, 0 < d → some (Nat.digitChar d) ≠ some '0' := by decide
  induction n using Nat.strong_induction_on with
  | _ n ih =>
    obtain hlt | hle := Nat.lt_or_ge n 10
    · rw [Nat.toDigits_of_lt_base hlt]
      exact hdigits n hlt hpos
    · obtain ⟨c, more, hcons⟩ := List.exists_cons_of_ne_nil
        (Nat.toDigits_ne_nil : Nat.toDigits 10 (n / 10) ≠ [])
      have hinner := ih (n / 10) (by omega) (by omega)
      rw [Nat.toDigits_of_base_le (by decide) hle, hcons]
      rwa [hcons] at hinner

/-- A number is written in decimal digits. -/
theorem isDigit_of_mem_repr {n : Nat} : ∀ c ∈ n.repr.toList, c.isDigit = true := by
  intro c hc
  rw [Nat.toList_repr] at hc
  exact Nat.isDigit_of_mem_toDigits (by decide) (by decide) hc

/-- Every number is written with a digit at least. -/
theorem repr_ne_nil (n : Nat) : n.repr.toList ≠ [] := by
  rw [Nat.toList_repr]
  exact Nat.toDigits_ne_nil

/-- A written number is read back. -/
theorem natural?_repr (n : Nat) : natural? 10 n.repr.toList = some n := by
  rw [natural?_of_ne_nil 10 (repr_ne_nil n), digitsFrom_ten isDigit_of_mem_repr, Nat.toList_repr,
    Nat.ofDigitChars_ten_toDigits]

end SlashChat.Text
