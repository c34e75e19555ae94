import SlashChat.Fortune.Count
import SlashChat.Proofs.Text.Digits

/-!
# Which arguments are counts

`IsNumeral` says what a decimal integer looks like and which number it writes.  Reading agrees with
it (`numeral?_eq_some_iff`), so a count is the number of a single argument that is a numeral of a
number of 64 bits (`parse_eq_ok_iff`).
-/

set_option autoImplicit false

namespace SlashChat.FortuneCount

/-- A text that writes an integer in base ten: digits, at least one, behind a sign or none. -/
inductive IsNumeral : List Char → Int → Prop
  | bare {digits : List Char} (hne : digits ≠ []) (hdigits : ∀ c ∈ digits, c.isDigit = true) :
    IsNumeral digits (Nat.ofDigitChars 10 digits 0)
  | plus {digits : List Char} (hne : digits ≠ []) (hdigits : ∀ c ∈ digits, c.isDigit = true) :
    IsNumeral ('+' :: digits) (Nat.ofDigitChars 10 digits 0)
  | minus {digits : List Char} (hne : digits ≠ []) (hdigits : ∀ c ∈ digits, c.isDigit = true) :
    IsNumeral ('-' :: digits) (-(Nat.ofDigitChars 10 digits 0))

/-- Digits without a sign are read as the number that they write. -/
theorem numeral?_of_isDigit {digits : List Char} (hdigits : ∀ c ∈ digits, c.isDigit = true) :
    numeral? digits = (Text.natural? 10 digits).map Int.ofNat := by
  cases digits with
  | nil => rfl
  | cons c rest =>
    have hc : c.isDigit = true := hdigits c List.mem_cons_self
    have hminus : c ≠ '-' := by
      rintro rfl
      exact absurd hc (by decide)
    have hplus : c ≠ '+' := by
      rintro rfl
      exact absurd hc (by decide)
    unfold numeral?
    split
    · next hcons => exact absurd (List.cons_eq_cons.1 hcons).1 hminus
    · next hcons => exact absurd (List.cons_eq_cons.1 hcons).1 hplus
    · rfl

/-- Behind a minus sign the digits are read as the negative of their number. -/
theorem numeral?_minus (digits : List Char) :
    numeral? ('-' :: digits) = (Text.natural? 10 digits).map fun value : Nat => -(value : Int) := by
  rw [numeral?]
  cases Text.natural? 10 digits <;> rfl

/-- A text is read as a number exactly if it is a numeral of that number. -/
theorem numeral?_eq_some_iff {text : List Char} {number : Int} :
    numeral? text = some number ↔ IsNumeral text number := by
  constructor
  · intro hnumber
    -- Every form has its digits read by `natural?`; the sign tells what becomes of their number.
    have hdenoted : ∀ {digits : List Char} {sign : Nat → Int},
        (Text.natural? 10 digits).map sign = some number →
        digits ≠ [] ∧ (∀ c ∈ digits, c.isDigit = true) ∧
          sign (Nat.ofDigitChars 10 digits 0) = number := by
      intro digits sign hmap
      obtain ⟨value, hvalue, hsign⟩ := Option.map_eq_some_iff.1 hmap
      obtain ⟨hne, hdigits, rfl⟩ := Text.natural?_ten_eq_some_iff.1 hvalue
      exact ⟨hne, hdigits, hsign⟩
    have hform := hnumber
    unfold numeral? at hform
    split at hform
    · rw [numeral?_minus] at hnumber
      obtain ⟨hne, hdigits, rfl⟩ := hdenoted hnumber
      exact .minus hne hdigits
    · obtain ⟨hne, hdigits, rfl⟩ := hdenoted hform
      exact .plus hne hdigits
    · obtain ⟨hne, hdigits, rfl⟩ := hdenoted hform
      exact .bare hne hdigits
  · intro hnumeral
    have hread : ∀ {digits : List Char}, digits ≠ [] → (∀ c ∈ digits, c.isDigit = true) →
        Text.natural? 10 digits = some (Nat.ofDigitChars 10 digits 0) :=
      fun hne hdigits => Text.natural?_ten_eq_some_iff.2 ⟨hne, hdigits, rfl⟩
    cases hnumeral with
    | bare hne hdigits =>
      rw [numeral?_of_isDigit hdigits, hread hne hdigits]
      rfl
    | plus hne hdigits =>
      rw [numeral?, hread hne hdigits]
      rfl
    | minus hne hdigits =>
      rw [numeral?_minus, hread hne hdigits]
      rfl

/-- A number is in range exactly if it fits 64 bits with a sign. -/
theorem inRange_iff (number : Int) :
    inRange number = true ↔ -2 ^ 63 ≤ number ∧ number < 2 ^ 63 := by
  have hmin : Int64.minValue.toInt = -2 ^ 63 := by decide
  have hmax : Int64.maxValue.toInt = 2 ^ 63 - 1 := by decide
  simp only [inRange, hmin, hmax, Bool.and_eq_true, decide_eq_true_eq]
  omega

/-- The counts are the numbers of 64 bits that a single argument writes. -/
theorem parse_eq_ok_iff {args : List String} {count : Int} :
    parse args = .ok count ↔
      ∃ arg, args = [arg] ∧ IsNumeral arg.toList count ∧ -2 ^ 63 ≤ count ∧ count < 2 ^ 63 := by
  match args with
  | [] | _ :: _ :: _ => simp [parse]
  | [arg] =>
    have hparse : parse [arg] = .ok count ↔ (numeral? arg.toList).filter inRange = some count := by
      rw [parse]
      cases (numeral? arg.toList).filter inRange <;> simp
    rw [hparse, Option.filter_eq_some_iff, numeral?_eq_some_iff, inRange_iff]
    simp

end SlashChat.FortuneCount
