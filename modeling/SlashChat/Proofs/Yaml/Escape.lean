import SlashChat.Proofs.Text.Digits
import SlashChat.Proofs.Yaml.Cursor
import SlashChat.Yaml.Quoted
import SlashChat.Yaml.Written

/-!
# Reading escapes back

Upper-case hexadecimal digits denote the number they are the digits of
(`Written.digitsFrom_hexDigits`), so an escape sequence means the character it was written for
(`Quoted.escaped_cases`).
-/

set_option autoImplicit false

namespace SlashChat.Yaml

/-! ## Hexadecimal digits -/

namespace Written

/-- A hexadecimal digit stands for the number it was chosen for. -/
theorem digitValue?_hexDigit (n : Nat) : Text.digitValue? (hexDigit n) = some (n % 16) := by
  have hdigits : ∀ d < 16, Text.digitValue? (hexDigit d) = some d := by decide
  have hmod : hexDigit n = hexDigit (n % 16) := by simp [hexDigit]
  rw [hmod]
  exact hdigits (n % 16) (Nat.mod_lt n (by decide))

/-- The hexadecimal digits of a number are read back, as far as they go. -/
theorem digitsFrom_hexDigits (n count value : Nat) :
    Text.digitsFrom 16 value (hexDigits n count) = some (value * 16 ^ count + n % 16 ^ count) := by
  induction count generalizing n with
  | zero => simp [hexDigits, Text.digitsFrom, Nat.mod_one]
  | succ count ih =>
    have hlt : n % 16 < 16 := Nat.mod_lt n (by decide)
    have hmod : n % 16 ^ (count + 1) = n % 16 + 16 * (n / 16 % 16 ^ count) := by
      rw [Nat.pow_succ', Nat.mod_mul]
    rw [hexDigits, Text.digitsFrom_append, ih, Option.bind_some, Text.digitsFrom,
      digitValue?_hexDigit, Option.filter_some, if_pos (by simpa using hlt)]
    simp only [Text.digitsFrom, Option.some.injEq]
    rw [hmod, Nat.pow_succ]
    ring

/-- There are as many hexadecimal digits as were asked for. -/
@[simp]
theorem length_hexDigits (n count : Nat) : (hexDigits n count).length = count := by
  induction count generalizing n with
  | zero => rfl
  | succ count ih => simp [hexDigits, ih]

/-- There are hexadecimal digits if one at least was asked for. -/
theorem hexDigits_ne_nil (n count : Nat) : hexDigits n (count + 1) ≠ [] := by
  simp [hexDigits]

/-- A hexadecimal digit is written as it stands and breaks no line. -/
theorem line_of_mem_hexDigits {d : Char} {n count : Nat} (hd : d ∈ hexDigits n count) :
    isPrintable d = true ∧ isBreak d = false := by
  have hdigits : ∀ k < 16, isPrintable (hexDigit k) = true ∧ isBreak (hexDigit k) = false := by
    decide
  induction count generalizing n with
  | zero => exact absurd hd List.not_mem_nil
  | succ count ih =>
    obtain hmore | hlast := List.mem_append.1 hd
    · exact ih hmore
    · have hmod : hexDigit n = hexDigit (n % 16) := by simp [hexDigit]
      rw [List.mem_singleton.1 hlast, hmod]
      exact hdigits (n % 16) (Nat.mod_lt n (by decide))

end Written

/-! ## Escape sequences -/

namespace Quoted

open Written

variable {c : Char}

/-- Enough digits of a character's code point denote the character. -/
theorem charOf?_hexDigits {count : Nat} (hc : c.toNat < 16 ^ (count + 1)) :
    (Text.natural? 16 (hexDigits c.toNat (count + 1))).bind charOf? = some c := by
  have hvalid : c.toNat.isValidChar := c.valid
  rw [Text.natural?_of_ne_nil 16 (hexDigits_ne_nil _ _), digitsFrom_hexDigits,
    Nat.mod_eq_of_lt hc, Nat.zero_mul, Nat.zero_add, Option.bind_some, charOf?, if_pos hvalid,
    Char.ofNat_toNat]

/-- The letter of a short escape means the character it was chosen for. -/
theorem letter?_of_shortEscape? {letter : Char} (h : shortEscape? c = some letter) :
    letter? letter = some c := by
  rw [← Char.ofNat_toNat c]
  unfold shortEscape? at h
  split at h <;> rename_i hcode
  all_goals first
    | cases h; rw [hcode]; rfl
    | cases h

variable {cursor : Cursor} {rest : List Char}

/-- A letter behind a backslash is read as the character it means. -/
theorem escape_letter {letter : Char} (hletter : letter? letter = some c)
    (hcursor : cursor.rest = letter :: rest) : escape cursor = .ok (c, cursor.skip 1) := by
  rw [escape, hcursor]
  simp only [hletter]

/-- Hexadecimal digits behind their letter are read as the character with that code. -/
theorem escape_hexDigits {letter : Char} {count : Nat} (hletter : letter? letter = none)
    (hlength : codeLength? letter = some (count + 1)) (hc : c.toNat < 16 ^ (count + 1))
    (hcursor : cursor.rest = letter :: (hexDigits c.toNat (count + 1) ++ rest)) :
    escape cursor = .ok (c, cursor.skip (1 + (count + 1))) := by
  have htake : (hexDigits c.toNat (count + 1) ++ rest).take (count + 1) =
      hexDigits c.toNat (count + 1) := List.take_left' (length_hexDigits _ _)
  rw [escape, hcursor]
  simp only [hletter, hlength, htake, length_hexDigits, beq_self_eq_true, if_true,
    charOf?_hexDigits hc]

/-- A character that stands for itself between double quotes. -/
def IsBare (c : Char) : Prop :=
  isPrintable c = true ∧ isBreak c = false ∧ c ≠ '"' ∧ c ≠ '\\'

/-- A sequence that means a character behind a backslash. -/
structure IsEscape (c : Char) (sequence : List Char) : Prop where
  line : ∀ d ∈ sequence, isPrintable d = true ∧ isBreak d = false
  read : ∀ (cursor : Cursor) (rest : List Char), cursor.rest = sequence ++ rest →
    escape cursor = .ok (c, cursor.skip sequence.length)

/-- An escape has something behind its backslash. -/
theorem IsEscape.ne_nil {sequence : List Char} (h : IsEscape c sequence) : sequence ≠ [] := by
  rintro rfl
  have hread := h.read { rest := [] } [] rfl
  simp [escape] at hread

/-- A short escape means its character. -/
theorem isEscape_letter {letter : Char} (h : shortEscape? c = some letter) :
    IsEscape c [letter] where
  line := by
    intro d hd
    rw [List.mem_singleton.1 hd]
    unfold shortEscape? at h
    split at h
    all_goals first
      | cases h; decide
      | cases h
  read _ _ hcursor := escape_letter (letter?_of_shortEscape? h) hcursor

/-- Enough hexadecimal digits behind their letter mean the character with that code. -/
theorem isEscape_hexDigits {letter : Char} {count : Nat}
    (hletter : letter? letter = none) (hlength : codeLength? letter = some (count + 1))
    (hline : isPrintable letter = true ∧ isBreak letter = false)
    (hc : c.toNat < 16 ^ (count + 1)) :
    IsEscape c (letter :: hexDigits c.toNat (count + 1)) where
  line := by
    intro d hd
    obtain rfl | hd := List.mem_cons.1 hd
    · exact hline
    · exact line_of_mem_hexDigits hd
  read cursor rest hcursor := by
    rw [escape_hexDigits hletter hlength hc hcursor, List.length_cons, length_hexDigits,
      Nat.add_comm 1]

/-- What is written for a character between double quotes is the character itself, or a backslash
and a sequence that means it. -/
theorem escaped_cases (c : Char) :
    (escaped c = [c] ∧ IsBare c) ∨ ∃ sequence, escaped c = '\\' :: sequence ∧ IsEscape c sequence := by
  have hcode : c.toNat < 0x110000 := by
    obtain hlow | hhigh := c.valid
    · exact Nat.lt_trans hlow (by decide)
    · exact hhigh.2
  unfold escaped
  split
  case isTrue hbare =>
    simp only [Bool.and_eq_true, Bool.not_eq_true', bne_iff_ne, ne_eq] at hbare
    obtain ⟨⟨⟨hprint, hbreak⟩, hquote⟩, hslash⟩ := hbare
    exact Or.inl ⟨rfl, hprint, hbreak, hquote, hslash⟩
  case isFalse =>
    refine Or.inr ?_
    cases hshort : shortEscape? c with
    | some letter => exact ⟨[letter], rfl, isEscape_letter hshort⟩
    | none =>
      simp only []
      split
      · rename_i hsmall
        exact ⟨_, rfl, isEscape_hexDigits rfl rfl (by decide) (by omega)⟩
      · split
        · rename_i hmiddle
          exact ⟨_, rfl, isEscape_hexDigits rfl rfl (by decide) (by omega)⟩
        · exact ⟨_, rfl, isEscape_hexDigits rfl rfl (by decide) (by omega)⟩

/-- All that stands in double quotes may stand as it is. -/
theorem printable_double (text : List Char) : ∀ c ∈ double text, isPrintable c = true := by
  have hescaped (c : Char) : ∀ d ∈ escaped c, isPrintable d = true := by
    obtain ⟨hc, hbare⟩ | ⟨sequence, hc, hescape⟩ := escaped_cases c
    · rw [hc]
      exact List.forall_mem_singleton.2 hbare.1
    · rw [hc]
      exact List.forall_mem_cons.2 ⟨by decide, fun d hd => (hescape.line d hd).1⟩
  have hquote : isPrintable '"' = true := by decide
  unfold double
  simp only [List.forall_mem_cons, List.forall_mem_append, List.mem_flatMap]
  refine ⟨hquote, ?_, hquote, fun c hc => absurd hc List.not_mem_nil⟩
  rintro d ⟨c, -, hd⟩
  exact hescaped c d hd

end Quoted

end SlashChat.Yaml
