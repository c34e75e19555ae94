import Mathlib.Data.List.TakeWhile
import SlashChat.Text.Space

/-!
# Laws of trimming

What is left of a text when white space is cut from its ends: nothing exactly when the text is all
white space (`trim_eq_nil_iff`), and otherwise a text that starts with no white space
(`trim_head`).  Nothing else changes: what is left is what the text starts with once it has lost its
leading white space (`trim_isPrefix`).
-/

set_option autoImplicit false

namespace SlashChat.Text

/-- A blank is white space. -/
theorem isSpace_blank : isSpace ' ' = true := by decide

/-- A slash is no white space. -/
theorem isSpace_slash : isSpace '/' = false := by decide

/-- A quote is no white space. -/
theorem ne_quote_of_isSpace {c : Char} (hc : isSpace c = true) : c ≠ '"' := by
  rintro rfl
  exact absurd hc (by decide)

/-- Nothing is trimmed at the start if no white space stands there. -/
theorem trimStart_eq_self {cs : List Char} (h : ∀ c, cs.head? = some c → isSpace c = false) :
    trimStart cs = cs := by
  cases cs with
  | nil => rfl
  | cons c cs =>
    have hc := h c rfl
    exact List.dropWhile_cons_of_neg (by simp [hc])

/-- Trimming at the start leaves nothing exactly of white space. -/
theorem trimStart_eq_nil_iff {cs : List Char} :
    trimStart cs = [] ↔ ∀ c ∈ cs, isSpace c = true := by
  unfold trimStart
  exact List.dropWhile_eq_nil_iff

/-- Trimming at the end leaves nothing exactly of white space. -/
theorem trimEnd_eq_nil_iff {cs : List Char} : trimEnd cs = [] ↔ ∀ c ∈ cs, isSpace c = true := by
  induction cs with
  | nil => simp [trimEnd]
  | cons c cs ih =>
    simp only [trimEnd, List.mem_cons, forall_eq_or_imp, ← ih]
    split
    · next h => simpa [Bool.and_eq_true, and_comm] using h
    · next h =>
      simp only [reduceCtorEq, false_iff]
      rintro ⟨hc, hcs⟩
      exact h (by simp [hc, hcs])

/-- Cutting the end of a text leaves its first character, unless it leaves nothing. -/
theorem head?_of_trimEnd {cs : List Char} {c : Char} (h : (trimEnd cs).head? = some c) :
    cs.head? = some c := by
  cases cs with
  | nil => simp [trimEnd] at h
  | cons d ds =>
    simp only [trimEnd] at h
    split at h
    · simp at h
    · simpa using h

/-- A trimmed text does not start with white space. -/
theorem trim_head {cs : List Char} {c : Char} (h : (trim cs).head? = some c) :
    isSpace c = false :=
  trimStart_head (head?_of_trimEnd h)

/-- Cutting the end of a text leaves a part that the text starts with. -/
theorem trimEnd_isPrefix (cs : List Char) : trimEnd cs <+: cs := by
  induction cs with
  | nil => exact List.prefix_rfl
  | cons c cs ih =>
    simp only [trimEnd]
    split
    · exact List.nil_prefix
    · exact (List.prefix_cons_inj c).2 ih

/-- A trimmed text is a beginning of what trimming at the start leaves. -/
theorem trim_isPrefix (cs : List Char) : trim cs <+: trimStart cs := trimEnd_isPrefix (trimStart cs)

/-- Trimming at the start twice does no more than once. -/
theorem trimStart_trimStart (cs : List Char) : trimStart (trimStart cs) = trimStart cs :=
  trimStart_eq_self fun _ h => trimStart_head h

/-- Trimming leaves nothing exactly of white space. -/
theorem trim_eq_nil_iff {cs : List Char} : trim cs = [] ↔ ∀ c ∈ cs, isSpace c = true := by
  unfold trim
  rw [trimEnd_eq_nil_iff, ← trimStart_eq_nil_iff, trimStart_trimStart, trimStart_eq_nil_iff]

/-- A trimmed text has nothing left to trim at its start. -/
theorem trimStart_trim (cs : List Char) : trimStart (trim cs) = trim cs :=
  trimStart_eq_self fun _ h => trim_head h

/-- A text without the white space at its two ends. -/
def trimmed (text : String) : String := String.ofList (trim text.toList)

/-- Strings are trimmed as their characters are. -/
@[simp]
theorem toList_trimmed (text : String) : (trimmed text).toList = trim text.toList :=
  String.toList_ofList

end SlashChat.Text
