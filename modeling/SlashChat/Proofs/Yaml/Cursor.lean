import Mathlib.Data.List.TakeWhile
import SlashChat.Yaml.Cursor

/-!
# Laws of characters and cursors

A character that is written as it stands may be read, and is a gap only if it is a blank or one of
three line breaks.  A cursor moves over a prefix of its text by `skip` and over a line break by
`nextLine`; the reading of a text goes by the runs of its characters (`run_induction`).
-/

set_option autoImplicit false

namespace SlashChat.Yaml

/-! ## Classes of characters -/

section Printable

variable {c : Char} (hc : isPrintable c = true)
include hc

/-- What may be written as it stands may be read. -/
theorem isReadable_of_isPrintable : isReadable c = true := by
  simp only [isPrintable, isReadable, Bool.or_eq_true, Bool.and_eq_true, beq_iff_eq,
    decide_eq_true_eq] at hc ⊢
  omega

/-- A tab is not written as it stands. -/
theorem ne_tab_of_isPrintable : c ≠ '\t' := by
  rintro rfl
  exact absurd hc (by decide)

/-- A carriage return is not written as it stands. -/
theorem ne_return_of_isPrintable : c ≠ '\r' := by
  rintro rfl
  exact absurd hc (by decide)

/-- A printable line break reads as itself. -/
theorem break_of_isPrintable (hbreak : isBreak c = true) :
    c = '\n' ∨ c.toNat = 0x2028 ∨ c.toNat = 0x2029 := by
  simp only [isBreak, Bool.or_eq_true, beq_iff_eq] at hbreak
  obtain (((rfl | rfl) | hnext) | hline) | hparagraph := hbreak
  · exact Or.inl rfl
  · exact absurd rfl (ne_return_of_isPrintable hc)
  · simp [isPrintable, hnext] at hc
  · exact Or.inr (Or.inl hline)
  · exact Or.inr (Or.inr hparagraph)

/-- A line break is no blank. -/
theorem isBlank_of_isBreak (hbreak : isBreak c = true) : isBlank c = false := by
  have hne : c ≠ ' ' := by
    rintro rfl
    exact absurd hbreak (by decide)
  simp [isBlank, hne, ne_tab_of_isPrintable hc]

/-- Of what is written as it stands only a blank and the line breaks are gaps. -/
theorem isGap_of_isPrintable : isGap c = (c == ' ' || isBreak c) := by
  have htab : (c == '\t') = false := beq_false_of_ne (ne_tab_of_isPrintable hc)
  rw [isGap, isBlank, htab, Bool.or_false]

end Printable

/-- What is no gap is no line break. -/
theorem isBreak_of_isGap {c : Char} (hc : isGap c = false) : isBreak c = false := by
  rw [isGap, Bool.or_eq_false_iff] at hc
  exact hc.2

/-- A text that starts with no gap starts with neither a blank nor a tab nor a line break. -/
theorem head_of_isGap {rest : List Char} (hrest : rest.head?.any isGap = false) :
    rest.head? ≠ some ' ' ∧ rest.head? ≠ some '\t' ∧ rest.head?.any isBreak = false := by
  cases rest with
  | nil => simp
  | cons c more =>
    have hc : isGap c = false := hrest
    have hbreak := isBreak_of_isGap hc
    rw [isGap, isBlank, hbreak] at hc
    simpa [hbreak] using hc

section Alphanumeric

variable {c : Char} (hc : c.isAlphanum = true)
include hc

/-- A letter or digit is none of the other characters. -/
theorem ne_of_isAlphanum {d : Char} (hd : d.isAlphanum = false) : c ≠ d := by
  rintro rfl
  rw [hc] at hd
  exact absurd hd (by decide)

/-- The codes of letters and digits lie between those of the first digit and the last letter. -/
theorem range_of_isAlphanum : 48 ≤ c.toNat ∧ c.toNat ≤ 122 := by
  have hupper : c.isUpper = decide (65 ≤ c.toNat ∧ c.toNat ≤ 90) := rfl
  have hlower : c.isLower = (decide (97 ≤ c.toNat) && decide (c.toNat ≤ 122)) := rfl
  have hdigit : c.isDigit = (decide (48 ≤ c.toNat) && decide (c.toNat ≤ 57)) := rfl
  have hclasses : c.isAlphanum = (c.isUpper || c.isLower || c.isDigit) := rfl
  rw [hclasses, hupper, hlower, hdigit] at hc
  simp only [Bool.or_eq_true, Bool.and_eq_true, decide_eq_true_eq] at hc
  omega

/-- Letters and digits are written as they stand. -/
theorem isPrintable_of_isAlphanum : isPrintable c = true := by
  obtain ⟨hlow, hhigh⟩ := range_of_isAlphanum hc
  simp only [isPrintable, Bool.or_eq_true, Bool.and_eq_true, beq_iff_eq, decide_eq_true_eq]
  omega

/-- A letter or digit is no gap. -/
theorem isGap_of_isAlphanum : isGap c = false := by
  obtain ⟨hlow, hhigh⟩ := range_of_isAlphanum hc
  have hblank := ne_of_isAlphanum hc (d := ' ') (by decide)
  have htab := ne_of_isAlphanum hc (d := '\t') (by decide)
  have hfeed := ne_of_isAlphanum hc (d := '\n') (by decide)
  have hreturn := ne_of_isAlphanum hc (d := '\r') (by decide)
  simp [isGap, isBlank, isBreak, hblank, htab, hfeed, hreturn]
  omega

end Alphanumeric

/-- A text that starts with a letter or digit, or is empty, starts with no gap. -/
theorem head_of_isAlphanum {text : List Char} (htext : text.head?.all Char.isAlphanum = true) :
    text.head?.any isGap = false := by
  cases text with
  | nil => rfl
  | cons c more => exact isGap_of_isAlphanum htext

/-- Any text is a chain of characters outside a class and of runs of characters in it. -/
@[elab_as_elim]
theorem run_induction (p : Char → Bool) {motive : List Char → Prop} (nil : motive [])
    (char : ∀ c text, p c = false → motive text → motive (c :: text))
    (run : ∀ run text, run ≠ [] → (∀ c ∈ run, p c = true) → text.head?.any p = false →
      motive text → motive (run ++ text))
    (text : List Char) : motive text := by
  induction hlength : text.length using Nat.strong_induction_on generalizing text with
  | _ n ih =>
    cases text with
    | nil => exact nil
    | cons c rest =>
      cases hc : p c with
      | false => exact char c rest hc (ih rest.length (by simp [← hlength]) rest rfl)
      | true =>
        have hsplit := List.takeWhile_append_dropWhile (p := p) (l := c :: rest)
        have hne : (c :: rest).takeWhile p ≠ [] := by
          rw [List.takeWhile_cons_of_pos hc]
          exact List.cons_ne_nil _ _
        have hlt : ((c :: rest).dropWhile p).length < n := by
          have hpos := List.length_pos_iff.2 hne
          have hsum := congrArg List.length hsplit
          rw [List.length_append] at hsum
          omega
        rw [← hsplit]
        refine run _ _ hne (fun d hd => List.mem_takeWhile_imp hd) ?_ (ih _ hlt _ rfl)
        have hhead := List.head?_dropWhile_not p (c :: rest)
        cases hdrop : ((c :: rest).dropWhile p).head? with
        | none => rfl
        | some d => simpa [hdrop] using hhead

/-- A run of blanks is one blank or more. -/
theorem exists_replicate {run : List Char} (hne : run ≠ []) (hrun : ∀ c ∈ run, c = ' ') :
    ∃ n, run = List.replicate (n + 1) ' ' := by
  have hpos := List.length_pos_iff.2 hne
  exact ⟨run.length - 1, by rw [Nat.sub_add_cancel hpos]; exact List.eq_replicate_of_mem hrun⟩

/-! ## Cursors -/

namespace Cursor

variable (cursor : Cursor) (n : Nat)

/-- Behind a skip the text goes on where the skip ends. -/
@[simp]
theorem rest_skip : (cursor.skip n).rest = cursor.rest.drop n := rfl

/-- A skip moves as many columns on. -/
@[simp]
theorem column_skip : (cursor.skip n).column = cursor.column + n := rfl

/-- A skip stays on the line. -/
@[simp]
theorem line_skip : (cursor.skip n).line = cursor.line := rfl

/-- Behind a line break the text goes on where the break ends. -/
@[simp]
theorem rest_nextLine : (cursor.nextLine n).rest = cursor.rest.drop n := rfl

/-- A line starts in column 0. -/
@[simp]
theorem column_nextLine : (cursor.nextLine n).column = 0 := rfl

/-- Skipping nothing stays at the place. -/
@[simp]
theorem skip_zero : cursor.skip 0 = cursor := by
  simp [skip, bytes]

/-- No character takes more than four bytes. -/
theorem bytes_le : cursor.bytes n ≤ 4 * n := by
  have hfold (text : List Char) (total : Nat) :
      text.foldl (fun total c => total + c.utf8Size) total ≤ total + 4 * text.length := by
    induction text generalizing total with
    | nil => exact Nat.le_refl _
    | cons c rest ih =>
      have hc := Char.utf8Size_le_four c
      have hrest := ih (total + c.utf8Size)
      rw [List.foldl_cons, List.length_cons]
      omega
  have htake : (cursor.rest.take n).length ≤ n := List.length_take_le n cursor.rest
  have hall := hfold (cursor.rest.take n) 0
  unfold bytes
  omega

variable {cursor} {p : Char → Bool} {body rest : List Char}

/-- The characters of a class are taken up to the first of another class. -/
theorem takeWhile_of_append (hrest : cursor.rest = body ++ rest) (hbody : ∀ c ∈ body, p c = true)
    (hstop : rest.head?.any p = false) : cursor.takeWhile p = (body, cursor.skip body.length) := by
  have htaken : cursor.rest.takeWhile p = body := by
    rw [hrest, List.takeWhile_append_of_pos hbody]
    cases rest with
    | nil => simp
    | cons c more => simp_all
  rw [takeWhile, htaken]

/-- The characters of a class are skipped up to the first of another class. -/
theorem skipWhile_of_append (hrest : cursor.rest = body ++ rest) (hbody : ∀ c ∈ body, p c = true)
    (hstop : rest.head?.any p = false) : cursor.skipWhile p = cursor.skip body.length := by
  rw [skipWhile, takeWhile_of_append hrest hbody hstop]

/-- Nothing is skipped in front of a character of another class. -/
theorem skipWhile_of_head (hstop : cursor.rest.head?.any p = false) :
    cursor.skipWhile p = cursor := by
  have hskip := skipWhile_of_append (List.nil_append cursor.rest).symm (by simp) hstop
  rw [hskip, List.length_nil, skip_zero]

/-- There is no line break in front of another character. -/
theorem break?_of_head (hhead : cursor.rest.head?.any isBreak = false) : cursor.break? = none := by
  unfold break?
  split
  · rename_i heq
    simp [heq, isBreak] at hhead
  · rename_i c more _ heq
    have hc : isBreak c = false := by simpa [heq] using hhead
    rw [hc, if_neg (by decide)]
  · rfl

/-- A line break that is written as it stands is read as itself, and leads to the next line. -/
theorem break?_of_cons {b : Char} (hrest : cursor.rest = b :: rest) (hprint : isPrintable b = true)
    (hbreak : isBreak b = true) : cursor.break? = some (b, cursor.nextLine 1) := by
  have hreturn := ne_return_of_isPrintable hprint
  unfold break?
  rw [hrest]
  split
  · rename_i heq
    exact absurd (List.cons.inj heq).1 hreturn
  · rename_i c more _ heq
    obtain ⟨rfl, rfl⟩ := List.cons.inj heq
    rw [if_pos hbreak]
    obtain rfl | hline | hparagraph := break_of_isPrintable hprint hbreak
    · rfl
    · simp [hline]
    · simp [hparagraph]
  · rename_i heq
    exact absurd heq (List.cons_ne_nil _ _)

/-- Inside a line no document marker can stand. -/
theorem atMarker_of_column (hcolumn : cursor.column ≠ 0) (c : Char) :
    cursor.atMarker c = false := by
  simp [atMarker, hcolumn]

/-- A document marker has to start with its character. -/
theorem atMarker_of_head {c : Char} (hhead : cursor.rest.head? ≠ some c) :
    cursor.atMarker c = false := by
  cases hrest : cursor.rest with
  | nil => simp [atMarker, hrest]
  | cons d more =>
    have hne : d ≠ c := by simpa [hrest] using hhead
    simp [atMarker, hrest, hne]

/-- A document marker has to start its line. -/
theorem atDocumentMarker_of_column (hcolumn : cursor.column ≠ 0) :
    cursor.atDocumentMarker = false := by
  simp [atDocumentMarker, atMarker_of_column hcolumn]

end Cursor

end SlashChat.Yaml
