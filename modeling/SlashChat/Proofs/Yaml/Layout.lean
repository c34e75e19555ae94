import Mathlib.Data.List.Basic
import SlashChat.Proofs.Yaml.Cursor
import SlashChat.Yaml.Written

/-!
# Laws of the layout of scalars

Line breaks pass through the indentation of lines unchanged, and the line behind them is indented
(`indented_breaks`).  Where blanks and breaks are apart, as they are in a text that is written
between single quotes, such a text is its characters, its runs of blanks and its runs of breaks one
after the other (`inside_cons`, `inside_blanks`, `inside_breaks`).
-/

set_option autoImplicit false

namespace SlashChat.Yaml.Written

/-! ## Blanks and breaks apart -/

section Pairs

variable {p q : Char → Bool}

/-- The pairs of a text are its first one and those behind its first character. -/
theorem hasPair_cons (a : Char) (text : List Char) :
    hasPair p q (a :: text) = ((p a && text.head?.any q) || hasPair p q text) := by
  cases text with
  | nil => simp [hasPair]
  | cons b more => rfl

/-- A pair in a part of a text is a pair in the text. -/
theorem hasPair_append {front text : List Char} (h : hasPair p q (front ++ text) = false) :
    hasPair p q front = false ∧ hasPair p q text = false := by
  induction front with
  | nil => exact ⟨rfl, h⟩
  | cons a front ih =>
    rw [List.cons_append, hasPair_cons, Bool.or_eq_false_iff] at h
    obtain ⟨hpair, hmore⟩ := h
    obtain ⟨hfront, htext⟩ := ih hmore
    refine ⟨?_, htext⟩
    rw [hasPair_cons, hfront, Bool.or_false]
    cases front with
    | nil => simp
    | cons b front => exact hpair

end Pairs

/-- A text whose blanks and breaks are apart, none of the breaks a line feed. -/
structure IsApart (text : List Char) : Prop where
  print : ∀ c ∈ text, isPrintable c = true
  line : '\n' ∉ text
  blankBreak : hasPair isSpace isBreak text = false
  breakBlank : hasPair isBreak isSpace text = false

/-- Where blanks and breaks are apart in a text, they are apart in its parts. -/
theorem IsApart.of_append {front text : List Char} (h : IsApart (front ++ text)) :
    IsApart front ∧ IsApart text :=
  ⟨⟨fun c hc => h.print c (List.mem_append_left text hc),
      fun hc => h.line (List.mem_append_left text hc),
      (hasPair_append h.blankBreak).1, (hasPair_append h.breakBlank).1⟩,
    ⟨fun c hc => h.print c (List.mem_append_right front hc),
      fun hc => h.line (List.mem_append_right front hc),
      (hasPair_append h.blankBreak).2, (hasPair_append h.breakBlank).2⟩⟩

/-- Where blanks and breaks are apart, a gap is all blanks or all breaks. -/
theorem IsApart.uniform {run : List Char} (h : IsApart run) (hrun : ∀ c ∈ run, isGap c = true) :
    (∀ c ∈ run, c = ' ') ∨ ∀ c ∈ run, isBreak c = true := by
  induction run with
  | nil => exact Or.inl fun c hc => absurd hc List.not_mem_nil
  | cons c more ih =>
    obtain ⟨hc, hmore⟩ := List.forall_mem_cons.1 hrun
    rw [isGap_of_isPrintable (h.print c List.mem_cons_self), Bool.or_eq_true, beq_iff_eq] at hc
    have happend : IsApart ([c] ++ more) := h
    have hblankBreak := h.blankBreak
    have hbreakBlank := h.breakBlank
    rw [hasPair_cons, Bool.or_eq_false_iff] at hblankBreak hbreakBlank
    cases more with
    | nil =>
      obtain rfl | hbreak := hc
      · exact Or.inl (by simp)
      · exact Or.inr (by simpa using hbreak)
    | cons d more =>
      obtain hblanks | hbreaks := ih happend.of_append.2 hmore
      · have hd : d = ' ' := hblanks d List.mem_cons_self
        have hfirst : isBreak c = false := by simpa [hd, isSpace] using hbreakBlank.1
        refine Or.inl (List.forall_mem_cons.2 ⟨?_, hblanks⟩)
        simpa [hfirst] using hc
      · have hd : isBreak d = true := hbreaks d List.mem_cons_self
        have hfirst : c ≠ ' ' := by simpa [hd, isSpace] using hblankBreak.1
        refine Or.inr (List.forall_mem_cons.2 ⟨?_, hbreaks⟩)
        simpa [hfirst] using hc

/-! ## Indented lines -/

/-- A run of line breaks ends with one. -/
theorem getLast?_of_breaks {run : List Char} (hrun : ∀ b ∈ run, isBreak b = true)
    (hne : run ≠ []) : run.getLast?.any isBreak = true := by
  rw [List.getLast?_eq_some_getLast hne]
  exact hrun _ (List.getLast_mem hne)

/-- Line breaks stand for themselves, and behind them a line starts. -/
theorem indented_breaks {run : List Char} (hrun : ∀ b ∈ run, isBreak b = true) (hne : run ≠ [])
    (fresh : Bool) (text : List Char) :
    indented fresh (run ++ text) = run ++ indented true text := by
  induction run generalizing fresh with
  | nil => exact absurd rfl hne
  | cons b more ih =>
    obtain ⟨hb, hmore⟩ := List.forall_mem_cons.1 hrun
    rw [List.cons_append, indented, if_pos hb, List.cons_append]
    cases more with
    | nil => rfl
    | cons b' more => rw [ih hmore (List.cons_ne_nil _ _)]

/-- A line that starts is indented. -/
theorem indented_fresh {text : List Char} (hne : text ≠ [])
    (hhead : text.head?.any isBreak = false) :
    indented true text = indentation ++ indented false text := by
  obtain ⟨c, more, rfl⟩ := List.exists_cons_of_ne_nil hne
  have hc : isBreak c = false := hhead
  simp [indented, hc]

/-- A text that goes on in its line starts as it did. -/
theorem head?_indented_append {text : List Char} (hne : text ≠ [])
    (hhead : text.head?.any isBreak = false) (rest : List Char) :
    (indented false text ++ rest).head? = text.head? := by
  obtain ⟨c, more, rfl⟩ := List.exists_cons_of_ne_nil hne
  have hc : isBreak c = false := hhead
  simp [indented, hc]

/-- Line breaks at the end stand for themselves. -/
theorem indented_append_breaks {run : List Char} (hrun : ∀ b ∈ run, isBreak b = true)
    (fresh : Bool) (text : List Char) :
    indented fresh (text ++ run) = indented fresh text ++ run := by
  have hrun_indented : ∀ fresh, indented fresh run = run := by
    intro fresh
    obtain rfl | hne := eq_or_ne run []
    · rfl
    · have hbreaks := indented_breaks hrun hne fresh []
      simpa [indented] using hbreaks
  induction text generalizing fresh with
  | nil => exact hrun_indented fresh
  | cons c more ih =>
    rw [List.cons_append, indented, indented, ih true, ih false]
    split
    · rfl
    · split
      · simp
      · rfl

/-- Indentation makes no text shorter. -/
theorem length_le_indented (fresh : Bool) (text : List Char) :
    text.length ≤ (indented fresh text).length := by
  induction text generalizing fresh with
  | nil => exact Nat.zero_le _
  | cons c more ih =>
    have htrue := ih true
    have hfalse := ih false
    unfold indented
    split
    · simpa using htrue
    · split
      · simp
        omega
      · simpa using hfalse

/-- A text gets no shorter if each character leaves something. -/
theorem length_le_flatMap {f : Char → List Char} (hf : ∀ c, f c ≠ []) (text : List Char) :
    text.length ≤ (text.flatMap f).length := by
  induction text with
  | nil => exact Nat.le_refl _
  | cons c more ih =>
    have hpos := List.length_pos_iff.2 (hf c)
    rw [List.flatMap_cons, List.length_append, List.length_cons]
    omega

/-! ## Inside single quotes -/

/-- A character as it stands between single quotes. -/
def doubled (c : Char) : List Char := if c == apostrophe then [c, c] else [c]

/-- What stands between single quotes for a text. -/
def inside (text : List Char) : List Char :=
  indented false (text.flatMap doubled) ++ if text.getLast?.any isBreak then indentation else []

/-- A text between single quotes is what stands inside, with a quote on either side. -/
theorem single_eq (text : List Char) :
    single text = apostrophe :: (inside text ++ [apostrophe]) := rfl

/-- Only a single quote is doubled. -/
theorem doubled_of_ne {c : Char} (hc : c ≠ apostrophe) : doubled c = [c] := by
  simp [doubled, hc]

/-- A line break is no single quote. -/
theorem ne_apostrophe_of_isBreak {b : Char} (hb : isBreak b = true) : b ≠ apostrophe := by
  rintro rfl
  exact absurd hb (by decide)

/-- Without single quotes nothing is doubled. -/
theorem flatMap_doubled {run : List Char} (hrun : ∀ c ∈ run, c ≠ apostrophe) :
    run.flatMap doubled = run := by
  induction run with
  | nil => rfl
  | cons c more ih =>
    obtain ⟨hc, hmore⟩ := List.forall_mem_cons.1 hrun
    rw [List.flatMap_cons, doubled_of_ne hc, ih hmore, List.singleton_append]

/-- Doubling single quotes keeps the first character. -/
theorem flatMap_doubled_head (text : List Char) :
    (text.flatMap doubled).head? = text.head? := by
  cases text with
  | nil => rfl
  | cons c more =>
    rw [List.flatMap_cons, doubled]
    split <;> rfl

/-- A text between single quotes takes at least as much room as it has characters. -/
theorem length_le_inside (text : List Char) : text.length ≤ (inside text).length := by
  have hdoubled : ∀ c, doubled c ≠ [] := by
    intro c
    unfold doubled
    split <;> simp
  have hflat := length_le_flatMap hdoubled text
  have hindented := length_le_indented false (text.flatMap doubled)
  rw [inside, List.length_append]
  omega

/-- Between single quotes a character that breaks no line stands in front of the rest. -/
theorem inside_cons {c : Char} (hc : isBreak c = false) (text : List Char) :
    inside (c :: text) = doubled c ++ inside text := by
  have hlast : (c :: text).getLast?.any isBreak = text.getLast?.any isBreak := by
    cases text with
    | nil => simpa using hc
    | cons d more => rw [List.getLast?_cons_cons]
  have hindented : indented false (doubled c ++ text.flatMap doubled) =
      doubled c ++ indented false (text.flatMap doubled) := by
    unfold doubled
    split <;> simp [indented, hc]
  rw [inside, hlast, List.flatMap_cons, hindented, List.append_assoc, inside]

/-- Between single quotes blanks stand for themselves. -/
theorem inside_blanks (n : Nat) (text : List Char) :
    inside (List.replicate n ' ' ++ text) = List.replicate n ' ' ++ inside text := by
  have hdoubled : doubled ' ' = [' '] := by decide
  induction n with
  | zero => rfl
  | succ n ih =>
    rw [List.replicate_succ, List.cons_append, inside_cons (by decide), ih, hdoubled]
    rfl

/-- Between single quotes line breaks stand for themselves, and the line behind them is indented. -/
theorem inside_breaks {run text : List Char} (hrun : ∀ b ∈ run, isBreak b = true) (hne : run ≠ [])
    (hhead : text.head?.any isBreak = false) :
    inside (run ++ text) = run ++ (indentation ++ inside text) := by
  have hdoubled := flatMap_doubled fun b hb => ne_apostrophe_of_isBreak (hrun b hb)
  rw [inside, List.flatMap_append, hdoubled, indented_breaks hrun hne]
  obtain rfl | htext := eq_or_ne text []
  · have hlast := getLast?_of_breaks hrun hne
    simp [hlast, inside, indented]
  · have hinner : text.flatMap doubled ≠ [] := by
      intro hnil
      apply htext
      rw [← List.head?_eq_none_iff, ← flatMap_doubled_head, hnil, List.head?_nil]
    rw [List.getLast?_append_of_ne_nil run htext,
      indented_fresh hinner (by rw [flatMap_doubled_head, hhead]),
      inside]
    simp

/-! ## Printable layouts -/

section Printable

variable {text : List Char} (hprint : ∀ c ∈ text, isPrintable c = true)
include hprint

/-- Indentation brings in nothing that may not stand as it is. -/
theorem printable_indented (fresh : Bool) : ∀ c ∈ indented fresh text, isPrintable c = true := by
  have hindentation : ∀ c ∈ indentation, isPrintable c = true :=
    List.all_eq_true.1 (by decide)
  induction text generalizing fresh with
  | nil => exact fun c hc => absurd hc List.not_mem_nil
  | cons c more ih =>
    obtain ⟨hc, hmore⟩ := List.forall_mem_cons.1 hprint
    unfold indented
    split
    · exact List.forall_mem_cons.2 ⟨hc, ih hmore true⟩
    · split
      · exact List.forall_mem_append.2
          ⟨hindentation, List.forall_mem_cons.2 ⟨hc, ih hmore false⟩⟩
      · exact List.forall_mem_cons.2 ⟨hc, ih hmore false⟩

/-- Single quotes bring in nothing that may not stand as it is. -/
theorem printable_single : ∀ c ∈ single text, isPrintable c = true := by
  have hdoubled : ∀ c ∈ text.flatMap doubled, isPrintable c = true := by
    intro d hd
    obtain ⟨c, hc, hdc⟩ := List.mem_flatMap.1 hd
    have heq : d = c := by
      unfold doubled at hdc
      split at hdc <;> simpa using hdc
    rw [heq]
    exact hprint c hc
  have hclosing : ∀ c ∈ (if text.getLast?.any isBreak then indentation else []),
      isPrintable c = true := by
    split
    · exact List.all_eq_true.1 (by decide)
    · exact fun c hc => absurd hc List.not_mem_nil
  have hquote : isPrintable apostrophe = true := by decide
  rw [single_eq, inside]
  simp only [List.forall_mem_cons, List.forall_mem_append]
  exact ⟨hquote, ⟨printable_indented hdoubled false, hclosing⟩, hquote,
    fun c hc => absurd hc List.not_mem_nil⟩

/-- A literal block brings in nothing that may not stand as it is. -/
theorem printable_literal : ∀ c ∈ literal text, isPrintable c = true := by
  have hdigit : ∀ c ∈ indentationDigit text, isPrintable c = true := by
    unfold indentationDigit
    split
    · exact List.all_eq_true.1 (by decide)
    · exact fun c hc => absurd hc List.not_mem_nil
  have hstrip : ∀ c ∈ ['-'], isPrintable c = true := List.all_eq_true.1 (by decide)
  have hkeep : ∀ c ∈ ['+'], isPrintable c = true := List.all_eq_true.1 (by decide)
  have hsign : ∀ c ∈ chompingSign text, isPrintable c = true := by
    unfold chompingSign
    split
    · exact hstrip
    · split
      · exact hstrip
      · split
        · exact hkeep
        · split
          · exact hkeep
          · exact fun c hc => absurd hc List.not_mem_nil
  rw [literal]
  simp only [List.forall_mem_cons, List.forall_mem_append]
  exact ⟨by decide, ⟨hdigit, hsign⟩, by decide, printable_indented hprint true⟩

end Printable

end SlashChat.Yaml.Written
