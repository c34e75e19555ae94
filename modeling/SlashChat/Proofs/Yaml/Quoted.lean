import SlashChat.Proofs.Yaml.Escape
import SlashChat.Proofs.Yaml.Gap
import SlashChat.Proofs.Yaml.Layout

/-!
# Reading quoted scalars back

A text between double quotes stands on one line, its characters escaped where they have to be
(`read_double`).  Between single quotes its line breaks stand for themselves, with the lines below
indented (`read_single`); that needs a text in which no blank is next to a break and no break is a
line feed, which alone would be read as a blank.
-/

set_option autoImplicit false

namespace SlashChat.Yaml.Quoted

open Written

variable {rest : List Char}

/-- One round of the reader at a gap takes the text of the gap. -/
theorem readOn_gap {double : Bool} {fuel : Nat} {cursor next : Cursor} {c : Char} {more : List Char}
    {gap : Gap} (done : List Char) (hcolumn : cursor.column ≠ 0) (hcursor : cursor.rest = c :: more)
    (hc : isGap c = true) (hgap : Gap.read 0 false cursor = .ok (gap, next)) :
    readOn double (fuel + 1) cursor done = readOn double fuel next (gap.text.reverse ++ done) := by
  rw [readOn, Cursor.atDocumentMarker_of_column hcolumn, if_neg (by decide), hcursor]
  simp only [hc, if_true, hgap]

/-- A run of blanks within a line stands for itself. -/
theorem readOn_blanks {double : Bool} {fuel n : Nat} {cursor : Cursor} (done : List Char)
    (hcolumn : cursor.column ≠ 0) (hcursor : cursor.rest = List.replicate (n + 1) ' ' ++ rest)
    (hrest : rest.head?.any isGap = false) :
    ∃ next, readOn double (fuel + 1) cursor done =
        readOn double fuel next (List.replicate (n + 1) ' ' ++ done) ∧
      next.rest = rest ∧ next.column ≠ 0 := by
  obtain ⟨next, hread, hnext, hcolumn'⟩ := Gap.read_blanks 0 hcursor hrest
  refine ⟨next, ?_, hnext, by omega⟩
  rw [List.replicate_succ, List.cons_append] at hcursor
  rw [readOn_gap done hcolumn hcursor (by decide) hread]
  simp [Gap.text]

/-! ## Double quotes -/

section Double

variable {fuel : Nat} {cursor : Cursor} {c : Char}

/-- One round of the reader takes a character, escaped or not. -/
theorem readOn_escaped (done : List Char) (hcolumn : cursor.column ≠ 0) (hblank : c ≠ ' ')
    (hcursor : cursor.rest = escaped c ++ rest) :
    ∃ next, readOn true (fuel + 1) cursor done = readOn true fuel next (c :: done) ∧
      next.rest = rest ∧ next.column ≠ 0 := by
  have hmarker := Cursor.atDocumentMarker_of_column hcolumn
  obtain ⟨hescaped, hbare⟩ | ⟨sequence, hescaped, hescape⟩ := escaped_cases c
  · obtain ⟨hprint, hbreak, hquote, hslash⟩ := hbare
    have hgap : isGap c = false := by simp [isGap_of_isPrintable hprint, hblank, hbreak]
    rw [hescaped, List.singleton_append] at hcursor
    refine ⟨cursor.skip 1, ?_, by simp [hcursor], by simp⟩
    rw [readOn, hmarker, if_neg (by decide), hcursor]
    simp [hgap, hquote, hslash]
  · rw [hescaped, List.cons_append] at hcursor
    have hskip : (cursor.skip 1).rest = sequence ++ rest := by simp [hcursor]
    have hbreak : (cursor.skip 1).break? = none := by
      apply Cursor.break?_of_head
      obtain ⟨d, more, rfl⟩ := List.exists_cons_of_ne_nil hescape.ne_nil
      rw [hskip]
      exact (hescape.line d List.mem_cons_self).2
    have hgap : isGap '\\' = false := by decide
    refine ⟨(cursor.skip 1).skip sequence.length, ?_, by simp [hcursor], by simp⟩
    rw [readOn, hmarker, if_neg (by decide), hcursor]
    simp [hgap, hbreak, hescape.read _ rest hskip]

/-- An escaped text that starts with no blank starts with no gap. -/
theorem head_escaped {text : List Char} (htext : text.head?.any (· == ' ') = false) :
    (text.flatMap escaped ++ '"' :: rest).head?.any isGap = false := by
  cases text with
  | nil => exact (by decide : isGap '"' = false)
  | cons c more =>
    have hblank : c ≠ ' ' := by simpa using htext
    obtain ⟨hc, hprint, hbreak, -⟩ | ⟨sequence, hc, -⟩ := escaped_cases c
    · simp [hc, isGap_of_isPrintable hprint, hblank, hbreak]
    · have hslash : isGap '\\' = false := by decide
      simp [hc, hslash]

/-- Every character leaves something between double quotes. -/
theorem escaped_ne_nil (c : Char) : escaped c ≠ [] := by
  obtain ⟨hc, -⟩ | ⟨sequence, hc, -⟩ := escaped_cases c <;> simp [hc]

/-- Blanks are not escaped. -/
theorem flatMap_escaped_blanks (n : Nat) :
    (List.replicate n ' ').flatMap escaped = List.replicate n ' ' := by
  have hblank : escaped ' ' = [' '] := by decide
  induction n with
  | zero => rfl
  | succ n ih => rw [List.replicate_succ, List.flatMap_cons, ih, hblank, List.singleton_append]

/-- The rest of a text between double quotes is read up to the closing quote. -/
theorem readOn_double (text : List Char) :
    ∀ {fuel : Nat} {cursor : Cursor} (done : List Char), text.length < fuel → cursor.column ≠ 0 →
      cursor.rest = text.flatMap escaped ++ '"' :: rest →
      ∃ next, readOn true fuel cursor done = .ok (done.reverse ++ text, next) ∧
        next.rest = rest := by
  induction text using run_induction (· == ' ') with
  | nil =>
    intro fuel cursor done hfuel hcolumn hcursor
    obtain ⟨fuel, rfl⟩ : ∃ less, fuel = less + 1 := ⟨fuel - 1, by omega⟩
    have hgap : isGap '"' = false := by decide
    rw [List.flatMap_nil, List.nil_append] at hcursor
    refine ⟨cursor.skip 1, ?_, by simp [hcursor]⟩
    rw [readOn, Cursor.atDocumentMarker_of_column hcolumn, if_neg (by decide), hcursor]
    simp [hgap]
  | char c text hc ih =>
    intro fuel cursor done hfuel hcolumn hcursor
    obtain ⟨fuel, rfl⟩ : ∃ less, fuel = less + 1 := ⟨fuel - 1, by omega⟩
    rw [List.flatMap_cons, List.append_assoc] at hcursor
    obtain ⟨next, hread, hnext, hcolumn'⟩ :=
      readOn_escaped done hcolumn (beq_eq_false_iff_ne.1 hc) hcursor
    have hfuel' : text.length < fuel := Nat.lt_of_succ_lt_succ hfuel
    obtain ⟨last, hlast, hrest⟩ := ih (c :: done) hfuel' hcolumn' hnext
    refine ⟨last, ?_, hrest⟩
    rw [hread, hlast]
    simp
  | run run text hne hrun hhead ih =>
    intro fuel cursor done hfuel hcolumn hcursor
    obtain ⟨fuel, rfl⟩ : ∃ less, fuel = less + 1 := ⟨fuel - 1, by omega⟩
    obtain ⟨n, rfl⟩ := exists_replicate hne (fun c hc => beq_iff_eq.1 (hrun c hc))
    rw [List.flatMap_append, flatMap_escaped_blanks, List.append_assoc] at hcursor
    rw [List.length_append, List.length_replicate] at hfuel
    obtain ⟨next, hread, hnext, hcolumn'⟩ :=
      readOn_blanks done hcolumn hcursor (head_escaped hhead)
    have hfuel' : text.length < fuel := by omega
    obtain ⟨last, hlast, hrest⟩ := ih (List.replicate (n + 1) ' ' ++ done) hfuel' hcolumn' hnext
    refine ⟨last, ?_, hrest⟩
    rw [hread, hlast]
    simp

/-- A text between double quotes is read as it is. -/
theorem read_double {text : List Char} (hcursor : cursor.rest = double text ++ rest) :
    ∃ next, read true cursor = .ok (text, next) ∧ next.rest = rest := by
  have hfuel : text.length < cursor.rest.length := by
    have hle := length_le_flatMap escaped_ne_nil text
    rw [hcursor, double, List.length_append, List.length_cons, List.length_append]
    omega
  have hskip : (cursor.skip 1).rest = text.flatMap escaped ++ '"' :: rest := by
    simp [hcursor, double]
  exact readOn_double text [] hfuel (by simp) hskip

end Double

/-! ## Single quotes -/

section Single

/-- A text that starts with no gap starts with none between single quotes. -/
theorem head_inside {text : List Char} (hhead : text.head?.any isGap = false) :
    (inside text ++ apostrophe :: rest).head?.any isGap = false := by
  cases text with
  | nil => exact (by decide : isGap apostrophe = false)
  | cons c more =>
    have hc : isGap c = false := hhead
    rw [inside_cons (isBreak_of_isGap hc)]
    unfold doubled
    split <;> exact hc

/-- A break that is not folded stands for itself, with those behind it. -/
theorem text_of_breaks {b : Char} (hb : b ≠ '\n') (more : List Char) :
    Gap.text { broken := true, first := some b, more } = b :: more := by
  simp [Gap.text]

/-- One round of the reader takes a character, doubled if it is a single quote. -/
theorem readOn_doubled {fuel : Nat} {cursor : Cursor} {c : Char} (done : List Char)
    (hcolumn : cursor.column ≠ 0) (hc : isGap c = false)
    (hcursor : cursor.rest = doubled c ++ rest) :
    ∃ next, readOn false (fuel + 1) cursor done = readOn false fuel next (c :: done) ∧
      next.rest = rest ∧ next.column ≠ 0 := by
  have hmarker := Cursor.atDocumentMarker_of_column hcolumn
  obtain rfl | hne := eq_or_ne c apostrophe
  · have hcursor' : cursor.rest = apostrophe :: apostrophe :: rest := hcursor
    refine ⟨cursor.skip 2, ?_, by simp [hcursor'], by simp⟩
    rw [readOn, hmarker, if_neg (by decide), hcursor']
    simp [hc]
  · rw [doubled_of_ne hne, List.singleton_append] at hcursor
    refine ⟨cursor.skip 1, ?_, by simp [hcursor], by simp⟩
    rw [readOn, hmarker, if_neg (by decide), hcursor]
    simp [hc, hne]

/-- Line breaks that are not folded stand for themselves, without the indentation of the line behind
them. -/
theorem readOn_breaks {fuel : Nat} {cursor : Cursor} {b : Char} {more : List Char}
    (done : List Char) (hcolumn : cursor.column ≠ 0)
    (hbreaks : ∀ c ∈ b :: more, isPrintable c = true ∧ isBreak c = true) (hb : b ≠ '\n')
    (hcursor : cursor.rest = b :: more ++ (indentation ++ rest))
    (hrest : rest.head?.any isGap = false) :
    ∃ next, readOn false (fuel + 1) cursor done =
        readOn false fuel next ((b :: more).reverse ++ done) ∧
      next.rest = rest ∧ next.column ≠ 0 := by
  have hcursor' : cursor.rest = b :: more ++ (List.replicate 4 ' ' ++ rest) := hcursor
  have hgap : isGap b = true := by rw [isGap, (hbreaks b List.mem_cons_self).2, Bool.or_true]
  obtain ⟨next, hread, hnext, hcolumn'⟩ := Gap.read_breaks 0 hbreaks hcursor' hrest
  refine ⟨next, ?_, hnext, by omega⟩
  rw [readOn_gap done hcolumn hcursor hgap hread, text_of_breaks hb]

/-- The rest of a text between single quotes is read up to the closing quote. -/
theorem readOn_single (hrest : rest.head? ≠ some apostrophe) (text : List Char) :
    ∀ {fuel : Nat} {cursor : Cursor} (done : List Char), IsApart text → text.length < fuel →
      cursor.column ≠ 0 → cursor.rest = inside text ++ apostrophe :: rest →
      ∃ next, readOn false fuel cursor done = .ok (done.reverse ++ text, next) ∧
        next.rest = rest := by
  induction text using run_induction isGap with
  | nil =>
    intro fuel cursor done _ hfuel hcolumn hcursor
    obtain ⟨fuel, rfl⟩ : ∃ less, fuel = less + 1 := ⟨fuel - 1, by omega⟩
    have hgap : isGap apostrophe = false := by decide
    have hcursor' : cursor.rest = apostrophe :: rest := hcursor
    refine ⟨cursor.skip 1, ?_, by simp [hcursor']⟩
    rw [readOn, Cursor.atDocumentMarker_of_column hcolumn, if_neg (by decide), hcursor']
    simp [hgap, hrest]
  | char c text hc ih =>
    intro fuel cursor done htext hfuel hcolumn hcursor
    obtain ⟨fuel, rfl⟩ : ∃ less, fuel = less + 1 := ⟨fuel - 1, by omega⟩
    have happend : IsApart ([c] ++ text) := htext
    rw [inside_cons (isBreak_of_isGap hc), List.append_assoc] at hcursor
    obtain ⟨next, hread, hnext, hcolumn'⟩ := readOn_doubled done hcolumn hc hcursor
    have hfuel' : text.length < fuel := Nat.lt_of_succ_lt_succ hfuel
    obtain ⟨last, hlast, hrest⟩ := ih (c :: done) happend.of_append.2 hfuel' hcolumn' hnext
    refine ⟨last, ?_, hrest⟩
    rw [hread, hlast]
    simp
  | run run text hne hrun hhead ih =>
    intro fuel cursor done htext hfuel hcolumn hcursor
    obtain ⟨fuel, rfl⟩ : ∃ less, fuel = less + 1 := ⟨fuel - 1, by omega⟩
    obtain ⟨hrun_apart, htext_apart⟩ := htext.of_append
    have hpos := List.length_pos_iff.2 hne
    have hfuel' : text.length < fuel := by
      rw [List.length_append] at hfuel
      omega
    -- Blanks next to a break would be lost, but a gap of this text is all one or all the other.
    obtain hblanks | hbreaks := hrun_apart.uniform hrun
    · obtain ⟨n, rfl⟩ := exists_replicate hne hblanks
      rw [inside_blanks, List.append_assoc] at hcursor
      obtain ⟨next, hread, hnext, hcolumn'⟩ :=
        readOn_blanks done hcolumn hcursor (head_inside hhead)
      obtain ⟨last, hlast, hrest⟩ :=
        ih (List.replicate (n + 1) ' ' ++ done) htext_apart hfuel' hcolumn' hnext
      refine ⟨last, ?_, hrest⟩
      rw [hread, hlast]
      simp
    · have hhead' : text.head?.any isBreak = false := by
        cases text with
        | nil => rfl
        | cons c more =>
          have hc : isGap c = false := hhead
          exact isBreak_of_isGap hc
      obtain ⟨b, more, rfl⟩ := List.exists_cons_of_ne_nil hne
      have hb : b ≠ '\n' := by
        rintro rfl
        exact hrun_apart.line List.mem_cons_self
      rw [inside_breaks hbreaks hne hhead', List.append_assoc, List.append_assoc] at hcursor
      obtain ⟨next, hread, hnext, hcolumn'⟩ := readOn_breaks done hcolumn
        (fun c hc => ⟨hrun_apart.print c hc, hbreaks c hc⟩) hb hcursor (head_inside hhead)
      obtain ⟨last, hlast, hrest⟩ :=
        ih ((b :: more).reverse ++ done) htext_apart hfuel' hcolumn' hnext
      refine ⟨last, ?_, hrest⟩
      rw [hread, hlast]
      simp

/-- A text between single quotes is read as it is. -/
theorem read_single {text : List Char} {cursor : Cursor} (htext : IsApart text)
    (hrest : rest.head? ≠ some apostrophe) (hcursor : cursor.rest = single text ++ rest) :
    ∃ next, read false cursor = .ok (text, next) ∧ next.rest = rest := by
  have hfuel : text.length < cursor.rest.length := by
    have hle := length_le_inside text
    rw [hcursor, single_eq, List.length_append, List.length_cons, List.length_append]
    omega
  have hskip : (cursor.skip 1).rest = inside text ++ apostrophe :: rest := by
    simp [hcursor, single_eq]
  exact readOn_single hrest text [] htext hfuel (by simp) hskip

end Single

end SlashChat.Yaml.Quoted
