import SlashChat.Proofs.Yaml.Block
import SlashChat.Proofs.Yaml.Lexer
import SlashChat.Proofs.Yaml.Quoted

/-!
# Reading written scalars back

A written scalar stands for a text if the lexer, behind the colon of a key, reads it as one scalar
token of that text and then awaits the line below (`Stands`, `run_value`).  Each style does for the
texts that are written in it, so what is written for a text, whatever it is, stands for the text
(`stands_value`).
-/

set_option autoImplicit false

namespace SlashChat.Yaml

namespace Lexer

variable {lexer : Lexer} {next : Cursor} {text rest : List Char}

/-- A token leaves a lexer at rest. -/
theorem IsAtRest.push (h : lexer.IsAtRest) (token : Token) : (lexer.push token).IsAtRest :=
  ⟨h.place, h.outer⟩

/-- A plain scalar that is read where no key may start is one token. -/
theorem plain_of_read {broken : Bool} (hlexer : lexer.IsAtRest) (hallowed : lexer.keyAllowed = false)
    (hread : Plain.read false lexer.margin lexer.cursor = .ok ⟨text, next, broken⟩) :
    lexer.plain =
      .ok ((lexer.push (.scalar .plain (String.ofList text))).moved next broken) := by
  simp only [plain, savePlace, hallowed, Bool.false_eq_true, if_false, hlexer.inFlow, bind,
    Except.bind, hread]
  rfl

/-- A quoted scalar that is read where no key may start is one token. -/
theorem quoted_of_read {style : ScalarStyle} (hallowed : lexer.keyAllowed = false)
    (hread : Quoted.read (style == .doubleQuoted) lexer.cursor = .ok (text, next)) :
    lexer.quoted style =
      .ok ((lexer.push (.scalar style (String.ofList text))).moved next false) := by
  simp only [quoted, savePlace, hallowed, Bool.false_eq_true, if_false, bind, Except.bind, hread]
  rfl

/-- A block scalar that is read is one token, and a key may start behind it. -/
theorem block_of_read {style : ScalarStyle} (hlexer : lexer.IsAtRest)
    (hread : Block.read (style == .literal) lexer.margin lexer.cursor = .ok (text, next)) :
    lexer.block style =
      .ok ((lexer.push (.scalar style (String.ofList text))).moved next true) := by
  have hdrop : lexer.dropPlace = .ok lexer := by
    obtain ⟨cursor, tokens, margin, margins, keyAllowed, place, outer⟩ := lexer
    obtain ⟨hplace, -⟩ := hlexer
    simp only at hplace
    subst hplace
    rfl
  simp only [block, hdrop, bind, Except.bind, hread]
  rfl

/-! ## Which token comes -/

section Dispatch

variable (hcolumn : lexer.cursor.column ≠ 0)
include hcolumn

/-- A double quote starts a scalar in double quotes. -/
theorem token_quote : lexer.token '"' rest = lexer.quoted .doubleQuoted := by
  simp [token, Cursor.atMarker_of_column hcolumn, apostrophe]

/-- A single quote starts a scalar in single quotes. -/
theorem token_apostrophe : lexer.token apostrophe rest = lexer.quoted .singleQuoted := by
  simp [token, Cursor.atMarker_of_column hcolumn, apostrophe]

/-- Outside brackets a bar starts a literal block. -/
theorem token_bar (hlexer : lexer.IsAtRest) : lexer.token '|' rest = lexer.block .literal := by
  simp [token, Cursor.atMarker_of_column hcolumn, hlexer.inFlow]

/-- What starts with no indicator starts a plain scalar. -/
theorem token_of_startsWithIndicator (hlexer : lexer.IsAtRest) {c : Char} (hgap : isGap c = false)
    (hstart : Written.startsWithIndicator (c :: rest) = false) :
    lexer.token c rest = lexer.plain := by
  have hblank : endsWord rest = false → rest.head?.any isBlank = false := by
    intro hrest
    cases rest with
    | nil => rfl
    | cons d more =>
      have hd : isGap d = false := hrest
      rw [isGap, Bool.or_eq_false_iff] at hd
      exact hd.1
  -- A dash, a question mark and a colon are left, each in front of a word.
  simp only [Written.startsWithIndicator, Written.isStartIndicator, Bool.or_eq_false_iff,
    Bool.and_eq_false_iff] at hstart
  obtain ⟨hindicator, hend⟩ := hstart
  have hstarts : startsPlain false c rest = true := by
    simp only [startsPlain, hgap, hindicator]
    cases hrest : endsWord rest with
    | true =>
      simp [hrest] at hend
      simp [hend]
    | false =>
      rw [hblank hrest]
      cases hdash : c == '-' <;> cases hquestion : c == '?' <;> cases hcolon : c == ':' <;> rfl
  unfold token
  simp only [Cursor.atMarker_of_column hcolumn, hindicator, hlexer.inFlow]
  cases hrest : endsWord rest with
  | true =>
    simp [hrest] at hend
    simp [hend, hstarts]
  | false => simp [hstarts]

end Dispatch

end Lexer

/-! ## Scalars as values -/

open Lexer

/-- Whether a written scalar, up to the end of its last line, is read as one token of this text, in
a block mapping with this margin. -/
def Stands (margin : Nat) (style : ScalarStyle) (text written : List Char) : Prop :=
  ∃ c more, written = c :: more ∧ isGap c = false ∧ c ≠ '#' ∧ c ≠ byteOrderMark ∧
    ∀ (lexer : Lexer) (column : Nat) (tail : List Char), lexer.IsAtRest →
      lexer.keyAllowed = false → lexer.margin = margin → margin ≤ lexer.cursor.column →
      column < margin → tail.head?.all Char.isAlphanum = true →
      lexer.cursor.rest = written ++ (List.replicate column ' ' ++ tail) →
      ∃ next keyAllowed,
        lexer.token c (more ++ (List.replicate column ' ' ++ tail)) =
          .ok ((lexer.push (.scalar style (String.ofList text))).moved next keyAllowed) ∧
        Awaits next keyAllowed column tail

/-- A value is read in one round. -/
theorem Lexer.run_value {lexer : Lexer} {margin column : Nat} {style : ScalarStyle}
    {text written tail : List Char} (hstands : Stands margin style text written)
    (hlexer : lexer.IsAtRest) (hallowed : lexer.keyAllowed = false)
    (hmargin : lexer.margin = margin) (hleft : margin ≤ lexer.cursor.column)
    (hcolumn : column < margin) (htail : tail.head?.all Char.isAlphanum = true)
    (hcursor : lexer.cursor.rest =
      ' ' :: (written ++ (List.replicate column ' ' ++ tail))) :
    ∃ next keyAllowed,
      (∀ fuel, run (fuel + 1) lexer =
        run fuel ((lexer.push (.scalar style (String.ofList text))).moved next keyAllowed)) ∧
      Awaits next keyAllowed column tail := by
  obtain ⟨c, more, rfl, hgap, hsign, hmark, htoken⟩ := hstands
  have hskip : (lexer.cursor.skip 1).rest =
      c :: more ++ (List.replicate column ' ' ++ tail) := by simp [hcursor]
  have hblanks : lexer.cursor.rest =
      List.replicate 1 ' ' ++ (c :: more ++ (List.replicate column ' ' ++ tail)) := hcursor
  have hplace := nextPlace_of_blanks lexer.cursor.rest.length lexer.keyAllowed
    (by simpa using hgap) (by simpa using hsign) (by simpa using hmark) hblanks
  have hadvance := advance_of_nextPlace hlexer.outer (by rw [hlexer.place]; rfl) hplace
  rw [dedent_of_margin_le (by simp; omega)] at hadvance
  let ahead := lexer.moved (lexer.cursor.skip 1) lexer.keyAllowed
  have hahead : ahead.IsAtRest := hlexer.moved _ _
  obtain ⟨next, keyAllowed, hread, hawaits⟩ := htoken ahead column tail hahead hallowed hmargin
    (by simp [ahead]; omega) hcolumn htail hskip
  refine ⟨next, keyAllowed, ?_, hawaits⟩
  intro fuel
  have hrest : ((ahead.push (.scalar style (String.ofList text))).moved next keyAllowed).IsAtRest :=
    (hahead.push _).moved next keyAllowed
  exact run_round fuel hadvance hskip (next_of_token hread hrest.refresh)

/-! ## Styles -/

section Styles

variable {margin : Nat} {text : List Char}

/-- Whether a text starts with an indicator does not depend on a gap behind it. -/
theorem startsWithIndicator_append (hne : text ≠ []) {rest : List Char}
    (hrest : endsWord rest = true) :
    Written.startsWithIndicator (text ++ rest) = Written.startsWithIndicator text := by
  obtain ⟨c, more, rfl⟩ := List.exists_cons_of_ne_nil hne
  have hend : endsWord (more ++ rest) = endsWord more := by
    obtain rfl | hmore := eq_or_ne more []
    · exact hrest
    · exact Plain.endsWord_append hmore rest
  rw [List.cons_append, Written.startsWithIndicator, Written.startsWithIndicator, hend]

/-- A sentence stands for itself if it starts with no indicator. -/
theorem stands_sentence (margin : Nat) (htext : Plain.IsSentence text)
    (hprint : ∀ c ∈ text, isPrintable c = true)
    (hstart : Written.startsWithIndicator text = false) :
    Stands margin .plain text (text ++ ['\n']) := by
  obtain ⟨c, more, rfl⟩ := List.exists_cons_of_ne_nil htext.ne_nil
  have hsign : c ≠ '#' := by
    rintro rfl
    rw [Written.startsWithIndicator] at hstart
    exact absurd (Bool.or_eq_false_iff.1 hstart).1 (by decide)
  have hmark : c ≠ byteOrderMark := by
    rintro rfl
    exact absurd (hprint byteOrderMark List.mem_cons_self) (by decide)
  refine ⟨c, more ++ ['\n'], rfl, htext.head, hsign, hmark, ?_⟩
  intro lexer column tail hlexer hallowed hmargin hleft hcolumn htail hcursor
  have hcursor' : lexer.cursor.rest =
      c :: more ++ '\n' :: (List.replicate column ' ' ++ tail) := by simp [hcursor]
  obtain ⟨next, hread, hnext, hnext_column⟩ :=
    Plain.read_sentence htext hcolumn hleft (head_of_isAlphanum htail) hcursor'
  refine ⟨next, true, ?_, Or.inl ⟨hnext, hnext_column, rfl⟩⟩
  have hfeed : endsWord ('\n' :: (List.replicate column ' ' ++ tail)) = true :=
    (by decide : isGap '\n' = true)
  have hstart' : Written.startsWithIndicator
      (c :: (more ++ ['\n'] ++ (List.replicate column ' ' ++ tail))) = false := by
    rw [← hstart, ← startsWithIndicator_append (List.cons_ne_nil c more) hfeed]
    simp
  rw [token_of_startsWithIndicator (by omega) hlexer htext.head hstart']
  rw [← hmargin] at hread
  exact plain_of_read hlexer hallowed hread

/-- A word of letters and digits stands for itself. -/
theorem stands_word (margin : Nat) (hne : text ≠ []) (hword : ∀ c ∈ text, c.isAlphanum = true) :
    Stands margin .plain text (text ++ ['\n']) := by
  have hprint : ∀ c ∈ text, isPrintable c = true :=
    fun c hc => isPrintable_of_isAlphanum (hword c hc)
  have hstart : Written.startsWithIndicator text = false := by
    obtain ⟨c, more, rfl⟩ := List.exists_cons_of_ne_nil hne
    have hne {d : Char} (hd : d.isAlphanum = false) : (c == d) = false :=
      beq_false_of_ne (ne_of_isAlphanum (hword c List.mem_cons_self) hd)
    simp (disch := decide) only [Written.startsWithIndicator, Written.isStartIndicator, hne,
      Bool.or_false, Bool.false_and]
  exact stands_sentence margin (Plain.isSentence_of_isAlphanum hne hword) hprint hstart

/-- A word on its line holds only what may stand as it is. -/
theorem printable_word (hword : ∀ c ∈ text, c.isAlphanum = true) :
    ∀ c ∈ text ++ ['\n'], isPrintable c = true := by
  refine List.forall_mem_append.2 ⟨fun c hc => isPrintable_of_isAlphanum (hword c hc), ?_⟩
  intro c hc
  rw [List.mem_singleton.1 hc]
  decide

/-- A text whose blanks and breaks are apart is what it stands for between single quotes. -/
theorem stands_single (margin : Nat) (htext : Written.IsApart text) :
    Stands margin .singleQuoted text (Written.single text ++ ['\n']) := by
  refine ⟨apostrophe, Written.inside text ++ [apostrophe] ++ ['\n'], rfl, by decide, by decide,
    by decide, ?_⟩
  intro lexer column tail hlexer hallowed hmargin hleft hcolumn htail hcursor
  have hcursor' : lexer.cursor.rest =
      Written.single text ++ '\n' :: (List.replicate column ' ' ++ tail) := by simp [hcursor]
  obtain ⟨next, hread, hnext⟩ :=
    Quoted.read_single htext (by simp; decide : ('\n' :: _).head? ≠ some apostrophe) hcursor'
  refine ⟨next, false, ?_, Or.inr hnext⟩
  rw [token_apostrophe (by omega)]
  exact quoted_of_read hallowed hread

/-- Every text stands for itself between double quotes. -/
theorem stands_double (margin : Nat) (text : List Char) :
    Stands margin .doubleQuoted text (Written.double text ++ ['\n']) := by
  refine ⟨'"', text.flatMap Written.escaped ++ ['"'] ++ ['\n'], rfl, by decide, by decide,
    by decide, ?_⟩
  intro lexer column tail hlexer hallowed hmargin hleft hcolumn htail hcursor
  have hcursor' : lexer.cursor.rest =
      Written.double text ++ '\n' :: (List.replicate column ' ' ++ tail) := by simp [hcursor]
  obtain ⟨next, hread, hnext⟩ := Quoted.read_double hcursor'
  refine ⟨next, false, ?_, Or.inr hnext⟩
  rw [token_quote (by omega)]
  exact quoted_of_read hallowed hread

/-- A text that may be written as it is stands for itself as a literal block. -/
theorem stands_literal (hne : text ≠ []) (hprint : ∀ c ∈ text, isPrintable c = true) :
    Stands 3 .literal text
      (Written.literal text ++ if text.getLast?.any isBreak then [] else ['\n']) := by
  refine ⟨'|', _, rfl, by decide, by decide, by decide, ?_⟩
  intro lexer column tail hlexer hallowed hmargin hleft hcolumn htail hcursor
  have hcursor' : lexer.cursor.rest = Written.literal text ++
      ((if text.getLast?.any isBreak then [] else ['\n']) ++
        (List.replicate column ' ' ++ tail)) := by simp [hcursor]
  obtain ⟨next, hread, hnext, hnext_column⟩ :=
    Block.read_literal (by omega : column < 4) (head_of_isAlphanum htail) hne hprint hcursor'
  refine ⟨next, true, ?_, Or.inl ⟨hnext, hnext_column, rfl⟩⟩
  rw [token_bar (by omega) hlexer]
  rw [← hmargin] at hread
  exact block_of_read hlexer hread

end Styles

/-! ## What is written for a text -/

section Values

open Written

/-- The style of a text says that the text can be written in that style. -/
theorem styleOf_cases (text : List Char) :
    (styleOf text = .literal ∧ text ≠ [] ∧ ∀ c ∈ text, isPrintable c = true) ∨
      (styleOf text = .plain ∧ text ≠ [] ∧ plainAllowed text = true) ∨
      (styleOf text = .singleQuoted ∧ IsApart text) ∨ styleOf text = .doubleQuoted := by
  unfold styleOf
  cases hfeed : text.contains '\n' with
  | true =>
    have hne : text ≠ [] := List.ne_nil_of_mem (List.contains_iff_mem.1 hfeed)
    cases hblock : blockAllowed text with
    | true =>
      simp only [blockAllowed, needsEscape, Bool.not_eq_true', Bool.or_eq_false_iff,
        Bool.not_eq_false', List.all_eq_true] at hblock
      exact Or.inl ⟨rfl, hne, hblock.1.1⟩
    | false => exact Or.inr (Or.inr (Or.inr rfl))
  | false =>
    cases hplain : !isAmbiguous text && plainAllowed text with
    | true =>
      obtain ⟨hambiguous, hallowed⟩ := Bool.and_eq_true_iff.1 hplain
      have hne : text ≠ [] := by
        rintro rfl
        exact absurd hambiguous (by decide)
      exact Or.inr (Or.inl ⟨rfl, hne, hallowed⟩)
    | false =>
      cases hsingle : singleAllowed text with
      | true =>
        have hline : '\n' ∉ text := by
          intro hmem
          rw [List.contains_iff_mem.2 hmem] at hfeed
          exact absurd hfeed (by decide)
        simp only [singleAllowed, needsEscape, Bool.not_eq_true', Bool.or_eq_false_iff,
          Bool.not_eq_false', List.all_eq_true] at hsingle
        obtain ⟨⟨hprint, hblankBreak⟩, hbreakBlank⟩ := hsingle
        exact Or.inr (Or.inr (Or.inl ⟨rfl, hprint, hline, hblankBreak, hbreakBlank⟩))
      | false => exact Or.inr (Or.inr (Or.inr rfl))

/-- What is written for a text below a key in column 2 stands for the text. -/
theorem stands_value (text : List Char) : Stands 3 (styleOf text) text (value text) := by
  unfold value
  obtain ⟨hstyle, hne, hprint⟩ | ⟨hstyle, hne, hplain⟩ | ⟨hstyle, hapart⟩ | hstyle :=
    styleOf_cases text
  · rw [hstyle]
    exact stands_literal hne hprint
  · obtain ⟨-, hprint, -, hstart, -⟩ := Plain.plainAllowed_parts hplain
    rw [hstyle]
    exact stands_sentence 3 (Plain.isSentence_of_plainAllowed hplain hne) hprint hstart
  · rw [hstyle]
    exact stands_single 3 hapart
  · rw [hstyle]
    exact stands_double 3 text

/-- What is written needs no escape in its turn. -/
theorem printable_value (text : List Char) : ∀ c ∈ value text, isPrintable c = true := by
  refine List.forall_mem_append.2 ⟨?_, ?_⟩
  · obtain ⟨hstyle, -, hprint⟩ | ⟨hstyle, -, hplain⟩ | ⟨hstyle, hapart⟩ | hstyle :=
      styleOf_cases text
    · rw [hstyle]
      exact printable_literal hprint
    · rw [hstyle]
      exact (Plain.plainAllowed_parts hplain).2.1
    · rw [hstyle]
      exact printable_single hapart.print
    · rw [hstyle]
      exact Quoted.printable_double text
  · intro c hc
    split at hc
    · exact absurd hc List.not_mem_nil
    · rw [List.mem_singleton.1 hc]
      decide

end Values

end SlashChat.Yaml
