import Mathlib.Data.List.Basic
import SlashChat.Proofs.Yaml.Gap
import SlashChat.Yaml.Plain
import SlashChat.Yaml.Written

/-!
# Reading plain scalars back

A sentence is a line of words that a plain scalar can hold.  In front of a line that is left of the
margin it is read as it stands (`read_sentence`), and a word in front of a colon is read up to the
colon (`read_key`).  The texts that are written plain are sentences (`isSentence_of_plainAllowed`).
-/

set_option autoImplicit false

namespace SlashChat.Yaml.Plain

/-- A line of words, with blanks between them, in which nothing ends a plain scalar. -/
structure IsSentence (text : List Char) : Prop where
  ne_nil : text ≠ []
  blank : ∀ c ∈ text, isGap c = true → c = ' '
  head : text.head?.any isGap = false
  last : text.getLast? ≠ some ' '
  colon : ∀ front back, text = front ++ ':' :: back → endsWord back = false
  hash : ∀ front c back, text = front ++ c :: '#' :: back → isGap c = false

/-- The end of a sentence is a sentence if it starts with a word. -/
theorem IsSentence.of_append {front text : List Char} (h : IsSentence (front ++ text))
    (hne : text ≠ []) (hhead : text.head?.any isGap = false) : IsSentence text where
  ne_nil := hne
  blank c hc := h.blank c (List.mem_append_right front hc)
  head := hhead
  last := by
    have hlast := h.last
    rwa [List.getLast?_append_of_ne_nil front hne] at hlast
  colon front' back heq := h.colon (front ++ front') back (by rw [heq, List.append_assoc])
  hash front' c back heq := h.hash (front ++ front') c back (by rw [heq, List.append_assoc])

/-- No word in front of a gap or of the end ends in a colon. -/
theorem IsSentence.getLast?_ne_colon {front rest : List Char} (h : IsSentence (front ++ rest))
    (hrest : endsWord rest = true) : front.getLast? ≠ some ':' := by
  intro hlast
  obtain ⟨most, rfl⟩ := List.getLast?_eq_some_iff.1 hlast
  have hcolon := h.colon most rest (by simp)
  rw [hrest] at hcolon
  exact absurd hcolon (by decide)

/-- A run of blanks stands between words, and the text behind it is a sentence again. -/
theorem IsSentence.of_blanks {front text : List Char} {n : Nat}
    (h : IsSentence (front ++ (List.replicate (n + 1) ' ' ++ text)))
    (hhead : text.head?.any isGap = false) :
    front ≠ [] ∧ text.head? ≠ some '#' ∧ IsSentence text := by
  have hblank : isGap ' ' = true := by decide
  have hne : text ≠ [] := by
    rintro rfl
    apply h.last
    simp [List.getLast?_append, List.replicate_succ']
  refine ⟨?_, ?_, ?_⟩
  · rintro rfl
    have hfirst : isGap ' ' = false := h.head
    exact absurd hfirst (by decide)
  · intro hsign
    obtain ⟨more, rfl⟩ := List.head?_eq_some_iff.1 hsign
    have hinner := h.hash (front ++ List.replicate n ' ') ' ' more
      (by simp [List.replicate_succ'])
    exact absurd hinner (by decide)
  · rw [← List.append_assoc] at h
    exact h.of_append hne hhead

/-! ## Words -/

/-- Whether a text starts with a gap does not depend on what follows it. -/
theorem endsWord_append {word : List Char} (hne : word ≠ []) (rest : List Char) :
    endsWord (word ++ rest) = endsWord word := by
  cases word with
  | nil => exact absurd rfl hne
  | cons c more => rfl

/-- There is no word in front of a gap. -/
theorem word_of_endsWord {rest : List Char} (hrest : endsWord rest = true) :
    word false rest = .ok [] := by
  cases rest with
  | nil => rfl
  | cons c more =>
    have hc : isGap c = true := hrest
    rw [word, if_pos hc]

/-- There is no word in front of a colon with a gap behind it. -/
theorem word_of_colon {rest : List Char} (hrest : endsWord rest = true) :
    word false (':' :: rest) = .ok [] := by
  have hcolon : isGap ':' = false := by decide
  simp [word, hcolon, hrest]

/-- A word is read up to a place where the text stops for a word. -/
theorem word_append {front rest : List Char} (hfront : ∀ c ∈ front, isGap c = false)
    (hlast : front.getLast? ≠ some ':') (hrest : word false rest = .ok []) :
    word false (front ++ rest) = .ok front := by
  induction front with
  | nil => exact hrest
  | cons c more ih =>
    obtain ⟨hc, hmore⟩ := List.forall_mem_cons.1 hfront
    -- A colon inside a word is no end of it: what stands behind it is no gap.
    have hopen : (c == ':' && endsWord (more ++ rest)) = false := by
      cases more with
      | nil =>
        have hne : c ≠ ':' := by simpa using hlast
        simp [hne]
      | cons d more =>
        have hd : endsWord (d :: more ++ rest) = false := (List.forall_mem_cons.1 hmore).1
        rw [hd, Bool.and_false]
    have hlast' : more.getLast? ≠ some ':' := by
      cases more with
      | nil => simp
      | cons d more => simpa using hlast
    rw [List.cons_append, word, ih hmore hlast']
    simp [hc, hopen, Except.map]

/-! ## Reading -/

/-- One round of the reader takes a word and the gap behind it, and stops if the scalar ends there.
-/
theorem readOn_word {margin fuel : Nat} {cursor next : Cursor} {done front rest : List Char}
    {pending gap : Gap} (hne : front ≠ []) (hfront : ∀ c ∈ front, isGap c = false)
    (hlast : front.getLast? ≠ some ':') (hrest : rest.head?.any isGap = true)
    (hcursor : cursor.rest = front ++ rest)
    (hgap : Gap.read margin false (cursor.skip front.length) = .ok (gap, next)) :
    readOn false margin (fuel + 1) cursor done pending =
      if next.column < margin || next.atDocumentMarker || next.rest.head? == some '#' then
        .ok ⟨done ++ pending.text ++ front, next, gap.broken⟩
      else readOn false margin fuel next (done ++ pending.text ++ front) gap := by
  have hends : endsWord rest = true := by
    cases rest with
    | nil => rfl
    | cons c more => exact hrest
  have hword : word false cursor.rest = .ok front := by
    rw [hcursor]
    exact word_append hfront hlast (word_of_endsWord hends)
  have hend : (cursor.rest.drop front.length).head?.any isGap = true := by
    rw [hcursor, List.drop_left]
    exact hrest
  obtain ⟨c, more, rfl⟩ := List.exists_cons_of_ne_nil hne
  rw [readOn, hword]
  simp only [Cursor.rest_skip, hend, if_true, hgap, Bool.not_false, Bool.true_and]

section Sentence

variable {margin indentation : Nat} {tail : List Char}

/-- The last word of a sentence ends the scalar, as the line below it is left of the margin. -/
theorem readOn_last (hleft : indentation < margin) (htail : tail.head?.any isGap = false)
    {fuel : Nat} {cursor : Cursor} {front done : List Char} {pending : Gap}
    (hfront : ∀ c ∈ front, isGap c = false) (htext : IsSentence front)
    (hcursor : cursor.rest = front ++ '\n' :: (List.replicate indentation ' ' ++ tail)) :
    ∃ next, readOn false margin (fuel + 1) cursor done pending =
        .ok ⟨done ++ pending.text ++ front, next, true⟩ ∧
      next.rest = tail ∧ next.column = indentation := by
  have hlast : front.getLast? ≠ some ':' := by
    rw [← List.append_nil front] at htext
    exact htext.getLast?_ne_colon rfl
  have hskip : (cursor.skip front.length).rest =
      '\n' :: [] ++ (List.replicate indentation ' ' ++ tail) := by simp [hcursor]
  obtain ⟨next, hread, hnext, hcolumn⟩ := Gap.read_breaks margin (by simp; decide) hskip htail
  refine ⟨next, ?_, hnext, hcolumn⟩
  have hfeed : ('\n' :: (List.replicate indentation ' ' ++ tail)).head?.any isGap = true :=
    (by decide : isGap '\n' = true)
  rw [readOn_word htext.ne_nil hfront hlast hfeed hcursor hread]
  simp [hcolumn, hleft]

/-- A word of a sentence with blanks behind it brings the reader to the next word. -/
theorem readOn_blanks {n fuel : Nat} {cursor : Cursor} {front rest done : List Char}
    {pending : Gap} (hne : front ≠ []) (hfront : ∀ c ∈ front, isGap c = false)
    (hlast : front.getLast? ≠ some ':') (hhead : rest.head?.any isGap = false)
    (hsign : rest.head? ≠ some '#') (hleft : margin ≤ cursor.column)
    (hcursor : cursor.rest = front ++ (List.replicate (n + 1) ' ' ++ rest)) :
    ∃ next, readOn false margin (fuel + 1) cursor done pending =
        readOn false margin fuel next (done ++ pending.text ++ front)
          { blanks := List.replicate (n + 1) ' ' } ∧
      next.rest = rest ∧ margin ≤ next.column := by
  have hblank : (List.replicate (n + 1) ' ' ++ rest).head?.any isGap = true :=
    (by decide : isGap ' ' = true)
  have hskip : (cursor.skip front.length).rest = List.replicate (n + 1) ' ' ++ rest := by
    rw [Cursor.rest_skip, hcursor, List.drop_left]
  obtain ⟨next, hread, hnext, hcolumn⟩ := Gap.read_blanks margin hskip hhead
  rw [Cursor.column_skip] at hcolumn
  have hmarker : next.atDocumentMarker = false := Cursor.atDocumentMarker_of_column (by omega)
  refine ⟨next, ?_, hnext, by omega⟩
  rw [readOn_word hne hfront hlast hblank hcursor hread, if_neg]
  simp [hmarker, hnext, hsign]
  omega

/-- The rest of a sentence is taken up to the end of its line. The induction is on what the reader
has not yet passed; `front` is the part of the present word that it has. -/
theorem readOn_sentence (hleft : indentation < margin) (htail : tail.head?.any isGap = false)
    (text : List Char) :
    ∀ {fuel : Nat} {cursor : Cursor} (front done : List Char) (pending : Gap),
      (∀ c ∈ front, isGap c = false) → IsSentence (front ++ text) →
      (front ++ text).length < fuel → margin ≤ cursor.column →
      cursor.rest = front ++ text ++ '\n' :: (List.replicate indentation ' ' ++ tail) →
      ∃ next, readOn false margin fuel cursor done pending =
          .ok ⟨done ++ pending.text ++ (front ++ text), next, true⟩ ∧
        next.rest = tail ∧ next.column = indentation := by
  induction text using run_induction isGap with
  | nil =>
    intro fuel cursor front done pending hfront htext hfuel _ hcursor
    rw [List.append_nil] at htext hfuel hcursor ⊢
    obtain ⟨fuel, rfl⟩ : ∃ less, fuel = less + 1 := ⟨fuel - 1, by omega⟩
    exact readOn_last hleft htail hfront htext hcursor
  | char c text hc ih =>
    intro fuel cursor front done pending hfront htext hfuel hcolumn hcursor
    have hassoc : front ++ c :: text = front ++ [c] ++ text := by simp
    rw [hassoc] at htext hfuel hcursor ⊢
    refine ih (front ++ [c]) done pending ?_ htext hfuel hcolumn hcursor
    intro d hd
    obtain hd | hd := List.mem_append.1 hd
    · exact hfront d hd
    · rw [List.mem_singleton.1 hd]
      exact hc
  | run run text hne hrun hhead ih =>
    intro fuel cursor front done pending hfront htext hfuel hcolumn hcursor
    obtain ⟨fuel, rfl⟩ : ∃ less, fuel = less + 1 := ⟨fuel - 1, by omega⟩
    obtain ⟨n, rfl⟩ := exists_replicate hne fun c hc => htext.blank c (by simp [hc]) (hrun c hc)
    obtain ⟨hfront_ne, hsign, hinner⟩ := htext.of_blanks hhead
    have hlast : front.getLast? ≠ some ':' :=
      htext.getLast?_ne_colon (by decide : isGap ' ' = true)
    have hhead' : ∀ rest, (text ++ rest).head? = text.head? := by
      intro rest
      obtain ⟨d, more, rfl⟩ := List.exists_cons_of_ne_nil hinner.ne_nil
      rfl
    have hcursor' : cursor.rest = front ++ (List.replicate (n + 1) ' ' ++
        (text ++ '\n' :: (List.replicate indentation ' ' ++ tail))) := by simp [hcursor]
    -- The present word ends here, so the reader has nothing of the next one yet.
    obtain ⟨next, hread, hnext, hcolumn'⟩ := readOn_blanks hfront_ne hfront hlast
      (by rwa [hhead']) (by rwa [hhead']) hcolumn hcursor'
    have hfuel' : ([] ++ text).length < fuel := by
      rw [List.length_append, List.length_append] at hfuel
      have hpos := List.length_pos_iff.2 hfront_ne
      rw [List.nil_append]
      omega
    obtain ⟨last, hlast', hend⟩ := ih [] (done ++ pending.text ++ front)
      { blanks := List.replicate (n + 1) ' ' } (fun c hc => absurd hc List.not_mem_nil) hinner
      hfuel' hcolumn' hnext
    refine ⟨last, ?_, hend⟩
    rw [hread, hlast']
    simp [Gap.text]

/-- A sentence is read as it stands if the line below it is left of the margin. -/
theorem read_sentence {text : List Char} {cursor : Cursor} (htext : IsSentence text)
    (hleft : indentation < margin) (hcolumn : margin ≤ cursor.column)
    (htail : tail.head?.any isGap = false)
    (hcursor : cursor.rest = text ++ '\n' :: (List.replicate indentation ' ' ++ tail)) :
    ∃ next, read false margin cursor = .ok ⟨text, next, true⟩ ∧
      next.rest = tail ∧ next.column = indentation := by
  have hfuel : text.length < cursor.rest.length + 1 := by
    rw [hcursor, List.length_append]
    omega
  exact readOn_sentence hleft htail text [] [] {} (fun c hc => absurd hc List.not_mem_nil) htext
    hfuel hcolumn hcursor

end Sentence

/-- A word of letters and digits is a sentence. -/
theorem isSentence_of_isAlphanum {word : List Char} (hne : word ≠ [])
    (hword : ∀ c ∈ word, c.isAlphanum = true) : IsSentence word := by
  have hgap : ∀ c ∈ word, isGap c = false := fun c hc => isGap_of_isAlphanum (hword c hc)
  constructor
  case ne_nil => exact hne
  case blank =>
    intro c hc hblank
    rw [hgap c hc] at hblank
    exact absurd hblank (by decide)
  case head =>
    obtain ⟨c, more, rfl⟩ := List.exists_cons_of_ne_nil hne
    exact hgap c (by simp)
  case last =>
    intro hlast
    have hblank := hgap ' ' (List.mem_of_getLast? hlast)
    exact absurd hblank (by decide)
  case colon =>
    rintro front back rfl
    exact absurd (hword ':' (by simp)) (by decide)
  case hash =>
    rintro front c back rfl
    exact absurd (hword '#' (by simp)) (by decide)

/-- A word in front of a colon that stands alone is read up to the colon. -/
theorem read_key {margin : Nat} {key rest : List Char} {cursor : Cursor} (hne : key ≠ [])
    (hkey : ∀ c ∈ key, isGap c = false) (hlast : key.getLast? ≠ some ':')
    (hrest : endsWord rest = true) (hcursor : cursor.rest = key ++ ':' :: rest) :
    read false margin cursor = .ok ⟨key, cursor.skip key.length, false⟩ := by
  have hword : word false cursor.rest = .ok key := by
    rw [hcursor]
    exact word_append hkey hlast (word_of_colon hrest)
  have hcolon : isGap ':' = false := by decide
  obtain ⟨c, more, rfl⟩ := List.exists_cons_of_ne_nil hne
  rw [read, readOn, hword]
  simp [hcursor, hcolon, Gap.text]

/-! ## Writing -/

section Written

open Written

/-- An indicator inside the end of a text is one inside the text. -/
theorem hasInnerIndicator_append {front text : List Char}
    (h : hasInnerIndicator (front ++ text) = false) : hasInnerIndicator text = false := by
  induction front with
  | nil => exact h
  | cons a front ih =>
    apply ih
    cases hmore : front ++ text with
    | nil => rfl
    | cons b more =>
      rw [List.cons_append, hmore, hasInnerIndicator, Bool.or_eq_false_iff] at h
      exact h.2

variable {text : List Char} (hplain : plainAllowed text = true)
include hplain

/-- A text that may be written plain is one line without an edge and without indicators. -/
theorem plainAllowed_parts :
    hasEdge text = false ∧ (∀ c ∈ text, isPrintable c = true) ∧
      (∀ c ∈ text, isBreak c = false) ∧ startsWithIndicator text = false ∧
      hasInnerIndicator text = false := by
  simp only [plainAllowed, needsEscape, Bool.not_eq_true', Bool.or_eq_false_iff,
    Bool.not_eq_false', List.all_eq_true, List.any_eq_false, Bool.not_eq_true] at hplain
  obtain ⟨⟨⟨⟨⟨hedge, hprint, -⟩, hbreak⟩, -⟩, hstart⟩, hinner⟩ := hplain
  exact ⟨hedge, hprint, hbreak, hstart, hinner⟩

/-- A text that may be written plain is a sentence. -/
theorem isSentence_of_plainAllowed (hne : text ≠ []) : IsSentence text := by
  obtain ⟨hedge, hprint, hbreak, hstart, hinner⟩ := plainAllowed_parts hplain
  have hgap : ∀ c ∈ text, isGap c = (c == ' ') := by
    intro c hc
    rw [isGap_of_isPrintable (hprint c hc), hbreak c hc, Bool.or_false]
  simp only [hasEdge, isSpace, Bool.or_eq_false_iff] at hedge
  constructor
  case ne_nil => exact hne
  case blank =>
    intro c hc hblank
    rw [hgap c hc] at hblank
    exact beq_iff_eq.1 hblank
  case head =>
    cases text with
    | nil => rfl
    | cons c more =>
      have hc := hgap c (by simp)
      simpa [hc, hbreak c (by simp)] using hedge.1
  case last =>
    intro hlast
    simp [hlast] at hedge
  case colon =>
    rintro front back rfl
    obtain rfl | ⟨most, c, rfl⟩ := List.eq_nil_or_concat front
    · rw [List.nil_append, startsWithIndicator, Bool.or_eq_false_iff] at hstart
      simpa using hstart.2
    · rw [List.concat_eq_append, List.append_assoc] at hinner
      have hpair : hasInnerIndicator (c :: ':' :: back) = false :=
        hasInnerIndicator_append hinner
      rw [hasInnerIndicator, Bool.or_eq_false_iff, Bool.or_eq_false_iff] at hpair
      simpa using hpair.1.1
  case hash =>
    rintro front c back rfl
    have hpair := hasInnerIndicator_append hinner
    rw [hasInnerIndicator, Bool.or_eq_false_iff, Bool.or_eq_false_iff] at hpair
    simpa using hpair.1.2

end Written

end SlashChat.Yaml.Plain
