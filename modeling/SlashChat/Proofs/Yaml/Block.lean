import SlashChat.Proofs.Yaml.Layout
import SlashChat.Yaml.Block

/-!
# Reading literal blocks back

A literal block below a key in column 2 has its lines in column 4.  The reader takes the empty lines
in front of the first line (`emptyLines_breaks`), then line after line with the breaks behind it
(`readOn_lines`), and the sign in the header says how many of the last breaks belong to the text.
So a text that is written as a literal block is read as it is (`read_literal`).
-/

set_option autoImplicit false

namespace SlashChat.Yaml.Block

open Written

variable {rest : List Char}

/-! ## Empty lines -/

/-- Of four characters the blanks in front are as many as the indentation has, up to four. -/
theorem taken_blanks {n : Nat} (hn : n = 4 ∨ n < 4 ∧ rest.head? ≠ some ' ') :
    (((List.replicate n ' ' ++ rest).take 4).takeWhile (· == ' ')).length = n := by
  have hblanks : ∀ c ∈ List.replicate n ' ', (c == ' ') = true := by
    intro c hc
    rw [List.eq_of_mem_replicate hc]
    decide
  obtain rfl | ⟨hlt, hhead⟩ := hn
  · rw [List.take_left' List.length_replicate, List.takeWhile_eq_self_iff.2 hblanks,
      List.length_replicate]
  · have hstop : (rest.take (4 - n)).takeWhile (· == ' ') = [] := by
      cases rest with
      | nil => simp
      | cons c more =>
        have hc : (c == ' ') = false := by simpa using hhead
        obtain ⟨k, hk⟩ : ∃ k, 4 - n = k + 1 := ⟨3 - n, by omega⟩
        rw [hk, List.take_succ_cons, List.takeWhile_cons_of_neg (by simp [hc])]
    rw [List.take_append, List.length_replicate, List.take_of_length_le (by simp; omega),
      List.takeWhile_append_of_pos hblanks, hstop, List.append_nil, List.length_replicate]

/-- One round of the reader at the start of a line takes its indentation, and the break if it is
empty. -/
theorem emptyLines_line {n fuel : Nat} {done : Emptied}
    (hn : n = 4 ∨ n < 4 ∧ rest.head? ≠ some ' ') (htab : rest.head? ≠ some '\t')
    (hcolumn : done.cursor.column = 0) (hcursor : done.cursor.rest = List.replicate n ' ' ++ rest) :
    emptyLines (some 4) (fuel + 1) done =
      match (done.cursor.skip n).break? with
      | some (b, cursor) =>
        emptyLines (some 4) fuel ⟨done.breaks ++ [b], cursor, max done.widest n⟩
      | none => .ok ⟨done.breaks, done.cursor.skip n, max done.widest n⟩ := by
  have htaken := taken_blanks hn
  have hskip : (done.cursor.skip n).rest.head? ≠ some '\t' := by
    rw [Cursor.rest_skip, hcursor, List.drop_left' List.length_replicate]
    exact htab
  rw [← hcursor] at htaken
  rw [emptyLines]
  cases hbreak : (done.cursor.skip n).break? <;>
    simp only [hcolumn, Nat.sub_zero, htaken, Cursor.column_skip, Nat.zero_add, hskip, beq_iff_eq,
      Bool.and_eq_true, and_false, if_false, hbreak]

/-- Empty lines are taken with the indentation of the line behind them. -/
theorem emptyLines_breaks {n : Nat} {breaks : List Char}
    (hn : n = 4 ∨ n < 4 ∧ rest.head? ≠ some ' ') (htab : rest.head? ≠ some '\t')
    (hrest : rest.head?.any isBreak = false)
    (hbreaks : ∀ b ∈ breaks, isPrintable b = true ∧ isBreak b = true) :
    ∀ {fuel : Nat} {done : Emptied}, breaks.length < fuel → done.cursor.column = 0 →
      done.cursor.rest = breaks ++ (List.replicate n ' ' ++ rest) →
      ∃ last, emptyLines (some 4) fuel done = .ok last ∧ last.breaks = done.breaks ++ breaks ∧
        last.cursor.rest = rest ∧ last.cursor.column = n := by
  induction breaks with
  | nil =>
    intro fuel done hfuel hcolumn hcursor
    obtain ⟨fuel, rfl⟩ : ∃ less, fuel = less + 1 := ⟨fuel - 1, by omega⟩
    rw [List.nil_append] at hcursor
    have hskip : (done.cursor.skip n).rest = rest := by simp [hcursor]
    have hbreak : (done.cursor.skip n).break? = none :=
      Cursor.break?_of_head (by rw [hskip, hrest])
    refine ⟨⟨done.breaks, done.cursor.skip n, max done.widest n⟩, ?_, by simp, hskip,
      by simp [hcolumn]⟩
    rw [emptyLines_line hn htab hcolumn hcursor, hbreak]
  | cons b more ih =>
    intro fuel done hfuel hcolumn hcursor
    rw [List.length_cons] at hfuel
    obtain ⟨fuel, rfl⟩ : ∃ less, fuel = less + 1 := ⟨fuel - 1, by omega⟩
    obtain ⟨⟨hprint, hbreak⟩, hmore⟩ := List.forall_mem_cons.1 hbreaks
    have hbreak? := Cursor.break?_of_cons hcursor hprint hbreak
    have hblank : b ≠ ' ' := by
      rintro rfl
      exact absurd hbreak (by decide)
    have hnextLine : (done.cursor.nextLine 1).rest = more ++ (List.replicate n ' ' ++ rest) := by
      simp [hcursor]
    obtain ⟨last, hlast, hbreaks', hend⟩ :=
      @ih hmore fuel ⟨done.breaks ++ [b], done.cursor.nextLine 1, max done.widest 0⟩ (by omega)
        (Cursor.column_nextLine _ 1) hnextLine
    refine ⟨last, ?_, by simpa using hbreaks', hend⟩
    rw [emptyLines_line (n := 0) (Or.inr ⟨by decide, by simpa using hblank⟩)
      (by simpa using ne_tab_of_isPrintable hprint) hcolumn hcursor, Cursor.skip_zero, hbreak?]
    exact hlast

/-- The first line of content gives the indentation by which the others are found. -/
theorem emptyLines_first {fuel : Nat} {cursor : Cursor} (hcolumn : cursor.column = 0)
    (hblank : rest.head? ≠ some ' ') (htab : rest.head? ≠ some '\t')
    (hrest : rest.head?.any isBreak = false) (hcursor : cursor.rest = indentation ++ rest) :
    emptyLines none (fuel + 1) ⟨[], cursor, 0⟩ = .ok ⟨[], cursor.skip 4, 4⟩ := by
  have htaken : ((cursor.rest.take cursor.rest.length).takeWhile (· == ' ')).length = 4 := by
    rw [List.take_length, hcursor]
    cases rest with
    | nil => rfl
    | cons c more =>
      have hc : (c == ' ') = false := by simpa using hblank
      simp [indentation, List.takeWhile, hc]
  have hskip : (cursor.skip 4).rest = rest := by simp [hcursor, indentation]
  have hbreak : (cursor.skip 4).break? = none := Cursor.break?_of_head (by rw [hskip, hrest])
  rw [emptyLines]
  simp only [htaken, hskip, htab, hbreak, Option.all_none, Bool.true_and, beq_iff_eq, if_false,
    Cursor.column_skip, hcolumn]
  rfl

/-! ## Lines of content -/

/-- A line that is not indented as far ends the block. -/
theorem readOn_of_column {literal : Bool} {indent fuel : Nat} {cursor : Cursor}
    (hcolumn : cursor.column ≠ indent) (text : List Char) (pending : Pending) :
    readOn literal indent fuel cursor text pending = .ok (text, pending, cursor) := by
  cases fuel with
  | zero => rfl
  | succ fuel => simp [readOn, hcolumn]

/-- One round of the reader takes a line and the breaks behind it. -/
theorem readOn_line {n fuel : Nat} {cursor : Cursor} {line more : List Char} {b : Char}
    (hn : n = 4 ∨ n < 4 ∧ rest.head? ≠ some ' ') (htab : rest.head? ≠ some '\t')
    (hrest : rest.head?.any isBreak = false)
    (hbreaks : ∀ c ∈ b :: more, isPrintable c = true ∧ isBreak c = true)
    (hne : line ≠ []) (hline : ∀ c ∈ line, isBreak c = false) (hcolumn : cursor.column = 4)
    (hcursor : cursor.rest = line ++ (b :: more ++ (List.replicate n ' ' ++ rest)))
    (text : List Char) (pending : Pending) :
    ∃ next blank, readOn true 4 (fuel + 1) cursor text pending =
        readOn true 4 fuel next (text ++ (pending.first.toList ++ pending.more) ++ line)
          ⟨some b, more, blank⟩ ∧
      next.rest = rest ∧ next.column = n := by
  obtain ⟨⟨hprint, hbreak⟩, hmore⟩ := List.forall_mem_cons.1 hbreaks
  have htake : cursor.takeWhile (fun c => !isBreak c) = (line, cursor.skip line.length) := by
    apply Cursor.takeWhile_of_append hcursor
    · intro c hc
      rw [hline c hc, Bool.not_false]
    · simp [hbreak]
  have hskip : (cursor.skip line.length).rest =
      b :: (more ++ (List.replicate n ' ' ++ rest)) := by simp [hcursor]
  have hbreak? := Cursor.break?_of_cons hskip hprint hbreak
  have hnextLine : ((cursor.skip line.length).nextLine 1).rest =
      more ++ (List.replicate n ' ' ++ rest) := by
    rw [Cursor.rest_nextLine, hskip]
    rfl
  have hfuel : more.length < ((cursor.skip line.length).nextLine 1).rest.length + 1 := by
    rw [hnextLine, List.length_append]
    omega
  obtain ⟨last, hlast, hlast_breaks, hend⟩ := @emptyLines_breaks rest n more hn htab hrest hmore _
    ⟨[], (cursor.skip line.length).nextLine 1, 0⟩ hfuel (Cursor.column_nextLine _ 1) hnextLine
  rw [List.nil_append] at hlast_breaks
  have hopen : (cursor.column == 4 && !cursor.rest.isEmpty) = true := by
    obtain ⟨c, line, rfl⟩ := List.exists_cons_of_ne_nil hne
    simp [hcolumn, hcursor]
  refine ⟨last.cursor, cursor.rest.head?.any isBlank, ?_, hend⟩
  rw [readOn, if_pos hopen]
  simp only [htake, hbreak?, hlast, hlast_breaks, Pending.text]
  rfl

/-- A text with something on its first line and on its last one. -/
structure IsFilled (text : List Char) : Prop where
  ne_nil : text ≠ []
  head : text.head?.any isBreak = false
  last : text.getLast?.any isBreak = false

/-- Line breaks stand behind a line, and the text behind them is filled again. -/
theorem IsFilled.of_breaks {front run text : List Char} (h : IsFilled (front ++ (run ++ text)))
    (hrun : ∀ b ∈ run, isBreak b = true) (hne : run ≠ [])
    (hhead : text.head?.any isBreak = false) : front ≠ [] ∧ IsFilled text := by
  have hlast := h.last
  have htext_ne : text ≠ [] := by
    rintro rfl
    rw [List.append_nil, List.getLast?_append_of_ne_nil front hne,
      getLast?_of_breaks hrun hne] at hlast
    exact absurd hlast (by decide)
  have hfront_ne : front ≠ [] := by
    rintro rfl
    obtain ⟨b, more, rfl⟩ := List.exists_cons_of_ne_nil hne
    have hb : isBreak b = false := h.head
    rw [hrun b List.mem_cons_self] at hb
    exact absurd hb (by decide)
  rw [List.getLast?_append_of_ne_nil front (List.append_ne_nil_of_right_ne_nil run htext_ne),
    List.getLast?_append_of_ne_nil run htext_ne] at hlast
  exact ⟨hfront_ne, htext_ne, hhead, hlast⟩

/-- A text that may stand as it is does not start with a tab. -/
theorem head?_ne_tab {text : List Char} (hprint : ∀ c ∈ text, isPrintable c = true) :
    text.head? ≠ some '\t' := by
  intro htab
  exact ne_tab_of_isPrintable (hprint '\t' (List.mem_of_head? htab)) rfl

section Content

variable {n : Nat} {b : Char} {more tail : List Char}

/-- The lines of a filled text are taken up to the breaks at its end. The induction is on what the
reader has not yet passed; `front` is the part of the present line that it has. -/
theorem readOn_lines (hn : n < 4) (htail : tail.head?.any isGap = false)
    (hbreaks : ∀ c ∈ b :: more, isPrintable c = true ∧ isBreak c = true) (text : List Char) :
    ∀ {fuel : Nat} {cursor : Cursor} (front done : List Char) (pending : Pending),
      (∀ c ∈ front, isBreak c = false) → (∀ c ∈ text, isPrintable c = true) →
      IsFilled (front ++ text) → (front ++ text).length ≤ fuel → cursor.column = 4 →
      cursor.rest = front ++ (indented false text ++
        (b :: more ++ (List.replicate n ' ' ++ tail))) →
      ∃ next blank, readOn true 4 fuel cursor done pending =
          .ok (done ++ (pending.first.toList ++ pending.more) ++ (front ++ text),
            ⟨some b, more, blank⟩, next) ∧
        next.rest = tail ∧ next.column = n := by
  obtain ⟨htail_blank, htail_tab, htail_break⟩ := head_of_isGap htail
  induction text using run_induction isBreak with
  | nil =>
    intro fuel cursor front done pending hfront _ hfilled hfuel hcolumn hcursor
    rw [List.append_nil] at hfilled hfuel ⊢
    have hpos := List.length_pos_iff.2 hfilled.ne_nil
    obtain ⟨fuel, rfl⟩ : ∃ less, fuel = less + 1 := ⟨fuel - 1, by omega⟩
    obtain ⟨next, blank, hread, hnext, hcolumn'⟩ := readOn_line (Or.inr ⟨hn, htail_blank⟩)
      htail_tab htail_break hbreaks hfilled.ne_nil hfront hcolumn hcursor done pending
    refine ⟨next, blank, ?_, hnext, hcolumn'⟩
    rw [hread, readOn_of_column (by omega)]
  | char c text hc ih =>
    intro fuel cursor front done pending hfront hprint hfilled hfuel hcolumn hcursor
    have hassoc : front ++ c :: text = front ++ [c] ++ text := by simp
    have hindented : indented false (c :: text) = c :: indented false text := by
      simp [indented, hc]
    rw [hassoc] at hfilled hfuel ⊢
    refine ih (front ++ [c]) done pending ?_ (List.forall_mem_cons.1 hprint).2 hfilled hfuel
      hcolumn (by simp [hcursor, hindented])
    intro d hd
    obtain hd | hd := List.mem_append.1 hd
    · exact hfront d hd
    · rw [List.mem_singleton.1 hd]
      exact hc
  | run run text hne hrun hhead ih =>
    intro fuel cursor front done pending hfront hprint hfilled hfuel hcolumn hcursor
    obtain ⟨hprint_run, hprint_text⟩ := List.forall_mem_append.1 hprint
    obtain ⟨hfront_ne, htext⟩ := hfilled.of_breaks hrun hne hhead
    have hpos := List.length_pos_iff.2 hfront_ne
    rw [List.length_append, List.length_append] at hfuel
    obtain ⟨fuel, rfl⟩ : ∃ less, fuel = less + 1 := ⟨fuel - 1, by omega⟩
    have hfuel' : ([] ++ text).length ≤ fuel := by
      rw [List.nil_append]
      omega
    obtain ⟨d, others, rfl⟩ := List.exists_cons_of_ne_nil hne
    have hrest := head?_indented_append htext.ne_nil hhead
      (b :: more ++ (List.replicate n ' ' ++ tail))
    have hcursor' : cursor.rest = front ++ (d :: others ++ (List.replicate 4 ' ' ++
        (indented false text ++ (b :: more ++ (List.replicate n ' ' ++ tail))))) := by
      rw [hcursor, indented_breaks hrun hne, indented_fresh htext.ne_nil hhead]
      simp [indentation, List.replicate]
    -- The breaks behind the line are pending: they belong to the text once a line follows.
    obtain ⟨next, blank, hread, hnext, hcolumn'⟩ := readOn_line (Or.inl rfl)
      (by rw [hrest]; exact head?_ne_tab hprint_text) (by rwa [hrest])
      (fun c hc => ⟨hprint_run c hc, hrun c hc⟩) hfront_ne hfront hcolumn hcursor' done pending
    obtain ⟨last, blank', hlast, hend⟩ := ih [] _ ⟨some d, others, blank⟩
      (fun c hc => absurd hc List.not_mem_nil) hprint_text htext hfuel' hcolumn' hnext
    refine ⟨last, blank', ?_, hend⟩
    rw [hread, hlast]
    simp

end Content

/-! ## Headers -/

/-- The sign of a header. -/
def Chomping.sign : Chomping → List Char
  | .clip => []
  | .strip => ['-']
  | .keep => ['+']

/-- The signs of a header are read as the chomping they stand for, with the digit if there is one.
-/
theorem signs_sign {cursor : Cursor} (digit : Bool) (chomping : Chomping)
    (hcursor : cursor.rest = (if digit then ['2'] else []) ++ (chomping.sign ++ '\n' :: rest)) :
    ∃ next, signs cursor = .ok (⟨chomping, if digit then some 2 else none⟩, next) ∧
      next.rest = '\n' :: rest := by
  cases digit <;> cases chomping <;> simp [Chomping.sign] at hcursor
  all_goals simp [signs, chomping?, increment?, hcursor]

/-- A header is read to the end of its line. -/
theorem header_sign {cursor : Cursor} (digit : Bool) (chomping : Chomping)
    (hcursor : cursor.rest = (if digit then ['2'] else []) ++ (chomping.sign ++ '\n' :: rest)) :
    ∃ next, header cursor = .ok (⟨chomping, if digit then some 2 else none⟩, next) ∧
      next.rest = rest ∧ next.column = 0 := by
  obtain ⟨next, hsigns, hnext⟩ := signs_sign digit chomping hcursor
  have hblank : next.skipWhile isBlank = next :=
    Cursor.skipWhile_of_head (by rw [hnext]; exact (by decide : isBlank '\n' = false))
  have hbreak := Cursor.break?_of_cons hnext (by decide) (by decide)
  refine ⟨next.nextLine 1, ?_, by simp [hnext], rfl⟩
  simp [header, hsigns, hblank, hnext, hbreak]

/-- What a header has to say of a text that ends in these line breaks. -/
def Chomping.ofEnd (text breaks : List Char) : Chomping :=
  match breaks with
  | [] => .strip
  | [_] => if text.isEmpty then .keep else .clip
  | _ :: _ :: _ => .keep

/-- The sign of a block follows from the line breaks at its end. -/
theorem chompingSign_append {text breaks : List Char} (htext : text.getLast?.any isBreak = false)
    (hbreaks : ∀ b ∈ breaks, isBreak b = true) :
    chompingSign (text ++ breaks) = (Chomping.ofEnd text breaks).sign := by
  rw [← List.head?_reverse] at htext
  unfold chompingSign
  rw [List.reverse_append]
  match breaks with
  | [] =>
    cases hreverse : text.reverse with
    | nil => rfl
    | cons c others =>
      have hc : isBreak c = false := by simpa [hreverse] using htext
      simp [hc, Chomping.ofEnd, Chomping.sign]
  | [b] =>
    have hb : isBreak b = true := hbreaks b List.mem_cons_self
    have hempty : text.isEmpty = text.reverse.isEmpty := by simp
    cases hreverse : text.reverse with
    | nil => simp [hb, Chomping.ofEnd, Chomping.sign, hempty, hreverse]
    | cons c others =>
      have hc : isBreak c = false := by simpa [hreverse] using htext
      simp [hb, hc, Chomping.ofEnd, Chomping.sign, hempty, hreverse]
  | b :: b' :: more =>
    obtain ⟨c, d, others, hreverse⟩ :
        ∃ c d others, (b :: b' :: more).reverse = c :: d :: others := by
      have hlength : (b :: b' :: more).reverse.length = more.length + 2 := by simp
      match hlist : (b :: b' :: more).reverse with
      | [] => simp [hlist] at hlength
      | [c] => simp [hlist] at hlength
      | c :: d :: others => exact ⟨c, d, others, rfl⟩
    have hall : ∀ e ∈ c :: d :: others, isBreak e = true := by
      intro e he
      rw [← hreverse] at he
      exact hbreaks e (List.mem_reverse.1 he)
    have hc := hall c List.mem_cons_self
    have hd := hall d (List.mem_cons_of_mem c List.mem_cons_self)
    simp [hreverse, hc, hd, Chomping.ofEnd, Chomping.sign]

/-- Any text can be taken apart into line breaks and what starts with no line break. -/
theorem exists_lead (text : List Char) :
    ∃ lead back, text = lead ++ back ∧ (∀ b ∈ lead, isBreak b = true) ∧
      back.head?.any isBreak = false := by
  refine ⟨text.takeWhile isBreak, text.dropWhile isBreak,
    List.takeWhile_append_dropWhile.symm, fun b hb => List.mem_takeWhile_imp hb, ?_⟩
  have hhead := List.head?_dropWhile_not isBreak text
  cases hdrop : (text.dropWhile isBreak).head? with
  | none => rfl
  | some c => simpa [hdrop] using hhead

/-- Any text can be taken apart into what ends in no line break and line breaks. -/
theorem exists_end (text : List Char) :
    ∃ front breaks, text = front ++ breaks ∧ front.getLast?.any isBreak = false ∧
      ∀ b ∈ breaks, isBreak b = true := by
  obtain ⟨lead, back, hreverse, hlead, hback⟩ := exists_lead text.reverse
  refine ⟨back.reverse, lead.reverse, ?_, by rwa [List.getLast?_reverse], ?_⟩
  · rw [← List.reverse_append, ← hreverse, List.reverse_reverse]
  · intro b hb
    exact hlead b (List.mem_reverse.1 hb)

/-- A text that ends in no line break can be taken apart into line breaks and a filled text. -/
theorem exists_filled {text : List Char} (hne : text ≠ [])
    (hlast : text.getLast?.any isBreak = false) :
    ∃ lead back, text = lead ++ back ∧ (∀ b ∈ lead, isBreak b = true) ∧ IsFilled back := by
  obtain ⟨lead, back, rfl, hlead, hhead⟩ := exists_lead text
  have hback_ne : back ≠ [] := by
    rintro rfl
    rw [List.append_nil] at hlast hne
    rw [getLast?_of_breaks hlead hne] at hlast
    exact absurd hlast (by decide)
  rw [List.getLast?_append_of_ne_nil lead hback_ne] at hlast
  exact ⟨lead, back, rfl, hlead, hback_ne, hhead, hlast⟩

/-! ## Ends of blocks -/

/-- The line breaks behind the last line of a text that ends in these. -/
def closing (breaks : List Char) : List Char := if breaks.isEmpty then ['\n'] else breaks

/-- A block is closed by the line breaks at its end, or by one of its own. -/
theorem append_eq_closing {front breaks : List Char} (hfront : front.getLast?.any isBreak = false)
    (hbreaks : ∀ b ∈ breaks, isBreak b = true) :
    breaks ++ (if (front ++ breaks).getLast?.any isBreak then [] else ['\n']) =
      closing breaks := by
  obtain rfl | hne := eq_or_ne breaks []
  · simp [hfront, closing]
  · have hlast : (front ++ breaks).getLast?.any isBreak = true := by
      rw [List.getLast?_append_of_ne_nil front hne, getLast?_of_breaks hbreaks hne]
    rw [if_pos hlast, List.append_nil, closing, if_neg (by simpa using hne)]

/-- What closes a block are line breaks that may stand as they are. -/
theorem breaks_closing {breaks : List Char}
    (hbreaks : ∀ b ∈ breaks, isPrintable b = true ∧ isBreak b = true) :
    ∀ b ∈ closing breaks, isPrintable b = true ∧ isBreak b = true := by
  unfold closing
  split
  · intro b hb
    rw [List.mem_singleton.1 hb]
    decide
  · exact hbreaks

/-- The header of a text makes the reader keep what the text ends in. -/
theorem tail_ofEnd {text : List Char} (hne : text ≠ []) (breaks : List Char) :
    ∃ b more, closing breaks = b :: more ∧
      (Chomping.ofEnd text breaks).tail ⟨some b, more, false⟩ = breaks := by
  have hnot_empty : text.isEmpty = false := List.isEmpty_eq_false_iff.2 hne
  cases breaks with
  | nil => exact ⟨'\n', [], rfl, rfl⟩
  | cons b more =>
    refine ⟨b, more, rfl, ?_⟩
    cases more with
    | nil => simp [Chomping.ofEnd, hnot_empty, Chomping.tail]
    | cons b' more => simp [Chomping.ofEnd, Chomping.tail]

/-! ## Whole blocks -/

section Whole

variable {n : Nat} {tail : List Char}

/-- Whether a text starts so that its first line would not show the indentation. -/
def misleads (text : List Char) : Bool := text.head?.any fun c => isSpace c || isBreak c

/-- The indentation that the header says, below a key in column 2. -/
def known (text : List Char) : Option Nat :=
  (if misleads text then some 2 else none).map fun n => 3 - 1 + n

/-- The empty lines in front of a filled text are taken, with the indentation of its first line. -/
theorem emptyLines_start {cursor : Cursor} {lead text : List Char}
    (hlead : ∀ b ∈ lead, isPrintable b = true ∧ isBreak b = true)
    (hprint : ∀ c ∈ text, isPrintable c = true) (htext : IsFilled text) (hcolumn : cursor.column = 0)
    (hcursor : cursor.rest = lead ++ (indentation ++ (indented false text ++ rest))) :
    ∃ done,
      emptyLines (known (lead ++ text)) (cursor.rest.length + 1)
          ⟨[], cursor, 0⟩ = .ok done ∧
        (known (lead ++ text)).getD (max done.widest (max 3 1)) = 4 ∧
        done.breaks = lead ∧ done.cursor.rest = indented false text ++ rest ∧
        done.cursor.column = 4 := by
  have hfirst := head?_indented_append htext.ne_nil htext.head rest
  have htab : (indented false text ++ rest).head? ≠ some '\t' := by
    rw [hfirst]
    exact head?_ne_tab hprint
  have hbreak : (indented false text ++ rest).head?.any isBreak = false := by
    rw [hfirst, htext.head]
  cases hstart : misleads (lead ++ text) with
  | true =>
    have hknown : known (lead ++ text) = some 4 := by simp [known, hstart]
    have hcursor' : cursor.rest =
        lead ++ (List.replicate 4 ' ' ++ (indented false text ++ rest)) := hcursor
    have hfuel : lead.length < cursor.rest.length + 1 := by
      rw [hcursor, List.length_append]
      omega
    obtain ⟨done, hdone, hbreaks, hend⟩ := @emptyLines_breaks _ 4 lead (Or.inl rfl) htab hbreak
      hlead _ ⟨[], cursor, 0⟩ hfuel hcolumn hcursor'
    rw [hknown]
    exact ⟨done, hdone, rfl, hbreaks, hend⟩
  | false =>
    -- The header does not say the indentation, and the first line shows it.
    have hknown : known (lead ++ text) = none := by simp [known, hstart]
    have hlead_nil : lead = [] := by
      cases lead with
      | nil => rfl
      | cons b more => simp [misleads, (hlead b List.mem_cons_self).2] at hstart
    subst hlead_nil
    have hblank : (indented false text ++ rest).head? ≠ some ' ' := by
      rw [hfirst]
      intro hblank
      simp [misleads, hblank, isSpace] at hstart
    rw [hknown]
    exact ⟨⟨[], cursor.skip 4, 4⟩, emptyLines_first hcolumn hblank htab hbreak hcursor, rfl, rfl,
      by simp [hcursor, indentation], by simp [hcolumn]⟩

/-- A block of line breaks alone is read as these. -/
theorem read_breaks {cursor : Cursor} {b : Char} {more : List Char} (hn : n < 4)
    (htail : tail.head?.any isGap = false)
    (hbreaks : ∀ c ∈ b :: more, isPrintable c = true ∧ isBreak c = true)
    (hcursor : cursor.rest = '|' :: '2' :: '+' :: '\n' ::
      (b :: more ++ (List.replicate n ' ' ++ tail))) :
    ∃ next, read true 3 cursor = .ok (b :: more, next) ∧ next.rest = tail ∧ next.column = n := by
  obtain ⟨hblank, htab, hbreak⟩ := head_of_isGap htail
  have hskip : (cursor.skip 1).rest = '2' :: '+' :: '\n' ::
      (b :: more ++ (List.replicate n ' ' ++ tail)) := by simp [hcursor]
  obtain ⟨start, hheader, hstart, hcolumn⟩ := header_sign true .keep hskip
  have hfuel : (b :: more).length < start.rest.length + 1 := by
    rw [hstart, List.length_append]
    omega
  obtain ⟨done, hdone, hdone_breaks, hrest, hcolumn'⟩ := @emptyLines_breaks _ n (b :: more)
    (Or.inr ⟨hn, hblank⟩) htab hbreak hbreaks _ ⟨[], start, 0⟩ hfuel hcolumn hstart
  refine ⟨done.cursor, ?_, hrest, hcolumn'⟩
  have hleft : done.cursor.column ≠ 4 := by omega
  rw [read, hheader]
  simp only [if_true, Option.map_some, Nat.add_one_sub_one, hdone, Option.getD_some]
  rw [readOn_of_column (by omega)]
  simp [hdone_breaks, Chomping.tail]

/-- A block of lines is read as its text, with the empty lines `lead` in front and the breaks that
the header keeps. -/
theorem read_lines {cursor : Cursor} {lead text more : List Char} {b : Char}
    (chomping : Chomping) (hn : n < 4) (htail : tail.head?.any isGap = false)
    (hlead : ∀ c ∈ lead, isPrintable c = true ∧ isBreak c = true)
    (hprint : ∀ c ∈ text, isPrintable c = true) (htext : IsFilled text)
    (hbreaks : ∀ c ∈ b :: more, isPrintable c = true ∧ isBreak c = true)
    (hcursor : cursor.rest = '|' :: (indentationDigit (lead ++ text) ++ (chomping.sign ++ '\n' ::
      (indented true (lead ++ text) ++ (b :: more ++ (List.replicate n ' ' ++ tail)))))) :
    ∃ next, read true 3 cursor =
        .ok (lead ++ text ++ chomping.tail ⟨some b, more, false⟩, next) ∧
      next.rest = tail ∧ next.column = n := by
  have hindented : indented true (lead ++ text) =
      lead ++ (indentation ++ indented false text) := by
    obtain rfl | hlead_ne := eq_or_ne lead []
    · exact indented_fresh htext.ne_nil htext.head
    · rw [indented_breaks (fun c hc => (hlead c hc).2) hlead_ne,
        indented_fresh htext.ne_nil htext.head]
  have hskip : (cursor.skip 1).rest = (if misleads (lead ++ text) then ['2'] else []) ++
      (chomping.sign ++ '\n' :: (lead ++ (indentation ++
        (indented false text ++ (b :: more ++ (List.replicate n ' ' ++ tail)))))) := by
    rw [Cursor.rest_skip, hcursor, hindented, List.append_assoc, List.append_assoc]
    rfl
  obtain ⟨start, hheader, hstart, hcolumn⟩ := header_sign _ chomping hskip
  obtain ⟨done, hdone, hwidth, hdone_breaks, hrest, hcolumn'⟩ :=
    emptyLines_start hlead hprint htext hcolumn hstart
  have hfuel : text.length ≤ done.cursor.rest.length + 1 := by
    have hle := length_le_indented false text
    rw [hrest, List.length_append]
    omega
  obtain ⟨next, blank, hread, hnext⟩ := readOn_lines hn htail hbreaks text [] []
    ⟨none, done.breaks, false⟩ (fun c hc => absurd hc List.not_mem_nil) hprint htext hfuel
    hcolumn' hrest
  refine ⟨next, ?_, hnext⟩
  have htail_blank : chomping.tail ⟨some b, more, blank⟩ = chomping.tail ⟨some b, more, false⟩ := by
    cases chomping <;> rfl
  unfold known at hdone hwidth
  subst hdone_breaks
  rw [read, hheader]
  simp only [hdone, hwidth, hread, htail_blank]
  rfl

/-- A text that is written as a literal block is read as it is. -/
theorem read_literal {cursor : Cursor} {text : List Char} (hn : n < 4)
    (htail : tail.head?.any isGap = false) (hne : text ≠ [])
    (hprint : ∀ c ∈ text, isPrintable c = true)
    (hcursor : cursor.rest = literal text ++
      ((if text.getLast?.any isBreak then [] else ['\n']) ++ (List.replicate n ' ' ++ tail))) :
    ∃ next, read true 3 cursor = .ok (text, next) ∧ next.rest = tail ∧ next.column = n := by
  obtain ⟨front, breaks, rfl, hfront, hbreaks⟩ := exists_end text
  obtain ⟨hprint_front, hprint_breaks⟩ := List.forall_mem_append.1 hprint
  have hbreaks' : ∀ c ∈ breaks, isPrintable c = true ∧ isBreak c = true :=
    fun c hc => ⟨hprint_breaks c hc, hbreaks c hc⟩
  rw [literal, chompingSign_append hfront hbreaks, indented_append_breaks hbreaks] at hcursor
  obtain rfl | hfront_ne := eq_or_ne front []
  · obtain ⟨b, more, rfl⟩ := List.exists_cons_of_ne_nil hne
    have hdigit : indentationDigit (b :: more) = ['2'] := by
      simp [indentationDigit, hbreaks b List.mem_cons_self]
    have hsign : (Chomping.ofEnd [] (b :: more)).sign = ['+'] := by
      cases more <;> rfl
    have hlast : (b :: more).getLast?.any isBreak = true :=
      getLast?_of_breaks hbreaks (List.cons_ne_nil b more)
    refine read_breaks hn htail hbreaks' ?_
    rw [hcursor, List.nil_append, hdigit, hsign, if_pos hlast]
    simp [indented]
  · obtain ⟨b, more, hclosing, hkept⟩ := tail_ofEnd hfront_ne breaks
    have hclosing_breaks := breaks_closing hbreaks'
    have hend := append_eq_closing hfront hbreaks
    rw [hclosing] at hclosing_breaks hend
    have hdigit : indentationDigit (front ++ breaks) = indentationDigit front := by
      obtain ⟨c, others, rfl⟩ := List.exists_cons_of_ne_nil hfront_ne
      rfl
    obtain ⟨lead, text, rfl, hlead, htext⟩ := exists_filled hfront_ne hfront
    obtain ⟨hprint_lead, hprint_text⟩ := List.forall_mem_append.1 hprint_front
    have hcursor' : cursor.rest = '|' :: (indentationDigit (lead ++ text) ++
        ((Chomping.ofEnd (lead ++ text) breaks).sign ++ '\n' ::
          (indented true (lead ++ text) ++ (b :: more ++ (List.replicate n ' ' ++ tail))))) := by
      rw [hcursor, hdigit, ← hend]
      simp only [List.cons_append, List.append_assoc]
    obtain ⟨next, hread, hnext⟩ := read_lines _ hn htail
      (fun c hc => ⟨hprint_lead c hc, hlead c hc⟩) hprint_text htext hclosing_breaks hcursor'
    refine ⟨next, ?_, hnext⟩
    rw [hread, hkept]

end Whole

end SlashChat.Yaml.Block
