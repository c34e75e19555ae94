import SlashChat.Proofs.Yaml.Cursor
import SlashChat.Yaml.Gap

/-!
# Laws of gaps

A gap within a line is read as its blanks (`Gap.read_blanks`).  A gap of line breaks, with the
indentation of the line behind them, is read as the breaks (`Gap.read_breaks`).
-/

set_option autoImplicit false

namespace SlashChat.Yaml.Gap

variable (margin : Nat) {rest : List Char}

/-- A gap ends in front of what is no gap. -/
theorem readOn_of_head {fuel : Nat} {cursor : Cursor} (gap : Gap)
    (hhead : cursor.rest.head?.any isGap = false) :
    readOn margin fuel cursor gap = .ok (gap, cursor) := by
  cases fuel with
  | zero => rfl
  | succ fuel =>
    unfold readOn
    split
    · rfl
    · rename_i c more heq
      have hc : isGap c = false := by simpa [heq] using hhead
      rw [isGap, Bool.or_eq_false_iff] at hc
      have hbreak : cursor.break? = none := Cursor.break?_of_head (by simpa [heq] using hc.2)
      simp [hc.1, hbreak]

/-- Blanks are added to a gap, unless a line break is in it already. -/
theorem readOn_blanks (hrest : rest.head?.any isGap = false) (n : Nat) :
    ∀ {fuel : Nat} {cursor : Cursor} (gap : Gap), n ≤ fuel →
      cursor.rest = List.replicate n ' ' ++ rest →
      ∃ next, readOn margin fuel cursor gap =
          .ok (if gap.broken then gap
            else { gap with blanks := gap.blanks ++ List.replicate n ' ' }, next) ∧
        next.rest = rest ∧ next.column = cursor.column + n := by
  induction n with
  | zero =>
    intro fuel cursor gap _ hcursor
    rw [List.replicate_zero, List.nil_append] at hcursor
    refine ⟨cursor, ?_, hcursor, rfl⟩
    rw [readOn_of_head margin gap (by rw [hcursor]; exact hrest)]
    simp
  | succ n ih =>
    intro fuel cursor gap hfuel hcursor
    rw [List.replicate_succ, List.cons_append] at hcursor
    obtain ⟨fuel, rfl⟩ : ∃ less, fuel = less + 1 := ⟨fuel - 1, by omega⟩
    have hskip : (cursor.skip 1).rest = List.replicate n ' ' ++ rest := by simp [hcursor]
    have hblank : isBlank ' ' = true := by decide
    cases hbroken : gap.broken with
    | true =>
      obtain ⟨next, hread, hnext, hcolumn⟩ := ih gap (by omega : n ≤ fuel) hskip
      refine ⟨next, ?_, hnext, by rw [hcolumn, Cursor.column_skip]; omega⟩
      rw [hbroken] at hread
      simpa [readOn, hcursor, hblank, hbroken] using hread
    | false =>
      obtain ⟨next, hread, hnext, hcolumn⟩ :=
        ih { gap with blanks := gap.blanks ++ [' '] } (by omega : n ≤ fuel) hskip
      refine ⟨next, ?_, hnext, by rw [hcolumn, Cursor.column_skip]; omega⟩
      simpa [readOn, hcursor, hblank, hbroken, List.replicate_succ] using hread

/-- The rest of a gap over lines is read as its breaks, and an indentation is left out. -/
theorem readOn_breaks {indentation : Nat} {breaks : List Char}
    (hrest : rest.head?.any isGap = false)
    (hbreaks : ∀ b ∈ breaks, isPrintable b = true ∧ isBreak b = true) :
    ∀ {fuel : Nat} {cursor : Cursor} (gap : Gap), gap.broken = true →
      (breaks = [] → cursor.column = 0) → breaks.length + indentation ≤ fuel →
      cursor.rest = breaks ++ (List.replicate indentation ' ' ++ rest) →
      ∃ next, readOn margin fuel cursor gap =
          .ok ({ gap with more := gap.more ++ breaks }, next) ∧
        next.rest = rest ∧ next.column = indentation := by
  induction breaks with
  | nil =>
    intro fuel cursor gap hbroken hcolumn hfuel hcursor
    rw [List.length_nil, Nat.zero_add] at hfuel
    obtain ⟨next, hread, hnext, hcolumn'⟩ := readOn_blanks margin hrest indentation gap hfuel hcursor
    refine ⟨next, ?_, hnext, by rw [hcolumn', hcolumn rfl, Nat.zero_add]⟩
    rw [hread, if_pos hbroken, List.append_nil]
  | cons b more ih =>
    intro fuel cursor gap hbroken _ hfuel hcursor
    rw [List.length_cons] at hfuel
    obtain ⟨fuel, rfl⟩ : ∃ less, fuel = less + 1 := ⟨fuel - 1, by omega⟩
    obtain ⟨⟨hprint, hbreak⟩, hmore⟩ := List.forall_mem_cons.1 hbreaks
    have hnextLine : (cursor.nextLine 1).rest =
        more ++ (List.replicate indentation ' ' ++ rest) := by simp [hcursor]
    obtain ⟨next, hread, hnext, hcolumn⟩ := ih hmore { gap with more := gap.more ++ [b] } hbroken
      (fun _ => Cursor.column_nextLine cursor 1) (by omega : more.length + indentation ≤ fuel)
      hnextLine
    refine ⟨next, ?_, hnext, hcolumn⟩
    have hbreak? := Cursor.break?_of_cons hcursor hprint hbreak
    have hblank := isBlank_of_isBreak hprint hbreak
    simpa [readOn, hcursor, hblank, hbreak?, hbroken] using hread

/-- A gap within a line is read as its blanks. -/
theorem read_blanks {n : Nat} {cursor : Cursor}
    (hcursor : cursor.rest = List.replicate n ' ' ++ rest)
    (hrest : rest.head?.any isGap = false) :
    ∃ next, read margin false cursor = .ok ({ blanks := List.replicate n ' ' }, next) ∧
      next.rest = rest ∧ next.column = cursor.column + n := by
  have hfuel : n ≤ cursor.rest.length := by simp [hcursor]
  simpa [read] using readOn_blanks margin hrest n {} hfuel hcursor

/-- A gap of line breaks is read as the breaks, without the indentation of the line behind them. -/
theorem read_breaks {indentation : Nat} {b : Char} {more : List Char} {cursor : Cursor}
    (hbreaks : ∀ c ∈ b :: more, isPrintable c = true ∧ isBreak c = true)
    (hcursor : cursor.rest = b :: more ++ (List.replicate indentation ' ' ++ rest))
    (hrest : rest.head?.any isGap = false) :
    ∃ next, read margin false cursor =
        .ok ({ broken := true, first := some b, more }, next) ∧
      next.rest = rest ∧ next.column = indentation := by
  obtain ⟨⟨hprint, hbreak⟩, hmore⟩ := List.forall_mem_cons.1 hbreaks
  have hlength : cursor.rest.length = more.length + indentation + rest.length + 1 := by
    simp [hcursor]
    omega
  have hnextLine : (cursor.nextLine 1).rest =
      more ++ (List.replicate indentation ' ' ++ rest) := by simp [hcursor]
  obtain ⟨next, hread, hnext, hcolumn⟩ := readOn_breaks margin hrest hmore
    { broken := true, first := some b } rfl (fun _ => Cursor.column_nextLine cursor 1)
    (Nat.le_add_right (more.length + indentation) rest.length) hnextLine
  refine ⟨next, ?_, hnext, hcolumn⟩
  have hbreak? := Cursor.break?_of_cons hcursor hprint hbreak
  have hblank := isBlank_of_isBreak hprint hbreak
  rw [read, hlength]
  simpa [readOn, hcursor, hblank, hbreak?] using hread

end SlashChat.Yaml.Gap
