import SlashChat.Proofs.Yaml.Scalar

/-!
# Block mappings as rows

A block mapping is laid out as rows: a key in a column, and behind its colon a written scalar or,
further right on the rows below, the entries of a mapping.  Each row is read in two or three rounds
of the lexer, whatever block collections are open (`run_row`), so the tokens of a whole text are
those that its rows add one after the other (`tokens_rows`).
-/

set_option autoImplicit false

namespace SlashChat.Yaml

open Lexer

/-- A scalar as a value: what it says, and how it is written up to the end of its last line. -/
structure Leaf where
  style : ScalarStyle
  text : List Char
  written : List Char

/-- A key in a column, with a scalar or with entries on the rows below. -/
structure Row where
  column : Nat
  key : List Char
  leaf : Option Leaf

namespace Row

/-- A row behind its indentation. -/
def line (row : Row) : List Char :=
  row.key ++ ':' :: match row.leaf with
    | none => ['\n']
    | some leaf => ' ' :: leaf.written

/-- A row as it is written. -/
def write (row : Row) : List Char := List.replicate row.column ' ' ++ row.line

/-- The tokens that a row adds. -/
def put (lexer : Lexer) (row : Row) : Lexer :=
  let lexer := (lexer.dedent (row.column + 1)).keyed row.column row.key
  match row.leaf with
  | none => lexer
  | some leaf => lexer.push (.scalar leaf.style (String.ofList leaf.text))

/-- How many rounds the lexer takes for a row. -/
def rounds (row : Row) : Nat :=
  match row.leaf with
  | none => 2
  | some _ => 3

/-- The column of the first row; no column is left of the end. -/
def columnOf : List Row → Nat
  | [] => 0
  | row :: _ => row.column

/-- The rows from the first key on. -/
def beyond : List Row → List Char
  | [] => []
  | row :: rows => row.line ++ rows.flatMap write

/-- Rows are written behind the indentation of the first. -/
theorem flatMap_write (rows : List Row) :
    rows.flatMap write = List.replicate (columnOf rows) ' ' ++ beyond rows := by
  cases rows with
  | nil => rfl
  | cons row rows => rw [List.flatMap_cons, write, List.append_assoc]; rfl

/-- A row whose key can be found and whose scalar stands for its text. -/
structure IsSound (row : Row) : Prop where
  key : IsKey row.key
  leaf : ∀ leaf, row.leaf = some leaf →
    Stands (row.column + 1) leaf.style leaf.text leaf.written ∧
      ∀ c ∈ leaf.written, isPrintable c = true

/-- Rows that are sound, where no row below a scalar is further right. -/
def Laid : List Row → Prop
  | [] => True
  | row :: rows =>
    row.IsSound ∧ (row.leaf.isSome = true → columnOf rows ≤ row.column) ∧ Laid rows

/-- Behind their indentation laid rows start with a letter or digit. -/
theorem isAlphanum_beyond {rows : List Row} (hrows : Laid rows) :
    (beyond rows).head?.all Char.isAlphanum = true := by
  cases rows with
  | nil => rfl
  | cons row rows =>
    obtain ⟨c, more, hkey⟩ := List.exists_cons_of_ne_nil hrows.1.key.ne_nil
    have hc : c.isAlphanum = true := hrows.1.key.word c (by rw [hkey]; exact List.mem_cons_self)
    simp [beyond, line, hkey, hc]

/-! ## Reading rows -/

/-- The tokens that a row adds do not depend on where the lexer is. -/
theorem put_moved (lexer : Lexer) (cursor : Cursor) (keyAllowed : Bool) (row : Row) :
    put (lexer.moved cursor keyAllowed) row = (put lexer row).moved cursor keyAllowed := by
  unfold put
  rw [dedent_moved, keyed_moved]
  cases row.leaf <;> rfl

/-- The tokens that rows add do not depend on where the lexer is. -/
theorem foldl_put_moved (lexer : Lexer) (cursor : Cursor) (keyAllowed : Bool) (rows : List Row) :
    rows.foldl put (lexer.moved cursor keyAllowed) =
      (rows.foldl put lexer).moved cursor keyAllowed := by
  induction rows generalizing lexer with
  | nil => rfl
  | cons row rows ih => rw [List.foldl_cons, put_moved, ih, List.foldl_cons]

/-- A lexer at rest is at rest again behind a row. -/
theorem isAtRest_put {lexer : Lexer} (h : lexer.IsAtRest) (row : Row) :
    (put lexer row).IsAtRest := by
  have hkeyed := (h.dedent (row.column + 1)).keyed row.column row.key
  unfold put
  cases row.leaf with
  | none => exact hkeyed
  | some leaf => exact hkeyed.push _

/-- A lexer at rest is at rest again behind rows. -/
theorem isAtRest_foldl_put {lexer : Lexer} (h : lexer.IsAtRest) (rows : List Row) :
    (rows.foldl put lexer).IsAtRest := by
  induction rows generalizing lexer with
  | nil => exact h
  | cons row rows ih => exact ih (isAtRest_put h row)

/-- A row keeps the margins nested. -/
theorem nested_put {lexer : Lexer} (h : lexer.IsAtRest)
    (hnested : Nested lexer.margin lexer.margins) (row : Row) :
    Nested (put lexer row).margin (put lexer row).margins := by
  have hkeyed := nested_keyed row.column row.key (nested_dedent h hnested (row.column + 1)).2
  unfold put
  cases row.leaf <;> exact hkeyed

/-- One row is read in its rounds, in front of a row that starts with a letter or digit or of the
end. -/
theorem run_row {lexer : Lexer} {row : Row} {column : Nat} {tail : List Char}
    (hrest : lexer.IsAtRest) (hnested : Nested lexer.margin lexer.margins) (hrow : row.IsSound)
    (hcolumn : row.leaf.isSome = true → column ≤ row.column)
    (htail : tail.head?.all Char.isAlphanum = true)
    (hawaits : Awaits lexer.cursor lexer.keyAllowed row.column
      (row.line ++ (List.replicate column ' ' ++ tail))) :
    ∃ next keyAllowed,
      (∀ fuel, run (fuel + row.rounds) lexer = run fuel ((put lexer row).moved next keyAllowed)) ∧
      Awaits next keyAllowed column tail := by
  have hdedent := hrest.dedent (row.column + 1)
  have hmargin := (nested_dedent hrest hnested (row.column + 1)).1
  cases hleaf : row.leaf with
  | none =>
    have hline : row.line ++ (List.replicate column ' ' ++ tail) =
        row.key ++ ':' :: '\n' :: (List.replicate column ' ' ++ tail) := by simp [line, hleaf]
    rw [hline] at hawaits
    have hfeed : endsWord ('\n' :: (List.replicate column ' ' ++ tail)) = true :=
      (by decide : isGap '\n' = true)
    obtain ⟨next, hrun, hnext, -⟩ := run_key hrest hrow.key hfeed hmargin hawaits
    refine ⟨next, false, ?_, Or.inr hnext⟩
    intro fuel
    simp only [rounds, put, hleaf]
    exact hrun fuel
  | some leaf =>
    obtain ⟨hstands, -⟩ := hrow.leaf leaf hleaf
    have hline : row.line ++ (List.replicate column ' ' ++ tail) = row.key ++ ':' ::
        (' ' :: (leaf.written ++ (List.replicate column ' ' ++ tail))) := by simp [line, hleaf]
    rw [hline] at hawaits
    have hblank : endsWord (' ' :: (leaf.written ++ (List.replicate column ' ' ++ tail))) = true :=
      (by decide : isGap ' ' = true)
    obtain ⟨next, hrun, hnext, hnext_column⟩ := run_key hrest hrow.key hblank hmargin hawaits
    have hkeyed := (hdedent.keyed row.column row.key).moved next false
    have hkeyed_margin : (((lexer.dedent (row.column + 1)).keyed row.column row.key).moved next
        false).margin = row.column + 1 := margin_keyed hdedent hmargin row.key
    have hcolumn' : column ≤ row.column := hcolumn (by rw [hleaf]; rfl)
    obtain ⟨last, keyAllowed, hrun', hlast⟩ := run_value hstands hkeyed rfl hkeyed_margin
      hnext_column (Nat.lt_succ_of_le hcolumn') htail hnext
    refine ⟨last, keyAllowed, ?_, hlast⟩
    intro fuel
    have hthree := hrun (fuel + 1)
    rw [hrun' fuel] at hthree
    simp only [rounds, put, hleaf]
    exact hthree

/-- The lexer reads laid rows in their rounds, adds their tokens and comes to the end of the text.
-/
theorem run_rows (rows : List Row) :
    ∀ {lexer : Lexer}, lexer.IsAtRest → Nested lexer.margin lexer.margins → Laid rows →
      Awaits lexer.cursor lexer.keyAllowed (columnOf rows) (beyond rows) →
      ∃ next keyAllowed,
        (∀ fuel, run (fuel + (rows.map rounds).sum) lexer =
          run fuel ((rows.foldl put lexer).moved next keyAllowed)) ∧
        Awaits next keyAllowed 0 [] := by
  induction rows with
  | nil =>
    intro lexer _ _ _ hawaits
    exact ⟨lexer.cursor, lexer.keyAllowed, fun fuel => rfl, hawaits⟩
  | cons row rows ih =>
    intro lexer hlexer hnested hrows hawaits
    obtain ⟨hrow, hcolumn, hrows⟩ := hrows
    rw [columnOf, beyond, flatMap_write] at hawaits
    obtain ⟨next, keyAllowed, hrun, hnext⟩ :=
      run_row hlexer hnested hrow hcolumn (isAlphanum_beyond hrows) hawaits
    obtain ⟨last, lastAllowed, hrun', hlast⟩ := ih ((isAtRest_put hlexer row).moved next keyAllowed)
      (nested_put hlexer hnested row) hrows hnext
    refine ⟨last, lastAllowed, ?_, hlast⟩
    intro fuel
    calc run (fuel + ((row :: rows).map rounds).sum) lexer
        = run (fuel + (rows.map rounds).sum + row.rounds) lexer := by
          rw [List.map_cons, List.sum_cons, Nat.add_comm row.rounds, Nat.add_assoc]
      _ = run (fuel + (rows.map rounds).sum) ((put lexer row).moved next keyAllowed) := hrun _
      _ = run fuel ((rows.foldl put ((put lexer row).moved next keyAllowed)).moved last
            lastAllowed) := hrun' fuel
      _ = run fuel (((row :: rows).foldl put lexer).moved last lastAllowed) := by
          rw [foldl_put_moved, moved_moved, List.foldl_cons]

/-- Behind the last row all block collections are closed. -/
theorem run_end {lexer : Lexer} (hlexer : lexer.IsAtRest)
    (hawaits : Awaits lexer.cursor lexer.keyAllowed 0 []) (fuel : Nat) :
    run (fuel + 1) lexer = { tokens := ((lexer.dedent 1).dedent 0).tokens.reverse } := by
  obtain ⟨next, hplace, hnext, hcolumn⟩ := nextPlace_of_awaits hawaits rfl
  have hadvance := advance_of_nextPlace hlexer.outer (by rw [hlexer.place]; rfl) hplace
  rw [hcolumn, dedent_moved] at hadvance
  have hclosed : ((lexer.dedent 1).moved next true).cursor.rest = [] := hnext
  have hall := (hlexer.dedent 1).dedent 0
  have hclose : ((lexer.dedent 1).moved next true).close =
      .ok ((lexer.dedent 1).dedent 0).tokens.reverse := by
    have hmoved := hall.moved next true
    rw [close, dedent_moved]
    simp [dropPlace, hmoved.place, hmoved.outer, bind, Except.bind, pure, Except.pure]
  rw [run, hadvance]
  simp only [hclosed, hclose]

/-- The tokens that rows add to none. -/
def tokensOf (rows : List Row) : List Token :=
  (((rows.foldl put { cursor := { rest := [] } }).dedent 1).dedent 0).tokens.reverse

/-- A row has at least as many characters as it takes rounds. -/
theorem rounds_le_length {row : Row} (hrow : row.IsSound) : row.rounds ≤ row.write.length := by
  have hpos := List.length_pos_iff.2 hrow.key.ne_nil
  unfold rounds write line
  cases row.leaf with
  | none =>
    simp
    omega
  | some leaf =>
    simp
    omega

/-- Rows have at least as many characters as they take rounds. -/
theorem sum_rounds_le {rows : List Row} (hrows : Laid rows) :
    (rows.map rounds).sum ≤ (rows.flatMap write).length := by
  induction rows with
  | nil => exact Nat.le_refl _
  | cons row rows ih =>
    have hrow := rounds_le_length hrows.1
    have hrest := ih hrows.2.2
    rw [List.map_cons, List.sum_cons, List.flatMap_cons, List.length_append]
    omega

/-- A sound row holds only what may stand as it is. -/
theorem printable_write {row : Row} (hrow : row.IsSound) :
    ∀ c ∈ row.write, isPrintable c = true := by
  have hindentation : ∀ c ∈ List.replicate row.column ' ', isPrintable c = true := by
    intro c hc
    rw [List.eq_of_mem_replicate hc]
    decide
  have hkey : ∀ c ∈ row.key, isPrintable c = true :=
    fun c hc => isPrintable_of_isAlphanum (hrow.key.word c hc)
  refine List.forall_mem_append.2 ⟨hindentation, List.forall_mem_append.2 ⟨hkey, ?_⟩⟩
  refine List.forall_mem_cons.2 ⟨by decide, ?_⟩
  cases hleaf : row.leaf with
  | none => exact List.forall_mem_singleton.2 (by decide)
  | some leaf => exact List.forall_mem_cons.2 ⟨by decide, (hrow.leaf leaf hleaf).2⟩

/-- All that laid rows hold may be read. -/
theorem isReadable_write {rows : List Row} (hrows : Laid rows) :
    (rows.flatMap write).all isReadable = true := by
  rw [List.all_eq_true]
  induction rows with
  | nil => exact fun c hc => absurd hc List.not_mem_nil
  | cons row rows ih =>
    rw [List.flatMap_cons]
    refine List.forall_mem_append.2 ⟨?_, ih hrows.2.2⟩
    exact fun c hc => isReadable_of_isPrintable (printable_write hrows.1 c hc)

/-- The tokens of a text of rows are those that its rows add. -/
theorem tokens_rows {rows : List Row} (hrows : Laid rows) (hcolumn : columnOf rows = 0) :
    tokens (String.ofList (rows.flatMap write)) = { tokens := tokensOf rows } := by
  let start : Lexer := { cursor := { rest := [] } }
  have hstart : (start.moved { rest := rows.flatMap write } true).IsAtRest := ⟨rfl, rfl⟩
  have hawaits : Awaits { rest := rows.flatMap write } true (columnOf rows) (beyond rows) := by
    refine Or.inl ⟨?_, hcolumn.symm, rfl⟩
    rw [flatMap_write, hcolumn]
    rfl
  obtain ⟨next, keyAllowed, hrun, hnext⟩ := run_rows rows hstart rfl hrows hawaits
  have hrest := isAtRest_foldl_put hstart rows
  have hle := sum_rounds_le hrows
  obtain ⟨fuel, hfuel⟩ : ∃ fuel, (rows.flatMap write).length + 1 =
      fuel + 1 + (rows.map rounds).sum :=
    ⟨(rows.flatMap write).length - (rows.map rounds).sum, by omega⟩
  have htext : tokens (String.ofList (rows.flatMap write)) =
      run ((rows.flatMap write).length + 1) (start.moved { rest := rows.flatMap write } true) := by
    rw [tokens, String.toList_ofList, if_pos (isReadable_write hrows)]
    rfl
  rw [htext, hfuel, hrun, run_end (hrest.moved next keyAllowed) hnext, foldl_put_moved,
    moved_moved, dedent_moved, dedent_moved]
  rfl

end Row

end SlashChat.Yaml
