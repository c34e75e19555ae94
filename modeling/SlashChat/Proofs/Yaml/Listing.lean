import SlashChat.Proofs.Yaml.Parse
import SlashChat.Proofs.Yaml.Row

/-!
# Reading block mappings back

A listing is a block mapping of scalars and of block mappings.  Laid out as rows with two more
blanks a level, it has its own tokens (`tokensOf_rows`), and these are read as its entries
(`run_blockEntries_listing`).  So its text is a document without a fault whose root is the mapping
(`ofText_write`).
-/

set_option autoImplicit false

namespace SlashChat.Yaml

open Lexer

/-- The entries of a block mapping whose keys are plain, in order. -/
inductive Listing
  | nil
  | scalar (key : List Char) (leaf : Leaf) (rest : Listing)
  | mapping (key : List Char) (inner rest : Listing)

namespace Listing

/-- The tokens of the entries. -/
def tokens : Listing → List Token
  | nil => []
  | scalar key leaf rest =>
    .key :: .scalar .plain (String.ofList key) :: .value ::
      .scalar leaf.style (String.ofList leaf.text) :: rest.tokens
  | mapping key inner rest =>
    .key :: .scalar .plain (String.ofList key) :: .value :: .blockMapping ::
      (inner.tokens ++ .blockEnd :: rest.tokens)

/-- The entries as pairs of nodes. -/
def entries : Listing → List (Node × Node)
  | nil => []
  | scalar key leaf rest =>
    (.scalar none .plain (String.ofList key),
      .scalar none leaf.style (String.ofList leaf.text)) :: rest.entries
  | mapping key inner rest =>
    (.scalar none .plain (String.ofList key), .mapping inner.entries) :: rest.entries

/-- The entries as rows, the outer ones in this column. -/
def rows (column : Nat) : Listing → List Row
  | nil => []
  | scalar key leaf rest => ⟨column, key, some leaf⟩ :: rest.rows column
  | mapping key inner rest =>
    ⟨column, key, none⟩ :: (inner.rows (column + 2) ++ rest.rows column)

/-- The text of the entries. -/
def write (listing : Listing) : String := String.ofList ((listing.rows 0).flatMap Row.write)

/-- Whether the keys can be found, the scalars stand for their texts, and no inner mapping is
empty. -/
def IsSound (column : Nat) : Listing → Prop
  | nil => True
  | scalar key leaf rest => (Row.mk column key (some leaf)).IsSound ∧ rest.IsSound column
  | mapping key inner rest =>
    IsKey key ∧ inner ≠ nil ∧ inner.IsSound (column + 2) ∧ rest.IsSound column

/-! ## Rows -/

/-- The rows of a listing start in its column, or where what follows starts. -/
theorem columnOf_rows {column : Nat} {listing : Listing} {more : List Row}
    (hmore : Row.columnOf more ≤ column) :
    Row.columnOf (listing.rows column ++ more) ≤ column := by
  cases listing with
  | nil => exact hmore
  | scalar key leaf rest => exact Nat.le_refl column
  | mapping key inner rest => exact Nat.le_refl column

/-- The rows of a sound listing are laid in front of rows that are not further right. -/
theorem laid_rows {listing : Listing} {column : Nat} (hsound : listing.IsSound column)
    {more : List Row} (hlaid : Row.Laid more) (hmore : Row.columnOf more ≤ column) :
    Row.Laid (listing.rows column ++ more) := by
  induction listing generalizing column more with
  | nil => exact hlaid
  | scalar key leaf rest ih =>
    obtain ⟨hrow, hrest⟩ := hsound
    exact ⟨hrow, fun _ => columnOf_rows hmore, ih hrest hlaid hmore⟩
  | mapping key inner rest ih_inner ih =>
    obtain ⟨hkey, -, hinner, hrest⟩ := hsound
    have hrow : (Row.mk column key none).IsSound :=
      ⟨hkey, fun leaf hleaf => by cases hleaf⟩
    have hbelow : Row.columnOf (rest.rows column ++ more) ≤ column + 2 :=
      Nat.le_trans (columnOf_rows hmore) (Nat.le_add_right column 2)
    have htail := ih_inner hinner (ih hrest hlaid hmore) hbelow
    rw [rows, List.cons_append, List.append_assoc]
    exact ⟨hrow, fun hleaf => absurd hleaf Bool.false_ne_true, htail⟩

/-! ## Tokens -/

/-- A lexer with more tokens. -/
def added (lexer : Lexer) (tokens : List Token) : Lexer :=
  { lexer with tokens := tokens.reverse ++ lexer.tokens }

/-- A lexer behind the token that opens a block mapping in a column. -/
def opened (lexer : Lexer) (column : Nat) : Lexer :=
  { lexer.push .blockMapping with margin := column + 1, margins := lexer.margin :: lexer.margins }

/-- Opening a block mapping leaves a lexer at rest. -/
theorem isAtRest_opened {lexer : Lexer} (hlexer : lexer.IsAtRest) (column : Nat) :
    (opened lexer column).IsAtRest :=
  ⟨hlexer.place, hlexer.outer⟩

/-- Tokens added in two parts are added together. -/
theorem added_added (lexer : Lexer) (tokens more : List Token) :
    added (added lexer tokens) more = added lexer (tokens ++ more) := by
  simp [added]

/-- In an open block mapping a key adds its own tokens only. -/
theorem keyed_of_margin {lexer : Lexer} {column : Nat} (hmargin : lexer.margin = column + 1)
    (key : List Char) :
    lexer.keyed column key =
      added lexer [.key, .scalar .plain (String.ofList key), .value] := by
  have hclosed : (!lexer.inFlow && decide (lexer.margin ≤ column)) = false := by
    simp [hmargin]
  rw [keyed, indent, hclosed, if_neg (by decide)]
  rfl

/-- Right of the margin a key opens a block mapping first. -/
theorem keyed_of_margin_le {lexer : Lexer} {column : Nat} (hlexer : lexer.IsAtRest)
    (hmargin : lexer.margin ≤ column) (key : List Char) :
    lexer.keyed column key = (opened lexer column).keyed column key := by
  have hopen : (!lexer.inFlow && decide (lexer.margin ≤ column)) = true := by
    simp [hlexer.inFlow, hmargin]
  have hmargin' : (opened lexer column).margin = column + 1 := rfl
  rw [keyed_of_margin hmargin', keyed, indent, hopen, if_pos rfl]
  simp [added, opened, insertAt, push]

/-- Where the mapping is still to be opened, its first row opens it. -/
theorem foldl_put_opened {lexer : Lexer} {column : Nat} {listing : Listing}
    (hlexer : lexer.IsAtRest) (hne : listing ≠ nil)
    (hmargin : (lexer.dedent (column + 1)).margin ≤ column) :
    (listing.rows column).foldl Row.put lexer =
      (listing.rows column).foldl Row.put (opened (lexer.dedent (column + 1)) column) := by
  have hput (key : List Char) (leaf : Option Leaf) :
      Row.put lexer ⟨column, key, leaf⟩ =
        Row.put (opened (lexer.dedent (column + 1)) column) ⟨column, key, leaf⟩ := by
    have hstays : (opened (lexer.dedent (column + 1)) column).dedent (column + 1) =
        opened (lexer.dedent (column + 1)) column := dedent_of_margin_le (Nat.le_refl _)
    unfold Row.put
    simp only [hstays, keyed_of_margin_le (hlexer.dedent (column + 1)) hmargin]
  cases listing with
  | nil => exact absurd rfl hne
  | scalar key leaf rest => rw [rows, List.foldl_cons, List.foldl_cons, hput]
  | mapping key inner rest => rw [rows, List.foldl_cons, List.foldl_cons, hput]

/-- The end of a mapping closes it. -/
theorem dedent_added_opened {lexer : Lexer} {column margin : Nat} (hlexer : lexer.IsAtRest)
    (hlow : lexer.margin ≤ margin) (hhigh : margin ≤ column) (tokens : List Token) :
    (added (opened lexer column) tokens).dedent margin =
      added lexer (.blockMapping :: (tokens ++ [.blockEnd])) := by
  have hflow : (added (opened lexer column) tokens).inFlow = false := hlexer.inFlow
  have hmargins : (added (opened lexer column) tokens).margins = lexer.margin :: lexer.margins :=
    rfl
  have hbeyond : margin < (added (opened lexer column) tokens).margin := Nat.lt_succ_of_le hhigh
  let closed : Lexer := { (added (opened lexer column) tokens).push .blockEnd with
    margin := lexer.margin, margins := lexer.margins }
  have hclosed_margin : closed.margin ≤ margin := hlow
  have hclosed : closed = added lexer (.blockMapping :: (tokens ++ [.blockEnd])) := by
    simp [closed, added, opened, push]
  rw [dedent, hflow, if_neg (by decide), hmargins, closeTo, if_pos hbeyond, ← hclosed]
  exact closeTo_of_margin_le hclosed_margin lexer.margins

/-- The rows of a mapping that is open add its tokens, and the ends of the mappings inside. -/
theorem dedent_foldl_put {listing : Listing} {column : Nat} {lexer : Lexer}
    (hlexer : lexer.IsAtRest) (hsound : listing.IsSound column)
    (hmargin : (lexer.dedent (column + 1)).margin = column + 1) :
    ((listing.rows column).foldl Row.put lexer).dedent (column + 1) =
      added (lexer.dedent (column + 1)) listing.tokens := by
  induction listing generalizing column lexer with
  | nil => rfl
  | scalar key leaf rest ih =>
    have hput : Row.put lexer ⟨column, key, some leaf⟩ =
        added (lexer.dedent (column + 1)) [.key, .scalar .plain (String.ofList key), .value,
          .scalar leaf.style (String.ofList leaf.text)] := by
      unfold Row.put
      simp only [keyed_of_margin hmargin]
      rfl
    have hrest : (Row.put lexer ⟨column, key, some leaf⟩).IsAtRest :=
      Row.isAtRest_put hlexer _
    have hstays : (Row.put lexer ⟨column, key, some leaf⟩).dedent (column + 1) =
        Row.put lexer ⟨column, key, some leaf⟩ := by
      apply dedent_of_margin_le
      rw [hput]
      exact Nat.le_of_eq hmargin
    rw [rows, List.foldl_cons, ih hrest hsound.2 (by rw [hstays, hput]; exact hmargin), hstays, hput,
      added_added]
    rfl
  | mapping key inner rest ih_inner ih =>
    obtain ⟨-, hne, hinner, hrest⟩ := hsound
    have hdedent := hlexer.dedent (column + 1)
    let start := Row.put lexer ⟨column, key, none⟩
    have hstart_rest : start.IsAtRest := Row.isAtRest_put hlexer _
    have hstart : start = added (lexer.dedent (column + 1))
        [.key, .scalar .plain (String.ofList key), .value] := keyed_of_margin hmargin key
    have hstart_margin : start.margin = column + 1 := by rw [hstart]; exact hmargin
    have hstays : start.dedent (column + 2 + 1) = start := dedent_of_margin_le (by omega)
    let last := (inner.rows (column + 2)).foldl Row.put start
    have hlast_rest : last.IsAtRest := Row.isAtRest_foldl_put hstart_rest _
    -- The first entry inside opens the inner mapping, and the next row of this one closes it.
    have hlast : last.dedent (column + 2 + 1) = added (opened start (column + 2)) inner.tokens := by
      have hopened := foldl_put_opened hstart_rest hne (by rw [hstays]; omega)
      have hopened_stays : (opened start (column + 2)).dedent (column + 2 + 1) =
          opened start (column + 2) := dedent_of_margin_le (Nat.le_refl _)
      have hopened_rest := isAtRest_opened hstart_rest (column + 2)
      rw [hstays] at hopened
      have hfold := ih_inner hopened_rest hinner (by rw [hopened_stays]; rfl)
      rw [← hopened, hopened_stays] at hfold
      exact hfold
    have hclose : last.dedent (column + 1) = added (lexer.dedent (column + 1))
        ([.key, .scalar .plain (String.ofList key), .value] ++
          .blockMapping :: (inner.tokens ++ [.blockEnd])) := by
      rw [← hlast_rest.dedent_dedent (by omega : column + 1 ≤ column + 2 + 1), hlast,
        dedent_added_opened hstart_rest (by omega) (by omega), hstart, added_added]
    have hfold := ih hlast_rest hrest (by rw [hclose]; exact hmargin)
    rw [rows, List.foldl_cons, List.foldl_append, hfold, hclose, added_added]
    simp [tokens]

/-- The rows of a listing add its tokens, between those that open and close its mapping. -/
theorem tokensOf_rows {listing : Listing} (hne : listing ≠ nil) (hsound : listing.IsSound 0) :
    Row.tokensOf (listing.rows 0) = .blockMapping :: (listing.tokens ++ [.blockEnd]) := by
  let start : Lexer := { cursor := { rest := [] } }
  have hstart : start.IsAtRest := ⟨rfl, rfl⟩
  have hopened := isAtRest_opened hstart 0
  have hrows : ((listing.rows 0).foldl Row.put (opened start 0)).dedent 1 =
      added (opened start 0) listing.tokens := dedent_foldl_put hopened hsound rfl
  have hopens := foldl_put_opened hstart hne (Nat.le_refl 0)
  have htokens : Row.tokensOf (listing.rows 0) =
      ((added (opened start 0) listing.tokens).dedent 0).tokens.reverse := by
    rw [← hrows]
    exact congrArg (fun lexer => ((lexer.dedent 1).dedent 0).tokens.reverse) hopens
  rw [htokens, dedent_added_opened hstart (Nat.le_refl 0) (Nat.le_refl 0)]
  simp [added, start]

/-! ## Entries -/

/-- The tokens of a listing up to the end of its mapping are read as its entries. -/
theorem run_blockEntries_listing {parser : Parser} (hfault : parser.fault = none)
    (listing : Listing) :
    ∀ {fuel : Nat} (rest : List Token), 2 * listing.tokens.length + 5 ≤ fuel →
      (Parse.blockEntries fuel).run
          (Parse.facing parser (listing.tokens ++ .blockEnd :: rest)) =
        pure (listing.entries, Parse.facing parser rest) := by
  induction listing with
  | nil =>
    intro fuel rest hfuel
    obtain ⟨fuel, rfl⟩ : ∃ less, fuel = less + 1 := ⟨fuel - 1, by omega⟩
    exact Parse.run_blockEntries_end hfault fuel rest
  | scalar key leaf more ih =>
    intro fuel rest hfuel
    rw [tokens] at hfuel ⊢
    simp only [List.length_cons] at hfuel
    obtain ⟨fuel, rfl⟩ : ∃ less, fuel = less + 5 := ⟨fuel - 5, by omega⟩
    have hvalue := Parse.run_node_scalar hfault fuel true true leaf.style
      (String.ofList leaf.text) (more.tokens ++ .blockEnd :: rest)
    have hmore := @ih (fuel + 4) rest (by omega)
    exact Parse.run_blockEntries_key hfault ⟨by simp, by simp, by simp⟩ hvalue hmore
  | mapping key inner more ih_inner ih =>
    intro fuel rest hfuel
    rw [tokens] at hfuel ⊢
    simp only [List.length_cons, List.length_append] at hfuel
    obtain ⟨fuel, rfl⟩ : ∃ less, fuel = less + 5 := ⟨fuel - 5, by omega⟩
    have hinner := @ih_inner fuel (more.tokens ++ .blockEnd :: rest) (by omega)
    have hvalue := Parse.run_node_mapping hfault true hinner
    have hmore := @ih (fuel + 4) rest (by omega)
    have hassoc : inner.tokens ++ .blockEnd :: more.tokens ++ .blockEnd :: rest =
        inner.tokens ++ .blockEnd :: (more.tokens ++ .blockEnd :: rest) := by simp
    rw [List.cons_append, List.cons_append, List.cons_append, List.cons_append, hassoc]
    exact Parse.run_blockEntries_key hfault ⟨by simp, by simp, by simp⟩ hvalue hmore

/-- The tokens of a listing in a mapping of their own are a document whose root is that mapping. -/
theorem ofTokens_listing (listing : Listing) :
    Reading.ofTokens { tokens := .blockMapping :: (listing.tokens ++ [.blockEnd]) } =
      { document := .ofNode (.mapping listing.entries), fault := none } := by
  have hentries (parser : Parser) (hfault : parser.fault = none) :
      (Parse.blockEntries (4 * (listing.tokens.length + 2) + 6)).run
        (Parse.facing parser (listing.tokens ++ [.blockEnd])) =
        pure (listing.entries, Parse.facing parser []) :=
    run_blockEntries_listing hfault listing [] (by omega)
  have hdocument := Parse.run_document hentries
  have hlength : 4 * (Token.blockMapping :: (listing.tokens ++ [.blockEnd])).length + 8 =
      4 * (listing.tokens.length + 2) + 6 + 2 := by simp
  unfold Reading.ofTokens
  simp only [hlength, hdocument]
  rfl

/-- The text of a listing is one document, whose root is the mapping. -/
theorem ofText_write {listing : Listing} (hne : listing ≠ nil) (hsound : listing.IsSound 0) :
    Reading.ofText listing.write =
      { document := .ofNode (.mapping listing.entries), fault := none } := by
  have hlaid : Row.Laid (listing.rows 0 ++ []) := laid_rows hsound trivial (Nat.le_refl 0)
  have hcolumn : Row.columnOf (listing.rows 0 ++ []) ≤ 0 := columnOf_rows (Nat.le_refl 0)
  rw [List.append_nil] at hlaid hcolumn
  rw [Reading.ofText, write, Row.tokens_rows hlaid (Nat.le_zero.1 hcolumn),
    tokensOf_rows hne hsound, ofTokens_listing]

end Listing

end SlashChat.Yaml
