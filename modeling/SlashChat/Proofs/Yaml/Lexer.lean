import SlashChat.Proofs.Yaml.Plain
import SlashChat.Yaml.Lexer

/-!
# Laws of the lexer

Outside brackets, with no key pending, the lexer is at rest.  From there it moves over blanks and a
line feed (`nextPlace_of_blanks`, `nextPlace_of_feed`), closes the block collections that the place
found is left of, and reads a key with its colon in two rounds (`run_key`).
-/

set_option autoImplicit false

namespace SlashChat.Yaml.Lexer

variable {lexer : Lexer} {rest : List Char}

/-- A lexer outside brackets, with no key pending. -/
structure IsAtRest (lexer : Lexer) : Prop where
  place : lexer.place = none
  outer : lexer.outer = []

/-- The same tokens at another place. -/
def moved (lexer : Lexer) (cursor : Cursor) (keyAllowed : Bool) : Lexer :=
  { lexer with cursor, keyAllowed }

/-- Moving a lexer adds no token. -/
@[simp]
theorem tokens_moved (cursor : Cursor) (keyAllowed : Bool) :
    (lexer.moved cursor keyAllowed).tokens = lexer.tokens := rfl

/-- Moving a lexer keeps its margin. -/
@[simp]
theorem margin_moved (cursor : Cursor) (keyAllowed : Bool) :
    (lexer.moved cursor keyAllowed).margin = lexer.margin := rfl

/-- Moving a lexer keeps the margins outside. -/
@[simp]
theorem margins_moved (cursor : Cursor) (keyAllowed : Bool) :
    (lexer.moved cursor keyAllowed).margins = lexer.margins := rfl

/-- A moved lexer is where it was moved to. -/
@[simp]
theorem cursor_moved (cursor : Cursor) (keyAllowed : Bool) :
    (lexer.moved cursor keyAllowed).cursor = cursor := rfl

/-- A moved lexer allows a key where it was told to. -/
@[simp]
theorem keyAllowed_moved (cursor : Cursor) (keyAllowed : Bool) :
    (lexer.moved cursor keyAllowed).keyAllowed = keyAllowed := rfl

/-- Moving a lexer leads neither into brackets nor out of them. -/
@[simp]
theorem inFlow_moved (cursor : Cursor) (keyAllowed : Bool) :
    (lexer.moved cursor keyAllowed).inFlow = lexer.inFlow := rfl

/-- Of two moves the second counts. -/
@[simp]
theorem moved_moved (cursor cursor' : Cursor) (keyAllowed keyAllowed' : Bool) :
    (lexer.moved cursor keyAllowed).moved cursor' keyAllowed' =
      lexer.moved cursor' keyAllowed' := rfl

/-- A lexer at rest stays at rest when it is moved. -/
theorem IsAtRest.moved (h : lexer.IsAtRest) (cursor : Cursor) (keyAllowed : Bool) :
    (lexer.moved cursor keyAllowed).IsAtRest :=
  ⟨h.place, h.outer⟩

/-- A lexer at rest is outside brackets. -/
theorem IsAtRest.inFlow (h : lexer.IsAtRest) : lexer.inFlow = false := by
  simp [Lexer.inFlow, h.outer]

/-! ## Closing block collections -/

/-- Closing block collections does not depend on where the lexer is. -/
theorem closeTo_moved (margin : Nat) (margins : List Nat) (lexer : Lexer) (cursor : Cursor)
    (keyAllowed : Bool) :
    closeTo margin margins (lexer.moved cursor keyAllowed) =
      (closeTo margin margins lexer).moved cursor keyAllowed := by
  induction margins generalizing lexer with
  | nil => rfl
  | cons outside margins ih =>
    rw [closeTo, closeTo, margin_moved]
    split
    · exact ih { lexer.push .blockEnd with margin := outside, margins }
    · rfl

/-- Dedenting does not depend on where the lexer is. -/
theorem dedent_moved (lexer : Lexer) (cursor : Cursor) (keyAllowed : Bool) (margin : Nat) :
    (lexer.moved cursor keyAllowed).dedent margin =
      (lexer.dedent margin).moved cursor keyAllowed := by
  rw [dedent, dedent, inFlow_moved]
  split
  · rfl
  · exact closeTo_moved margin lexer.margins lexer cursor keyAllowed

/-- Closing leaves all but the tokens and the margins. -/
theorem closeTo_keeps (margin : Nat) (margins : List Nat) (lexer : Lexer) :
    (closeTo margin margins lexer).place = lexer.place ∧
      (closeTo margin margins lexer).outer = lexer.outer ∧
      (closeTo margin margins lexer).cursor = lexer.cursor ∧
      (closeTo margin margins lexer).keyAllowed = lexer.keyAllowed := by
  induction margins generalizing lexer with
  | nil => exact ⟨rfl, rfl, rfl, rfl⟩
  | cons outside margins ih =>
    rw [closeTo]
    split
    · exact ih { lexer.push .blockEnd with margin := outside, margins }
    · exact ⟨rfl, rfl, rfl, rfl⟩

/-- A lexer at rest stays at rest when it closes block collections. -/
theorem IsAtRest.dedent (h : lexer.IsAtRest) (margin : Nat) : (lexer.dedent margin).IsAtRest := by
  obtain ⟨hplace, houter, -⟩ := closeTo_keeps margin lexer.margins lexer
  rw [Lexer.dedent, h.inFlow, if_neg (by decide)]
  exact ⟨hplace.trans h.place, houter.trans h.outer⟩

/-- No block collection is closed that is not beyond the margin. -/
theorem closeTo_of_margin_le {margin : Nat} (h : lexer.margin ≤ margin) (margins : List Nat) :
    closeTo margin margins lexer = lexer := by
  cases margins with
  | nil => rfl
  | cons outside margins => rw [closeTo, if_neg (by omega)]

/-- Dedenting to a margin that is not left of the current one does nothing. -/
theorem dedent_of_margin_le {margin : Nat} (h : lexer.margin ≤ margin) :
    lexer.dedent margin = lexer := by
  rw [dedent, closeTo_of_margin_le h, ite_self]

/-- Closing to one margin and then to one further left is closing to the second. -/
theorem closeTo_closeTo {margin further : Nat} (hle : margin ≤ further) (margins : List Nat)
    (lexer : Lexer) (hmargins : lexer.margins = margins) :
    closeTo margin (closeTo further margins lexer).margins (closeTo further margins lexer) =
      closeTo margin margins lexer := by
  induction margins generalizing lexer with
  | nil => rw [closeTo, hmargins]
  | cons outside margins ih =>
    by_cases hopen : further < lexer.margin
    · rw [closeTo, closeTo, if_pos hopen, if_pos (by omega)]
      exact ih { lexer.push .blockEnd with margin := outside, margins } rfl
    · rw [closeTo, if_neg hopen, hmargins]

/-- Closing to a margin first does not matter to closing further. -/
theorem IsAtRest.dedent_dedent (h : lexer.IsAtRest) {margin further : Nat}
    (hle : margin ≤ further) : (lexer.dedent further).dedent margin = lexer.dedent margin := by
  have hinner := h.dedent further
  rw [Lexer.dedent, hinner.inFlow, if_neg (by decide)]
  rw [Lexer.dedent, Lexer.dedent, h.inFlow, if_neg (by decide), if_neg (by decide)]
  exact closeTo_closeTo hle lexer.margins lexer rfl

/-- The margins to go back to lead outside of all block collections. -/
def Nested : Nat → List Nat → Prop
  | margin, [] => margin = 0
  | _, outside :: margins => Nested outside margins

/-- Closing to a margin leads to that margin at most, and the margins outside stay nested. -/
theorem nested_closeTo (margin : Nat) (margins : List Nat) (lexer : Lexer)
    (hmargins : lexer.margins = margins) (h : Nested lexer.margin lexer.margins) :
    (closeTo margin margins lexer).margin ≤ margin ∧
      Nested (closeTo margin margins lexer).margin (closeTo margin margins lexer).margins := by
  induction margins generalizing lexer with
  | nil =>
    have hzero : lexer.margin = 0 := by rwa [hmargins] at h
    refine ⟨?_, h⟩
    rw [closeTo, hzero]
    exact Nat.zero_le margin
  | cons outside margins ih =>
    rw [closeTo]
    split
    · have houtside : Nested outside margins := by rwa [hmargins] at h
      exact ih { lexer.push .blockEnd with margin := outside, margins } rfl houtside
    · exact ⟨by omega, h⟩

/-- Dedenting leads to the margin at most, and the margins outside stay nested. -/
theorem nested_dedent (hrest : lexer.IsAtRest) (h : Nested lexer.margin lexer.margins)
    (margin : Nat) :
    (lexer.dedent margin).margin ≤ margin ∧
      Nested (lexer.dedent margin).margin (lexer.dedent margin).margins := by
  rw [dedent, hrest.inFlow, if_neg (by decide)]
  exact nested_closeTo margin lexer.margins lexer rfl h

/-! ## Moving to the next token -/

/-- A key place within reach is kept. -/
theorem refresh_of_fresh (houter : lexer.outer = [])
    (hplace : freshPlace lexer.cursor lexer.place = .ok lexer.place) :
    lexer.refresh = .ok lexer := by
  obtain ⟨cursor, tokens, margin, margins, keyAllowed, place, outer⟩ := lexer
  simp only at houter hplace
  subst houter
  simp only [refresh, hplace]
  rfl

/-- A lexer at rest has no key place to drop. -/
theorem IsAtRest.refresh (h : lexer.IsAtRest) : lexer.refresh = .ok lexer :=
  refresh_of_fresh h.outer (by rw [h.place]; rfl)

/-- The lexer goes on to the next place and closes the block collections it is left of. -/
theorem advance_of_nextPlace {next : Cursor} {keyAllowed : Bool} (houter : lexer.outer = [])
    (hplace : freshPlace next lexer.place = .ok lexer.place)
    (hnext : nextPlace false (lexer.cursor.rest.length + 1) lexer.cursor lexer.keyAllowed =
      (next, keyAllowed)) :
    lexer.advance = .ok ((lexer.moved next keyAllowed).dedent (next.column + 1)) := by
  have hflow : lexer.inFlow = false := by simp [Lexer.inFlow, houter]
  have hrefresh : (lexer.moved next keyAllowed).refresh = .ok (lexer.moved next keyAllowed) :=
    refresh_of_fresh houter hplace
  unfold moved at hrefresh
  rw [advance, hflow, hnext]
  simp only [hrefresh]
  rfl

/-- The next token stands behind blanks. -/
theorem nextPlace_of_blanks {cursor : Cursor} {n : Nat} (fuel : Nat) (keyAllowed : Bool)
    (hgap : rest.head?.any isGap = false) (hsign : rest.head? ≠ some '#')
    (hmark : rest.head? ≠ some byteOrderMark)
    (hcursor : cursor.rest = List.replicate n ' ' ++ rest) :
    nextPlace false (fuel + 1) cursor keyAllowed = (cursor.skip n, keyAllowed) := by
  have hfirst : cursor.rest.head? ≠ some byteOrderMark := by
    rw [hcursor]
    cases n with
    | zero => exact hmark
    | succ n => exact (by decide : some ' ' ≠ some byteOrderMark)
  have hblanks : cursor.skipWhile (fun c => c == ' ' || ((false || !keyAllowed) && c == '\t')) =
      cursor.skip n := by
    have hskip := Cursor.skipWhile_of_append (p := fun c => c == ' ' || ((false || !keyAllowed) &&
      c == '\t')) hcursor (by simp) ?_
    · rwa [List.length_replicate] at hskip
    · obtain ⟨hblank, htab, -⟩ := head_of_isGap hgap
      cases rest with
      | nil => rfl
      | cons c more => simp_all
  have hskip : (cursor.skip n).rest = rest := by simp [hcursor]
  have hbreak : (cursor.skip n).break? = none :=
    Cursor.break?_of_head (by rw [hskip]; exact (head_of_isGap hgap).2.2)
  rw [nextPlace]
  simp only [hfirst, hblanks, hskip, hsign, hbreak, beq_iff_eq, Bool.and_eq_true, and_false,
    if_false]

/-- The next token stands on the next line. -/
theorem nextPlace_of_feed {cursor : Cursor} (fuel : Nat) (keyAllowed : Bool)
    (hcursor : cursor.rest = '\n' :: rest) :
    nextPlace false (fuel + 1) cursor keyAllowed =
      nextPlace false fuel (cursor.nextLine 1) true := by
  have hfirst : cursor.rest.head? ≠ some byteOrderMark := by
    rw [hcursor]
    exact (by decide : some '\n' ≠ some byteOrderMark)
  have hsign : cursor.rest.head? ≠ some '#' := by
    rw [hcursor]
    exact (by decide : some '\n' ≠ some '#')
  have hblanks : cursor.skipWhile (fun c => c == ' ' || ((false || !keyAllowed) && c == '\t')) =
      cursor := by
    apply Cursor.skipWhile_of_head
    simp [hcursor]
  have hbreak := Cursor.break?_of_cons hcursor (by decide) (by decide)
  rw [nextPlace]
  simp only [hfirst, hblanks, hsign, hbreak, beq_iff_eq, Bool.and_eq_true, and_false, if_false,
    Bool.not_false, Bool.or_true]

/-- Where a text goes on after the lexer: at the next token, or at a line feed in front of the line
that the token starts. -/
def Awaits (cursor : Cursor) (keyAllowed : Bool) (column : Nat) (text : List Char) : Prop :=
  (cursor.rest = text ∧ cursor.column = column ∧ keyAllowed = true) ∨
    cursor.rest = '\n' :: (List.replicate column ' ' ++ text)

/-- The lexer finds the token that it awaits, and a key may start there. -/
theorem nextPlace_of_awaits {cursor : Cursor} {keyAllowed : Bool} {column : Nat} {text : List Char}
    (h : Awaits cursor keyAllowed column text) (htext : text.head?.all Char.isAlphanum = true) :
    ∃ next, nextPlace false (cursor.rest.length + 1) cursor keyAllowed = (next, true) ∧
      next.rest = text ∧ next.column = column := by
  have hhead : ∀ d : Char, d.isAlphanum = false → text.head? ≠ some d := by
    intro d hd hsome
    simp [hsome, hd] at htext
  have hgap : text.head?.any isGap = false := head_of_isAlphanum htext
  have hsign : text.head? ≠ some '#' := hhead '#' (by decide)
  have hmark : text.head? ≠ some byteOrderMark := hhead byteOrderMark (by decide)
  obtain ⟨hrest, hcolumn, rfl⟩ | hfeed := h
  · have hblanks : cursor.rest = List.replicate 0 ' ' ++ text := hrest
    refine ⟨cursor.skip 0, nextPlace_of_blanks _ true hgap hsign hmark hblanks, ?_, ?_⟩
    · simpa using hrest
    · simpa using hcolumn
  · have hnext : (cursor.nextLine 1).rest = List.replicate column ' ' ++ text := by simp [hfeed]
    have hlength : cursor.rest.length = (List.replicate column ' ' ++ text).length + 1 := by
      rw [hfeed, List.length_cons]
    refine ⟨(cursor.nextLine 1).skip column, ?_, by simp [hfeed], by simp⟩
    rw [nextPlace_of_feed _ keyAllowed hfeed, hlength]
    exact nextPlace_of_blanks _ true hgap hsign hmark hnext

/-! ## Rounds -/

/-- One round of the lexer goes on to the next place and reads the token there. -/
theorem run_round {ahead after : Lexer} {c : Char} (fuel : Nat)
    (hadvance : lexer.advance = .ok ahead) (hrest : ahead.cursor.rest = c :: rest)
    (hnext : ahead.next c rest = .ok after) : run (fuel + 1) lexer = run fuel after := by
  rw [run, hadvance]
  simp only [hrest, hnext]

/-- A round reads one token if no key place is dropped behind it. -/
theorem next_of_token {after : Lexer} {c : Char} (htoken : lexer.token c rest = .ok after)
    (hrefresh : after.refresh = .ok after) : lexer.next c rest = .ok after := by
  rw [next, htoken]
  exact hrefresh

/-- A letter or digit starts a plain scalar. -/
theorem token_of_isAlphanum {c : Char} (hc : c.isAlphanum = true)
    (hcursor : lexer.cursor.rest = c :: rest) : lexer.token c rest = lexer.plain := by
  have hne (d : Char) (hd : d.isAlphanum = false) : (c == d) = false :=
    beq_false_of_ne (ne_of_isAlphanum hc hd)
  have hmarker (d : Char) (hd : d.isAlphanum = false) : lexer.cursor.atMarker d = false := by
    apply Cursor.atMarker_of_head
    simpa [hcursor] using ne_of_isAlphanum hc hd
  have hstarts : startsPlain lexer.inFlow c rest = true := by
    simp (disch := decide) [startsPlain, hne, isGap_of_isAlphanum hc]
  unfold token
  simp (disch := decide) only [hne, hmarker, hstarts, Bool.and_false, Bool.false_and, if_true,
    Bool.false_eq_true, if_false]

/-! ## Keys -/

section Key

variable {key : List Char}

/-- The lexer behind a word that may be a key. -/
def pending (lexer : Lexer) (key : List Char) : Lexer :=
  { lexer.push (.scalar .plain (String.ofList key)) with
    keyAllowed := false
    cursor := lexer.cursor.skip key.length
    place := some {
      tokens := lexer.tokens.length
      index := lexer.cursor.index
      line := lexer.cursor.line
      column := lexer.cursor.column
      required := !lexer.inFlow && lexer.margin == lexer.cursor.column + 1 } }

/-- The tokens of a key in a column with its colon, and of the block mapping that it opens. -/
def keyed (lexer : Lexer) (column : Nat) (key : List Char) : Lexer :=
  (((lexer.indent column lexer.tokens.length .blockMapping).push .key).push
    (.scalar .plain (String.ofList key))).push .value

/-- A key that a colon finds: a word of no more than 256 letters and digits. -/
structure IsKey (key : List Char) : Prop where
  ne_nil : key ≠ []
  word : ∀ c ∈ key, c.isAlphanum = true
  length_le : key.length ≤ 256

/-- A word in front of a colon is read as a scalar that may be a key. -/
theorem plain_key (hlexer : lexer.IsAtRest) (hallowed : lexer.keyAllowed = true)
    (hkey : IsKey key) (hrest : endsWord rest = true)
    (hcursor : lexer.cursor.rest = key ++ ':' :: rest) :
    lexer.plain = .ok (lexer.pending key) := by
  have hlast : key.getLast? ≠ some ':' := by
    intro hcolon
    exact absurd (hkey.word ':' (List.mem_of_getLast? hcolon)) (by decide)
  have hread (margin : Nat) : Plain.read false margin lexer.cursor =
      .ok ⟨key, lexer.cursor.skip key.length, false⟩ :=
    Plain.read_key hkey.ne_nil (fun c hc => isGap_of_isAlphanum (hkey.word c hc)) hlast hrest
      hcursor
  obtain ⟨cursor, tokens, margin, margins, keyAllowed, place, outer⟩ := lexer
  obtain ⟨hplace, houter⟩ := hlexer
  simp only at hallowed hplace houter hread
  subst hallowed hplace houter
  simp [plain, savePlace, dropPlace, inFlow, hread, pending, push, bind, Except.bind, pure,
    Except.pure]

/-- A key of this length is still in reach behind its last character. -/
theorem fresh_pending (hkey : IsKey key) :
    freshPlace (lexer.pending key).cursor (lexer.pending key).place =
      .ok (lexer.pending key).place := by
  have hbytes := lexer.cursor.bytes_le key.length
  have hlength := hkey.length_le
  -- A character takes up to four bytes, and a key has to be found within 1024.
  have hindex : ¬ lexer.cursor.index + keyLimit < (lexer.cursor.skip key.length).index := by
    have hskip : (lexer.cursor.skip key.length).index =
        lexer.cursor.index + lexer.cursor.bytes key.length := rfl
    have hlimit : keyLimit = 1024 := rfl
    omega
  simp [pending, freshPlace, hindex]

/-- Nothing stands between a word that may be a key and its colon. -/
theorem advance_pending (houter : lexer.outer = []) (hkey : IsKey key)
    (hmargin : lexer.margin ≤ lexer.cursor.column + 1)
    (hcursor : lexer.cursor.rest = key ++ ':' :: rest) :
    (lexer.pending key).advance = .ok (lexer.pending key) := by
  have houter' : (lexer.pending key).outer = [] := houter
  have hrest : (lexer.pending key).cursor.rest = List.replicate 0 ' ' ++ ':' :: rest := by
    simp [pending, hcursor]
  have hgap : isGap ':' = false := by decide
  have hmark : (':' :: rest).head? ≠ some byteOrderMark := by
    simp [show ':' ≠ byteOrderMark by decide]
  have hnext := nextPlace_of_blanks (lexer.pending key).cursor.rest.length
    (lexer.pending key).keyAllowed (by simpa using hgap) (by simp) hmark hrest
  rw [Cursor.skip_zero] at hnext
  have hleft : (lexer.pending key).margin ≤ (lexer.pending key).cursor.column + 1 := by
    simp [pending, push]
    omega
  rw [advance_of_nextPlace houter' (fresh_pending hkey) hnext]
  exact congrArg Except.ok (dedent_of_margin_le hleft)

/-- A colon behind a word that may be a key, in front of a gap, makes it a key. -/
theorem token_pending (hkey : IsKey key) (hrest : endsWord rest = true) :
    (lexer.pending key).token ':' rest = (lexer.pending key).colon := by
  have hcolumn : (lexer.pending key).cursor.column ≠ 0 := by
    have hpos := List.length_pos_iff.2 hkey.ne_nil
    show lexer.cursor.column + key.length ≠ 0
    omega
  simp [token, Cursor.atMarker_of_column hcolumn, hrest]

/-- The colon makes the word in front of it a key. -/
theorem colon_pending (hlexer : lexer.IsAtRest) :
    (lexer.pending key).colon =
      .ok ((lexer.keyed lexer.cursor.column key).moved
        ((lexer.cursor.skip key.length).skip 1) false) := by
  obtain ⟨cursor, tokens, margin, margins, keyAllowed, place, outer⟩ := lexer
  obtain ⟨hplace, houter⟩ := hlexer
  simp only at hplace houter
  subst hplace houter
  have hone : tokens.length + 1 - tokens.length = 1 := by omega
  have htwo : tokens.length + 1 + 1 - tokens.length = 2 := by omega
  by_cases hopen : margin ≤ cursor.column
  · simp [colon, pending, keyed, moved, indent, insertAt, push, inFlow, hopen, hone, htwo]
  · simp [colon, pending, keyed, moved, indent, insertAt, push, inFlow, hopen, hone]

/-- A lexer at rest is at rest again behind a key and its colon. -/
theorem IsAtRest.keyed (hlexer : lexer.IsAtRest) (column : Nat) (key : List Char) :
    (lexer.keyed column key).IsAtRest := by
  obtain ⟨hplace, houter⟩ := hlexer
  unfold Lexer.keyed indent
  split
  · exact ⟨hplace, houter⟩
  · exact ⟨hplace, houter⟩

/-- Behind a key the margin is right of its column. -/
theorem margin_keyed {column : Nat} (hlexer : lexer.IsAtRest)
    (hmargin : lexer.margin ≤ column + 1) (key : List Char) :
    (lexer.keyed column key).margin = column + 1 := by
  simp only [keyed, indent, hlexer.inFlow, push]
  by_cases hopen : lexer.margin ≤ column
  · simp [hopen]
  · simp [hopen]
    omega

/-- A key keeps the margins nested. -/
theorem nested_keyed (column : Nat) (key : List Char)
    (h : Nested lexer.margin lexer.margins) :
    Nested (lexer.keyed column key).margin (lexer.keyed column key).margins := by
  unfold keyed indent
  split
  · exact h
  · exact h

/-- The tokens of a key do not depend on where the lexer is. -/
theorem keyed_moved (lexer : Lexer) (cursor : Cursor) (keyAllowed : Bool) (column : Nat)
    (key : List Char) :
    (lexer.moved cursor keyAllowed).keyed column key =
      (lexer.keyed column key).moved cursor keyAllowed := by
  unfold keyed indent
  rw [inFlow_moved, margin_moved]
  split <;> rfl

/-- A key and its colon are read in two rounds. -/
theorem run_key {column : Nat} (hlexer : lexer.IsAtRest) (hkey : IsKey key)
    (hrest : endsWord rest = true) (hmargin : (lexer.dedent (column + 1)).margin ≤ column + 1)
    (hawaits : Awaits lexer.cursor lexer.keyAllowed column (key ++ ':' :: rest)) :
    ∃ next, (∀ fuel, run (fuel + 2) lexer =
        run fuel (((lexer.dedent (column + 1)).keyed column key).moved next false)) ∧
      next.rest = rest ∧ column < next.column := by
  obtain ⟨c, more, rfl⟩ := List.exists_cons_of_ne_nil hkey.ne_nil
  have hc : c.isAlphanum = true := hkey.word c List.mem_cons_self
  obtain ⟨place, hplace, hplace_rest, hcolumn⟩ := nextPlace_of_awaits hawaits hc
  have hadvance := advance_of_nextPlace hlexer.outer (by rw [hlexer.place]; rfl) hplace
  rw [hcolumn, dedent_moved] at hadvance
  let ahead := (lexer.dedent (column + 1)).moved place true
  have hahead : ahead.IsAtRest := (hlexer.dedent (column + 1)).moved place true
  have hahead_rest : ahead.cursor.rest = c :: more ++ ':' :: rest := hplace_rest
  have hahead_column : ahead.cursor.column = column := hcolumn
  have hword : ahead.next c (more ++ ':' :: rest) = .ok (ahead.pending (c :: more)) := by
    apply next_of_token
    · have hplain := plain_key hahead rfl hkey hrest hahead_rest
      exact (token_of_isAlphanum hc hahead_rest).trans hplain
    · exact refresh_of_fresh hahead.outer (fresh_pending hkey)
  have hfirst (fuel : Nat) : run (fuel + 1) lexer = run fuel (ahead.pending (c :: more)) :=
    run_round fuel hadvance hplace_rest hword
  have hback := advance_pending hahead.outer hkey (by rw [hahead_column]; exact hmargin) hahead_rest
  have hback_rest : (ahead.pending (c :: more)).cursor.rest = ':' :: rest := by
    simp [pending, hahead_rest]
  have hcolon : (ahead.pending (c :: more)).next ':' rest =
      .ok ((ahead.keyed column (c :: more)).moved
        ((place.skip (c :: more).length).skip 1) false) := by
    apply next_of_token
    · rw [token_pending hkey hrest, colon_pending hahead, hahead_column]
      rfl
    · exact ((hahead.keyed column (c :: more)).moved _ false).refresh
  refine ⟨(place.skip (c :: more).length).skip 1, ?_, by simp [hplace_rest], by simp; omega⟩
  intro fuel
  rw [hfirst, run_round fuel hback hback_rest hcolon, keyed_moved, moved_moved]

end Key

end SlashChat.Yaml.Lexer
