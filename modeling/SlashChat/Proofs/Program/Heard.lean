import SlashChat.Proofs.Program.Exec

/-!
# What a chat hears

A chat hears the lines in front of the first farewell, and of these the ones that are not blank
(`heard`).  It ends with an error exactly if one of the lines in front of the farewell is no text
(`Session.runLines_of_texts`, `Session.runLines_fails`), and a blank line changes nothing
about the session (`Session.hear_of_blank`).  So two inputs in which the same lines are heard make
one and the same chat, whatever ends their lines and whatever stands behind the farewell
(`run_eq_of_heard_eq`).
-/

set_option autoImplicit false

namespace SlashChat.Program

open Text (trimmed)

/-! ## Lines that count -/

/-- What ends a session, in its trimmed form. -/
def farewells : List String := ["/quit", "/exit"]

/-- Whether bytes are a text. -/
def IsText (line : List UInt8) : Prop := Text.ofUtf8? line ≠ none

instance : DecidablePred IsText := fun line =>
  inferInstanceAs (Decidable (Text.ofUtf8? line ≠ none))

/-- Whether the bytes of a line are a farewell. -/
def isFarewell (line : List UInt8) : Bool :=
  (Text.ofUtf8? line).any fun text => trimmed text ∈ farewells

/-- The lines in front of the first farewell. -/
def untilFarewell (lines : List (List UInt8)) : List (List UInt8) :=
  lines.takeWhile fun line => !isFarewell line

/-- The lines of an input that a session comes to. -/
def openLines (input : List UInt8) : List (List UInt8) := untilFarewell (inputLines input)

/-- The texts that are not blank. -/
def audible (texts : List String) : List String := texts.filter fun text => trimmed text ≠ ""

/-- The texts that a session does something about: those of the lines it comes to that are not
blank. -/
def heard (input : List UInt8) : List String :=
  audible ((openLines input).filterMap Text.ofUtf8?)

section UntilFarewell

variable {line : List UInt8} {text : String}

/-- Nothing stands in front of a farewell that comes first. -/
theorem untilFarewell_of_farewell (htext : Text.ofUtf8? line = some text)
    (hfarewell : trimmed text ∈ farewells) (rest : List (List UInt8)) :
    untilFarewell (line :: rest) = [] :=
  List.takeWhile_cons_of_neg (by simp [isFarewell, htext, hfarewell])

/-- A text that is no farewell stands in front of the first farewell. -/
theorem untilFarewell_of_text (htext : Text.ofUtf8? line = some text)
    (hfarewell : trimmed text ∉ farewells) (rest : List (List UInt8)) :
    untilFarewell (line :: rest) = line :: untilFarewell rest :=
  List.takeWhile_cons_of_pos (by simp [isFarewell, htext, hfarewell])

/-- A line that is no text is no farewell, and stands in front of the first one. -/
theorem untilFarewell_of_not_text (hline : Text.ofUtf8? line = none) (rest : List (List UInt8)) :
    untilFarewell (line :: rest) = line :: untilFarewell rest :=
  List.takeWhile_cons_of_pos (by simp [isFarewell, hline])

end UntilFarewell

namespace Session

/-! ## One line -/

/-- The session after a line that does not end it. -/
def hear (session : Session) (line : String) : Session :=
  match session.step line with
  | .stay next => next
  | .quit => session

/-- A farewell ends a session. -/
theorem step_of_farewell {line : String} (hline : trimmed line ∈ farewells) (session : Session) :
    session.step line = .quit := by
  simp only [farewells, List.mem_cons, List.not_mem_nil, or_false] at hline
  rw [step, ← trimmed, if_pos hline]

/-- A session stays after every line but a farewell. -/
theorem step_of_not_farewell {line : String} (hline : trimmed line ∉ farewells)
    (session : Session) : session.step line = .stay (session.hear line) := by
  have hneither : ¬(trimmed line = "/quit" ∨ trimmed line = "/exit") := by
    simpa only [farewells, List.mem_cons, List.not_mem_nil, or_false] using hline
  have hstay : ∃ next, session.step line = .stay next := by
    rw [step, ← trimmed, if_neg hneither]
    split <;> exact ⟨_, rfl⟩
  obtain ⟨next, hnext⟩ := hstay
  rw [hear, hnext]

/-- A farewell changes nothing about a session. -/
theorem hear_of_farewell {line : String} (hline : trimmed line ∈ farewells) (session : Session) :
    session.hear line = session := by
  rw [hear, step_of_farewell hline]

/-- A call for help shows the help lines of the catalog. -/
theorem hear_of_help {line : String} (hline : trimmed line = "/help") (session : Session) :
    session.hear line = session.perform (session.board.catalog.helpLines.map Act.display) := by
  have hfarewell : ¬(trimmed line = "/quit" ∨ trimmed line = "/exit") := by
    rw [hline]
    decide
  rw [hear, step, ← trimmed, if_neg hfarewell, if_pos hline]

/-- A line that is no order goes to the switchboard in its trimmed form. -/
theorem hear_of_not_order {line : String} (hline : trimmed line ∉ orders) (session : Session) :
    session.hear line = session.give (trimmed line) := by
  rw [hear, step_of_not_order hline]

/-- A blank line changes nothing about a session. -/
theorem hear_of_blank {line : String} (hblank : trimmed line = "") (session : Session) :
    session.hear line = session := by
  have horder : trimmed line ∉ orders := by
    rw [hblank]
    decide
  have hempty : ∀ c ∈ "".toList, Text.isSpace c = true := by simp
  have hresponse :=
    session.board.respond_of_blank session.console.nickname session.world hempty
  rw [hear_of_not_order horder, hblank, give_eq, hresponse]
  rfl

/-- Blank lines do nothing, wherever they stand. -/
theorem foldl_hear_audible (session : Session) (lines : List String) :
    (audible lines).foldl hear session = lines.foldl hear session := by
  rw [audible, List.foldl_filter]
  congr 1
  funext session line
  split
  · rfl
  · next hblank =>
    exact (hear_of_blank (by simpa using hblank) session).symm

/-! ## Lines in turn -/

section Lines

variable {line : List UInt8} {text : String} (rest : List (List UInt8)) (session : Session)

/-- At a farewell a session ends as it stands, whatever follows. -/
theorem runLines_of_farewell (htext : Text.ofUtf8? line = some text)
    (hfarewell : trimmed text ∈ farewells) :
    session.runLines (line :: rest) = (session, .ok ()) := by
  rw [runLines, Text.decodeUtf8, htext]
  simp only [step_of_farewell hfarewell]

/-- A text that is no farewell is heard, and the session goes on with the other lines. -/
theorem runLines_of_text (htext : Text.ofUtf8? line = some text)
    (hfarewell : trimmed text ∉ farewells) :
    session.runLines (line :: rest) = (session.hear text).runLines rest := by
  rw [runLines, Text.decodeUtf8, htext]
  simp only [step_of_not_farewell hfarewell]

/-- At a line that is no text a session fails, and the error tells at which byte. -/
theorem runLines_of_not_text (hline : Text.ofUtf8? line = none) :
    session.runLines (line :: rest) =
      (session, .error (.io (Text.Utf8Fault.find line).message)) := by
  rw [runLines, Text.decodeUtf8, hline]

end Lines

/-- A session goes through its lines in turn if all that it comes to are texts. -/
theorem runLines_of_texts {lines : List (List UInt8)}
    (htexts : ∀ line ∈ untilFarewell lines, IsText line) (session : Session) :
    session.runLines lines =
      (((untilFarewell lines).filterMap Text.ofUtf8?).foldl hear session, .ok ()) := by
  induction lines generalizing session with
  | nil => rfl
  | cons line rest ih =>
    cases htext : Text.ofUtf8? line with
    | none =>
      rw [untilFarewell_of_not_text htext] at htexts
      exact absurd htext (htexts line List.mem_cons_self)
    | some text =>
      by_cases hfarewell : trimmed text ∈ farewells
      · rw [runLines_of_farewell rest session htext hfarewell,
          untilFarewell_of_farewell htext hfarewell]
        rfl
      · rw [untilFarewell_of_text htext hfarewell] at htexts ⊢
        rw [runLines_of_text rest session htext hfarewell, List.filterMap_cons_some htext,
          List.foldl_cons]
        exact ih (List.forall_mem_cons.1 htexts).2 (session.hear text)

/-- A session fails if it comes to a line that is no text. -/
theorem runLines_fails {lines : List (List UInt8)}
    (hlines : ∃ line ∈ untilFarewell lines, ¬IsText line) (session : Session) :
    ∃ cause, (session.runLines lines).2 = .error cause := by
  obtain ⟨wrong, hmem, hwrong⟩ := hlines
  induction lines generalizing session with
  | nil => cases hmem
  | cons line rest ih =>
    cases htext : Text.ofUtf8? line with
    | none =>
      rw [runLines_of_not_text rest session htext]
      exact ⟨_, rfl⟩
    | some text =>
      by_cases hfarewell : trimmed text ∈ farewells
      · rw [untilFarewell_of_farewell htext hfarewell] at hmem
        cases hmem
      · rw [untilFarewell_of_text htext hfarewell] at hmem
        rw [runLines_of_text rest session htext hfarewell]
        rcases List.mem_cons.1 hmem with rfl | hrest
        · exact absurd (by simp [IsText, htext]) hwrong
        · exact ih (session.hear text) hrest

end Session

/-! ## A whole chat -/

/-- A chat whose lines are texts goes through the lines that it hears. -/
theorem runChat_eq_heard {around : Surroundings} {path : String} {seed : Option UInt64}
    {session : Session} (hopen : openChat around path seed = .ok session) {input : List UInt8}
    (htexts : ∀ line ∈ openLines input, IsText line) :
    runChat { around with input := input } path seed =
      closeChat ((heard input).foldl Session.hear session) (.ok ()) := by
  have hopen' : openChat { around with input := input } path seed = .ok session := hopen
  have hlines := Session.runLines_of_texts htexts session
  simp only [runChat, hopen', hlines]
  rw [heard, Session.foldl_hear_audible, openLines]

/-- What a chat does follows from the lines that it hears. -/
theorem runChat_congr_heard (around : Surroundings) (path : String) (seed : Option UInt64)
    {input other : List UInt8} (hinput : ∀ line ∈ openLines input, IsText line)
    (hother : ∀ line ∈ openLines other, IsText line) (hheard : heard input = heard other) :
    runChat { around with input := input } path seed =
      runChat { around with input := other } path seed := by
  cases hopen : openChat around path seed with
  | ok session => rw [runChat_eq_heard hopen hinput, runChat_eq_heard hopen hother, hheard]
  | error ending =>
    have hend (bytes : List UInt8) : runChat { around with input := bytes } path seed = ending := by
      have hopen' : openChat { around with input := bytes } path seed = .error ending := hopen
      simp only [runChat, hopen']
    rw [hend, hend]

/-! ## Typed lines -/

/-- What ends a typed line. -/
inductive LineEnd
  | feed
  | returnFeed
deriving DecidableEq, Repr, Inhabited

/-- The bytes that end a typed line. -/
def LineEnd.bytes : LineEnd → List UInt8
  | .feed => [lineFeed]
  | .returnFeed => [carriageReturn, lineFeed]

/-- A typed line and what ends it. -/
structure TypedLine where
  text : String
  ending : LineEnd
  feed_notMem : '\n' ∉ text.toList
  /-- A carriage return in front of the line feed belongs to what ends the line. -/
  getLast?_ne : ending = .feed → text.toList.getLast? ≠ some '\r'

/-- The bytes of a typed line. -/
def TypedLine.bytes (line : TypedLine) : List UInt8 := Text.toUtf8 line.text ++ line.ending.bytes

/-- The bytes of typed lines. -/
def typed (lines : List TypedLine) : List UInt8 := lines.flatMap TypedLine.bytes

/-- The texts in front of the first farewell. -/
def openTexts (texts : List String) : List String :=
  texts.takeWhile fun text => trimmed text ∉ farewells

/-- A text without a line feed has none among its bytes. -/
theorem lineFeed_notMem_toUtf8 {text : String} (hfeed : '\n' ∉ text.toList) :
    lineFeed ∉ Text.toUtf8 text :=
  fun hmem => hfeed (Text.char_of_mem_toUtf8 hmem (by decide))

/-- A typed line comes out of the input as its text, whatever ends it. -/
theorem linesFrom_typedLine (line : TypedLine) (rest : List UInt8) :
    linesFrom [] (line.bytes ++ rest) = Text.toUtf8 line.text :: linesFrom [] rest := by
  have hfeed := lineFeed_notMem_toUtf8 line.feed_notMem
  rw [TypedLine.bytes, List.append_assoc, linesFrom_append hfeed, List.nil_append]
  cases hending : line.ending with
  | feed =>
    have hlast : (Text.toUtf8 line.text).getLast? ≠ some carriageReturn := fun hlast =>
      line.getLast?_ne hending (Text.char_of_getLast?_toUtf8 hlast (by decide))
    rw [LineEnd.bytes, List.singleton_append, linesFrom, if_pos rfl, withoutReturn, if_neg hlast]
  | returnFeed =>
    have hreturn : carriageReturn ≠ lineFeed := by decide
    rw [LineEnd.bytes, List.cons_append, List.singleton_append, linesFrom, if_neg hreturn,
      linesFrom, if_pos rfl, withoutReturn, List.getLast?_concat, if_pos rfl, List.dropLast_concat]

/-- Typed lines come out of the input as their texts, in front of what follows. -/
theorem inputLines_typed_append (lines : List TypedLine) (rest : List UInt8) :
    inputLines (typed lines ++ rest) =
      (lines.map TypedLine.text).map Text.toUtf8 ++ inputLines rest := by
  unfold inputLines typed
  induction lines with
  | nil => rfl
  | cons line lines ih =>
    rw [List.flatMap_cons, List.append_assoc, linesFrom_typedLine, ih]
    rfl

/-- A last line that ends with the input comes out as it is, unless it is empty. -/
theorem inputLines_last {last : String} (hfeed : '\n' ∉ last.toList) :
    inputLines (Text.toUtf8 last) =
      (if (Text.toUtf8 last).isEmpty then [] else [last]).map Text.toUtf8 := by
  have hall := linesFrom_append (lineFeed_notMem_toUtf8 hfeed) [] []
  rw [List.append_nil, List.nil_append] at hall
  rw [inputLines, hall, linesFrom]
  split <;> rfl

/-- Among the bytes of texts the first farewell stands where it stands among the texts. -/
theorem untilFarewell_map_toUtf8 (texts : List String) :
    untilFarewell (texts.map Text.toUtf8) = (openTexts texts).map Text.toUtf8 := by
  rw [untilFarewell, List.takeWhile_map, openTexts]
  congr 2
  funext text
  simp [isFarewell, Text.ofUtf8?_toUtf8]

/-- What follows a farewell makes no difference to what stands in front of it. -/
theorem untilFarewell_append {lines : List (List UInt8)}
    (hfarewell : ∃ line ∈ lines, isFarewell line = true) (rest : List (List UInt8)) :
    untilFarewell (lines ++ rest) = untilFarewell lines := by
  refine List.takeWhile_append.trans (if_neg ?_)
  intro hlength
  obtain ⟨line, hline, hfarewell⟩ := hfarewell
  have hself := (List.takeWhile_prefix fun line => !isFarewell line).eq_of_length hlength
  have hopen := List.takeWhile_eq_self_iff.1 hself line hline
  rw [hfarewell] at hopen
  cases hopen

/-- A blank text at the end is not heard. -/
theorem audible_openTexts_append {blank : String} (hblank : trimmed blank = "")
    (texts : List String) :
    audible (openTexts (texts ++ [blank])) = audible (openTexts texts) := by
  rw [openTexts, openTexts, List.takeWhile_append]
  split
  · next hlength =>
    have hself := (List.takeWhile_prefix fun text => decide (trimmed text ∉ farewells)).eq_of_length
      hlength
    have hsilent : audible ([blank].takeWhile fun text => trimmed text ∉ farewells) = [] := by
      have hopen : "" ∉ farewells := by decide
      simp [audible, hblank, hopen]
    rw [audible, List.filter_append, ← audible, ← audible, hsilent, List.append_nil, hself]
  · rfl

/-- If the lines until the farewell are those of some texts, all of these lines are texts, and those
that are not blank are heard. -/
theorem heard_of_openLines {input : List UInt8} {texts : List String}
    (hlines : openLines input = (openTexts texts).map Text.toUtf8) :
    (∀ line ∈ openLines input, IsText line) ∧ heard input = audible (openTexts texts) := by
  refine ⟨?_, ?_⟩
  · intro line hmem
    rw [hlines] at hmem
    obtain ⟨text, -, rfl⟩ := List.mem_map.1 hmem
    simp [IsText, Text.ofUtf8?_toUtf8]
  · have hsome : Text.ofUtf8? ∘ Text.toUtf8 = some := funext Text.ofUtf8?_toUtf8
    rw [heard, hlines, List.filterMap_map, hsome, List.filterMap_some]

/-- Of typed lines and a last one those are heard that stand in front of the first farewell and are
not blank. -/
theorem heard_typed_last (lines : List TypedLine) {last : String} (hfeed : '\n' ∉ last.toList) :
    let input := typed lines ++ Text.toUtf8 last
    (∀ line ∈ openLines input, IsText line) ∧
      heard input = audible (openTexts (lines.map TypedLine.text ++ [last])) := by
  intro input
  let more := if (Text.toUtf8 last).isEmpty then [] else [last]
  have hlines : openLines input =
      (openTexts (lines.map TypedLine.text ++ more)).map Text.toUtf8 := by
    rw [openLines, inputLines_typed_append, inputLines_last hfeed, ← List.map_append,
      untilFarewell_map_toUtf8]
  obtain ⟨htexts, hheard⟩ := heard_of_openLines hlines
  refine ⟨htexts, hheard.trans ?_⟩
  by_cases hempty : (Text.toUtf8 last).isEmpty = true
  · have hlast : last = "" := by
      have hread := Text.ofUtf8?_toUtf8 last
      rw [List.isEmpty_iff.1 hempty] at hread
      exact (Option.some.inj hread).symm
    have hblank : trimmed last = "" := by rw [hlast]; rfl
    rw [show more = [] from if_pos hempty, List.append_nil, audible_openTexts_append hblank]
  · rw [show more = [last] from if_neg hempty]

/-- Behind a farewell among typed lines any bytes may stand. -/
theorem heard_typed_farewell {lines : List TypedLine}
    (hfarewell : ∃ line ∈ lines, trimmed line.text ∈ farewells) (rest : List UInt8) :
    let input := typed lines ++ rest
    (∀ line ∈ openLines input, IsText line) ∧
      heard input = audible (openTexts (lines.map TypedLine.text)) := by
  intro input
  have hclosed : ∃ line ∈ (lines.map TypedLine.text).map Text.toUtf8, isFarewell line = true := by
    obtain ⟨line, hline, hfarewell⟩ := hfarewell
    refine ⟨_, List.mem_map_of_mem (List.mem_map_of_mem hline), ?_⟩
    simp [isFarewell, Text.ofUtf8?_toUtf8, hfarewell]
  refine heard_of_openLines ?_
  rw [openLines, inputLines_typed_append, untilFarewell_append hclosed, untilFarewell_map_toUtf8]

/-! ## Two inputs -/

/-- Only a chat reads its input. -/
theorem run_congr_heard (around : Surroundings) (args : List String) {input other : List UInt8}
    (hinput : ∀ line ∈ openLines input, IsText line)
    (hother : ∀ line ∈ openLines other, IsText line) (hheard : heard input = heard other) :
    run { around with input := input } args = run { around with input := other } args := by
  unfold run
  cases Arguments.parse args with
  | error cause => cases cause <;> rfl
  | ok arguments =>
    obtain ⟨path, seed, task⟩ := arguments
    cases task with
    | run => exact runChat_congr_heard around path seed hinput hother hheard
    | exec => rfl
    | commands => rfl
    | version => rfl
    | initConfig => rfl

/-- Two inputs in which the same lines are heard make the program end alike.  Heard of typed lines
are those in front of the first farewell that are not blank, whatever ends them; a last line may
end with the input, and behind a farewell any bytes may stand. -/
theorem run_eq_of_heard_eq (around : Surroundings) (args : List String) :
    (∀ input other : List UInt8, (∀ line ∈ openLines input, IsText line) →
      (∀ line ∈ openLines other, IsText line) → heard input = heard other →
        run { around with input := input } args = run { around with input := other } args) ∧
    (∀ (lines : List TypedLine) (last : String), '\n' ∉ last.toList →
      let input := typed lines ++ Text.toUtf8 last
      (∀ line ∈ openLines input, IsText line) ∧
        heard input = audible (openTexts (lines.map TypedLine.text ++ [last]))) ∧
    (∀ (lines : List TypedLine) (rest : List UInt8),
      (∃ line ∈ lines, trimmed line.text ∈ farewells) →
      let input := typed lines ++ rest
      (∀ line ∈ openLines input, IsText line) ∧
        heard input = audible (openTexts (lines.map TypedLine.text))) := by
  refine ⟨?_, ?_, ?_⟩
  · intro input other hinput hother hheard
    exact run_congr_heard around args hinput hother hheard
  · intro lines last hfeed
    exact heard_typed_last lines hfeed
  · intro lines rest hfarewell
    exact heard_typed_farewell hfarewell rest

/-- The same command is heard between blank lines with a farewell and bytes that are no text behind
it, and alone without an end. -/
theorem run_eq_of_heard_fortune :
    let lines : List TypedLine :=
      [⟨" \t", .feed, by decide, by decide⟩, ⟨"/fortune 2", .returnFeed, by decide, by decide⟩,
        ⟨"", .returnFeed, by decide, by decide⟩, ⟨" /quit", .feed, by decide, by decide⟩]
    let input := typed lines ++ [0xFF, lineFeed]
    let other := Text.toUtf8 "/fortune 2"
    (∃ line ∈ lines, trimmed line.text ∈ farewells) ∧ '\n' ∉ "/fortune 2".toList ∧
      (∀ line ∈ openLines input, IsText line) ∧ (∀ line ∈ openLines other, IsText line) ∧
      heard input = ["/fortune 2"] ∧ heard other = ["/fortune 2"] ∧
      run { Surroundings.bare with input := input } ["run"] =
        run { Surroundings.bare with input := other } ["run"] := by
  intro lines input other
  obtain ⟨hsame, hlast, hclosed⟩ := run_eq_of_heard_eq .bare ["run"]
  have hfarewell : ∃ line ∈ lines, trimmed line.text ∈ farewells :=
    ⟨_, List.mem_of_getLast? rfl, by decide⟩
  obtain ⟨hinput, hheardInput⟩ := hclosed lines [0xFF, lineFeed] hfarewell
  obtain ⟨hother, hheardOther⟩ := hlast [] "/fortune 2" (by decide)
  have hheard : audible (openTexts (lines.map TypedLine.text)) = ["/fortune 2"] := by
    decide +kernel
  have hheard' : audible (openTexts ["/fortune 2"]) = ["/fortune 2"] := by decide +kernel
  refine ⟨hfarewell, by decide, hinput, hother, hheardInput.trans hheard,
    hheardOther.trans hheard', hsame input other hinput hother ?_⟩
  rw [hheardInput, hheard]
  exact (hheardOther.trans hheard').symm

end SlashChat.Program
