import SlashChat.Yaml.Block
import SlashChat.Yaml.Plain
import SlashChat.Yaml.Property
import SlashChat.Yaml.Quoted

/-!
# From text to tokens

Cuts a YAML text into tokens.  Whether a scalar is a mapping's key shows only at the colon behind
it, so the lexer keeps the place where a key may have started; at the colon it puts the tokens that
open a mapping and a key in front of what has been read since.  Such a key stands on one line and
takes no more than 1024 bytes, blanks in front of the colon included.

Outside brackets the lexer keeps the columns of the open block collections.  `margin` is one more
than the column of the innermost, and zero when none is open.

In a text with a fault the tokens in front of it count, but only those that no colon further on
could have put a token in front of.
-/

set_option autoImplicit false

namespace SlashChat.Yaml

/-- A place where a key may have started. -/
structure KeyPlace where
  /-- How many tokens stand in front of it. -/
  tokens : Nat
  index : Nat
  line : Nat
  column : Nat
  /-- Whether only a key can stand there. -/
  required : Bool
deriving DecidableEq, Repr, Inhabited

/-- The tokens of a text, as far as it can be cut into tokens. -/
structure Lexed where
  tokens : List Token
  /-- What is wrong behind these tokens. -/
  fault : Option Fault := none
deriving DecidableEq, Repr, Inhabited

/-- A text that has been cut into tokens up to a place. -/
structure Lexer where
  cursor : Cursor
  /-- The tokens so far, the newest first. -/
  tokens : List Token := []
  /-- One more than the column of the innermost open block collection. -/
  margin : Nat := 0
  /-- The margins that the open block collections had outside. -/
  margins : List Nat := []
  /-- Whether a key may start at the next token. -/
  keyAllowed : Bool := true
  /-- Where a key may have started inside the innermost brackets. -/
  place : Option KeyPlace := none
  /-- The same for the brackets outside. -/
  outer : List (Option KeyPlace) := []
deriving Repr, Inhabited

namespace Lexer

/-- How many bytes a key on one line may take. -/
def keyLimit : Nat := 1024

/-- Whether the lexer is inside brackets. -/
def inFlow (lexer : Lexer) : Bool := !lexer.outer.isEmpty

/-- Adds a token. -/
def push (lexer : Lexer) (token : Token) : Lexer :=
  { lexer with tokens := token :: lexer.tokens }

/-- Adds a token behind the first `n` tokens. -/
def insertAt (lexer : Lexer) (n : Nat) (token : Token) : Lexer :=
  let newer := lexer.tokens.length - n
  { lexer with tokens := lexer.tokens.take newer ++ token :: lexer.tokens.drop newer }

/-- The place of a key, if it can still be one; a required one that cannot is a fault. -/
def freshPlace (cursor : Cursor) : Option KeyPlace → Except Fault (Option KeyPlace)
  | none => .ok none
  | some place =>
    if place.line < cursor.line || place.index + keyLimit < cursor.index then
      if place.required then .error .keyWithoutColon else .ok none
    else .ok (some place)

/-- Drops the places of keys that are out of reach. -/
def refresh (lexer : Lexer) : Except Fault Lexer := do
  let place ← freshPlace lexer.cursor lexer.place
  let outer ← lexer.outer.mapM (freshPlace lexer.cursor)
  return { lexer with place, outer }

/-- Drops the place of a key; a required one is a fault. -/
def dropPlace (lexer : Lexer) : Except Fault Lexer :=
  if lexer.place.any (·.required) then .error .keyWithoutColon
  else .ok { lexer with place := none }

/-- Keeps the present place as that of a key, if one may start here. -/
def savePlace (lexer : Lexer) : Except Fault Lexer :=
  if lexer.keyAllowed then do
    let cursor := lexer.cursor
    let lexer ← lexer.dropPlace
    return { lexer with
      place := some {
        tokens := lexer.tokens.length
        index := cursor.index
        line := cursor.line
        column := cursor.column
        required := !lexer.inFlow && lexer.margin == cursor.column + 1 } }
  else .ok lexer

/-- Opens a block collection at a column behind the first `n` tokens, if it is further right than
the innermost that is open. -/
def indent (lexer : Lexer) (column n : Nat) (token : Token) : Lexer :=
  if !lexer.inFlow && lexer.margin ≤ column then
    { lexer.insertAt n token with
      margin := column + 1
      margins := lexer.margin :: lexer.margins }
  else lexer

/-- Closes the block collections whose margin is beyond `margin`, given the margins to go back to. -/
def closeTo (margin : Nat) : (margins : List Nat) → Lexer → Lexer
  | [], lexer => lexer
  | outside :: margins, lexer =>
    if margin < lexer.margin then
      closeTo margin margins { lexer.push .blockEnd with margin := outside, margins }
    else lexer

/-- Closes the block collections whose margin is beyond `margin`; inside brackets none is closed. -/
def dedent (lexer : Lexer) (margin : Nat) : Lexer :=
  if lexer.inFlow then lexer else closeTo margin lexer.margins lexer

/-- The place of the next token: behind blanks, comments and line breaks, and behind the byte order
mark that a line may start with.  Outside brackets a line break lets a key start, and where a key
may start no tab counts as a blank. -/
def nextPlace (flow : Bool) : Nat → Cursor → (keyAllowed : Bool) → Cursor × Bool
  | 0, cursor, keyAllowed => (cursor, keyAllowed)
  | fuel + 1, cursor, keyAllowed =>
    let cursor :=
      if cursor.column == 0 && cursor.rest.head? == some byteOrderMark then cursor.skip 1 else cursor
    let cursor := cursor.skipWhile fun c => c == ' ' || ((flow || !keyAllowed) && c == '\t')
    let cursor :=
      if cursor.rest.head? == some '#' then cursor.skipWhile fun c => !isBreak c else cursor
    match cursor.break? with
    | some (_, cursor) => nextPlace flow fuel cursor (keyAllowed || !flow)
    | none => (cursor, keyAllowed)

/-- Moves to the next token, and closes the block collections that it is left of. -/
def advance (lexer : Lexer) : Except Fault Lexer := do
  let (cursor, keyAllowed) :=
    nextPlace lexer.inFlow (lexer.cursor.rest.length + 1) lexer.cursor lexer.keyAllowed
  let lexer ← refresh { lexer with cursor, keyAllowed }
  return lexer.dedent (cursor.column + 1)

/-- Adds a token of `n` characters that no key can start at or reach over. -/
def indicator (lexer : Lexer) (keyAllowed : Bool) (n : Nat) (token : Token) :
    Except Fault Lexer := do
  let lexer ← lexer.dropPlace
  return { lexer.push token with keyAllowed, cursor := lexer.cursor.skip n }

/-- Adds the token of an opening bracket. -/
def openBracket (lexer : Lexer) (token : Token) : Except Fault Lexer := do
  let lexer ← lexer.savePlace
  return { lexer.push token with
    keyAllowed := true
    cursor := lexer.cursor.skip 1
    place := none
    outer := lexer.place :: lexer.outer }

/-- Adds the token of a closing bracket. -/
def closeBracket (lexer : Lexer) (token : Token) : Except Fault Lexer := do
  let lexer ← lexer.dropPlace
  let lexer := { lexer.push token with keyAllowed := false, cursor := lexer.cursor.skip 1 }
  match lexer.outer with
  | [] => return lexer
  | place :: outer => return { lexer with place, outer }

/-- Opens a block collection for the indicator at the present place, where one may stand. -/
def openBlock (lexer : Lexer) (token : Token) : Except Fault Lexer :=
  if lexer.inFlow then .ok lexer
  else if lexer.keyAllowed then .ok (lexer.indent lexer.cursor.column lexer.tokens.length token)
  else .error .misplaced

/-- Adds the token of a dash. -/
def dash (lexer : Lexer) : Except Fault Lexer := do
  (← lexer.openBlock .blockSequence).indicator true 1 .dash

/-- Adds the token of a question mark. -/
def question (lexer : Lexer) : Except Fault Lexer := do
  (← lexer.openBlock .blockMapping).indicator (!lexer.inFlow) 1 .key

/-- Adds the token of a colon, and those of the key in front of it. -/
def colon (lexer : Lexer) : Except Fault Lexer :=
  match lexer.place with
  | some place =>
    let lexer := lexer.insertAt place.tokens .key
    let lexer := lexer.indent place.column place.tokens .blockMapping
    .ok { lexer.push .value with
      keyAllowed := false
      place := none
      cursor := lexer.cursor.skip 1 }
  | none => do
    let lexer ← lexer.openBlock .blockMapping
    return { lexer.push .value with
      keyAllowed := !lexer.inFlow
      cursor := lexer.cursor.skip 1 }

/-- Adds an anchor or an alias. -/
def anchor (lexer : Lexer) (token : String → Token) : Except Fault Lexer := do
  let lexer ← lexer.savePlace
  let (name, cursor) ← Property.anchorName lexer.cursor
  return { lexer.push (token name) with keyAllowed := false, cursor }

/-- Adds a tag. -/
def tag (lexer : Lexer) : Except Fault Lexer := do
  let lexer ← lexer.savePlace
  let (token, cursor) ← Property.tag lexer.inFlow lexer.cursor
  return { lexer.push token with keyAllowed := false, cursor }

/-- Adds a block scalar. -/
def block (lexer : Lexer) (style : ScalarStyle) : Except Fault Lexer := do
  let lexer ← lexer.dropPlace
  let (text, cursor) ← Block.read (style == .literal) lexer.margin lexer.cursor
  return { lexer.push (.scalar style (String.ofList text)) with keyAllowed := true, cursor }

/-- Adds a quoted scalar. -/
def quoted (lexer : Lexer) (style : ScalarStyle) : Except Fault Lexer := do
  let lexer ← lexer.savePlace
  let (text, cursor) ← Quoted.read (style == .doubleQuoted) lexer.cursor
  return { lexer.push (.scalar style (String.ofList text)) with keyAllowed := false, cursor }

/-- Adds a plain scalar; behind one that ends in a line break a key may start. -/
def plain (lexer : Lexer) : Except Fault Lexer := do
  let lexer ← lexer.savePlace
  let reading ← Plain.read lexer.inFlow lexer.margin lexer.cursor
  return { lexer.push (.scalar .plain (String.ofList reading.text)) with
    keyAllowed := reading.broken
    cursor := reading.cursor }

/-- Adds a directive. -/
def directive (lexer : Lexer) : Except Fault Lexer := do
  let lexer ← (lexer.dedent 0).dropPlace
  let (token, cursor) ← Property.directive lexer.cursor
  return { lexer.push token with keyAllowed := false, cursor }

/-- Whether a plain scalar can start with these characters. -/
def startsPlain (flow : Bool) (c : Char) (rest : List Char) : Bool :=
  let indicator := c == '-' || c == '?' || c == ':' || c == ',' || c == '[' || c == ']' ||
    c == '\x7b' || c == '\x7d' || c == '#' || c == '&' || c == '*' || c == '!' || c == '|' ||
    c == '>' || c == apostrophe || c == '"' || c == '%' || c == '@' || c == Char.ofNat 0x60
  !(isGap c || indicator) || (c == '-' && !rest.head?.any isBlank) ||
    (!flow && (c == '?' || c == ':') && !endsWord rest)

/-- Adds the token at the present place. -/
def token (lexer : Lexer) (c : Char) (rest : List Char) : Except Fault Lexer :=
  let cursor := lexer.cursor
  let flow := lexer.inFlow
  if cursor.column == 0 && c == '%' then lexer.directive
  else if cursor.atMarker '-' then (lexer.dedent 0).indicator false 3 .documentStart
  else if cursor.atMarker '.' then (lexer.dedent 0).indicator false 3 .documentEnd
  else if c == '[' then lexer.openBracket .flowSequence
  else if c == '\x7b' then lexer.openBracket .flowMapping
  else if c == ']' then lexer.closeBracket .flowSequenceEnd
  else if c == '\x7d' then lexer.closeBracket .flowMappingEnd
  else if c == ',' then lexer.indicator true 1 .comma
  else if c == '-' && endsWord rest then lexer.dash
  else if c == '?' && (flow || endsWord rest) then lexer.question
  else if c == ':' && (flow || endsWord rest) then lexer.colon
  else if c == '*' then lexer.anchor .alias
  else if c == '&' then lexer.anchor .anchor
  else if c == '!' then lexer.tag
  else if c == '|' && !flow then lexer.block .literal
  else if c == '>' && !flow then lexer.block .folded
  else if c == apostrophe then lexer.quoted .singleQuoted
  else if c == '"' then lexer.quoted .doubleQuoted
  else if startsPlain flow c rest then lexer.plain
  else .error .misplaced

/-- Adds the token at the present place, and drops the places of keys that are out of its reach. -/
def next (lexer : Lexer) (c : Char) (rest : List Char) : Except Fault Lexer := do
  (← lexer.token c rest).refresh

/-- The tokens of a text that ends here.  No place can be left where only a key can stand. -/
def close (lexer : Lexer) : Except Fault (List Token) := do
  let lexer ← (lexer.dedent 0).dropPlace
  if lexer.outer.any fun place => place.any (·.required) then .error .keyWithoutColon
  else return lexer.tokens.reverse

/-- How many tokens are settled: those in front of every place where a key may have started. -/
def settled (lexer : Lexer) : Nat :=
  (lexer.place :: lexer.outer).foldl (fun n place => place.elim n fun place => min n place.tokens)
    lexer.tokens.length

/-- The tokens of a text in which a fault comes next. -/
def stop (lexer : Lexer) (fault : Fault) : Lexed where
  tokens := lexer.tokens.reverse.take lexer.settled
  fault := some fault

/-- Adds the tokens of the rest of the text.  Every round but the last adds a token that is not
empty, so there is fuel for as many rounds as there are characters. -/
def run : Nat → Lexer → Lexed
  | 0, lexer => lexer.stop .exhausted
  | fuel + 1, lexer =>
    match lexer.advance with
    | .error fault => lexer.stop fault
    | .ok ahead =>
      match ahead.cursor.rest with
      | [] =>
        match ahead.close with
        | .error fault => lexer.stop fault
        | .ok tokens => { tokens }
      | c :: rest =>
        match ahead.next c rest with
        | .error fault => lexer.stop fault
        | .ok lexer => run fuel lexer

end Lexer

/-- The tokens of a text. -/
def tokens (text : String) : Lexed :=
  let chars := text.toList
  if chars.all isReadable then Lexer.run (chars.length + 1) { cursor := { rest := chars } }
  else { tokens := [], fault := some .unreadable }

end SlashChat.Yaml
