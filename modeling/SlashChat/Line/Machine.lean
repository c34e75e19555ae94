import SlashChat.Text.Space

/-!
# Tokens, character by character

The same cutting of a line as in `SlashChat.Line.Token`, by a machine that looks at every character
once and never back.  It stands in a gap, in a bare token or in a quoted one.
-/

set_option autoImplicit false

namespace SlashChat.Line

open Text (isSpace)

/-- Where the machine stands, with the part of the token that it has read. -/
inductive Station
  | gap
  | bare (token : List Char)
  | quoted (token : List Char)
deriving DecidableEq, Repr, Inhabited

namespace Station

/-- The station behind a character, and the token that ends at it, if one does. -/
def step : Station → Char → Station × Option (List Char)
  | .gap, c =>
    if isSpace c then (.gap, none)
    else if c = '"' then (.quoted [], none)
    else (.bare [c], none)
  | .bare token, c => if isSpace c then (.gap, some token) else (.bare (token ++ [c]), none)
  | .quoted token, c => if c = '"' then (.gap, some token) else (.quoted (token ++ [c]), none)

/-- The token that ends with the line, if one does; a quoted one cannot. -/
def finish : Station → Option (List (List Char))
  | .gap => some []
  | .bare token => some [token]
  | .quoted _ => none

/-- The tokens that end in the rest of a line; `none` when a quote is left open. -/
def run : Station → List Char → Option (List (List Char))
  | station, [] => station.finish
  | station, c :: rest =>
    let (next, ended) := station.step c
    (run next rest).map (ended.toList ++ ·)

end Station

/-- The tokens of a line, by the machine. -/
def machineTokens? (line : List Char) : Option (List (List Char)) := Station.gap.run line

end SlashChat.Line
