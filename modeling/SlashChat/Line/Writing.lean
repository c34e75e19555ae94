import SlashChat.Text.Space

/-!
# Writing tokens

How tokens are written so that the line is cut back into them.  A token without a double quote goes
between double quotes; one that holds a quote can only stand bare, so white space in it or a quote
at its front puts it out of reach of every line.
-/

set_option autoImplicit false

namespace SlashChat.Line

open Text (isSpace)

/-- Whether a line can hold a token: without a quote it can, and otherwise if it can stand bare. -/
def isWritable (token : List Char) : Bool :=
  !token.contains '"' || (token.head?.any (· != '"') && token.all (!isSpace ·))

/-- A token as it is written. -/
def writeToken (token : List Char) : List Char :=
  if token.contains '"' then token else '"' :: (token ++ ['"'])

/-- The line that tokens are written as, with a blank between two tokens. -/
def write : List (List Char) → List Char
  | [] => []
  | [token] => writeToken token
  | token :: rest => writeToken token ++ ' ' :: write rest

end SlashChat.Line
