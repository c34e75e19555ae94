/-!
# JSON text

The two layouts in which the program writes JSON: compact, and spread over lines with two blanks of
indentation a level.  Only texts, lists and records with text keys are written.  Quotes and
backslashes are escaped, and control characters below U+0020; all else stands as it is.
-/

set_option autoImplicit false

namespace SlashChat

/-- A value that is written as JSON. -/
inductive Json where
  | text (value : String)
  | list (items : List Json)
  | record (fields : List (String × Json))
deriving Repr, Inhabited

namespace Json

/-- A digit of a hexadecimal number, in lower case. -/
def hexDigit (n : Nat) : Char := Nat.digitChar (n % 16)

/-- One character as it stands inside a JSON string. -/
def escapeChar (c : Char) : List Char :=
  if c = '"' then ['\\', '"']
  else if c = '\\' then ['\\', '\\']
  else if c.toNat = 0x08 then ['\\', 'b']
  else if c.toNat = 0x0C then ['\\', 'f']
  else if c = '\n' then ['\\', 'n']
  else if c = '\r' then ['\\', 'r']
  else if c = '\t' then ['\\', 't']
  else if c.toNat < 0x20 then ['\\', 'u', '0', '0', hexDigit (c.toNat / 16), hexDigit c.toNat]
  else [c]

/-- A text as a JSON string. -/
def string (value : String) : List Char := '"' :: (value.toList.flatMap escapeChar ++ ['"'])

mutual

/-- The compact layout. -/
def compactChars : Json → List Char
  | .text value => string value
  | .list items => '[' :: (compactItems items ++ [']'])
  | .record fields => '\x7b' :: (compactFields fields ++ ['\x7d'])

/-- Values between commas. -/
def compactItems : List Json → List Char
  | [] => []
  | [item] => compactChars item
  | item :: rest => compactChars item ++ ',' :: compactItems rest

/-- Keys and values between commas. -/
def compactFields : List (String × Json) → List Char
  | [] => []
  | [(key, value)] => string key ++ ':' :: compactChars value
  | (key, value) :: rest => string key ++ ':' :: compactChars value ++ ',' :: compactFields rest

end

/-- A line break and the indentation of a level. -/
def newLine (level : Nat) : List Char := '\n' :: List.replicate (2 * level) ' '

mutual

/-- The layout over lines, at a level of indentation. -/
def prettyChars (level : Nat) : Json → List Char
  | .text value => string value
  | .list [] => ['[', ']']
  | .list (item :: rest) =>
    '[' :: newLine (level + 1) ++ prettyItems (level + 1) (item :: rest) ++ newLine level ++ [']']
  | .record [] => ['\x7b', '\x7d']
  | .record (field :: rest) =>
    '\x7b' :: newLine (level + 1) ++ prettyFields (level + 1) (field :: rest) ++ newLine level ++
      ['\x7d']

/-- Values on lines of their own. -/
def prettyItems (level : Nat) : List Json → List Char
  | [] => []
  | [item] => prettyChars level item
  | item :: rest => prettyChars level item ++ ',' :: newLine level ++ prettyItems level rest

/-- Keys and values on lines of their own. -/
def prettyFields (level : Nat) : List (String × Json) → List Char
  | [] => []
  | [(key, value)] => string key ++ ':' :: ' ' :: prettyChars level value
  | (key, value) :: rest =>
    string key ++ ':' :: ' ' :: prettyChars level value ++ ',' :: newLine level ++
      prettyFields level rest

end

/-- The compact layout. -/
def compact (value : Json) : String := String.ofList value.compactChars

/-- The layout over lines. -/
def pretty (value : Json) : String := String.ofList (value.prettyChars 0)

end Json

end SlashChat
