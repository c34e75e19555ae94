import SlashChat.Text.Unprintable

/-!
# Quoted texts

How the log and error messages show a text: between double quotes, with a backslash in front of
quotes and backslashes, short escapes for a few control characters, and the code point in braces
for every other character that does not print.  Lists of texts go in square brackets.
-/

set_option autoImplicit false

namespace SlashChat.Text

/-- The digits of a number in lower-case hexadecimal. -/
def hexLower (n : Nat) : List Char := Nat.toDigits 16 n

/-- One character as it stands inside double quotes. -/
def quoteChar (c : Char) : List Char :=
  if c = '"' then ['\\', '"']
  else if c = '\\' then ['\\', '\\']
  else if c = '\n' then ['\\', 'n']
  else if c = '\r' then ['\\', 'r']
  else if c = '\t' then ['\\', 't']
  else if c.toNat = 0 then ['\\', '0']
  else if isUnprintable c then '\\' :: 'u' :: '\x7b' :: (hexLower c.toNat ++ ['\x7d'])
  else [c]

/-- A text between double quotes. -/
def quote (text : String) : String :=
  String.ofList ('"' :: (text.toList.flatMap quoteChar ++ ['"']))

/-- A list of texts, each between double quotes. -/
def quoteList (texts : List String) : String :=
  "[" ++ String.intercalate ", " (texts.map quote) ++ "]"

end SlashChat.Text
