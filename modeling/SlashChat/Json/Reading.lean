import SlashChat.Json
import SlashChat.Text.Digits

/-!
# Reading JSON text

Reads texts, lists and records back from JSON, in any layout.  Blanks and line breaks between the
parts do not count; the fields of a record keep their order.  Numbers and the three words of JSON
stand for nothing that is written here, so a text that holds one is not read.
-/

set_option autoImplicit false

namespace SlashChat.Json

/-- A character that does not count between the parts of a JSON text. -/
def isFiller (c : Char) : Bool := c == ' ' || c == '\n' || c == '\r' || c == '\t'

/-- What is left behind the characters at the front that do not count. -/
def skipFiller (source : List Char) : List Char := source.dropWhile isFiller

/-- The character that a short escape means. -/
def shortEscape? (c : Char) : Option Char :=
  match c with
  | '"' => some '"'
  | '\\' => some '\\'
  | '/' => some '/'
  | 'b' => some (Char.ofNat 0x08)
  | 'f' => some (Char.ofNat 0x0C)
  | 'n' => some '\n'
  | 'r' => some '\r'
  | 't' => some '\t'
  | _ => none

/-- The character that the two halves of a code point beyond U+FFFF make. -/
def joined? (high low : Nat) : Option Char :=
  if 0xD800 ≤ high ∧ high < 0xDC00 ∧ 0xDC00 ≤ low ∧ low < 0xE000 then
    some (Char.ofNat (0x10000 + (high - 0xD800) * 0x400 + (low - 0xDC00)))
  else none

/-- The character that an escape means, from behind its backslash, and what stands behind it. -/
def escape? : List Char → Option (Char × List Char)
  | 'u' :: a :: b :: c :: d :: rest =>
    match Text.natural? 16 [a, b, c, d] with
    | none => none
    | some n =>
      if n.isValidChar then some (Char.ofNat n, rest)
      else
        match rest with
        | '\\' :: 'u' :: e :: f :: g :: h :: rest =>
          ((Text.natural? 16 [e, f, g, h]).bind (joined? n)).map fun meant => (meant, rest)
        | _ => none
  | c :: rest => (shortEscape? c).map fun meant => (meant, rest)
  | [] => none

/-- Reads the inside of a JSON string and its closing quote; every character takes up fuel. -/
def readChars : Nat → List Char → Option (List Char × List Char)
  | 0, _ => none
  | _ + 1, [] => none
  | fuel + 1, c :: rest =>
    if c = '"' then some ([], rest)
    else if c = '\\' then
      match escape? rest with
      | none => none
      | some (meant, rest) =>
        (readChars fuel rest).map fun (chars, rest) => (meant :: chars, rest)
    else if c.toNat < 0x20 then none
    else (readChars fuel rest).map fun (chars, rest) => (c :: chars, rest)

/-- Reads the inside of a JSON string and its closing quote. -/
def readString (source : List Char) : Option (String × List Char) :=
  (readChars source.length source).map fun (chars, rest) => (String.ofList chars, rest)

mutual

/-- Reads a value, and what stands behind it. -/
def readValue : Nat → List Char → Option (Json × List Char)
  | 0, _ => none
  | fuel + 1, source =>
    match skipFiller source with
    | '"' :: rest => (readString rest).map fun (value, rest) => (.text value, rest)
    | '[' :: rest =>
      match skipFiller rest with
      | ']' :: rest => some (.list [], rest)
      | rest => (readItems fuel rest).map fun (items, rest) => (.list items, rest)
    | '\x7b' :: rest =>
      match skipFiller rest with
      | '\x7d' :: rest => some (.record [], rest)
      | rest => (readFields fuel rest).map fun (fields, rest) => (.record fields, rest)
    | _ => none

/-- Reads values between commas, and the closing bracket. -/
def readItems : Nat → List Char → Option (List Json × List Char)
  | 0, _ => none
  | fuel + 1, source =>
    match readValue fuel source with
    | none => none
    | some (item, rest) =>
      match skipFiller rest with
      | ']' :: rest => some ([item], rest)
      | ',' :: rest => (readItems fuel rest).map fun (items, rest) => (item :: items, rest)
      | _ => none

/-- Reads keys and values between commas, and the closing brace. -/
def readFields : Nat → List Char → Option (List (String × Json) × List Char)
  | 0, _ => none
  | fuel + 1, source =>
    match readField fuel source with
    | none => none
    | some (field, rest) =>
      match skipFiller rest with
      | '\x7d' :: rest => some ([field], rest)
      | ',' :: rest => (readFields fuel rest).map fun (fields, rest) => (field :: fields, rest)
      | _ => none

/-- Reads a key, a colon and a value. -/
def readField : Nat → List Char → Option ((String × Json) × List Char)
  | 0, _ => none
  | fuel + 1, source =>
    match skipFiller source with
    | '"' :: rest =>
      match readString rest with
      | none => none
      | some (key, rest) =>
        match skipFiller rest with
        | ':' :: rest => (readValue fuel rest).map fun (value, rest) => ((key, value), rest)
        | _ => none
    | _ => none

end

/-- The value that a JSON text stands for, if it is one value and nothing else.  No call goes more
than two calls deep for a character, which is where the fuel comes from. -/
def read? (source : String) : Option Json :=
  match readValue (2 * source.toList.length + 1) source.toList with
  | some (value, rest) => if (skipFiller rest).isEmpty then some value else none
  | none => none

end SlashChat.Json
