import SlashChat.Text.Digits
import SlashChat.Yaml.Gap

/-!
# Quoted scalars

Between single quotes only the quote itself is special, and is written twice.  Between double
quotes a backslash starts an escape sequence, or hides the line break that it stands in front of.
Gaps between words are folded in both.
-/

set_option autoImplicit false

namespace SlashChat.Yaml.Quoted

/-- The character that a one-letter escape sequence means. -/
def letter? (c : Char) : Option Char :=
  match c with
  | '0' => some (Char.ofNat 0x00)
  | 'a' => some (Char.ofNat 0x07)
  | 'b' => some (Char.ofNat 0x08)
  | 't' => some '\t'
  | '\t' => some '\t'
  | 'n' => some '\n'
  | 'v' => some (Char.ofNat 0x0B)
  | 'f' => some (Char.ofNat 0x0C)
  | 'r' => some '\r'
  | 'e' => some (Char.ofNat 0x1B)
  | ' ' => some ' '
  | '"' => some '"'
  | '/' => some '/'
  | '\\' => some '\\'
  | 'N' => some (Char.ofNat 0x85)
  | '_' => some (Char.ofNat 0xA0)
  | 'L' => some (Char.ofNat 0x2028)
  | 'P' => some (Char.ofNat 0x2029)
  | _ => none

/-- How many digits an escape sequence by code point has. -/
def codeLength? (c : Char) : Option Nat :=
  match c with
  | 'x' => some 2
  | 'u' => some 4
  | 'U' => some 8
  | _ => none

/-- The character of a code point; surrogates and larger numbers have none. -/
def charOf? (n : Nat) : Option Char := if n.isValidChar then some (Char.ofNat n) else none

/-- The escape sequence whose letter is at a place, and the place behind it. -/
def escape (cursor : Cursor) : Except Fault (Char × Cursor) :=
  match cursor.rest with
  | [] => .error .badEscape
  | c :: rest =>
    match letter? c with
    | some meant => .ok (meant, cursor.skip 1)
    | none =>
      match codeLength? c with
      | none => .error .badEscape
      | some length =>
        if (rest.take length).length == length then
          match (Text.natural? 16 (rest.take length)).bind charOf? with
          | some meant => .ok (meant, cursor.skip (1 + length))
          | none => .error .badEscape
        else .error .badEscape

/-- Reads the inside of a quoted scalar, from behind its opening quote, and its closing quote.
`text` is what has been read so far, backwards. -/
def readOn (double : Bool) : Nat → Cursor → List Char → Except Fault (List Char × Cursor)
  | 0, _, _ => .error .openQuote
  | fuel + 1, cursor, text =>
    if cursor.atDocumentMarker then .error .openQuote
    else
      match cursor.rest with
      | [] => .error .openQuote
      | c :: rest =>
        if isGap c then
          match Gap.read 0 false cursor with
          | .error fault => .error fault
          | .ok (gap, cursor) => readOn double fuel cursor (gap.text.reverse ++ text)
        else if double then
          if c == '"' then .ok (text.reverse, cursor.skip 1)
          else if c == '\\' then
            match (cursor.skip 1).break? with
            | some (_, cursor) =>
              match Gap.read 0 true cursor with
              | .error fault => .error fault
              | .ok (gap, cursor) => readOn double fuel cursor (gap.text.reverse ++ text)
            | none =>
              match escape (cursor.skip 1) with
              | .error fault => .error fault
              | .ok (meant, cursor) => readOn double fuel cursor (meant :: text)
          else readOn double fuel (cursor.skip 1) (c :: text)
        else if c == apostrophe then
          if rest.head? == some apostrophe then
            readOn double fuel (cursor.skip 2) (apostrophe :: text)
          else .ok (text.reverse, cursor.skip 1)
        else readOn double fuel (cursor.skip 1) (c :: text)

/-- Reads the quoted scalar whose opening quote is at a place. -/
def read (double : Bool) (cursor : Cursor) : Except Fault (List Char × Cursor) :=
  readOn double cursor.rest.length (cursor.skip 1) []

end SlashChat.Yaml.Quoted
