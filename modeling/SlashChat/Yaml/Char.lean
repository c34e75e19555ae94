/-!
# Characters of YAML

The classes of characters that decide how a YAML text is read and written.  A line break is one of
five characters, of which the line and paragraph separators keep their identity when lines are
folded and the others read as a line feed.
-/

set_option autoImplicit false

namespace SlashChat.Yaml

/-- A blank or a tab. -/
def isBlank (c : Char) : Bool := c == ' ' || c == '\t'

/-- A character that ends a line. -/
def isBreak (c : Char) : Bool :=
  c == '\n' || c == '\r' || c.toNat == 0x85 || c.toNat == 0x2028 || c.toNat == 0x2029

/-- A character that stands between words: a blank, a tab or a line break. -/
def isGap (c : Char) : Bool := isBlank c || isBreak c

/-- A character that a document may hold. -/
def isReadable (c : Char) : Bool :=
  let n := c.toNat
  n == 0x09 || n == 0x0A || n == 0x0D || (0x20 ≤ n && n ≤ 0x7E) || n == 0x85 ||
    (0xA0 ≤ n && n ≤ 0xD7FF) || (0xE000 ≤ n && n ≤ 0xFFFD) || 0x10000 ≤ n

/-- A character that is written as it stands; every other needs an escape. -/
def isPrintable (c : Char) : Bool :=
  let n := c.toNat
  n == 0x0A || (0x20 ≤ n && n ≤ 0x7E) || (0xA0 ≤ n && n ≤ 0xD7FF) ||
    (0xE000 ≤ n && n ≤ 0xFFFD && n != 0xFEFF) || 0x10000 ≤ n

/-- A character of an anchor's name or a tag's handle. -/
def isWord (c : Char) : Bool := c.isAlphanum || c == '_' || c == '-'

/-- Whether a text stops here for a word: at its end or at a gap. -/
def endsWord : List Char → Bool
  | [] => true
  | c :: _ => isGap c

/-- The single quote. -/
def apostrophe : Char := Char.ofNat 0x27

/-- The mark that may open a text and stands for nothing. -/
def byteOrderMark : Char := Char.ofNat 0xFEFF

end SlashChat.Yaml
