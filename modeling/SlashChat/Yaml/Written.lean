import SlashChat.Yaml.Char
import SlashChat.Yaml.Token
import SlashChat.Yaml.Value

/-!
# Written scalars

How a text is written as the value of a key in a block mapping.  A text with a line feed becomes a
literal block scalar.  Any other is written plain, or between single quotes if a plain scalar would
not read as this text.  What a style cannot hold goes between double quotes, with escapes.  Lines
are never folded.
-/

set_option autoImplicit false

namespace SlashChat.Yaml.Written

/-! ## What a text holds -/

/-- Whether somewhere a character of the first kind is followed by one of the second. -/
def hasPair (p q : Char → Bool) : List Char → Bool
  | a :: b :: rest => (p a && q b) || hasPair p q (b :: rest)
  | _ => false

/-- A blank, and no tab. -/
def isSpace (c : Char) : Bool := c == ' '

/-- A character that starts something other than a plain scalar. -/
def isStartIndicator (c : Char) : Bool :=
  c == '#' || c == ',' || c == '[' || c == ']' || c == '\x7b' || c == '\x7d' || c == '&' ||
    c == '*' || c == '!' || c == '|' || c == '>' || c == apostrophe || c == '"' || c == '%' ||
    c == '@' || c == Char.ofNat 0x60

/-- Whether a text starts with an indicator, or with a character that is one before a gap. -/
def startsWithIndicator : List Char → Bool
  | [] => false
  | c :: rest =>
    isStartIndicator c || ((c == '?' || c == ':' || c == '-') && endsWord rest)

/-- Whether a colon in front of a gap, or a number sign behind one, stands behind the first
character of a text. -/
def hasInnerIndicator : List Char → Bool
  | a :: b :: rest =>
    (b == ':' && endsWord rest) || (b == '#' && isGap a) || hasInnerIndicator (b :: rest)
  | _ => false

/-- Whether a text starts like a document marker. -/
def startsWithMarker (text : List Char) : Bool :=
  text.take 3 == ['-', '-', '-'] || text.take 3 == ['.', '.', '.']

/-- Whether a text starts or ends with a blank or a line break. -/
def hasEdge (text : List Char) : Bool :=
  let edge (c : Char) : Bool := isSpace c || isBreak c
  text.head?.any edge || text.getLast?.any edge

/-- Whether a text holds a character that needs an escape, or a blank at the end of a line. -/
def needsEscape (text : List Char) : Bool :=
  !text.all isPrintable || hasPair isSpace isBreak text

/-! ## Styles -/

/-- Whether a text can be written plain. -/
def plainAllowed (text : List Char) : Bool :=
  !(hasEdge text || needsEscape text || text.any isBreak || startsWithMarker text ||
    startsWithIndicator text || hasInnerIndicator text)

/-- Whether a text can be written between single quotes. -/
def singleAllowed (text : List Char) : Bool :=
  !(needsEscape text || hasPair isBreak isSpace text)

/-- Whether a text can be written as a block scalar. -/
def blockAllowed (text : List Char) : Bool :=
  !(needsEscape text || text.getLast?.any isSpace)

/-- Whether a plain scalar of this text would stand for something else, or look as if it did. -/
def isAmbiguous (text : List Char) : Bool :=
  Value.ofPlain (String.ofList text) != .text (String.ofList text) || Value.hasNeedlessZero text

/-- The style in which a text is written. -/
def styleOf (text : List Char) : ScalarStyle :=
  if text.contains '\n' then
    if blockAllowed text then .literal else .doubleQuoted
  else if !isAmbiguous text && plainAllowed text then .plain
  else if singleAllowed text then .singleQuoted
  else .doubleQuoted

/-! ## Layouts -/

/-- The indentation of lines below a key. -/
def indentation : List Char := [' ', ' ', ' ', ' ']

/-- The text of lines, indented except behind a line break that another follows.  `fresh` says that
a line starts here. -/
def indented : (fresh : Bool) → List Char → List Char
  | _, [] => []
  | fresh, c :: rest =>
    if isBreak c then c :: indented true rest
    else if fresh then indentation ++ c :: indented false rest
    else c :: indented false rest

/-- A text between single quotes. -/
def single (text : List Char) : List Char :=
  let doubled := text.flatMap fun c => if c == apostrophe then [c, c] else [c]
  let closing := if text.getLast?.any isBreak then indentation else []
  apostrophe :: (indented false doubled ++ closing ++ [apostrophe])

/-- A digit in upper-case hexadecimal. -/
def hexDigit (n : Nat) : Char :=
  let d := n % 16
  if d < 10 then Char.ofNat ('0'.toNat + d) else Char.ofNat ('A'.toNat + (d - 10))

/-- The last `count` digits of a number in upper-case hexadecimal. -/
def hexDigits (n : Nat) : (count : Nat) → List Char
  | 0 => []
  | count + 1 => hexDigits (n / 16) count ++ [hexDigit n]

/-- The letter of the short escape of a character. -/
def shortEscape? (c : Char) : Option Char :=
  match c.toNat with
  | 0x00 => some '0'
  | 0x07 => some 'a'
  | 0x08 => some 'b'
  | 0x09 => some 't'
  | 0x0A => some 'n'
  | 0x0B => some 'v'
  | 0x0C => some 'f'
  | 0x0D => some 'r'
  | 0x1B => some 'e'
  | 0x22 => some '"'
  | 0x5C => some '\\'
  | 0x85 => some 'N'
  | 0xA0 => some '_'
  | 0x2028 => some 'L'
  | 0x2029 => some 'P'
  | _ => none

/-- A character as it stands between double quotes. -/
def escaped (c : Char) : List Char :=
  if isPrintable c && !isBreak c && c != '"' && c != '\\' then [c]
  else
    match shortEscape? c with
    | some letter => ['\\', letter]
    | none =>
      let n := c.toNat
      if n ≤ 0xFF then '\\' :: 'x' :: hexDigits n 2
      else if n ≤ 0xFFFF then '\\' :: 'u' :: hexDigits n 4
      else '\\' :: 'U' :: hexDigits n 8

/-- A text between double quotes. -/
def double (text : List Char) : List Char := '"' :: (text.flatMap escaped ++ ['"'])

/-- What a block scalar's header says about the line breaks at the end of a text. -/
def chompingSign (text : List Char) : List Char :=
  match text.reverse with
  | [] => ['-']
  | c :: rest =>
    if !isBreak c then ['-']
    else
      match rest with
      | [] => ['+']
      | d :: _ => if isBreak d then ['+'] else []

/-- What a block scalar's header says about its indentation: nothing, unless the first line would
mislead. -/
def indentationDigit (text : List Char) : List Char :=
  if text.head?.any fun c => isSpace c || isBreak c then ['2'] else []

/-- A text as a literal block scalar. -/
def literal (text : List Char) : List Char :=
  '|' :: (indentationDigit text ++ chompingSign text ++ '\n' :: indented true text)

/-- A text in a style. -/
def inStyle (style : ScalarStyle) (text : List Char) : List Char :=
  match style with
  | .plain => text
  | .singleQuoted => single text
  | .literal => literal text
  | .folded | .doubleQuoted => double text

/-- A text as the value of a key, up to the end of its last line. -/
def value (text : List Char) : List Char :=
  let style := styleOf text
  inStyle style text ++
    if style == .literal && text.getLast?.any isBreak then [] else ['\n']

end SlashChat.Yaml.Written
