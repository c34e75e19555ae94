import SlashChat.Text.Digits
import SlashChat.Yaml.Cursor
import SlashChat.Yaml.Fault
import SlashChat.Yaml.Token

/-!
# Anchors, tags and directives

The words that say something about a node or a document instead of being its content.
-/

set_option autoImplicit false

namespace SlashChat.Yaml.Property

/-- Whether a character may stand behind the name of an anchor or alias. -/
def endsName (rest : List Char) : Bool :=
  endsWord rest ||
    rest.head?.any fun c =>
      c == '?' || c == ':' || c == ',' || c == ']' || c == '\x7d' || c == '%' || c == '@' ||
        c == Char.ofNat 0x60

/-- Reads the name of the anchor or alias whose indicator is at a place. -/
def anchorName (cursor : Cursor) : Except Fault (String × Cursor) :=
  let (name, cursor) := (cursor.skip 1).takeWhile isWord
  if name.isEmpty || !endsName cursor.rest then .error .badAnchor
  else .ok (String.ofList name, cursor)

/-- A byte written as a percent sign and two hexadecimal digits. -/
def escapedByte (rest : List Char) : Except Fault Nat :=
  match rest with
  | '%' :: a :: b :: _ =>
    match Text.digitValue? a, Text.digitValue? b with
    | some x, some y => .ok (x * 16 + y)
    | _, _ => .error .badTag
  | _ => .error .badTag

/-- The continuation bytes of a character, each escaped, and the number that they complete. -/
def escapedTail : Nat → Cursor → Nat → Except Fault (Nat × Cursor)
  | 0, cursor, code => .ok (code, cursor)
  | more + 1, cursor, code =>
    match escapedByte cursor.rest with
    | .error fault => .error fault
    | .ok byte =>
      if byte / 64 == 2 then escapedTail more (cursor.skip 3) (code * 64 + byte % 64)
      else .error .badTag

/-- What stands for bytes that have the shape of a character but are none. -/
def noCharacter : Char := Char.ofNat 0xFFFD

/-- The character with a code point that is written in `more` bytes behind the first.  No character
has a surrogate's number, one beyond the last, or one that takes fewer bytes. -/
def charOfCode (more code : Nat) : Char :=
  let least :=
    if more = 0 then 0 else if more = 1 then 0x80 else if more = 2 then 0x800 else 0x10000
  if code < least ∨ ¬ code.isValidChar then noCharacter else Char.ofNat code

/-- Reads a character that is written as escaped bytes. -/
def escapedChar (cursor : Cursor) : Except Fault (Char × Cursor) :=
  match escapedByte cursor.rest with
  | .error fault => .error fault
  | .ok byte =>
    let start : Except Fault (Nat × Nat) :=
      if byte < 0x80 then .ok (0, byte)
      else if byte / 32 == 6 then .ok (1, byte % 32)
      else if byte / 16 == 14 then .ok (2, byte % 16)
      else if byte / 8 == 30 then .ok (3, byte % 8)
      else .error .badTag
    match start with
    | .error fault => .error fault
    | .ok (more, code) =>
      match escapedTail more (cursor.skip 3) code with
      | .error fault => .error fault
      | .ok (code, cursor) => .ok (charOfCode more code, cursor)

/-- A character of a tag's suffix; a verbatim tag and a directive may hold a few more. -/
def isTagChar (wide : Bool) (c : Char) : Bool :=
  isWord c || c == ';' || c == '/' || c == '?' || c == ':' || c == '@' || c == '&' || c == '=' ||
    c == '+' || c == '$' || c == '.' || c == '%' || c == '!' || c == '~' || c == '*' ||
    c == apostrophe || c == '(' || c == ')' ||
    (wide && (c == ',' || c == '[' || c == ']'))

/-- Reads on in the suffix of a tag. -/
def tagTextOn (wide : Bool) : Nat → Cursor → List Char → Except Fault (List Char × Cursor)
  | 0, cursor, text => .ok (text, cursor)
  | fuel + 1, cursor, text =>
    match cursor.rest with
    | [] => .ok (text, cursor)
    | c :: _ =>
      if !isTagChar wide c then .ok (text, cursor)
      else if c == '%' then
        match escapedChar cursor with
        | .error fault => .error fault
        | .ok (meant, cursor) => tagTextOn wide fuel cursor (text ++ [meant])
      else tagTextOn wide fuel (cursor.skip 1) (text ++ [c])

/-- The part of a tag's text that counts: what an escaped NUL stands behind is all there is. -/
def beforeNul (text : List Char) : List Char := text.takeWhile fun c => c.toNat != 0

/-- Reads the suffix of a tag behind `head`, of which the first character is not kept.  There has
to be a head or a suffix. -/
def tagText (wide : Bool) (head : List Char) (cursor : Cursor) :
    Except Fault (List Char × Cursor) :=
  match tagTextOn wide cursor.rest.length cursor [] with
  | .error fault => .error fault
  | .ok (text, cursor) =>
    if head.isEmpty && text.isEmpty then .error .badTag
    else .ok (beforeNul (head.drop 1 ++ text), cursor)

/-- Reads what may be the handle of a tag: an exclamation mark, a word, and an exclamation mark if
there is one. -/
def tagHandle (cursor : Cursor) : Except Fault (List Char × Cursor) :=
  match cursor.rest with
  | '!' :: _ =>
    let (word, cursor) := (cursor.skip 1).takeWhile isWord
    if cursor.rest.head? == some '!' then .ok ('!' :: word ++ ['!'], cursor.skip 1)
    else .ok ('!' :: word, cursor)
  | _ => .error .badTag

/-- Reads the handle and the suffix of the tag at a place.  A verbatim tag has no handle, and
neither has the tag that is a single exclamation mark. -/
def tag (flow : Bool) (cursor : Cursor) : Except Fault (Token × Cursor) :=
  let parts : Except Fault ((List Char × List Char) × Cursor) :=
    if cursor.rest.drop 1 |>.head? |>.any (· == '<') then
      match tagText true [] (cursor.skip 2) with
      | .error fault => .error fault
      | .ok (text, cursor) =>
        if cursor.rest.head? == some '>' then .ok (([], text), cursor.skip 1) else .error .badTag
    else
      match tagHandle cursor with
      | .error fault => .error fault
      | .ok (handle, cursor) =>
        if handle.length > 1 && handle.getLast? == some '!' then
          match tagText false [] cursor with
          | .error fault => .error fault
          | .ok (text, cursor) => .ok ((handle, text), cursor)
        else
          match tagText false handle cursor with
          | .error fault => .error fault
          | .ok ([], cursor) => .ok (([], ['!']), cursor)
          | .ok (text, cursor) => .ok ((['!'], text), cursor)
  match parts with
  | .error fault => .error fault
  | .ok ((handle, suffix), cursor) =>
    if endsWord cursor.rest || (flow && cursor.rest.head? == some ',') then
      .ok (.tag (String.ofList handle) (String.ofList suffix), cursor)
    else .error .badTag

/-- Reads a number of a version, of at most nine digits. -/
def versionNumber (cursor : Cursor) : Except Fault (Nat × Cursor) :=
  let (digits, cursor) := cursor.takeWhile Char.isDigit
  if digits.isEmpty || digits.length > 9 then .error .badDirective
  else .ok (digits.foldl (fun n c => n * 10 + (c.toNat - '0'.toNat)) 0, cursor)

/-- Reads the version that a directive names. -/
def version (cursor : Cursor) : Except Fault (Token × Cursor) :=
  match versionNumber (cursor.skipWhile isBlank) with
  | .error fault => .error fault
  | .ok (major, cursor) =>
    if cursor.rest.head? == some '.' then
      match versionNumber (cursor.skip 1) with
      | .error fault => .error fault
      | .ok (minor, cursor) => .ok (.version major minor, cursor)
    else .error .badDirective

/-- Reads the handle and the meaning that a directive gives it. -/
def handleMeaning (cursor : Cursor) : Except Fault (Token × Cursor) :=
  match tagHandle (cursor.skipWhile isBlank) with
  | .error _ => .error .badDirective
  | .ok (handle, cursor) =>
    if handle.length > 1 && handle.getLast? != some '!' then .error .badDirective
    else if !cursor.rest.head?.any isBlank then .error .badDirective
    else
      match tagText true [] (cursor.skipWhile isBlank) with
      | .error _ => .error .badDirective
      | .ok (meaning, cursor) =>
        if endsWord cursor.rest then
          .ok (.tagHandle (String.ofList handle) (String.ofList meaning), cursor)
        else .error .badDirective

/-- Reads the directive whose percent sign is at a place, and the end of its line. -/
def directive (cursor : Cursor) : Except Fault (Token × Cursor) :=
  let (name, cursor) := (cursor.skip 1).takeWhile isWord
  let read : Except Fault (Token × Cursor) :=
    if !endsWord cursor.rest then .error .badDirective
    else if name == ['Y', 'A', 'M', 'L'] then version cursor
    else if name == ['T', 'A', 'G'] then handleMeaning cursor
    else .error .badDirective
  match read with
  | .error fault => .error fault
  | .ok (token, cursor) =>
    let cursor := cursor.skipWhile isBlank
    let cursor :=
      if cursor.rest.head? == some '#' then cursor.skipWhile fun c => !isBreak c else cursor
    match cursor.break? with
    | some (_, cursor) => .ok (token, cursor)
    | none => if cursor.rest.isEmpty then .ok (token, cursor) else .error .badDirective

end SlashChat.Yaml.Property
