import SlashChat.Yaml.Char

/-!
# Cursors

A cursor is a place in a text: what is still to be read, how many bytes have been read, and the
line and column that this place has.  A column is one character wide, whatever its bytes.  Two kinds
of step move a cursor: along a line, and over a line break.
-/

set_option autoImplicit false

namespace SlashChat.Yaml

/-- A place in a text. -/
structure Cursor where
  /-- What is still to be read. -/
  rest : List Char
  /-- How many bytes have been read, the text being in UTF-8. -/
  index : Nat := 0
  line : Nat := 0
  column : Nat := 0
deriving DecidableEq, Repr, Inhabited

namespace Cursor

/-- How many bytes the next `n` characters take. -/
def bytes (cursor : Cursor) (n : Nat) : Nat :=
  (cursor.rest.take n).foldl (fun total c => total + c.utf8Size) 0

/-- The place `n` characters further along the line. -/
def skip (cursor : Cursor) (n : Nat) : Cursor :=
  { cursor with
    rest := cursor.rest.drop n
    index := cursor.index + cursor.bytes n
    column := cursor.column + n }

/-- The characters up to the first that `p` is false of, and the place there. -/
def takeWhile (p : Char → Bool) (cursor : Cursor) : List Char × Cursor :=
  let taken := cursor.rest.takeWhile p
  (taken, cursor.skip taken.length)

/-- The place of the first character that `p` is false of. -/
def skipWhile (p : Char → Bool) (cursor : Cursor) : Cursor := (cursor.takeWhile p).2

/-- The place behind a line break of `n` characters. -/
def nextLine (cursor : Cursor) (n : Nat) : Cursor :=
  { rest := cursor.rest.drop n
    index := cursor.index + cursor.bytes n
    line := cursor.line + 1
    column := 0 }

/-- The line break at a place, as it reads, and the place behind it.  A carriage return and the
line feed behind it are one break, and all breaks but two read as a line feed. -/
def break? (cursor : Cursor) : Option (Char × Cursor) :=
  match cursor.rest with
  | '\r' :: '\n' :: _ => some ('\n', cursor.nextLine 2)
  | c :: _ =>
    if isBreak c then
      some (if c.toNat == 0x2028 || c.toNat == 0x2029 then c else '\n', cursor.nextLine 1)
    else none
  | [] => none

/-- Whether a line starts here that consists of three copies of `c`, or of these and something
behind a gap. -/
def atMarker (c : Char) (cursor : Cursor) : Bool :=
  cursor.column == 0 && cursor.rest.take 3 == [c, c, c] && endsWord (cursor.rest.drop 3)

/-- Whether a document starts or ends here by its marker. -/
def atDocumentMarker (cursor : Cursor) : Bool := cursor.atMarker '-' || cursor.atMarker '.'

end Cursor

end SlashChat.Yaml
