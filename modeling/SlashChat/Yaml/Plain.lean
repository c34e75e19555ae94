import SlashChat.Yaml.Gap

/-!
# Plain scalars

A plain scalar is a run of words without quotes.  It ends at a colon that a gap follows, at a
comment, at a document marker, at a line left of its margin and, inside brackets, at a comma or a
bracket.  The gap behind its last word is not part of it.
-/

set_option autoImplicit false

namespace SlashChat.Yaml.Plain

/-- A bracket, brace or comma. -/
def isFlowIndicator (c : Char) : Bool :=
  c == ',' || c == '[' || c == ']' || c == '\x7b' || c == '\x7d'

/-- A character that may not follow a colon inside brackets. -/
def isColonClash (c : Char) : Bool := isFlowIndicator c || c == '?'

/-- The part of a text that belongs to the word at its front. -/
def word (flow : Bool) : List Char → Except Fault (List Char)
  | [] => .ok []
  | c :: rest =>
    if isGap c then .ok []
    else if flow && c == ':' && rest.head?.any isColonClash then .error .misplaced
    else if (c == ':' && endsWord rest) || (flow && isFlowIndicator c) then .ok []
    else (word flow rest).map (c :: ·)

/-- A plain scalar that has been read, and whether lines were left behind its last word. -/
structure Reading where
  text : List Char
  cursor : Cursor
  broken : Bool
deriving DecidableEq, Repr, Inhabited

/-- Reads on in a plain scalar, behind the gap `pending`.  `margin` is the leftmost column that its
lines may start in. -/
def readOn (flow : Bool) (margin : Nat) :
    Nat → Cursor → (text : List Char) → (pending : Gap) → Except Fault Reading
  | 0, cursor, text, pending => .ok ⟨text, cursor, pending.broken⟩
  | fuel + 1, cursor, text, pending =>
    match word flow cursor.rest with
    | .error fault => .error fault
    | .ok [] => .ok ⟨text, cursor, pending.broken⟩
    | .ok (c :: more) =>
      let text := text ++ pending.text ++ c :: more
      let cursor := cursor.skip (c :: more).length
      if cursor.rest.head?.any isGap then
        match Gap.read margin false cursor with
        | .error fault => .error fault
        | .ok (gap, cursor) =>
          if (!flow && cursor.column < margin) || cursor.atDocumentMarker ||
              cursor.rest.head? == some '#' then .ok ⟨text, cursor, gap.broken⟩
          else readOn flow margin fuel cursor text gap
      else .ok ⟨text, cursor, false⟩

/-- Reads the plain scalar at a place. -/
def read (flow : Bool) (margin : Nat) (cursor : Cursor) : Except Fault Reading :=
  readOn flow margin (cursor.rest.length + 1) cursor [] {}

end SlashChat.Yaml.Plain
