import SlashChat.Yaml.Cursor
import SlashChat.Yaml.Fault

/-!
# Gaps between words

Inside plain and quoted scalars the blanks and line breaks between two words are read as one gap.
A gap within a line stands for its blanks.  A gap over lines loses the blanks at the ends of the
lines; its first break is folded: alone it reads as a blank, and otherwise as the breaks behind it.
-/

set_option autoImplicit false

namespace SlashChat.Yaml

/-- The blanks and line breaks between two words. -/
structure Gap where
  /-- The blanks in front of the first break. -/
  blanks : List Char := []
  /-- Whether there is a break. -/
  broken : Bool := false
  /-- The first break; none if the writer escaped it. -/
  first : Option Char := none
  /-- The breaks behind the first one. -/
  more : List Char := []
deriving DecidableEq, Repr, Inhabited

namespace Gap

/-- The text that a gap stands for. -/
def text (gap : Gap) : List Char :=
  if gap.broken then
    match gap.first with
    | some '\n' => if gap.more.isEmpty then [' '] else gap.more
    | some c => c :: gap.more
    | none => gap.more
  else gap.blanks

/-- Reads on in a gap.  A tab in the indentation of a line, left of the column `margin`, is a
fault. -/
def readOn (margin : Nat) : Nat → Cursor → Gap → Except Fault (Gap × Cursor)
  | 0, cursor, gap => .ok (gap, cursor)
  | fuel + 1, cursor, gap =>
    match cursor.rest with
    | [] => .ok (gap, cursor)
    | c :: _ =>
      if isBlank c then
        if gap.broken then
          if c == '\t' && cursor.column < margin then .error .indentation
          else readOn margin fuel (cursor.skip 1) gap
        else readOn margin fuel (cursor.skip 1) { gap with blanks := gap.blanks ++ [c] }
      else
        match cursor.break? with
        | none => .ok (gap, cursor)
        | some (b, cursor) =>
          if gap.broken then readOn margin fuel cursor { gap with more := gap.more ++ [b] }
          else readOn margin fuel cursor { gap with broken := true, first := some b }

/-- Reads the gap at a place, behind an escaped line break if `broken`. -/
def read (margin : Nat) (broken : Bool) (cursor : Cursor) : Except Fault (Gap × Cursor) :=
  readOn margin cursor.rest.length cursor { broken }

end Gap

end SlashChat.Yaml
