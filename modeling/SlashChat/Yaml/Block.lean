import SlashChat.Yaml.Gap

/-!
# Block scalars

A block scalar stands on the lines below its header, each indented as far as the first of them or
as far as the header says.  A literal one keeps its line breaks; a folded one joins lines that start
with no blank.  The header also says what becomes of the breaks at the end: one is kept, or none, or
all of them.
-/

set_option autoImplicit false

namespace SlashChat.Yaml.Block

/-- What becomes of the line breaks at the end of a block scalar. -/
inductive Chomping
  /-- The first is kept. -/
  | clip
  /-- None is kept. -/
  | strip
  /-- All are kept. -/
  | keep
deriving DecidableEq, Repr, Inhabited

/-- What the header of a block scalar says. -/
structure Header where
  chomping : Chomping := .clip
  /-- How much further than their parent its lines are indented, if the header says. -/
  increment : Option Nat := none
deriving DecidableEq, Repr, Inhabited

/-- The chomping sign at a place. -/
def chomping? (cursor : Cursor) : Option Chomping :=
  match cursor.rest with
  | '+' :: _ => some .keep
  | '-' :: _ => some .strip
  | _ => none

/-- The indentation digit at a place; it may not be zero. -/
def increment? (cursor : Cursor) : Except Fault (Option Nat) :=
  match cursor.rest with
  | c :: _ =>
    if c == '0' then .error .indentation
    else if c.isDigit then .ok (some (c.toNat - '0'.toNat))
    else .ok none
  | [] => .ok none

/-- Reads the sign and the digit of a header, in either order. -/
def signs (cursor : Cursor) : Except Fault (Header × Cursor) :=
  match chomping? cursor with
  | some chomping =>
    let cursor := cursor.skip 1
    match increment? cursor with
    | .error fault => .error fault
    | .ok none => .ok (⟨chomping, none⟩, cursor)
    | .ok (some n) => .ok (⟨chomping, some n⟩, cursor.skip 1)
  | none =>
    match increment? cursor with
    | .error fault => .error fault
    | .ok none => .ok ({}, cursor)
    | .ok (some n) =>
      let cursor := cursor.skip 1
      match chomping? cursor with
      | some chomping => .ok (⟨chomping, some n⟩, cursor.skip 1)
      | none => .ok (⟨.clip, some n⟩, cursor)

/-- Reads a header from behind its indicator, the comment behind it, and the end of its line. -/
def header (cursor : Cursor) : Except Fault (Header × Cursor) :=
  match signs cursor with
  | .error fault => .error fault
  | .ok (header, cursor) =>
    let cursor := cursor.skipWhile isBlank
    let cursor :=
      if cursor.rest.head? == some '#' then cursor.skipWhile fun c => !isBreak c else cursor
    match cursor.break? with
    | some (_, cursor) => .ok (header, cursor)
    | none => if cursor.rest.isEmpty then .ok (header, cursor) else .error .badHeader

/-- Empty lines that have been read. -/
structure Emptied where
  breaks : List Char
  cursor : Cursor
  /-- The widest indentation among them and of the line behind them. -/
  widest : Nat
deriving DecidableEq, Repr, Inhabited

/-- Reads empty lines and the indentation of the line behind them.  With an indentation `indent`
that is known, no more than that is taken from a line; a tab before it is a fault. -/
def emptyLines (indent : Option Nat) : Nat → Emptied → Except Fault Emptied
  | 0, done => .ok done
  | fuel + 1, done =>
    let open_ := match indent with
      | some n => n - done.cursor.column
      | none => done.cursor.rest.length
    let taken := ((done.cursor.rest.take open_).takeWhile (· == ' ')).length
    let cursor := done.cursor.skip taken
    let widest := max done.widest cursor.column
    if indent.all (cursor.column < ·) && cursor.rest.head? == some '\t' then .error .indentation
    else
      match cursor.break? with
      | some (b, cursor) => emptyLines indent fuel ⟨done.breaks ++ [b], cursor, widest⟩
      | none => .ok ⟨done.breaks, cursor, widest⟩

/-- What is pending between two lines of content. -/
structure Pending where
  /-- The break at the end of the last line of content. -/
  first : Option Char
  /-- The breaks of the empty lines behind it. -/
  more : List Char
  /-- Whether the last line of content starts with a blank. -/
  blank : Bool
deriving DecidableEq, Repr, Inhabited

/-- The text between two lines of content. -/
def Pending.text (literal blank : Bool) (pending : Pending) : List Char :=
  if !literal && pending.first == some '\n' && !pending.blank && !blank then
    if pending.more.isEmpty then [' '] else pending.more
  else pending.first.toList ++ pending.more

/-- Reads on in the content of a block scalar whose lines are indented by `indent`. -/
def readOn (literal : Bool) (indent : Nat) :
    Nat → Cursor → (text : List Char) → Pending → Except Fault (List Char × Pending × Cursor)
  | 0, cursor, text, pending => .ok (text, pending, cursor)
  | fuel + 1, cursor, text, pending =>
    if cursor.column == indent && !cursor.rest.isEmpty then
      let blank := cursor.rest.head?.any isBlank
      let text := text ++ pending.text literal blank
      let (line, cursor) := cursor.takeWhile fun c => !isBreak c
      let (first, cursor) := match cursor.break? with
        | some (b, cursor) => (some b, cursor)
        | none => (none, cursor)
      match emptyLines (some indent) (cursor.rest.length + 1) ⟨[], cursor, 0⟩ with
      | .error fault => .error fault
      | .ok done => readOn literal indent fuel done.cursor (text ++ line) ⟨first, done.breaks, blank⟩
    else .ok (text, pending, cursor)

/-- The text that the breaks at the end of a block scalar leave. -/
def Chomping.tail (chomping : Chomping) (pending : Pending) : List Char :=
  match chomping with
  | .strip => []
  | .clip => pending.first.toList
  | .keep => pending.first.toList ++ pending.more

/-- Reads the block scalar whose indicator is at a place.  `margin` is one more than the column of
the parent. -/
def read (literal : Bool) (margin : Nat) (cursor : Cursor) : Except Fault (List Char × Cursor) :=
  match header (cursor.skip 1) with
  | .error fault => .error fault
  | .ok (header, cursor) =>
    let known := header.increment.map fun n => margin - 1 + n
    match emptyLines known (cursor.rest.length + 1) ⟨[], cursor, 0⟩ with
    | .error fault => .error fault
    | .ok done =>
      let indent := known.getD (max done.widest (max margin 1))
      match readOn literal indent (done.cursor.rest.length + 1) done.cursor []
          ⟨none, done.breaks, false⟩ with
      | .error fault => .error fault
      | .ok (text, pending, cursor) => .ok (text ++ header.chomping.tail pending, cursor)

end SlashChat.Yaml.Block
