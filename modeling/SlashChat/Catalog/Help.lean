import SlashChat.Catalog

/-!
# The help listing

One line a command, in catalog order: the name padded to a column, a colon, and the help text cut
off at `helpLimit` characters.
-/

set_option autoImplicit false

namespace SlashChat.Catalog

variable {h : Type}

/-- Help text beyond this many characters is cut off in the listing. -/
def helpLimit : Nat := 50

/-- Width of the name column. -/
def nameColumn : Nat := 29

/-- Width that the listing allows for everything in front of a help text. -/
def helpMargin : Nat := 37

/-- A text followed by as many blanks as bring it to `width` characters. -/
def padTo (width : Nat) (text : String) : String :=
  String.ofList (text.toList ++ List.replicate (width - text.toList.length) ' ')

/-- The line of the listing for one command. -/
def helpLine (command : Command h) : String :=
  "  " ++ padTo nameColumn command.name ++ ": " ++
    String.ofList (command.description.toList.take helpLimit)

/-- The listing. -/
def helpLines (catalog : Catalog h) : List String := catalog.commands.map helpLine

/-- The width that a window for the listing is told to have. -/
def helpWidth (catalog : Catalog h) : Nat :=
  helpMargin +
    min helpLimit ((catalog.commands.map (·.description.toList.length)).foldl max 0)

/-- A command's name and help text. -/
structure Info where
  name : String
  description : String
deriving DecidableEq, Repr, Inhabited

/-- The names and help texts of the commands, in order. -/
def infos (catalog : Catalog h) : List Info :=
  catalog.commands.map fun command => ⟨command.name, command.description⟩

end SlashChat.Catalog
