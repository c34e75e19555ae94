import SlashChat.Error
import SlashChat.Host

/-!
# Commands and their catalog

A catalog holds the commands that lines can ask for, in the order in which their names were first
added; the help listing shows them in that order.  Names start with a slash.  Adding a name again
swaps in the new handler and keeps the place and the help text of the first addition.

A catalog does not run handlers, so their type `h` is a parameter: what a catalog holds is a
matter of names, texts and order alone.  What running means for a type of handlers is the class
`Handles`.
-/

set_option autoImplicit false

namespace SlashChat

/-- A command: its name, its help text, and what runs when a line asks for it. -/
structure Command (h : Type) where
  name : String
  description : String
  handler : h
deriving Repr, Inhabited

/-- The commands that lines can ask for, in the order of their first addition. -/
structure Catalog (h : Type) where
  commands : List (Command h) := []
deriving Repr, Inhabited

section Catalog

variable {h : Type}

/-- Whether a text is the name of a command; case and slash count. -/
def Command.matches (command : Command h) (text : String) : Bool := command.name == text

/-- Whether a name is one that a catalog accepts. -/
def hasSlash (name : String) : Bool := name.toList.head? == some '/'

namespace Catalog

/-- The commands with the handler of the first one named `name` swapped, or `none` if there is
none. -/
def swapHandler (name : String) (handler : h) : List (Command h) → Option (List (Command h))
  | [] => none
  | command :: rest =>
    if command.matches name then some ({ command with handler } :: rest)
    else (swapHandler name handler rest).map (command :: ·)

/-- The catalog with a command added. -/
def insert (catalog : Catalog h) (command : Command h) : Except CommandError (Catalog h) :=
  if hasSlash command.name then
    match swapHandler command.name command.handler catalog.commands with
    | some commands => .ok ⟨commands⟩
    | none => .ok ⟨catalog.commands ++ [command]⟩
  else .error (.invalidName command.name)

/-- The command with this name. -/
def find? (catalog : Catalog h) (name : String) : Option (Command h) :=
  catalog.commands.find? (·.matches name)

/-- The names of the commands, in order. -/
def names (catalog : Catalog h) : List String := catalog.commands.map Command.name

/-- How many commands there are. -/
def size (catalog : Catalog h) : Nat := catalog.commands.length

/-- Whether there are no commands. -/
def isEmpty (catalog : Catalog h) : Bool := catalog.commands.isEmpty

/-- The notes that adding a command leaves; a command that is turned down leaves none. -/
def insertNotes (catalog : Catalog h) (command : Command h) : List Note :=
  if hasSlash command.name then
    if (catalog.find? command.name).isSome then
      [⟨.debug, "Replacing handler for " ++ command.name⟩]
    else [⟨.debug, "Registered command " ++ command.name⟩]
  else []

/-- Adds commands in order up to the first that is turned down; those before it stay. -/
def insertAll (catalog : Catalog h) :
    List (Command h) → Catalog h × Except CommandError Unit
  | [] => (catalog, .ok ())
  | command :: rest =>
    match catalog.insert command with
    | .ok more => more.insertAll rest
    | .error e => (catalog, .error e)

/-- The notes that adding commands in order leaves. -/
def insertAllNotes (catalog : Catalog h) : List (Command h) → List Note
  | [] => []
  | command :: rest =>
    catalog.insertNotes command ++
      match catalog.insert command with
      | .ok more => more.insertAllNotes rest
      | .error _ => []

/-- The catalog after an attempt to add a command; one that is turned down changes nothing. -/
def register (catalog : Catalog h) (command : Command h) : Catalog h :=
  match catalog.insert command with
  | .ok more => more
  | .error _ => catalog

/-- The catalog that a history of attempted additions builds, oldest first. -/
def ofHistory (history : List (Command h)) : Catalog h := history.foldl register {}

end Catalog

end Catalog

/-- What an invocation did: its acts in order, how it ended, and the state it leaves.  The acts
made before a failure stay. -/
structure Turn (σ : Type) where
  acts : List Act
  result : Except CommandError Unit
  state : σ

/-- A handler reads the host's nickname, the argument tokens and the state that handlers share. -/
abbrev Handler (σ : Type) := (nickname : String) → (args : List String) → σ → Turn σ

/-- A type of handlers that run on a shared state. -/
class Handles (h : Type) (σ : outParam Type) where
  run : h → Handler σ

instance {σ : Type} : Handles (Handler σ) σ where
  run handler := handler

end SlashChat
