import SlashChat.Catalog.Help
import SlashChat.Host.Console
import SlashChat.Plugin.Set
import SlashChat.Program.Files
import SlashChat.Switchboard
import SlashChat.Text.Utf8

/-!
# Chat sessions

A session on the console: a greeting, then one line after the other.  `/quit` and `/exit` end it,
`/help` shows the commands, any other line goes to the switchboard, and what is no command goes to
the contact.  White space around a line does not count.

Lines come from bytes.  A line ends with a line feed, or with a carriage return and a line feed;
the last one may end with the input.  What ends a line is no part of it, so a line may end inside a
character.  A line that is not valid UTF-8 ends the session with an error when its turn comes.
-/

set_option autoImplicit false

namespace SlashChat.Program

/-- The switchboard, the console and the world of a chat. -/
structure Session where
  board : Switchboard (Binding Unit)
  console : Console
  world : World Unit

/-- What a session does about a line. -/
inductive Move
  | stay (session : Session)
  | quit

namespace Session

/-- What the local user is told first. -/
def greeting (nickname contact : String) : String :=
  "Chatting with " ++ contact ++ " as " ++ nickname ++ ". /help lists commands, /quit exits."

/-- The session with some acts performed on its console. -/
def perform (session : Session) (acts : List Act) : Session :=
  { session with console := Host.perform session.console acts }

/-- Gives a line to the switchboard, and what is no command to the contact. -/
def give (session : Session) (line : String) : Session :=
  let (outcome, console, world) := session.board.take line session.console session.world
  let session := { session with console, world }
  match outcome with
  | .text text => session.perform [Act.send text]
  | _ => session

/-- Takes one line of the input. -/
def step (session : Session) (line : String) : Move :=
  let text := String.ofList (Text.trim line.toList)
  if text = "/quit" ∨ text = "/exit" then .quit
  else if text = "/help" then
    .stay (session.perform (session.board.catalog.helpLines.map Act.display))
  else .stay (session.give text)

end Session

/-! ## Input -/

/-- The byte that ends a line. -/
def lineFeed : UInt8 := 10

/-- The byte that may stand in front of the one that ends a line. -/
def carriageReturn : UInt8 := 13

/-- A line without the carriage return that it ends with. -/
def withoutReturn (line : List UInt8) : List UInt8 :=
  if line.getLast? = some carriageReturn then line.dropLast else line

/-- The lines of an input, behind the bytes `line` of one that has started. -/
def linesFrom (line : List UInt8) : List UInt8 → List (List UInt8)
  | [] => if line.isEmpty then [] else [line]
  | byte :: rest =>
    if byte = lineFeed then withoutReturn line :: linesFrom [] rest
    else linesFrom (line ++ [byte]) rest

/-- The lines of an input. -/
def inputLines (input : List UInt8) : List (List UInt8) := linesFrom [] input

namespace Session

/-- Takes the lines of an input up to one that ends the session; an error is a line that is no
text. -/
def runLines (session : Session) : List (List UInt8) → Session × Except BotError Unit
  | [] => (session, .ok ())
  | line :: rest =>
    match Text.decodeUtf8 line with
    | .error fault => (session, .error (.io fault.message))
    | .ok text =>
      match session.step text with
      | .quit => (session, .ok ())
      | .stay session => session.runLines rest

end Session

end SlashChat.Program
