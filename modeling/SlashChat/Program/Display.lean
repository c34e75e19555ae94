import SlashChat.Catalog
import SlashChat.Switchboard
import SlashChat.Text.Terminal

/-!
# Values in the log

How the log shows a note, a command and an outcome.
-/

set_option autoImplicit false

namespace SlashChat

/-- The text of a note as the log shows it: without orders to the terminal. -/
def Note.shown (note : Note) : String := Text.disarm note.text

/-- A command as the log shows it. -/
def Command.shown {h : Type} (command : Command h) : String :=
  "Command \x7b name: " ++ Text.quote command.name ++ ", description: " ++
    Text.quote command.description ++ ", .. \x7d"

/-- A count error as the log shows it. -/
def CountError.shown : CountError → String
  | .argumentCount => "ArgumentCount"
  | .argumentType => "ArgumentType"

/-- A command error as the log shows it. -/
def CommandError.shown : CommandError → String
  | .notFound name => "NotFound(" ++ Text.quote name ++ ")"
  | .invalidName name => "InvalidName(" ++ Text.quote name ++ ")"
  | .invalidArgs cause => "InvalidArgs(" ++ cause.shown ++ ")"
  | .unterminatedQuote => "UnterminatedQuote"
  | .executionFailed text => "ExecutionFailed(" ++ Text.quote text ++ ")"

/-- An outcome as the log shows it. -/
def Outcome.shown : Outcome → String
  | .ignored => "Ignored"
  | .text line => "Text(" ++ Text.quote line ++ ")"
  | .handled command => "Handled \x7b command: " ++ Text.quote command ++ " \x7d"
  | .rejected cause => "Rejected(" ++ cause.shown ++ ")"

end SlashChat
