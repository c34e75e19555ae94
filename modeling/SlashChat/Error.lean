/-!
# Errors

What can go wrong, one constructor a cause, and the sentence that each shows to the user.  The
sentences are part of what the program promises, so each error type has exactly one function
`message` and nothing else words an error.
-/

set_option autoImplicit false

namespace SlashChat

/-- What is wrong with the arguments of a `/fortune` line. -/
inductive CountError
  /-- There is not exactly one argument. -/
  | argumentCount
  /-- The argument is no decimal integer of 64 bits. -/
  | argumentType
deriving DecidableEq, Repr, Inhabited

/-- The sentence for a count error. -/
def CountError.message : CountError → String
  | .argumentCount => "Only one argument allowed!"
  | .argumentType => "Argument must be a number!"

/-- Why a command could not be added to a catalog, or why a line was turned down. -/
inductive CommandError
  /-- No command has this name. -/
  | notFound (name : String)
  /-- A command's name does not start with a slash. -/
  | invalidName (name : String)
  /-- The command does not take these arguments. -/
  | invalidArgs (cause : CountError)
  /-- The line opens a quote and never closes it. -/
  | unterminatedQuote
  /-- The command ran and reports a failure of its own. -/
  | executionFailed (text : String)
deriving DecidableEq, Repr, Inhabited

/-- The sentence for a command error. -/
def CommandError.message : CommandError → String
  | .notFound _ => "Invalid command."
  | .invalidName _ => "Command must be prefixed with a '/'"
  | .invalidArgs cause => cause.message
  | .unterminatedQuote => "Invalid argument. Did you forget a closing \"?"
  | .executionFailed text => "Execution failed: " ++ text

/-- Why settings could not be read or written, with the detail that the user is told. -/
inductive SettingsError
  | read (detail : String)
  | parse (detail : String)
  | write (detail : String)
deriving DecidableEq, Repr, Inhabited

/-- The sentence for a settings error. -/
def SettingsError.message : SettingsError → String
  | .read detail => "Failed to read config: " ++ detail
  | .parse detail => "Failed to parse config: " ++ detail
  | .write detail => "Failed to write config: " ++ detail

/-- Any error that can end the program. -/
inductive BotError
  | settings (cause : SettingsError)
  | command (cause : CommandError)
  | plugin (text : String)
  | io (text : String)
deriving DecidableEq, Repr, Inhabited

/-- The sentence for an error that ends the program. -/
def BotError.message : BotError → String
  | .settings cause => "Configuration error: " ++ cause.message
  | .command cause => "Command error: " ++ cause.message
  | .plugin text => "Plugin error: " ++ text
  | .io text => "IO error: " ++ text

end SlashChat
