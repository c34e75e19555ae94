import SlashChat.Host

/-!
# The console host

One chat window on a terminal.  Notices for the local user print as `* message`, messages to the
contact as `<nickname> message`, each on a line that the time of day opens.  A console whose writer
fails prints nothing and leaves a warning instead; the commands that talk to it cannot tell.
-/

set_option autoImplicit false

namespace SlashChat

/-- Something that reaches the terminal. -/
inductive Output
  /-- A line of the chat window, which the time of day goes in front of. -/
  | stamped (line : String)
  /-- A line as it stands. -/
  | plain (line : String)
  /-- A note for the log. -/
  | note (note : Note)
deriving DecidableEq, Repr, Inhabited

/-- What becomes of a write to the terminal. -/
inductive Writer
  | working
  | failing (reason : String)
deriving DecidableEq, Repr, Inhabited

/-- The chat window on a terminal. -/
structure Console where
  nickname : String
  contact : String
  writer : Writer := .working
  output : Array Output := #[]
deriving Repr, Inhabited

namespace Console

/-- The line of the chat window that a call becomes. -/
def lineOf (nickname : String) : HostEvent → String
  | .display message => "* " ++ message
  | .send message => "<" ++ nickname ++ "> " ++ message

/-- Writes one line, or a warning if the writer fails. -/
def writeLine (host : Console) (line : String) : Console :=
  match host.writer with
  | .working => { host with output := host.output.push (.stamped line) }
  | .failing reason =>
    { host with
      output := host.output.push (.note ⟨.warn, "Failed to write to console: " ++ reason⟩) }

/-- Adds a note for the log. -/
def log (host : Console) (note : Note) : Console :=
  { host with output := host.output.push (.note note) }

/-- The console after one act; a message on its way to the contact is noted first. -/
def receive (host : Console) : Act → Console
  | .call (.display message) => host.writeLine (lineOf host.nickname (.display message))
  | .call (.send message) =>
    (host.log ⟨.debug, "Sending to " ++ host.contact ++ ": " ++ message⟩).writeLine
      (lineOf host.nickname (.send message))
  | .note note => host.log note

/-- Writing a line does not change the name of the local user. -/
theorem nickname_writeLine (host : Console) (line : String) :
    (host.writeLine line).nickname = host.nickname := by
  unfold writeLine
  split <;> rfl

instance : Host Console where
  nickname := Console.nickname
  receive := receive
  nickname_receive host act := by
    rcases act with (_ | _) | _
    · exact nickname_writeLine _ _
    · exact nickname_writeLine _ _
    · rfl

end Console

end SlashChat
