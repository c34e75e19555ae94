/-!
# Hosts

A host is the chat window that commands talk to.  A command may ask it to show a notice to the
local user or to send a message to the contact, and may read the nickname of the local user;
nothing else about a host reaches a command.  So what a command did is the list of its *acts*, and
a host is whatever receives acts one by one and keeps its nickname.

Notes for the log are acts too, as the log and the window share one order of events.

The main fact is `nickname_perform`: no list of acts changes a host's nickname.
-/

set_option autoImplicit false

namespace SlashChat

/-- A call that a command makes on the chat window. -/
inductive HostEvent
  /-- A notice for the local user. -/
  | display (message : String)
  /-- A message for the contact. -/
  | send (message : String)
deriving DecidableEq, Repr, Inhabited

/-- How urgent a note for the log is. -/
inductive Level
  | debug
  | info
  | warn
  | error
deriving DecidableEq, Repr, Inhabited

/-- A level as a number that grows with urgency. -/
def Level.rank : Level → Nat
  | .debug => 0
  | .info => 1
  | .warn => 2
  | .error => 3

/-- The word that a log line shows for a level. -/
def Level.word : Level → String
  | .debug => "DEBUG"
  | .info => "INFO"
  | .warn => "WARN"
  | .error => "ERROR"

/-- A note for the log. -/
structure Note where
  level : Level
  text : String
deriving DecidableEq, Repr, Inhabited

/-- One thing that happens while a line is handled. -/
inductive Act
  | call (event : HostEvent)
  | note (note : Note)
deriving DecidableEq, Repr, Inhabited

namespace Act

/-- The act that shows a notice. -/
abbrev display (message : String) : Act := .call (.display message)

/-- The act that sends a message. -/
abbrev send (message : String) : Act := .call (.send message)

/-- The act that leaves a note of the given level. -/
abbrev log (level : Level) (text : String) : Act := .note ⟨level, text⟩

/-- The host call that an act is, if it is one. -/
def event? : Act → Option HostEvent
  | .call event => some event
  | .note _ => none

/-- The host calls among some acts, in order. -/
def events (acts : List Act) : List HostEvent := acts.filterMap event?

end Act

/-- A chat window that commands can talk to. -/
class Host (η : Type) where
  /-- The name of the local user. -/
  nickname : η → String
  /-- The host after one act. -/
  receive : η → Act → η
  /-- An act leaves the nickname alone. -/
  nickname_receive : ∀ (host : η) (act : Act), nickname (receive host act) = nickname host

namespace Host

variable {η : Type} [Host η]

/-- The host after some acts, in order. -/
def perform (host : η) (acts : List Act) : η := acts.foldl receive host

/-- No acts leave a host as it is. -/
@[simp]
theorem perform_nil (host : η) : perform host [] = host := rfl

/-- A host receives the first of some acts and then the others. -/
@[simp]
theorem perform_cons (host : η) (act : Act) (acts : List Act) :
    perform host (act :: acts) = perform (receive host act) acts := rfl

/-- Acts that are put together are performed one group after the other. -/
theorem perform_append (host : η) (acts more : List Act) :
    perform host (acts ++ more) = perform (perform host acts) more := List.foldl_append

/-- No acts change the name of the local user. -/
@[simp]
theorem nickname_perform (host : η) (acts : List Act) :
    nickname (perform host acts) = nickname host := by
  induction acts generalizing host with
  | nil => rfl
  | cons act acts ih => rw [perform_cons, ih, nickname_receive]

end Host

end SlashChat
