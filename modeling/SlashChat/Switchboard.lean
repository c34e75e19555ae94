import SlashChat.Catalog
import SlashChat.Line.Request
import SlashChat.Text.Quoted

/-!
# The switchboard

Connects a typed line with the command it asks for.  `Switchboard.respond` says what a line does:
its outcome, the acts it causes and the state it leaves.  An error never escapes; it is shown to
the local user and is part of the outcome.  `Switchboard.take` plays the acts on a host.
-/

set_option autoImplicit false

namespace SlashChat

open Text (trim quoteList)

/-- What happened to a line. -/
inductive Outcome
  /-- The line was blank. -/
  | ignored
  /-- The line asks for no command; what to do with the text is up to the caller. -/
  | text (line : String)
  /-- A command ran to its end. -/
  | handled (command : String)
  /-- The error was shown to the local user. -/
  | rejected (cause : CommandError)
deriving DecidableEq, Repr, Inhabited

/-- A catalog together with the lead that asks for its commands. -/
structure Switchboard (h : Type) where
  lead : String
  catalog : Catalog h
deriving Repr, Inhabited

/-- What a line does. -/
structure Response (σ : Type) where
  outcome : Outcome
  acts : List Act
  state : σ

namespace Switchboard

variable {h σ : Type} [Handles h σ]

/-- The response that turns a line down after some acts. -/
def reject (acts : List Act) (cause : CommandError) (state : σ) : Response σ :=
  ⟨.rejected cause, acts ++ [Act.display cause.message], state⟩

/-- Runs the command that a request names. -/
def answer (board : Switchboard h) (nickname : String) (request : Request) (state : σ) :
    Response σ :=
  match board.catalog.find? request.name with
  | none =>
    reject [Act.log .debug ("No handler for " ++ request.name)] (.notFound request.name) state
  | some command =>
    let opening :=
      Act.log .debug ("Dispatching " ++ command.name ++ " with args: " ++ quoteList request.args)
    let turn := Handles.run command.handler nickname request.args state
    match turn.result with
    | .ok () => ⟨.handled request.name, opening :: turn.acts, turn.state⟩
    | .error cause =>
      reject
        (opening :: turn.acts ++ [Act.log .warn (request.name ++ " failed: " ++ cause.message)])
        cause turn.state

/-- What a line does on a host with the given nickname. -/
def respond (board : Switchboard h) (nickname line : String) (state : σ) : Response σ :=
  if (trim line.toList).isEmpty then ⟨.ignored, [], state⟩
  else
    match Request.read board.lead line with
    | .error cause => reject [] cause state
    | .ok none => ⟨.text line, [], state⟩
    | .ok (some request) => board.answer nickname request state

variable {η : Type} [Host η]

/-- Plays what a line does on a host. -/
def take (board : Switchboard h) (line : String) (host : η) (state : σ) : Outcome × η × σ :=
  let response := board.respond (Host.nickname host) line state
  (response.outcome, Host.perform host response.acts, response.state)

/-- Plays lines in turn on one host. -/
def takeAll (board : Switchboard h) (lines : List String) (host : η) (state : σ) :
    List Outcome × η × σ :=
  match lines with
  | [] => ([], host, state)
  | line :: rest =>
    let (outcome, host, state) := board.take line host state
    let (outcomes, host, state) := board.takeAll rest host state
    (outcome :: outcomes, host, state)

end Switchboard

end SlashChat
