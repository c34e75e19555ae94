/-!
# Settings

What a user can set: how the bot is called and what leads its commands, who is talking to whom,
whether fortunes are told, and the seed that makes them reproducible.
-/

set_option autoImplicit false

namespace SlashChat

/-- The settings of the program. -/
structure Settings where
  /-- The name of the bot. -/
  botName : String
  /-- The text that leads command lines, beside the slash. -/
  lead : String
  /-- The name of the local user. -/
  nickname : String
  /-- The contact of the console window. -/
  contact : String
  /-- Whether fortunes are told. -/
  fortuneEnabled : Bool := true
  /-- A fixed seed; without one no two runs are alike. -/
  seed : Option UInt64 := none
deriving DecidableEq, Repr, Inhabited

/-- The environment variables that settings can come from, as far as they are set. -/
structure Environment where
  nickname : Option String := none
  contact : Option String := none
  lead : Option String := none
deriving DecidableEq, Repr, Inhabited

namespace Settings

/-- The settings of a user who set nothing. -/
def standard : Settings where
  botName := "fortune-bot"
  lead := "/"
  nickname := "toxic"
  contact := "friend"

/-- The standard settings with what the environment sets. -/
def ofEnvironment (env : Environment) : Settings :=
  { standard with
    nickname := env.nickname.getD standard.nickname
    contact := env.contact.getD standard.contact
    lead := env.lead.getD standard.lead }

end Settings

end SlashChat
