import SlashChat.Settings
import SlashChat.World

/-!
# Plugins

A plugin is a named bundle of commands.  Loading it adds its commands to a catalog, in order; when
it is removed its `cleanup` is run on the state that handlers share.
-/

set_option autoImplicit false

namespace SlashChat

/-- A named bundle of commands. -/
structure Plugin (h σ : Type) where
  name : String
  description : String
  metadata : List (String × String) := []
  commands : List (Command h)
  cleanup : σ → σ := id

variable {τ : Type}

/-- The plugin through which a teller, known by its number, answers `/fortune`. -/
def Plugin.fortune (number : Nat) (table : FortuneTable) : Plugin (Binding τ) (World τ) where
  name := "fortune"
  description := fortuneHelp
  metadata := [("command", fortuneCommand), ("fortunes", Nat.repr table.size)]
  commands := [⟨fortuneCommand, fortuneHelp, .teller number⟩]

end SlashChat
