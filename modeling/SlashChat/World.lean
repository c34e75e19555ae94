import SlashChat.Catalog
import SlashChat.Fortune.Teller

/-!
# What handlers share

Tellers live in one place, the world, and a handler that tells fortunes only knows the number of
its teller.  So a teller whose command is added twice, or stands in two catalogs, is still one
teller with one source.  Handlers of other commands see a part `rest` of the world that tellers
take no part in.
-/

set_option autoImplicit false

namespace SlashChat

/-- The tellers, by number, and what other handlers share. -/
structure World (τ : Type) where
  tellers : List Teller := []
  rest : τ

/-- What a command's name stands for: a teller, by number, or any handler that keeps to `rest`. -/
inductive Binding (τ : Type) where
  | teller (number : Nat)
  | custom (run : Handler τ)

namespace World

variable {τ : Type}

/-- Takes in a teller and gives its number. -/
def enlist (world : World τ) (teller : Teller) : Nat × World τ :=
  (world.tellers.length, { world with tellers := world.tellers ++ [teller] })

/-- Runs what a command's name stands for.  A number without a teller has nothing to tell. -/
def run : Binding τ → Handler (World τ)
  | .teller number, nickname, args, world =>
    match world.tellers[number]? with
    | none => ⟨[], .ok (), world⟩
    | some teller =>
      let telling := teller.handle nickname args
      { acts := telling.acts
        result :=
          match telling.result with
          | .ok _ => .ok ()
          | .error cause => .error (.invalidArgs cause)
        state := { world with tellers := world.tellers.set number telling.teller } }
  | .custom handler, nickname, args, world =>
    let turn := handler nickname args world.rest
    { turn with state := { world with rest := turn.state } }

instance : Handles (Binding τ) (World τ) where
  run := run

end World

end SlashChat
