import SlashChat.Random.Choice
import SlashChat.Random.Keystream

/-!
# Random sources

A source is a key and the place that its stream has been read up to.  Sources with the same key
and the same place make the same choices for ever.
-/

set_option autoImplicit false

namespace SlashChat.Random

/-- A word stream and the place that it has been read up to. -/
structure Source where
  key : Key
  place : Nat := 0
deriving DecidableEq, Repr, Inhabited

namespace Source

/-- The source of a seed, nothing read. -/
def ofSeed (seed : UInt64) : Source := { key := Key.ofSeed seed }

/-- A number below `n`, and the source behind the words that the choice used up. -/
def below (source : Source) (n : Nat) (hn : 0 < n) : Fin n × Source :=
  let (choice, place) := choose source.key.word n hn source.place
  (choice, { source with place })

end Source

end SlashChat.Random
