import SlashChat.Fortune.Count
import SlashChat.Fortune.Table
import SlashChat.Host

/-!
# Fortune tellers

A teller sends fortunes from its table, picked with a source that it keeps for its whole life.
Nothing is sent unless the arguments are valid, and only fortunes that are sent use up the source.
-/

set_option autoImplicit false

namespace SlashChat

/-- The name of the command that asks a teller for fortunes. -/
def fortuneCommand : String := "/fortune"

/-- The help text of that command. -/
def fortuneHelp : String := "Send a fortune to the contact of the current window"

/-- A table of fortunes and the source that picks from it. -/
structure Teller where
  table : FortuneTable
  source : Random.Source
deriving DecidableEq, Repr

/-- What a teller did, how many fortunes it sent or why it sent none, and the teller after. -/
structure Telling where
  acts : List Act
  result : Except CountError Nat
  teller : Teller

namespace Teller

/-- Announces `count` fortunes and sends as many; there are none to send when the count is not
positive. -/
def send (teller : Teller) (nickname : String) (count : Int) : Telling :=
  let (fortunes, source) := teller.table.picks count.toNat teller.source
  { acts :=
      Act.send (FortuneCount.announcement nickname count) :: fortunes.map Act.send ++
        [Act.log .debug (nickname ++ " sent " ++ Nat.repr fortunes.length ++ " fortunes")]
    result := .ok fortunes.length
    teller := { teller with source } }

/-- Answers the arguments of one line. -/
def handle (teller : Teller) (nickname : String) (args : List String) : Telling :=
  match FortuneCount.parse args with
  | .error cause => ⟨[], .error cause, teller⟩
  | .ok count => teller.send nickname count

end Teller

end SlashChat
