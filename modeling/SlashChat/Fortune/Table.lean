import SlashChat.Random.Source

/-!
# Fortune tables

A table is a list of fortunes with at least one entry, so that a pick always has an answer.
-/

set_option autoImplicit false

namespace SlashChat

open SlashChat.Random (Source)

/-- A list of fortunes that is not empty. -/
structure FortuneTable where
  entries : List String
  ne_nil : entries ≠ []
deriving DecidableEq, Repr

namespace FortuneTable

/-- The fortunes that come with the program. -/
def builtin : FortuneTable where
  entries :=
    ["A bug in the code is worth two in the documentation.",
     "A bug in the hand is better than one as yet undetected.",
     "\"A debugged program is one for which you have not yet found the conditions that make it " ++
       "fail.\" -- Jerry Ogdin"]
  ne_nil := List.cons_ne_nil _ _

instance : Inhabited FortuneTable := ⟨builtin⟩

/-- The table of some fortunes; there is none without an entry. -/
def ofList? (entries : List String) : Option FortuneTable :=
  if h : entries ≠ [] then some ⟨entries, h⟩ else none

/-- How many fortunes the table holds. -/
def size (table : FortuneTable) : Nat := table.entries.length

/-- Whether the table holds no fortunes, which no table does. -/
def isEmpty (table : FortuneTable) : Bool := table.entries.isEmpty

/-- Whether a text is one of the fortunes. -/
def contains (table : FortuneTable) (text : String) : Bool := table.entries.contains text

/-- A table holds at least one fortune. -/
theorem size_pos (table : FortuneTable) : 0 < table.size := List.length_pos_iff.2 table.ne_nil

/-- A fortune, each as likely as the others and all of them left in the table. -/
def pick (table : FortuneTable) (source : Source) : String × Source :=
  let (index, source) := source.below table.size table.size_pos
  (table.entries.get index, source)

/-- Successive picks. -/
def picks (table : FortuneTable) : Nat → Source → List String × Source
  | 0, source => ([], source)
  | count + 1, source =>
    let (fortune, source) := table.pick source
    let (more, source) := table.picks count source
    (fortune :: more, source)

/-- A pick is always one of the entries. -/
theorem pick_mem (table : FortuneTable) (source : Source) :
    (table.pick source).1 ∈ table.entries := List.get_mem _ _

end FortuneTable

end SlashChat
