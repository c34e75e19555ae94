import SlashChat.Yaml.Token

/-!
# Nodes

The tree that a YAML document describes.  An alias stands for the node that its anchor names; it
is kept as a number, which the document looks up, so that a tree is finite even where a node
contains an alias of itself.

A text that goes wrong describes a tree up to there.  The place where it breaks off is a node of its
own, `Node.cut`: every collection that is still open has it as its last item, or as the key of its
last entry.  The tree of a whole document has no such node.
-/

set_option autoImplicit false

namespace SlashChat.Yaml

/-- A node of a document. -/
inductive Node where
  | scalar (tag : Option String) (style : ScalarStyle) (text : String)
  | sequence (items : List Node)
  | mapping (entries : List (Node × Node))
  | alias (slot : Nat)
  /-- The place where the text breaks off. -/
  | cut
deriving Repr, Inhabited

namespace Node

/-- The node that nothing stands for. -/
def empty : Node := .scalar none .plain ""

/-- The last entry of a mapping in which the text breaks off. -/
def cutEntry : Node × Node := (.cut, .cut)

mutual

/-- Whether the text does not break off in a node.  An alias is whole whatever it stands for. -/
def isWhole : Node → Bool
  | .scalar .. | .alias _ => true
  | .sequence items => areWhole items
  | .mapping entries => entriesWhole entries
  | .cut => false

/-- Whether the text breaks off in none of the items of a sequence. -/
def areWhole : List Node → Bool
  | [] => true
  | item :: rest => item.isWhole && areWhole rest

/-- Whether the text breaks off in none of the entries of a mapping. -/
def entriesWhole : List (Node × Node) → Bool
  | [] => true
  | (key, value) :: rest => key.isWhole && value.isWhole && entriesWhole rest

end

end Node

/-- A document: its root, if the text holds more than comments, and the nodes that aliases stand
for. -/
structure Document where
  root : Option Node
  target : Nat → Option Node := fun _ => none

namespace Document

/-- A document without aliases. -/
def ofNode (root : Node) : Document := { root := some root }

/-- The node that a node stands for. -/
def resolve (document : Document) : Node → Node
  | .alias slot => (document.target slot).getD Node.empty
  | node => node

end Document

end SlashChat.Yaml
