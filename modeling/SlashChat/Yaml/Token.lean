/-!
# Tokens of YAML

What a YAML text is cut into before its structure is read.  Indentation shows as tokens that open
and close block collections, so the order of tokens alone decides the structure.
-/

set_option autoImplicit false

namespace SlashChat.Yaml

/-- How a scalar is written. -/
inductive ScalarStyle
  | plain
  | singleQuoted
  | doubleQuoted
  | literal
  | folded
deriving DecidableEq, Repr, Inhabited

/-- A token of a YAML text. -/
inductive Token
  /-- The directive that names a version of the format. -/
  | version (major minor : Nat)
  /-- The directive that gives a tag handle its meaning. -/
  | tagHandle (handle meaning : String)
  | documentStart
  | documentEnd
  | blockSequence
  | blockMapping
  /-- The end of a block collection. -/
  | blockEnd
  | flowSequence
  | flowSequenceEnd
  | flowMapping
  | flowMappingEnd
  /-- The dash in front of an entry of a block sequence. -/
  | dash
  /-- The comma between entries in brackets. -/
  | comma
  /-- What follows is a key. -/
  | key
  /-- What follows is the value of a key. -/
  | value
  | anchor (name : String)
  | alias (name : String)
  | tag (handle suffix : String)
  | scalar (style : ScalarStyle) (text : String)
deriving DecidableEq, Repr, Inhabited

end SlashChat.Yaml
