/-!
# Faults of a YAML text

Why a text is not one well-formed YAML document.
-/

set_option autoImplicit false

namespace SlashChat.Yaml

/-- Why a text is not one well-formed YAML document. -/
inductive Fault
  /-- A character that no document may hold. -/
  | unreadable
  /-- A character that starts no token, or an indicator where none may stand. -/
  | misplaced
  /-- A tab, or a line that starts too far left or right. -/
  | indentation
  /-- A line that should be a mapping's key has no colon. -/
  | keyWithoutColon
  /-- A quoted scalar is not closed. -/
  | openQuote
  /-- An escape sequence that means nothing. -/
  | badEscape
  /-- The header of a block scalar is followed by something else on its line. -/
  | badHeader
  /-- A directive that is malformed, unknown or repeated. -/
  | badDirective
  /-- An anchor or alias without a name. -/
  | badAnchor
  /-- A tag that is malformed or has an unknown handle. -/
  | badTag
  /-- Tokens in an order that no document has. -/
  | unexpectedToken
  /-- An alias to an anchor that does not stand before it. -/
  | unknownAnchor
  /-- A second document. -/
  | secondDocument
  /-- The reader gave up; it never does on a text of finite length. -/
  | exhausted
deriving DecidableEq, Repr, Inhabited

/-- A short sentence for a fault. -/
def Fault.message : Fault → String
  | .unreadable => "control characters are not allowed"
  | .misplaced => "found a character that cannot stand here"
  | .indentation => "found wrong indentation"
  | .keyWithoutColon => "could not find expected ':'"
  | .openQuote => "found unexpected end of a quoted scalar"
  | .badEscape => "found unknown escape character"
  | .badHeader => "did not find expected comment or line break"
  | .badDirective => "found a wrong directive"
  | .badAnchor => "did not find expected alphabetic or numeric character"
  | .badTag => "found a wrong tag"
  | .unexpectedToken => "did not find expected node content"
  | .unknownAnchor => "unknown anchor"
  | .secondDocument => "deserializing from YAML containing more than one document is not supported"
  | .exhausted => "the document is too deep"

end SlashChat.Yaml
