import SlashChat.Error
import SlashChat.Line.Token

/-!
# Requests

A line is a request for a command when, leading white space aside, it starts with a slash or with
the *lead*, a text of the user's choice.  Commands are known by names that start with a slash, so a
request that uses the lead is read as if it had been typed with the slash: every copy of the lead
at the front of the first token goes and one slash takes their place.
-/

set_option autoImplicit false

namespace SlashChat

open Text (trimStart)

/-- A line that asks for a command: the command's name and the tokens behind it. -/
structure Request where
  name : String
  args : List String
deriving DecidableEq, Repr, Inhabited

namespace Request

/-- The lead with which a slash is the only way to ask for a command. -/
def defaultLead : String := "/"

/-- Whether a line asks for a command. -/
def isRequest (lead line : String) : Bool :=
  let text := trimStart line.toList
  text.head? == some '/' || (lead != "" && lead.toList.isPrefixOf text)

/-- A text without the copies of `lead` that it starts with; an empty lead has no copies. -/
def stripCopies (lead text : List Char) : List Char :=
  if _h : lead ≠ [] ∧ lead.isPrefixOf text then stripCopies lead (text.drop lead.length) else text
termination_by text.length
decreasing_by
  have hle := (List.isPrefixOf_iff_prefix.1 _h.2).length_le
  have hpos := List.length_pos_iff.2 _h.1
  rw [List.length_drop]
  omega

/-- The name that a request's first token stands for. -/
def nameOf (lead first : String) : String :=
  if first.toList.head? = some '/' then first
  else String.ofList ('/' :: stripCopies lead.toList first.toList)

/-- Reads a line: `none` is chat text, an error is a quote left open in a request. -/
def read (lead line : String) : Except CommandError (Option Request) :=
  if isRequest lead line then
    match Line.tokens? line with
    | none => .error .unterminatedQuote
    | some [] => .ok none
    | some (first :: args) => .ok (some ⟨nameOf lead first, args⟩)
  else .ok none

end Request

end SlashChat
