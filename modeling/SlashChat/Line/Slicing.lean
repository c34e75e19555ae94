import SlashChat.Text.Space

/-!
# Tokens, slice by slice

The same cutting of a line as in `SlashChat.Line.Token`, on the bytes of the line.  A search says
at which byte a token ends, and the line is sliced there and at the byte behind a closing quote.  A
text cannot be sliced at any byte: a slice beyond the end or inside a character is none.

What is cut off goes to the tokens, what is left goes to the next round, and a line that cannot be
sliced stops the cutting for good.
-/

set_option autoImplicit false

namespace SlashChat

namespace Text

/-- The byte at which the first character with a property starts. -/
def firstByte? (p : Char → Bool) (text : String) : Option Nat :=
  (text.find? p).map fun place => place.offset.byteIdx

/-- The part of a text in front of a byte. -/
def sliceTo? (text : String) (byte : Nat) : Option String :=
  (text.pos? ⟨byte⟩).map fun place => (text.sliceTo place).copy

/-- The part of a text from a byte on. -/
def sliceFrom? (text : String) (byte : Nat) : Option String :=
  (text.pos? ⟨byte⟩).map fun place => (text.sliceFrom place).copy

end Text

namespace Line

open Text (isSpace trimStart trim sliceTo? sliceFrom?)

/-- What is to be done about what is left of a line. -/
inductive Round
  | finished
  /-- The last quote is not closed. -/
  | openQuote
  /-- A token of `body` ends at one byte, and what is left starts at another. -/
  | cut (body : String) (ends resumes : Nat)
deriving DecidableEq, Repr, Inhabited

/-- The round that what is left of a line asks for. -/
def round (rest : String) : Round :=
  match rest.toList with
  | [] => .finished
  | '"' :: body =>
    match Text.firstByte? (· == '"') (String.ofList body) with
    | some close => .cut (String.ofList body) close (close + 1)
    | none => .openQuote
  | _ =>
    let stop := (Text.firstByte? isSpace rest).getD rest.utf8ByteSize
    .cut rest stop stop

/-- The tokens and what is left of a line at the start of a round. -/
inductive Reaches (line : String) : List String → String → Prop
  | start : Reaches line [] (String.ofList (trim line.toList))
  | next {tokens : List String} {rest body token left : String} {ends resumes : Nat} :
      Reaches line tokens rest → round rest = .cut body ends resumes →
      sliceTo? body ends = some token → sliceFrom? body resumes = some left →
      Reaches line (tokens ++ [token]) (String.ofList (trimStart left.toList))

end Line

end SlashChat
