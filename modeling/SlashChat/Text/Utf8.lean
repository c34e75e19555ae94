/-!
# Texts as bytes

The UTF-8 form of a text, and where bytes go wrong that are the form of none.  A character's first
byte says how many bytes follow it and from which ranges; the ranges leave out longer forms of
characters that have a shorter one, the surrogates, and numbers beyond the last character's.

`Utf8Fault.find` walks over the bytes once.  It stops at the first byte that cannot continue what
stands in front of it, or at the end if a character is not complete there.
-/

set_option autoImplicit false

namespace SlashChat.Text

/-- The first and the last byte of a range. -/
abbrev ByteRange := UInt8 × UInt8

namespace ByteRange

/-- The bytes that only follow others. -/
def tail : ByteRange := (0x80, 0xBF)

/-- Whether a byte is in a range. -/
def holds (range : ByteRange) (byte : UInt8) : Bool := range.1 ≤ byte && byte ≤ range.2

end ByteRange

/-- The ranges of the bytes that complete a character behind its first byte; no character starts
with any other byte. -/
def tailRanges? (first : UInt8) : Option (List ByteRange) :=
  if first ≤ 0x7F then some []
  else if 0xC2 ≤ first ∧ first ≤ 0xDF then some [.tail]
  else if first = 0xE0 then some [(0xA0, 0xBF), .tail]
  else if first = 0xED then some [(0x80, 0x9F), .tail]
  else if 0xE1 ≤ first ∧ first ≤ 0xEF then some [.tail, .tail]
  else if first = 0xF0 then some [(0x90, 0xBF), .tail, .tail]
  else if 0xF1 ≤ first ∧ first ≤ 0xF3 then some [.tail, .tail, .tail]
  else if first = 0xF4 then some [(0x80, 0x8F), .tail, .tail]
  else none

/-- Why bytes are no text. -/
inductive Utf8Fault
  /-- As many bytes from a place on start no character, or one that does not go on behind them. -/
  | wrong (start count : Nat)
  /-- The bytes end inside the character that starts at a place. -/
  | incomplete (start : Nat)
deriving DecidableEq, Repr, Inhabited

namespace Utf8Fault

/-- The words for a fault. -/
def message : Utf8Fault → String
  | .wrong start count =>
    "invalid utf-8 sequence of " ++ Nat.repr count ++ " bytes from index " ++ Nat.repr start
  | .incomplete start => "incomplete utf-8 byte sequence from index " ++ Nat.repr start

/-- The fault of bytes that are no text, behind the `count` first ones of a character that starts at
`start`, which bytes of the ranges `due` complete. -/
def findFrom (start count : Nat) : (due : List ByteRange) → List UInt8 → Utf8Fault
  | _, [] => .incomplete start
  | [], byte :: rest =>
    match tailRanges? byte with
    | some due => findFrom (start + count) 1 due rest
    | none => .wrong (start + count) 1
  | range :: due, byte :: rest =>
    if range.holds byte then findFrom start (count + 1) due rest else .wrong start count

/-- The fault of bytes that are no text. -/
def find (bytes : List UInt8) : Utf8Fault := findFrom 0 0 [] bytes

end Utf8Fault

/-- The UTF-8 form of a text. -/
def toUtf8 (text : String) : List UInt8 := text.toUTF8.toList

/-- The text that bytes are the UTF-8 form of. -/
def ofUtf8? (bytes : List UInt8) : Option String := String.fromUTF8? (ByteArray.mk bytes.toArray)

/-- The text that bytes are the UTF-8 form of, or where they go wrong. -/
def decodeUtf8 (bytes : List UInt8) : Except Utf8Fault String :=
  match ofUtf8? bytes with
  | some text => .ok text
  | none => .error (Utf8Fault.find bytes)

end SlashChat.Text
