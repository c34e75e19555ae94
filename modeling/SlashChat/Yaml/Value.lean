import SlashChat.Decimal.Binary64
import SlashChat.Text.Digits

/-!
# What a plain scalar stands for

Without quotes a scalar may stand for nothing, a truth value or a number; every other plain scalar
is the text that it is.  A whole number has an optional sign and digits in base ten, or in base
sixteen, eight or two behind `0x`, `0o` or `0b`, and fits 128 bits.  Digits in base ten that start
with a needless zero are a text.
-/

set_option autoImplicit false

namespace SlashChat.Yaml

open Decimal (Binary64)

/-- What a scalar stands for. -/
inductive Value
  | null
  | boolean (value : Bool)
  | integer (value : Int)
  | float (value : Binary64)
  | text (value : String)
deriving DecidableEq, Repr, Inhabited

namespace Value

/-- Whether a text is one of the words for nothing. -/
def isNull (text : String) : Bool :=
  text == "null" || text == "Null" || text == "NULL" || text == "~"

/-- The truth value that a text is a word for. -/
def boolean? (text : String) : Option Bool :=
  if text == "true" || text == "True" || text == "TRUE" then some true
  else if text == "false" || text == "False" || text == "FALSE" then some false
  else none

/-- A text without the sign that it starts with. -/
def unsigned : List Char → List Char
  | '+' :: rest => rest
  | '-' :: rest => rest
  | cs => cs

/-- Whether a text consists of decimal digits, behind a sign or not, and starts with a needless
zero. -/
def hasNeedlessZero (text : List Char) : Bool :=
  match unsigned text with
  | '0' :: d :: rest => (d :: rest).all Char.isDigit
  | _ => false

/-- The number that digits denote, in the base that they start with the sign of. -/
def magnitude? : List Char → Option Nat
  | '0' :: 'x' :: digits => Text.natural? 16 digits
  | '0' :: 'o' :: digits => Text.natural? 8 digits
  | '0' :: 'b' :: digits => Text.natural? 2 digits
  | digits => Text.natural? 10 digits

/-- The whole number that a text without a minus sign denotes. -/
def natural? (text : List Char) : Option Nat :=
  if hasNeedlessZero text then none
  else
    match text with
    | '+' :: rest => magnitude? rest
    | _ => magnitude? text

/-- The whole number that a text denotes, if it fits 128 bits. -/
def integer? (text : List Char) : Option Int :=
  match text with
  | '-' :: rest =>
    if hasNeedlessZero text then none
    else ((magnitude? rest).filter (· ≤ Nat.pow 2 127)).map fun n => -(n : Int)
  | _ => ((natural? text).filter (· < Nat.pow 2 128)).map Int.ofNat

/-- The exponent that is written at the end of a decimal. -/
def exponent? : List Char → Option Int
  | [] => some 0
  | c :: rest =>
    if c == 'e' || c == 'E' then
      match rest with
      | '-' :: digits => (Text.natural? 10 digits).map fun n => -(n : Int)
      | '+' :: digits => (Text.natural? 10 digits).map Int.ofNat
      | digits => (Text.natural? 10 digits).map Int.ofNat
    else none

/-- The number nearest to a decimal without a sign: digits with a point among them or not, and an
exponent or not. -/
def decimal? (negative : Bool) (text : List Char) : Option Binary64 :=
  let whole := text.takeWhile Char.isDigit
  let rest := text.dropWhile Char.isDigit
  let (fraction, rest) :=
    match rest with
    | '.' :: rest => (rest.takeWhile Char.isDigit, rest.dropWhile Char.isDigit)
    | _ => ([], rest)
  match Text.natural? 10 (whole ++ fraction), exponent? rest with
  | some digits, some e => some (.ofDecimal negative digits (e - fraction.length))
  | _, _ => none

/-- The floating point number that a text denotes.  A decimal that is too large denotes none. -/
def float? (text : List Char) : Option Binary64 :=
  let positive := match text with
    | '+' :: rest => rest
    | _ => text
  let finite (number : Binary64) : Bool := match number with
    | .finite .. => true
    | _ => false
  if positive ∈ [".inf".toList, ".Inf".toList, ".INF".toList] then some (.infinite false)
  else if text ∈ ["-.inf".toList, "-.Inf".toList, "-.INF".toList] then some (.infinite true)
  else if text ∈ [".nan".toList, ".NaN".toList, ".NAN".toList] then some .nan
  else
    match text with
    | '-' :: rest => (decimal? true rest).filter finite
    | _ => (decimal? false positive).filter finite

/-- The seed that a text denotes: a whole number of 64 bits. -/
def seed? (text : String) : Option UInt64 :=
  ((natural? text.toList).filter (· < UInt64.size)).map Nat.toUInt64

/-- The whole number, floating point number or text that a text stands for. -/
def numberOrText (text : String) : Value :=
  match integer? text.toList with
  | some n => .integer n
  | none =>
    if hasNeedlessZero text.toList then .text text
    else
      match float? text.toList with
      | some x => .float x
      | none => .text text

/-- What a plain scalar stands for. -/
def ofPlain (text : String) : Value :=
  if text == "" || isNull text then .null
  else
    match boolean? text with
    | some b => .boolean b
    | none => numberOrText text

end Value

end SlashChat.Yaml
