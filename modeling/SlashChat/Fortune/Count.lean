import SlashChat.Error
import SlashChat.Text.Digits

/-!
# Fortune counts

A `/fortune` line takes exactly one argument, a decimal integer that fits 64 bits: an optional
sign, then at least one ASCII digit, leading zeros allowed.  The announcement writes the count in
its shortest decimal form.
-/

set_option autoImplicit false

namespace SlashChat.FortuneCount

/-- The integer that an optional sign and digits denote. -/
def numeral? : List Char → Option Int
  | '-' :: digits => (Text.natural? 10 digits).map fun n => -(n : Int)
  | '+' :: digits => (Text.natural? 10 digits).map Int.ofNat
  | digits => (Text.natural? 10 digits).map Int.ofNat

/-- Whether an integer fits 64 bits with a sign. -/
def inRange (n : Int) : Bool := Int64.minValue.toInt ≤ n && n ≤ Int64.maxValue.toInt

/-- The count that the arguments of a line ask for. -/
def parse : List String → Except CountError Int
  | [arg] =>
    match (numeral? arg.toList).filter inRange with
    | some n => .ok n
    | none => .error .argumentType
  | _ => .error .argumentCount

/-- A count in decimal. -/
def text : Int → String
  | .ofNat n => Nat.repr n
  | .negSucc n => "-" ++ Nat.repr (n + 1)

/-- What the contact is told before the fortunes come. -/
def announcement (nickname : String) (count : Int) : String :=
  nickname ++ " has decided to send you " ++ text count ++ " fortunes:"

end SlashChat.FortuneCount
