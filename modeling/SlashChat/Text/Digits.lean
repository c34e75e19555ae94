/-!
# Digits

Whole numbers as runs of digits in a base of at most sixteen, leading zeros allowed.  Digits are
ASCII characters; the letters among them count in either case.
-/

set_option autoImplicit false

namespace SlashChat.Text

/-- The value of a digit in base sixteen. -/
def digitValue? (c : Char) : Option Nat :=
  if c.isDigit then some (c.toNat - '0'.toNat)
  else if 'a' ≤ c ∧ c ≤ 'f' then some (c.toNat - 'a'.toNat + 10)
  else if 'A' ≤ c ∧ c ≤ 'F' then some (c.toNat - 'A'.toNat + 10)
  else none

/-- The number that digits denote behind digits that denote `value`. -/
def digitsFrom (base value : Nat) : List Char → Option Nat
  | [] => some value
  | c :: rest =>
    match (digitValue? c).filter (· < base) with
    | some digit => digitsFrom base (value * base + digit) rest
    | none => none

/-- The number that one or more digits denote. -/
def natural? (base : Nat) : List Char → Option Nat
  | [] => none
  | digits => digitsFrom base 0 digits

end SlashChat.Text
