/-!
# Floating point numbers of 64 bits

The number nearest to a decimal, and the shortest decimal that is nearest to a number, both in
exact arithmetic on integers.  A finite number is `m * 2 ^ q` with `m < 2 ^ 53` and
`-1074 ≤ q ≤ 971`; a decimal halfway between two numbers goes to the one whose `m` is even.

The decimal is written without an exponent, and with a point even when it is a whole number.  Of
two shortest decimals that are equally near to a number, the one further from zero is written.
-/

set_option autoImplicit false

namespace SlashChat.Decimal

/-- A floating point number of 64 bits. -/
inductive Binary64
  | nan
  | infinite (negative : Bool)
  | finite (negative : Bool) (m : Nat) (q : Int)
deriving DecidableEq, Repr, Inhabited

namespace Binary64

/-- A quotient rounded to the nearest whole number, a half to the even one. -/
def roundDiv (num den : Nat) : Nat :=
  let whole := num / den
  let rest := num % den
  if den < 2 * rest || (2 * rest == den && whole % 2 == 1) then whole + 1 else whole

/-- `num * base ^ e` over `den`, as numerator and denominator. -/
def scale (base : Nat) (num den : Nat) (e : Int) : Nat × Nat :=
  if 0 ≤ e then (num * base.pow e.toNat, den) else (num, den * base.pow (-e).toNat)

/-- The exponent of the highest power of two that is not above a positive quotient. -/
def floorLog2 (num den : Nat) : Int :=
  let guess := (num.log2 : Int) - den.log2
  let (a, b) := scale 2 num den (-guess)
  if a < b then guess - 1 else guess

/-- The smallest exponent of a finite number. -/
def lowestExponent : Int := -1074

/-- The largest exponent of a finite number. -/
def highestExponent : Int := 971

/-- The number nearest to a quotient. -/
def ofQuotient (negative : Bool) (num den : Nat) : Binary64 :=
  if num == 0 then .finite negative 0 lowestExponent
  else
    let q := max lowestExponent (floorLog2 num den - 52)
    let (a, b) := scale 2 num den (-q)
    let m := roundDiv a b
    let (m, q) := if m == Nat.pow 2 53 then (Nat.pow 2 52, q + 1) else (m, q)
    if highestExponent < q then .infinite negative else .finite negative m q

/-- The number nearest to `digits * 10 ^ e`.  Far out of range the answer is known without the
power. -/
def ofDecimal (negative : Bool) (digits : Nat) (e : Int) : Binary64 :=
  let size := ((Nat.repr digits).length : Int) + e
  if digits == 0 || size < -400 then .finite negative 0 lowestExponent
  else if 400 < size then .infinite negative
  else
    let (num, den) := scale 10 digits 1 e
    ofQuotient negative num den

/-- The number of decimal digits that always suffice. -/
def mostDigits : Nat := 17

/-- The exponent of the highest power of ten that is not above a positive quotient, searched for
from a guess that may be too high. -/
def floorLog10 (num den : Nat) : Nat → Int → Int
  | 0, guess => guess
  | fuel + 1, guess =>
    let (a, b) := scale 10 num den (-guess)
    if a < b then floorLog10 num den fuel (guess - 1) else guess

/-- Digits and an exponent, with a digit less if the digits are a power of ten. -/
def carried (count digits : Nat) (e : Int) : Nat × Int :=
  if digits == Nat.pow 10 count then (Nat.pow 10 (count - 1), e + 1) else (digits, e)

/-- A decimal of `count` digits that reads back as `m * 2 ^ q`, if there is one: its digits and
their exponent.  It is one of the two next to the number: if both read back the nearer, and the
upper one if both are equally near. -/
def nearest? (m : Nat) (q : Int) (top : Int) (count : Nat) : Option (Nat × Int) :=
  let e := top - (count : Int) + 1
  let (num, den) := scale 2 m 1 q
  let (a, b) := scale 10 num den (-e)
  let low := a / b
  let candidates := if 2 * (a % b) < b then [low, low + 1] else [low + 1, low]
  (candidates.find? fun digits => ofDecimal false digits e == .finite false m q).map
    fun digits => carried count digits e

/-- The shortest decimal that reads back as `m * 2 ^ q`: digits and exponent. -/
def shortest (m : Nat) (q : Int) : Nat × Int :=
  let (num, den) := scale 2 m 1 q
  let guess := ((Nat.repr (num / den)).length : Int)
  let top := floorLog10 num den 400 guess
  (((List.range mostDigits).findSome? fun count => nearest? m q top (count + 1))).getD (m, 0)

/-- `digits * 10 ^ e` without an exponent and with a point. -/
def positional (digits : Nat) (e : Int) : String :=
  let text := Nat.repr digits
  if 0 ≤ e then text ++ String.ofList (List.replicate e.toNat '0') ++ ".0"
  else
    let places := (-e).toNat
    let padded := List.replicate (places + 1 - text.length) '0' ++ text.toList
    let whole := padded.take (padded.length - places)
    let fraction := padded.drop (padded.length - places)
    String.ofList (whole ++ '.' :: fraction)

/-- The text of a number. -/
def text : Binary64 → String
  | .nan => "NaN"
  | .infinite negative => if negative then "-inf" else "inf"
  | .finite negative m q =>
    (if negative then "-" else "") ++
      if m == 0 then "0.0"
      else
        let (digits, e) := shortest m q
        positional digits e

end Binary64

end SlashChat.Decimal
