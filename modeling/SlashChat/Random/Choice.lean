/-!
# Uniform choice

How a number below `n` is chosen from a stream of 64-bit words.  The product of a word with `n` is
a 128-bit number; its high half is below `n` and is the choice.  Words whose product has a low half
above the *zone* are passed over, as they would favour some numbers.

The zone is `n` moved up until its highest bit is bit 63, less one, so at least half of all words
are accepted.  A search looks at one word after the other and ends at the first that is accepted.
-/

set_option autoImplicit false

namespace SlashChat.Random

/-- How many 64-bit words there are. -/
def wordCount : Nat := UInt64.size

/-- How many bits of the 64 stand above the highest bit of `n`. -/
def leadingZeros (n : Nat) : Nat := if n = 0 then 64 else 63 - n.log2

/-- The largest low half that a choice below `n` accepts. -/
def zone (n : Nat) : Nat := (n <<< leadingZeros n) - 1

/-- The low half of the product of a word with `n`. -/
def lowHalf (n : Nat) (word : UInt64) : Nat := word.toNat * n % wordCount

/-- The high half of the product of a word with `n`. -/
def highHalf (n : Nat) (word : UInt64) : Nat := word.toNat * n / wordCount

/-- Whether a choice below `n` accepts a word. -/
def accepts (n : Nat) (word : UInt64) : Bool := lowHalf n word ≤ zone n

/-- The high half is a number below `n`. -/
theorem highHalf_lt {n : Nat} (hn : 0 < n) (word : UInt64) : highHalf n word < n := by
  unfold highHalf wordCount
  rw [Nat.div_lt_iff_lt_mul (by decide), Nat.mul_comm n]
  exact Nat.mul_lt_mul_of_pos_right word.toNat_lt_size hn

/-- The place of the first accepted word at or after `place`.  Nothing bounds the search: in a
stream that holds no such word it never ends. -/
def acceptedPlace (words : Nat → UInt64) (n place : Nat) : Nat :=
  Id.run (repeatM (fun place =>
    if accepts n (words place) then pure (.inr place) else pure (.inl (place + 1))) place)

/-- The search stops at a word that is accepted and else goes on with the next one. -/
theorem acceptedPlace_eq (words : Nat → UInt64) (n place : Nat) :
    acceptedPlace words n place =
      if accepts n (words place) then place else acceptedPlace words n (place + 1) := by
  unfold acceptedPlace
  rw [repeatM_eq_of_monadTail, repeatM.body]
  cases accepts n (words place) <;> rfl

/-- A number below `n` chosen from the words at `place` and after, and the place behind the word
that chose it. -/
def choose (words : Nat → UInt64) (n : Nat) (hn : 0 < n) (place : Nat) : Fin n × Nat :=
  let found := acceptedPlace words n place
  (⟨highHalf n (words found), highHalf_lt hn _⟩, found + 1)

end SlashChat.Random
