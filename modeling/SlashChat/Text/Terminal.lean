import SlashChat.Text.Quoted

/-!
# Texts for a terminal

A line of the log goes to a terminal, which takes some control characters as orders: to ring, to
step back, to clear, to start a sequence of orders.  `disarm` spells these out.  Tabs, line breaks
and all other characters stay as they are.
-/

set_option autoImplicit false

namespace SlashChat.Text

/-- The control characters of one byte that a terminal takes as orders. -/
def narrowOrders : List Nat := [0x07, 0x08, 0x0C, 0x1B, 0x7F]

/-- Whether a terminal takes a character as an order.  All control characters of the second block
are orders. -/
def isOrder (c : Char) : Bool :=
  narrowOrders.contains c.toNat || (0x80 ≤ c.toNat && c.toNat ≤ 0x9F)

/-- A character with its order taken away: two digits in base sixteen for one byte, and the code
point in braces for the second block. -/
def disarmChar (c : Char) : List Char :=
  let n := c.toNat
  if !isOrder c then [c]
  else if n < 0x80 then '\\' :: 'x' :: (hexLower (n / 16) ++ hexLower (n % 16))
  else '\\' :: 'u' :: '\x7b' :: (hexLower n ++ ['\x7d'])

/-- A text with all orders taken away. -/
def disarm (text : String) : String := String.ofList (text.toList.flatMap disarmChar)

end SlashChat.Text
