/-!
# White space

The characters with the Unicode property `White_Space`, and the cutting of white space from the
ends of a text.  Everything that reads a typed line means this set by "white space".

The main facts are `trimStart_head` (what is left never starts with white space) and
`length_trimStart_le`, the bound that the recursions over a line rest on.
-/

set_option autoImplicit false

namespace SlashChat.Text

/-- A character with the Unicode property `White_Space`. -/
def isSpace (c : Char) : Bool :=
  let n := c.toNat
  (9 ≤ n && n ≤ 13) || n == 0x20 || n == 0x85 || n == 0xA0 || n == 0x1680 ||
    (0x2000 ≤ n && n ≤ 0x200A) || n == 0x2028 || n == 0x2029 || n == 0x202F || n == 0x205F ||
    n == 0x3000

/-- A text without the white space it starts with. -/
def trimStart (cs : List Char) : List Char := cs.dropWhile isSpace

/-- A text without the white space it ends with. -/
def trimEnd : List Char → List Char
  | [] => []
  | c :: cs =>
    let kept := trimEnd cs
    if kept.isEmpty && isSpace c then [] else c :: kept

/-- A text without the white space at its two ends. -/
def trim (cs : List Char) : List Char := trimEnd (trimStart cs)

/-- A text gets no longer when white space at its start goes. -/
theorem length_trimStart_le (cs : List Char) : (trimStart cs).length ≤ cs.length :=
  (List.dropWhile_suffix isSpace).length_le

/-- What is left behind the white space at the start of a text starts with none. -/
theorem trimStart_head {cs : List Char} {c : Char} (h : (trimStart cs).head? = some c) :
    isSpace c = false := by
  induction cs with
  | nil => simp [trimStart] at h
  | cons d ds ih =>
    unfold trimStart at h ih
    by_cases hd : isSpace d = true
    · rw [List.dropWhile_cons_of_pos hd] at h
      exact ih h
    · rw [List.dropWhile_cons_of_neg hd] at h
      simp only [List.head?_cons, Option.some.injEq] at h
      subst h
      simpa using hd

end SlashChat.Text
