import SlashChat.Text.Space

/-!
# Tokens of a line

A typed line is cut into tokens at white space.  A token that opens with a double quote runs to
the next one and may hold white space; its two quotes are dropped.  A quote inside a bare token is
an ordinary character, and a line whose last quote is never closed has no tokens at all.

`Line.tokens?` is the cutting itself.  `Line.charTokens?` works on characters and is the form that
statements about tokens use.
-/

set_option autoImplicit false

namespace SlashChat.Line

open Text (isSpace trimStart trim)

/-- What is left after a bare token and the white space behind it is shorter than the text the
token was cut from, as the token's first character is gone. -/
theorem length_after_bare (c : Char) (cs : List Char) :
    (trimStart ((c :: cs).dropWhile fun d => !isSpace d)).length < (c :: cs).length := by
  by_cases h : isSpace c = true
  · have : ((c :: cs).dropWhile fun d => !isSpace d) = c :: cs :=
      List.dropWhile_cons_of_neg (by simp [h])
    rw [this]
    unfold trimStart
    rw [List.dropWhile_cons_of_pos h]
    exact Nat.lt_succ_of_le (Text.length_trimStart_le cs)
  · rw [List.dropWhile_cons_of_pos (by simpa using h)]
    exact Nat.lt_succ_of_le (Nat.le_trans (Text.length_trimStart_le _)
      (List.dropWhile_suffix _).length_le)

/-- What is left after a quoted token is shorter than the text behind its opening quote. -/
theorem length_after_quoted {body after : List Char} {q : Char}
    (h : body.dropWhile (· != '"') = q :: after) :
    (trimStart after).length < ('"' :: body).length := by
  have := (List.dropWhile_suffix (l := body) (· != '"')).length_le
  rw [h] at this
  have := Text.length_trimStart_le after
  simp only [List.length_cons] at *
  omega

/-- The tokens of a text that is empty or starts with no white space; `none` when a quote is left
open. -/
def split (rest : List Char) : Option (List (List Char)) :=
  match rest with
  | [] => some []
  | c :: cs =>
    if c = '"' then
      match _h : cs.dropWhile (· != '"') with
      | [] => none
      | _ :: after => (split (trimStart after)).map (cs.takeWhile (· != '"') :: ·)
    else
      (split (trimStart ((c :: cs).dropWhile fun d => !isSpace d))).map
        ((c :: cs).takeWhile (fun d => !isSpace d) :: ·)
termination_by rest.length
decreasing_by
  · exact length_after_quoted _h
  · exact length_after_bare c cs

/-- The tokens of a line, as characters. -/
def charTokens? (line : List Char) : Option (List (List Char)) := split (trim line)

/-- The tokens of a line; `none` when a quote is left open. -/
def tokens? (line : String) : Option (List String) :=
  (charTokens? line.toList).map (·.map String.ofList)

end SlashChat.Line
