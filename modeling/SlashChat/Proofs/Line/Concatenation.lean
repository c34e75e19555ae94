import SlashChat.Proofs.Line.Machine

/-!
# Lines put together

Two lines with white space between them are cut into the tokens of the first and then those of the
second (`tokens?_append_space_append`).

White space that follows a finished line leaves the machine in a gap, wherever the end of the line
left it: in a gap it stays, and a bare token ends at the white space just as it ends with the line.
A quoted token is the one that goes on, and a line that ends inside of one has no tokens
(`Station.run_append_space`).
-/

set_option autoImplicit false

namespace SlashChat.Line

open Text (isSpace)

namespace Station

/-- White space behind a station at which a line may end leaves a gap in front of what follows. -/
theorem run_space_cons {station : Station} {tokens : List (List Char)}
    (hfinish : station.finish = some tokens) {c : Char} (hc : isSpace c = true)
    (rest : List Char) : station.run (c :: rest) = (run .gap rest).map (tokens ++ ·) := by
  cases station with
  | gap =>
    obtain rfl := Option.some.inj hfinish
    rw [run_gap_cons_of_isSpace hc]
    simp
  | bare token =>
    obtain rfl := Option.some.inj hfinish
    have hstep : step (.bare token) c = (.gap, some token) := by simp [step, hc]
    rw [run_cons_of_some hstep]
    rfl
  | quoted token => cases hfinish

/-- White space behind a text in which all quotes are closed parts its tokens from those of what
follows. -/
theorem run_append_space {station : Station} {text : List Char} {tokens : List (List Char)}
    (hrun : station.run text = some tokens) {c : Char} (hc : isSpace c = true)
    (rest : List Char) : station.run (text ++ c :: rest) = (run .gap rest).map (tokens ++ ·) := by
  -- The induction runs over the first text; the station is whatever that text has led to.
  induction text generalizing station tokens with
  | nil => exact run_space_cons hrun hc rest
  | cons d text ih =>
    rw [run_cons] at hrun
    obtain ⟨later, hlater, rfl⟩ := Option.map_eq_some_iff.1 hrun
    rw [List.cons_append, run_cons, ih hlater, Option.map_map]
    congr 1
    funext more
    simp

end Station

/-- A line with all its quotes closed, white space and any other line are cut into the tokens of the
one and then the tokens of the other; there are none if the other one leaves a quote open. -/
theorem tokens?_append_space_append {line : String} {tokens : List String}
    (htokens : tokens? line = some tokens) {c : Char} (hc : isSpace c = true) (other : String) :
    tokens? (line ++ String.singleton c ++ other) = (tokens? other).map (tokens ++ ·) := by
  rw [tokens?_eq_run_gap] at htokens
  obtain ⟨chars, hchars, rfl⟩ := Option.map_eq_some_iff.1 htokens
  have hline : (line ++ String.singleton c ++ other).toList =
      line.toList ++ c :: other.toList := by simp
  rw [tokens?_eq_run_gap, tokens?_eq_run_gap, hline, Station.run_append_space hchars hc,
    Option.map_map, Option.map_map]
  congr 1
  funext more
  simp

/-- A quote inside a bare token, two quoted tokens side by side and white space at the end of the
first line change nothing, and an ideographic space is white space. -/
theorem tokens?_append_wide_space :
    tokens? "a\"b \"c d\"\"\" " = some ["a\"b", "c d", ""] ∧ isSpace '\u3000' = true ∧
      tokens? "\"e\"f" = some ["e", "f"] ∧
      tokens? ("a\"b \"c d\"\"\" " ++ String.singleton '\u3000' ++ "\"e\"f") =
        some ["a\"b", "c d", "", "e", "f"] := by
  have hline : tokens? "a\"b \"c d\"\"\" " = some ["a\"b", "c d", ""] := by decide +kernel
  have hspace : isSpace '\u3000' = true := by decide
  have hother : tokens? "\"e\"f" = some ["e", "f"] := by decide +kernel
  refine ⟨hline, hspace, hother, ?_⟩
  rw [tokens?_append_space_append hline hspace, hother]
  rfl

end SlashChat.Line
