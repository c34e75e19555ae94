import SlashChat.Line.Request
import SlashChat.Proofs.Line.Machine

/-!
# Reading requests

A line that asks for a command is not all white space, so a cutting that succeeds finds a token in
it: reading a request never comes away without a name.  What reading gives is therefore settled by
`Request.isRequest` and `Line.tokens?` alone (`read_cases`).

White space around a line hides no request that is there without it, and does not change what the
request is (`read_trimmed`).  It can make a request of what is none without it, for a lead that ends
with white space.
-/

set_option autoImplicit false

namespace SlashChat

open Text (isSpace trimStart trim trimmed)

/-- A request is not all white space. -/
theorem Request.trim_ne_nil_of_isRequest {lead line : String}
    (hrequest : isRequest lead line = true) : trim line.toList ≠ [] := by
  intro hnil
  have hstart : trimStart line.toList = [] :=
    Text.trimStart_eq_nil_iff.2 (Text.trim_eq_nil_iff.1 hnil)
  simp [isRequest, hstart] at hrequest

/-- A line that is not all white space has a token, unless a quote is left open. -/
theorem Line.tokens?_ne_nil {line : String} (hline : trim line.toList ≠ []) :
    tokens? line ≠ some [] := by
  obtain ⟨c, rest, hcons⟩ := List.exists_cons_of_ne_nil hline
  unfold tokens? charTokens?
  rw [hcons, split]
  split
  · split <;> simp
  · simp

namespace Request

/-- A line that is no request is read as chat text. -/
theorem read_of_not_isRequest {lead line : String} (hrequest : isRequest lead line = false) :
    read lead line = .ok none := by
  simp [read, hrequest]

/-- A request with a quote left open is an error. -/
theorem read_of_openQuote {lead line : String} (hrequest : isRequest lead line = true)
    (htokens : Line.tokens? line = none) : read lead line = .error .unterminatedQuote := by
  simp [read, hrequest, htokens]

/-- A request takes its name from the first token and its arguments from the others. -/
theorem read_of_tokens {lead line first : String} {args : List String}
    (hrequest : isRequest lead line = true) (htokens : Line.tokens? line = some (first :: args)) :
    read lead line = .ok (some ⟨nameOf lead first, args⟩) := by
  simp [read, hrequest, htokens]

/-- A slash in front of a line makes it a request, with every lead. -/
theorem isRequest_of_head_slash (lead : String) {line : String}
    (hslash : (trimStart line.toList).head? = some '/') : isRequest lead line = true := by
  rw [isRequest, hslash]
  rfl

/-- Only requests are read as an error or as a request. -/
theorem isRequest_of_read {lead line : String} (hread : read lead line ≠ .ok none) :
    isRequest lead line = true := by
  by_contra hnot
  exact hread (read_of_not_isRequest (by simpa using hnot))

/-- A line is no request, a request with an open quote, or a request with a first token. -/
theorem read_cases (lead line : String) :
    (isRequest lead line = false ∧ read lead line = .ok none) ∨
      (isRequest lead line = true ∧ Line.tokens? line = none ∧
        read lead line = .error .unterminatedQuote) ∨
      (isRequest lead line = true ∧ ∃ first args, Line.tokens? line = some (first :: args) ∧
        read lead line = .ok (some ⟨nameOf lead first, args⟩)) := by
  cases hrequest : isRequest lead line with
  | false => exact .inl ⟨rfl, read_of_not_isRequest hrequest⟩
  | true =>
    cases htokens : Line.tokens? line with
    | none => exact .inr (.inl ⟨rfl, rfl, read_of_openQuote hrequest htokens⟩)
    | some tokens =>
      obtain ⟨first, args, rfl⟩ := List.exists_cons_of_ne_nil (l := tokens) (by
        rintro rfl
        exact Line.tokens?_ne_nil (trim_ne_nil_of_isRequest hrequest) htokens)
      exact .inr (.inr ⟨rfl, first, args, rfl, read_of_tokens hrequest htokens⟩)

/-- A request is never read as chat text. -/
theorem read_ne_none {lead line : String} (hrequest : isRequest lead line = true) :
    read lead line ≠ .ok none := by
  obtain ⟨hnot, -⟩ | ⟨-, -, hread⟩ | ⟨-, first, args, -, hread⟩ := read_cases lead line
  · rw [hrequest] at hnot
    cases hnot
  · rw [hread]
    nofun
  · rw [hread]
    nofun

/-! ## White space around a line -/

/-- A line is a request if it is one without the white space around it. -/
theorem isRequest_of_trimmed {lead line : String}
    (hrequest : isRequest lead (trimmed line) = true) : isRequest lead line = true := by
  have hstarts := Text.trim_isPrefix line.toList
  simp only [isRequest, Text.toList_trimmed, Text.trimStart_trim, Bool.or_eq_true, beq_iff_eq,
    Bool.and_eq_true, List.isPrefixOf_iff_prefix] at hrequest ⊢
  rcases hrequest with hslash | ⟨hne, hlead⟩
  · exact .inl (Text.head?_of_trimEnd hslash)
  · exact .inr ⟨hne, hlead.trans hstarts⟩

/-- A request is read the same without the white space around its line. -/
theorem read_trimmed {lead line : String} (hrequest : isRequest lead (trimmed line) = true) :
    read lead (trimmed line) = read lead line := by
  have htokens : Line.tokens? (trimmed line) = Line.tokens? line := by
    rw [Line.tokens?_eq_run_gap, Line.tokens?_eq_run_gap, Text.toList_trimmed,
      Line.Station.run_gap_trim]
  rw [read, read, hrequest, isRequest_of_trimmed hrequest, htokens]

end Request

end SlashChat
