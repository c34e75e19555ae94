import SlashChat.Catalog
import SlashChat.Proofs.Line.Lead

/-!
# The first token of a request

`Request.isRequest` looks at a line as it was typed, and `Request.read` at the first token that the
line is cut into.  A line that opens with no quote has its first word for its first token
(`Line.standsBare_first`), so there the two look at the same characters.

They cannot disagree about any line (`read_agrees`): chat text is what is no request, only an open
quote makes a request fail, and every other request names a command with a slash.  A line that
starts with a slash does not even depend on the lead.
-/

set_option autoImplicit false

namespace SlashChat

open Text (isSpace trimStart)

/-! ## Lines that open with no quote -/

/-- The first token of a line that opens with no quote is the line's first word. -/
theorem Line.toList_first {line first : String} {args : List String} {c : Char} {cs : List Char}
    (htokens : tokens? line = some (first :: args)) (hline : trimStart line.toList = c :: cs)
    (hquote : c ≠ '"') : first.toList = c :: cs.takeWhile fun d => !isSpace d := by
  have hspace : isSpace c = false := Text.trimStart_head (by rw [hline, List.head?_cons])
  have hstep : Station.gap.step c = (.bare [c], none) := by
    simp [Station.step, hspace, hquote]
  have hrun : Station.gap.run line.toList =
      (Station.gap.run (cs.dropWhile fun d => !isSpace d)).map
        ((c :: cs.takeWhile fun d => !isSpace d) :: ·) := by
    rw [← Station.run_gap_trimStart, hline, Station.run_cons_of_none hstep, Station.run_bare]
    rfl
  rw [tokens?_eq_run_gap, hrun, Option.map_map] at htokens
  obtain ⟨later, -, hcons⟩ := Option.map_eq_some_iff.1 htokens
  have hfirst := (List.cons_eq_cons.1 hcons).1
  rw [← hfirst, String.toList_ofList]

/-- The first token of a line that opens with no quote stands bare and starts as the line does. -/
theorem Line.standsBare_first {line first : String} {args : List String}
    (htokens : tokens? line = some (first :: args))
    (hquote : (trimStart line.toList).head? ≠ some '"') :
    StandsBare first.toList ∧ first.toList.head? = (trimStart line.toList).head? := by
  cases hline : trimStart line.toList with
  | nil =>
    have hblank : Text.trim line.toList = [] := by rw [Text.trim, hline]; rfl
    rw [tokens?, charTokens?, hblank, split] at htokens
    cases htokens
  | cons c cs =>
    rw [hline] at hquote
    have hc : c ≠ '"' := by simpa using hquote
    have hspace : isSpace c = false := Text.trimStart_head (by rw [hline, List.head?_cons])
    rw [toList_first htokens hline hc]
    refine ⟨⟨⟨c, _, rfl, hc⟩, ?_⟩, rfl⟩
    intro d hd
    rcases List.mem_cons.1 hd with rfl | hd
    · exact hspace
    · simpa using List.mem_takeWhile_imp hd

namespace Request

/-- A request opens with a quote only if its lead does. -/
theorem head?_ne_quote_of_isRequest {lead line : String} (hrequest : isRequest lead line = true)
    (hlead : lead.toList.head? ≠ some '"') : (trimStart line.toList).head? ≠ some '"' := by
  intro hquote
  simp only [isRequest, hquote, Bool.or_eq_true, Bool.and_eq_true, bne_iff_ne,
    List.isPrefixOf_iff_prefix] at hrequest
  rcases hrequest with hslash | ⟨hne, hstarts⟩
  · exact absurd hslash (by decide)
  · have hne' : lead.toList ≠ [] := by simpa using hne
    obtain ⟨c, cs, hcons⟩ := List.exists_cons_of_ne_nil hne'
    rw [hcons] at hlead hstarts
    obtain ⟨rest, hrest⟩ := hstarts
    rw [← hrest] at hquote
    exact hlead hquote

/-! ## Names -/

/-- What is left when the copies of a lead go is an end of the text. -/
theorem stripCopies_isSuffix (lead text : List Char) : stripCopies lead text <:+ text := by
  fun_induction stripCopies lead text with
  | case1 text _ ih => exact ih.trans (List.drop_suffix _ _)
  | case2 text _ => exact List.suffix_rfl

/-- The name of a request always has its slash. -/
theorem hasSlash_nameOf (lead first : String) : hasSlash (nameOf lead first) = true := by
  unfold nameOf hasSlash
  by_cases hslash : first.toList.head? = some '/'
  · rw [if_pos hslash, hslash]
    rfl
  · rw [if_neg hslash, String.toList_ofList]
    rfl

/-- A token without white space stands for a name without white space. -/
theorem nameOf_unbroken (lead : String) {first : String}
    (hfirst : ∀ c ∈ first.toList, isSpace c = false) :
    ∀ c ∈ (nameOf lead first).toList, isSpace c = false := by
  intro c hc
  unfold nameOf at hc
  by_cases hslash : first.toList.head? = some '/'
  · rw [if_pos hslash] at hc
    exact hfirst c hc
  · rw [if_neg hslash, String.toList_ofList] at hc
    rcases List.mem_cons.1 hc with rfl | hc
    · exact Text.isSpace_slash
    · exact hfirst c ((stripCopies_isSuffix _ _).subset hc)

/-! ## Recognising and reading -/

/-- A line is read as chat text exactly if it is no request. -/
theorem read_eq_none_iff {lead line : String} :
    read lead line = .ok none ↔ isRequest lead line = false := by
  constructor
  · intro hread
    by_contra hrequest
    exact read_ne_none (by simpa using hrequest) hread
  · exact read_of_not_isRequest

/-- Reading fails for one cause only, and exactly for a request with a quote left open. -/
theorem read_eq_error_iff {lead line : String} {cause : CommandError} :
    read lead line = .error cause ↔
      cause = .unterminatedQuote ∧ isRequest lead line = true ∧ Line.tokens? line = none := by
  constructor
  · intro hread
    obtain ⟨-, hother⟩ | ⟨hrequest, htokens, hother⟩ | ⟨-, first, args, -, hother⟩ :=
      read_cases lead line
    · cases hother.symm.trans hread
    · cases hother.symm.trans hread
      exact ⟨rfl, hrequest, htokens⟩
    · cases hother.symm.trans hread
  · rintro ⟨rfl, hrequest, htokens⟩
    exact read_of_openQuote hrequest htokens

/-- A request is read exactly from a line whose first token gives its name and whose other tokens
are its arguments. -/
theorem read_eq_some_iff {lead line : String} {request : Request} :
    read lead line = .ok (some request) ↔
      isRequest lead line = true ∧ ∃ first, Line.tokens? line = some (first :: request.args) ∧
        request.name = nameOf lead first := by
  constructor
  · intro hread
    obtain ⟨-, hother⟩ | ⟨-, -, hother⟩ | ⟨hrequest, first, args, htokens, hother⟩ :=
      read_cases lead line
    · cases hother.symm.trans hread
    · cases hother.symm.trans hread
    · cases hother.symm.trans hread
      exact ⟨hrequest, first, htokens, rfl⟩
  · rintro ⟨hrequest, first, htokens, hname⟩
    rw [read_of_tokens hrequest htokens, ← hname]

/-- A line with a slash in front is read alike with every lead. -/
theorem read_congr_lead {line : String} (hslash : (trimStart line.toList).head? = some '/')
    (lead other : String) : read lead line = read other line := by
  have hrequest (lead : String) : isRequest lead line = true := isRequest_of_head_slash lead hslash
  obtain ⟨hnot, -⟩ | ⟨-, htokens, hread⟩ | ⟨-, first, args, htokens, hread⟩ := read_cases lead line
  · rw [hrequest lead] at hnot
    cases hnot
  · rw [hread, read_of_openQuote (hrequest other) htokens]
  · have hquote : (trimStart line.toList).head? ≠ some '"' := by
      rw [hslash]
      decide
    have hfirst : first.toList.head? = some '/' :=
      (Line.standsBare_first htokens hquote).2.trans hslash
    rw [hread, read_of_tokens (hrequest other) htokens, nameOf_of_slash lead hfirst,
      nameOf_of_slash other hfirst]

/-- Reading agrees with recognising, whatever the lead is.  Reading finds no command exactly in the
lines that are no requests, as a request is never cut into no tokens; it fails exactly on requests
with an open quote.  A command that it finds has a name with a slash, and the tokens behind the
first one for its arguments.  With a slash in front of a line, the lead is of no account. -/
theorem read_agrees (lead line : String) :
    (read lead line = .ok none ↔ isRequest lead line = false) ∧
      (isRequest lead line = true → Line.tokens? line ≠ some []) ∧
      (∀ cause, read lead line = .error cause ↔ cause = .unterminatedQuote ∧
        isRequest lead line = true ∧ Line.tokens? line = none) ∧
      (∀ request, read lead line = .ok (some request) →
        request.name.toList.head? = some '/' ∧
          ∃ first, Line.tokens? line = some (first :: request.args)) ∧
      ((trimStart line.toList).head? = some '/' → ∀ other, read other line = read lead line) := by
  refine ⟨read_eq_none_iff, ?reached, fun cause => read_eq_error_iff, ?command, ?slash⟩
  case reached =>
    intro hrequest
    exact Line.tokens?_ne_nil (trim_ne_nil_of_isRequest hrequest)
  case command =>
    intro request hread
    obtain ⟨-, first, htokens, hname⟩ := read_eq_some_iff.1 hread
    have hslash := hasSlash_nameOf lead first
    rw [← hname] at hslash
    exact ⟨beq_iff_eq.1 hslash, first, htokens⟩
  case slash =>
    intro hslash other
    exact read_congr_lead hslash other lead

/-- A lead with a quote is found in the line, but not in its first token. -/
example : read "\"a" " \"a b\" c" = .ok (some ⟨"/a b", ["c"]⟩) := by decide +kernel

end Request

end SlashChat
