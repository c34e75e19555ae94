import SlashChat.Line.Writing
import SlashChat.Proofs.Line.Machine

/-!
# The tokens that lines can hold

Written tokens are cut back into themselves, and no line is cut into any other tokens
(`tokens?_eq_some_iff_isWritable`).

For the first half the machine is followed over a written token: it goes from the gap in front of
the token to the gap behind it and puts out the token (`run_gap_writeToken`).  For the second half
`Station.Sound` says what the token in progress looks like at each station.  One character keeps it
and ends only writable tokens (`step_sound`), so a whole line does (`isWritable_of_run`).
-/

set_option autoImplicit false

namespace SlashChat.Line

open Text (isSpace)

/-- A token that can stand in a line without quotes around it. -/
structure StandsBare (token : List Char) : Prop where
  opens : ∃ c rest, token = c :: rest ∧ c ≠ '"'
  unbroken : ∀ c ∈ token, isSpace c = false

/-- A token can be written exactly if it holds no quote or can stand bare. -/
theorem isWritable_iff (token : List Char) :
    isWritable token = true ↔ '"' ∉ token ∨ StandsBare token := by
  have hbare : (token.head?.any (· != '"') && token.all (!isSpace ·)) = true ↔
      StandsBare token := by
    constructor
    · intro h
      obtain ⟨hhead, hall⟩ := Bool.and_eq_true_iff.1 h
      refine ⟨?_, by simpa using hall⟩
      cases token with
      | nil => simp at hhead
      | cons c rest => exact ⟨c, rest, rfl, by simpa using hhead⟩
    · rintro ⟨⟨c, rest, rfl, hc⟩, hunbroken⟩
      have hall : (c :: rest).all (!isSpace ·) = true := by simpa using hunbroken
      simp [hc, hall]
  rw [isWritable, Bool.or_eq_true, hbare]
  simp

/-- A token that stands bare still does with one more character that is no white space. -/
theorem StandsBare.append {token : List Char} (htoken : StandsBare token) {c : Char}
    (hc : isSpace c = false) : StandsBare (token ++ [c]) := by
  obtain ⟨⟨d, rest, rfl, hd⟩, hunbroken⟩ := htoken
  refine ⟨⟨d, rest ++ [c], rfl, hd⟩, ?_⟩
  intro e he
  rcases List.mem_append.1 he with he | he
  · exact hunbroken e he
  · rw [List.mem_singleton.1 he]
    exact hc

namespace Station

/-! ## What a line is cut into -/

/-- What is known of the part of a token that has been read. -/
def Sound : Station → Prop
  | .gap => True
  | .bare token => StandsBare token
  | .quoted token => '"' ∉ token

/-- A character keeps a station sound, and a token that ends at it is writable. -/
theorem step_sound {station : Station} (hsound : station.Sound) (c : Char) :
    (station.step c).1.Sound ∧ ∀ token ∈ (station.step c).2, isWritable token = true := by
  cases station with
  | gap =>
    by_cases hspace : isSpace c = true
    · simp [step, hspace, Sound]
    · have hspace : isSpace c = false := by simpa using hspace
      by_cases hquote : c = '"'
      · have hstep : step .gap c = (.quoted [], none) := by
          subst hquote
          decide
        rw [hstep]
        exact ⟨List.not_mem_nil, by simp⟩
      · have hstep : step .gap c = (.bare [c], none) := by simp [step, hspace, hquote]
        rw [hstep]
        exact ⟨⟨⟨c, [], rfl, hquote⟩, by simpa using hspace⟩, by simp⟩
  | bare token =>
    by_cases hspace : isSpace c = true
    · have hstep : step (.bare token) c = (.gap, some token) := by simp [step, hspace]
      rw [hstep]
      refine ⟨trivial, ?_⟩
      rintro _ ⟨⟩
      exact (isWritable_iff token).2 (.inr hsound)
    · have hspace : isSpace c = false := by simpa using hspace
      have hstep : step (.bare token) c = (.bare (token ++ [c]), none) := by simp [step, hspace]
      rw [hstep]
      exact ⟨StandsBare.append hsound hspace, by simp⟩
  | quoted token =>
    by_cases hquote : c = '"'
    · have hstep : step (.quoted token) c = (.gap, some token) := by simp [step, hquote]
      rw [hstep]
      refine ⟨trivial, ?_⟩
      rintro _ ⟨⟩
      exact (isWritable_iff token).2 (.inl hsound)
    · have hstep : step (.quoted token) c = (.quoted (token ++ [c]), none) := by
        simp [step, hquote]
      have hnot : '"' ∉ token ++ [c] := by
        simp only [List.mem_append, List.mem_singleton, not_or]
        exact ⟨hsound, Ne.symm hquote⟩
      rw [hstep]
      exact ⟨hnot, by simp⟩

/-- A line is cut into writable tokens only. -/
theorem isWritable_of_run {station : Station} (hsound : station.Sound) {text : List Char}
    {tokens : List (List Char)} (hrun : station.run text = some tokens) :
    ∀ token ∈ tokens, isWritable token = true := by
  induction text generalizing station tokens with
  | nil =>
    cases station with
    | gap =>
      obtain rfl := Option.some.inj hrun
      simp
    | bare last =>
      obtain rfl := Option.some.inj hrun
      intro token hmem
      rw [List.mem_singleton.1 hmem]
      exact (isWritable_iff last).2 (.inr hsound)
    | quoted last => cases hrun
  | cons c rest ih =>
    obtain ⟨hnext, hended⟩ := step_sound hsound c
    rw [run_cons] at hrun
    obtain ⟨later, hlater, rfl⟩ := Option.map_eq_some_iff.1 hrun
    intro token hmem
    rcases List.mem_append.1 hmem with hmem | hmem
    · exact hended token (Option.mem_toList.1 hmem)
    · exact ih hnext hlater token hmem

/-! ## What a written line is cut into -/

/-- A token between quotes is read from one gap to the next, whatever follows it. -/
theorem run_gap_quoted {token : List Char} (hquote : '"' ∉ token) (rest : List Char) :
    run .gap ('"' :: (token ++ '"' :: rest)) = (run .gap rest).map (token :: ·) := by
  have hstep : step .gap '"' = (.quoted [], none) := by decide
  have hkept : ∀ c ∈ token, (c != '"') = true := by
    intro c hc
    simp only [bne_iff_ne, ne_eq]
    rintro rfl
    exact hquote hc
  rw [run_cons_of_none hstep, run_quoted, List.dropWhile_append_of_pos hkept,
    List.takeWhile_append_of_pos hkept, List.dropWhile_cons_of_neg (by simp),
    List.takeWhile_cons_of_neg (by simp), List.append_nil, List.nil_append]

/-- A bare token is read from a gap up to the white space behind it. -/
theorem run_gap_bare {token : List Char} (hbare : StandsBare token) (rest : List Char) :
    run .gap (token ++ rest) =
      (run .gap (rest.dropWhile fun c => !isSpace c)).map
        ((token ++ rest.takeWhile fun c => !isSpace c) :: ·) := by
  obtain ⟨⟨c, cs, rfl, hquote⟩, hunbroken⟩ := hbare
  have hc : isSpace c = false := hunbroken c List.mem_cons_self
  have hcs : ∀ d ∈ cs, (!isSpace d) = true := by
    intro d hd
    simp [hunbroken d (List.mem_cons_of_mem c hd)]
  have hstep : step .gap c = (.bare [c], none) := by simp [step, hc, hquote]
  rw [List.cons_append, run_cons_of_none hstep, run_bare, List.dropWhile_append_of_pos hcs,
    List.takeWhile_append_of_pos hcs]
  rfl

/-- White space behind a bare token ends it. -/
theorem run_gap_bare_space {token : List Char} (hbare : StandsBare token) {rest : List Char}
    (hrest : ∀ c, rest.head? = some c → isSpace c = true) :
    run .gap (token ++ rest) = (run .gap rest).map (token :: ·) := by
  have hstop : (rest.dropWhile fun c => !isSpace c) = rest ∧
      (rest.takeWhile fun c => !isSpace c) = [] := by
    cases rest with
    | nil => exact ⟨rfl, rfl⟩
    | cons c rest =>
      have hc := hrest c rfl
      exact ⟨List.dropWhile_cons_of_neg (by simp [hc]), List.takeWhile_cons_of_neg (by simp [hc])⟩
  rw [run_gap_bare hbare, hstop.1, hstop.2, List.append_nil]

/-- A written token is read back, if white space or nothing follows it. -/
theorem run_gap_writeToken {token : List Char} (hwritable : isWritable token = true)
    (rest : List Char) (hrest : ∀ c, rest.head? = some c → isSpace c = true) :
    run .gap (writeToken token ++ rest) = (run .gap rest).map (token :: ·) := by
  unfold writeToken
  by_cases hquote : '"' ∈ token
  · have hbare : StandsBare token := by
      rcases (isWritable_iff token).1 hwritable with hnot | hbare
      · exact absurd hquote hnot
      · exact hbare
    rw [if_pos (by simpa using hquote), run_gap_bare_space hbare hrest]
  · rw [if_neg (by simpa using hquote), List.cons_append, List.append_assoc,
      List.singleton_append, run_gap_quoted hquote]

/-- A line written from tokens is read back as these tokens. -/
theorem run_gap_write {tokens : List (List Char)}
    (hwritable : ∀ token ∈ tokens, isWritable token = true) :
    run .gap (write tokens) = some tokens := by
  fun_induction write tokens with
  | case1 => rfl
  | case2 token =>
    have htoken := hwritable token (List.mem_singleton_self token)
    have hrun := run_gap_writeToken htoken [] (by simp)
    rw [List.append_nil] at hrun
    rw [hrun]
    rfl
  | case3 token rest _ ih =>
    have htoken := hwritable token List.mem_cons_self
    have hrest : ∀ later ∈ rest, isWritable later = true := fun later hmem =>
      hwritable later (List.mem_cons_of_mem token hmem)
    have hrun := run_gap_writeToken htoken (' ' :: write rest) (by
      rintro c ⟨⟩
      exact Text.isSpace_blank)
    rw [hrun, run_gap_cons_of_isSpace Text.isSpace_blank, ih hrest]
    rfl

end Station

/-- A bare token and written tokens behind it are cut into these tokens. -/
theorem tokens?_name_write {name : String} (hname : StandsBare name.toList) {args : List String}
    (hargs : ∀ arg ∈ args, isWritable arg.toList = true) :
    tokens? (name ++ " " ++ String.ofList (write (args.map String.toList))) =
      some (name :: args) := by
  have hchars : ∀ token ∈ args.map String.toList, isWritable token = true := by
    intro token hmem
    obtain ⟨arg, harg, rfl⟩ := List.mem_map.1 hmem
    exact hargs arg harg
  have hline : (name ++ " " ++ String.ofList (write (args.map String.toList))).toList =
      name.toList ++ ' ' :: write (args.map String.toList) := by
    simp
  have hrun : Station.gap.run (name.toList ++ ' ' :: write (args.map String.toList)) =
      some (name.toList :: args.map String.toList) := by
    rw [Station.run_gap_bare_space hname (by simp [Text.isSpace_blank]),
      Station.run_gap_cons_of_isSpace Text.isSpace_blank, Station.run_gap_write hchars]
    rfl
  rw [tokens?_eq_run_gap, hline, hrun]
  simp

/-- Tokens come from some line exactly when all of them are writable, and then they come from the
line that they are written as. -/
theorem tokens?_eq_some_iff_isWritable (tokens : List String) :
    ((∃ line, tokens? line = some tokens) ↔
        ∀ token ∈ tokens, isWritable token.toList = true) ∧
      (tokens? (String.ofList (write (tokens.map String.toList))) = some tokens ↔
        ∀ token ∈ tokens, isWritable token.toList = true) := by
  have himage : (∃ line, tokens? line = some tokens) →
      ∀ token ∈ tokens, isWritable token.toList = true := by
    rintro ⟨line, hline⟩ token hmem
    rw [tokens?_eq_run_gap] at hline
    obtain ⟨chars, hchars, rfl⟩ := Option.map_eq_some_iff.1 hline
    obtain ⟨token, htoken, rfl⟩ := List.mem_map.1 hmem
    rw [String.toList_ofList]
    have hgap : Station.gap.Sound := trivial
    exact Station.isWritable_of_run hgap hchars token htoken
  have hwritten : (∀ token ∈ tokens, isWritable token.toList = true) →
      tokens? (String.ofList (write (tokens.map String.toList))) = some tokens := by
    intro hwritable
    have hchars : ∀ token ∈ tokens.map String.toList, isWritable token = true := by
      intro token hmem
      obtain ⟨text, htext, rfl⟩ := List.mem_map.1 hmem
      exact hwritable text htext
    rw [tokens?_eq_run_gap, String.toList_ofList, Station.run_gap_write hchars]
    simp
  exact ⟨⟨himage, fun hwritable => ⟨_, hwritten hwritable⟩⟩,
    ⟨fun hline => himage ⟨_, hline⟩, hwritten⟩⟩

example : write ["".toList, "a b".toList, "c\"d".toList] = "\"\" \"a b\" c\"d".toList := by decide

end SlashChat.Line
