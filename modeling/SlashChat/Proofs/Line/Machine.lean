import SlashChat.Line.Machine
import SlashChat.Line.Token
import SlashChat.Proofs.Text.Space

/-!
# Cutting a line in one pass

`Line.tokens?` searches for the end of a token, cuts the token off and trims what is left;
`Line.machineTokens?` looks at every character once.  They cut every line alike
(`tokens_eq_machineTokens`).

The search and the machine meet whenever the machine stands in a gap: what is left of the search is
then what is left of the machine's line, white space aside (`split_eq_run_gap`).  A bare token and a
quoted one each take the machine from one gap to the next in one jump (`run_bare`, `run_quoted`),
and white space around the line changes nothing (`run_gap_trim`).
-/

set_option autoImplicit false

namespace SlashChat.Line

open Text (isSpace trimStart trimEnd trim)

namespace Station

/-- The station behind some characters. -/
def after (station : Station) (text : List Char) : Station :=
  text.foldl (fun station c => (station.step c).1) station

/-- At the end of a line the station says what ends with it. -/
@[simp]
theorem run_nil (station : Station) : station.run [] = station.finish := rfl

/-- A character adds the token that ends at it in front of those of the rest. -/
theorem run_cons (station : Station) (c : Char) (rest : List Char) :
    station.run (c :: rest) =
      ((station.step c).1.run rest).map ((station.step c).2.toList ++ ·) := rfl

/-- A character at which no token ends only moves the machine. -/
theorem run_cons_of_none {station next : Station} {c : Char} (hstep : station.step c = (next, none))
    (rest : List Char) : station.run (c :: rest) = next.run rest := by
  rw [run_cons, hstep]
  exact Option.map_id'

/-- A token that ends at a character comes in front of those of the rest. -/
theorem run_cons_of_some {station next : Station} {c : Char} {token : List Char}
    (hstep : station.step c = (next, some token)) (rest : List Char) :
    station.run (c :: rest) = (next.run rest).map (token :: ·) := by
  rw [run_cons, hstep]
  rfl

/-- A line has no tokens exactly when the machine ends in a quoted one. -/
theorem run_eq_none_iff (station : Station) (text : List Char) :
    station.run text = none ↔ ∃ token, station.after text = .quoted token := by
  induction text generalizing station with
  | nil => cases station <;> simp [after, finish]
  | cons c rest ih => rw [run_cons, Option.map_eq_none_iff, ih]; rfl

/-! ## White space around a text -/

/-- White space in a gap leads nowhere. -/
theorem run_gap_cons_of_isSpace {c : Char} (hc : isSpace c = true) (rest : List Char) :
    run .gap (c :: rest) = run .gap rest := by
  exact run_cons_of_none (by simp [step, hc]) rest

/-- White space at the start of a line makes no difference. -/
theorem run_gap_trimStart (text : List Char) : run .gap (trimStart text) = run .gap text := by
  induction text with
  | nil => rfl
  | cons c rest ih =>
    unfold trimStart at ih ⊢
    by_cases hc : isSpace c = true
    · rw [List.dropWhile_cons_of_pos hc, ih, run_gap_cons_of_isSpace hc]
    · rw [List.dropWhile_cons_of_neg hc]

/-- White space at the end of a line ends a token just as the end of the line does, and a quoted
token is left open by both. -/
theorem run_space (station : Station) {c : Char} (hc : isSpace c = true) :
    station.run [c] = station.finish := by
  have hq : c ≠ '"' := Text.ne_quote_of_isSpace hc
  cases station <;> simp [run_cons, step, finish, hc, hq]

/-- White space at the end of a line makes no difference, wherever the machine is. -/
theorem run_trimEnd (station : Station) (text : List Char) :
    station.run (trimEnd text) = station.run text := by
  induction text generalizing station with
  | nil => rfl
  | cons c rest ih =>
    simp only [trimEnd]
    split
    · next h =>
      obtain ⟨hkept, hc⟩ := Bool.and_eq_true_iff.1 h
      have hrest : trimEnd rest = [] := List.isEmpty_iff.1 hkept
      rw [run_cons, ← ih, hrest]
      exact (station.run_space hc).symm
    · rw [run_cons, run_cons, ih]

/-- White space around a line makes no difference. -/
theorem run_gap_trim (line : List Char) : run .gap (trim line) = run .gap line := by
  unfold trim
  rw [run_trimEnd, run_gap_trimStart]

/-! ## One token -/

/-- A bare token runs to the next white space, and the machine is in a gap there. -/
theorem run_bare (token text : List Char) :
    run (.bare token) text =
      (run .gap (text.dropWhile fun c => !isSpace c)).map
        ((token ++ text.takeWhile fun c => !isSpace c) :: ·) := by
  induction text generalizing token with
  | nil => simp [finish]
  | cons c rest ih =>
    by_cases hc : isSpace c = true
    · have hstep : step (.bare token) c = (.gap, some token) := by simp [step, hc]
      rw [List.dropWhile_cons_of_neg (by simp [hc]), List.takeWhile_cons_of_neg (by simp [hc]),
        run_gap_cons_of_isSpace hc, run_cons_of_some hstep, List.append_nil]
    · have hstep : step (.bare token) c = (.bare (token ++ [c]), none) := by simp [step, hc]
      rw [List.dropWhile_cons_of_pos (by simp [hc]), List.takeWhile_cons_of_pos (by simp [hc]),
        run_cons_of_none hstep, ih, List.append_assoc, List.singleton_append]

/-- A quoted token runs to the next quote, and the machine is in a gap behind it; without one there
are no tokens. -/
theorem run_quoted (token text : List Char) :
    run (.quoted token) text =
      match text.dropWhile (· != '"') with
      | [] => none
      | _ :: rest => (run .gap rest).map ((token ++ text.takeWhile (· != '"')) :: ·) := by
  induction text generalizing token with
  | nil => rfl
  | cons c rest ih =>
    by_cases hc : c = '"'
    · have hstep : step (.quoted token) c = (.gap, some token) := by simp [step, hc]
      rw [List.dropWhile_cons_of_neg (by simp [hc]), List.takeWhile_cons_of_neg (by simp [hc]),
        run_cons_of_some hstep, List.append_nil]
    · have hstep : step (.quoted token) c = (.quoted (token ++ [c]), none) := by simp [step, hc]
      rw [List.dropWhile_cons_of_pos (by simp [hc]), List.takeWhile_cons_of_pos (by simp [hc]),
        run_cons_of_none hstep, ih, List.append_assoc, List.singleton_append]

end Station

/-! ## The two cuttings -/

/-- A text that starts with no white space is cut as the machine cuts it from a gap. -/
theorem split_eq_run_gap {rest : List Char}
    (hrest : ∀ c, rest.head? = some c → isSpace c = false) :
    split rest = Station.gap.run rest := by
  fun_induction split rest with
  | case1 => rfl
  | case2 cs hopen =>
    have hstep : Station.gap.step '"' = (.quoted [], none) := by decide
    rw [Station.run_cons_of_none hstep, Station.run_quoted, hopen]
  | case3 cs q after hclose ih =>
    have hstep : Station.gap.step '"' = (.quoted [], none) := by decide
    rw [ih fun _ => Text.trimStart_head, Station.run_gap_trimStart,
      Station.run_cons_of_none hstep, Station.run_quoted, hclose]
    rfl
  | case4 c cs hquote ih =>
    have hspace : isSpace c = false := hrest c rfl
    have hstep : Station.gap.step c = (.bare [c], none) := by simp [Station.step, hspace, hquote]
    rw [ih fun _ => Text.trimStart_head, Station.run_gap_trimStart,
      Station.run_cons_of_none hstep, Station.run_bare,
      List.dropWhile_cons_of_pos (by simp [hspace]), List.takeWhile_cons_of_pos (by simp [hspace])]
    rfl

/-- The tokens of a line are those of the machine that starts in a gap. -/
theorem tokens?_eq_run_gap (line : String) :
    tokens? line = (Station.gap.run line.toList).map (·.map String.ofList) := by
  unfold tokens? charTokens?
  rw [split_eq_run_gap fun _ => Text.trim_head, Station.run_gap_trim]

/-- Every line is cut as the machine cuts it, and has no tokens exactly when the machine ends in a
quoted one. -/
theorem tokens_eq_machineTokens (line : String) :
    tokens? line = (machineTokens? line.toList).map (·.map String.ofList) ∧
      (tokens? line = none ↔ ∃ token, Station.gap.after line.toList = .quoted token) := by
  have hchars : charTokens? line.toList = machineTokens? line.toList := by
    unfold charTokens? machineTokens?
    rw [split_eq_run_gap fun _ => Text.trim_head, Station.run_gap_trim]
  refine ⟨by rw [tokens?, hchars], ?_⟩
  rw [tokens?, hchars, Option.map_eq_none_iff]
  exact Station.run_eq_none_iff .gap line.toList

example : machineTokens? "a\"b \"c d\"e".toList = some [['a', '"', 'b'], "c d".toList, ['e']] := by
  decide

end SlashChat.Line
