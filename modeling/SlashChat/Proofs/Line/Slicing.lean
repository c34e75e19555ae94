import SlashChat.Line.Slicing
import SlashChat.Proofs.Line.Writing

/-!
# Slicing a line into its tokens

The cutting of a line by byte slices never slices badly and always comes to an end
(`reaches_is_safe`): whatever round it has come to, what is left starts with no white space, the
bytes it slices at are ends of characters, and the round leaves less than it found.  It ends with
the tokens of `Line.tokens?`, or at a quote left open in a line that has none.

A round that cuts a token off is described once, by `IsCut`; `round_cases` says that every round
finishes, meets an open quote or is one of these.  All else follows round by round.
-/

set_option autoImplicit false

namespace SlashChat

/-! ## Slices -/

namespace Text

/-- Where one text ends inside another a character starts or the whole ends. -/
theorem isValid_append (front back : String) :
    (⟨front.utf8ByteSize⟩ : String.Pos.Raw).IsValid (front ++ back) :=
  String.Pos.Raw.isValid_iff_exists_append.2 ⟨front, back, rfl, rfl⟩

/-- At the end of a character a text has a position. -/
theorem pos?_of_isValid {text : String} {byte : Nat}
    (hvalid : (⟨byte⟩ : String.Pos.Raw).IsValid text) :
    text.pos? ⟨byte⟩ = some (text.pos ⟨byte⟩ hvalid) := by
  unfold String.pos? String.Slice.pos?
  rw [dif_pos (String.Pos.Raw.isValidForSlice_eq_true_iff.2 hvalid.toSlice)]
  rfl

/-- A text sliced where its front ends gives the front. -/
theorem sliceTo?_append (front back : String) :
    sliceTo? (front ++ back) front.utf8ByteSize = some front := by
  rw [sliceTo?, pos?_of_isValid (isValid_append front back), Option.map_some]
  apply congrArg some
  apply String.copy_sliceTo_eq_iff_exists_splits.2
  exact ⟨back, ⟨rfl, rfl⟩⟩

/-- A text sliced from where its front ends gives the back. -/
theorem sliceFrom?_append (front back : String) :
    sliceFrom? (front ++ back) front.utf8ByteSize = some back := by
  rw [sliceFrom?, pos?_of_isValid (isValid_append front back), Option.map_some]
  apply congrArg some
  apply String.copy_sliceFrom_eq_iff_exists_splits.2
  exact ⟨front, ⟨rfl, rfl⟩⟩

/-- The first character with a property starts where the part without any ends. -/
theorem firstByte?_append {p : Char → Bool} {front : String} {c : Char} (hc : p c = true)
    (hfront : ∀ d ∈ front.toList, p d = false) (back : String) :
    firstByte? p (front ++ (String.singleton c ++ back)) = some front.utf8ByteSize := by
  have hvalid := isValid_append front (String.singleton c ++ back)
  have hfind : (front ++ (String.singleton c ++ back)).find? p = some (String.pos _ _ hvalid) := by
    apply String.find?_bool_eq_some_iff_splits.2
    exact ⟨front, c, back, ⟨rfl, rfl⟩, hc, hfront⟩
  rw [firstByte?, hfind]
  rfl

/-- A text without such a character has no first one. -/
theorem firstByte?_eq_none {p : Char → Bool} {text : String}
    (htext : ∀ c ∈ text.toList, p c = false) : firstByte? p text = none := by
  rw [firstByte?, Option.map_eq_none_iff]
  cases hfind : text.find? p with
  | none => rfl
  | some place =>
    obtain ⟨front, c, back, hsplits, hc, -⟩ := String.find?_bool_eq_some_iff_splits.1 hfind
    have hmem : c ∈ text.toList := by
      rw [hsplits.eq_append]
      simp
    rw [htext c hmem] at hc
    cases hc

/-- A text takes no more bytes when white space at its start goes. -/
theorem utf8ByteSize_trimStart_le (text : String) :
    (String.ofList (trimStart text.toList)).utf8ByteSize ≤ text.utf8ByteSize := by
  have hsplit : text = String.ofList (text.toList.takeWhile isSpace) ++
      String.ofList (trimStart text.toList) := by
    rw [← String.ofList_append, trimStart, List.takeWhile_append_dropWhile, String.ofList_toList]
  have hsize := congrArg String.utf8ByteSize hsplit
  rw [String.utf8ByteSize_append] at hsize
  omega

end Text

namespace Line

open Text (isSpace trimStart trim sliceTo? sliceFrom?)

/-! ## One round -/

/-- A round that slices `body` at `ends` and `resumes`, with the token in front of the one and what
is left behind the other. -/
structure IsCut (rest body : String) (ends resumes : Nat) (token left : String) : Prop where
  ends_valid : (⟨ends⟩ : String.Pos.Raw).IsValid body
  resumes_valid : (⟨resumes⟩ : String.Pos.Raw).IsValid body
  sliced_to : sliceTo? body ends = some token
  sliced_from : sliceFrom? body resumes = some left
  shorter : left.utf8ByteSize < rest.utf8ByteSize
  bare_ne : rest.toList.head? ≠ some '"' → token ≠ ""
  tokens_eq : tokens? rest = (tokens? left).map (token :: ·)

/-- A token that the machine puts in front is one that the cutting puts in front. -/
theorem tokens?_of_run_gap {rest token left : String}
    (hrun : Station.gap.run rest.toList =
      (Station.gap.run left.toList).map (token.toList :: ·)) :
    tokens? rest = (tokens? left).map (token :: ·) := by
  rw [tokens?_eq_run_gap, tokens?_eq_run_gap, hrun, Option.map_map, Option.map_map]
  congr 1
  funext more
  simp

/-- White space at the start of a line leaves its tokens alone. -/
theorem tokens?_trimStart (text : String) :
    tokens? (String.ofList (trimStart text.toList)) = tokens? text := by
  rw [tokens?_eq_run_gap, tokens?_eq_run_gap, String.toList_ofList, Station.run_gap_trimStart]

/-- A quoted token ends in front of its closing quote, which takes one byte. -/
theorem isCut_quoted {token left : String} (htoken : '"' ∉ token.toList) :
    let body := token ++ (String.singleton '"' ++ left)
    let rest := String.ofList ('"' :: body.toList)
    round rest = .cut body token.utf8ByteSize (token.utf8ByteSize + 1) ∧
      IsCut rest body token.utf8ByteSize (token.utf8ByteSize + 1) token left := by
  intro body rest
  have hclose : Text.firstByte? (· == '"') body = some token.utf8ByteSize := by
    apply Text.firstByte?_append
    · rfl
    · intro c hc
      apply beq_false_of_ne
      rintro rfl
      exact htoken hc
  have hbody : String.ofList body.toList = body := String.ofList_toList
  have hbehind : body = (token ++ String.singleton '"') ++ left := String.append_assoc.symm
  have hsize : (token ++ String.singleton '"').utf8ByteSize = token.utf8ByteSize + 1 := by
    rw [String.utf8ByteSize_append, String.utf8ByteSize_singleton]
    rfl
  constructor
  · simp only [round, rest, String.toList_ofList, hbody, hclose]
  · constructor
    case ends_valid => exact Text.isValid_append token _
    case resumes_valid =>
      rw [hbehind, ← hsize]
      exact Text.isValid_append _ left
    case sliced_to => exact Text.sliceTo?_append token _
    case sliced_from =>
      rw [hbehind, ← hsize]
      exact Text.sliceFrom?_append _ left
    case shorter =>
      have hrest : rest = String.singleton '"' ++ body := by
        rw [← String.toList_inj]
        simp [rest]
      rw [hrest, hbehind, String.utf8ByteSize_append, String.utf8ByteSize_append, hsize]
      omega
    case bare_ne => simp [rest]
    case tokens_eq =>
      apply tokens?_of_run_gap
      have hchars : rest.toList = '"' :: (token.toList ++ '"' :: left.toList) := by
        simp [rest, body]
      rw [hchars, Station.run_gap_quoted htoken]

/-- A bare token ends at the first white space or with the line. -/
theorem isCut_bare {token left : String} (hbare : StandsBare token.toList)
    (hleft : ∀ c, left.toList.head? = some c → isSpace c = true) :
    round (token ++ left) = .cut (token ++ left) token.utf8ByteSize token.utf8ByteSize ∧
      IsCut (token ++ left) (token ++ left) token.utf8ByteSize token.utf8ByteSize token left := by
  obtain ⟨c, cs, hchars, hquote⟩ := hbare.opens
  have hstop : (Text.firstByte? isSpace (token ++ left)).getD (token ++ left).utf8ByteSize =
      token.utf8ByteSize := by
    cases hhead : left.toList with
    | nil =>
      have hnil : left = "" := String.toList_eq_nil_iff.1 hhead
      rw [hnil, String.append_empty, Text.firstByte?_eq_none hbare.unbroken]
      rfl
    | cons d ds =>
      have hd : isSpace d = true := hleft d (by rw [hhead]; rfl)
      have hcons : left = String.singleton d ++ String.ofList ds := by
        rw [← String.toList_inj, hhead]
        simp
      rw [hcons, Text.firstByte?_append hd hbare.unbroken]
      rfl
  constructor
  · have hrest : (token ++ left).toList = c :: (cs ++ left.toList) := by simp [hchars]
    unfold round
    rw [hrest]
    split
    · next h => cases h
    · next h =>
      injection h with hc
      exact absurd hc hquote
    · rw [hstop]
  · have hne : token ≠ "" := by
      rintro rfl
      cases hchars
    constructor
    case ends_valid => exact Text.isValid_append token left
    case resumes_valid => exact Text.isValid_append token left
    case sliced_to => exact Text.sliceTo?_append token left
    case sliced_from => exact Text.sliceFrom?_append token left
    case shorter =>
      have hpos : 0 < token.utf8ByteSize := by
        apply Nat.pos_of_ne_zero
        intro hzero
        exact hne (String.utf8ByteSize_eq_zero_iff.1 hzero)
      rw [String.utf8ByteSize_append]
      omega
    case bare_ne => exact fun _ => hne
    case tokens_eq =>
      apply tokens?_of_run_gap
      rw [String.toList_append, Station.run_gap_bare_space hbare hleft]

/-- A quote that is not closed stops the cutting, and a line that ends in one has no tokens. -/
theorem round_of_open {cs : List Char} (hopen : '"' ∉ cs) :
    round (String.ofList ('"' :: cs)) = .openQuote ∧
      tokens? (String.ofList ('"' :: cs)) = none := by
  have hne : ∀ c ∈ cs, c ≠ '"' := by
    rintro c hc rfl
    exact hopen hc
  constructor
  · have hnone : Text.firstByte? (· == '"') (String.ofList cs) = none := by
      apply Text.firstByte?_eq_none
      intro c hc
      rw [String.toList_ofList] at hc
      exact beq_false_of_ne (hne c hc)
    simp only [round, String.toList_ofList, hnone]
  · have hstep : Station.gap.step '"' = (.quoted [], none) := by decide
    have hrest : cs.dropWhile (· != '"') = [] :=
      List.dropWhile_eq_nil_iff.2 fun c hc => bne_iff_ne.2 (hne c hc)
    rw [tokens?_eq_run_gap, String.toList_ofList, Station.run_cons_of_none hstep,
      Station.run_quoted, hrest]
    rfl

/-- What is left of a line is nothing, or opens a quote that is not closed, or starts with a token
that can be cut off. -/
theorem round_cases {rest : String} (hrest : ∀ c, rest.toList.head? = some c → isSpace c = false) :
    (rest = "" ∧ round rest = .finished) ∨ (round rest = .openQuote ∧ tokens? rest = none) ∨
      ∃ body ends resumes token left, round rest = .cut body ends resumes ∧
        IsCut rest body ends resumes token left := by
  cases hchars : rest.toList with
  | nil =>
    obtain rfl : rest = "" := String.toList_eq_nil_iff.1 hchars
    exact .inl ⟨rfl, rfl⟩
  | cons c cs =>
    have hspace : isSpace c = false := hrest c (by rw [hchars]; rfl)
    obtain rfl : rest = String.ofList (c :: cs) := by rw [← hchars, String.ofList_toList]
    right
    by_cases hquote : c = '"'
    · subst hquote
      by_cases hclosed : '"' ∈ cs
      · right
        obtain ⟨token, left, rfl, htoken⟩ := List.eq_append_cons_of_mem hclosed
        rw [← String.toList_ofList (l := token)] at htoken
        have hcut := @isCut_quoted (String.ofList token) (String.ofList left) htoken
        have hbody : String.ofList token ++ (String.singleton '"' ++ String.ofList left) =
            String.ofList (token ++ '"' :: left) := by
          rw [← String.toList_inj]
          simp
        simp only [hbody, String.toList_ofList] at hcut
        exact ⟨_, _, _, _, _, hcut⟩
      · exact .inl (round_of_open hclosed)
    · right
      let word := (c :: cs).takeWhile fun d => !isSpace d
      let more := (c :: cs).dropWhile fun d => !isSpace d
      have hword : word = c :: cs.takeWhile fun d => !isSpace d :=
        List.takeWhile_cons_of_pos (by simp [hspace])
      have hbare : StandsBare (String.ofList word).toList := by
        rw [String.toList_ofList]
        refine ⟨⟨c, _, hword, hquote⟩, ?_⟩
        intro d hd
        simpa using List.mem_takeWhile_imp hd
      have hmore : ∀ d, (String.ofList more).toList.head? = some d → isSpace d = true := by
        intro d hd
        rw [String.toList_ofList] at hd
        simpa [more, hd] using List.head?_dropWhile_not (fun d => !isSpace d) (c :: cs)
      have hcut := isCut_bare hbare hmore
      rw [← String.ofList_append, List.takeWhile_append_dropWhile] at hcut
      exact ⟨_, _, _, _, _, hcut⟩

/-- A round that cuts always finds a token and what is left behind it. -/
theorem exists_isCut {rest body : String} {ends resumes : Nat}
    (hrest : ∀ c, rest.toList.head? = some c → isSpace c = false)
    (hround : round rest = .cut body ends resumes) :
    ∃ token left, IsCut rest body ends resumes token left := by
  obtain ⟨-, hother⟩ | ⟨hother, -⟩ | ⟨_, _, _, token, left, hother, hcut⟩ := round_cases hrest
  · cases hother.symm.trans hround
  · cases hother.symm.trans hround
  · cases hother.symm.trans hround
    exact ⟨token, left, hcut⟩

/-! ## All rounds -/

/-- What the rounds up to here have kept: what is left starts with no white space, every round has
used up a byte, and the tokens of the line are those cut off and those of what is left. -/
structure Keeps (line : String) (tokens : List String) (rest : String) : Prop where
  head : ∀ c, rest.toList.head? = some c → isSpace c = false
  bytes : tokens.length + rest.utf8ByteSize ≤ line.utf8ByteSize
  tokens_eq : tokens? line = (tokens? rest).map (tokens ++ ·)

/-- The first round starts with the trimmed line and no tokens. -/
theorem keeps_trim (line : String) : Keeps line [] (String.ofList (trim line.toList)) := by
  constructor
  case head =>
    intro c hc
    rw [String.toList_ofList] at hc
    exact Text.trim_head hc
  case bytes =>
    obtain ⟨ending, hending⟩ := Text.trim_isPrefix line.toList
    have hle := Text.utf8ByteSize_trimStart_le line
    rw [← hending, String.ofList_append, String.utf8ByteSize_append] at hle
    simp only [List.length_nil]
    omega
  case tokens_eq =>
    have htrim : tokens? (String.ofList (trim line.toList)) = tokens? line := by
      rw [tokens?_eq_run_gap, tokens?_eq_run_gap, String.toList_ofList, Station.run_gap_trim]
    rw [htrim]
    exact Option.map_id'.symm

/-- A round that cuts keeps what the rounds before it have kept. -/
theorem Keeps.next {line rest body token left : String} {tokens : List String} {ends resumes : Nat}
    (hkeeps : Keeps line tokens rest) (hcut : IsCut rest body ends resumes token left) :
    Keeps line (tokens ++ [token]) (String.ofList (trimStart left.toList)) := by
  constructor
  case head =>
    intro c hc
    rw [String.toList_ofList] at hc
    exact Text.trimStart_head hc
  case bytes =>
    have hle := Text.utf8ByteSize_trimStart_le left
    have hlt := hcut.shorter
    have hbytes := hkeeps.bytes
    rw [List.length_append, List.length_singleton]
    omega
  case tokens_eq =>
    rw [hkeeps.tokens_eq, hcut.tokens_eq, tokens?_trimStart, Option.map_map]
    congr 1
    funext more
    simp

/-- Every round that a line comes to has kept what holds at its start. -/
theorem keeps_of_reaches {line rest : String} {tokens : List String}
    (hreaches : Reaches line tokens rest) : Keeps line tokens rest := by
  induction hreaches with
  | start => exact keeps_trim line
  | next _ hround hto hfrom ih =>
    obtain ⟨token, left, hcut⟩ := exists_isCut ih.head hround
    obtain rfl := Option.some.inj (hcut.sliced_to.symm.trans hto)
    obtain rfl := Option.some.inj (hcut.sliced_from.symm.trans hfrom)
    exact ih.next hcut

/-- From every round on the cutting comes to an end, as what is left gets shorter. -/
theorem exists_last_round {line rest : String} {tokens : List String}
    (hreaches : Reaches line tokens rest) :
    ∃ all last, Reaches line all last ∧
      ((round last = .finished ∧ tokens? line = some all) ∨
        (round last = .openQuote ∧ tokens? line = none)) := by
  induction hsize : rest.utf8ByteSize using Nat.strong_induction_on generalizing tokens rest with
  | _ size ih =>
    have hkeeps := keeps_of_reaches hreaches
    obtain ⟨rfl, hround⟩ | ⟨hround, hnone⟩ | ⟨body, ends, resumes, token, left, hround, hcut⟩ :=
      round_cases hkeeps.head
    · refine ⟨tokens, "", hreaches, .inl ⟨hround, ?_⟩⟩
      have hnothing : tokens? "" = some [] := by decide +kernel
      rw [hkeeps.tokens_eq, hnothing]
      simp
    · refine ⟨tokens, rest, hreaches, .inr ⟨hround, ?_⟩⟩
      rw [hkeeps.tokens_eq, hnone]
      rfl
    · have hnext := hreaches.next hround hcut.sliced_to hcut.sliced_from
      have hlt := hcut.shorter
      have hle := Text.utf8ByteSize_trimStart_le left
      exact ih _ (by omega) hnext rfl

/-- At the start of every round what is left of a line is nothing or starts with no white space,
and every round so far has used up a byte.  A round that cuts slices at ends of characters, takes a
token that is not empty unless it is quoted, and leaves a shorter rest.  So the cutting ends: with
the tokens of the line, or at a quote left open if it has none. -/
theorem reaches_is_safe (line : String) :
    (∀ tokens rest, Reaches line tokens rest →
      (∀ c, rest.toList.head? = some c → isSpace c = false) ∧
        tokens.length + rest.utf8ByteSize ≤ line.utf8ByteSize ∧
        ∀ body ends resumes, round rest = .cut body ends resumes →
          ((⟨ends⟩ : String.Pos.Raw).IsValid body ∧ (⟨resumes⟩ : String.Pos.Raw).IsValid body) ∧
            (ends ≤ body.utf8ByteSize ∧ resumes ≤ body.utf8ByteSize) ∧
            ∃ token left, sliceTo? body ends = some token ∧ sliceFrom? body resumes = some left ∧
              (rest.toList.head? ≠ some '"' → token ≠ "") ∧
              Reaches line (tokens ++ [token]) (String.ofList (trimStart left.toList)) ∧
              (String.ofList (trimStart left.toList)).utf8ByteSize < rest.utf8ByteSize) ∧
      ∃ tokens rest, Reaches line tokens rest ∧
        ((round rest = .finished ∧ tokens? line = some tokens) ∨
          (round rest = .openQuote ∧ tokens? line = none)) := by
  refine ⟨?_, exists_last_round .start⟩
  intro tokens rest hreaches
  have hkeeps := keeps_of_reaches hreaches
  refine ⟨hkeeps.head, hkeeps.bytes, ?_⟩
  intro body ends resumes hround
  obtain ⟨token, left, hcut⟩ := exists_isCut hkeeps.head hround
  have hnext := hreaches.next hround hcut.sliced_to hcut.sliced_from
  have hlt := hcut.shorter
  have hle := Text.utf8ByteSize_trimStart_le left
  exact ⟨⟨hcut.ends_valid, hcut.resumes_valid⟩,
    ⟨hcut.ends_valid.le_utf8ByteSize, hcut.resumes_valid.le_utf8ByteSize⟩, token, left,
    hcut.sliced_to, hcut.sliced_from, hcut.bare_ne, hnext, by omega⟩

end Line

end SlashChat
