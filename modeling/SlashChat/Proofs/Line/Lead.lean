import SlashChat.Proofs.Line.Writing
import SlashChat.Proofs.Switchboard.Response

/-!
# Leads beside the slash

A lead without white space and quotes joins the word behind it: the first token of a line that
starts with the lead is the lead and that word, and the other tokens do not depend on the lead
(`tokens?_append`).  So a line that uses the lead and one that uses the slash differ in their first
token only, and `read_append` reduces them to the names that their first tokens stand for.

A lead that starts with no slash and is not typed twice gives the slash's name (`nameOf_append`), so
its line is read as the slash line (`read_append_of_not_isPrefix`).  A lead that itself starts with a
slash is never rewritten: what it is typed in front of is read as the slash line that it is
(`read_append_of_slash`).
-/

set_option autoImplicit false

namespace SlashChat

open Text (isSpace)

/-! ## Tokens of a line with a lead -/

namespace Line

/-- The part of a text in front of its first white space. -/
def word (text : String) : String := String.ofList (text.toList.takeWhile fun c => !isSpace c)

/-- A text from its first white space on. -/
def behindWord (text : String) : String :=
  String.ofList (text.toList.dropWhile fun c => !isSpace c)

/-- The first token of a line that starts with a lead is the lead and the word behind it. -/
theorem tokens?_append {lead : String} (hlead : StandsBare lead.toList) (rest : String) :
    tokens? (lead ++ rest) = (tokens? (behindWord rest)).map ((lead ++ word rest) :: ·) := by
  have hfirst : String.ofList (lead.toList ++ rest.toList.takeWhile fun c => !isSpace c) =
      lead ++ word rest := by
    simp [word, String.ofList_append]
  rw [tokens?_eq_run_gap, tokens?_eq_run_gap, behindWord, String.toList_append,
    String.toList_ofList, Station.run_gap_bare hlead, Option.map_map, Option.map_map, ← hfirst]
  rfl

/-- A text with neither white space nor a quote stands bare, unless it is empty. -/
theorem standsBare_of_ne_empty {text : String} (hne : text ≠ "")
    (hplain : ∀ c ∈ text.toList, isSpace c = false ∧ c ≠ '"') : StandsBare text.toList := by
  have hne' : text.toList ≠ [] := by simpa using hne
  obtain ⟨c, rest, hcons⟩ := List.exists_cons_of_ne_nil hne'
  refine ⟨⟨c, rest, hcons, ?_⟩, fun d hd => (hplain d hd).1⟩
  exact (hplain c (by simp [hcons])).2

/-- A text without white space is a word with nothing behind it. -/
theorem word_eq_self {text : String} (hunbroken : ∀ c ∈ text.toList, isSpace c = false) :
    word text = text ∧ behindWord text = "" := by
  have hkept : ∀ c ∈ text.toList, (!isSpace c) = true := by
    intro c hc
    simp [hunbroken c hc]
  have htake : (text.toList.takeWhile fun c => !isSpace c) = text.toList :=
    List.takeWhile_eq_self_iff.2 hkept
  have hdrop : (text.toList.dropWhile fun c => !isSpace c) = [] :=
    List.dropWhile_eq_nil_iff.2 hkept
  exact ⟨by rw [word, htake, String.ofList_toList], by rw [behindWord, hdrop]⟩

end Line

namespace Request

/-! ## Names of a line with a lead -/

/-- A text that does not start with the lead has no copy to lose. -/
theorem stripCopies_of_not_isPrefix {lead text : List Char} (hnot : ¬ lead <+: text) :
    stripCopies lead text = text := by
  rw [stripCopies, dif_neg]
  rintro ⟨-, hstarts⟩
  exact hnot (List.isPrefixOf_iff_prefix.1 hstarts)

/-- A copy of the lead at the front goes. -/
theorem stripCopies_append {lead : List Char} (hne : lead ≠ []) (text : List Char) :
    stripCopies lead (lead ++ text) = stripCopies lead text := by
  rw [stripCopies, dif_pos ⟨hne, List.isPrefixOf_iff_prefix.2 (List.prefix_append lead text)⟩,
    List.drop_left]

/-- A first token that starts with a slash is kept as the name. -/
theorem nameOf_of_slash (lead : String) {first : String} (hslash : first.toList.head? = some '/') :
    nameOf lead first = first := if_pos hslash

/-- A lead in front of a text gives the text behind a slash, if the lead is no slash and does not
come twice. -/
theorem nameOf_append {lead text : String} (hne : lead ≠ "")
    (hslash : lead.toList.head? ≠ some '/') (hnot : ¬ lead.toList <+: text.toList) :
    nameOf lead (lead ++ text) = "/" ++ text := by
  have hne' : lead.toList ≠ [] := by simpa using hne
  have hhead : (lead ++ text).toList.head? ≠ some '/' := by
    obtain ⟨c, cs, hcons⟩ := List.exists_cons_of_ne_nil hne'
    rw [hcons] at hslash
    simpa [hcons] using hslash
  rw [nameOf, if_neg hhead, String.toList_append, stripCopies_append hne',
    stripCopies_of_not_isPrefix hnot, ← String.toList_inj]
  simp

/-! ## Reading a line with a lead -/

/-- A line that starts with no white space is a request if it starts with the slash or the lead. -/
theorem isRequest_of_head (lead : String) {text : String}
    (hhead : ∀ c, text.toList.head? = some c → isSpace c = false) :
    isRequest lead text = (text.toList.head? == some '/' ||
      (lead != "" && lead.toList.isPrefixOf text.toList)) := by
  rw [isRequest, Text.trimStart_eq_self hhead]

/-- A line that starts with the lead is a request. -/
theorem isRequest_append {lead : String} (hlead : Line.StandsBare lead.toList) (rest : String) :
    isRequest lead (lead ++ rest) = true := by
  obtain ⟨c, cs, hcons, -⟩ := hlead.opens
  have hhead : ∀ d, (lead ++ rest).toList.head? = some d → isSpace d = false := by
    intro d hd
    rw [String.toList_append, hcons] at hd
    obtain rfl := Option.some.inj hd
    exact hlead.unbroken c (by simp [hcons])
  have hne : lead ≠ "" := by
    rintro rfl
    simp at hcons
  have hstarts : lead.toList.isPrefixOf (lead ++ rest).toList = true := by
    rw [String.toList_append]
    exact List.isPrefixOf_iff_prefix.2 (List.prefix_append _ _)
  rw [isRequest_of_head lead hhead, hstarts]
  simp [hne]

/-- A line that starts with the slash is a request, with every lead. -/
theorem isRequest_of_slash (lead : String) {text : String} (hslash : text.toList.head? = some '/') :
    isRequest lead text = true := by
  apply isRequest_of_head_slash
  rw [Text.trimStart_eq_self, hslash]
  intro d hd
  rw [hslash] at hd
  obtain rfl := Option.some.inj hd
  exact Text.isSpace_slash

/-- A line that starts with a bare text is read by the word that the text begins and by the tokens
behind that word. -/
theorem read_append {asked lead : String} (rest : String) (hlead : Line.StandsBare lead.toList)
    (hrequest : isRequest asked (lead ++ rest) = true) :
    read asked (lead ++ rest) =
      match Line.tokens? (Line.behindWord rest) with
      | none => .error .unterminatedQuote
      | some args => .ok (some ⟨nameOf asked (lead ++ Line.word rest), args⟩) := by
  have htokens := Line.tokens?_append hlead rest
  cases hargs : Line.tokens? (Line.behindWord rest) with
  | none =>
    rw [hargs] at htokens
    exact read_of_openQuote hrequest htokens
  | some args =>
    rw [hargs] at htokens
    exact read_of_tokens hrequest htokens

/-- A lead that starts with a slash is read as any other slash line. -/
theorem read_append_of_slash {lead : String} (hlead : Line.StandsBare lead.toList)
    (hhead : lead.toList.head? = some '/') (rest : String) :
    read lead (lead ++ rest) = read defaultLead (lead ++ rest) := by
  have hhead' : ∀ text : String, (lead ++ text).toList.head? = some '/' := by
    intro text
    rw [String.toList_append, List.head?_append, hhead]
    rfl
  rw [read_append rest hlead (isRequest_append hlead rest),
    read_append rest hlead (isRequest_of_slash defaultLead (hhead' rest))]
  simp only [nameOf_of_slash _ (hhead' _)]

/-- A lead that starts with no slash and does not come twice is another spelling of the slash. -/
theorem read_append_of_not_isPrefix {lead : String} (hlead : Line.StandsBare lead.toList)
    (hne : lead ≠ "") (hhead : lead.toList.head? ≠ some '/') {rest : String}
    (hnot : ¬ lead.toList <+: rest.toList) :
    read lead (lead ++ rest) = read defaultLead ("/" ++ rest) := by
  have hslash : Line.StandsBare "/".toList :=
    Line.standsBare_of_ne_empty (by decide) (by simp [isSpace])
  -- A lead is unbroken, so it starts the rest as soon as it starts the word.
  have hword : ¬ lead.toList <+: (Line.word rest).toList := by
    intro hstarts
    rw [Line.word, String.toList_ofList] at hstarts
    exact hnot (hstarts.trans (List.takeWhile_prefix _))
  have hname : nameOf defaultLead ("/" ++ Line.word rest) = "/" ++ Line.word rest :=
    nameOf_of_slash _ (by simp)
  rw [read_append rest hlead (isRequest_append hlead rest),
    read_append rest hslash (isRequest_of_slash defaultLead (by simp))]
  simp only [nameOf_append hne hhead hword, hname]

/-- Without white space behind it such a lead makes a command without arguments. -/
theorem read_append_of_unbroken {lead : String} (hlead : Line.StandsBare lead.toList)
    (hne : lead ≠ "") (hhead : lead.toList.head? ≠ some '/') {rest : String}
    (hnot : ¬ lead.toList <+: rest.toList) (hunbroken : ∀ c ∈ rest.toList, isSpace c = false) :
    read lead (lead ++ rest) = .ok (some ⟨"/" ++ rest, []⟩) := by
  obtain ⟨hword, hbehind⟩ := Line.word_eq_self hunbroken
  have hnothing : Line.tokens? "" = some [] := by decide +kernel
  rw [read_append rest hlead (isRequest_append hlead rest)]
  simp only [hbehind, hnothing, hword, nameOf_append hne hhead hnot]

/-- A line with a lead without white space and quotes is always a request.  Where the slash leaves a
quote open so does the lead, and else both find a command with the same arguments.  It is the same
command if the lead starts with no slash and does not come twice, so a command is asked for by the
lead in the place of its slash.  A lead that starts with a slash is read as any other slash line. -/
theorem read_lead_eq_read_slash {h σ : Type} [Handles h σ] (lead rest : String) (hne : lead ≠ "")
    (hplain : ∀ c ∈ lead.toList, isSpace c = false ∧ c ≠ '"') :
    let custom := read lead (lead ++ rest)
    let slash := read defaultLead ("/" ++ rest)
    ((custom = .error .unterminatedQuote ∧ slash = .error .unterminatedQuote) ∨
        ∃ name slashName args,
          custom = .ok (some ⟨name, args⟩) ∧ slash = .ok (some ⟨slashName, args⟩)) ∧
      (lead.toList.head? = some '/' → custom = read defaultLead (lead ++ rest)) ∧
      (lead.toList.head? ≠ some '/' → ¬ lead.toList <+: rest.toList →
        custom = slash ∧
        (∀ (catalog : Catalog h) (nickname : String) (state : σ),
          (⟨lead, catalog⟩ : Switchboard h).respond nickname (lead ++ rest) state =
            (⟨defaultLead, catalog⟩ : Switchboard h).respond nickname ("/" ++ rest) state) ∧
        ((∀ c ∈ rest.toList, isSpace c = false) → custom = .ok (some ⟨"/" ++ rest, []⟩))) := by
  intro custom slash
  have hbare : Line.StandsBare lead.toList := Line.standsBare_of_ne_empty hne hplain
  refine ⟨?args, ?keeps, ?rewrites⟩
  case args =>
    have hslashBare : Line.StandsBare "/".toList :=
      Line.standsBare_of_ne_empty (by decide) (by simp [isSpace])
    have hcustom := read_append rest hbare (isRequest_append hbare rest)
    have hslash := read_append rest hslashBare (isRequest_append hslashBare rest)
    simp only [custom, slash, defaultLead, hcustom, hslash]
    cases Line.tokens? (Line.behindWord rest) with
    | none => exact .inl ⟨rfl, rfl⟩
    | some args => exact .inr ⟨_, _, args, rfl, rfl⟩
  case keeps =>
    intro hhead
    exact read_append_of_slash hbare hhead rest
  case rewrites =>
    intro hhead hnot
    have hsame : custom = slash := read_append_of_not_isPrefix hbare hne hhead hnot
    refine ⟨hsame, ?_, ?_⟩
    · intro catalog nickname state
      exact Switchboard.respond_congr catalog nickname state hsame
        (read_ne_none (isRequest_append hbare rest))
    · intro hunbroken
      exact read_append_of_unbroken hbare hne hhead hnot hunbroken

/-- A lead of one character is another slash. -/
theorem read_bang :
    ("!" ≠ "" ∧ ∀ c ∈ "!".toList, isSpace c = false ∧ c ≠ '"') ∧
      "!".toList.head? ≠ some '/' ∧ ¬ "!".toList <+: "fortune \"3 4\"".toList ∧
      read "!" ("!" ++ "fortune \"3 4\"") = .ok (some ⟨"/fortune", ["3 4"]⟩) := by
  have hne : "!" ≠ "" := by decide
  have hplain : ∀ c ∈ "!".toList, isSpace c = false ∧ c ≠ '"' := by simp [isSpace]
  have hhead : "!".toList.head? ≠ some '/' := by decide
  have hnot : ¬ "!".toList <+: "fortune \"3 4\"".toList := by decide
  have hslash : read defaultLead ("/" ++ "fortune \"3 4\"") = .ok (some ⟨"/fortune", ["3 4"]⟩) := by
    decide +kernel
  obtain ⟨-, -, hrewrites⟩ :=
    read_lead_eq_read_slash (h := Handler Unit) "!" "fortune \"3 4\"" hne hplain
  exact ⟨⟨hne, hplain⟩, hhead, hnot, (hrewrites hhead hnot).1.trans hslash⟩

/-- A lead of two slashes is kept, so it is no other spelling of one. -/
theorem not_forall_read_eq_read_slash :
    ¬ ∀ lead rest : String, lead ≠ "" → (∀ c ∈ lead.toList, isSpace c = false ∧ c ≠ '"') →
      read lead (lead ++ rest) = read defaultLead ("/" ++ rest) := by
  intro hall
  have hsame := hall "//" "fortune" (by decide) (by simp [isSpace])
  have hcustom : read "//" ("//" ++ "fortune") = .ok (some ⟨"//fortune", []⟩) := by decide +kernel
  have hslash : read defaultLead ("/" ++ "fortune") = .ok (some ⟨"/fortune", []⟩) := by
    decide +kernel
  rw [hcustom, hslash] at hsame
  injection hsame with hsame
  injection hsame with hsame
  injection hsame with hname
  exact absurd hname (by decide)

end Request

end SlashChat
