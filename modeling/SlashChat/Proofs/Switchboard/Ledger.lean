import SlashChat.Host.Recorder
import SlashChat.Proofs.Catalog.History
import SlashChat.Proofs.Switchboard.Response

/-!
# The ledger of a run

Lines are given in turn to a switchboard whose catalog was built by a history of attempted
additions, and a recorder keeps every host call.  `Entry` says what one line may contribute: its
outcome, the host calls it adds to the record and the state it leaves.  It speaks of the line and of
the history only, not of the catalog.  The state is of any type, so a handler that ran twice, or one
that ran for a rejected name, would show in it.  `Ledger` strings entries together.

The record of a run is what was there before and then the calls of the ledger, line by line
(`takeAll_ledger`), and there is only one ledger for a run.
-/

set_option autoImplicit false

namespace SlashChat.Switchboard

open Text (isSpace)
open Catalog (accepted)

variable {h σ : Type} [Handles h σ]

/-- What a line contributes: its outcome, its host calls and the state behind it. -/
inductive Entry (history : List (Command h)) (lead nickname line : String) (state : σ) :
    Outcome → List HostEvent → σ → Prop
  /-- White space is ignored. -/
  | blank (hblank : ∀ c ∈ line.toList, isSpace c = true) :
    Entry history lead nickname line state .ignored [] state
  /-- Chat text is passed on as it is. -/
  | text (hline : ∃ c ∈ line.toList, isSpace c = false)
      (hrequest : Request.isRequest lead line = false) :
    Entry history lead nickname line state (.text line) [] state
  /-- An open quote runs nothing. -/
  | openQuote (hrequest : Request.isRequest lead line = true)
      (htokens : Line.tokens? line = none) :
    Entry history lead nickname line state (.rejected .unterminatedQuote)
      [.display CommandError.unterminatedQuote.message] state
  /-- A name that was never added runs nothing. -/
  | unknown {first : String} {args : List String}
      (hrequest : Request.isRequest lead line = true)
      (htokens : Line.tokens? line = some (first :: args))
      (hnew : ∀ command ∈ accepted history, command.name ≠ Request.nameOf lead first) :
    Entry history lead nickname line state (.rejected (.notFound (Request.nameOf lead first)))
      [.display (CommandError.notFound (Request.nameOf lead first)).message] state
  /-- The handler that was added last under the name runs and succeeds. -/
  | handled {first : String} {args : List String} {last : Command h}
      (hrequest : Request.isRequest lead line = true)
      (htokens : Line.tokens? line = some (first :: args))
      (hlast : (accepted history).reverse.find? (·.matches (Request.nameOf lead first)) =
        some last)
      {turn : Turn σ} (hturn : Handles.run last.handler nickname args state = turn)
      (hresult : turn.result = .ok ()) :
    Entry history lead nickname line state (.handled (Request.nameOf lead first))
      (Act.events turn.acts) turn.state
  /-- The handler that was added last under the name runs and fails; its error is shown behind the
  calls that it made. -/
  | failed {first : String} {args : List String} {last : Command h}
      (hrequest : Request.isRequest lead line = true)
      (htokens : Line.tokens? line = some (first :: args))
      (hlast : (accepted history).reverse.find? (·.matches (Request.nameOf lead first)) =
        some last)
      {turn : Turn σ} (hturn : Handles.run last.handler nickname args state = turn)
      {cause : CommandError} (hresult : turn.result = .error cause) :
    Entry history lead nickname line state (.rejected cause)
      (Act.events turn.acts ++ [.display cause.message]) turn.state

/-- The entries of lines that are given in turn. -/
inductive Ledger (history : List (Command h)) (lead nickname : String) :
    List String → σ → List Outcome → List (List HostEvent) → σ → Prop
  | nil (state : σ) : Ledger history lead nickname [] state [] [] state
  | cons {line : String} {rest : List String} {state next final : σ} {outcome : Outcome}
      {outcomes : List Outcome} {segment : List HostEvent} {segments : List (List HostEvent)}
      (hentry : Entry history lead nickname line state outcome segment next)
      (hrest : Ledger history lead nickname rest next outcomes segments final) :
    Ledger history lead nickname (line :: rest) state (outcome :: outcomes) (segment :: segments)
      final

/-- A look-up in a catalog finds the handler that its history added last under the name. -/
theorem find?_of_last {history : List (Command h)} {name : String} {last : Command h}
    (hlast : (accepted history).reverse.find? (·.matches name) = some last) :
    ∃ command, (Catalog.ofHistory history).find? name = some command ∧
      command.handler = last.handler := by
  rw [Catalog.find?_ofHistory]
  cases hrecalled : Catalog.recalled (accepted history) name with
  | none =>
    have hmem := List.mem_reverse.1 (List.mem_of_find?_eq_some hlast)
    have hmatch := List.find?_some hlast
    exact absurd ((last.matches_iff name).1 hmatch)
      ((Catalog.recalled_eq_none_iff _ name).1 hrecalled last hmem)
  | some command =>
    obtain ⟨-, last', hlast', hhandler⟩ := Catalog.first_last_of_recalled hrecalled
    rw [hlast] at hlast'
    obtain rfl := Option.some.inj hlast'
    exact ⟨command, rfl, hhandler⟩

/-- An entry is the response to its line. -/
theorem respond_of_entry {history : List (Command h)} {lead nickname line : String}
    {state next : σ} {outcome : Outcome} {segment : List HostEvent}
    (hentry : Entry history lead nickname line state outcome segment next) :
    let response := (⟨lead, Catalog.ofHistory history⟩ : Switchboard h).respond nickname line state
    response.outcome = outcome ∧ Act.events response.acts = segment ∧ response.state = next := by
  intro response
  cases hentry with
  | blank hblank =>
    have hresponse : response = ⟨.ignored, [], state⟩ := respond_of_blank _ _ _ hblank
    rw [hresponse]
    exact ⟨rfl, rfl, rfl⟩
  | text hline hrequest =>
    have hne : Text.trim line.toList ≠ [] := by
      intro hnil
      obtain ⟨c, hc, hspace⟩ := hline
      rw [Text.trim_eq_nil_iff.1 hnil c hc] at hspace
      cases hspace
    have hresponse : response = ⟨.text line, [], state⟩ :=
      (respond_of_none _ _ _ (Request.read_of_not_isRequest hrequest)).trans (if_neg hne)
    rw [hresponse]
    exact ⟨rfl, rfl, rfl⟩
  | openQuote hrequest htokens =>
    have hresponse : response = reject [] .unterminatedQuote state :=
      respond_of_error _ _ _ (Request.read_of_openQuote hrequest htokens)
    rw [hresponse]
    exact ⟨rfl, events_reject .., rfl⟩
  | @unknown first args hrequest htokens hnew =>
    have hfind : (Catalog.ofHistory history).find? (Request.nameOf lead first) = none := by
      rw [Catalog.find?_ofHistory]
      exact (Catalog.recalled_eq_none_iff _ _).2 hnew
    have hresponse : response = reject _ (.notFound (Request.nameOf lead first)) state :=
      (respond_of_request _ _ _ (Request.read_of_tokens hrequest htokens)).trans
        (answer_of_unknown _ _ _ _ hfind)
    rw [hresponse]
    exact ⟨rfl, events_reject .., rfl⟩
  | @handled first args last hrequest htokens hlast turn hturn hresult =>
    obtain ⟨command, hfind, hhandler⟩ := find?_of_last hlast
    obtain ⟨opening, hanswer⟩ :=
      answer_of_success (⟨lead, Catalog.ofHistory history⟩ : Switchboard h) nickname
        ⟨Request.nameOf lead first, args⟩ state hfind (hhandler ▸ hturn) hresult
    have hresponse : response = _ :=
      (respond_of_request _ _ _ (Request.read_of_tokens hrequest htokens)).trans hanswer
    rw [hresponse]
    exact ⟨rfl, Act.events_cons_note .., rfl⟩
  | @failed first args last hrequest htokens hlast turn hturn cause hresult =>
    obtain ⟨command, hfind, hhandler⟩ := find?_of_last hlast
    obtain ⟨opening, closing, hanswer⟩ :=
      answer_of_failure (⟨lead, Catalog.ofHistory history⟩ : Switchboard h) nickname
        ⟨Request.nameOf lead first, args⟩ state hfind (hhandler ▸ hturn) hresult
    have hresponse : response = _ :=
      (respond_of_request _ _ _ (Request.read_of_tokens hrequest htokens)).trans hanswer
    rw [hresponse]
    exact ⟨rfl, by simp [reject], rfl⟩

/-- Every line has an entry, one constructor for each kind of line. -/
theorem exists_entry (history : List (Command h)) (lead nickname line : String) (state : σ) :
    ∃ outcome segment next, Entry history lead nickname line state outcome segment next := by
  obtain hblank | ⟨hline, hrequest⟩ | ⟨hrequest, htokens⟩ | ⟨hrequest, first, args, htokens⟩ :=
    kinds_of_line lead line
  · exact ⟨_, _, _, .blank hblank⟩
  · exact ⟨_, _, _, .text hline hrequest⟩
  · exact ⟨_, _, _, .openQuote hrequest htokens⟩
  · cases hlast : (accepted history).reverse.find? (·.matches (Request.nameOf lead first)) with
    | none =>
      refine ⟨_, _, _, .unknown hrequest htokens ?_⟩
      intro command hmem hname
      exact List.find?_eq_none.1 hlast command (List.mem_reverse.2 hmem)
        ((command.matches_iff _).2 hname)
    | some last =>
      cases hresult : (Handles.run last.handler nickname args state).result with
      | ok done => exact ⟨_, _, _, .handled hrequest htokens hlast rfl hresult⟩
      | error cause => exact ⟨_, _, _, .failed hrequest htokens hlast rfl hresult⟩

/-- The response of a switchboard is the entry of the line. -/
theorem entry_respond (history : List (Command h)) (lead nickname line : String) (state : σ) :
    let response := (⟨lead, Catalog.ofHistory history⟩ : Switchboard h).respond nickname line state
    Entry history lead nickname line state response.outcome (Act.events response.acts)
      response.state := by
  intro response
  obtain ⟨outcome, segment, next, hentry⟩ := exists_entry history lead nickname line state
  obtain ⟨rfl, rfl, rfl⟩ := respond_of_entry hentry
  exact hentry

/-- Lines that are given in turn have one ledger only. -/
theorem Ledger.unique {history : List (Command h)} {lead nickname : String} {lines : List String}
    {state final final' : σ} {outcomes outcomes' : List Outcome}
    {segments segments' : List (List HostEvent)}
    (hledger : Ledger history lead nickname lines state outcomes segments final)
    (hledger' : Ledger history lead nickname lines state outcomes' segments' final') :
    outcomes' = outcomes ∧ segments' = segments ∧ final' = final := by
  induction hledger generalizing outcomes' segments' with
  | nil state =>
    cases hledger'
    exact ⟨rfl, rfl, rfl⟩
  | cons hentry _ ih =>
    cases hledger' with
    | cons hentry' hrest' =>
      obtain ⟨rfl, rfl, rfl⟩ := respond_of_entry hentry
      obtain ⟨rfl, rfl, rfl⟩ := respond_of_entry hentry'
      obtain ⟨rfl, rfl, rfl⟩ := ih hrest'
      exact ⟨rfl, rfl, rfl⟩

/-- A run has a ledger, and its calls are what the record grows by. -/
theorem exists_ledger (history : List (Command h)) (lead : String) (lines : List String)
    (host : Recorder) (state : σ) :
    let run := (⟨lead, Catalog.ofHistory history⟩ : Switchboard h).takeAll lines host state
    ∃ segments, Ledger history lead host.nickname lines state run.1 segments run.2.2 ∧
      run.2.1.events.toList = host.events.toList ++ segments.flatten ∧
      run.2.1.nickname = host.nickname := by
  induction lines generalizing host state with
  | nil => exact ⟨[], .nil state, (List.append_nil _).symm, rfl⟩
  | cons line rest ih =>
    intro run
    let board : Switchboard h := ⟨lead, Catalog.ofHistory history⟩
    let response := board.respond host.nickname line state
    let next := Host.perform host response.acts
    have hnickname : next.nickname = host.nickname := Host.nickname_perform host response.acts
    obtain ⟨segments, hledger, hevents, hname⟩ := ih next response.state
    rw [hnickname] at hledger hname
    refine ⟨Act.events response.acts :: segments, ?_, ?_, hname⟩
    · exact .cons (entry_respond history lead host.nickname line state) hledger
    · calc run.2.1.events.toList
        _ = next.events.toList ++ segments.flatten := hevents
        _ = (host.events.toList ++ Act.events response.acts) ++ segments.flatten := by
          rw [Recorder.events_perform]
        _ = host.events.toList ++ (Act.events response.acts :: segments).flatten := by
          rw [List.append_assoc, List.flatten_cons]

/-- The record of a run is what was there before and then the calls of the ledger, line by line;
the outcomes and the state behind the run are those of the ledger, and there is no other ledger. -/
theorem takeAll_ledger (history : List (Command h)) (lead : String) (lines : List String)
    (host : Recorder) (state : σ) :
    let run := (⟨lead, Catalog.ofHistory history⟩ : Switchboard h).takeAll lines host state
    ∃ segments, Ledger history lead host.nickname lines state run.1 segments run.2.2 ∧
      run.2.1.events.toList = host.events.toList ++ segments.flatten ∧
      run.2.1.nickname = host.nickname ∧
      ∀ outcomes' segments' final',
        Ledger history lead host.nickname lines state outcomes' segments' final' →
          outcomes' = run.1 ∧ segments' = segments ∧ final' = run.2.2 := by
  obtain ⟨segments, hledger, hevents, hname⟩ := exists_ledger history lead lines host state
  exact ⟨segments, hledger, hevents, hname, fun _ _ _ hother => hledger.unique hother⟩

end SlashChat.Switchboard
