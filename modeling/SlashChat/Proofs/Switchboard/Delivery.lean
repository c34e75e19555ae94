import SlashChat.Proofs.Switchboard.Response

/-!
# Chat text on its way to the contact

A line that is neither blank nor a request is chat text.  The switchboard does nothing about it but
hand it back, and only about such lines (`respond_of_chat`, `outcome_of_not_chat`); a driver that
sends it on adds one message to what the lines do (`events_delivered`).

White space around a line changes what the switchboard does only if there is chat text inside it
(`respond_trimmed`).
-/

set_option autoImplicit false

namespace SlashChat

open Text (isSpace trim trimmed)

/-- What a line does when chat text is sent on to the contact. -/
def Response.delivered {σ : Type} (response : Response σ) : List Act :=
  response.acts ++
    match response.outcome with
    | .text line => [Act.send line]
    | _ => []

namespace Switchboard

/-- Whether a line is chat text. -/
def isChat (lead line : String) : Bool :=
  !(trim line.toList).isEmpty && !Request.isRequest lead line

variable {h σ : Type} [Handles h σ]

/-- Chat text is handed back as it is, and nothing else happens. -/
theorem respond_of_chat (board : Switchboard h) (nickname : String) {line : String} (state : σ)
    (hchat : isChat board.lead line = true) :
    board.respond nickname line state = ⟨.text line, [], state⟩ := by
  obtain ⟨hline, hrequest⟩ := Bool.and_eq_true_iff.1 hchat
  have hne : trim line.toList ≠ [] := by simpa using hline
  have hread : Request.read board.lead line = .ok none :=
    Request.read_of_not_isRequest (by simpa using hrequest)
  rw [respond_of_none board nickname state hread, if_neg hne]

/-- A request is never handed back as chat text. -/
theorem outcome_answer_ne_text (board : Switchboard h) (nickname : String) (request : Request)
    (state : σ) (text : String) : (board.answer nickname request state).outcome ≠ .text text := by
  cases hfind : board.catalog.find? request.name with
  | none =>
    rw [board.answer_of_unknown nickname request state hfind]
    nofun
  | some command =>
    cases hresult : (Handles.run command.handler nickname request.args state).result with
    | ok done =>
      obtain ⟨opening, hanswer⟩ := board.answer_of_success nickname request state hfind rfl hresult
      rw [hanswer]
      nofun
    | error cause =>
      obtain ⟨opening, closing, hanswer⟩ :=
        board.answer_of_failure nickname request state hfind rfl hresult
      rw [hanswer]
      nofun

/-- A line that is no chat text is never handed back as such. -/
theorem outcome_of_not_chat (board : Switchboard h) (nickname : String) {line : String} (state : σ)
    (hchat : isChat board.lead line = false) (text : String) :
    (board.respond nickname line state).outcome ≠ .text text := by
  rcases Bool.and_eq_false_iff.1 hchat with hblank | hrequest
  · have hspace : ∀ c ∈ line.toList, isSpace c = true :=
      Text.trim_eq_nil_iff.1 (by simpa using hblank)
    rw [board.respond_of_blank nickname state hspace]
    nofun
  · have hrequest : Request.isRequest board.lead line = true := by simpa using hrequest
    cases hread : Request.read board.lead line with
    | error cause =>
      rw [board.respond_of_error nickname state hread]
      nofun
    | ok found =>
      cases found with
      | none => exact absurd hread (Request.read_ne_none hrequest)
      | some request =>
        rw [board.respond_of_request nickname state hread]
        exact board.outcome_answer_ne_text nickname request state text

/-- A driver that sends chat text on makes the calls that the line makes, and sends the line if it
is chat text. -/
theorem events_delivered (board : Switchboard h) (nickname line : String) (state : σ) :
    Act.events (board.respond nickname line state).delivered =
      Act.events (board.respond nickname line state).acts ++
        if isChat board.lead line then [HostEvent.send line] else [] := by
  rw [Response.delivered, Act.events_append]
  cases hchat : isChat board.lead line with
  | true =>
    rw [board.respond_of_chat nickname state hchat]
    rfl
  | false =>
    have houtcome := board.outcome_of_not_chat nickname state hchat
    cases hcase : (board.respond nickname line state).outcome with
    | text text => exact absurd hcase (houtcome text)
    | _ => rfl

/-- White space around a line is of no account, unless it surrounds chat text. -/
theorem respond_trimmed (board : Switchboard h) (nickname line : String) (state : σ)
    (hline : isChat board.lead (trimmed line) = true → trimmed line = line) :
    board.respond nickname (trimmed line) state = board.respond nickname line state := by
  cases hchat : isChat board.lead (trimmed line) with
  | true => rw [hline hchat]
  | false =>
    rcases Bool.and_eq_false_iff.1 hchat with hblank | hrequest
    · have hspace : ∀ c ∈ (trimmed line).toList, isSpace c = true :=
        Text.trim_eq_nil_iff.1 (by simpa using hblank)
      have hnil : trim line.toList = [] := by
        rw [← Text.trimStart_trim, Text.trimStart_eq_nil_iff, ← Text.toList_trimmed]
        exact hspace
      rw [board.respond_of_blank nickname state hspace,
        board.respond_of_blank nickname state (Text.trim_eq_nil_iff.1 hnil)]
    · have hrequest : Request.isRequest board.lead (trimmed line) = true := by simpa using hrequest
      exact respond_congr board.catalog nickname state (Request.read_trimmed hrequest)
        (Request.read_ne_none hrequest)

end Switchboard

end SlashChat
