import SlashChat.Proofs.Line.Request
import SlashChat.Switchboard

/-!
# What each kind of line does

One law for each kind of line: white space, chat text, a request with an open quote, a request for
an unknown command, and a request for a known one whose handler succeeds or fails.  Every line is of
one of these kinds (`kinds_of_line`), so nothing else needs to open `Switchboard.respond`.
-/

set_option autoImplicit false

namespace SlashChat

open Text (isSpace)

/-! ## Host calls among acts -/

namespace Act

/-- No acts make no host calls. -/
@[simp]
theorem events_nil : events [] = [] := rfl

/-- The host calls of acts put together are those of the parts in turn. -/
@[simp]
theorem events_append (acts more : List Act) : events (acts ++ more) = events acts ++ events more :=
  List.filterMap_append

/-- A host call comes in front of those of the acts behind it. -/
@[simp]
theorem events_cons_call (event : HostEvent) (acts : List Act) :
    events (.call event :: acts) = event :: events acts := rfl

/-- A note for the log is no host call. -/
@[simp]
theorem events_cons_note (note : Note) (acts : List Act) :
    events (.note note :: acts) = events acts := rfl

/-- Messages that are sent are host calls in their order. -/
@[simp]
theorem events_map_send (messages : List String) :
    events (messages.map Act.send) = messages.map HostEvent.send := by
  induction messages with
  | nil => rfl
  | cons message rest ih => rw [List.map_cons, List.map_cons, events_cons_call, ih]

end Act

namespace Switchboard

variable {h σ : Type} [Handles h σ]

/-- A rejection shows the message of its cause behind what happened before. -/
theorem events_reject (acts : List Act) (cause : CommandError) (state : σ) :
    Act.events (reject acts cause state).acts = Act.events acts ++ [.display cause.message] := by
  simp [reject]

/-! ## The laws -/

/-- A line of white space is ignored. -/
theorem respond_of_blank (board : Switchboard h) (nickname : String) {line : String} (state : σ)
    (hblank : ∀ c ∈ line.toList, isSpace c = true) :
    board.respond nickname line state = ⟨.ignored, [], state⟩ := by
  rw [respond, Text.trim_eq_nil_iff.2 hblank]
  rfl

/-- A line that cannot be read is rejected with the cause. -/
theorem respond_of_error (board : Switchboard h) (nickname : String) {line : String} (state : σ)
    {cause : CommandError} (hread : Request.read board.lead line = .error cause) :
    board.respond nickname line state = reject [] cause state := by
  have hrequest : Request.isRequest board.lead line = true :=
    Request.isRequest_of_read (by simp [hread])
  have hne := Request.trim_ne_nil_of_isRequest hrequest
  rw [respond, hread]
  simp [hne]

/-- A line with a request gets the answer to that request. -/
theorem respond_of_request (board : Switchboard h) (nickname : String) {line : String} (state : σ)
    {request : Request} (hread : Request.read board.lead line = .ok (some request)) :
    board.respond nickname line state = board.answer nickname request state := by
  have hrequest : Request.isRequest board.lead line = true :=
    Request.isRequest_of_read (by simp [hread])
  have hne := Request.trim_ne_nil_of_isRequest hrequest
  rw [respond, hread]
  simp [hne]

/-- Lines that are read as the same request, or fail alike, get the same response, whichever leads
they were read with. -/
theorem respond_congr {lead lead' line line' : String} (catalog : Catalog h) (nickname : String)
    (state : σ) (hread : Request.read lead line = Request.read lead' line')
    (hrequest : Request.read lead line ≠ .ok none) :
    (⟨lead, catalog⟩ : Switchboard h).respond nickname line state =
      (⟨lead', catalog⟩ : Switchboard h).respond nickname line' state := by
  cases hcase : Request.read lead line with
  | error cause =>
    rw [respond_of_error ⟨lead, catalog⟩ nickname state hcase,
      respond_of_error ⟨lead', catalog⟩ nickname state (hread ▸ hcase)]
  | ok found =>
    cases found with
    | none => exact absurd hcase hrequest
    | some request =>
      rw [respond_of_request ⟨lead, catalog⟩ nickname state hcase,
        respond_of_request ⟨lead', catalog⟩ nickname state (hread ▸ hcase)]
      rfl

/-- Any other line does nothing, and is passed on as it is unless it is all white space. -/
theorem respond_of_none (board : Switchboard h) (nickname : String) {line : String} (state : σ)
    (hread : Request.read board.lead line = .ok none) :
    board.respond nickname line state =
      if Text.trim line.toList = [] then ⟨.ignored, [], state⟩ else ⟨.text line, [], state⟩ := by
  rw [respond, hread]
  simp only [List.isEmpty_iff]

/-- Every line is white space, chat text, a request with an open quote or a request with a first
token. -/
theorem kinds_of_line (lead line : String) :
    (∀ c ∈ line.toList, isSpace c = true) ∨
      ((∃ c ∈ line.toList, isSpace c = false) ∧ Request.isRequest lead line = false) ∨
      (Request.isRequest lead line = true ∧ Line.tokens? line = none) ∨
      (Request.isRequest lead line = true ∧
        ∃ first args, Line.tokens? line = some (first :: args)) := by
  by_cases hblank : ∀ c ∈ line.toList, isSpace c = true
  · exact .inl hblank
  obtain ⟨hrequest, -⟩ | ⟨hrequest, htokens, -⟩ | ⟨hrequest, first, args, htokens, -⟩ :=
    Request.read_cases lead line
  · exact .inr (.inl ⟨by simpa using hblank, hrequest⟩)
  · exact .inr (.inr (.inl ⟨hrequest, htokens⟩))
  · exact .inr (.inr (.inr ⟨hrequest, first, args, htokens⟩))

/-- A request for an unknown command is rejected, and the log notes the name. -/
theorem answer_of_unknown (board : Switchboard h) (nickname : String) (request : Request)
    (state : σ) (hfind : board.catalog.find? request.name = none) :
    board.answer nickname request state =
      reject [Act.log .debug ("No handler for " ++ request.name)] (.notFound request.name)
        state := by
  rw [answer, hfind]

/-- A request for a known command runs its handler, and a success is passed on. -/
theorem answer_of_success (board : Switchboard h) (nickname : String) (request : Request)
    (state : σ) {command : Command h} (hfind : board.catalog.find? request.name = some command)
    {turn : Turn σ} (hturn : Handles.run command.handler nickname request.args state = turn)
    (hresult : turn.result = .ok ()) :
    ∃ opening : Note, board.answer nickname request state =
      ⟨.handled request.name, .note opening :: turn.acts, turn.state⟩ := by
  rw [answer, hfind]
  simp only [hturn, hresult]
  exact ⟨_, rfl⟩

/-- A failure of the handler is shown behind what the handler did. -/
theorem answer_of_failure (board : Switchboard h) (nickname : String) (request : Request)
    (state : σ) {command : Command h} (hfind : board.catalog.find? request.name = some command)
    {turn : Turn σ} (hturn : Handles.run command.handler nickname request.args state = turn)
    {cause : CommandError} (hresult : turn.result = .error cause) :
    ∃ opening closing : Note, board.answer nickname request state =
      reject (.note opening :: turn.acts ++ [.note closing]) cause turn.state := by
  rw [answer, hfind]
  simp only [hturn, hresult]
  exact ⟨_, _, rfl⟩

end Switchboard

end SlashChat
