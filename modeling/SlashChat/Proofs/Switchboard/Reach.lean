import SlashChat.Host.Recorder
import SlashChat.Proofs.Catalog.History
import SlashChat.Proofs.Line.FirstToken

/-!
# Which commands lines can reach

A catalog accepts a name with white space in it, but a line that opens with no quote asks for a
name without.  To say which handlers a line calls, `Switchboard.watched` puts a watch on every
handler of a switchboard.  A watch does what its handler does and keeps a list of the calls, so
nothing else changes (`respond_watched`), and the calls of a line are those that the request in it
asks for (`calls_eq_asked`).

With a lead that does not start with a quote, a command is called by some line exactly when its name
has no white space.  Then the name and the written arguments behind it call the command once, with
these arguments (`calls_iff_unbroken`).
-/

set_option autoImplicit false

namespace SlashChat

open Text (isSpace)

variable {h σ : Type} [Handles h σ]

/-! ## Watched handlers -/

/-- The handler of a command under watch. -/
structure Watch (h : Type) where
  command : Command h

/-- A handler under watch does what it did, and its calls are added to a list. -/
instance : Handles (Watch h) (σ × List (Command h × List String)) where
  run watch nickname args state :=
    let turn := Handles.run watch.command.handler nickname args state.1
    ⟨turn.acts, turn.result, turn.state, state.2 ++ [(watch.command, args)]⟩

/-- A command with a watch on its handler. -/
def Command.watched (command : Command h) : Command (Watch h) := { command with handler := ⟨command⟩ }

namespace Switchboard

/-- A switchboard with a watch on every handler. -/
def watched (board : Switchboard h) : Switchboard (Watch h) :=
  ⟨board.lead, ⟨board.catalog.commands.map Command.watched⟩⟩

/-- The calls that a line makes: each command whose handler runs, with its arguments. -/
def calls {η : Type} [Host η] (board : Switchboard h) (line : String) (host : η) (state : σ) :
    List (Command h × List String) :=
  (board.watched.take line host (state, [])).2.2.2

/-- The call that a request asks for, if it names a command. -/
def called (board : Switchboard h) (request : Request) : List (Command h × List String) :=
  (board.catalog.find? request.name).toList.map fun command => (command, request.args)

/-- The call that a line asks for, if there is a request in it that names a command. -/
def asked (board : Switchboard h) (line : String) : List (Command h × List String) :=
  match Request.read board.lead line with
  | .ok (some request) => board.called request
  | _ => []

/-- A watched switchboard finds the same commands, each with its watch. -/
theorem find?_watched (board : Switchboard h) (name : String) :
    board.watched.catalog.find? name = (board.catalog.find? name).map Command.watched := by
  unfold watched Catalog.find?
  rw [List.find?_map]
  rfl

/-- A watched switchboard answers a request as before, and adds its call to the list. -/
theorem answer_watched (board : Switchboard h) (nickname : String) (request : Request) (state : σ)
    (log : List (Command h × List String)) :
    let plain := board.answer nickname request state
    board.watched.answer nickname request (state, log) =
      ⟨plain.outcome, plain.acts, plain.state, log ++ board.called request⟩ := by
  intro plain
  unfold plain called answer
  rw [find?_watched]
  cases board.catalog.find? request.name with
  | none =>
    show _ = Response.mk _ _ (state, log ++ [])
    rw [List.append_nil]
    rfl
  | some command =>
    let turn := Handles.run command.handler nickname request.args state
    have hrun : Handles.run command.watched.handler nickname request.args (state, log) =
        ⟨turn.acts, turn.result, turn.state, log ++ [(command, request.args)]⟩ := rfl
    simp only [Option.map_some, hrun]
    cases turn.result <;> rfl

/-- Putting watches on changes nothing but the list of the calls. -/
theorem respond_watched (board : Switchboard h) (nickname line : String) (state : σ)
    (log : List (Command h × List String)) :
    let plain := board.respond nickname line state
    board.watched.respond nickname line (state, log) =
      ⟨plain.outcome, plain.acts, plain.state, log ++ board.asked line⟩ := by
  intro plain
  unfold plain asked
  cases hread : Request.read board.lead line with
  | error cause =>
    rw [board.respond_of_error nickname state hread, List.append_nil]
    exact board.watched.respond_of_error nickname (state, log) hread
  | ok found =>
    cases found with
    | none =>
      rw [board.respond_of_none nickname state hread, List.append_nil,
        board.watched.respond_of_none nickname (state, log) hread]
      split_ifs <;> rfl
    | some request =>
      rw [board.respond_of_request nickname state hread,
        board.watched.respond_of_request nickname (state, log) hread]
      exact board.answer_watched nickname request state log

/-- The calls of a line are those that it asks for. -/
theorem calls_eq_asked {η : Type} [Host η] (board : Switchboard h) (line : String) (host : η)
    (state : σ) : board.calls line host state = board.asked line := by
  show (board.watched.respond (Host.nickname host) line (state, [])).state.2 = _
  rw [respond_watched]
  exact List.nil_append _

/-- A line asks for a call exactly if its request names the command and brings the arguments. -/
theorem mem_asked_iff {board : Switchboard h} {line : String} {command : Command h}
    {args : List String} :
    (command, args) ∈ board.asked line ↔ ∃ request, Request.read board.lead line = .ok (some request) ∧
      board.catalog.find? request.name = some command ∧ request.args = args := by
  unfold asked
  cases hread : Request.read board.lead line with
  | error cause => simp
  | ok found => cases found <;> simp [called]

/-! ## Lines that call a command -/

/-- Without a quote in front of the lead, the commands that lines call have names without white
space. -/
theorem unbroken_of_mem_asked {board : Switchboard h} (hlead : board.lead.toList.head? ≠ some '"')
    {line : String} {command : Command h} {args : List String}
    (hmem : (command, args) ∈ board.asked line) : ∀ c ∈ command.name.toList, isSpace c = false := by
  obtain ⟨request, hread, hfind, -⟩ := mem_asked_iff.1 hmem
  obtain ⟨hrequest, first, htokens, hname⟩ := Request.read_eq_some_iff.1 hread
  have hquote := Request.head?_ne_quote_of_isRequest hrequest hlead
  have hbare := (Line.standsBare_first htokens hquote).1
  rw [Catalog.name_of_find? hfind, hname]
  exact Request.nameOf_unbroken board.lead hbare.unbroken

/-- A name without white space calls its command, with the arguments that are written behind it. -/
theorem asked_of_unbroken {board : Switchboard h} {command : Command h}
    (hfind : board.catalog.find? command.name = some command)
    (hslash : command.name.toList.head? = some '/')
    (hunbroken : ∀ c ∈ command.name.toList, isSpace c = false) {args : List String}
    (hargs : ∀ arg ∈ args, Line.isWritable arg.toList = true) :
    board.asked (command.name ++ " " ++ String.ofList (Line.write (args.map String.toList))) =
      [(command, args)] := by
  let line := command.name ++ " " ++ String.ofList (Line.write (args.map String.toList))
  have hbare : Line.StandsBare command.name.toList := by
    obtain ⟨rest, hcons⟩ := List.head?_eq_some_iff.1 hslash
    exact ⟨⟨'/', rest, hcons, by decide⟩, hunbroken⟩
  have htokens : Line.tokens? line = some (command.name :: args) :=
    Line.tokens?_name_write hbare hargs
  have hhead : line.toList.head? = some '/' := by
    simp [line, hslash]
  have hread : Request.read board.lead line = .ok (some ⟨command.name, args⟩) := by
    rw [Request.read_of_tokens (Request.isRequest_of_slash board.lead hhead) htokens,
      Request.nameOf_of_slash board.lead hslash]
  show board.asked line = _
  simp only [asked, hread, called, hfind, Option.toList_some, List.map_cons, List.map_nil]

/-- With a lead that does not start with a quote, some line calls a command exactly when its name
has no white space.  In that case the name, a blank and written arguments call it once, with these
arguments, whatever the arguments are. -/
theorem calls_iff_unbroken {η : Type} [Host η] (history : List (Command h)) {lead : String}
    (hlead : lead.toList.head? ≠ some '"') {command : Command h}
    (hcommand : command ∈ (Catalog.ofHistory history).commands) (host : η) (state : σ) :
    let board : Switchboard h := ⟨lead, Catalog.ofHistory history⟩
    ((∃ line args, (command, args) ∈ board.calls line host state) ↔
        ∀ c ∈ command.name.toList, isSpace c = false) ∧
      ((∀ c ∈ command.name.toList, isSpace c = false) →
        ∀ args : List String, (∀ arg ∈ args, Line.isWritable arg.toList = true) →
          board.calls (command.name ++ " " ++ String.ofList (Line.write (args.map String.toList)))
            host state = [(command, args)]) := by
  intro board
  have hfind : board.catalog.find? command.name = some command :=
    (Catalog.find?_eq_some_iff (Catalog.nodup_names_ofHistory history) _ _).2 ⟨hcommand, rfl⟩
  have hslash : command.name.toList.head? = some '/' :=
    beq_iff_eq.1 (Catalog.hasSlash_of_mem_ofHistory hcommand)
  refine ⟨⟨?reached, ?reaches⟩, ?written⟩
  case reached =>
    rintro ⟨line, args, hmem⟩
    rw [calls_eq_asked] at hmem
    exact unbroken_of_mem_asked hlead hmem
  case reaches =>
    intro hunbroken
    have hnone : ∀ arg ∈ ([] : List String), Line.isWritable arg.toList = true := by simp
    have hasked := asked_of_unbroken hfind hslash hunbroken hnone
    refine ⟨command.name ++ " " ++ String.ofList (Line.write ([].map String.toList)), [], ?_⟩
    rw [calls_eq_asked, hasked]
    exact List.mem_singleton_self _
  case written =>
    intro hunbroken args hargs
    rw [calls_eq_asked]
    exact asked_of_unbroken hfind hslash hunbroken hargs

/-- A name may hold quotes, a name that was added twice calls the handler that was added last, and
a name of two words is out of reach. -/
theorem calls_say :
    let quiet : Handler Unit := fun _ _ state => ⟨[], .ok (), state⟩
    let loud : Handler Unit := fun _ args state => ⟨args.map Act.send, .ok (), state⟩
    let history : List (Command (Handler Unit)) :=
      [⟨"/say\"", "short", quiet⟩, ⟨"/say it", "", quiet⟩, ⟨"/say\"", "long", loud⟩]
    let board : Switchboard (Handler Unit) := ⟨"! \"", Catalog.ofHistory history⟩
    let host : Recorder := { nickname := "ann" }
    board.lead.toList.head? ≠ some '"' ∧
      ⟨"/say\"", "short", loud⟩ ∈ board.catalog.commands ∧
      board.calls "/say\" \"a b\" \"\" c\"d" host () =
        [(⟨"/say\"", "short", loud⟩, ["a b", "", "c\"d"])] ∧
      ⟨"/say it", "", quiet⟩ ∈ board.catalog.commands ∧
      ∀ line args, (⟨"/say it", "", quiet⟩, args) ∉ board.calls line host () := by
  intro quiet loud history board host
  have hlead : "! \"".toList.head? ≠ some '"' := by decide
  have hcommands : (Catalog.ofHistory history).commands =
      [⟨"/say\"", "short", loud⟩, ⟨"/say it", "", quiet⟩] := by
    simp [Catalog.ofHistory, Catalog.register, Catalog.insert, hasSlash, Catalog.swapHandler,
      Command.matches, history]
  have hsay : ⟨"/say\"", "short", loud⟩ ∈ (Catalog.ofHistory history).commands := by
    simp [hcommands]
  have hpair : ⟨"/say it", "", quiet⟩ ∈ (Catalog.ofHistory history).commands := by
    simp [hcommands]
  have hline : "/say\"" ++ " " ++ String.ofList (Line.write (["a b", "", "c\"d"].map String.toList)) =
      "/say\" \"a b\" \"\" c\"d" := by decide +kernel
  have hword : ∀ c ∈ "/say\"".toList, isSpace c = false := by simp [isSpace]
  have hwords : ¬ ∀ c ∈ "/say it".toList, isSpace c = false := by simp [isSpace]
  have hargs : ∀ arg ∈ ["a b", "", "c\"d"], Line.isWritable arg.toList = true := by
    simp [Line.isWritable, isSpace]
  have hcalls := (calls_iff_unbroken history hlead hsay host ()).2 hword _ hargs
  rw [hline] at hcalls
  refine ⟨hlead, hsay, hcalls, hpair, ?_⟩
  intro line args hmem
  exact hwords ((calls_iff_unbroken history hlead hpair host ()).1.1 ⟨line, args, hmem⟩)

end Switchboard

end SlashChat
