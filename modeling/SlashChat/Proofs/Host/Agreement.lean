import SlashChat.Host.Recorder
import SlashChat.Proofs.Host.Console
import SlashChat.World

/-!
# Hosts agree

Notices, messages and lines reach a chat window one after the other (`Switchboard.play`).  Nothing
about the window but the nickname reaches a command, so what a run does can be said without a host:
`Switchboard.script` gives its outcomes, its acts and the state behind it, and a run on any host is
its script with the acts performed there (`play_eq_script`).

So a console agrees with a recording host of the same nickname on every outcome and on the state,
which holds the tellers and how far their sources have been read; it writes the lines of the recorded
calls, and with a writer that fails it still agrees and writes nothing (`play_console_eq_recorder`).
-/

set_option autoImplicit false

namespace SlashChat

/-! ## Runs on any host -/

/-- Something that reaches a chat window. -/
inductive WindowStep
  | display (message : String)
  | send (message : String)
  | line (text : String)

namespace Switchboard

variable {h σ η : Type} [Handles h σ] [Host η]

/-- Plays steps in turn on one host, and collects the outcomes of the lines. -/
def play (board : Switchboard h) (host : η) (state : σ) : List WindowStep → List Outcome × η × σ
  | [] => ([], host, state)
  | .display message :: rest => board.play (Host.receive host (Act.display message)) state rest
  | .send message :: rest => board.play (Host.receive host (Act.send message)) state rest
  | .line text :: rest =>
    let (outcome, host, state) := board.take text host state
    let (outcomes, host, state) := board.play host state rest
    (outcome :: outcomes, host, state)

/-- The outcomes and the acts of steps that are played on a host with the given nickname, and the
state behind them. -/
def script (board : Switchboard h) (nickname : String) (state : σ) :
    List WindowStep → List Outcome × List Act × σ
  | [] => ([], [], state)
  | .display message :: rest =>
    let (outcomes, acts, state) := board.script nickname state rest
    (outcomes, Act.display message :: acts, state)
  | .send message :: rest =>
    let (outcomes, acts, state) := board.script nickname state rest
    (outcomes, Act.send message :: acts, state)
  | .line text :: rest =>
    let response := board.respond nickname text state
    let (outcomes, acts, state) := board.script nickname response.state rest
    (response.outcome :: outcomes, response.acts ++ acts, state)

/-- Playing steps on a host gives the outcomes of their script and performs its acts: the host
decides nothing but the nickname. -/
theorem play_eq_script (board : Switchboard h) (host : η) (state : σ) (steps : List WindowStep) :
    let script := board.script (Host.nickname host) state steps
    board.play host state steps = (script.1, Host.perform host script.2.1, script.2.2) := by
  induction steps generalizing host state with
  | nil => rfl
  | cons step rest ih =>
    intro script
    cases step with
    | display message =>
      have hrest := ih (Host.receive host (Act.display message)) state
      rw [Host.nickname_receive] at hrest
      exact hrest
    | send message =>
      have hrest := ih (Host.receive host (Act.send message)) state
      rw [Host.nickname_receive] at hrest
      exact hrest
    | line text =>
      let response := board.respond (Host.nickname host) text state
      have hrest := ih (Host.perform host response.acts) response.state
      rw [Host.nickname_perform] at hrest
      have hplay : board.play host state (.line text :: rest) =
          (response.outcome ::
              (board.play (Host.perform host response.acts) response.state rest).1,
            (board.play (Host.perform host response.acts) response.state rest).2) := rfl
      rw [hplay, hrest]
      simp only [script, Switchboard.script, Host.perform_append]
      rfl

end Switchboard

/-! ## What a console writes -/

namespace Console

/-- The line of the chat window that an output is, if it is one. -/
def line? : Output → Option String
  | .stamped line => some line
  | .plain _ | .note _ => none

/-- The lines that a console has written, without the time in front of them. -/
def lines (host : Console) : List String := host.output.toList.filterMap line?

/-- The text that a console has written, where the clock showed `clock n` for its line `n`. -/
def written (clock : Nat → String) (host : Console) : String :=
  String.join (host.lines.zipIdx.map fun (line, n) => "[" ++ clock n ++ "] " ++ line ++ "\n")

/-- Notes for the log are no lines, so leaving them out changes none. -/
theorem filterMap_line?_withoutNotes (output : List Output) :
    (withoutNotes output).filterMap line? = output.filterMap line? := by
  induction output with
  | nil => rfl
  | cons item rest ih =>
    cases item with
    | stamped line => exact congrArg (line :: ·) ih
    | plain line => exact ih
    | note note => exact ih

/-- A console that can write adds the line of each call, in order. -/
theorem lines_perform {host : Console} (hwriter : host.writer = .working) (acts : List Act) :
    (Host.perform host acts).lines =
      host.lines ++ (Act.events acts).map (lineOf host.nickname) := by
  have hline : line? ∘ shownAs host.nickname = some ∘ lineOf host.nickname := rfl
  unfold lines
  rw [← filterMap_line?_withoutNotes, (host.perform_shows hwriter acts).1, List.filterMap_append,
    filterMap_line?_withoutNotes, List.filterMap_map, hline, List.filterMap_eq_map]

/-- A console that cannot write adds no line and stays unable to. -/
theorem lines_receive_of_failing {host : Console} {reason : String}
    (hwriter : host.writer = .failing reason) (act : Act) :
    (host.receive act).lines = host.lines ∧ (host.receive act).writer = .failing reason := by
  rcases act with (_ | _) | _
  · simp [receive, writeLine, hwriter, lines, line?]
  · simp [receive, writeLine, log, hwriter, lines, line?]
  · simp [receive, log, hwriter, lines, line?]

/-- A console whose writer fails writes nothing, however many acts it receives. -/
theorem lines_perform_of_failing {host : Console} {reason : String}
    (hwriter : host.writer = .failing reason) (acts : List Act) :
    (Host.perform host acts).lines = host.lines := by
  induction acts generalizing host with
  | nil => rfl
  | cons act acts ih =>
    obtain ⟨hlines, hwriter'⟩ := lines_receive_of_failing hwriter act
    rw [Host.perform_cons]
    exact (ih hwriter').trans hlines

/-- The text of a host call on the console of the user with this nickname. -/
def textOf (nickname time : String) : HostEvent → String
  | .display message => "[" ++ time ++ "] * " ++ message ++ "\n"
  | .send message => "[" ++ time ++ "] <" ++ nickname ++ "> " ++ message ++ "\n"

/-- The written text of a call is its line behind the time and in front of a line break. -/
theorem textOf_eq_lineOf (nickname time : String) (event : HostEvent) :
    "[" ++ time ++ "] " ++ lineOf nickname event ++ "\n" = textOf nickname time event := by
  cases event with
  | display message =>
    have hmark : "] " ++ "* " = "] * " := rfl
    simp only [lineOf, textOf, ← hmark, String.append_assoc]
  | send message =>
    have hmark : "] " ++ "<" = "] <" := rfl
    simp only [lineOf, textOf, ← hmark, String.append_assoc]

/-- What a console has written is determined by its lines and the clock. -/
theorem written_of_lines {host : Console} {nickname : String} {events : List HostEvent}
    (hlines : host.lines = events.map (lineOf nickname)) (clock : Nat → String) :
    host.written clock =
      String.join (events.zipIdx.map fun (event, n) => textOf nickname (clock n) event) := by
  have hzip : host.lines.zipIdx = events.zipIdx.map fun (event, n) => (lineOf nickname event, n) := by
    rw [hlines, List.zipIdx_map]
    rfl
  rw [written, hzip, List.map_map]
  congr 1
  apply List.map_congr_left
  intro ⟨event, n⟩ _
  exact textOf_eq_lineOf nickname (clock n) event

end Console

namespace Switchboard

variable {τ : Type}

/-- Whatever commands there are and whatever they share, steps on a console have the outcomes that
they have on a recording host of the same nickname, and leave the same world: every teller has drawn
as often.  The console writes one line for each call that the other host records, in order.  With a
writer that fails, outcomes and world are still the same, and nothing is written. -/
theorem play_console_eq_recorder (lead : String) (catalog : Catalog (Binding τ)) (world : World τ)
    (nickname contact reason : String) (steps : List WindowStep) (clock : Nat → String) :
    let board : Switchboard (Binding τ) := ⟨lead, catalog⟩
    let recorded := board.play ({ nickname } : Recorder) world steps
    let shown := board.play ({ nickname, contact } : Console) world steps
    let failed :=
      board.play ({ nickname, contact, writer := .failing reason } : Console) world steps
    shown.1 = recorded.1 ∧ shown.2.2 = recorded.2.2 ∧
      shown.2.1.written clock =
        String.join (recorded.2.1.events.toList.zipIdx.map fun (event, n) =>
          match event with
          | .display message => "[" ++ clock n ++ "] * " ++ message ++ "\n"
          | .send message => "[" ++ clock n ++ "] <" ++ nickname ++ "> " ++ message ++ "\n") ∧
      failed.1 = shown.1 ∧ failed.2.2 = shown.2.2 ∧ failed.2.1.written clock = "" := by
  intro board recorded shown failed
  let script := board.script nickname world steps
  have hrecorded : recorded = (script.1, Host.perform _ script.2.1, script.2.2) :=
    board.play_eq_script ({ nickname } : Recorder) world steps
  have hshown : shown = (script.1, Host.perform _ script.2.1, script.2.2) :=
    board.play_eq_script ({ nickname, contact } : Console) world steps
  have hfailed : failed = (script.1, Host.perform _ script.2.1, script.2.2) :=
    board.play_eq_script ({ nickname, contact, writer := .failing reason } : Console) world steps
  have hevents : recorded.2.1.events.toList = Act.events script.2.1 := by
    rw [hrecorded]
    exact Recorder.events_perform { nickname } script.2.1
  have hlines : shown.2.1.lines = recorded.2.1.events.toList.map (Console.lineOf nickname) := by
    rw [hevents, hshown]
    exact Console.lines_perform rfl script.2.1
  have hsilent : failed.2.1.lines = [] := by
    rw [hfailed]
    exact Console.lines_perform_of_failing rfl script.2.1
  refine ⟨?_, ?_, ?_, ?_, ?_, ?_⟩
  · rw [hshown, hrecorded]
  · rw [hshown, hrecorded]
  · rw [Console.written_of_lines hlines]
    rfl
  · rw [hfailed, hshown]
  · rw [hfailed, hshown]
  · rw [Console.written, hsilent]
    rfl

end Switchboard

end SlashChat
