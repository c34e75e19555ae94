import SlashChat.Host.Console
import SlashChat.Proofs.Switchboard.Response

/-!
# What a console shows

A console with a working writer shows one line for each host call, in order, and acts change nothing
about it but its output (`perform_shows`).  Notes for the log stand between these lines;
`withoutNotes` leaves them out.  Whatever the writer does, what a console has put out before makes
no difference to what it puts out next (`perform_behind`).
-/

set_option autoImplicit false

namespace SlashChat

/-- What reaches the terminal, the notes for the log aside. -/
def withoutNotes (output : List Output) : List Output :=
  output.filter fun
    | .note _ => false
    | _ => true

/-- Leaving out the notes of two outputs put together leaves them out of both. -/
@[simp]
theorem withoutNotes_append (output more : List Output) :
    withoutNotes (output ++ more) = withoutNotes output ++ withoutNotes more :=
  List.filter_append ..

/-- Of an output that is all notes nothing is left. -/
@[simp]
theorem withoutNotes_map_note (notes : List Note) : withoutNotes (notes.map Output.note) = [] := by
  induction notes with
  | nil => rfl
  | cons note rest ih => exact ih

namespace Console

/-- The line that a host call becomes on the console. -/
def shownAs (nickname : String) (call : HostEvent) : Output := .stamped (lineOf nickname call)

/-- One act shows the line of its call, if it is a call, and nothing if it is a note. -/
theorem receive_shows (host : Console) (hwriter : host.writer = .working) (act : Act) :
    withoutNotes (host.receive act).output.toList =
        withoutNotes host.output.toList ++ (Act.events [act]).map (shownAs host.nickname) ∧
      (host.receive act).writer = .working ∧ (host.receive act).nickname = host.nickname := by
  rcases act with (_ | _) | _
  · simp [receive, writeLine, hwriter, shownAs, withoutNotes]
  · simp [receive, writeLine, log, hwriter, shownAs, withoutNotes]
  · simp [receive, log, hwriter, withoutNotes]

/-- Acts show the lines of their calls behind what was there. -/
theorem perform_shows (host : Console) (hwriter : host.writer = .working) (acts : List Act) :
    withoutNotes (Host.perform host acts).output.toList =
        withoutNotes host.output.toList ++ (Act.events acts).map (shownAs host.nickname) ∧
      (Host.perform host acts).writer = .working ∧
      (Host.perform host acts).nickname = host.nickname := by
  induction acts generalizing host with
  | nil => exact ⟨(List.append_nil _).symm, hwriter, rfl⟩
  | cons act acts ih =>
    obtain ⟨hshown, hwriter', hnickname⟩ := receive_shows host hwriter act
    obtain ⟨hrest, hwriter'', hnickname'⟩ := ih (host.receive act) hwriter'
    have hevents : Act.events (act :: acts) = Act.events [act] ++ Act.events acts :=
      Act.events_append [act] acts
    rw [Host.perform_cons]
    refine ⟨?_, hwriter'', hnickname'.trans hnickname⟩
    calc withoutNotes (Host.perform (host.receive act) acts).output.toList
      _ = withoutNotes (host.receive act).output.toList ++
          (Act.events acts).map (shownAs host.nickname) := by rw [hrest, hnickname]
      _ = withoutNotes host.output.toList ++
          (Act.events (act :: acts)).map (shownAs host.nickname) := by
        rw [hshown, hevents, List.map_append, List.append_assoc]

/-- A console with this output in front of its own. -/
def behind (before : Array Output) (host : Console) : Console :=
  { host with output := before ++ host.output }

/-- A new console with two outputs put together is the one with the second behind the first. -/
theorem mk_append (nickname contact : String) (before output : List Output) :
    ({ nickname, contact, output := (before ++ output).toArray } : Console) =
      Console.behind before.toArray { nickname, contact, output := output.toArray } := by
  simp [behind]

/-- A line is written alike whatever was put out before. -/
theorem writeLine_behind (before : Array Output) (host : Console) (line : String) :
    (host.behind before).writeLine line = (host.writeLine line).behind before := by
  unfold writeLine
  have hwriter : (host.behind before).writer = host.writer := rfl
  rw [hwriter]
  cases host.writer <;> simp [behind]

/-- A note is left alike whatever was put out before. -/
theorem log_behind (before : Array Output) (host : Console) (note : Note) :
    (host.behind before).log note = (host.log note).behind before := by
  simp [log, behind]

/-- An act is received alike whatever was put out before. -/
theorem receive_behind (before : Array Output) (host : Console) (act : Act) :
    (host.behind before).receive act = (host.receive act).behind before := by
  rcases act with (message | message) | note
  · exact writeLine_behind before host _
  · have hlog := log_behind before host ⟨.debug, "Sending to " ++ host.contact ++ ": " ++ message⟩
    exact (congrArg (writeLine · _) hlog).trans (writeLine_behind before _ _)
  · exact log_behind before host note

/-- Acts are performed alike whatever was put out before. -/
theorem perform_behind (before : Array Output) (host : Console) (acts : List Act) :
    Host.perform (host.behind before) acts = (Host.perform host acts).behind before := by
  induction acts generalizing host with
  | nil => rfl
  | cons act acts ih =>
    have hreceive : Host.receive (host.behind before) act = (Host.receive host act).behind before :=
      receive_behind before host act
    rw [Host.perform_cons, Host.perform_cons, hreceive, ih]

end Console

end SlashChat
