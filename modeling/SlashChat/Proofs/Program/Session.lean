import SlashChat.Program.Session
import SlashChat.Proofs.Host.Console
import SlashChat.Proofs.Switchboard.Delivery
import SlashChat.Proofs.Text.Utf8

/-!
# Lines of a session

What a session does about one line is what the switchboard does, played on the console, with chat
text sent on (`give_eq`); everything else about the session stays.  Lines that are typed, ended by a
line feed and encoded, come out of the input as they are (`inputLines_of_lines`), and the session
takes them one after the other in their trimmed form (`runLines_of_lines`).  That form does what the
line itself does unless it is chat text with white space around it (`giveAll_trimmed`).
-/

set_option autoImplicit false

namespace SlashChat.Program

open Switchboard (isChat)
open Text (trimmed)

/-! ## Lines of an input -/

/-- Bytes without a line feed belong to the line that has begun. -/
theorem linesFrom_append {bytes : List UInt8} (hbytes : lineFeed ∉ bytes) (line rest : List UInt8) :
    linesFrom line (bytes ++ rest) = linesFrom (line ++ bytes) rest := by
  induction bytes generalizing line with
  | nil => rw [List.nil_append, List.append_nil]
  | cons byte bytes ih =>
    have hbyte : byte ≠ lineFeed := by
      rintro rfl
      exact hbytes List.mem_cons_self
    have hrest : lineFeed ∉ bytes := fun hmem => hbytes (List.mem_cons_of_mem byte hmem)
    rw [List.cons_append, linesFrom, if_neg hbyte, ih hrest, List.append_assoc,
      List.singleton_append]

/-- Nothing is taken from a line without a carriage return. -/
theorem withoutReturn_eq_self {line : List UInt8} (hline : carriageReturn ∉ line) :
    withoutReturn line = line := by
  refine if_neg ?_
  intro hlast
  exact hline (List.mem_of_getLast? hlast)

/-- Lines that are each ended by a line feed come out of the input as they are. -/
theorem inputLines_of_ended {lines : List (List UInt8)}
    (hlines : ∀ line ∈ lines, lineFeed ∉ line ∧ carriageReturn ∉ line) :
    inputLines (lines.flatMap fun line => line ++ [lineFeed]) = lines := by
  unfold inputLines
  induction lines with
  | nil => rfl
  | cons line rest ih =>
    obtain ⟨⟨hfeed, hreturn⟩, hrest⟩ := List.forall_mem_cons.1 hlines
    rw [List.flatMap_cons, List.append_assoc, linesFrom_append hfeed, List.nil_append,
      List.singleton_append, linesFrom, if_pos rfl, withoutReturn_eq_self hreturn, ih hrest]

/-- Typed lines, encoded and each ended by a line feed. -/
def inputOf (lines : List String) : List UInt8 :=
  lines.flatMap fun line => Text.toUtf8 line ++ [lineFeed]

/-- Typed lines come out of the input as their bytes. -/
theorem inputLines_of_lines {lines : List String}
    (hlines : ∀ line ∈ lines, '\n' ∉ line.toList ∧ '\r' ∉ line.toList) :
    inputLines (inputOf lines) = lines.map Text.toUtf8 := by
  have hbytes : ∀ bytes ∈ lines.map Text.toUtf8, lineFeed ∉ bytes ∧ carriageReturn ∉ bytes := by
    intro bytes hmem
    obtain ⟨line, hline, rfl⟩ := List.mem_map.1 hmem
    obtain ⟨hfeed, hreturn⟩ := hlines line hline
    exact ⟨fun hmem => hfeed (Text.char_of_mem_toUtf8 hmem (by decide)),
      fun hmem => hreturn (Text.char_of_mem_toUtf8 hmem (by decide))⟩
  rw [← inputLines_of_ended hbytes, inputOf, List.flatMap_map]

namespace Session

/-! ## One line -/

/-- A given line plays the response of the switchboard on the console and sends chat text on. -/
theorem give_eq (session : Session) (line : String) :
    let response := session.board.respond session.console.nickname line session.world
    session.give line =
      { session with
        console := Host.perform session.console response.delivered
        world := response.state } := by
  intro response
  have hresponse : session.board.respond (Host.nickname session.console) line session.world =
      response := rfl
  simp only [give, Switchboard.take, hresponse]
  rw [Response.delivered, Host.perform_append]
  cases response.outcome <;> rfl

/-- A given line shows its host calls on a working console, and itself if it is chat text. -/
theorem give_shows {session : Session} (hwriter : session.console.writer = .working)
    (line : String) :
    let response := session.board.respond session.console.nickname line session.world
    withoutNotes (session.give line).console.output.toList =
      withoutNotes session.console.output.toList ++
        (Act.events response.acts ++
          if isChat session.board.lead line then [HostEvent.send line] else []).map
          (Console.shownAs session.console.nickname) := by
  intro response
  rw [give_eq, ← Switchboard.events_delivered]
  exact (session.console.perform_shows hwriter response.delivered).1

/-- The lines that a session does not give to its switchboard. -/
def orders : List String := ["/quit", "/exit", "/help"]

/-- A line that is no order is given to the switchboard in its trimmed form. -/
theorem step_of_not_order {line : String} (horder : trimmed line ∉ orders) (session : Session) :
    session.step line = .stay (session.give (trimmed line)) := by
  simp only [orders, List.mem_cons, List.not_mem_nil, or_false, not_or] at horder
  obtain ⟨hquit, hexit, hhelp⟩ := horder
  rw [step, ← trimmed, if_neg (not_or.2 ⟨hquit, hexit⟩), if_neg hhelp]

/-! ## Lines in turn -/

/-- A session after lines that were given to the switchboard as they are. -/
def giveAll (session : Session) (lines : List String) : Session := lines.foldl give session

/-- The first of several lines is given first. -/
theorem giveAll_cons (session : Session) (line : String) (rest : List String) :
    session.giveAll (line :: rest) = (session.give line).giveAll rest := rfl

/-- Lines change nothing about a session but its output and its world. -/
theorem giveAll_keeps {session : Session} (hwriter : session.console.writer = .working)
    (lines : List String) :
    (session.giveAll lines).board = session.board ∧
      (session.giveAll lines).console.writer = .working ∧
      (session.giveAll lines).console.nickname = session.console.nickname := by
  induction lines generalizing session with
  | nil => exact ⟨rfl, hwriter, rfl⟩
  | cons line rest ih =>
    have hgive := give_eq session line
    obtain ⟨-, hwriter', hnickname'⟩ := session.console.perform_shows hwriter
      (session.board.respond session.console.nickname line session.world).delivered
    have hworking : (session.give line).console.writer = .working := by
      rw [hgive]
      exact hwriter'
    obtain ⟨hboard, hwriter'', hnickname''⟩ := ih hworking
    rw [giveAll_cons]
    refine ⟨?_, hwriter'', ?_⟩
    · rw [hboard, hgive]
    · rw [hnickname'', hgive]
      exact hnickname'

/-- Chat text reaches the contact character for character, wherever in a session it is given. -/
theorem giveAll_shows_chat {session : Session} (hwriter : session.console.writer = .working)
    (lines : List String) {line : String} (hchat : isChat session.board.lead line = true) :
    withoutNotes ((session.giveAll lines).give line).console.output.toList =
      withoutNotes (session.giveAll lines).console.output.toList ++
        [Console.shownAs session.console.nickname (.send line)] := by
  obtain ⟨hboard, hwriter', hnickname⟩ := giveAll_keeps hwriter lines
  have hshows := give_shows hwriter' line
  rw [hboard, hnickname] at hshows
  rw [hshows, session.board.respond_of_chat _ _ hchat, hchat]
  rfl

/-- A session gives lines that are no orders, trimmed, to its switchboard in turn. -/
theorem runLines_of_lines {lines : List String} (horders : ∀ line ∈ lines, trimmed line ∉ orders)
    (session : Session) :
    session.runLines (lines.map Text.toUtf8) = (session.giveAll (lines.map trimmed), .ok ()) := by
  induction lines generalizing session with
  | nil => rfl
  | cons line rest ih =>
    obtain ⟨horder, hrest⟩ := List.forall_mem_cons.1 horders
    have hstep := step_of_not_order horder session
    rw [List.map_cons, List.map_cons, runLines, Text.decodeUtf8_toUtf8]
    simp only [hstep, giveAll_cons]
    exact ih hrest _

/-- Trimmed lines do what the lines do if no chat text has white space around it. -/
theorem giveAll_trimmed {lead : String} {lines : List String}
    (hlines : ∀ line ∈ lines, isChat lead (trimmed line) = true → trimmed line = line)
    (session : Session) (hlead : session.board.lead = lead) :
    session.giveAll (lines.map trimmed) = session.giveAll lines := by
  induction lines generalizing session with
  | nil => rfl
  | cons line rest ih =>
    obtain ⟨hline, hrest⟩ := List.forall_mem_cons.1 hlines
    have hgive : session.give (trimmed line) = session.give line := by
      rw [give_eq, give_eq]
      rw [session.board.respond_trimmed session.console.nickname line session.world
        (hlead ▸ hline)]
    have hlead' : (session.give line).board.lead = lead := by
      rw [give_eq]
      exact hlead
    rw [List.map_cons, giveAll_cons, giveAll_cons, hgive]
    exact ih hrest (session.give line) hlead'

end Session

end SlashChat.Program
