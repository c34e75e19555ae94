import SlashChat.Proofs.Program.Exec

/-!
# A chat beside its lines

A chat always opens and shows its greeting first (`openChat_eq_ok`).  Behind the greeting it does
what its lines do in their trimmed form, one after the other on one switchboard, and the way in which
a session gives a line to the switchboard is that of handling the line alone.  So a chat sends every
chat text on without the white space around it; where there is none, it does exactly what the typed
lines do (`runChat_eq_giveAll`), and else it need not (`not_forall_runChat_eq_giveAll`).
-/

set_option autoImplicit false

namespace SlashChat.Program

open Switchboard (isChat)
open Text (trimmed)

section Opening

variable {around : Surroundings} {path : String} {seed : Option UInt64}
  {board : Switchboard (Binding Unit)} {world : World Unit}

/-- A chat opens with a working console on which only the greeting shows. -/
theorem openChat_eq_ok
    (hbuild : buildBoard (settingsFor around path).1 seed around.fresh = .ok (board, world)) :
    let settings := (settingsFor around path).1
    ∃ console : Console, openChat around path seed = .ok ⟨board, console, world⟩ ∧
      console.writer = .working ∧ console.nickname = settings.nickname ∧
      withoutNotes console.output.toList =
        [.stamped ("* " ++ Session.greeting settings.nickname settings.contact)] := by
  intro settings
  let before := openingNotes settings (settingsFor around path).2 seed around.fresh
  let console : Console :=
    { nickname := settings.nickname, contact := settings.contact, output := before.toArray }
  let greeting := Act.display (Session.greeting settings.nickname settings.contact)
  have hopen : openChat around path seed =
      .ok ⟨board, Host.perform console [greeting], world⟩ := by
    simp only [openChat, hbuild]
    rfl
  obtain ⟨hshown, hwriter, hnickname⟩ := console.perform_shows rfl [greeting]
  refine ⟨_, hopen, hwriter, hnickname, ?_⟩
  have hbefore : withoutNotes console.output.toList = [] := by
    show withoutNotes before.toArray.toList = []
    exact withoutNotes_notes _
  rw [hshown, hbefore]
  rfl

/-- A session whose chat has just begun does about a line what handling the line alone does. -/
theorem give_shows_execLine {console : Console} (hwriter : console.writer = .working)
    (hnickname : console.nickname = (settingsFor around path).1.nickname)
    (hbuild : buildBoard (settingsFor around path).1 seed around.fresh = .ok (board, world))
    (line : String) :
    let session : Session := ⟨board, console, world⟩
    withoutNotes (session.give line).console.output.toList =
      withoutNotes console.output.toList ++
        withoutNotes (execLine around path seed line false).output := by
  intro session
  obtain ⟨-, hreal⟩ := execLine_real line hbuild
  rw [hreal, ← hnickname]
  exact Session.give_shows hwriter line

end Opening

/-- A chat that is given lines and no orders gives each of them, trimmed, to its switchboard. -/
theorem runChat_of_open {around : Surroundings} {path : String} {seed : Option UInt64}
    {session : Session} (hopen : openChat around path seed = .ok session) {lines : List String}
    (hlines : ∀ line ∈ lines, '\n' ∉ line.toList ∧ '\r' ∉ line.toList)
    (horders : ∀ line ∈ lines, trimmed line ∉ Session.orders) :
    runChat { around with input := inputOf lines } path seed =
      closeChat (session.giveAll (lines.map trimmed)) (.ok ()) := by
  have hopen' : openChat { around with input := inputOf lines } path seed = .ok session := hopen
  simp only [runChat, hopen', inputLines_of_lines hlines, Session.runLines_of_lines horders]

/-- A chat greets, and then does what its lines do in their trimmed form when they are given to one
switchboard in turn, each as if it were handled alone.  It does what the lines do as they were typed
if no chat text has white space around it. -/
theorem runChat_eq_giveAll (around : Surroundings) (path : String) (seed : Option UInt64)
    (lines : List String) (hlines : ∀ line ∈ lines, '\n' ∉ line.toList ∧ '\r' ∉ line.toList)
    (horders : ∀ line ∈ lines, trimmed line ∉ ["/quit", "/exit", "/help"]) :
    let settings := (settingsFor around path).1
    let ending := runChat { around with input := inputOf lines } path seed
    ∃ session, openChat around path seed = .ok session ∧
      withoutNotes session.console.output.toList =
        [.stamped ("* " ++ Session.greeting settings.nickname settings.contact)] ∧
      (∀ line, withoutNotes (session.give line).console.output.toList =
        withoutNotes session.console.output.toList ++
          withoutNotes (execLine around path seed line false).output) ∧
      (∀ before line, isChat settings.lead line = true →
        withoutNotes ((session.giveAll before).give line).console.output.toList =
          withoutNotes (session.giveAll before).console.output.toList ++
            [.stamped ("<" ++ settings.nickname ++ "> " ++ line)]) ∧
      ending.exitCode = 0 ∧
      ending.output =
        (session.giveAll (lines.map trimmed)).console.output.toList ++ [.note closingNote] ∧
      ((∀ line ∈ lines, isChat settings.lead (trimmed line) = true → trimmed line = line) →
        ending.output =
          (session.giveAll lines).console.output.toList ++ [.note closingNote]) := by
  intro settings ending
  obtain ⟨board, world, hbuild, hlead⟩ := buildBoard_eq_ok settings seed around.fresh
  obtain ⟨console, hopen, hwriter, hnickname, hgreeting⟩ := openChat_eq_ok hbuild
  have hending : ending = _ := runChat_of_open hopen hlines horders
  refine ⟨_, hopen, hgreeting, give_shows_execLine hwriter hnickname hbuild, ?_, ?_, ?_, ?_⟩
  · intro before line hchat
    rw [Session.giveAll_shows_chat hwriter before (hlead ▸ hchat), hnickname]
    rfl
  · rw [hending]
    rfl
  · rw [hending]
    rfl
  · intro hchat
    rw [hending, Session.giveAll_trimmed hchat _ hlead]
    rfl

/-- White space around a command is no white space around a chat text. -/
theorem runChat_hello :
    let lines := ["hello", " /nope \u3000", ""]
    (∀ line ∈ lines, '\n' ∉ line.toList ∧ '\r' ∉ line.toList) ∧
      (∀ line ∈ lines, trimmed line ∉ ["/quit", "/exit", "/help"]) ∧
      (∀ line ∈ lines, isChat "/" (trimmed line) = true → trimmed line = line) ∧
      ∃ session, openChat .bare "config.yaml" none = .ok session ∧
        (runChat { Surroundings.bare with input := inputOf lines } "config.yaml" none).output =
          (session.giveAll lines).console.output.toList ++ [.note closingNote] := by
  intro lines
  have hlines : ∀ line ∈ lines, '\n' ∉ line.toList ∧ '\r' ∉ line.toList := by decide
  have horders : ∀ line ∈ lines, trimmed line ∉ ["/quit", "/exit", "/help"] := by decide +kernel
  have hchat : ∀ line ∈ lines, isChat "/" (trimmed line) = true → trimmed line = line := by
    decide +kernel
  obtain ⟨session, hopen, -, -, -, -, -, houtput⟩ :=
    runChat_eq_giveAll .bare "config.yaml" none lines hlines horders
  exact ⟨hlines, horders, hchat, session, hopen, houtput hchat⟩

/-- A chat sends ` hello` on without its blank. -/
theorem not_forall_runChat_eq_giveAll :
    ¬ ∀ (around : Surroundings) (path : String) (seed : Option UInt64) (lines : List String),
      (∀ line ∈ lines, '\n' ∉ line.toList ∧ '\r' ∉ line.toList) →
      (∀ line ∈ lines, trimmed line ∉ ["/quit", "/exit", "/help"]) →
      ∀ session, openChat around path seed = .ok session →
        withoutNotes (runChat { around with input := inputOf lines } path seed).output =
          withoutNotes (session.giveAll lines).console.output.toList := by
  intro hall
  have hrun : withoutNotes
      (runChat { Surroundings.bare with input := inputOf [" hello"] } "config.yaml" none).output =
        [.stamped "* Chatting with friend as toxic. /help lists commands, /quit exits.",
          .stamped "<toxic> hello"] := by decide +kernel
  have hgive : ((openChat .bare "config.yaml" none).toOption.map fun session =>
      withoutNotes (session.giveAll [" hello"]).console.output.toList) =
        some [.stamped "* Chatting with friend as toxic. /help lists commands, /quit exits.",
          .stamped "<toxic>  hello"] := by decide +kernel
  cases hopen : openChat .bare "config.yaml" none with
  | error ending =>
    rw [hopen] at hgive
    cases hgive
  | ok session =>
    have hsame := hall .bare "config.yaml" none [" hello"] (by decide) (by decide +kernel)
      session hopen
    rw [hopen] at hgive
    have hgiven := Option.some.inj hgive
    rw [hrun] at hsame
    exact absurd (hsame.trans hgiven) (by decide)

end SlashChat.Program
