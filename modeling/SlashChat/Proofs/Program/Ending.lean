import SlashChat.Proofs.Program.Chat
import SlashChat.Proofs.Program.Heard

/-!
# How the program ends

Two things make a task fail: a settings file that cannot be written, and a chat line that is no text
and stands in front of the first farewell (`Fails`).  Nothing else does: every other task whose
command line is understood ends with exit code 0 (`run_exitCode`).  Settings that cannot be loaded
cost a warning in the log and no more: behind it the program does what it does without a settings
file (`perform_of_fault`), as what a session has put out so far makes no difference to what it goes
on to do (`Session.runLines_behind`).
-/

set_option autoImplicit false

namespace SlashChat.Program

open Text (trimmed)

/-! ## What a session has put out -/

namespace Session

/-- A session with this output in front of its own. -/
def behind (before : Array Output) (session : Session) : Session :=
  { session with console := session.console.behind before }

/-- A session on a console with output in front is that session with the output in front. -/
theorem mk_behind (before : Array Output) (board : Switchboard (Binding Unit)) (console : Console)
    (world : World Unit) :
    (⟨board, console.behind before, world⟩ : Session) =
      Session.behind before ⟨board, console, world⟩ := rfl

/-- Acts do the same whatever was put out before them. -/
theorem perform_behind (before : Array Output) (session : Session) (acts : List Act) :
    (session.behind before).perform acts = (session.perform acts).behind before :=
  congrArg (fun console => { session with console }) (session.console.perform_behind before acts)

/-- A line given to the switchboard does the same whatever was put out before it. -/
theorem give_behind (before : Array Output) (session : Session) (line : String) :
    (session.behind before).give line = (session.give line).behind before := by
  let response := session.board.respond session.console.nickname line session.world
  rw [give_eq, give_eq]
  exact congrArg (fun console => { session with console, world := response.state })
    (session.console.perform_behind before response.delivered)

/-- A line that does not end the session does the same whatever was put out before it. -/
theorem hear_behind (before : Array Output) (session : Session) (line : String) :
    (session.behind before).hear line = (session.hear line).behind before := by
  by_cases hfarewell : trimmed line ∈ farewells
  · rw [hear_of_farewell hfarewell, hear_of_farewell hfarewell]
  by_cases hhelp : trimmed line = "/help"
  · rw [hear_of_help hhelp, hear_of_help hhelp]
    exact perform_behind before session _
  · have horder : trimmed line ∉ orders := by
      simp only [farewells, List.mem_cons, List.not_mem_nil, or_false, not_or] at hfarewell
      simp [orders, hfarewell, hhelp]
    rw [hear_of_not_order horder, hear_of_not_order horder, give_behind]

/-- What a session does about its lines does not depend on what it has put out so far. -/
theorem runLines_behind (before : Array Output) (session : Session) (lines : List (List UInt8)) :
    (session.behind before).runLines lines =
      ((session.runLines lines).1.behind before, (session.runLines lines).2) := by
  induction lines generalizing session with
  | nil => rfl
  | cons line rest ih =>
    cases htext : Text.ofUtf8? line with
    | none => rw [runLines_of_not_text rest _ htext, runLines_of_not_text rest _ htext]
    | some text =>
      by_cases hfarewell : trimmed text ∈ farewells
      · rw [runLines_of_farewell rest _ htext hfarewell,
          runLines_of_farewell rest _ htext hfarewell]
      · rw [runLines_of_text rest _ htext hfarewell, runLines_of_text rest _ htext hfarewell,
          hear_behind, ih]

end Session

/-! ## Settings that cannot be loaded -/

/-- Surroundings without anything at a path. -/
def Surroundings.without (around : Surroundings) (path : String) : Surroundings :=
  { around with
    read := fun other => if other = path then .error .missing else around.read other
    isPresent := fun other => other != path && around.isPresent other }

/-- An ending with this output in front of its own. -/
def Ending.behind (before : List Output) (ending : Ending) : Ending :=
  { ending with output := before ++ ending.output }

section Fault

variable {around : Surroundings} {path : String}

/-- Without a file the settings come from the environment, and nothing is noted. -/
theorem settingsFor_without (around : Surroundings) (path : String) :
    settingsFor (around.without path) path = (Settings.ofEnvironment around.environment, []) := by
  have habsent : (around.without path).isPresent path = false := by
    simp [Surroundings.without]
  rw [settingsFor, habsent]
  rfl

/-- Settings that cannot be loaded come from the environment. -/
theorem settingsFor_of_fault {fault : LoadFault}
    (hload : loadSettings around.read path = .error fault) :
    (settingsFor around path).1 = Settings.ofEnvironment around.environment := by
  rw [settingsFor, hload]
  split <;> rfl

variable {warned : List Note}
  (hsettings : settingsFor around path = (Settings.ofEnvironment around.environment, warned))

/-- Notes put together are put out one part behind the other. -/
theorem notes_append (noted more : List Note) : notes (noted ++ more) = notes noted ++ notes more :=
  List.map_append

include hsettings

/-- Settings that cannot be loaded make a chat open as without a file, behind the warning. -/
theorem openChat_of_fault (seed : Option UInt64) {session : Session}
    (hopen : openChat (around.without path) path seed = .ok session) :
    openChat around path seed = .ok (session.behind (notes warned).toArray) := by
  have hfresh : (around.without path).fresh = around.fresh := rfl
  have hnotes (settings : Settings) : openingNotes settings warned seed around.fresh =
      notes warned ++ openingNotes settings [] seed around.fresh := by
    simp [openingNotes, notes_append]
  simp only [openChat, settingsFor_without, hfresh] at hopen
  simp only [openChat, hsettings, hnotes, Console.mk_append]
  cases hbuild : buildBoard (Settings.ofEnvironment around.environment) seed around.fresh with
  | error cause =>
    rw [hbuild] at hopen
    cases hopen
  | ok built =>
    rw [hbuild] at hopen
    obtain rfl := Except.ok.inj hopen
    rw [← Session.perform_behind, ← Session.mk_behind]

/-- Settings that cannot be loaded make a chat run as without a file, behind the warning. -/
theorem runChat_of_fault (seed : Option UInt64) :
    runChat around path seed =
      (runChat (around.without path) path seed).behind (notes warned) := by
  obtain ⟨board, world, hbuild, -⟩ :=
    buildBoard_eq_ok (settingsFor (around.without path) path).1 seed (around.without path).fresh
  obtain ⟨console, hopen, -⟩ := openChat_eq_ok hbuild
  have hinput : (around.without path).input = around.input := rfl
  simp only [runChat, hopen, openChat_of_fault hsettings seed hopen, Session.runLines_behind,
    hinput]
  cases (Session.runLines ⟨board, console, world⟩ (inputLines around.input)).2 <;>
    simp [closeChat, failure, Ending.behind, Session.behind, Console.behind]

/-- Settings that cannot be loaded make one line run as without a file, behind the warning. -/
theorem execLine_of_fault (seed : Option UInt64) (line : String) (dryRun : Bool) :
    execLine around path seed line dryRun =
      (execLine (around.without path) path seed line dryRun).behind (notes warned) := by
  have hfresh : (around.without path).fresh = around.fresh := rfl
  simp only [execLine, hsettings, settingsFor_without, hfresh]
  cases buildBoard (Settings.ofEnvironment around.environment) seed around.fresh with
  | error cause => simp [Ending.behind, failure, notes_append]
  | ok built =>
    obtain ⟨board, world⟩ := built
    cases dryRun with
    | true => simp [Ending.behind, notes_append]
    | false =>
      simp only [Bool.false_eq_true, if_false, List.nil_append, notes_append, Console.mk_append,
        Session.mk_behind, Session.give_behind]
      simp [Ending.behind, Session.behind, Console.behind]

/-- Settings that cannot be loaded make the listing run as without a file, behind the warning. -/
theorem listCommands_of_fault (json : Bool) :
    listCommands around path json =
      (listCommands (around.without path) path json).behind (notes warned) := by
  have hfresh : (around.without path).fresh = around.fresh := rfl
  simp only [listCommands, hsettings, settingsFor_without, hfresh]
  cases buildBoard (Settings.ofEnvironment around.environment) none around.fresh <;>
    simp [Ending.behind, failure, notes_append]

end Fault

/-- Settings that cannot be loaded cost a warning: behind it the program does what it does without a
settings file. -/
theorem perform_of_fault {around : Surroundings} {arguments : Arguments} {fault : LoadFault}
    (hload : loadSettings around.read arguments.settingsPath = .error fault) :
    ∃ warned : List Note, perform around arguments =
      (perform (around.without arguments.settingsPath) arguments).behind (notes warned) := by
  obtain ⟨path, seed, task⟩ := arguments
  have hsettings : settingsFor around path =
      (Settings.ofEnvironment around.environment, (settingsFor around path).2) :=
    Prod.ext (settingsFor_of_fault hload) rfl
  cases task with
  | run => exact ⟨_, runChat_of_fault hsettings seed⟩
  | exec line dryRun => exact ⟨_, execLine_of_fault hsettings seed line dryRun⟩
  | commands json => exact ⟨_, listCommands_of_fault hsettings json⟩
  | version => exact ⟨[], rfl⟩
  | initConfig => exact ⟨[], rfl⟩

/-! ## Exit codes -/

/-- What makes a task fail. -/
def Fails (around : Surroundings) (arguments : Arguments) : Prop :=
  match arguments.task with
  | .run => ∃ line ∈ openLines around.input, ¬IsText line
  | .initConfig => ∃ cause, around.canWrite arguments.settingsPath = .error cause
  | .exec .. | .commands _ | .version => False

/-- A chat ends with exit code 1 if it comes to a line that is no text, and else with 0. -/
theorem runChat_exitCode (around : Surroundings) (path : String) (seed : Option UInt64) :
    ((∃ line ∈ openLines around.input, ¬IsText line) → (runChat around path seed).exitCode = 1) ∧
      ((∀ line ∈ openLines around.input, IsText line) →
        (runChat around path seed).exitCode = 0) := by
  obtain ⟨board, world, hbuild, -⟩ :=
    buildBoard_eq_ok (settingsFor around path).1 seed around.fresh
  obtain ⟨console, hopen, -⟩ := openChat_eq_ok hbuild
  refine ⟨?_, ?_⟩
  · intro hlines
    obtain ⟨cause, hcause⟩ := Session.runLines_fails hlines ⟨board, console, world⟩
    simp only [runChat, hopen, hcause]
    rfl
  · intro htexts
    have hchat := runChat_eq_heard hopen htexts
    exact congrArg Ending.exitCode hchat

/-- A task ends with exit code 1 if something makes it fail, and else with 0. -/
theorem perform_exitCode (around : Surroundings) (arguments : Arguments) :
    (Fails around arguments → (perform around arguments).exitCode = 1) ∧
      (¬Fails around arguments → (perform around arguments).exitCode = 0) := by
  obtain ⟨path, seed, task⟩ := arguments
  cases task with
  | run =>
    obtain ⟨hfails, hends⟩ := runChat_exitCode around path seed
    refine ⟨hfails, fun hnot => hends ?_⟩
    simpa [Fails] using hnot
  | exec line dryRun =>
    obtain ⟨board, world, hbuild, -⟩ :=
      buildBoard_eq_ok (settingsFor around path).1 seed around.fresh
    refine ⟨False.elim, fun _ => ?_⟩
    cases dryRun with
    | true => exact (execLine_dry line hbuild).1
    | false => exact (execLine_real line hbuild).1
  | commands json =>
    obtain ⟨board, world, hbuild, -⟩ :=
      buildBoard_eq_ok (settingsFor around path).1 none around.fresh
    refine ⟨False.elim, fun _ => ?_⟩
    simp only [perform, listCommands, hbuild]
  | version => exact ⟨False.elim, fun _ => rfl⟩
  | initConfig =>
    simp only [Fails, perform, initConfig]
    cases around.canWrite path with
    | error cause => exact ⟨fun _ => rfl, fun hnot => absurd ⟨cause, rfl⟩ hnot⟩
    | ok _ => exact ⟨fun hfails => by simp at hfails, fun _ => rfl⟩

/-- A command line that is understood ends with exit code 0 unless its task fails, and then with 1.
All settings give a switchboard; those that cannot be loaded, be it that the file cannot be read, is
no text or holds no settings, make the program show and return what it does without the file. -/
theorem run_exitCode (around : Surroundings) (args : List String) {arguments : Arguments}
    (hparse : Arguments.parse args = .ok arguments) :
    let path := arguments.settingsPath
    let ending := run around args
    let bare := run (around.without path) args
    (Fails around arguments → ending.exitCode = 1) ∧
      (¬Fails around arguments → ending.exitCode = 0) ∧
      (∀ settings seed fresh, ∃ board world,
        buildBoard settings seed fresh = .ok (board, world)) ∧
      (∀ fault, loadSettings around.read path = .error fault →
        withoutNotes ending.output = withoutNotes bare.output ∧
          ending.exitCode = bare.exitCode ∧ ending.written = bare.written) := by
  intro path ending bare
  have hending : ending = perform around arguments := by
    show run around args = _
    rw [run, hparse]
  have hbare : bare = perform (around.without path) arguments := by
    show run (around.without path) args = _
    rw [run, hparse]
  obtain ⟨hfails, hends⟩ := perform_exitCode around arguments
  refine ⟨?_, ?_, ?_, ?_⟩
  · rw [hending]
    exact hfails
  · rw [hending]
    exact hends
  · intro settings seed fresh
    obtain ⟨board, world, hbuild, -⟩ := buildBoard_eq_ok settings seed fresh
    exact ⟨board, world, hbuild⟩
  · intro fault hload
    obtain ⟨warned, hwarned⟩ := perform_of_fault hload
    rw [hending, hwarned, ← hbare]
    refine ⟨?_, rfl, rfl⟩
    rw [Ending.behind, withoutNotes_append, withoutNotes_notes, List.nil_append]

/-- Bytes that are no text make a chat fail in front of its farewell and not behind it, and are no
matter as settings. -/
theorem run_exitCode_bytes :
    let around : Surroundings := { Surroundings.bare with
      read := fun _ => .ok [0xFF]
      isPresent := fun _ => true
      input := Text.toUtf8 "hi\n" ++ [0xFF, lineFeed] ++ Text.toUtf8 "/quit\n" }
    let left : Surroundings := { around with
      input := Text.toUtf8 "hi\n/quit\n" ++ [0xFF] }
    let arguments : Arguments := { settingsPath := "config.yaml", seed := none, task := .run }
    Arguments.parse ["run"] = .ok arguments ∧
      Fails around arguments ∧ (run around ["run"]).exitCode = 1 ∧
      ¬Fails left arguments ∧ (run left ["run"]).exitCode = 0 ∧
      (∃ fault, loadSettings left.read "config.yaml" = .error fault) ∧
      withoutNotes (run left ["run"]).output =
        withoutNotes (run (left.without "config.yaml") ["run"]).output := by
  intro around left arguments
  have hparse : Arguments.parse ["run"] = .ok arguments := by rfl
  have hfails : Fails around arguments :=
    ⟨[0xFF], by decide +kernel, by decide +kernel⟩
  have hlines : ∀ line ∈ openLines left.input, IsText line := by decide +kernel
  have hleft : ¬Fails left arguments := fun ⟨line, hmem, hline⟩ => hline (hlines line hmem)
  have hnone : Text.ofUtf8? [0xFF] = none := by decide +kernel
  have hload : ∃ fault, loadSettings left.read "config.yaml" = .error fault := by
    simp only [loadSettings, left, around, hnone]
    exact ⟨_, rfl⟩
  obtain ⟨hone, -⟩ := run_exitCode around ["run"] hparse
  obtain ⟨-, hzero, -, hsame⟩ := run_exitCode left ["run"] hparse
  obtain ⟨fault, hfault⟩ := hload
  exact ⟨hparse, hfails, hone hfails, hleft, hzero hleft, ⟨fault, hfault⟩, (hsame fault hfault).1⟩

end SlashChat.Program
