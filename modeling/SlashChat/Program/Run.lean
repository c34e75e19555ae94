import SlashChat.Host.Recorder
import SlashChat.Json
import SlashChat.Program.Arguments
import SlashChat.Program.Display
import SlashChat.Program.Session
import SlashChat.Settings.Yaml
import SlashChat.Text.Utf8

/-!
# The program

What the program does with a command line and with what it finds around it: its exit code, what it
prints and notes in the log, and the file it writes.
-/

set_option autoImplicit false

namespace SlashChat.Program

/-- Whether reading at a path shows that there is something: a file that can be read, or a
directory. -/
def isFound : Except FileError (List UInt8) → Bool
  | .ok _ | .error .isDirectory => true
  | .error _ => false

/-- What the program finds when it starts. -/
structure Surroundings where
  /-- What reading the file at a path gives. -/
  read : String → Except FileError (List UInt8)
  /-- Whether there is something at a path, though it may be nothing that can be read. -/
  isPresent : String → Bool := fun path => isFound (read path)
  /-- Whether the file at a path can be written. -/
  canWrite : String → Except FileError Unit
  environment : Environment
  /-- The standard input. -/
  input : List UInt8
  /-- The source that picks fortunes if there is no seed. -/
  fresh : Random.Source

/-- What the program leaves behind. -/
structure Ending where
  exitCode : Nat
  output : List Output := []
  /-- The file that was written: path and text. -/
  written : Option (String × String) := none
deriving Repr, Inhabited

/-- The exit code of a command line that says nothing. -/
def usageExit : Nat := 2

/-- The notes for the log among what reaches the terminal. -/
def notes (notes : List Note) : List Output := notes.map Output.note

/-- The name and version of the program. -/
def versionLine : String := "fortune-bot v0.1.0"

/-! ## Settings -/

/-- Reads the settings in a file. -/
def loadSettings (read : String → Except FileError (List UInt8)) (path : String) :
    Except LoadFault Settings :=
  match read path with
  | .error e => .error (.unreadable (path ++ ": " ++ e.message))
  | .ok bytes =>
    match Text.ofUtf8? bytes with
    | none => .error (.unreadable (path ++ ": " ++ notText))
    | some text => Settings.ofYaml text

/-- The settings that the program runs with, and the notes on where they come from.  A file that is
not there or is no use leaves the standard settings and the environment. -/
def settingsFor (around : Surroundings) (path : String) : Settings × List Note :=
  if around.isPresent path then
    match loadSettings around.read path with
    | .ok settings => (settings, [])
    | .error fault =>
      (Settings.ofEnvironment around.environment,
        [⟨.warn, "Failed to load config: " ++ fault.toError.message ++ ", using defaults"⟩])
  else (Settings.ofEnvironment around.environment, [])

/-! ## The switchboard -/

/-- A switchboard with the plugins that the settings ask for, and its world. -/
def buildBoard (settings : Settings) (seed : Option UInt64) (fresh : Random.Source) :
    Except BotError (Switchboard (Binding Unit) × World Unit) :=
  let (asked, world) := PluginSet.ofSettings settings seed fresh ({ rest := () } : World Unit)
  match ({} : PluginSet (Binding Unit) (World Unit)).addAll asked.plugins with
  | .error cause => .error cause.toBotError
  | .ok plugins =>
    match plugins.install {} with
    | (catalog, .ok _) => .ok (⟨settings.lead, catalog⟩, world)
    | (_, .error cause) => .error (.command cause)

/-- The notes that building a switchboard leaves. -/
def buildNotes (settings : Settings) (seed : Option UInt64) (fresh : Random.Source) : List Note :=
  let (asked, _) := PluginSet.ofSettings settings seed fresh ({ rest := () } : World Unit)
  PluginSet.ofSettingsNotes settings seed ++
    ({} : PluginSet (Binding Unit) (World Unit)).addAllNotes asked.plugins ++
    asked.installNotes {} ++
    match asked.install {} with
    | (catalog, .ok count) =>
      [⟨.info, "Plugin system initialized with " ++ Nat.repr count ++ " plugins, " ++
        Nat.repr catalog.size ++ " commands"⟩]
    | (_, .error _) => []

/-- The ending of a program that fails. -/
def failure (output : List Output) (cause : BotError) : Ending where
  exitCode := 1
  output := output ++ [.note ⟨.error, cause.message⟩]

/-! ## Tasks -/

/-- What is noted before a chat starts. -/
def openingNotes (settings : Settings) (settingsNotes : List Note) (seed : Option UInt64)
    (fresh : Random.Source) : List Output :=
  notes (settingsNotes ++ [⟨.info, "Starting " ++ settings.botName⟩] ++
    buildNotes settings seed fresh)

/-- The session that a chat starts with, behind the greeting, or the ending of a program that
cannot start one. -/
def openChat (around : Surroundings) (path : String) (seed : Option UInt64) :
    Except Ending Session :=
  let (settings, settingsNotes) := settingsFor around path
  let before := openingNotes settings settingsNotes seed around.fresh
  match buildBoard settings seed around.fresh with
  | .error cause => .error (failure before cause)
  | .ok (board, world) =>
    let console : Console :=
      { nickname := settings.nickname, contact := settings.contact, output := before.toArray }
    let session : Session := { board, console, world }
    .ok (session.perform [Act.display (Session.greeting settings.nickname settings.contact)])

/-- The note that a chat ends with. -/
def closingNote : Note := ⟨.info, "Console session closed"⟩

/-- The ending of a program after its chat. -/
def closeChat (session : Session) : Except BotError Unit → Ending
  | .ok () => { exitCode := 0, output := session.console.output.toList ++ [.note closingNote] }
  | .error cause => failure session.console.output.toList cause

/-- Holds a chat on the console. -/
def runChat (around : Surroundings) (path : String) (seed : Option UInt64) : Ending :=
  match openChat around path seed with
  | .error ending => ending
  | .ok session =>
    let (session, result) := session.runLines (inputLines around.input)
    closeChat session result

/-- A host call as JSON. -/
def eventJson : HostEvent → Json
  | .display message => .record [("kind", .text "display"), ("message", .text message)]
  | .send message => .record [("kind", .text "send"), ("message", .text message)]

/-- Handles one line. -/
def execLine (around : Surroundings) (path : String) (seed : Option UInt64) (line : String)
    (dryRun : Bool) : Ending :=
  let (settings, settingsNotes) := settingsFor around path
  let before := notes (settingsNotes ++ buildNotes settings seed around.fresh)
  match buildBoard settings seed around.fresh with
  | .error cause => failure before cause
  | .ok (board, world) =>
    if dryRun then
      let host : Recorder := { nickname := settings.nickname }
      let (outcome, host, _) := board.take line host world
      let shown := Json.pretty (.list (host.events.toList.map eventJson))
      { exitCode := 0
        output := before ++ notes (host.notes.toList ++ [⟨.debug, "Outcome: " ++ outcome.shown⟩]) ++
          [.plain shown] }
    else
      let console : Console :=
        { nickname := settings.nickname, contact := settings.contact, output := before.toArray }
      let session : Session := { board, console, world }
      { exitCode := 0, output := (session.give line).console.output.toList }

/-- A command's name and help text as JSON. -/
def infoJson (info : Catalog.Info) : Json :=
  .record [("name", .text info.name), ("description", .text info.description)]

/-- Lists the commands. -/
def listCommands (around : Surroundings) (path : String) (json : Bool) : Ending :=
  let (settings, settingsNotes) := settingsFor around path
  let before := notes (settingsNotes ++ buildNotes settings none around.fresh)
  match buildBoard settings none around.fresh with
  | .error cause => failure before cause
  | .ok (board, _) =>
    let lines :=
      if json then [Json.pretty (.list (board.catalog.infos.map infoJson))]
      else "Plugin commands:" :: board.catalog.helpLines
    { exitCode := 0, output := before ++ lines.map Output.plain }

/-- Writes the standard settings to a file. -/
def initConfig (around : Surroundings) (path : String) : Ending :=
  match around.canWrite path with
  | .error e => failure [] (.io e.message)
  | .ok () =>
    { exitCode := 0
      output := [.plain ("Created " ++ path)]
      written := some (path, Settings.standard.toYaml) }

/-- Does what a command line says. -/
def perform (around : Surroundings) (arguments : Arguments) : Ending :=
  let path := arguments.settingsPath
  match arguments.task with
  | .run => runChat around path arguments.seed
  | .exec line dryRun => execLine around path arguments.seed line dryRun
  | .commands json => listCommands around path json
  | .version => { exitCode := 0, output := [.plain versionLine] }
  | .initConfig => initConfig around path

/-- Reads a command line and does what it says. -/
def run (around : Surroundings) (args : List String) : Ending :=
  match Arguments.parse args with
  | .ok arguments => perform around arguments
  | .error .helpRequested => { exitCode := 0 }
  | .error _ => { exitCode := usageExit }

end SlashChat.Program
