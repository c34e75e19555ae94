import SlashChat.Program.Run
import Std.Time.Format
import Std.Time.Zoned

/-!
# The command line

The outer layer of the program: it hands the arguments, the environment, the settings file and the
standard input to `SlashChat.Program`, and puts what comes back on the terminal.  A chat is held
line by line, so that every answer is out before the next line is read.
-/

set_option autoImplicit false

namespace SlashChat.Main

open SlashChat.Program

/-- The least urgent level whose notes are printed. -/
def leastShown : Level := .info

/-- A note as it is printed. -/
def noteLine (note : Note) : IO String := do
  let now := Std.Time.PlainDateTime.ofWallTime
    (Std.Time.WallTime.ofTimestamp (← Std.Time.Timestamp.now) Std.Time.TimeZone.UTC.offset)
  let word := note.level.word
  let margin := String.ofList (List.replicate (5 - word.length) ' ')
  return now.format "uuuu-MM-dd" ++ "T" ++ now.format "HH:mm:ss.SSSSSS" ++ "Z " ++ margin ++ word ++
    " " ++ note.shown

/-- Prints what reaches the terminal. -/
def emit (output : List Output) : IO Unit := do
  for item in output do
    match item with
    | .stamped line =>
      let time := (← Std.Time.PlainTime.now).format "HH:mm:ss"
      IO.println ("[" ++ time ++ "] " ++ line)
    | .plain line => IO.println line
    | .note note => if leastShown.rank ≤ note.level.rank then IO.println (← noteLine note)
  (← IO.getStdout).flush

/-- Prints how the program ends, and gives its exit code. -/
def finish (ending : Ending) : IO UInt32 := do
  emit ending.output
  return ending.exitCode.toUInt32

/-- The number of an error, which may be reported with a minus sign. -/
def errorNumber (code : UInt32) : Nat :=
  if code.toNat < UInt32.size / 2 then code.toNat else UInt32.size - code.toNat

/-- The words of the system for an error. -/
def worded (code : UInt32) (details : String) : String :=
  details.capitalize ++ " (os error " ++ Nat.repr (errorNumber code) ++ ")"

/-- The file error that the system reports. -/
def fileError : IO.Error → FileError
  | .noFileOrDirectory _ _ _ => .missing
  | .inappropriateType _ code details =>
    if errorNumber code = 20 then .notDirectory
    else if errorNumber code = 21 then .isDirectory
    else .other (worded code details)
  | .permissionDenied _ code details => .other (worded code details)
  | .invalidArgument _ code details =>
    if errorNumber code = 36 then .nameTooLong else .other (worded code details)
  | e => .other (toString e)

/-- Runs an action on files. -/
def attempt {α : Type} (action : IO α) : IO (Except FileError α) :=
  tryCatch (Except.ok <$> action) fun e => pure (.error (fileError e))

/-- A source whose key comes from the system. -/
def freshSource : IO Random.Source := do
  let bytes ← IO.getRandomBytes 32
  let byteAt (place : Nat) : UInt32 := (bytes.data.getD place 0).toUInt32
  let word (number : Fin 8) : UInt32 :=
    [3, 2, 1, 0].foldl (fun word offset => (word <<< 8) ||| byteAt (4 * number + offset)) 0
  return { key := Vector.ofFn word }

/-- The environment variables that settings can come from. -/
def readEnvironment : IO Environment := do
  return {
    nickname := ← IO.getEnv "BOT_NICKNAME"
    contact := ← IO.getEnv "BOT_CONTACT"
    lead := ← IO.getEnv "BOT_PREFIX" }

/-- Reads one line from behind `line`, its latest byte first; there is none at the end of the
input. -/
partial def readLine (input : IO.FS.Stream) (line : List UInt8) : IO (Option (List UInt8)) := do
  match (← input.read 1).toList with
  | [] => return if line.isEmpty then none else some line.reverse
  | byte :: _ =>
    if byte = lineFeed then return some (withoutReturn line.reverse)
    else readLine input (byte :: line)

/-- Holds a chat from here on. -/
partial def chat (input : IO.FS.Stream) (session : Session) : IO UInt32 := do
  emit session.console.output.toList
  let session := { session with console := { session.console with output := #[] } }
  match ← readLine input [] with
  | none => finish (closeChat session (.ok ()))
  | some bytes =>
    match Text.decodeUtf8 bytes with
    | .error fault => finish (closeChat session (.error (.io fault.message)))
    | .ok line =>
      match session.step line with
      | .quit => finish (closeChat session (.ok ()))
      | .stay session => chat input session

/-- What the program finds when it starts, with `file` in the place of its settings file, whether
there is something in that place, and `written` as what writing that file came to. -/
def surroundings (file : Except FileError (List UInt8)) (present : Bool)
    (written : Except FileError Unit) : IO Surroundings := do
  return {
    read := fun _ => file
    isPresent := fun _ => present
    canWrite := fun _ => written
    environment := ← readEnvironment
    input := []
    fresh := ← freshSource }

/-- Does what a command line says. -/
def start (arguments : Arguments) : IO UInt32 := do
  let path := arguments.settingsPath
  let file ← attempt (ByteArray.toList <$> IO.FS.readBinFile path)
  -- A path has a real one exactly if it leads somewhere.
  let present := (← attempt (IO.FS.realPath path)).isOk
  match arguments.task with
  | .run =>
    match openChat (← surroundings file present (.ok ())) path arguments.seed with
    | .error ending => finish ending
    | .ok session => chat (← IO.getStdin) session
  | .initConfig =>
    let written ← attempt (IO.FS.writeFile path Settings.standard.toYaml)
    finish (Program.perform (← surroundings file present written) arguments)
  | _ => finish (Program.perform (← surroundings file present (.ok ())) arguments)

end SlashChat.Main

/-- Runs the program. -/
def main (args : List String) : IO UInt32 := do
  match SlashChat.Program.Arguments.parse args with
  | .ok arguments => SlashChat.Main.start arguments
  | .error .helpRequested =>
    IO.println "Usage: fortune-bot [OPTIONS] <COMMAND>"
    return 0
  | .error _ =>
    IO.eprintln "Usage: fortune-bot [OPTIONS] <COMMAND>"
    return SlashChat.Program.usageExit.toUInt32
