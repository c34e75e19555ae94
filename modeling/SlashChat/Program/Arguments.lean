import SlashChat.Text.Digits

/-!
# Command-line arguments

The options in front of the task, the task, and the options and texts that belong to it.  An option
takes its value from behind an equals sign or from the next argument, a short one also from the
same argument.  An argument that looks like an option is never a value, unless a double dash stands
in front of it.

Arguments are read from left to right, and the first that is wrong or asks for help decides.  Only a
value that is an argument of its own is looked at late: when the next option comes, or behind the
task if none does.
-/

set_option autoImplicit false

namespace SlashChat.Program

/-- What the program is asked to do. -/
inductive Task
  /-- Hold a chat on the console. -/
  | run
  /-- Handle one line; on a dry run show the host calls instead of making them. -/
  | exec (line : String) (dryRun : Bool)
  /-- List the commands. -/
  | commands (json : Bool)
  /-- Show the version. -/
  | version
  /-- Write the standard settings to the settings file. -/
  | initConfig
deriving DecidableEq, Repr, Inhabited

/-- What the command line says. -/
structure Arguments where
  settingsPath : String
  seed : Option UInt64
  task : Task
deriving DecidableEq, Repr, Inhabited

/-- Why a command line says nothing. -/
inductive UsageError
  | missingTask
  | unknownTask (name : String)
  | unexpectedArgument (arg : String)
  | missingValue (option : String)
  | invalidValue (value option : String)
  | repeated (option : String)
  | missingLine
  /-- The user asked how the program is used. -/
  | helpRequested
deriving DecidableEq, Repr, Inhabited

namespace Arguments

/-- The settings file if the command line names none. -/
def standardPath : String := "config.yaml"

/-- The options in front of the task, as far as they have been read. -/
structure Options where
  settingsPath : Option String := none
  seed : Option UInt64 := none
  /-- The letter and the value of an option that has not been looked at yet. -/
  waiting : Option (Char × List Char) := none
deriving DecidableEq, Repr, Inhabited

/-- Whether an argument looks like an option, which no value does. -/
def looksLikeOption (arg : List Char) : Bool :=
  match arg with
  | '-' :: _ :: _ => true
  | _ => false

/-- The seed that a text denotes: digits, behind a plus sign or not, that fit 64 bits. -/
def seedOf (text : List Char) : Option UInt64 :=
  let digits := match text with
    | '+' :: rest => rest
    | _ => text
  ((Text.natural? 10 digits).filter (· < UInt64.size)).map Nat.toUInt64

/-- Sets the option that a letter stands for. -/
def setOption (options : Options) (letter : Char) (value : List Char) :
    Except UsageError Options :=
  if letter == 'c' then
    match options.settingsPath with
    | some _ => .error (.repeated "--config")
    | none => .ok { options with settingsPath := some (String.ofList value) }
  else
    match options.seed with
    | some _ => .error (.repeated "--seed")
    | none =>
      match seedOf value with
      | some seed => .ok { options with seed := some seed }
      | none => .error (.invalidValue (String.ofList value) "--seed")

/-- Sets the option that waits, if there is one. -/
def settle (options : Options) : Except UsageError Options :=
  match options.waiting with
  | none => .ok options
  | some (letter, value) => setOption { options with waiting := none } letter value

/-- What an argument in front of the task is. -/
inductive Lead
  /-- An option, and its value if the argument holds it. -/
  | option (letter : Char) (value : Option (List Char))
  | help
  | unexpected
  /-- The name of a task. -/
  | task
deriving DecidableEq, Repr, Inhabited

/-- What an argument in front of the task is. -/
def leadOf (arg : List Char) : Lead :=
  match arg with
  | '-' :: '-' :: long =>
    let name := String.ofList (long.takeWhile (· != '='))
    let value := match long.dropWhile (· != '=') with
      | _ :: value => some value
      | [] => none
    if name == "config" then .option 'c' value
    else if name == "seed" then .option 's' value
    else if name == "help" && value.isNone then .help
    else .unexpected
  | '-' :: letter :: attached =>
    let value := match attached with
      | [] => none
      | '=' :: value => some value
      | _ => some attached
    if letter == 'c' || letter == 's' then .option letter value
    else if letter == 'h' then .help
    else .unexpected
  | _ => .task

/-- Reads the options in front of the task, and leaves the task and what belongs to it. -/
def readOptions (options : Options) : List String → Except UsageError (Options × List String)
  | [] => .error .missingTask
  | arg :: rest =>
    match leadOf arg.toList with
    | .task => .ok (options, arg :: rest)
    | .unexpected => .error (.unexpectedArgument arg)
    | .help =>
      match settle options with
      | .ok _ => .error .helpRequested
      | .error e => .error e
    | .option letter attached =>
      match settle options with
      | .error e => .error e
      | .ok options =>
        match attached, rest with
        | some value, rest =>
          match setOption options letter value with
          | .ok options => readOptions options rest
          | .error e => .error e
        | none, [] => .error (.missingValue arg)
        | none, value :: rest =>
          if looksLikeOption value.toList then .error (.missingValue arg)
          else readOptions { options with waiting := some (letter, value.toList) } rest

/-- Adds a text that belongs to a task with room for so many. -/
def addText (room : Nat) (texts : List String) (arg : String) : Except UsageError (List String) :=
  if texts.length < room then .ok (texts ++ [arg]) else .error (.unexpectedArgument arg)

/-- Reads what belongs to a task: texts, as many as it has room for, and one flag that may stand
once.  Behind a double dash everything is a text. -/
def readRest (flag : Option String) (room : Nat) (set : Bool) (texts : List String) :
    List String → Except UsageError (List String × Bool)
  | [] => .ok (texts, set)
  | arg :: rest =>
    if arg == "--" then (rest.foldlM (addText room) texts).map fun texts => (texts, set)
    else if flag == some arg then
      if set then .error (.repeated arg) else readRest flag room true texts rest
    else if arg == "--help" || arg.toList.take 2 == ['-', 'h'] then .error .helpRequested
    else if looksLikeOption arg.toList then .error (.unexpectedArgument arg)
    else
      match addText room texts arg with
      | .ok texts => readRest flag room set texts rest
      | .error e => .error e

/-- Reads a task that takes no texts and maybe a flag. -/
def readBare (flag : Option String) (rest : List String) : Except UsageError Bool :=
  (readRest flag 0 false [] rest).map Prod.snd

/-- The names of the tasks, and of the request for help. -/
def taskNames : List String := ["run", "exec", "commands", "version", "init-config", "help"]

/-- What comes of a request for help on some task.  Tasks have no parts, so there is help on at most
one name. -/
def helpOn : List String → UsageError
  | [] => .helpRequested
  | name :: rest =>
    if !taskNames.contains name then .unknownTask name
    else
      match rest with
      | [] => .helpRequested
      | part :: _ => .unknownTask part

/-- Reads a task. -/
def readTask (name : String) (rest : List String) : Except UsageError Task := do
  if name == "run" then
    let _ ← readBare none rest
    return .run
  else if name == "exec" then
    match ← readRest (some "--dry-run") 1 false [] rest with
    | (line :: _, dryRun) => return .exec line dryRun
    | ([], _) => throw .missingLine
  else if name == "commands" then return .commands (← readBare (some "--json") rest)
  else if name == "version" then
    let _ ← readBare none rest
    return .version
  else if name == "init-config" then
    let _ ← readBare none rest
    return .initConfig
  else if name == "help" then throw (helpOn rest)
  else throw (.unknownTask name)

/-- Reads a command line. -/
def parse (args : List String) : Except UsageError Arguments := do
  match ← readOptions {} args with
  | (_, []) => throw .missingTask
  | (options, name :: rest) =>
    let task ← readTask name rest
    let options ← settle options
    return { settingsPath := options.settingsPath.getD standardPath, seed := options.seed, task }

end Arguments

end SlashChat.Program
