import SlashChat.Settings
import SlashChat.Text.Quoted
import SlashChat.Yaml.Node
import SlashChat.Yaml.Value

/-!
# Settings in a document

Which documents describe settings.  A section is a mapping whose keys are read in order; keys that
the section does not know are passed over with their values, and a key that it knows may come once.
The first problem in the order of the document is the one that is reported, and what is missing is
missed at the end of a section.

`Settings.ofDocument` is the reader.  It looks at the node tree alone, so how the tree was written
down makes no difference.  Where the tree breaks off the reading ends with a problem, so a problem
in front of that place is reported and one behind it is not.
-/

set_option autoImplicit false

namespace SlashChat

open Yaml (Document Node ScalarStyle Value)

/-- One step from a section to what it holds: a key, or a key whose text is not at hand. -/
inductive PathStep
  | key (text : String)
  | unknown
deriving DecidableEq, Repr, Inhabited

/-- Where in a document something stands, from the root on. -/
abbrev SettingsPath := List PathStep

/-- What was found in place of something else. -/
inductive Found
  | value (value : Value)
  | sequence
  | mapping
deriving DecidableEq, Repr, Inhabited

/-- What is wrong with a document. -/
inductive SettingsProblem
  | missingField (name : String)
  | duplicateField (name : String)
  | invalidType (found : Found) (expected : String)
  | invalidValue (text expected : String)
  /-- The text breaks off before the document is complete. -/
  | brokenOff
deriving DecidableEq, Repr, Inhabited

/-- What is wrong with a document, and where. -/
structure SchemaError where
  path : SettingsPath
  problem : SettingsProblem
deriving DecidableEq, Repr, Inhabited

namespace Settings

/-! ## Wording -/

/-- The word for a step of a path. -/
def stepText : PathStep → String
  | .key text => text
  | .unknown => "?"

/-- The range in which a whole number needs no remark on its width. -/
def isNarrow (n : Int) : Bool := Int64.minValue.toInt ≤ n && n < UInt64.size

/-- The words for a whole number. -/
def integerText (n : Int) : String :=
  let digits := if n < 0 then "-" ++ Nat.repr n.natAbs else Nat.repr n.natAbs
  let quoted := "integer `" ++ digits ++ "`"
  if isNarrow n then quoted else if n < 0 then quoted ++ " as i128" else quoted ++ " as u128"

/-- The words for what was found. -/
def foundText : Found → String
  | .value .null => "unit value"
  | .value (.boolean b) => "boolean `" ++ (if b then "true" else "false") ++ "`"
  | .value (.integer n) => integerText n
  | .value (.float x) => "floating point `" ++ x.text ++ "`"
  | .value (.text text) => "string " ++ Text.quote text
  | .sequence => "sequence"
  | .mapping => "map"

/-- The words for a problem. -/
def problemText : SettingsProblem → String
  | .missingField name => "missing field `" ++ name ++ "`"
  | .duplicateField name => "duplicate field `" ++ name ++ "`"
  | .invalidType found expected => "invalid type: " ++ foundText found ++ ", expected " ++ expected
  | .invalidValue text expected =>
    "invalid value: string " ++ Text.quote text ++ ", expected " ++ expected
  | .brokenOff => "the document breaks off"

end Settings

/-- The words for a problem and its place. -/
def SchemaError.detail (e : SchemaError) : String :=
  let place := String.intercalate "." (e.path.map Settings.stepText)
  (if e.path.isEmpty then "" else place ++ ": ") ++ Settings.problemText e.problem

namespace Settings

/-! ## Scalars -/

/-- The tag of the type of this name in YAML's own vocabulary. -/
def standardTag (name : String) : String := "tag:yaml.org,2002:" ++ name

/-- What a scalar is found to be, or why it is not what its tag says. -/
def found (tag : Option String) (style : ScalarStyle) (text : String) :
    Except SettingsProblem Found :=
  let asPlain : Except SettingsProblem Found := .ok (.value (Value.ofPlain text))
  let asText : Except SettingsProblem Found := .ok (.value (.text text))
  match tag with
  | none => if style = .plain then asPlain else asText
  | some tag =>
    if tag = standardTag "bool" then
      match Value.boolean? text with
      | some b => .ok (.value (.boolean b))
      | none => .error (.invalidValue text "a boolean")
    else if tag = standardTag "int" then
      match Value.integer? text.toList with
      | some n => .ok (.value (.integer n))
      | none => .error (.invalidValue text "an integer")
    else if tag = standardTag "float" then
      match Value.float? text.toList with
      | some x => .ok (.value (.float x))
      | none => .error (.invalidValue text "a float")
    else if tag = standardTag "null" then
      if Value.isNull text then .ok (.value .null) else .error (.invalidValue text "null")
    else if tag.toList.head? = some '!' ∧ style = .plain then asPlain
    else asText

/-- The problem with a node that should be something else. -/
def mismatch (node : Node) (expected : String) : SettingsProblem :=
  match node with
  | .scalar tag style text =>
    match found tag style text with
    | .ok found => .invalidType found expected
    | .error problem => problem
  | .sequence _ => .invalidType .sequence expected
  | .mapping _ => .invalidType .mapping expected
  | .alias _ => .invalidType (.value .null) expected
  | .cut => .brokenOff

/-- Whether the text of a scalar is looked at for a value of the type with this name: a plain
scalar's always is, and a literal one's if its tag says so. -/
def isBare (name : String) (tag : Option String) (style : ScalarStyle) : Bool :=
  style == .plain || (style == .literal && tag == some (standardTag name))

/-- Reads a text: what any scalar says. -/
def readText (document : Document) (path : SettingsPath) (node : Node) :
    Except SchemaError String :=
  match document.resolve node with
  | .scalar _ _ text => .ok text
  | node => .error ⟨path, mismatch node "a string"⟩

/-- Reads a truth value. -/
def readBoolean (document : Document) (path : SettingsPath) (node : Node) :
    Except SchemaError Bool :=
  let node := document.resolve node
  let problem := mismatch node "a boolean"
  match node with
  | .scalar tag style text =>
    match if isBare "bool" tag style then Value.boolean? text else none with
    | some b => .ok b
    | none => .error ⟨path, problem⟩
  | _ => .error ⟨path, problem⟩

/-- Whether a scalar says that there is no seed.  One whose tag says so has to be a word for
nothing. -/
def isAbsent (tag : Option String) (style : ScalarStyle) (text : String) :
    Except SettingsProblem Bool :=
  if style ≠ .plain then .ok false
  else
    match tag with
    | none => .ok (text == "" || Value.isNull text)
    | some tag =>
      if tag = standardTag "null" then
        if Value.isNull text then .ok true else .error (.invalidValue text "null")
      else .ok false

/-- Reads a seed, or that there is none.  A wrong word for nothing is a problem of the section that
holds the seed. -/
def readSeed (document : Document) (section_ path : SettingsPath) (node : Node) :
    Except SchemaError (Option UInt64) :=
  let node := document.resolve node
  let problem := mismatch node "u64"
  match node with
  | .scalar tag style text =>
    match isAbsent tag style text with
    | .error problem => .error ⟨section_, problem⟩
    | .ok true => .ok none
    | .ok false =>
      match if isBare "int" tag style then Value.seed? text else none with
      | some seed => .ok (some seed)
      | none => .error ⟨path, problem⟩
  | _ => .error ⟨path, problem⟩

/-! ## Sections -/

/-- Reads the text of a key. -/
def readKey (document : Document) (path : SettingsPath) (node : Node) :
    Except SchemaError String :=
  match document.resolve node with
  | .scalar _ _ text => .ok text
  | node => .error ⟨path, mismatch node "field identifier"⟩

/-- The step to the value of a key; an alias hides the key's text. -/
def stepOf : Node → PathStep
  | .scalar _ _ text => .key text
  | _ => .unknown

/-- Fills in a field, which may be filled in once. -/
def once {α : Type} (path : SettingsPath) (name : String) (field : Option α)
    (value : Except SchemaError α) : Except SchemaError (Option α) :=
  match field with
  | some _ => .error ⟨path, .duplicateField name⟩
  | none => value.map some

/-- Passes over the value of a key that the section does not know. -/
def passOver {δ : Type} (path : SettingsPath) (value : Node) (draft : δ) : Except SchemaError δ :=
  if value.isWhole then .ok draft else .error ⟨path, .brokenOff⟩

/-- A field that has to be filled in. -/
def require {α : Type} (path : SettingsPath) (name : String) : Option α → Except SchemaError α
  | some value => .ok value
  | none => .error ⟨path, .missingField name⟩

/-- Reads the entries of a section in order, `put` each into a draft. -/
def readEntries {δ : Type} (document : Document) (path : SettingsPath)
    (put : SettingsPath → String → Node → δ → Except SchemaError δ) :
    List (Node × Node) → δ → Except SchemaError δ
  | [], draft => .ok draft
  | (key, value) :: rest, draft => do
    let name ← readKey document path key
    let draft ← put (path ++ [stepOf key]) name value draft
    readEntries document path put rest draft

/-- Reads a section: a mapping, or nothing at all, which is a mapping without entries. -/
def readSection {δ : Type} (document : Document) (path : SettingsPath) (expected : String)
    (put : SettingsPath → String → Node → δ → Except SchemaError δ) (draft : δ) (node : Node) :
    Except SchemaError δ :=
  match document.resolve node with
  | .mapping entries => readEntries document path put entries draft
  | .scalar tag style text =>
    if style = .plain ∧ text = "" then .ok draft
    else .error ⟨path, mismatch (.scalar tag style text) expected⟩
  | node => .error ⟨path, mismatch node expected⟩

/-- The two texts of a section that holds two, as far as they have been read. -/
structure TextPair where
  first : Option String := none
  second : Option String := none
deriving DecidableEq, Repr, Inhabited

/-- Reads a section of two texts, known by these names. -/
def readPair (document : Document) (expected first second : String) (path : SettingsPath)
    (node : Node) : Except SchemaError (String × String) := do
  let put (inner : SettingsPath) (name : String) (value : Node) (pair : TextPair) :
      Except SchemaError TextPair :=
    if name = first then do
      return { pair with first := ← once path name pair.first (readText document inner value) }
    else if name = second then do
      return { pair with second := ← once path name pair.second (readText document inner value) }
    else passOver inner value pair
  let pair ← readSection document path expected put {} node
  return (← require path first pair.first, ← require path second pair.second)

/-- Reads the section on the bot: its name and the lead of its commands. -/
def readBot (document : Document) : SettingsPath → Node → Except SchemaError (String × String) :=
  readPair document "struct BotConfig" "name" "prefix"

/-- Reads the section on the host: nickname and contact. -/
def readHost (document : Document) : SettingsPath → Node → Except SchemaError (String × String) :=
  readPair document "struct HostConfig" "nickname" "contact"

/-- Reads a section of one field, known by this name. -/
def readSingle {α : Type} (document : Document) (expected field : String)
    (read : SettingsPath → Node → Except SchemaError α) (path : SettingsPath) (node : Node) :
    Except SchemaError (Option α) :=
  let put (inner : SettingsPath) (name : String) (value : Node) (draft : Option α) :
      Except SchemaError (Option α) :=
    if name = field then once path name draft (read inner value) else passOver inner value draft
  readSection document path expected put none node

/-- Reads the section on fortunes: whether they are told. -/
def readFortune (document : Document) (path : SettingsPath) (node : Node) :
    Except SchemaError Bool := do
  let enabled ←
    readSingle document "struct FortunePluginConfig" "enabled" (readBoolean document) path node
  require path "enabled" enabled

/-- Reads the section on plugins: whether fortunes are told, which they are unless it says. -/
def readPlugins (document : Document) (path : SettingsPath) (node : Node) :
    Except SchemaError Bool := do
  let fortune ←
    readSingle document "struct PluginsConfig" "fortune" (readFortune document) path node
  return fortune.getD true

/-- Reads the section on randomness: the seed, of which there is none unless it says. -/
def readRandom (document : Document) (path : SettingsPath) (node : Node) :
    Except SchemaError (Option UInt64) := do
  let seed ←
    readSingle document "struct RandomConfig" "seed" (readSeed document path) path node
  return seed.getD none

/-- The sections of a document, as far as they have been read. -/
structure Sections where
  bot : Option (String × String) := none
  host : Option (String × String) := none
  plugins : Option Bool := none
  random : Option (Option UInt64) := none
deriving DecidableEq, Repr, Inhabited

/-- Reads an entry of the root. -/
def putSection (document : Document) (path : SettingsPath) (name : String) (value : Node)
    (sections : Sections) : Except SchemaError Sections :=
  if name = "bot" then do
    return { sections with bot := ← once [] name sections.bot (readBot document path value) }
  else if name = "host" then do
    return { sections with host := ← once [] name sections.host (readHost document path value) }
  else if name = "plugins" then do
    return { sections with
      plugins := ← once [] name sections.plugins (readPlugins document path value) }
  else if name = "random" then do
    return { sections with
      random := ← once [] name sections.random (readRandom document path value) }
  else passOver path value sections

/-- The settings that complete sections make. -/
def ofSections (sections : Sections) : Except SchemaError Settings := do
  let (botName, lead) ← require [] "bot" sections.bot
  let (nickname, contact) ← require [] "host" sections.host
  return {
    botName, lead, nickname, contact
    fortuneEnabled := sections.plugins.getD true
    seed := sections.random.getD none }

/-- The settings that a document describes. -/
def ofDocument (document : Document) : Except SchemaError Settings := do
  let sections ← match document.root with
    | none => pure {}
    | some root => readSection document [] "struct Config" (putSection document) {} root
  ofSections sections

end Settings

end SlashChat
