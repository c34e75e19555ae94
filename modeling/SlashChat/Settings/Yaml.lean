import SlashChat.Error
import SlashChat.Settings.Schema
import SlashChat.Yaml.Parse
import SlashChat.Yaml.Written

/-!
# Settings as YAML

Reading settings from a YAML text and writing them as one.  A text that is not one well-formed
document is a fault whatever its document would describe, but a problem with what stands in front of
the fault is what the user is told.  Settings are written in full, section by section, in block
style with two blanks a level.
-/

set_option autoImplicit false

namespace SlashChat

/-- Why settings could not be had from a file. -/
inductive LoadFault
  /-- The file could not be read. -/
  | unreadable (detail : String)
  /-- The text is not one well-formed document; a problem may stand in front of its fault. -/
  | malformed (fault : Yaml.Fault) (before : Option SchemaError)
  /-- The document does not describe settings. -/
  | unfit (cause : SchemaError)
deriving DecidableEq, Repr, Inhabited

/-- A load fault as the settings error that the user is told. -/
def LoadFault.toError : LoadFault → SettingsError
  | .unreadable detail => .read detail
  | .malformed _ (some cause) => .parse cause.detail
  | .malformed fault none => .parse fault.message
  | .unfit cause => .parse cause.detail

namespace Settings

/-- The problem with a document in front of the place where it breaks off. -/
def problemBefore : Except SchemaError Settings → Option SchemaError
  | .ok _ => none
  | .error cause => if cause.problem = .brokenOff then none else some cause

/-- The settings that a YAML text describes. -/
def ofYaml (text : String) : Except LoadFault Settings :=
  let reading := Yaml.Reading.ofText text
  let settings := ofDocument reading.document
  match reading.fault with
  | some fault => .error (.malformed fault (problemBefore settings))
  | none => settings.mapError .unfit

/-- A key with a text, on the second level. -/
def textEntry (key : String) (text : String) : List Char :=
  "  ".toList ++ key.toList ++ ": ".toList ++ Yaml.Written.value text.toList

/-- The settings as a YAML text. -/
def toYaml (settings : Settings) : String :=
  String.ofList <|
    "bot:\n".toList ++ textEntry "name" settings.botName ++ textEntry "prefix" settings.lead ++
      "host:\n".toList ++ textEntry "nickname" settings.nickname ++
      textEntry "contact" settings.contact ++
      "plugins:\n  fortune:\n    enabled: ".toList ++
      (if settings.fortuneEnabled then "true" else "false").toList ++
      "\nrandom:\n  seed: ".toList ++
      (match settings.seed with
        | some seed => Nat.repr seed.toNat
        | none => "null").toList ++
      ['\n']

end Settings

end SlashChat
