import SlashChat.Plugin

/-!
# Sets of plugins

The plugins in use, in the order in which they were added.  No two have the same name.  Removing a
plugin runs its cleanup and leaves the commands that it added where they are.
-/

set_option autoImplicit false

namespace SlashChat

/-- Why a plugin could not be added or removed. -/
inductive PluginError
  | alreadyRegistered (name : String)
  | notFound (name : String)
deriving DecidableEq, Repr, Inhabited

/-- The sentence for a plugin error. -/
def PluginError.message : PluginError → String
  | .alreadyRegistered name => "Plugin '" ++ name ++ "' already registered"
  | .notFound name => "Plugin '" ++ name ++ "' not found"

/-- A plugin error as an error that can end the program. -/
def PluginError.toBotError (e : PluginError) : BotError := .plugin e.message

/-- The plugins in use, in the order in which they were added. -/
structure PluginSet (h σ : Type) where
  plugins : List (Plugin h σ) := []

namespace PluginSet

section Generic

variable {h σ : Type}

/-- The names of the plugins, in order. -/
def names (set : PluginSet h σ) : List String := set.plugins.map Plugin.name

/-- Whether a plugin of this name is in use. -/
def has (set : PluginSet h σ) (name : String) : Bool := set.plugins.any (·.name == name)

/-- The set with a plugin added at the end. -/
def add (set : PluginSet h σ) (plugin : Plugin h σ) : Except PluginError (PluginSet h σ) :=
  if set.has plugin.name then .error (.alreadyRegistered plugin.name)
  else .ok ⟨set.plugins ++ [plugin]⟩

/-- The set with plugins added in order, unless one of them is turned down. -/
def addAll (set : PluginSet h σ) : List (Plugin h σ) → Except PluginError (PluginSet h σ)
  | [] => .ok set
  | plugin :: rest =>
    match set.add plugin with
    | .ok more => more.addAll rest
    | .error cause => .error cause

/-- The notes that adding a plugin leaves. -/
def addNotes (set : PluginSet h σ) (plugin : Plugin h σ) : List Note :=
  if set.has plugin.name then [] else [⟨.info, "Registering plugin: " ++ plugin.name⟩]

/-- The notes that adding plugins in order leaves. -/
def addAllNotes (set : PluginSet h σ) : List (Plugin h σ) → List Note
  | [] => []
  | plugin :: rest =>
    set.addNotes plugin ++
      match set.add plugin with
      | .ok more => more.addAllNotes rest
      | .error _ => []

/-- The set without the plugin of this name, and the shared state after its cleanup. -/
def remove (set : PluginSet h σ) (name : String) (state : σ) :
    Except PluginError (PluginSet h σ × σ) :=
  match set.plugins.find? (·.name == name) with
  | none => .error (.notFound name)
  | some plugin => .ok (⟨set.plugins.eraseP (·.name == name)⟩, plugin.cleanup state)

/-- Adds the commands of some plugins in order, up to the first command that is turned down. -/
def installFrom (plugins : List (Plugin h σ)) (catalog : Catalog h) :
    Catalog h × Except CommandError Unit :=
  match plugins with
  | [] => (catalog, .ok ())
  | plugin :: rest =>
    match catalog.insertAll plugin.commands with
    | (catalog, .ok ()) => installFrom rest catalog
    | (catalog, .error e) => (catalog, .error e)

/-- The notes that adding the commands of some plugins leaves. -/
def installNotesFrom (plugins : List (Plugin h σ)) (catalog : Catalog h) : List Note :=
  match plugins with
  | [] => []
  | plugin :: rest =>
    catalog.insertAllNotes plugin.commands ++
      match catalog.insertAll plugin.commands with
      | (catalog, .ok ()) =>
        ⟨.info, "Loaded plugin: " ++ plugin.name⟩ :: installNotesFrom rest catalog
      | (_, .error _) => []

/-- Loads every plugin into a catalog, and says how many there are.  Commands that were added
before one that is turned down stay. -/
def install (set : PluginSet h σ) (catalog : Catalog h) : Catalog h × Except CommandError Nat :=
  let (catalog, result) := installFrom set.plugins catalog
  (catalog, result.map fun () => set.plugins.length)

/-- The notes that loading every plugin leaves. -/
def installNotes (set : PluginSet h σ) (catalog : Catalog h) : List Note :=
  installNotesFrom set.plugins catalog

end Generic

section OfSettings

variable {τ : Type}

/-- The plugins that the settings ask for, and the world with their teller.  A seed given here
goes before the one in the settings; without either, `fresh` picks the fortunes. -/
def ofSettings (settings : Settings) (seed : Option UInt64) (fresh : Random.Source)
    (world : World τ) : PluginSet (Binding τ) (World τ) × World τ :=
  if settings.fortuneEnabled then
    let source := match seed <|> settings.seed with
      | some seed => Random.Source.ofSeed seed
      | none => fresh
    let (number, world) := world.enlist ⟨.builtin, source⟩
    (⟨[Plugin.fortune number .builtin]⟩, world)
  else ({}, world)

/-- The notes that choosing plugins by the settings leaves, before they are added. -/
def ofSettingsNotes (settings : Settings) (seed : Option UInt64) : List Note :=
  if settings.fortuneEnabled then
    match seed <|> settings.seed with
    | some seed => [⟨.info, "Seeding fortune plugin with " ++ Nat.repr seed.toNat⟩]
    | none => []
  else [⟨.info, "Fortune plugin disabled"⟩]

end OfSettings

end PluginSet

end SlashChat
