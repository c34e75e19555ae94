import SlashChat.Settings.Schema

/-!
# What a tree says about settings

The readers of `SlashChat.Settings.Schema` go through the entries of a section in order and stop at
the first problem.  Here a tree without aliases is read field by field instead: a section says what
stands under its names (`under`), whatever the order is and whatever else stands in it.

The two agree on which trees describe settings, and which settings these are
(`toOption_ofDocument`).  So what a reader makes of a section depends on the values under its names
alone, as long as the section is clear: its keys are scalars and the text breaks off in none of the
values that it passes over.
-/

set_option autoImplicit false

namespace SlashChat

open Yaml (Document Node Value)

namespace Yaml

namespace Node

mutual

/-- Whether no alias stands in a node. -/
def isAliasFree : Node → Bool
  | .scalar .. | .cut => true
  | .sequence items => areAliasFree items
  | .mapping entries => entriesAliasFree entries
  | .alias _ => false

/-- Whether no alias stands in the items of a sequence. -/
def areAliasFree : List Node → Bool
  | [] => true
  | item :: rest => item.isAliasFree && areAliasFree rest

/-- Whether no alias stands in the entries of a mapping. -/
def entriesAliasFree : List (Node × Node) → Bool
  | [] => true
  | (key, value) :: rest => key.isAliasFree && value.isAliasFree && entriesAliasFree rest

end

/-- No alias stands in a mapping exactly if none stands in its keys and values. -/
theorem isAliasFree_mapping_iff {entries : List (Node × Node)} :
    (Node.mapping entries).isAliasFree = true ↔
      ∀ entry ∈ entries, entry.1.isAliasFree = true ∧ entry.2.isAliasFree = true := by
  rw [isAliasFree]
  induction entries with
  | nil => simp [entriesAliasFree]
  | cons entry entries ih =>
    obtain ⟨key, value⟩ := entry
    simp [entriesAliasFree, ih, and_assoc]

end Node

/-- A node without aliases stands for itself. -/
theorem Document.resolve_of_isAliasFree (document : Document) {node : Node}
    (hfree : node.isAliasFree = true) : document.resolve node = node := by
  cases node with
  | «alias» slot => cases hfree
  | scalar tag style text => rfl
  | sequence items => rfl
  | mapping entries => rfl
  | cut => rfl

end Yaml

namespace Settings

/-! ## Fields -/

section Fields

variable {α : Type}

/-- The text of a scalar. -/
def textOf? : Node → Option String
  | .scalar _ _ text => some text
  | _ => none

/-- The values that entries have under a name. -/
def under (name : String) (entries : List (Node × Node)) : List Node :=
  entries.filterMap fun (key, value) => if textOf? key = some name then some value else none

/-- Fills in a field, unless it is filled in. -/
def fill? (draft value : Option α) : Option (Option α) :=
  match draft with
  | some _ => none
  | none => value.map some

/-- A field behind the values under its name: one value at most can fill it in. -/
def filled? (read : Node → Option α) (draft : Option α) : List Node → Option (Option α)
  | [] => some draft
  | value :: rest => (fill? draft (read value)).bind fun draft => filled? read draft rest

/-- Whether entries can be read around the values under the names that a section knows. -/
def isClear (known : List String) (entries : List (Node × Node)) : Bool :=
  entries.all fun (key, value) =>
    match textOf? key with
    | some name => known.contains name || value.isWhole
    | none => false

/-- The entries of a section that can be read: those of a mapping, or none of an empty scalar. -/
def clearEntries? (known : List String) : Node → Option (List (Node × Node))
  | .mapping entries => if isClear known entries then some entries else none
  | .scalar _ style text => if style = .plain ∧ text = "" then some [] else none
  | _ => none

/-- What entries say in the field with a name: nothing if the name does not come. -/
def field? (read : Node → Option α) (name : String) (entries : List (Node × Node)) :
    Option (Option α) := filled? read none (under name entries)

/-- What entries say in a field that has to come. -/
def required? (read : Node → Option α) (name : String) (entries : List (Node × Node)) : Option α :=
  (field? read name entries).join

/-- What entries say in a field that may be left out for a default. -/
def optional? (read : Node → Option α) (default : α) (name : String)
    (entries : List (Node × Node)) : Option α := (field? read name entries).map (·.getD default)

end Fields

/-! ## Sections -/

/-- The truth value that a scalar says. -/
def booleanOf? : Node → Option Bool
  | .scalar tag style text => if isBare "bool" tag style then Value.boolean? text else none
  | _ => none

/-- The seed that a scalar says, or that there is none. -/
def seedOf? : Node → Option (Option UInt64)
  | .scalar tag style text =>
    match isAbsent tag style text with
    | .error _ => none
    | .ok true => some none
    | .ok false => if isBare "int" tag style then (Value.seed? text).map some else none
  | _ => none

/-- What a section of two texts says. -/
def pairOf? (first second : String) (node : Node) : Option (String × String) := do
  let entries ← clearEntries? [first, second] node
  return (← required? textOf? first entries, ← required? textOf? second entries)

/-- What the section on fortunes says. -/
def fortuneOf? (node : Node) : Option Bool := do
  required? booleanOf? "enabled" (← clearEntries? ["enabled"] node)

/-- What the section on plugins says. -/
def pluginsOf? (node : Node) : Option Bool := do
  optional? fortuneOf? true "fortune" (← clearEntries? ["fortune"] node)

/-- What the section on randomness says. -/
def randomOf? (node : Node) : Option (Option UInt64) := do
  optional? seedOf? none "seed" (← clearEntries? ["seed"] node)

/-- The settings that a tree describes. -/
def settingsOf? (node : Node) : Option Settings := do
  let entries ← clearEntries? ["bot", "host", "plugins", "random"] node
  let (botName, lead) ← required? (pairOf? "name" "prefix") "bot" entries
  let (nickname, contact) ← required? (pairOf? "nickname" "contact") "host" entries
  let fortuneEnabled ← optional? pluginsOf? true "plugins" entries
  let seed ← optional? randomOf? none "random" entries
  return { botName, lead, nickname, contact, fortuneEnabled, seed }

/-! ## The readers read fields -/

section Readers

variable {α β : Type} (document : Document) (path : SettingsPath)

/-- Of two readings in turn the second goes on from what the first gives, whatever their problems
say. -/
theorem toOption_bind (value : Except SchemaError α) (f : α → Except SchemaError β) :
    (value >>= f).toOption = value.toOption.bind fun a => (f a).toOption := by
  cases value <;> rfl

/-- Reading a field once is filling it in. -/
theorem toOption_once (name : String) (draft : Option α) (value : Except SchemaError α) :
    (once path name draft value).toOption = fill? draft value.toOption := by
  cases draft <;> cases value <;> rfl

/-- Putting a field into a draft is filling it in and setting it there. -/
theorem toOption_put (name : String) (draft : Option α) (value : Except SchemaError α)
    (set : Option α → β) :
    (do return set (← once path name draft value) : Except SchemaError β).toOption =
      (fill? draft value.toOption).map set := by
  rw [toOption_bind, toOption_once]
  cases fill? draft value.toOption <;> rfl

/-- A field that has to come is as it was filled in. -/
theorem toOption_require (name : String) (draft : Option α) :
    (require path name draft).toOption = draft := by
  cases draft <;> rfl

/-- A value that is passed over leaves the draft alone if the text does not break off in it. -/
theorem toOption_passOver {δ : Type} (value : Node) (draft : δ) :
    (passOver path value draft).toOption = if value.isWhole then some draft else none := by
  unfold passOver
  by_cases hwhole : value.isWhole = true
  · rw [if_pos hwhole, if_pos hwhole]
    rfl
  · rw [if_neg hwhole, if_neg hwhole]
    rfl

/-- Reading a key gives the text of a scalar. -/
theorem toOption_readKey {key : Node} (hfree : key.isAliasFree = true) :
    (readKey document path key).toOption = textOf? key := by
  unfold readKey
  rw [document.resolve_of_isAliasFree hfree]
  cases key <;> rfl

/-- Reading a text gives the text of a scalar. -/
theorem toOption_readText {node : Node} (hfree : node.isAliasFree = true) :
    (readText document path node).toOption = textOf? node := by
  unfold readText
  rw [document.resolve_of_isAliasFree hfree]
  cases node <;> rfl

/-- Reading a truth value gives the one that a scalar says. -/
theorem toOption_readBoolean {node : Node} (hfree : node.isAliasFree = true) :
    (readBoolean document path node).toOption = booleanOf? node := by
  unfold readBoolean
  rw [document.resolve_of_isAliasFree hfree]
  cases node with
  | scalar tag style text =>
    simp only [booleanOf?]
    cases (if isBare "bool" tag style then Value.boolean? text else none) <;> rfl
  | sequence items => rfl
  | mapping entries => rfl
  | «alias» slot => rfl
  | cut => rfl

/-- Reading a seed gives the one that a scalar says, or that there is none. -/
theorem toOption_readSeed (outer : SettingsPath) {node : Node} (hfree : node.isAliasFree = true) :
    (readSeed document outer path node).toOption = seedOf? node := by
  unfold readSeed
  rw [document.resolve_of_isAliasFree hfree]
  cases node with
  | scalar tag style text =>
    simp only [seedOf?]
    cases isAbsent tag style text with
    | error problem => rfl
    | ok absent =>
      cases absent with
      | true => rfl
      | false =>
        by_cases hbare : isBare "int" tag style = true
        · simp only [if_pos hbare]
          cases Value.seed? text <;> rfl
        · simp only [if_neg hbare]
          rfl
  | sequence items => rfl
  | mapping entries => rfl
  | «alias» slot => rfl
  | cut => rfl

/-- A value under its name comes first among the values under that name. -/
theorem under_cons_of_eq {key : Node} {name : String} (htext : textOf? key = some name)
    (value : Node) (rest : List (Node × Node)) :
    under name ((key, value) :: rest) = value :: under name rest := by
  simp [under, htext]

/-- A value under another name is not among the values under this one. -/
theorem under_cons_of_ne {key : Node} {name other : String} (htext : textOf? key = some other)
    (hne : other ≠ name) (value : Node) (rest : List (Node × Node)) :
    under name ((key, value) :: rest) = under name rest := by
  simp [under, htext, hne]

/-- How a section puts its entries into a draft, one by one, and what it makes of them at once. -/
structure Collects {δ : Type} (known : List String)
    (put : SettingsPath → String → Node → δ → Except SchemaError δ)
    (collect : List (Node × Node) → δ → Option δ) : Prop where
  nil : ∀ draft, collect [] draft = some draft
  found : ∀ (inner : SettingsPath) (name : String) (key value : Node) (rest : List (Node × Node))
    (draft : δ), name ∈ known → textOf? key = some name → value.isAliasFree = true →
      (put inner name value draft).toOption.bind (collect rest) =
        collect ((key, value) :: rest) draft
  passed : ∀ (inner : SettingsPath) (name : String) (key value : Node) (rest : List (Node × Node))
    (draft : δ), name ∉ known → textOf? key = some name →
      put inner name value draft = passOver inner value draft ∧
        collect ((key, value) :: rest) draft = collect rest draft

variable {δ : Type} {known : List String}
  {put : SettingsPath → String → Node → δ → Except SchemaError δ}
  {collect : List (Node × Node) → δ → Option δ}

/-- Entries that can be read are put into the draft as the section collects them. -/
theorem toOption_readEntries (hcollects : Collects known put collect)
    {entries : List (Node × Node)} (hfree : (Node.mapping entries).isAliasFree = true)
    (draft : δ) :
    (readEntries document path put entries draft).toOption =
      if isClear known entries then collect entries draft else none := by
  rw [Node.isAliasFree_mapping_iff] at hfree
  induction entries generalizing draft with
  | nil => exact (hcollects.nil draft).symm
  | cons entry rest ih =>
    obtain ⟨key, value⟩ := entry
    obtain ⟨⟨hkey, hvalue⟩, hrest⟩ := List.forall_mem_cons.1 hfree
    rw [readEntries, toOption_bind, toOption_readKey _ _ hkey]
    cases htext : textOf? key with
    | none => simp [isClear, htext]
    | some name =>
      rw [Option.bind_some, toOption_bind]
      simp only [ih hrest]
      by_cases hname : name ∈ known
      · have hclear : isClear known ((key, value) :: rest) = isClear known rest := by
          simp [isClear, htext, hname]
        have hput := hcollects.found (path ++ [stepOf key]) name key value rest draft hname htext
          hvalue
        rw [hclear, ← hput]
        by_cases hrestClear : isClear known rest = true
        · simp only [if_pos hrestClear]
        · simp [hrestClear]
      · have hclear : isClear known ((key, value) :: rest) =
            (value.isWhole && isClear known rest) := by
          simp [isClear, htext, hname]
        obtain ⟨hput, hcollect⟩ :=
          hcollects.passed (path ++ [stepOf key]) name key value rest draft hname htext
        rw [hput, hcollect, hclear, toOption_passOver]
        by_cases hwhole : value.isWhole = true
        · simp [hwhole]
        · simp [hwhole]

/-- A section says what it collects from the entries that can be read. -/
theorem toOption_readSection (hcollects : Collects known put collect) (expected : String)
    (draft : δ) {node : Node} (hfree : node.isAliasFree = true) :
    (readSection document path expected put draft node).toOption =
      (clearEntries? known node).bind fun entries => collect entries draft := by
  unfold readSection
  rw [document.resolve_of_isAliasFree hfree]
  cases node with
  | scalar tag style text =>
    by_cases hvoid : style = .plain ∧ text = ""
    · simp only [clearEntries?, if_pos hvoid, Option.bind_some]
      exact (hcollects.nil draft).symm
    · simp only [clearEntries?, if_neg hvoid]
      rfl
  | sequence items => rfl
  | mapping entries =>
    simp only [clearEntries?]
    rw [toOption_readEntries document path hcollects hfree]
    by_cases hclear : isClear known entries = true
    · simp only [if_pos hclear, Option.bind_some]
    · simp only [if_neg hclear, Option.bind_none]
  | «alias» slot => cases hfree
  | cut => rfl

/-- A section with one name says what stands under it. -/
theorem toOption_readSingle {read : SettingsPath → Node → Except SchemaError α}
    {says? : Node → Option α}
    (hread : ∀ path value, value.isAliasFree = true → (read path value).toOption = says? value)
    (expected field : String) {node : Node} (hfree : node.isAliasFree = true) :
    (readSingle document expected field read path node).toOption =
      (clearEntries? [field] node).bind (field? says? field) := by
  have hcollects : Collects [field]
      (fun (inner : SettingsPath) (name : String) (value : Node) (draft : Option α) =>
        if name = field then once path name draft (read inner value) else passOver inner value draft)
      (fun entries draft => filled? says? draft (under field entries)) := by
    constructor
    case nil =>
      intro draft
      rfl
    case found =>
      intro inner name key value rest draft hname htext hvalue
      obtain rfl := List.mem_singleton.1 hname
      rw [if_pos rfl, toOption_once, hread inner value hvalue, under_cons_of_eq htext, filled?]
    case passed =>
      intro inner name key value rest draft hname htext
      have hne : name ≠ field := fun hsame => hname (List.mem_singleton.2 hsame)
      rw [if_neg hne, under_cons_of_ne htext hne]
      exact ⟨rfl, rfl⟩
  exact toOption_readSection document path hcollects expected none hfree

/-- A section of two texts says them both. -/
theorem toOption_readPair (expected : String) {first second : String} (hne : first ≠ second)
    {node : Node} (hfree : node.isAliasFree = true) :
    (readPair document expected first second path node).toOption = pairOf? first second node := by
  have hcollects : Collects [first, second]
      (fun (inner : SettingsPath) (name : String) (value : Node) (pair : TextPair) =>
        if name = first then do
          return { pair with first := ← once path name pair.first (readText document inner value) }
        else if name = second then do
          return { pair with
            second := ← once path name pair.second (readText document inner value) }
        else passOver inner value pair)
      (fun entries pair => do
        let text ← filled? textOf? pair.first (under first entries)
        let other ← filled? textOf? pair.second (under second entries)
        return ⟨text, other⟩) := by
    constructor
    case nil =>
      intro pair
      rfl
    case found =>
      intro inner name key value rest pair hname htext hvalue
      by_cases hfirst : name = first
      · subst hfirst
        rw [if_pos rfl, toOption_put, toOption_readText document inner hvalue,
          under_cons_of_eq htext, under_cons_of_ne htext hne, filled?]
        cases fill? pair.first (textOf? value) <;> rfl
      · obtain rfl : name = second := by simpa [hfirst] using hname
        rw [if_neg hfirst, if_pos rfl, toOption_put, toOption_readText document inner hvalue,
          under_cons_of_ne htext hfirst, under_cons_of_eq htext, filled?]
        cases fill? pair.second (textOf? value) with
        | none => simp
        | some filled => rfl
    case passed =>
      intro inner name key value rest pair hname htext
      simp only [List.mem_cons, List.not_mem_nil, or_false, not_or] at hname
      rw [if_neg hname.1, if_neg hname.2, under_cons_of_ne htext hname.1,
        under_cons_of_ne htext hname.2]
      exact ⟨rfl, rfl⟩
  unfold readPair
  rw [toOption_bind, toOption_readSection document path hcollects expected {} hfree, pairOf?]
  cases clearEntries? [first, second] node with
  | none => rfl
  | some entries =>
    simp only [required?, field?, Option.bind_eq_bind, Option.bind_some]
    cases filled? textOf? none (under first entries) with
    | none => rfl
    | some text =>
      cases filled? textOf? none (under second entries) with
      | none => cases text <;> rfl
      | some other => cases text <;> cases other <;> rfl

/-- Reading the section on fortunes gives what it says. -/
theorem toOption_readFortune {node : Node} (hfree : node.isAliasFree = true) :
    (readFortune document path node).toOption = fortuneOf? node := by
  unfold readFortune
  rw [toOption_bind, toOption_readSingle document path
    (fun path value => toOption_readBoolean document path) _ _ hfree, fortuneOf?]
  simp only [toOption_require, Option.bind_assoc, Option.bind_eq_bind]
  rfl

/-- Reading the section on plugins gives what it says. -/
theorem toOption_readPlugins {node : Node} (hfree : node.isAliasFree = true) :
    (readPlugins document path node).toOption = pluginsOf? node := by
  unfold readPlugins
  rw [toOption_bind, toOption_readSingle document path
    (fun path value => toOption_readFortune document path) _ _ hfree, pluginsOf?]
  simp only [Option.bind_assoc, Option.bind_eq_bind]
  congr 1
  funext entries
  unfold optional?
  cases field? fortuneOf? "fortune" entries <;> rfl

/-- Reading the section on randomness gives what it says. -/
theorem toOption_readRandom {node : Node} (hfree : node.isAliasFree = true) :
    (readRandom document path node).toOption = randomOf? node := by
  unfold readRandom
  rw [toOption_bind, toOption_readSingle document path
    (fun inner value => toOption_readSeed document inner path) _ _ hfree, randomOf?]
  simp only [Option.bind_assoc, Option.bind_eq_bind]
  congr 1
  funext entries
  unfold optional?
  cases field? seedOf? "seed" entries <;> rfl

/-- The sections behind the entries of the root. -/
def sections? (entries : List (Node × Node)) (sections : Sections) : Option Sections := do
  let bot ← filled? (pairOf? "name" "prefix") sections.bot (under "bot" entries)
  let host ← filled? (pairOf? "nickname" "contact") sections.host (under "host" entries)
  let plugins ← filled? pluginsOf? sections.plugins (under "plugins" entries)
  let random ← filled? randomOf? sections.random (under "random" entries)
  return { bot, host, plugins, random }

/-- The root collects its sections, each from what stands under its name. -/
theorem collects_sections :
    Collects ["bot", "host", "plugins", "random"] (putSection document) sections? := by
  constructor
  case nil =>
    intro sections
    rfl
  case found =>
    intro inner name key value rest sections hname htext hvalue
    simp only [List.mem_cons, List.not_mem_nil, or_false] at hname
    have hother {other : String} (hne : name ≠ other) := under_cons_of_ne htext hne value rest
    have hsame := under_cons_of_eq htext value rest
    obtain rfl | rfl | rfl | rfl := hname
    · have hput : (putSection document inner "bot" value sections).toOption =
          (fill? sections.bot (pairOf? "name" "prefix" value)).map
            fun bot => { sections with bot } := by
        rw [putSection, if_pos rfl, toOption_put, readBot,
          toOption_readPair document inner _ (by decide) hvalue]
      simp only [hput, sections?, hsame, hother (by decide : "bot" ≠ "host"),
        hother (by decide : "bot" ≠ "plugins"), hother (by decide : "bot" ≠ "random"), filled?]
      cases fill? sections.bot (pairOf? "name" "prefix" value) <;> rfl
    · have hput : (putSection document inner "host" value sections).toOption =
          (fill? sections.host (pairOf? "nickname" "contact" value)).map
            fun host => { sections with host } := by
        rw [putSection, if_neg (by decide), if_pos rfl, toOption_put, readHost,
          toOption_readPair document inner _ (by decide) hvalue]
      simp only [hput, sections?, hsame, hother (by decide : "host" ≠ "bot"),
        hother (by decide : "host" ≠ "plugins"), hother (by decide : "host" ≠ "random"), filled?]
      cases fill? sections.host (pairOf? "nickname" "contact" value) <;> simp [sections?]
    · have hput : (putSection document inner "plugins" value sections).toOption =
          (fill? sections.plugins (pluginsOf? value)).map
            fun plugins => { sections with plugins } := by
        rw [putSection, if_neg (by decide), if_neg (by decide), if_pos rfl, toOption_put,
          toOption_readPlugins document inner hvalue]
      simp only [hput, sections?, hsame, hother (by decide : "plugins" ≠ "bot"),
        hother (by decide : "plugins" ≠ "host"), hother (by decide : "plugins" ≠ "random"), filled?]
      cases fill? sections.plugins (pluginsOf? value) <;> simp [sections?]
    · have hput : (putSection document inner "random" value sections).toOption =
          (fill? sections.random (randomOf? value)).map
            fun random => { sections with random } := by
        rw [putSection, if_neg (by decide), if_neg (by decide), if_neg (by decide), if_pos rfl,
          toOption_put, toOption_readRandom document inner hvalue]
      simp only [hput, sections?, hsame, hother (by decide : "random" ≠ "bot"),
        hother (by decide : "random" ≠ "host"), hother (by decide : "random" ≠ "plugins"), filled?]
      cases fill? sections.random (randomOf? value) <;> simp [sections?]
  case passed =>
    intro inner name key value rest sections hname htext
    simp only [List.mem_cons, List.not_mem_nil, or_false, not_or] at hname
    obtain ⟨hbot, hhost, hplugins, hrandom⟩ := hname
    rw [putSection, if_neg hbot, if_neg hhost, if_neg hplugins, if_neg hrandom]
    simp only [sections?, under_cons_of_ne htext hbot, under_cons_of_ne htext hhost,
      under_cons_of_ne htext hplugins, under_cons_of_ne htext hrandom, and_self]

/-- Settings need the first two sections, and have defaults for the others. -/
theorem toOption_ofSections (sections : Sections) :
    (ofSections sections).toOption = do
      let (botName, lead) ← sections.bot
      let (nickname, contact) ← sections.host
      return {
        botName, lead, nickname, contact
        fortuneEnabled := sections.plugins.getD true
        seed := sections.random.getD none } := by
  obtain ⟨bot, host, plugins, random⟩ := sections
  cases bot <;> cases host <;> rfl

/-- A tree without aliases describes the settings that its fields say. -/
theorem toOption_ofDocument {root : Node} (hroot : document.root = some root)
    (hfree : root.isAliasFree = true) : (ofDocument document).toOption = settingsOf? root := by
  unfold ofDocument
  rw [hroot]
  simp only [toOption_bind]
  rw [toOption_readSection document [] (collects_sections document) _ _ hfree, settingsOf?]
  simp only [toOption_ofSections]
  cases clearEntries? ["bot", "host", "plugins", "random"] root with
  | none => rfl
  | some entries =>
    simp only [sections?, required?, optional?, field?, Option.bind_eq_bind, Option.bind_some]
    -- One side reads all four fields before it asks whether the first two were there.
    generalize filled? (pairOf? "name" "prefix") none (under "bot" entries) = bot
    generalize filled? (pairOf? "nickname" "contact") none (under "host" entries) = host
    generalize filled? pluginsOf? none (under "plugins" entries) = plugins
    generalize filled? randomOf? none (under "random" entries) = random
    rcases bot with _ | _ | bot <;> rcases host with _ | _ | host <;> cases plugins <;>
      cases random <;> rfl

end Readers

end Settings

end SlashChat
