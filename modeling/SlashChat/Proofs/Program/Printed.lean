import Mathlib.Logic.Function.Basic
import SlashChat.Proofs.Json.RoundTrip
import SlashChat.Proofs.Program.Exec

/-!
# What is printed as JSON

A dry run prints the host calls of its line, and the listing can print the commands, both as JSON.
Whatever texts stand in them, the printed text is read back as the same objects in the same order,
so neither two lists of calls nor two catalogs with other names, help texts or another order are
printed alike (`read?_printed`).
-/

set_option autoImplicit false

namespace SlashChat.Program

/-- The text that a dry run prints for host calls. -/
def eventsText (events : List HostEvent) : String := Json.pretty (.list (events.map eventJson))

/-- The text that the listing prints for commands. -/
def infosText (infos : List Catalog.Info) : String := Json.pretty (.list (infos.map infoJson))

/-- No two host calls have the same object. -/
theorem eventJson_injective : Function.Injective eventJson := by
  intro event other hsame
  cases event <;> cases other <;> simp [eventJson] at hsame
  · rw [hsame]
  · rw [hsame]

/-- No two commands with other names or help texts have the same object. -/
theorem infoJson_injective : Function.Injective infoJson := by
  intro info other hsame
  obtain ⟨name, description⟩ := info
  obtain ⟨otherName, otherDescription⟩ := other
  simp only [infoJson, Json.record.injEq, List.cons.injEq, Prod.mk.injEq, Json.text.injEq, true_and,
    and_true] at hsame
  rw [hsame.1, hsame.2]

/-- Lists are printed differently if their members have different objects. -/
theorem pretty_list_injective {α : Type} {toJson : α → Json} (hinj : Function.Injective toJson) :
    Function.Injective fun items : List α => Json.pretty (.list (items.map toJson)) := by
  intro items other hsame
  have hlist := Json.pretty_inj hsame
  injection hlist with hitems
  exact List.map_injective_iff.2 hinj hitems

section Printing

variable (around : Surroundings) (path : String)

/-- A dry run prints the calls that a recording host receives. -/
theorem execLine_prints (seed : Option UInt64) (line : String) :
    ∃ board world,
      buildBoard (settingsFor around path).1 seed around.fresh = .ok (board, world) ∧
        let recorder : Recorder := { nickname := (settingsFor around path).1.nickname }
        withoutNotes (execLine around path seed line true).output =
          [.plain (eventsText (board.take line recorder world).2.1.events.toList)] := by
  obtain ⟨board, world, hbuild, -⟩ :=
    buildBoard_eq_ok (settingsFor around path).1 seed around.fresh
  refine ⟨board, world, hbuild, ?_⟩
  intro recorder
  have hcalls : (board.take line recorder world).2.1.events.toList =
      Act.events (board.respond recorder.nickname line world).acts :=
    Recorder.events_perform recorder _
  rw [hcalls]
  exact (execLine_dry line hbuild).2

/-- The listing prints the commands of the catalog that the settings give. -/
theorem listCommands_prints :
    ∃ board world,
      buildBoard (settingsFor around path).1 none around.fresh = .ok (board, world) ∧
        withoutNotes (listCommands around path true).output =
          [.plain (infosText board.catalog.infos)] := by
  obtain ⟨board, world, hbuild, -⟩ :=
    buildBoard_eq_ok (settingsFor around path).1 none around.fresh
  refine ⟨board, world, hbuild, ?_⟩
  simp only [listCommands, hbuild, if_true]
  rw [withoutNotes_append, withoutNotes_notes]
  rfl

end Printing

/-- The calls that a dry run prints are read back as the same list of calls, and the commands that
the listing prints as the same list of names and help texts.  So other calls are never printed
alike, nor are the commands of catalogs that differ in a name, a help text or the order. -/
theorem read?_printed {h h' : Type} :
    (∀ events : List HostEvent, Json.read? (eventsText events) =
      some (.list (events.map fun
        | .display message => .record [("kind", .text "display"), ("message", .text message)]
        | .send message => .record [("kind", .text "send"), ("message", .text message)]))) ∧
      (∀ catalog : Catalog h, Json.read? (infosText catalog.infos) =
        some (.list (catalog.commands.map fun command => .record
          [("name", .text command.name), ("description", .text command.description)]))) ∧
      Function.Injective eventsText ∧
      (∀ (catalog : Catalog h) (other : Catalog h'),
        infosText catalog.infos = infosText other.infos → catalog.infos = other.infos) ∧
      (∀ (around : Surroundings) (path : String) (seed : Option UInt64) (line : String),
        ∃ board world,
          buildBoard (settingsFor around path).1 seed around.fresh = .ok (board, world) ∧
            let recorder : Recorder := { nickname := (settingsFor around path).1.nickname }
            withoutNotes (execLine around path seed line true).output =
              [.plain (eventsText (board.take line recorder world).2.1.events.toList)]) ∧
      ∀ (around : Surroundings) (path : String), ∃ board world,
        buildBoard (settingsFor around path).1 none around.fresh = .ok (board, world) ∧
          withoutNotes (listCommands around path true).output =
            [.plain (infosText board.catalog.infos)] := by
  refine ⟨?events, ?infos, pretty_list_injective eventJson_injective, ?catalogs, execLine_prints,
    listCommands_prints⟩
  case events =>
    intro events
    exact Json.read?_pretty _
  case infos =>
    intro catalog
    have hjson : catalog.infos.map infoJson = catalog.commands.map fun command => .record
        [("name", .text command.name), ("description", .text command.description)] := by
      rw [Catalog.infos, List.map_map]
      rfl
    rw [infosText, hjson]
    exact Json.read?_pretty _
  case catalogs =>
    intro catalog other hsame
    exact pretty_list_injective infoJson_injective hsame

end SlashChat.Program
