import SlashChat.Program.Run
import SlashChat.Proofs.Plugin.Install
import SlashChat.Proofs.Plugin.Lifecycle
import SlashChat.Proofs.Program.Session

/-!
# One line, dry and for real

Settings always give a switchboard (`buildBoard_eq_ok`), so handling one line never fails.  A dry run
shows the host calls that the line makes, and a real run plays the same calls on the console
(`execLine_shows_calls`).  Chat text makes no call: a real run sends it to the contact, and a dry run
says nothing about that message (`not_forall_dry_run_shows_real_run`).
-/

set_option autoImplicit false

namespace SlashChat.Program

open Switchboard (isChat)

/-- All settings give a switchboard, and it listens to their lead. -/
theorem buildBoard_eq_ok (settings : Settings) (seed : Option UInt64) (fresh : Random.Source) :
    ∃ board world, buildBoard settings seed fresh = .ok (board, world) ∧
      board.lead = settings.lead := by
  cases henabled : settings.fortuneEnabled with
  | false =>
    simp only [buildBoard, PluginSet.ofSettings, henabled, Bool.false_eq_true, if_false]
    exact ⟨_, _, rfl, rfl⟩
  | true =>
    -- Nothing has been added yet, so the name of the plugin is free.
    have hadded (plugin : Plugin (Binding Unit) (World Unit)) :
        ({} : PluginSet (Binding Unit) (World Unit)).addAll [plugin] = .ok ⟨[plugin]⟩ :=
      PluginSet.addAll_of_nodup (List.nodup_singleton _)
    simp only [buildBoard, PluginSet.ofSettings, henabled, if_true, hadded,
      PluginSet.install_fortune]
    exact ⟨_, _, rfl, rfl⟩

/-- Of notes nothing shows. -/
@[simp]
theorem withoutNotes_notes (noted : List Note) : withoutNotes (notes noted) = [] :=
  withoutNotes_map_note noted

section Runs

variable {around : Surroundings} {path : String} {seed : Option UInt64}
  {board : Switchboard (Binding Unit)} {world : World Unit}

/-- A dry run ends well and prints the host calls that the line asks for. -/
theorem execLine_dry (line : String)
    (hbuild : buildBoard (settingsFor around path).1 seed around.fresh = .ok (board, world)) :
    let calls :=
      Act.events (board.respond (settingsFor around path).1.nickname line world).acts
    let ending := execLine around path seed line true
    ending.exitCode = 0 ∧
      withoutNotes ending.output = [.plain (Json.pretty (.list (calls.map eventJson)))] := by
  intro calls ending
  let recorder : Recorder := { nickname := (settingsFor around path).1.nickname }
  have hcalls : (Host.perform recorder
      (board.respond (Host.nickname recorder) line world).acts).events.toList = calls :=
    Recorder.events_perform recorder _
  have hending : ending = execLine around path seed line true := rfl
  simp only [execLine, hbuild, Switchboard.take, if_true] at hending
  rw [hending]
  refine ⟨rfl, ?_⟩
  simp only [withoutNotes_append, withoutNotes_notes, List.nil_append]
  rw [hcalls]
  rfl

/-- A real run ends well and shows the host calls, and then the line itself if it is chat text. -/
theorem execLine_real (line : String)
    (hbuild : buildBoard (settingsFor around path).1 seed around.fresh = .ok (board, world)) :
    let calls :=
      Act.events (board.respond (settingsFor around path).1.nickname line world).acts
    let ending := execLine around path seed line false
    ending.exitCode = 0 ∧
      withoutNotes ending.output =
        (calls ++ if isChat board.lead line then [HostEvent.send line] else []).map
          (Console.shownAs (settingsFor around path).1.nickname) := by
  intro calls ending
  have hending : ending = execLine around path seed line false := rfl
  simp only [execLine, hbuild, Bool.false_eq_true, if_false] at hending
  rw [hending]
  refine ⟨rfl, ?_⟩
  simp only
  rw [Session.give_shows rfl]
  simp [calls]

end Runs

/-- A dry run shows the calls that the line makes on a recording host.  A real run shows the same
calls on the console, and then the line itself as a message to the contact if it is chat text. -/
theorem execLine_shows_calls (around : Surroundings) (path : String) (seed : Option UInt64)
    (line : String) :
    let settings := (settingsFor around path).1
    let dry := execLine around path seed line true
    let real := execLine around path seed line false
    ∃ board world, buildBoard settings seed around.fresh = .ok (board, world) ∧
      let recorder : Recorder := { nickname := settings.nickname }
      let calls := (board.take line recorder world).2.1.events.toList
      dry.exitCode = 0 ∧ real.exitCode = 0 ∧
        withoutNotes dry.output = [.plain (Json.pretty (.list (calls.map eventJson)))] ∧
        withoutNotes real.output =
          (calls ++ if isChat settings.lead line then [HostEvent.send line] else []).map
            fun call => .stamped (Console.lineOf settings.nickname call) := by
  intro settings dry real
  obtain ⟨board, world, hbuild, hlead⟩ := buildBoard_eq_ok settings seed around.fresh
  obtain ⟨hdryCode, hdry⟩ := execLine_dry line hbuild
  obtain ⟨hrealCode, hreal⟩ := execLine_real line hbuild
  refine ⟨board, world, hbuild, ?_⟩
  intro recorder calls
  have hcalls : calls = Act.events (board.respond settings.nickname line world).acts :=
    Recorder.events_perform recorder (board.respond settings.nickname line world).acts
  rw [hcalls]
  exact ⟨hdryCode, hrealCode, hdry, hlead ▸ hreal⟩

/-- Surroundings without a settings file, an environment or an input. -/
def Surroundings.bare : Surroundings where
  read _ := .error .missing
  canWrite _ := .error .missing
  environment := {}
  input := []
  fresh := .ofSeed 0

/-- A real run sends the chat text `hello`, and a dry run shows no call for it. -/
theorem not_forall_dry_run_shows_real_run :
    ¬ ∀ (around : Surroundings) (path : String) (seed : Option UInt64) (line : String),
      ∃ calls : List HostEvent,
        withoutNotes (execLine around path seed line true).output =
            [.plain (Json.pretty (.list (calls.map eventJson)))] ∧
          withoutNotes (execLine around path seed line false).output =
            calls.map fun call =>
              .stamped (Console.lineOf (settingsFor around path).1.nickname call) := by
  intro hall
  obtain ⟨calls, hdry, hreal⟩ := hall .bare "config.yaml" none "hello"
  have hnone : withoutNotes (execLine .bare "config.yaml" none "hello" true).output =
      [.plain "[]"] := by decide +kernel
  have hsent : withoutNotes (execLine .bare "config.yaml" none "hello" false).output =
      [.stamped "<toxic> hello"] := by decide +kernel
  rw [hnone] at hdry
  rw [hsent] at hreal
  cases calls with
  | nil => cases hreal
  | cons call rest =>
    injection hdry with hpretty
    injection hpretty with htext
    have hchars := congrArg String.toList htext
    simp [Json.pretty, Json.prettyChars, Json.newLine] at hchars

end SlashChat.Program
