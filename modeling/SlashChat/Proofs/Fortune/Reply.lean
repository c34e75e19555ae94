import SlashChat.Host.Recorder
import SlashChat.Proofs.Fortune.Count
import SlashChat.Proofs.Fortune.Teller
import SlashChat.Proofs.Plugin.Install

/-!
# What a line gets from a teller

A switchboard with the fortune command alone has one thing to do: a line that asks for fortunes gets
the announcement and the fortunes (`respond_of_asksFor`).  Every other line leaves the teller as it
is and sends nothing, and the local user is told something only if the line is turned down
(`respond_of_not_asksFor`).  Both together are `take_fortune`.
-/

set_option autoImplicit false

namespace SlashChat

open FortuneCount (IsNumeral announcement)
open SlashChat.Random (Source)

/-! ## Picks -/

namespace FortuneTable

/-- There are as many picks as were asked for. -/
theorem length_picks (table : FortuneTable) (count : Nat) (source : Source) :
    (table.picks count source).1.length = count := by
  rw [picks_eq_map_pickAt, List.length_map, List.length_range]

/-- Every pick is an entry of the table. -/
theorem mem_of_mem_picks (table : FortuneTable) {count : Nat} {source : Source} {fortune : String}
    (hmem : fortune ∈ (table.picks count source).1) : fortune ∈ table.entries := by
  rw [picks_eq_map_pickAt] at hmem
  obtain ⟨place, -, rfl⟩ := List.mem_map.1 hmem
  exact table.pick_mem (table.sourceAfter source place)

end FortuneTable

namespace Teller

/-- A teller that sends makes one call for the announcement and one for each fortune. -/
theorem events_send (teller : Teller) (nickname : String) (count : Int) :
    Act.events (teller.send nickname count).acts =
      (announcement nickname count :: (teller.table.picks count.toNat teller.source).1).map
        HostEvent.send := by
  simp [send]

/-- The teller counts the fortunes that it sent: none for a negative count. -/
theorem result_send (teller : Teller) (nickname : String) (count : Int) :
    (teller.send nickname count).result = .ok (max count 0).toNat := by
  have hmax : (max count 0).toNat = count.toNat := by omega
  simp only [send, teller.table.length_picks, hmax]

end Teller

/-- A line that names the fortune command and has one argument, which writes a count of 64 bits. -/
def AsksFor (lead line arg : String) (count : Int) : Prop :=
  Request.read lead line = .ok (some ⟨"/fortune", [arg]⟩) ∧
    IsNumeral arg.toList count ∧ -2 ^ 63 ≤ count ∧ count < 2 ^ 63

namespace Switchboard

variable {τ : Type}

/-- The switchboard of a catalog in which only the fortune plugin was loaded. -/
def ofFortune (lead : String) (number : Nat) (table : FortuneTable) : Switchboard (Binding τ) :=
  ⟨lead, ((⟨[Plugin.fortune number table]⟩ : PluginSet (Binding τ) (World τ)).install {}).1⟩

/-- The fortune command is the only one that is found. -/
theorem find?_ofFortune (lead : String) (number : Nat) (table : FortuneTable) (name : String) :
    (ofFortune (τ := τ) lead number table).catalog.find? name =
      if name = fortuneCommand then some ⟨fortuneCommand, fortuneHelp, .teller number⟩
      else none := by
  rw [ofFortune, PluginSet.install_fortune]
  simp only [Catalog.find?, List.find?_cons, List.find?_nil]
  split_ifs with hname <;> split <;> simp_all [Command.matches]

section Lines

variable {lead line : String} {number : Nat} {table : FortuneTable} {source : Source}
  {world : World τ}

/-- A line that asks for fortunes is handled by the teller. -/
theorem respond_of_asksFor (hteller : world.tellers[number]? = some ⟨table, source⟩) {arg : String}
    {count : Int} (hasks : AsksFor lead line arg count) (nickname : String) :
    let telling := (⟨table, source⟩ : Teller).handle nickname [arg]
    let response := (ofFortune lead number table).respond nickname line world
    telling = (⟨table, source⟩ : Teller).send nickname count ∧
      response.outcome = .handled "/fortune" ∧
      Act.events response.acts = Act.events telling.acts ∧
      response.state = { world with tellers := world.tellers.set number telling.teller } := by
  intro telling response
  obtain ⟨hread, hcount⟩ := hasks
  have htelling : telling = (⟨table, source⟩ : Teller).send nickname count := by
    show Teller.handle _ _ _ = _
    rw [Teller.handle, FortuneCount.parse_eq_ok_iff.2 ⟨arg, rfl, hcount⟩]
  let after : World τ := { world with tellers := world.tellers.set number telling.teller }
  have hturn : World.run (.teller number) nickname [arg] world = ⟨telling.acts, .ok (), after⟩ := by
    have hresult : ((⟨table, source⟩ : Teller).handle nickname [arg]).result = _ :=
      (congrArg Telling.result htelling).trans (Teller.result_send _ nickname count)
    simp only [World.run, hteller, hresult]
    rfl
  have hfind := (find?_ofFortune (τ := τ) lead number table fortuneCommand).trans (if_pos rfl)
  obtain ⟨opening, hanswer⟩ := answer_of_success (ofFortune lead number table) nickname
    ⟨fortuneCommand, [arg]⟩ world hfind hturn rfl
  have hresponse : response = _ :=
    (respond_of_request (ofFortune lead number table) nickname world hread).trans hanswer
  rw [hresponse]
  exact ⟨htelling, rfl, Act.events_cons_note _ _, rfl⟩

/-- Any other request is turned down with one notice, and changes nothing. -/
theorem answer_of_not_asksFor (hteller : world.tellers[number]? = some ⟨table, source⟩)
    {request : Request} (hread : Request.read lead line = .ok (some request))
    (hnot : ∀ arg count, ¬ AsksFor lead line arg count) (nickname : String) :
    let response := (ofFortune lead number table).answer nickname request world
    response.state = world ∧ ∃ cause, response.outcome = .rejected cause ∧
      Act.events response.acts = [.display cause.message] := by
  intro response
  obtain ⟨name, args⟩ := request
  let board : Switchboard (Binding τ) := ofFortune lead number table
  have hfind := find?_ofFortune (τ := τ) lead number table name
  by_cases hname : name = fortuneCommand
  · subst hname
    cases hparse : FortuneCount.parse args with
    | ok count =>
      obtain ⟨arg, rfl, hcount⟩ := FortuneCount.parse_eq_ok_iff.1 hparse
      exact absurd ⟨hread, hcount⟩ (hnot arg count)
    | error cause =>
      have hhandle : (⟨table, source⟩ : Teller).handle nickname args =
          ⟨[], .error cause, ⟨table, source⟩⟩ := by
        rw [Teller.handle, hparse]
      -- The teller is put back as it was.
      have hsame : world.tellers.set number ⟨table, source⟩ = world.tellers := by
        obtain ⟨hlt, hget⟩ := List.getElem?_eq_some_iff.1 hteller
        rw [← hget, List.set_getElem_self]
      have hturn : World.run (.teller number) nickname args world =
          ⟨[], .error (.invalidArgs cause), world⟩ := by
        simp only [World.run, hteller, hhandle, hsame]
      obtain ⟨opening, closing, hfailure⟩ := board.answer_of_failure nickname
        ⟨fortuneCommand, args⟩ world (hfind.trans (if_pos rfl)) hturn rfl
      have hresponse : response = _ := hfailure
      rw [hresponse]
      exact ⟨rfl, .invalidArgs cause, rfl, by simp [reject]⟩
  · have hresponse : response = _ :=
      board.answer_of_unknown nickname ⟨name, args⟩ world (hfind.trans (if_neg hname))
    rw [hresponse]
    exact ⟨rfl, .notFound name, rfl, by simp [reject]⟩

/-- Any other line changes nothing, and makes one host call if it is turned down and else none. -/
theorem respond_of_not_asksFor (hteller : world.tellers[number]? = some ⟨table, source⟩)
    (hnot : ∀ arg count, ¬ AsksFor lead line arg count) (nickname : String) :
    let response := (ofFortune lead number table).respond nickname line world
    response.state = world ∧
      ((∃ cause, response.outcome = .rejected cause ∧
          Act.events response.acts = [.display cause.message]) ∨
        (response.outcome = .ignored ∨ response.outcome = .text line) ∧
          Act.events response.acts = []) := by
  intro response
  let board : Switchboard (Binding τ) := ofFortune lead number table
  cases hread : Request.read lead line with
  | error cause =>
    have hresponse : response = reject [] cause world :=
      respond_of_error board nickname world hread
    rw [hresponse]
    exact ⟨rfl, .inl ⟨cause, rfl, rfl⟩⟩
  | ok found =>
    cases found with
    | none =>
      have hresponse : response = _ := respond_of_none board nickname world hread
      rw [hresponse]
      split_ifs
      · exact ⟨rfl, .inr ⟨.inl rfl, rfl⟩⟩
      · exact ⟨rfl, .inr ⟨.inr rfl, rfl⟩⟩
    | some request =>
      have hresponse : response = board.answer nickname request world :=
        respond_of_request board nickname world hread
      rw [hresponse]
      obtain ⟨hstate, hrejected⟩ := answer_of_not_asksFor hteller hread hnot nickname
      exact ⟨hstate, .inl hrejected⟩

end Lines

/-- A line is handled exactly when it names the fortune command with one argument, a decimal integer
of 64 bits.  Then the announcement and as many entries of the table as the count says are sent, and
the teller counts these.  Any other line sends nothing and leaves the world as it is; it shows one
notice if it is turned down, and none if it is blank or chat text. -/
theorem take_fortune (table : FortuneTable) (source : Source) (lead line : String)
    (host : Recorder) (number : Nat) (world : World τ)
    (hteller : world.tellers[number]? = some ⟨table, source⟩) :
    let teller : Teller := ⟨table, source⟩
    let taken := (ofFortune lead number table).take line host world
    let outcome := taken.1
    let after := taken.2.1
    let state := taken.2.2
    ((∃ command, outcome = .handled command) ↔ ∃ arg count, AsksFor lead line arg count) ∧
    (∀ arg count, AsksFor lead line arg count →
      let drawn := table.picks (max count 0).toNat source
      outcome = .handled "/fortune" ∧
        after.events.toList = host.events.toList ++
          (announcement host.nickname count :: drawn.1).map HostEvent.send ∧
        drawn.1.length = (max count 0).toNat ∧ (∀ fortune ∈ drawn.1, fortune ∈ table.entries) ∧
        (teller.handle host.nickname [arg]).result = .ok (max count 0).toNat ∧
        state = { world with tellers := world.tellers.set number ⟨table, drawn.2⟩ }) ∧
    ((∀ command, outcome ≠ .handled command) →
      state = world ∧
        match outcome with
        | .rejected cause => after.events.toList = host.events.toList ++ [.display cause.message]
        | _ => after.events.toList = host.events.toList) := by
  intro teller taken outcome after state
  let response := (ofFortune (τ := τ) lead number table).respond host.nickname line world
  have hevents : after.events.toList = host.events.toList ++ Act.events response.acts :=
    host.events_perform response.acts
  have hhandled : ∀ arg count, AsksFor lead line arg count → outcome = .handled "/fortune" :=
    fun arg count hasks => (respond_of_asksFor hteller hasks host.nickname).2.1
  refine ⟨⟨?_, ?_⟩, ?_, ?_⟩
  · rintro ⟨command, houtcome⟩
    by_contra hnot
    obtain ⟨-, ⟨cause, hother, -⟩ | ⟨hother | hother, -⟩⟩ := respond_of_not_asksFor hteller
      (fun arg count hasks => hnot ⟨arg, count, hasks⟩) host.nickname
    all_goals cases hother.symm.trans houtcome
  · rintro ⟨arg, count, hasks⟩
    exact ⟨_, hhandled arg count hasks⟩
  · intro arg count hasks drawn
    obtain ⟨htelling, houtcome, hacts, hstate⟩ :=
      respond_of_asksFor hteller hasks host.nickname
    have hmax : (max count 0).toNat = count.toNat := by omega
    have hdrawn : drawn = table.picks count.toNat source := congrArg (table.picks · source) hmax
    rw [htelling] at hacts hstate
    refine ⟨houtcome, ?_, table.length_picks _ _, fun fortune => table.mem_of_mem_picks, ?_, ?_⟩
    · rw [hevents, hacts, Teller.events_send, hdrawn]
    · exact (congrArg Telling.result htelling).trans (teller.result_send host.nickname count)
    · rw [hdrawn]
      exact hstate
  · intro hunhandled
    obtain ⟨hstate, hcases⟩ := respond_of_not_asksFor hteller
      (fun arg count hasks => hunhandled _ (hhandled arg count hasks)) host.nickname
    refine ⟨hstate, ?_⟩
    obtain ⟨cause, houtcome, hacts⟩ | ⟨houtcome | houtcome, hacts⟩ := hcases
    all_goals
      have hshown : after.events.toList = host.events.toList ++ _ :=
        hevents.trans (congrArg _ hacts)
      rw [show outcome = _ from houtcome]
    · exact hshown
    · exact hshown.trans (List.append_nil _)
    · exact hshown.trans (List.append_nil _)

/-- The least count is valid in quotes and behind another lead, and brings the announcement alone.
Two arguments are none. -/
theorem take_fortune_least :
    let world : World Unit := { tellers := [⟨.builtin, .ofSeed 7⟩], rest := () }
    let line := " !fortune \"-9223372036854775808\""
    let least := (ofFortune "!" 0 .builtin).take line ({ nickname := "ann" } : Recorder) world
    let two := (ofFortune "!" 0 .builtin).take "/fortune 1 2" ({ nickname := "ann" } : Recorder)
      world
    world.tellers[0]? = some ⟨.builtin, .ofSeed 7⟩ ∧
      AsksFor "!" line "-9223372036854775808" (-2 ^ 63) ∧
      least.1 = .handled "/fortune" ∧
      least.2.1.events.toList =
        [.send "ann has decided to send you -9223372036854775808 fortunes:"] ∧
      (∀ command, two.1 ≠ .handled command) ∧ two.2.2 = world := by
  intro world line least two
  have hasks : AsksFor "!" line "-9223372036854775808" (-2 ^ 63) :=
    ⟨by decide +kernel, FortuneCount.numeral?_eq_some_iff.1 (by decide +kernel), by decide,
      by decide⟩
  obtain ⟨-, hleast, -⟩ := take_fortune .builtin (.ofSeed 7) "!" line { nickname := "ann" } 0 world
    rfl
  obtain ⟨houtcome, hsent, -⟩ := hleast _ _ hasks
  obtain ⟨-, -, htwo⟩ := take_fortune .builtin (.ofSeed 7) "!" "/fortune 1 2"
    { nickname := "ann" } 0 world rfl
  have hrejected : two.1 = .rejected (.invalidArgs .argumentCount) := by decide +kernel
  have hunhandled : ∀ command, two.1 ≠ .handled command := by
    intro command hhandled
    cases hrejected.symm.trans hhandled
  exact ⟨rfl, hasks, houtcome, hsent, hunhandled, (htwo hunhandled).1⟩

end Switchboard

end SlashChat
