import Mathlib.Data.List.Induction
import Mathlib.Data.List.Nodup
import SlashChat.Catalog

/-!
# A catalog as a function of its history

A catalog is built by attempted additions, one after the other.  What it holds in the end can be
read off their list: the accepted ones are those whose name starts with a slash, the first of them
under a name decides its place and its help text, and the last one its handler.

`names_register` and `find?_register` say what one addition does to the names and to the look-up.
From these `names_ofHistory` and `find?_ofHistory` say what all of them do, by an induction that
passes over the additions that are turned down (`history_induction`), and `ofHistory_eq_recalled`
puts the parts together.
-/

set_option autoImplicit false

namespace SlashChat

variable {h : Type}

/-- A command matches its own name only. -/
theorem Command.matches_iff (command : Command h) (text : String) :
    command.matches text = true ↔ command.name = text := beq_iff_eq

namespace Catalog

/-- A look-up among commands finds one as soon as the name is there. -/
theorem exists_find?_of_mem {commands : List (Command h)} {command : Command h} {name : String}
    (hmem : command ∈ commands) (hname : command.name = name) :
    ∃ found, commands.find? (·.matches name) = some found := by
  apply Option.isSome_iff_exists.1
  rw [List.find?_isSome]
  exact ⟨command, hmem, (command.matches_iff name).2 hname⟩

/-! ## One addition -/

/-- A swap fails exactly if no command has the name. -/
theorem swapHandler_eq_none_iff (name : String) (handler : h) (commands : List (Command h)) :
    swapHandler name handler commands = none ↔ name ∉ commands.map Command.name := by
  induction commands with
  | nil => simp [swapHandler]
  | cons command rest ih =>
    by_cases hname : command.name = name
    · simp [swapHandler, (command.matches_iff name).2 hname, hname]
    · have hmatch : command.matches name = false := by simpa [Command.matches] using hname
      simp [swapHandler, hmatch, ih, Ne.symm hname]

/-- A swap leaves the names and their order alone. -/
theorem map_name_of_swapHandler {name : String} {handler : h} {commands swapped : List (Command h)}
    (hswap : swapHandler name handler commands = some swapped) :
    swapped.map Command.name = commands.map Command.name := by
  induction commands generalizing swapped with
  | nil => simp [swapHandler] at hswap
  | cons command rest ih =>
    simp only [swapHandler] at hswap
    split at hswap
    · obtain rfl := Option.some.inj hswap
      rfl
    · obtain ⟨tail, htail, rfl⟩ := Option.map_eq_some_iff.1 hswap
      rw [List.map_cons, List.map_cons, ih htail]

/-- After a swap the look-up of the name finds the old command with the new handler, and every
other look-up finds what it found before. -/
theorem find?_of_swapHandler {name : String} {handler : h} {commands swapped : List (Command h)}
    (hswap : swapHandler name handler commands = some swapped) (other : String) :
    swapped.find? (·.matches other) =
      if name = other then
        (commands.find? (·.matches other)).map fun command => { command with handler }
      else commands.find? (·.matches other) := by
  induction commands generalizing swapped with
  | nil => simp [swapHandler] at hswap
  | cons command rest ih =>
    simp only [swapHandler] at hswap
    split at hswap
    · next hmatch =>
      obtain rfl := Option.some.inj hswap
      have hname : command.name = name := (command.matches_iff name).1 hmatch
      by_cases hother : name = other
      · simp [Command.matches, hname, hother]
      · simp [Command.matches, hname, hother]
    · next hmatch =>
      obtain ⟨tail, htail, rfl⟩ := Option.map_eq_some_iff.1 hswap
      have hname : command.name ≠ name := fun heq => hmatch ((command.matches_iff name).2 heq)
      rw [List.find?_cons, List.find?_cons, ih htail]
      by_cases hother : name = other
      · have : command.matches other = false := by simpa [Command.matches, ← hother] using hname
        simp [this, hother]
      · cases command.matches other <;> simp [hother]

/-- A command whose name does not start with a slash is turned down, and nothing changes. -/
theorem register_of_not_hasSlash {command : Command h} (hname : hasSlash command.name = false)
    (catalog : Catalog h) :
    catalog.insert command = .error (.invalidName command.name) ∧
      catalog.register command = catalog := by
  have hinsert : catalog.insert command = .error (.invalidName command.name) := by
    simp [insert, hname]
  exact ⟨hinsert, by rw [register, hinsert]⟩

/-- A command whose name has its slash is never turned down. -/
theorem insert_of_hasSlash {command : Command h} (hname : hasSlash command.name = true)
    (catalog : Catalog h) : catalog.insert command = .ok (catalog.register command) := by
  unfold register insert
  rw [if_pos hname]
  cases swapHandler command.name command.handler catalog.commands <;> rfl

/-- A new name puts its command behind the others; a name that is known has its handler swapped. -/
theorem register_cases {command : Command h} (hname : hasSlash command.name = true)
    (catalog : Catalog h) :
    (command.name ∉ catalog.names ∧ catalog.register command = ⟨catalog.commands ++ [command]⟩) ∨
      (command.name ∈ catalog.names ∧ ∃ swapped,
        swapHandler command.name command.handler catalog.commands = some swapped ∧
          catalog.register command = ⟨swapped⟩) := by
  have hnew := swapHandler_eq_none_iff command.name command.handler catalog.commands
  unfold register insert
  rw [if_pos hname]
  cases hswap : swapHandler command.name command.handler catalog.commands with
  | none => exact .inl ⟨hnew.1 hswap, rfl⟩
  | some swapped =>
    refine .inr ⟨?_, swapped, rfl, rfl⟩
    by_contra hnot
    rw [hnew.2 hnot] at hswap
    cases hswap

/-- An accepted command joins the names at the end, unless its name is there already. -/
theorem names_register {command : Command h} (hname : hasSlash command.name = true)
    (catalog : Catalog h) :
    (catalog.register command).names =
      if command.name ∈ catalog.names then catalog.names
      else catalog.names ++ [command.name] := by
  obtain ⟨hnew, hreg⟩ | ⟨hknown, swapped, hswap, hreg⟩ := register_cases hname catalog
  · rw [hreg, if_neg hnew]
    exact List.map_append
  · rw [hreg, if_pos hknown]
    exact map_name_of_swapHandler hswap

/-- A look-up fails exactly for the names that the catalog does not hold. -/
theorem find?_eq_none_iff (catalog : Catalog h) (name : String) :
    catalog.find? name = none ↔ name ∉ catalog.names := by
  simp [find?, names, Command.matches]

/-- What is found under a name has that name. -/
theorem name_of_find? {catalog : Catalog h} {name : String} {command : Command h}
    (hfind : catalog.find? name = some command) : command.name = name := by
  have hmatch := List.find?_some hfind
  exact (command.matches_iff name).1 hmatch

/-- What a name stands for after the addition of a command under it, by what it stood for
before. -/
def revised (before : Option (Command h)) (command : Command h) : Command h :=
  match before with
  | none => command
  | some first => { first with handler := command.handler }

/-- Behind an accepted addition its own name leads to the revised command, and every other name to
what it led to before. -/
theorem find?_register {command : Command h} (hname : hasSlash command.name = true)
    (catalog : Catalog h) (name : String) :
    (catalog.register command).find? name =
      if command.name = name then some (revised (catalog.find? name) command)
      else catalog.find? name := by
  obtain ⟨hnew, hreg⟩ | ⟨hknown, swapped, hswap, hreg⟩ := register_cases hname catalog
  · have hnone := (catalog.find?_eq_none_iff command.name).2 hnew
    rw [hreg, find?, List.find?_append, ← find?]
    by_cases hother : command.name = name
    · rw [if_pos hother, ← hother, hnone]
      simp [Command.matches, revised]
    · simp [Command.matches, hother]
  · have hsome : (catalog.find? command.name).isSome = true := by
      rw [Option.isSome_iff_ne_none, ne_eq, find?_eq_none_iff]
      exact not_not_intro hknown
    obtain ⟨first, hfirst⟩ := Option.isSome_iff_exists.1 hsome
    rw [hreg, find?, find?_of_swapHandler hswap, ← find?]
    by_cases hother : command.name = name
    · rw [if_pos hother, if_pos hother, ← hother, hfirst]
      rfl
    · rw [if_neg hother, if_neg hother]

/-! ## A whole history -/

/-- The additions of a history that a catalog accepts. -/
def accepted (history : List (Command h)) : List (Command h) :=
  history.filter fun command => hasSlash command.name

/-- What accepted additions say about a name: the help text of the first one under it and the
handler of the last. -/
def recalled (additions : List (Command h)) (name : String) : Option (Command h) :=
  (additions.find? (·.matches name)).bind fun first =>
    (additions.reverse.find? (·.matches name)).map fun last =>
      { first with handler := last.handler }

/-- One more attempt at the end of a history is one more addition to the catalog. -/
theorem ofHistory_append (history : List (Command h)) (command : Command h) :
    ofHistory (history ++ [command]) = (ofHistory history).register command := by
  simp [ofHistory]

/-- A command whose name has its slash joins the accepted ones. -/
theorem accepted_append {command : Command h} (hname : hasSlash command.name = true)
    (history : List (Command h)) : accepted (history ++ [command]) = accepted history ++ [command] := by
  simp [accepted, hname]

/-- A command whose name lacks the slash does not join the accepted ones. -/
theorem accepted_append_of_not_hasSlash {command : Command h}
    (hname : hasSlash command.name = false) (history : List (Command h)) :
    accepted (history ++ [command]) = accepted history := by
  simp [accepted, hname]

/-- Induction on a history from its end.  An addition that is turned down changes neither the
catalog nor the accepted additions, so only the accepted ones need a step. -/
@[elab_as_elim]
theorem history_induction {motive : Catalog h → List (Command h) → Prop}
    (nil : motive ⟨[]⟩ [])
    (accept : ∀ catalog additions command, hasSlash command.name = true →
      motive catalog additions → motive (catalog.register command) (additions ++ [command]))
    (history : List (Command h)) : motive (ofHistory history) (accepted history) := by
  induction history using List.reverseRecOn with
  | nil => exact nil
  | append_singleton history command ih =>
    rw [ofHistory_append]
    by_cases hname : hasSlash command.name = true
    · rw [accepted_append hname]
      exact accept _ _ command hname ih
    · have hname : hasSlash command.name = false := by simpa using hname
      rw [(register_of_not_hasSlash hname _).2, accepted_append_of_not_hasSlash hname]
      exact ih

/-- The names of a catalog are those of the accepted additions, each at its first place. -/
theorem names_ofHistory (history : List (Command h)) :
    (ofHistory history).names = ((accepted history).map Command.name).eraseDups := by
  refine history_induction rfl ?accept history
  case accept =>
    intro catalog additions command hname ih
    rw [names_register hname, List.map_append, List.eraseDups_append, ih]
    by_cases hknown : command.name ∈ additions.map Command.name
    · rw [if_pos (List.mem_eraseDups.2 hknown)]
      simp [List.cons_removeAll, hknown]
    · rw [if_neg (fun hmem => hknown (List.mem_eraseDups.1 hmem))]
      simp [List.cons_removeAll, List.eraseDups_cons, hknown]

/-- Whatever the history, every name in the catalog has its slash. -/
theorem hasSlash_of_mem_ofHistory {history : List (Command h)} {command : Command h}
    (hcommand : command ∈ (ofHistory history).commands) : hasSlash command.name = true := by
  have hname : command.name ∈ (ofHistory history).names := List.mem_map_of_mem hcommand
  rw [names_ofHistory, List.mem_eraseDups] at hname
  obtain ⟨added, hadded, hsame⟩ := List.mem_map.1 hname
  rw [← hsame]
  exact (List.mem_filter.1 hadded).2

/-- Nothing is recalled under a name exactly if no addition has it. -/
theorem recalled_eq_none_iff (additions : List (Command h)) (name : String) :
    recalled additions name = none ↔ ∀ command ∈ additions, command.name ≠ name := by
  constructor
  · intro hnone command hmem hname
    obtain ⟨first, hfirst⟩ := exists_find?_of_mem hmem hname
    obtain ⟨last, hlast⟩ := exists_find?_of_mem (List.mem_reverse.2 hmem) hname
    simp [recalled, hfirst, hlast] at hnone
  · intro hnew
    have hfirst : additions.find? (·.matches name) = none := by
      rw [List.find?_eq_none]
      intro command hmem hmatch
      exact hnew command hmem ((command.matches_iff name).1 hmatch)
    rw [recalled, hfirst]
    rfl

/-- What additions say about a name comes from the first and the last one under it. -/
theorem first_last_of_recalled {additions : List (Command h)} {name : String} {command : Command h}
    (hrecalled : recalled additions name = some command) :
    (∃ first, additions.find? (·.matches name) = some first ∧
        command.description = first.description) ∧
      ∃ last, additions.reverse.find? (·.matches name) = some last ∧
        command.handler = last.handler := by
  obtain ⟨first, hfirst, hrest⟩ := Option.bind_eq_some_iff.1 hrecalled
  obtain ⟨last, hlast, rfl⟩ := Option.map_eq_some_iff.1 hrest
  exact ⟨⟨first, hfirst, rfl⟩, last, hlast, rfl⟩

/-- One more addition changes what is said about its own name only. -/
theorem recalled_append (additions : List (Command h)) (command : Command h) (name : String) :
    recalled (additions ++ [command]) name =
      if command.name = name then some (revised (recalled additions name) command)
      else recalled additions name := by
  unfold recalled
  by_cases hother : command.name = name
  · have hmatch : command.matches name = true := (command.matches_iff name).2 hother
    rw [if_pos hother]
    cases hfirst : additions.find? (·.matches name) with
    | none => simp [List.find?_append, hfirst, hmatch, revised]
    | some first =>
      have hfirst' := List.find?_some hfirst
      obtain ⟨last, hlast⟩ := exists_find?_of_mem
        (List.mem_reverse.2 (List.mem_of_find?_eq_some hfirst)) ((first.matches_iff name).1 hfirst')
      simp [List.find?_append, hfirst, hlast, hmatch, revised]
  · have hmatch : command.matches name = false := by simpa [Command.matches] using hother
    simp [List.find?_append, hmatch, hother]

/-- A look-up finds what the accepted additions make one recall. -/
theorem find?_ofHistory (history : List (Command h)) (name : String) :
    (ofHistory history).find? name = recalled (accepted history) name := by
  refine history_induction rfl ?accept history
  case accept =>
    intro catalog additions command hname ih
    rw [find?_register hname, recalled_append, ih]

/-- No name comes twice in a catalog, whatever its history. -/
theorem nodup_names_ofHistory (history : List (Command h)) : (ofHistory history).names.Nodup := by
  refine history_induction List.nodup_nil ?accept history
  case accept =>
    intro catalog additions command hname ih
    rw [names_register hname]
    split
    · exact ih
    · next hnew => exact ih.append (List.nodup_singleton _) (by simpa using hnew)

/-- When names are pairwise distinct, a look-up finds the one command of that name. -/
theorem find?_eq_some_iff {catalog : Catalog h} (hnodup : catalog.names.Nodup) (name : String)
    (command : Command h) :
    catalog.find? name = some command ↔ command ∈ catalog.commands ∧ command.name = name := by
  constructor
  · intro hfind
    exact ⟨List.mem_of_find?_eq_some hfind, name_of_find? hfind⟩
  · rintro ⟨hmem, rfl⟩
    obtain ⟨found, hfound⟩ := exists_find?_of_mem hmem rfl
    rw [find?, hfound, List.inj_on_of_nodup_map hnodup (List.mem_of_find?_eq_some hfound) hmem
      (name_of_find? hfound)]

/-- A catalog is what its history says.  The names are those of the accepted additions, each at its
first place and none twice, and each starts with a slash.  A command has the help text of the first
accepted addition under its name and the handler of the last one.  A look-up finds the one command
of its name, and nothing when no addition under the name was accepted.  One more addition goes
through when its name starts with a slash; otherwise the error tells the name and nothing
changes. -/
theorem ofHistory_eq_recalled (history : List (Command h)) :
    let catalog := ofHistory history
    catalog.names = ((accepted history).map Command.name).eraseDups ∧
      catalog.names.Nodup ∧
      (∀ name ∈ catalog.names, name.toList.head? = some '/') ∧
      (∀ command ∈ catalog.commands,
        (∃ first, (accepted history).find? (·.matches command.name) = some first ∧
          command.description = first.description) ∧
        ∃ last, (accepted history).reverse.find? (·.matches command.name) = some last ∧
          command.handler = last.handler) ∧
      (∀ name command,
        catalog.find? name = some command ↔ command ∈ catalog.commands ∧ command.name = name) ∧
      (∀ name, catalog.find? name = none ↔ ∀ command ∈ accepted history, command.name ≠ name) ∧
      ∀ command : Command h,
        (hasSlash command.name = true →
          catalog.insert command = .ok (ofHistory (history ++ [command]))) ∧
        (hasSlash command.name = false →
          catalog.insert command = .error (.invalidName command.name) ∧
            ofHistory (history ++ [command]) = catalog) := by
  intro catalog
  have hnames : catalog.names = ((accepted history).map Command.name).eraseDups :=
    names_ofHistory history
  have hnodup : catalog.names.Nodup := nodup_names_ofHistory history
  have hmem (name : String) :
      name ∈ catalog.names ↔ ∃ command ∈ accepted history, command.name = name := by
    rw [hnames, List.mem_eraseDups, List.mem_map]
  refine ⟨hnames, hnodup, ?_, ?_, find?_eq_some_iff hnodup, ?_, ?_⟩
  · intro name hname
    obtain ⟨command, hcommand, rfl⟩ := (hmem name).1 hname
    simpa [hasSlash] using (List.mem_filter.1 hcommand).2
  · intro command hcommand
    have hfind : recalled (accepted history) command.name = some command := by
      rw [← find?_ofHistory]
      exact (find?_eq_some_iff hnodup _ _).2 ⟨hcommand, rfl⟩
    exact first_last_of_recalled hfind
  · intro name
    rw [find?_ofHistory, recalled_eq_none_iff]
  · intro command
    rw [ofHistory_append]
    exact ⟨fun hname => insert_of_hasSlash hname catalog,
      fun hname => register_of_not_hasSlash hname catalog⟩

end Catalog

end SlashChat
