import Mathlib.Data.List.TakeWhile
import SlashChat.Plugin.Set
import SlashChat.Proofs.Catalog.History

/-!
# Installing plugins

Loading a set of plugins into a catalog adds the commands of all plugins, one after the other, up to
the first one whose name has no slash (`install_eq_insertAll`, `insertAll_eq_foldl_register`).  So
the catalog behind it has the history of the catalog before it and then the commands in front of
that one, the *leading* ones.

A history that ends in the same commands twice says about every name what it says with these
commands once (`recalled_append_self`), and the names and the look-ups are all there is to a catalog
with distinct names (`eq_of_find?_eq`).  Hence a second loading changes nothing
(`install_ofHistory_twice`).
-/

set_option autoImplicit false

namespace SlashChat

variable {h σ : Type}

namespace Catalog

/-! ## Adding commands up to the first that is turned down -/

/-- The commands in front of the first one whose name has no slash. -/
def leading (commands : List (Command h)) : List (Command h) :=
  commands.takeWhile fun command => hasSlash command.name

/-- The error that adding commands in order ends with, if one of them is turned down. -/
def refusal? (commands : List (Command h)) : Option CommandError :=
  (commands.find? fun command => !hasSlash command.name).map fun command =>
    .invalidName command.name

/-- The names of the leading commands all have their slash. -/
theorem hasSlash_of_mem_leading {commands : List (Command h)} {command : Command h}
    (hmem : command ∈ leading commands) : hasSlash command.name = true := by
  unfold leading at hmem
  have htaken := List.mem_takeWhile_imp hmem
  exact htaken

/-- A command whose name has its slash leads in front of the other leading ones. -/
theorem leading_cons_of_hasSlash {command : Command h} (hname : hasSlash command.name = true)
    (rest : List (Command h)) : leading (command :: rest) = command :: leading rest := by
  unfold leading
  exact List.takeWhile_cons_of_pos hname

/-- Behind a command whose name lacks the slash none leads, nor does it. -/
theorem leading_cons_of_not_hasSlash {command : Command h}
    (hname : hasSlash command.name = false) (rest : List (Command h)) :
    leading (command :: rest) = [] := by
  unfold leading
  exact List.takeWhile_cons_of_neg (by simp [hname])

/-- A command whose name has its slash is not what adding stops at. -/
theorem refusal?_cons_of_hasSlash {command : Command h} (hname : hasSlash command.name = true)
    (rest : List (Command h)) : refusal? (command :: rest) = refusal? rest := by
  unfold refusal?
  rw [List.find?_cons_of_neg (by simp [hname])]

/-- A command whose name lacks the slash is what adding stops at. -/
theorem refusal?_cons_of_not_hasSlash {command : Command h}
    (hname : hasSlash command.name = false) (rest : List (Command h)) :
    refusal? (command :: rest) = some (.invalidName command.name) := by
  unfold refusal?
  rw [List.find?_cons_of_pos (by simp [hname])]
  rfl

/-- Adding commands in order adds the leading ones and answers with what it stopped at. -/
theorem insertAll_eq_foldl_register (commands : List (Command h)) (catalog : Catalog h) :
    catalog.insertAll commands =
      ((leading commands).foldl register catalog,
        match refusal? commands with
        | none => .ok ()
        | some cause => .error cause) := by
  induction commands generalizing catalog with
  | nil => rfl
  | cons command rest ih =>
    cases hname : hasSlash command.name with
    | true =>
      rw [insertAll, insert_of_hasSlash hname, leading_cons_of_hasSlash hname,
        refusal?_cons_of_hasSlash hname, List.foldl_cons]
      exact ih (catalog.register command)
    | false =>
      rw [insertAll, (register_of_not_hasSlash hname catalog).1,
        leading_cons_of_not_hasSlash hname, refusal?_cons_of_not_hasSlash hname]
      rfl

/-- Adding two groups of commands adds the second only if the first is added in full. -/
theorem insertAll_append (commands more : List (Command h)) (catalog : Catalog h) :
    catalog.insertAll (commands ++ more) =
      match catalog.insertAll commands with
      | (next, .ok ()) => next.insertAll more
      | (next, .error cause) => (next, .error cause) := by
  induction commands generalizing catalog with
  | nil => rfl
  | cons command rest ih =>
    rw [List.cons_append, insertAll, insertAll]
    cases catalog.insert command with
    | error cause => rfl
    | ok next => exact ih next

/-- Commands whose names all have their slash are added one by one without a refusal. -/
theorem foldlM_insert_of_hasSlash {commands : List (Command h)}
    (hnames : ∀ command ∈ commands, hasSlash command.name = true) (catalog : Catalog h) :
    commands.foldlM insert catalog = .ok (commands.foldl register catalog) := by
  induction commands generalizing catalog with
  | nil => rfl
  | cons command rest ih =>
    have hname := hnames command List.mem_cons_self
    have hrest : ∀ other ∈ rest, hasSlash other.name = true :=
      fun other hmem => hnames other (List.mem_cons_of_mem command hmem)
    rw [List.foldlM_cons, insert_of_hasSlash hname, List.foldl_cons]
    exact ih hrest (catalog.register command)

/-! ## Adding the same commands twice -/

/-- Further attempts at the end of a history go on from the catalog that it built. -/
theorem ofHistory_append_eq_foldl (history commands : List (Command h)) :
    ofHistory (history ++ commands) = commands.foldl register (ofHistory history) :=
  List.foldl_append

/-- Of two histories put together the accepted commands are those of both, in order. -/
theorem accepted_append_append (history commands : List (Command h)) :
    accepted (history ++ commands) = accepted history ++ accepted commands :=
  List.filter_append ..

/-- The names and the look-ups decide what a catalog with distinct names is. -/
theorem eq_of_find?_eq {catalog other : Catalog h} (hnodup : catalog.names.Nodup)
    (hnames : other.names = catalog.names)
    (hfind : ∀ name, other.find? name = catalog.find? name) : other = catalog := by
  have hlength : other.commands.length = catalog.commands.length := by
    have hmap := congrArg List.length hnames
    simpa [names] using hmap
  have hcommands : other.commands = catalog.commands := by
    apply List.ext_getElem hlength
    intro place hplace hplace'
    -- The commands at one place have one name, and so each is what the name stands for.
    have hname : other.commands[place].name = catalog.commands[place].name := by
      have hget : other.names[place]? = catalog.names[place]? := by rw [hnames]
      simpa [names, hplace, hplace'] using hget
    have hleft : other.find? other.commands[place].name = some other.commands[place] :=
      (find?_eq_some_iff (hnames ▸ hnodup) _ _).2 ⟨List.getElem_mem hplace, rfl⟩
    have hright : catalog.find? catalog.commands[place].name = some catalog.commands[place] :=
      (find?_eq_some_iff hnodup _ _).2 ⟨List.getElem_mem hplace', rfl⟩
    rw [hname, hfind, hright] at hleft
    exact (Option.some.inj hleft).symm
  cases other
  cases catalog
  exact congrArg Catalog.mk hcommands

/-- Names that come a second time add no name. -/
theorem eraseDups_append_self (names more : List String) :
    (names ++ more ++ more).eraseDups = (names ++ more).eraseDups := by
  have hknown : more.removeAll (names ++ more) = [] := by
    unfold List.removeAll
    rw [List.filter_eq_nil_iff]
    intro name hmem
    simp [hmem]
  rw [List.eraseDups_append, hknown, List.eraseDups_nil, List.append_nil]

/-- Additions that come a second time say nothing new about any name: the first addition under it
was there before, and the last one is the same. -/
theorem recalled_append_self (additions more : List (Command h)) (name : String) :
    recalled (additions ++ more ++ more) name = recalled (additions ++ more) name := by
  unfold recalled
  have hfirst : (additions ++ more ++ more).find? (·.matches name) =
      (additions ++ more).find? (·.matches name) := by
    rw [List.find?_append, List.find?_append]
    cases additions.find? (·.matches name) <;> cases more.find? (·.matches name) <;> rfl
  have hlast : (additions ++ more ++ more).reverse.find? (·.matches name) =
      (additions ++ more).reverse.find? (·.matches name) := by
    simp only [List.reverse_append, List.find?_append]
    cases more.reverse.find? (·.matches name) <;> rfl
  rw [hfirst, hlast]

/-- Attempts made a second time leave the catalog as it is. -/
theorem ofHistory_append_self (history more : List (Command h)) :
    ofHistory (history ++ more ++ more) = ofHistory (history ++ more) := by
  apply eq_of_find?_eq (nodup_names_ofHistory _)
  · simp only [names_ofHistory, accepted_append_append, List.map_append]
    exact eraseDups_append_self _ _
  · intro name
    simp only [find?_ofHistory, accepted_append_append]
    exact recalled_append_self _ _ name

end Catalog

namespace PluginSet

open Catalog (leading refusal?)

/-- The commands of all plugins, plugin by plugin. -/
def commands (set : PluginSet h σ) : List (Command h) := set.plugins.flatMap Plugin.commands

/-- Adding the commands of some plugins is adding all their commands in order. -/
theorem installFrom_eq_insertAll (plugins : List (Plugin h σ)) (catalog : Catalog h) :
    installFrom plugins catalog = catalog.insertAll (plugins.flatMap Plugin.commands) := by
  induction plugins generalizing catalog with
  | nil => rfl
  | cons plugin rest ih =>
    rw [installFrom, List.flatMap_cons, Catalog.insertAll_append]
    rcases catalog.insertAll plugin.commands with ⟨next, ⟨cause⟩ | ⟨done⟩⟩
    · rfl
    · exact ih next

/-- Loading plugins adds the leading commands of all of them, and the answer is their number unless
a command is turned down. -/
theorem install_eq_insertAll (set : PluginSet h σ) (catalog : Catalog h) :
    set.install catalog =
      ((leading set.commands).foldl Catalog.register catalog,
        match refusal? set.commands with
        | none => .ok set.plugins.length
        | some cause => .error cause) := by
  unfold install
  rw [installFrom_eq_insertAll, Catalog.insertAll_eq_foldl_register]
  unfold commands
  cases refusal? (set.plugins.flatMap Plugin.commands) <;> rfl

/-- A catalog with nothing but the fortune plugin holds the one command of its teller. -/
theorem install_fortune {τ : Type} (number : Nat) (table : FortuneTable) :
    (⟨[Plugin.fortune number table]⟩ : PluginSet (Binding τ) (World τ)).install {} =
      (⟨[⟨fortuneCommand, fortuneHelp, .teller number⟩]⟩, .ok 1) := by
  have hname : hasSlash fortuneCommand = true := by decide
  simp [install, installFrom, Plugin.fortune, Catalog.insertAll, Catalog.insert,
    Catalog.swapHandler, hname, Except.map]

/-- Loading plugins into a catalog adds the commands of all plugins, in the order of the plugins and
then in that of their lists, up to the first command whose name has no slash.  All of these go
through, and they stay.  If there is no such command the answer is the number of plugins, and
otherwise it is the error that tells the name.  Loading the plugins a second time gives the same
answer, and leaves the catalog as it is. -/
theorem install_ofHistory_twice (set : PluginSet h σ) (history : List (Command h)) :
    let before := Catalog.ofHistory history
    let added := set.commands.takeWhile fun command => hasSlash command.name
    let refused := set.commands.find? fun command => !hasSlash command.name
    ∃ after answer, set.install before = (after, answer) ∧
      added.foldlM Catalog.insert before = .ok after ∧
      answer =
        (match refused with
        | none => .ok set.plugins.length
        | some command => .error (.invalidName command.name)) ∧
      set.install after = (after, answer) := by
  intro before added refused
  have hafter : added.foldl Catalog.register before = Catalog.ofHistory (history ++ added) :=
    (Catalog.ofHistory_append_eq_foldl history added).symm
  have hagain : added.foldl Catalog.register (added.foldl Catalog.register before) =
      added.foldl Catalog.register before := by
    rw [hafter, ← Catalog.ofHistory_append_eq_foldl]
    exact Catalog.ofHistory_append_self history added
  refine ⟨_, _, set.install_eq_insertAll before, ?_, ?_, ?_⟩
  · apply Catalog.foldlM_insert_of_hasSlash
    intro command hmem
    exact Catalog.hasSlash_of_mem_leading hmem
  · have hrefusal : refusal? set.commands =
        refused.map fun command => .invalidName command.name := rfl
    rw [hrefusal]
    cases refused <;> rfl
  · rw [install_eq_insertAll]
    exact congrArg (·, _) hagain

end PluginSet

end SlashChat
