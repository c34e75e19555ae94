import Mathlib.Data.List.Induction
import Mathlib.Data.List.Nodup
import SlashChat.Plugin.Set

/-!
# The life of plugins

A `Setup` is a set of plugins with the catalog that they are loaded into and the state that handlers
share.  A `PluginOrder` adds a plugin, removes one or loads them all; the orders that succeed in
adding or removing leave a `PluginChange`.

What one order does depends on the names in use alone (`step_add`, `step_remove`), as long as no two
plugins have one name, which every order keeps so.  Over a run the plugins in use are those whose
latest change is an addition, in the order of these additions, and the shared state has gone through
the cleanups of the removed plugins, one after the other (`run_eq_standing`).
-/

set_option autoImplicit false

namespace SlashChat

section Generic

variable {h σ : Type}

/-- Something that is asked of a set of plugins. -/
inductive PluginOrder (h σ : Type)
  | add (plugin : Plugin h σ)
  | remove (name : String)
  | install

/-- A plugin that has come or gone. -/
inductive PluginChange (h σ : Type)
  | added (plugin : Plugin h σ)
  | removed (plugin : Plugin h σ)

namespace PluginChange

/-- The plugin that has come or gone. -/
def plugin : PluginChange h σ → Plugin h σ
  | .added plugin | .removed plugin => plugin

/-- The plugin that has gone, if one has. -/
def gone? : PluginChange h σ → Option (Plugin h σ)
  | .added _ => none
  | .removed plugin => some plugin

/-- The plugins whose latest change is an addition, in the order of these additions. -/
def standing : List (PluginChange h σ) → List (Plugin h σ)
  | [] => []
  | .removed _ :: rest => standing rest
  | .added plugin :: rest =>
    if rest.any (·.plugin.name == plugin.name) then standing rest else plugin :: standing rest

/-- One more change takes its plugin's name out of those that stand, and an addition puts the plugin
at their end. -/
theorem standing_append (changes : List (PluginChange h σ)) (change : PluginChange h σ) :
    standing (changes ++ [change]) =
      (standing changes).filter (fun plugin => plugin.name != change.plugin.name) ++
        match change with
        | .added plugin => [plugin]
        | .removed _ => [] := by
  induction changes with
  | nil => cases change <;> simp [standing]
  | cons first rest ih =>
    cases first with
    | removed gone => exact ih
    | added plugin =>
      rw [List.cons_append, standing, standing, ih, List.any_append]
      cases hlater : rest.any (·.plugin.name == plugin.name) with
      | true => simp
      | false =>
        by_cases hname : plugin.name = change.plugin.name
        · simp [hname]
        · simp [hname, Ne.symm hname]

/-- Plugins that were added once each, and never removed, all stand. -/
theorem standing_map_added {plugins : List (Plugin h σ)}
    (hnodup : (plugins.map Plugin.name).Nodup) : standing (plugins.map .added) = plugins := by
  induction plugins with
  | nil => rfl
  | cons plugin rest ih =>
    obtain ⟨hnew, hrest⟩ := List.nodup_cons.1 hnodup
    have hlater : (rest.map PluginChange.added).any (·.plugin.name == plugin.name) = false := by
      rw [List.any_eq_false]
      intro change hmem hname
      obtain ⟨other, hother, rfl⟩ := List.mem_map.1 hmem
      exact hnew (List.mem_map.2 ⟨other, hother, by simpa [PluginChange.plugin] using hname⟩)
    rw [List.map_cons, standing, hlater, ih hrest]
    rfl

end PluginChange

/-- A set of plugins with the catalog that they are loaded into and the state that handlers
share. -/
structure Setup (h σ : Type) where
  plugins : PluginSet h σ
  catalog : Catalog h
  state : σ

namespace PluginSet

/-! ## One addition and one removal -/

/-- A plugin is in use exactly if its name is among the names. -/
theorem has_iff_mem_names (set : PluginSet h σ) (name : String) :
    set.has name = true ↔ name ∈ set.names := by
  simp [has, names]

/-- A plugin whose name is in use is turned down. -/
theorem add_of_mem {set : PluginSet h σ} {plugin : Plugin h σ} (hmem : plugin.name ∈ set.names) :
    set.add plugin = .error (.alreadyRegistered plugin.name) := by
  unfold add
  rw [if_pos ((set.has_iff_mem_names _).2 hmem)]

/-- A plugin with a new name joins at the end. -/
theorem add_of_not_mem {set : PluginSet h σ} {plugin : Plugin h σ}
    (hnew : plugin.name ∉ set.names) : set.add plugin = .ok ⟨set.plugins ++ [plugin]⟩ := by
  unfold add
  rw [if_neg (fun hhas => hnew ((set.has_iff_mem_names _).1 hhas))]

/-- Plugins are added as long as no two of all have one name. -/
theorem addAll_of_nodup {set : PluginSet h σ} {plugins : List (Plugin h σ)}
    (hnodup : (set.names ++ plugins.map Plugin.name).Nodup) :
    set.addAll plugins = .ok ⟨set.plugins ++ plugins⟩ := by
  induction plugins generalizing set with
  | nil => rw [addAll, List.append_nil]
  | cons plugin rest ih =>
    have hnew : plugin.name ∉ set.names := fun hmem =>
      (List.nodup_append.1 hnodup).2.2 _ hmem _ List.mem_cons_self rfl
    let more : PluginSet h σ := ⟨set.plugins ++ [plugin]⟩
    have hmore : (more.names ++ rest.map Plugin.name).Nodup := by
      simpa [more, names, List.append_assoc] using hnodup
    rw [addAll, add_of_not_mem hnew]
    exact (ih hmore).trans (by rw [List.append_assoc, List.singleton_append])

/-- A name that is not in use cannot be removed. -/
theorem remove_of_not_mem {set : PluginSet h σ} {name : String} (hnew : name ∉ set.names)
    (state : σ) : set.remove name state = .error (.notFound name) := by
  have hnone : set.plugins.find? (·.name == name) = none := by
    rw [List.find?_eq_none]
    intro plugin hmem hname
    exact hnew (List.mem_map.2 ⟨plugin, hmem, by simpa using hname⟩)
  unfold remove
  rw [hnone]

/-- Among plugins with distinct names the first one of a name is the only one. -/
theorem find?_of_mem {plugins : List (Plugin h σ)} (hnodup : (plugins.map Plugin.name).Nodup)
    {plugin : Plugin h σ} (hmem : plugin ∈ plugins) :
    plugins.find? (·.name == plugin.name) = some plugin := by
  have hsome : (plugins.find? (·.name == plugin.name)).isSome = true := by
    rw [List.find?_isSome]
    exact ⟨plugin, hmem, beq_self_eq_true _⟩
  obtain ⟨found, hfound⟩ := Option.isSome_iff_exists.1 hsome
  have hname : found.name = plugin.name := by simpa using List.find?_some hfound
  rw [hfound, List.inj_on_of_nodup_map hnodup (List.mem_of_find?_eq_some hfound) hmem hname]

/-- Where names are distinct, erasing the first plugin of a name erases all of that name. -/
theorem eraseP_eq_filter {plugins : List (Plugin h σ)} (hnodup : (plugins.map Plugin.name).Nodup)
    (name : String) :
    plugins.eraseP (·.name == name) = plugins.filter fun plugin => plugin.name != name := by
  induction plugins with
  | nil => rfl
  | cons plugin rest ih =>
    obtain ⟨hnew, hrest⟩ := List.nodup_cons.1 hnodup
    by_cases hname : plugin.name = name
    · have hall : ∀ other ∈ rest, (other.name != name) = true := by
        intro other hmem
        have hne : other.name ≠ name := by
          intro hother
          exact hnew (List.mem_map.2 ⟨other, hmem, hother.trans hname.symm⟩)
        simpa using hne
      rw [List.eraseP_cons_of_pos (by simpa using hname),
        List.filter_cons_of_neg (by simpa using hname), List.filter_eq_self.2 hall]
    · rw [List.eraseP_cons_of_neg (by simpa using hname),
        List.filter_cons_of_pos (by simpa using hname), ih hrest]

/-- Removing a plugin that is in use takes it out and runs its cleanup. -/
theorem remove_of_mem {set : PluginSet h σ} (hnodup : set.names.Nodup) {plugin : Plugin h σ}
    (hmem : plugin ∈ set.plugins) (state : σ) :
    set.remove plugin.name state =
      .ok (⟨set.plugins.filter fun other => other.name != plugin.name⟩, plugin.cleanup state) := by
  unfold remove
  rw [find?_of_mem hnodup hmem, eraseP_eq_filter hnodup]

end PluginSet

namespace Setup

/-- The setup after an order; one that fails changes nothing. -/
def step (setup : Setup h σ) : PluginOrder h σ → Setup h σ
  | .add plugin =>
    match setup.plugins.add plugin with
    | .ok plugins => { setup with plugins }
    | .error _ => setup
  | .remove name =>
    match setup.plugins.remove name setup.state with
    | .ok (plugins, state) => { setup with plugins, state }
    | .error _ => setup
  | .install => { setup with catalog := (setup.plugins.install setup.catalog).1 }

/-- The change that an order makes, if it succeeds in adding or removing a plugin. -/
def change? (setup : Setup h σ) : PluginOrder h σ → Option (PluginChange h σ)
  | .add plugin =>
    match setup.plugins.add plugin with
    | .ok _ => some (.added plugin)
    | .error _ => none
  | .remove name =>
    match setup.plugins.remove name setup.state with
    | .ok _ => (setup.plugins.plugins.find? (·.name == name)).map .removed
    | .error _ => none
  | .install => none

/-- The setup after some orders. -/
def run (setup : Setup h σ) (orders : List (PluginOrder h σ)) : Setup h σ :=
  orders.foldl step setup

/-- The changes that some orders make. -/
def changes (setup : Setup h σ) : List (PluginOrder h σ) → List (PluginChange h σ)
  | [] => []
  | order :: rest => (setup.change? order).toList ++ (setup.step order).changes rest

/-- An order at the end of a run is carried out on the setup that the run leads to. -/
theorem run_append (setup : Setup h σ) (orders : List (PluginOrder h σ)) (order : PluginOrder h σ) :
    setup.run (orders ++ [order]) = (setup.run orders).step order := by
  simp [run]

/-- An order at the end of a run makes its change behind those of the run. -/
theorem changes_append (setup : Setup h σ) (orders : List (PluginOrder h σ))
    (order : PluginOrder h σ) :
    setup.changes (orders ++ [order]) =
      setup.changes orders ++ ((setup.run orders).change? order).toList := by
  induction orders generalizing setup with
  | nil => simp [changes, run]
  | cons first rest ih =>
    rw [List.cons_append, changes, changes, ih, List.append_assoc]
    rfl

/-! ## One order -/

/-- Adding a plugin fails exactly when its name is in use. -/
theorem step_add (setup : Setup h σ) (plugin : Plugin h σ) :
    (plugin.name ∈ setup.plugins.names ∧
        setup.plugins.add plugin = .error (.alreadyRegistered plugin.name) ∧
        setup.step (.add plugin) = setup ∧ setup.change? (.add plugin) = none) ∨
      (plugin.name ∉ setup.plugins.names ∧
        setup.plugins.add plugin = .ok ⟨setup.plugins.plugins ++ [plugin]⟩ ∧
        setup.step (.add plugin) =
          { setup with plugins := ⟨setup.plugins.plugins ++ [plugin]⟩ } ∧
        setup.change? (.add plugin) = some (.added plugin)) := by
  by_cases hmem : plugin.name ∈ setup.plugins.names
  · have hadd := PluginSet.add_of_mem hmem
    refine .inl ⟨hmem, hadd, ?_, ?_⟩
    · simp only [step, hadd]
    · simp only [change?, hadd]
  · have hadd := PluginSet.add_of_not_mem hmem
    refine .inr ⟨hmem, hadd, ?_, ?_⟩
    · simp only [step, hadd]
    · simp only [change?, hadd]

/-- Removing a plugin fails exactly when its name is not in use. -/
theorem step_remove {setup : Setup h σ} (hnodup : setup.plugins.names.Nodup) (name : String) :
    (name ∉ setup.plugins.names ∧
        setup.plugins.remove name setup.state = .error (.notFound name) ∧
        setup.step (.remove name) = setup ∧ setup.change? (.remove name) = none) ∨
      ∃ plugin ∈ setup.plugins.plugins, plugin.name = name ∧
        setup.plugins.remove name setup.state =
          .ok (⟨setup.plugins.plugins.filter fun other => other.name != name⟩,
            plugin.cleanup setup.state) ∧
        setup.step (.remove name) =
          { setup with
            plugins := ⟨setup.plugins.plugins.filter fun other => other.name != name⟩
            state := plugin.cleanup setup.state } ∧
        setup.change? (.remove name) = some (.removed plugin) := by
  by_cases hmem : name ∈ setup.plugins.names
  · obtain ⟨plugin, hplugin, rfl⟩ := List.mem_map.1 hmem
    have hremove := PluginSet.remove_of_mem hnodup hplugin setup.state
    have hfind := PluginSet.find?_of_mem hnodup hplugin
    refine .inr ⟨plugin, hplugin, rfl, hremove, ?_, ?_⟩
    · simp only [step, hremove]
    · simp only [change?, hremove, hfind, Option.map_some]
  · have hremove := PluginSet.remove_of_not_mem hmem setup.state
    refine .inl ⟨hmem, hremove, ?_, ?_⟩
    · simp only [step, hremove]
    · simp only [change?, hremove]

/-! ## A whole run -/

/-- The shared state after the cleanups of some plugins, one after the other. -/
def cleaned (state : σ) (plugins : List (Plugin h σ)) : σ :=
  plugins.foldl (fun state plugin => plugin.cleanup state) state

/-- What holds of a setup after some changes of an earlier one. -/
structure Follows (changes : List (PluginChange h σ)) (start setup : Setup h σ) : Prop where
  nodup : setup.plugins.names.Nodup
  plugins_eq : setup.plugins.plugins =
    PluginChange.standing (start.plugins.plugins.map .added ++ changes)
  state_eq : setup.state = cleaned start.state (changes.filterMap PluginChange.gone?)

/-- What holds behind some changes holds behind one more order too. -/
theorem follows_step {changes : List (PluginChange h σ)} {start setup : Setup h σ}
    (hfollows : Follows changes start setup) (order : PluginOrder h σ) :
    Follows (changes ++ (setup.change? order).toList) start (setup.step order) := by
  obtain ⟨hnodup, hplugins, hstate⟩ := hfollows
  have hsame : Follows (changes ++ []) start setup := by
    rw [List.append_nil]
    exact ⟨hnodup, hplugins, hstate⟩
  cases order with
  | install => exact ⟨hsame.nodup, hsame.plugins_eq, hsame.state_eq⟩
  | add plugin =>
    obtain ⟨-, -, hstep, hchange⟩ | ⟨hnew, -, hstep, hchange⟩ := setup.step_add plugin
    · rw [hstep, hchange]
      exact hsame
    · have hall : ∀ other ∈ setup.plugins.plugins, (other.name != plugin.name) = true := by
        intro other hmem
        have hne : other.name ≠ plugin.name := by
          intro hname
          exact hnew (List.mem_map.2 ⟨other, hmem, hname⟩)
        simpa using hne
      rw [hstep, hchange, Option.toList_some]
      refine ⟨?_, ?_, ?_⟩
      · show ((setup.plugins.plugins ++ [plugin]).map Plugin.name).Nodup
        rw [List.map_append]
        exact hnodup.append (List.nodup_singleton _) (by simpa [PluginSet.names] using hnew)
      · rw [← List.append_assoc, PluginChange.standing_append, ← hplugins]
        exact congrArg (· ++ [plugin]) (List.filter_eq_self.2 hall).symm
      · have hgone : [PluginChange.added plugin].filterMap PluginChange.gone? = [] := rfl
        rw [List.filterMap_append, hgone, List.append_nil]
        exact hstate
  | remove name =>
    obtain ⟨-, -, hstep, hchange⟩ | ⟨plugin, -, rfl, -, hstep, hchange⟩ := step_remove hnodup name
    · rw [hstep, hchange]
      exact hsame
    · rw [hstep, hchange, Option.toList_some]
      refine ⟨?_, ?_, ?_⟩
      · exact hnodup.sublist (List.Sublist.map Plugin.name List.filter_sublist)
      · rw [← List.append_assoc, PluginChange.standing_append, ← hplugins]
        exact (List.append_nil _).symm
      · simp only [List.filterMap_append, List.filterMap_cons, List.filterMap_nil,
          PluginChange.gone?, cleaned, List.foldl_append, hstate]
        rfl

/-- What holds behind some changes holds after every run. -/
theorem follows_run {start : Setup h σ} (hnodup : start.plugins.names.Nodup)
    (orders : List (PluginOrder h σ)) : Follows (start.changes orders) start (start.run orders) := by
  induction orders using List.reverseRecOn with
  | nil =>
    refine ⟨hnodup, ?_, rfl⟩
    rw [changes, List.append_nil]
    exact (PluginChange.standing_map_added hnodup).symm
  | append_singleton orders order ih =>
    rw [changes_append, run_append]
    exact follows_step ih order

end Setup

end Generic

/-! ## From the beginning -/

section Opening

variable {τ : Type}

/-- How a set of plugins comes about. -/
inductive Opening
  /-- Without plugins. -/
  | empty
  /-- With the plugins that the settings ask for. -/
  | settings (settings : Settings) (seed : Option UInt64) (fresh : Random.Source)

/-- The setup with the plugins that there are in the beginning. -/
def Setup.opened (opening : Opening) (catalog : Catalog (Binding τ)) (world : World τ) :
    Setup (Binding τ) (World τ) :=
  match opening with
  | .empty => ⟨{}, catalog, world⟩
  | .settings settings seed fresh =>
    let (plugins, world) := PluginSet.ofSettings settings seed fresh world
    ⟨plugins, catalog, world⟩

/-- In the beginning no plugin comes twice. -/
theorem Setup.nodup_opened (opening : Opening) (catalog : Catalog (Binding τ)) (world : World τ) :
    (Setup.opened opening catalog world).plugins.names.Nodup := by
  cases opening with
  | empty => exact List.nodup_nil
  | settings settings seed fresh =>
    simp only [Setup.opened, PluginSet.ofSettings]
    split
    · exact List.nodup_singleton _
    · exact List.nodup_nil

/-- Whatever is asked of a set of plugins from its beginning on, no two plugins in it have one name,
and it holds the plugins whose latest change is an addition, in the order of these additions.  The
shared state has gone through the cleanups of the removed plugins, one after the other, and through
nothing else.

A plugin can be added exactly when no plugin has its name, and goes to the end.  A name can be
removed exactly when a plugin has it; that plugin goes, its cleanup is run, and the others stay in
their order.  What fails changes nothing, and neither adding nor removing changes the catalog. -/
theorem Setup.run_eq_standing (opening : Opening) (catalog : Catalog (Binding τ)) (world : World τ)
    (orders : List (PluginOrder (Binding τ) (World τ))) :
    let start := Setup.opened opening catalog world
    let setup := start.run orders
    let changes := start.changes orders
    setup.plugins.names.Nodup ∧
      setup.plugins.plugins =
        PluginChange.standing (start.plugins.plugins.map .added ++ changes) ∧
      setup.state =
        (changes.filterMap PluginChange.gone?).foldl (fun state plugin => plugin.cleanup state)
          start.state ∧
      (∀ plugin : Plugin (Binding τ) (World τ),
        (plugin.name ∈ setup.plugins.names ∧
            setup.plugins.add plugin = .error (.alreadyRegistered plugin.name) ∧
            setup.step (.add plugin) = setup ∧ setup.change? (.add plugin) = none) ∨
          (plugin.name ∉ setup.plugins.names ∧
            setup.plugins.add plugin = .ok ⟨setup.plugins.plugins ++ [plugin]⟩ ∧
            setup.step (.add plugin) =
              { setup with plugins := ⟨setup.plugins.plugins ++ [plugin]⟩ } ∧
            setup.change? (.add plugin) = some (.added plugin))) ∧
      ∀ name : String,
        (name ∉ setup.plugins.names ∧
            setup.plugins.remove name setup.state = .error (.notFound name) ∧
            setup.step (.remove name) = setup ∧ setup.change? (.remove name) = none) ∨
          ∃ plugin ∈ setup.plugins.plugins, plugin.name = name ∧
            setup.plugins.remove name setup.state =
              .ok (⟨setup.plugins.plugins.filter fun other => other.name != name⟩,
                plugin.cleanup setup.state) ∧
            setup.step (.remove name) =
              { setup with
                plugins := ⟨setup.plugins.plugins.filter fun other => other.name != name⟩
                state := plugin.cleanup setup.state } ∧
            setup.change? (.remove name) = some (.removed plugin) := by
  intro start setup changes
  obtain ⟨hnodup, hplugins, hstate⟩ :=
    Setup.follows_run (Setup.nodup_opened opening catalog world) orders
  exact ⟨hnodup, hplugins, hstate, setup.step_add, Setup.step_remove hnodup⟩

end Opening

end SlashChat
