import Mathlib.Logic.Relation
import SlashChat.Proofs.Settings.Leaves
import SlashChat.Settings.Yaml

/-!
# Rearranging a document

The entries of a section may come in any order, unknown keys may stand among them with whatever
values, and an optional section or field may be left out or say its default.  None of this changes
which settings a document without aliases describes, or whether it describes any
(`ofDocument_rearranged`).

A change of this kind is a step at one place of the tree (`Step`), and any rearrangement is a chain
of steps.  One step leaves its part saying what it said (`Step.saysSame`), because the fields of
`SlashChat.Proofs.Settings.Leaves` do not see the order or the unknown keys; chains follow by
induction.
-/

set_option autoImplicit false

namespace SlashChat.Settings

open Yaml (Document Node Reading ScalarStyle)

/-! ## Steps -/

/-- The parts of a document that are mappings with names of their own. -/
inductive Part
  | root
  | bot
  | host
  | plugins
  | fortune
  | random
deriving DecidableEq, Repr, Inhabited

/-- The names that a part knows. -/
def Part.names : Part → List String
  | .root => ["bot", "host", "plugins", "random"]
  | .bot => ["name", "prefix"]
  | .host => ["nickname", "contact"]
  | .plugins => ["fortune"]
  | .fortune => ["enabled"]
  | .random => ["seed"]

/-- Which part stands under which name of another one. -/
inductive Part.Holds : Part → String → Part → Prop
  | bot : Holds .root "bot" .bot
  | host : Holds .root "host" .host
  | plugins : Holds .root "plugins" .plugins
  | random : Holds .root "random" .random
  | fortune : Holds .plugins "fortune" .fortune

/-- Values that are read as what a name stands for when it is left out. -/
inductive Part.Defaults : Part → String → Node → Prop
  | plugins {value : Node} (hread : ∀ document path, readPlugins document path value = .ok true) :
      Defaults .root "plugins" value
  | fortune {value : Node} (hread : ∀ document path, readFortune document path value = .ok true) :
      Defaults .plugins "fortune" value
  | random {value : Node} (hread : ∀ document path, readRandom document path value = .ok none) :
      Defaults .root "random" value
  | seed {value : Node}
      (hread : ∀ document outer path, readSeed document outer path value = .ok none) :
      Defaults .random "seed" value

/-- A plain scalar without a tag. -/
def word (text : String) : Node := .scalar none .plain text

/-- The section on fortunes as it stands where it is written out. -/
def fortuneNode : Node := .mapping [(word "enabled", word "true")]

/-- The defaults can be written out, each section with its name or with what stands in it. -/
theorem defaults_written :
    Part.plugins.Defaults "fortune" fortuneNode ∧
      Part.root.Defaults "plugins" (.mapping [(word "fortune", fortuneNode)]) ∧
      Part.random.Defaults "seed" (word "null") ∧
      Part.root.Defaults "random" (.mapping [(word "seed", word "null")]) :=
  ⟨.fortune fun _ _ => rfl, .plugins fun _ _ => rfl, .seed fun _ _ _ => rfl, .random fun _ _ => rfl⟩

/-- A change of a part that should not count. -/
inductive Step : Part → Node → Node → Prop
  /-- The entries are put in another order. -/
  | permute {part : Part} {entries others : List (Node × Node)} (hperm : entries.Perm others) :
      Step part (.mapping entries) (.mapping others)
  /-- A key that the part does not know is put in anywhere, with any value. -/
  | insert {part : Part} {front back : List (Node × Node)} {tag : Option String}
      {style : ScalarStyle} {name : String} {value : Node} (hname : name ∉ part.names)
      (hwhole : value.isWhole = true) (hfree : value.isAliasFree = true) :
      Step part (.mapping (front ++ back))
        (.mapping (front ++ (.scalar tag style name, value) :: back))
  /-- A name that is left out is put in anywhere, with what it stands for. -/
  | fill {part : Part} {front back : List (Node × Node)} {tag : Option String}
      {style : ScalarStyle} {name : String} {value : Node}
      (habsent : ∀ entry ∈ front ++ back, textOf? entry.1 ≠ some name)
      (hdefault : part.Defaults name value) (hfree : value.isAliasFree = true) :
      Step part (.mapping (front ++ back))
        (.mapping (front ++ (.scalar tag style name, value) :: back))
  /-- A part with nothing in it is written as a mapping. -/
  | unfold {part : Part} {tag : Option String} :
      Step part (.scalar tag .plain "") (.mapping [])
  /-- A part inside the part changes. -/
  | within {part inner : Part} {front back : List (Node × Node)} {tag : Option String}
      {style : ScalarStyle} {name : String} {value other : Node} (hholds : part.Holds name inner)
      (hstep : Step inner value other) :
      Step part (.mapping (front ++ (.scalar tag style name, value) :: back))
        (.mapping (front ++ (.scalar tag style name, other) :: back))

/-! ## Fields -/

section Fields

variable {α : Type} {read : Node → Option α} {name : String}
  {entries others front back : List (Node × Node)} {key value other : Node}

/-- Two values under one name are a problem. -/
theorem filled?_eq_none {values : List Node} (hlength : 2 ≤ values.length) :
    filled? read none values = none := by
  match values with
  | first :: second :: rest =>
    rw [filled?]
    cases hfirst : read first with
    | none => rfl
    | some x => rfl

/-- The order of the entries does not matter to a field. -/
theorem field?_perm (hperm : entries.Perm others) :
    field? read name entries = field? read name others := by
  have hunder : (under name entries).Perm (under name others) := hperm.filterMap _
  unfold field?
  match hvalues : under name entries with
  | [] =>
    rw [hvalues] at hunder
    rw [hunder.nil_eq]
  | [value] =>
    rw [hvalues] at hunder
    rw [List.singleton_perm.1 hunder]
  | first :: second :: rest =>
    rw [hvalues] at hunder
    have hlength := hunder.length_eq
    rw [filled?_eq_none (by simp), filled?_eq_none (by simp [← hlength])]

/-- An entry under another name says nothing in a field. -/
theorem field?_insert_of_ne (hkey : textOf? key ≠ some name) :
    field? read name (front ++ (key, value) :: back) = field? read name (front ++ back) := by
  simp [field?, under, List.filterMap_append, hkey]

/-- An entry under another name says nothing in a field that has to come. -/
theorem required?_insert_of_ne (hkey : textOf? key ≠ some name) :
    required? read name (front ++ (key, value) :: back) = required? read name (front ++ back) := by
  rw [required?, field?_insert_of_ne hkey, required?]

/-- An entry under another name says nothing in a field that may be left out. -/
theorem optional?_insert_of_ne {default : α} (hkey : textOf? key ≠ some name) :
    optional? read default name (front ++ (key, value) :: back) =
      optional? read default name (front ++ back) := by
  rw [optional?, field?_insert_of_ne hkey, optional?]

/-- Nothing stands under a name that no key has. -/
theorem under_eq_nil (habsent : ∀ entry ∈ entries, textOf? entry.1 ≠ some name) :
    under name entries = [] := by
  apply List.filterMap_eq_nil_iff.2
  intro entry hmem
  exact if_neg (habsent entry hmem)

/-- Nothing is said in a field whose name no key has. -/
theorem field?_of_absent (habsent : ∀ entry ∈ entries, textOf? entry.1 ≠ some name) :
    field? read name entries = some none := by
  rw [field?, under_eq_nil habsent]
  rfl

/-- An entry with a new name says its value in that field. -/
theorem field?_insert_of_absent (hkey : textOf? key = some name)
    (habsent : ∀ entry ∈ front ++ back, textOf? entry.1 ≠ some name) :
    field? read name (front ++ (key, value) :: back) = (read value).map some := by
  have hfront := under_eq_nil fun entry hmem => habsent entry (List.mem_append_left back hmem)
  have hback := under_eq_nil fun entry hmem => habsent entry (List.mem_append_right front hmem)
  have hunder : under name (front ++ (key, value) :: back) = [value] := by
    have hsplit : under name (front ++ (key, value) :: back) =
        under name front ++ under name ((key, value) :: back) := List.filterMap_append
    rw [hsplit, under_cons_of_eq hkey, hfront, hback, List.nil_append]
  rw [field?, hunder]
  cases hread : read value <;> simp [filled?, fill?, hread]

/-- Writing out the default of a field that was left out does not change what is said there. -/
theorem optional?_insert_of_absent {default : α} (hkey : textOf? key = some name)
    (habsent : ∀ entry ∈ front ++ back, textOf? entry.1 ≠ some name)
    (hread : read value = some default) :
    optional? read default name (front ++ (key, value) :: back) =
      optional? read default name (front ++ back) := by
  rw [optional?, optional?, field?_insert_of_absent hkey habsent, field?_of_absent habsent, hread]
  rfl

/-- Values that are read alike fill in a field alike. -/
theorem filled?_congr {values others : List Node} (hread : values.map read = others.map read)
    (draft : Option α) : filled? read draft values = filled? read draft others := by
  induction values generalizing others draft with
  | nil =>
    rw [List.map_eq_nil_iff.1 hread.symm]
  | cons value values ih =>
    obtain ⟨other, others, rfl, hvalue, hvalues⟩ := List.map_eq_cons_iff.1 hread.symm
    simp only [filled?, hvalue]
    congr 1
    funext draft
    exact ih hvalues.symm draft

/-- A value that is read like another one can stand in its place. -/
theorem field?_replace (hread : textOf? key = some name → read value = read other) :
    field? read name (front ++ (key, value) :: back) =
      field? read name (front ++ (key, other) :: back) := by
  by_cases hkey : textOf? key = some name
  · apply filled?_congr
    simp [under, List.filterMap_append, hkey, hread hkey]
  · rw [field?_insert_of_ne hkey, field?_insert_of_ne hkey]

/-- A value that is read like another one can stand in its place in a field that has to come. -/
theorem required?_replace (hread : textOf? key = some name → read value = read other) :
    required? read name (front ++ (key, value) :: back) =
      required? read name (front ++ (key, other) :: back) := by
  rw [required?, field?_replace hread, required?]

/-- A value that is read like another one can stand in its place in a field that may be left out. -/
theorem optional?_replace {default : α}
    (hread : textOf? key = some name → read value = read other) :
    optional? read default name (front ++ (key, value) :: back) =
      optional? read default name (front ++ (key, other) :: back) := by
  rw [optional?, field?_replace hread, optional?]

end Fields

/-! ## Clear entries -/

section Clear

variable {known : List String} {entries others front back : List (Node × Node)}
  {key value other : Node} {name : String}

/-- The order of the entries does not matter to whether they can be read. -/
theorem isClear_perm (hperm : entries.Perm others) :
    isClear known entries = isClear known others := hperm.all_eq

/-- An entry with a known name or a whole value does not change whether the entries can be read. -/
theorem isClear_insert (hkey : textOf? key = some name)
    (hvalue : name ∈ known ∨ value.isWhole = true) :
    isClear known (front ++ (key, value) :: back) = isClear known (front ++ back) := by
  have hentry : (known.contains name || value.isWhole) = true := by simpa using hvalue
  simp only [isClear, List.all_append, List.all_cons, hkey, hentry, Bool.true_and]

end Clear

/-! ## One step -/

/-- Whether two nodes say the same as a part, or neither can be read. -/
def Part.SaysSame : Part → Node → Node → Prop
  | .root, node, other => settingsOf? node = settingsOf? other
  | .bot, node, other => pairOf? "name" "prefix" node = pairOf? "name" "prefix" other
  | .host, node, other => pairOf? "nickname" "contact" node = pairOf? "nickname" "contact" other
  | .plugins, node, other => pluginsOf? node = pluginsOf? other
  | .fortune, node, other => fortuneOf? node = fortuneOf? other
  | .random, node, other => randomOf? node = randomOf? other

/-- Two nodes say the same either way round. -/
theorem Part.SaysSame.symm {part : Part} {node other : Node} (hsame : part.SaysSame node other) :
    part.SaysSame other node := by
  cases part <;> exact Eq.symm hsame

/-- Whether the names of a part say the same in two lists of entries. -/
def Part.FieldsAgree (part : Part) (entries others : List (Node × Node)) : Prop :=
  match part with
  | .root =>
    required? (pairOf? "name" "prefix") "bot" entries =
        required? (pairOf? "name" "prefix") "bot" others ∧
      required? (pairOf? "nickname" "contact") "host" entries =
        required? (pairOf? "nickname" "contact") "host" others ∧
      optional? pluginsOf? true "plugins" entries = optional? pluginsOf? true "plugins" others ∧
      optional? randomOf? none "random" entries = optional? randomOf? none "random" others
  | .bot => required? textOf? "name" entries = required? textOf? "name" others ∧
      required? textOf? "prefix" entries = required? textOf? "prefix" others
  | .host => required? textOf? "nickname" entries = required? textOf? "nickname" others ∧
      required? textOf? "contact" entries = required? textOf? "contact" others
  | .plugins =>
    optional? fortuneOf? true "fortune" entries = optional? fortuneOf? true "fortune" others
  | .fortune => required? booleanOf? "enabled" entries = required? booleanOf? "enabled" others
  | .random => optional? seedOf? none "seed" entries = optional? seedOf? none "seed" others

/-- The entries of a mapping can be read if they are clear. -/
theorem clearEntries?_eq_ite (known : List String) (entries : List (Node × Node)) :
    clearEntries? known (.mapping entries) =
      if isClear known entries then some entries else none := rfl

/-- Entries of which the known names say the same make parts that say the same. -/
theorem Part.saysSame_of_fieldsAgree {part : Part} {entries others : List (Node × Node)}
    (hclear : isClear part.names entries = isClear part.names others)
    (hagree : part.FieldsAgree entries others) :
    part.SaysSame (.mapping entries) (.mapping others) := by
  by_cases hentries : isClear part.names entries = true
  · have hothers : isClear part.names others = true := hclear ▸ hentries
    cases part <;>
      simp only [Part.FieldsAgree, Part.names, Part.SaysSame, settingsOf?, pairOf?, pluginsOf?,
        fortuneOf?, randomOf?, clearEntries?_eq_ite, Option.bind_eq_bind]
        at hagree hentries hothers ⊢ <;>
      simp only [if_pos hentries, if_pos hothers, Option.bind_some, hagree]
  · have hothers : ¬ isClear part.names others = true := hclear ▸ hentries
    cases part <;>
      simp only [Part.names, Part.SaysSame, settingsOf?, pairOf?, pluginsOf?, fortuneOf?,
        randomOf?, clearEntries?_eq_ite, Option.bind_eq_bind] at hentries hothers ⊢ <;>
      simp only [if_neg hentries, if_neg hothers]

/-- Fields agree if every reader finds the same under the names of the part. -/
theorem Part.fieldsAgree_of_field?_eq {part : Part} {entries others : List (Node × Node)}
    (hfields : ∀ name ∈ part.names, ∀ {α : Type} (read : Node → Option α),
      field? read name entries = field? read name others) :
    part.FieldsAgree entries others := by
  cases part <;>
    simp only [Part.names, List.forall_mem_cons, List.not_mem_nil, false_implies, implies_true,
      and_true] at hfields <;>
    simp [Part.FieldsAgree, required?, optional?, hfields]

/-- A part knows the names that it has defaults for. -/
theorem Part.Defaults.mem_names {part : Part} {name : String} {value : Node}
    (hdefault : part.Defaults name value) : name ∈ part.names := by
  cases hdefault <;> simp [Part.names]

/-- A part knows the names of the parts in it. -/
theorem Part.Holds.mem_names {part inner : Part} {name : String} (hholds : part.Holds name inner) :
    name ∈ part.names := by
  cases hholds <;> simp [Part.names]

section Insertions

variable {part inner : Part} {front back : List (Node × Node)} {tag : Option String}
  {style : ScalarStyle} {name : String} {value other : Node}

/-- A name that is put in with what it stands for leaves all fields what they were. -/
theorem Part.Defaults.fieldsAgree (hdefault : part.Defaults name value)
    (habsent : ∀ entry ∈ front ++ back, textOf? entry.1 ≠ some name)
    (hfree : value.isAliasFree = true) :
    part.FieldsAgree (front ++ (.scalar tag style name, value) :: back) (front ++ back) := by
  have hkey : textOf? (.scalar tag style name) = some name := rfl
  have hother {asked : String} (hne : name ≠ asked) :
      textOf? (.scalar tag style name) ≠ some asked := fun htext => hne (Option.some.inj htext)
  let document : Document := { root := none }
  cases hdefault with
  | plugins hread =>
    have hvalue : pluginsOf? value = some true := by
      rw [← toOption_readPlugins document [] hfree, hread]
      rfl
    exact ⟨required?_insert_of_ne (hother (by decide)), required?_insert_of_ne (hother (by decide)),
      optional?_insert_of_absent hkey habsent hvalue, optional?_insert_of_ne (hother (by decide))⟩
  | fortune hread =>
    have hvalue : fortuneOf? value = some true := by
      rw [← toOption_readFortune document [] hfree, hread]
      rfl
    exact optional?_insert_of_absent hkey habsent hvalue
  | random hread =>
    have hvalue : randomOf? value = some none := by
      rw [← toOption_readRandom document [] hfree, hread]
      rfl
    exact ⟨required?_insert_of_ne (hother (by decide)), required?_insert_of_ne (hother (by decide)),
      optional?_insert_of_ne (hother (by decide)), optional?_insert_of_absent hkey habsent hvalue⟩
  | seed hread =>
    have hvalue : seedOf? value = some none := by
      rw [← toOption_readSeed document [] [] hfree, hread]
      rfl
    exact optional?_insert_of_absent hkey habsent hvalue

/-- A part inside that says the same leaves all fields what they were. -/
theorem Part.Holds.fieldsAgree (hholds : part.Holds name inner)
    (hsame : inner.SaysSame value other) :
    part.FieldsAgree (front ++ (.scalar tag style name, value) :: back)
      (front ++ (.scalar tag style name, other) :: back) := by
  have hother {α : Type} {read : Node → Option α} {asked : String} (hne : name ≠ asked) :
      textOf? (.scalar tag style name) = some asked → read value = read other :=
    fun htext => absurd (Option.some.inj htext) hne
  cases hholds with
  | bot =>
    exact ⟨required?_replace fun _ => hsame, required?_replace (hother (by decide)),
      optional?_replace (hother (by decide)), optional?_replace (hother (by decide))⟩
  | host =>
    exact ⟨required?_replace (hother (by decide)), required?_replace fun _ => hsame,
      optional?_replace (hother (by decide)), optional?_replace (hother (by decide))⟩
  | plugins =>
    exact ⟨required?_replace (hother (by decide)), required?_replace (hother (by decide)),
      optional?_replace fun _ => hsame, optional?_replace (hother (by decide))⟩
  | random =>
    exact ⟨required?_replace (hother (by decide)), required?_replace (hother (by decide)),
      optional?_replace (hother (by decide)), optional?_replace fun _ => hsame⟩
  | fortune => exact optional?_replace fun _ => hsame

end Insertions

/-- A step leaves the part saying what it said. -/
theorem Step.saysSame {part : Part} {node other : Node} (hstep : Step part node other) :
    part.SaysSame node other := by
  induction hstep with
  | permute hperm =>
    apply Part.saysSame_of_fieldsAgree (isClear_perm hperm)
    exact Part.fieldsAgree_of_field?_eq fun name _ α read => field?_perm hperm
  | insert hname hwhole hfree =>
    apply Part.SaysSame.symm
    apply Part.saysSame_of_fieldsAgree (isClear_insert rfl (.inr hwhole))
    apply Part.fieldsAgree_of_field?_eq
    intro asked hasked α read
    apply field?_insert_of_ne
    intro htext
    exact hname (Option.some.inj htext ▸ hasked)
  | fill habsent hdefault hfree =>
    apply Part.SaysSame.symm
    apply Part.saysSame_of_fieldsAgree (isClear_insert rfl (.inl hdefault.mem_names))
    exact hdefault.fieldsAgree habsent hfree
  | @unfold part tag => cases part <;> rfl
  | within hholds hstep ih =>
    have hknown := hholds.mem_names
    apply Part.saysSame_of_fieldsAgree _ (hholds.fieldsAgree ih)
    rw [isClear_insert rfl (.inl hknown), isClear_insert rfl (.inl hknown)]

/-! ## Rearrangements -/

/-- An entry brings an alias into a mapping only with its key or its value. -/
theorem isAliasFree_insert_iff {front back : List (Node × Node)} {key value : Node} :
    (Node.mapping (front ++ (key, value) :: back)).isAliasFree = true ↔
      (Node.mapping (front ++ back)).isAliasFree = true ∧
        key.isAliasFree = true ∧ value.isAliasFree = true := by
  simp only [Node.isAliasFree_mapping_iff, List.forall_mem_append, List.forall_mem_cons]
  constructor
  · rintro ⟨hfront, hentry, hback⟩
    exact ⟨⟨hfront, hback⟩, hentry⟩
  · rintro ⟨⟨hfront, hback⟩, hentry⟩
    exact ⟨hfront, hentry, hback⟩

/-- A change that should not count brings no alias in. -/
theorem Step.isAliasFree {part : Part} {node other : Node} (hstep : Step part node other)
    (hfree : node.isAliasFree = true) : other.isAliasFree = true := by
  induction hstep with
  | permute hperm =>
    rw [Node.isAliasFree_mapping_iff] at hfree ⊢
    intro entry hmem
    exact hfree entry (hperm.mem_iff.2 hmem)
  | insert hname hwhole hvalue => exact isAliasFree_insert_iff.2 ⟨hfree, rfl, hvalue⟩
  | fill habsent hdefault hvalue => exact isAliasFree_insert_iff.2 ⟨hfree, rfl, hvalue⟩
  | unfold => rfl
  | within hholds hstep ih =>
    obtain ⟨hrest, hkey, hvalue⟩ := isAliasFree_insert_iff.1 hfree
    exact isAliasFree_insert_iff.2 ⟨hrest, hkey, ih hvalue⟩

section Chains

variable {root other : Node} (hsteps : Relation.ReflTransGen (Step .root) root other)

include hsteps

/-- Changes that should not count bring no alias in. -/
theorem isAliasFree_of_steps (hfree : root.isAliasFree = true) : other.isAliasFree = true := by
  induction hsteps with
  | refl => exact hfree
  | tail hsteps hstep ih => exact hstep.isAliasFree ih

/-- Changes that should not count leave the settings as they are. -/
theorem settingsOf?_of_steps : settingsOf? root = settingsOf? other := by
  induction hsteps with
  | refl => rfl
  | tail hsteps hstep ih => exact ih.trans hstep.saysSame

end Chains

/-- A reading succeeds with a value exactly if that value is left without the problems. -/
theorem eq_ok_iff_toOption {ε α : Type} {value : Except ε α} {a : α} :
    value = .ok a ↔ value.toOption = some a := by
  cases value <;> simp [Except.toOption]

/-- Whether a text is one well-formed document with this tree. -/
def IsTreeOf (root : Node) (text : String) : Prop :=
  (Reading.ofText text).fault = none ∧ (Reading.ofText text).document.root = some root

/-- A text with a tree without aliases describes what the fields of the tree say. -/
theorem toOption_ofYaml {root : Node} {text : String} (htree : IsTreeOf root text)
    (hfree : root.isAliasFree = true) : (ofYaml text).toOption = settingsOf? root := by
  obtain ⟨hfault, hroot⟩ := htree
  rw [← toOption_ofDocument _ hroot hfree, ofYaml, hfault]
  cases ofDocument (Reading.ofText text).document <;> rfl

/-- Rearranging a tree without aliases changes nothing about the settings that it describes, in a
document of its own or in a text. -/
theorem ofDocument_rearranged {root other : Node} (hfree : root.isAliasFree = true)
    (hsteps : Relation.ReflTransGen (Step .root) root other) (settings : Settings) :
    (ofDocument (.ofNode root) = .ok settings ↔ ofDocument (.ofNode other) = .ok settings) ∧
      ∀ text otherText : String, IsTreeOf root text → IsTreeOf other otherText →
        (ofYaml text = .ok settings ↔ ofYaml otherText = .ok settings) := by
  have hotherFree : other.isAliasFree = true := isAliasFree_of_steps hsteps hfree
  have hsays : settingsOf? root = settingsOf? other := settingsOf?_of_steps hsteps
  constructor
  · rw [eq_ok_iff_toOption, eq_ok_iff_toOption, toOption_ofDocument (.ofNode root) rfl hfree,
      toOption_ofDocument (.ofNode other) rfl hotherFree, hsays]
  · intro text otherText htree hotherTree
    rw [eq_ok_iff_toOption, eq_ok_iff_toOption, toOption_ofYaml htree hfree,
      toOption_ofYaml hotherTree hotherFree, hsays]

/-- Settings that leave out what they can, with a section that has nothing in it. -/
def sparse : Node :=
  .mapping
    [(word "bot", .mapping [(word "name", word "b"), (word "prefix", word "/")]),
      (word "host", .mapping [(word "nickname", word "a"), (word "contact", word "c")]),
      (word "random", word "")]

/-- The same settings in full and in another order, with a key that its section does not know. -/
def ample : Node :=
  .mapping
    [(word "random", .mapping [(word "seed", word "null")]),
      (word "bot", .mapping [(word "name", word "b"), (word "host", .sequence [word "d"]),
        (word "prefix", word "/")]),
      (word "host", .mapping [(word "contact", word "c"), (word "nickname", word "a")]),
      (word "plugins", .mapping [(word "fortune", fortuneNode)])]

/-- The settings that leave things out become the full ones by changes that should not count. -/
theorem sparse_steps : Relation.ReflTransGen (Step .root) sparse ample := by
  obtain ⟨-, htold, hnull, -⟩ := defaults_written
  let lead := (word "prefix", word "/")
  let bot := (word "bot", Node.mapping ([(word "name", word "b")] ++ [lead]))
  let owned := (word "bot", Node.mapping
    ([(word "name", word "b")] ++ (word "host", .sequence [word "d"]) :: [lead]))
  let nickname := (word "nickname", word "a")
  let contact := (word "contact", word "c")
  let host := (word "host", Node.mapping [nickname, contact])
  let turned := (word "host", Node.mapping [contact, nickname])
  let void := (word "random", word "")
  let unfolded := (word "random", Node.mapping ([] ++ []))
  let seeded := (word "random", Node.mapping ([] ++ (word "seed", word "null") :: []))
  let plugins := (word "plugins", Node.mapping [(word "fortune", fortuneNode)])
  have hturn : Step .root (.mapping ([bot] ++ host :: [void]))
      (.mapping ([bot] ++ turned :: [void])) := .within .host (.permute (.swap ..))
  have hown : Step .root (.mapping ([] ++ bot :: [turned, void]))
      (.mapping ([] ++ owned :: [turned, void])) :=
    .within .bot (.insert (by decide) rfl rfl)
  have hunfold : Step .root (.mapping ([owned, turned] ++ void :: []))
      (.mapping ([owned, turned] ++ unfolded :: [])) := .within .random .unfold
  have hseed : Step .root (.mapping ([owned, turned] ++ unfolded :: []))
      (.mapping ([owned, turned] ++ seeded :: [])) :=
    .within .random (.fill (by simp) hnull rfl)
  have hplugins : Step .root (.mapping ([owned, turned, seeded] ++ []))
      (.mapping ([owned, turned, seeded] ++ plugins :: [])) :=
    .fill (by decide) htold rfl
  have hpermute : Step .root (.mapping ([owned, turned] ++ seeded :: [plugins])) ample :=
    .permute List.perm_middle
  exact .head hturn (.head hown (.head hunfold (.head hseed (.head hplugins (.single hpermute)))))

/-- The sparse settings rearranged in full describe, as a tree and as a text, what they leave out.
-/
theorem ofDocument_ample :
    sparse.isAliasFree = true ∧ Relation.ReflTransGen (Step .root) sparse ample ∧
      ofDocument (.ofNode ample) = .ok ⟨"b", "/", "a", "c", true, none⟩ ∧
      ofYaml ("random:\n  seed: null\nbot:\n  name: b\n  host: [d]\n  prefix: /\n" ++
        "host:\n  contact: c\n  nickname: a\nplugins:\n  fortune:\n    enabled: true\n") =
        .ok ⟨"b", "/", "a", "c", true, none⟩ := by
  have hsparse : Reading.ofText
      "bot:\n  name: b\n  prefix: /\nhost:\n  nickname: a\n  contact: c\nrandom:\n" =
        ⟨.ofNode sparse, none⟩ := rfl
  have hample : Reading.ofText
      ("random:\n  seed: null\nbot:\n  name: b\n  host: [d]\n  prefix: /\n" ++
        "host:\n  contact: c\n  nickname: a\nplugins:\n  fortune:\n    enabled: true\n") =
        ⟨.ofNode ample, none⟩ := by
    set_option maxRecDepth 2000 in rfl
  have hfree : sparse.isAliasFree = true := rfl
  obtain ⟨htrees, htexts⟩ :=
    ofDocument_rearranged hfree sparse_steps ⟨"b", "/", "a", "c", true, none⟩
  refine ⟨hfree, sparse_steps, htrees.1 rfl, ?_⟩
  apply (htexts _ _ ⟨congrArg Reading.fault hsparse, by rw [hsparse]; rfl⟩
    ⟨congrArg Reading.fault hample, by rw [hample]; rfl⟩).1
  rw [ofYaml, hsparse]
  rfl

end SlashChat.Settings
