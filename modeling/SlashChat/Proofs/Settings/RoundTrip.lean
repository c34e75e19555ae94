import SlashChat.Proofs.Text.Digits
import SlashChat.Proofs.Yaml.Listing
import SlashChat.Settings.Yaml

/-!
# Settings survive their file

The YAML text of settings is the text of a listing of their sections (`toYaml_eq_write`), and the
entries of the listing describe the settings (`ofDocument_listing`).  So settings that are written
and read again are the same settings, whatever their texts are (`ofYaml_toYaml`).
-/

set_option autoImplicit false

namespace SlashChat

open Yaml (Document Leaf Listing Node Row ScalarStyle)
open Yaml.Lexer (IsKey)

/-! ## Digits as seeds -/

namespace Yaml.Value

section Digits

variable {digits : List Char} (hdigits : ∀ c ∈ digits, c.isDigit = true)
include hdigits

/-- Digits have no sign in front to take off. -/
theorem unsigned_of_isDigit : unsigned digits = digits := by
  unfold unsigned
  split
  · exact absurd (hdigits '+' List.mem_cons_self) (by decide)
  · exact absurd (hdigits '-' List.mem_cons_self) (by decide)
  · rfl

/-- The magnitude of digits is the number they write in base ten. -/
theorem magnitude?_of_isDigit : magnitude? digits = Text.natural? 10 digits := by
  unfold magnitude?
  split
  · exact absurd (hdigits 'x' (by simp)) (by decide)
  · exact absurd (hdigits 'o' (by simp)) (by decide)
  · exact absurd (hdigits 'b' (by simp)) (by decide)
  · rfl

/-- Digits without a needless zero are the number they write in base ten. -/
theorem natural?_of_isDigit (hzero : hasNeedlessZero digits = false) :
    natural? digits = Text.natural? 10 digits := by
  unfold natural?
  rw [hzero, if_neg (by decide)]
  split
  · exact absurd (hdigits '+' List.mem_cons_self) (by decide)
  · exact magnitude?_of_isDigit hdigits

end Digits

/-- A number is written without a needless zero. -/
theorem hasNeedlessZero_repr (n : Nat) : hasNeedlessZero n.repr.toList = false := by
  obtain rfl | hpos := Nat.eq_zero_or_pos n
  · decide
  · have hhead := Text.head?_toDigits hpos
    rw [← Nat.toList_repr] at hhead
    rw [hasNeedlessZero, unsigned_of_isDigit Text.isDigit_of_mem_repr]
    split
    · rename_i hcons
      rw [hcons] at hhead
      exact absurd rfl hhead
    · rfl

/-- A written number does not say that there is none. -/
theorem isNull_repr (n : Nat) : (n.repr == "" || isNull n.repr) = false := by
  have hne {word : String} (hword : word.toList = [] ∨ word.toList.all Char.isDigit = false) :
      (n.repr == word) = false := by
    apply beq_false_of_ne
    rintro rfl
    obtain hnil | hother := hword
    · exact Text.repr_ne_nil n hnil
    · rw [List.all_eq_true.2 Text.isDigit_of_mem_repr] at hother
      exact absurd hother (by decide)
  simp only [isNull, hne (by decide : "".toList = [] ∨ _),
    hne (by decide : "null".toList = [] ∨ _), hne (by decide : "Null".toList = [] ∨ _),
    hne (by decide : "NULL".toList = [] ∨ _), hne (by decide : "~".toList = [] ∨ _), Bool.or_false]

/-- A written seed is read back. -/
theorem seed?_repr (seed : UInt64) : seed? seed.toNat.repr = some seed := by
  have hnumber : natural? seed.toNat.repr.toList = some seed.toNat := by
    rw [natural?_of_isDigit Text.isDigit_of_mem_repr (hasNeedlessZero_repr _), Text.natural?_repr]
  have hfits : seed.toNat < UInt64.size := seed.toNat_lt
  rw [seed?, hnumber, Option.filter_some, if_pos (decide_eq_true hfits)]
  exact congrArg some UInt64.ofNat_toNat

end Yaml.Value

namespace Settings

/-! ## The listing of settings -/

/-- A text as the value of a key on the second level. -/
def textLeaf (text : String) : Leaf :=
  ⟨Yaml.Written.styleOf text.toList, text.toList, Yaml.Written.value text.toList⟩

/-- A plain word as the value of a key. -/
def wordLeaf (word : String) : Leaf := ⟨.plain, word.toList, word.toList ++ ['\n']⟩

/-- The word for a truth value. -/
def booleanWord (b : Bool) : String := if b then "true" else "false"

/-- The word for a seed, or for none. -/
def seedWord : Option UInt64 → String
  | some seed => Nat.repr seed.toNat
  | none => "null"

/-- The sections of settings. -/
def listing (settings : Settings) : Listing :=
  .mapping "bot".toList
    (.scalar "name".toList (textLeaf settings.botName)
      (.scalar "prefix".toList (textLeaf settings.lead) .nil))
    (.mapping "host".toList
      (.scalar "nickname".toList (textLeaf settings.nickname)
        (.scalar "contact".toList (textLeaf settings.contact) .nil))
      (.mapping "plugins".toList
        (.mapping "fortune".toList
          (.scalar "enabled".toList (wordLeaf (booleanWord settings.fortuneEnabled)) .nil) .nil)
        (.mapping "random".toList
          (.scalar "seed".toList (wordLeaf (seedWord settings.seed)) .nil) .nil)))

/-- Settings are written as their listing is. -/
theorem toYaml_eq_write (settings : Settings) : settings.toYaml = settings.listing.write := by
  unfold toYaml Listing.write
  refine congrArg String.ofList ?_
  cases hseed : settings.seed with
  | none =>
    simp [listing, Listing.rows, textLeaf, wordLeaf, Row.write, Row.line, textEntry, booleanWord,
      hseed, seedWord, List.replicate]
  | some seed =>
    simp [listing, Listing.rows, textLeaf, wordLeaf, Row.write, Row.line, textEntry, booleanWord,
      hseed, seedWord, List.replicate]

/-! ## The rows are sound -/

/-- Whether a text is a word of letters and digits. -/
def isWord (text : String) : Bool := !text.toList.isEmpty && text.toList.all Char.isAlphanum

/-- A word has characters, and all of them are letters and digits. -/
theorem isWord_iff {text : String} :
    isWord text = true ↔ text.toList ≠ [] ∧ ∀ c ∈ text.toList, c.isAlphanum = true := by
  rw [isWord, Bool.and_eq_true, List.all_eq_true, Bool.not_eq_true', List.isEmpty_eq_false_iff]

/-- A truth value is written as a word. -/
theorem isWord_booleanWord (b : Bool) : isWord (booleanWord b) = true := by
  cases b <;> decide

/-- A seed is written as a word, and so is that there is none. -/
theorem isWord_seedWord (seed : Option UInt64) : isWord (seedWord seed) = true := by
  cases seed with
  | none => decide
  | some seed =>
    refine isWord_iff.2 ⟨Text.repr_ne_nil _, ?_⟩
    intro c hc
    rw [Char.isAlphanum, Text.isDigit_of_mem_repr c hc, Bool.or_true]

/-- A word that is not too long can be a key. -/
theorem isKey_of_isWord (key : String) (hword : isWord key = true)
    (hlength : key.toList.length ≤ 256) : IsKey key.toList :=
  ⟨(isWord_iff.1 hword).1, (isWord_iff.1 hword).2, hlength⟩

/-- A row with a text as its value is sound, whatever the text. -/
theorem isSound_textLeaf {key : List Char} (hkey : IsKey key) (text : String) :
    (Row.mk 2 key (some (textLeaf text))).IsSound := by
  constructor
  case key => exact hkey
  case leaf =>
    intro leaf hleaf
    obtain rfl := Option.some.inj hleaf
    exact ⟨Yaml.stands_value text.toList, Yaml.printable_value text.toList⟩

/-- A row with a word as its value is sound. -/
theorem isSound_wordLeaf (column : Nat) {key : List Char} (hkey : IsKey key) {word : String}
    (hword : isWord word = true) : (Row.mk column key (some (wordLeaf word))).IsSound := by
  constructor
  case key => exact hkey
  case leaf =>
    intro leaf hleaf
    obtain rfl := Option.some.inj hleaf
    obtain ⟨hne, hletters⟩ := isWord_iff.1 hword
    exact ⟨Yaml.stands_word (column + 1) hne hletters, Yaml.printable_word hletters⟩

/-- The listing of settings is sound, with every section at its column. -/
theorem isSound_listing (settings : Settings) : settings.listing.IsSound 0 := by
  have hkey := isKey_of_isWord
  have hname := isSound_textLeaf (hkey "name" (by decide) (by decide)) settings.botName
  have hlead := isSound_textLeaf (hkey "prefix" (by decide) (by decide)) settings.lead
  have hnickname := isSound_textLeaf (hkey "nickname" (by decide) (by decide)) settings.nickname
  have hcontact := isSound_textLeaf (hkey "contact" (by decide) (by decide)) settings.contact
  have henabled := isSound_wordLeaf 4 (hkey "enabled" (by decide) (by decide))
    (isWord_booleanWord settings.fortuneEnabled)
  have hseed := isSound_wordLeaf 2 (hkey "seed" (by decide) (by decide)) (isWord_seedWord settings.seed)
  have hfortune : (Listing.scalar "enabled".toList
      (wordLeaf (booleanWord settings.fortuneEnabled)) .nil).IsSound 4 := ⟨henabled, trivial⟩
  unfold listing
  refine ⟨hkey "bot" (by decide) (by decide), Listing.noConfusion, ⟨hname, hlead, trivial⟩, ?_⟩
  refine ⟨hkey "host" (by decide) (by decide), Listing.noConfusion, ⟨hnickname, hcontact, trivial⟩, ?_⟩
  refine ⟨hkey "plugins" (by decide) (by decide), Listing.noConfusion, ?_, ?_⟩
  · exact ⟨hkey "fortune" (by decide) (by decide), Listing.noConfusion, hfortune, trivial⟩
  · exact ⟨hkey "random" (by decide) (by decide), Listing.noConfusion, ⟨hseed, trivial⟩, trivial⟩

/-! ## The entries describe the settings -/

/-- A key as a node. -/
def keyNode (name : String) : Node := .scalar none .plain name

/-- A text as a node. -/
def textNode (text : String) : Node :=
  .scalar none (Yaml.Written.styleOf text.toList) text

/-- A word as a node. -/
def wordNode (word : String) : Node := .scalar none .plain word

/-- The entries of the listing are the sections with their fields as nodes. -/
theorem entries_listing (settings : Settings) :
    settings.listing.entries = [
      (keyNode "bot", .mapping [(keyNode "name", textNode settings.botName),
        (keyNode "prefix", textNode settings.lead)]),
      (keyNode "host", .mapping [(keyNode "nickname", textNode settings.nickname),
        (keyNode "contact", textNode settings.contact)]),
      (keyNode "plugins", .mapping [(keyNode "fortune",
        .mapping [(keyNode "enabled", wordNode (booleanWord settings.fortuneEnabled))])]),
      (keyNode "random", .mapping [(keyNode "seed", wordNode (seedWord settings.seed))])] := by
  simp only [listing, Listing.entries, textLeaf, wordLeaf, String.ofList_toList, keyNode, textNode,
    wordNode]

section Reading

variable (document : Document) (path : SettingsPath)

/-- A key is read as its name. -/
@[simp]
theorem readKey_keyNode (name : String) : readKey document path (keyNode name) = .ok name := rfl

/-- A key is a step with its name on the way to its value. -/
@[simp]
theorem stepOf_keyNode (name : String) : stepOf (keyNode name) = .key name := rfl

/-- A text is read as it is, whichever style it was written in. -/
@[simp]
theorem readText_textNode (text : String) : readText document path (textNode text) = .ok text :=
  rfl

/-- A truth value is read back from its word. -/
theorem readBoolean_booleanWord (b : Bool) :
    readBoolean document path (wordNode (booleanWord b)) = .ok b := by
  cases b <;> rfl

/-- The word for a seed says that there is none exactly if there is none. -/
theorem isAbsent_seedWord (seed : Option UInt64) :
    isAbsent none .plain (seedWord seed) = .ok seed.isNone := by
  cases seed with
  | none => decide
  | some seed => exact congrArg Except.ok (Yaml.Value.isNull_repr seed.toNat)

/-- A seed is read back from its word. -/
theorem readSeed_seedWord (outer : SettingsPath) (seed : Option UInt64) :
    readSeed document outer path (wordNode (seedWord seed)) = .ok seed := by
  have hresolve : document.resolve (wordNode (seedWord seed)) =
      .scalar none .plain (seedWord seed) := rfl
  have hbare : isBare "int" none .plain = true := rfl
  unfold readSeed
  rw [hresolve]
  simp only [isAbsent_seedWord, hbare, if_true]
  cases seed with
  | none => rfl
  | some seed =>
    have hseed : Yaml.Value.seed? (seedWord (some seed)) = some seed := Yaml.Value.seed?_repr seed
    simp only [hseed]
    rfl

/-- A section with its one name is read if the value is. -/
theorem readSingle_mapping {α : Type} (expected field : String)
    {read : SettingsPath → Node → Except SchemaError α} {value : Node} {result : α}
    (hread : read (path ++ [.key field]) value = .ok result) :
    readSingle document expected field read path (.mapping [(keyNode field, value)]) =
      .ok (some result) := by
  simp [readSingle, readSection, Document.resolve, readEntries, hread, once, Except.map, bind,
    Except.bind]

/-- A section of two texts is read as these texts. -/
theorem readPair_mapping (expected : String) {first second : String} (hne : first ≠ second)
    (text other : String) :
    readPair document expected first second path
      (.mapping [(keyNode first, textNode text), (keyNode second, textNode other)]) =
        .ok (text, other) := by
  simp [readPair, readSection, Document.resolve, readEntries, hne.symm, once, Except.map, require,
    bind, Except.bind, pure, Except.pure]

/-- The section on plugins is read back. -/
theorem readPlugins_mapping (b : Bool) :
    readPlugins document path (.mapping [(keyNode "fortune",
      .mapping [(keyNode "enabled", wordNode (booleanWord b))])]) = .ok b := by
  have hfortune : readFortune document (path ++ [.key "fortune"])
      (.mapping [(keyNode "enabled", wordNode (booleanWord b))]) = .ok b := by
    rw [readFortune, readSingle_mapping _ _ _ _ (readBoolean_booleanWord document _ b)]
    rfl
  rw [readPlugins, readSingle_mapping _ _ _ _ hfortune]
  rfl

/-- The section on randomness is read back. -/
theorem readRandom_mapping (seed : Option UInt64) :
    readRandom document path (.mapping [(keyNode "seed", wordNode (seedWord seed))]) =
      .ok seed := by
  rw [readRandom, readSingle_mapping _ _ _ _ (readSeed_seedWord document _ path seed)]
  rfl

end Reading

/-- The tree of the listing describes the settings that were listed. -/
theorem ofDocument_listing (settings : Settings) :
    ofDocument (.ofNode (.mapping settings.listing.entries)) = .ok settings := by
  let document : Document := .ofNode (.mapping settings.listing.entries)
  have hbot (path : SettingsPath) := readPair_mapping document path "struct BotConfig"
    (by decide : "name" ≠ "prefix") settings.botName settings.lead
  have hhost (path : SettingsPath) := readPair_mapping document path "struct HostConfig"
    (by decide : "nickname" ≠ "contact") settings.nickname settings.contact
  have hplugins (path : SettingsPath) :=
    readPlugins_mapping document path settings.fortuneEnabled
  have hrandom (path : SettingsPath) := readRandom_mapping document path settings.seed
  have hroot (draft : Sections) : readSection document [] "struct Config" (putSection document)
      draft (.mapping settings.listing.entries) =
        readEntries document [] (putSection document) settings.listing.entries draft := rfl
  have hstart : ofDocument document = (readSection document [] "struct Config"
      (putSection document) {} (.mapping settings.listing.entries)).bind ofSections := rfl
  rw [hstart, hroot, entries_listing]
  simp [readEntries, putSection, once, readBot, readHost, hbot, hhost, hplugins, hrandom, ofSections,
    require, Except.map, bind, Except.bind, pure, Except.pure]

/-- Settings that are written as YAML and read again are the same settings. -/
theorem ofYaml_toYaml (settings : Settings) : ofYaml settings.toYaml = .ok settings := by
  have hne : settings.listing ≠ .nil := Listing.noConfusion
  rw [ofYaml, toYaml_eq_write, Listing.ofText_write hne (isSound_listing settings)]
  simp only [ofDocument_listing]
  rfl

end Settings

end SlashChat
