import Mathlib.Tactic.SplitIfs
import SlashChat.Json.Reading

/-!
# Reading JSON text back

A value that is written over lines is read back as itself (`read?_pretty`), so no two values are
written alike (`pretty_inj`).

Every reading lemma leaves what stands behind the text open, so that lemmas for parts can be put
together.  What keeps the parts apart is that a string ends at the first quote without a backslash,
that line breaks and indentation do not count, and that no value starts with a closing bracket
(`opens_prettyChars`).  The fuel is counted against the length of what is read.
-/

set_option autoImplicit false

namespace SlashChat.Json

/-! ## Strings -/

/-- The four hex digits of a control character read as its code. -/
theorem natural?_control {n : Nat} (hn : n < 0x20) :
    Text.natural? 16 ['0', '0', hexDigit (n / 16), hexDigit n] = some n := by
  have hall : ∀ n < 0x20,
      Text.natural? 16 ['0', '0', hexDigit (n / 16), hexDigit n] = some n := by decide
  exact hall n hn

/-- A character is read back from how it stands in a string, in front of anything. -/
theorem readChars_escapeChar (c : Char) (fuel : Nat) (rest : List Char) :
    readChars (fuel + 1) (escapeChar c ++ rest) =
      (readChars fuel rest).map fun (chars, rest) => (c :: chars, rest) := by
  have hshort {letter : Char} (hletter : shortEscape? letter = some c) (hu : letter ≠ 'u') :
      readChars (fuel + 1) (['\\', letter] ++ rest) =
        (readChars fuel rest).map fun (chars, rest) => (c :: chars, rest) := by
    have hescape : escape? (letter :: rest) = some (c, rest) := by
      unfold escape?
      split
      · next h => cases h; exact absurd rfl hu
      · next h => cases h; rw [hletter]; rfl
      · next h => cases h
    simp [readChars, hescape]
  have hself {n : Nat} (hn : c.toNat = n) : c = Char.ofNat n := by rw [← hn, Char.ofNat_toNat]
  unfold escapeChar
  split_ifs with hquote hback h8 hC hn hr ht hcontrol
  · exact hshort (by rw [hquote]; rfl) (by decide)
  · exact hshort (by rw [hback]; rfl) (by decide)
  · exact hshort (by rw [hself h8]; rfl) (by decide)
  · exact hshort (by rw [hself hC]; rfl) (by decide)
  · exact hshort (by rw [hn]; rfl) (by decide)
  · exact hshort (by rw [hr]; rfl) (by decide)
  · exact hshort (by rw [ht]; rfl) (by decide)
  · have hescape : escape? ('u' :: '0' :: '0' :: hexDigit (c.toNat / 16) :: hexDigit c.toNat ::
        rest) = some (c, rest) := by
      have hvalid : c.toNat.isValidChar := c.valid
      simp only [escape?, natural?_control hcontrol, if_pos hvalid, Char.ofNat_toNat]
    simp [readChars, hescape]
  · simp [readChars, hquote, hback, hcontrol]

/-- Every character leaves something in a string. -/
theorem escapeChar_ne_nil (c : Char) : escapeChar c ≠ [] := by
  unfold escapeChar
  split_ifs <;> simp

/-- Characters take at least as much room in a string as they are many. -/
theorem length_le_escaped (chars : List Char) :
    chars.length ≤ (chars.flatMap escapeChar).length := by
  induction chars with
  | nil => simp
  | cons c chars ih =>
    have hpos := List.length_pos_iff.2 (escapeChar_ne_nil c)
    rw [List.flatMap_cons, List.length_append, List.length_cons]
    omega

/-- The characters of a string are read back up to the closing quote. -/
theorem readChars_escaped {chars : List Char} {fuel : Nat} (hfuel : chars.length < fuel)
    (rest : List Char) :
    readChars fuel (chars.flatMap escapeChar ++ '"' :: rest) = some (chars, rest) := by
  induction chars generalizing fuel with
  | nil =>
    obtain ⟨fuel, rfl⟩ := Nat.exists_eq_succ_of_ne_zero (by omega : fuel ≠ 0)
    simp [readChars]
  | cons c chars ih =>
    obtain ⟨fuel, rfl⟩ := Nat.exists_eq_succ_of_ne_zero (by omega : fuel ≠ 0)
    rw [List.length_cons] at hfuel
    rw [List.flatMap_cons, List.append_assoc, readChars_escapeChar, ih (by omega)]
    rfl

/-- The value of a string is read back, and what stands behind its closing quote is left. -/
theorem readString_escaped (value : String) (rest : List Char) :
    readString (value.toList.flatMap escapeChar ++ '"' :: rest) = some (value, rest) := by
  have hlength := length_le_escaped value.toList
  have hfuel : value.toList.length <
      (value.toList.flatMap escapeChar ++ '"' :: rest).length := by
    rw [List.length_append, List.length_cons]
    omega
  rw [readString, readChars_escaped hfuel, Option.map_some]
  simp only [String.ofList_toList]

/-- A string in front of a text opens with a quote and closes in front of that text. -/
theorem string_append (value : String) (rest : List Char) :
    string value ++ rest = '"' :: (value.toList.flatMap escapeChar ++ '"' :: rest) := by
  simp [string]

/-! ## What does not count -/

/-- Nothing is skipped in front of a character that counts. -/
theorem skipFiller_of_head {c : Char} (hc : isFiller c = false) (rest : List Char) :
    skipFiller (c :: rest) = c :: rest := List.dropWhile_cons_of_neg (by simp [hc])

/-- A line break and its indentation do not count. -/
theorem skipFiller_newLine (level : Nat) (rest : List Char) :
    skipFiller (newLine level ++ rest) = skipFiller rest := by
  apply List.dropWhile_append_of_pos
  intro c hc
  obtain rfl | hblank := List.mem_cons.1 hc
  · rfl
  · rw [List.eq_of_mem_replicate hblank]
    rfl

/-- A value is read behind a line break as without it. -/
theorem readValue_newLine (fuel level : Nat) (rest : List Char) :
    readValue fuel (newLine level ++ rest) = readValue fuel rest := by
  cases fuel with
  | zero => simp only [readValue]
  | succ fuel => rw [readValue, readValue, skipFiller_newLine]

/-- Items are read behind a line break as without it. -/
theorem readItems_newLine (fuel level : Nat) (rest : List Char) :
    readItems fuel (newLine level ++ rest) = readItems fuel rest := by
  cases fuel with
  | zero => simp only [readItems]
  | succ fuel => rw [readItems, readItems, readValue_newLine]

/-- Fields are read behind a line break as without it. -/
theorem readFields_newLine (fuel level : Nat) (rest : List Char) :
    readFields fuel (newLine level ++ rest) = readFields fuel rest := by
  cases fuel with
  | zero => simp only [readFields]
  | succ fuel =>
    cases fuel with
    | zero => simp only [readFields, readField]
    | succ fuel => rw [readFields, readFields, readField, readField, skipFiller_newLine]

/-- A value is read behind a blank as without it. -/
theorem readValue_blank (fuel : Nat) (rest : List Char) :
    readValue fuel (' ' :: rest) = readValue fuel rest := by
  have hskip : skipFiller (' ' :: rest) = skipFiller rest := List.dropWhile_cons_of_pos rfl
  cases fuel with
  | zero => simp only [readValue]
  | succ fuel => rw [readValue, readValue, hskip]

/-! ## One value -/

/-- A text that starts with something that counts, and with no closing bracket of a list. -/
def Opens (source : List Char) : Prop :=
  ∃ c rest, source = c :: rest ∧ isFiller c = false ∧ c ≠ ']'

/-- How a text starts does not depend on what follows it. -/
theorem Opens.append {source : List Char} (hopens : Opens source) (rest : List Char) :
    Opens (source ++ rest) := by
  obtain ⟨c, more, rfl, hc⟩ := hopens
  exact ⟨c, more ++ rest, rfl, hc⟩

/-- Every written value starts with something that counts and closes no list. -/
theorem opens_prettyChars (level : Nat) (value : Json) : Opens (prettyChars level value) := by
  cases value with
  | text value =>
    rw [prettyChars, string]
    exact ⟨_, _, rfl, rfl, by decide⟩
  | list items =>
    cases items with
    | nil =>
      rw [prettyChars]
      exact ⟨_, _, rfl, rfl, by decide⟩
    | cons item rest =>
      rw [prettyChars]
      exact ⟨_, _, rfl, rfl, by decide⟩
  | record fields =>
    cases fields with
    | nil =>
      rw [prettyChars]
      exact ⟨_, _, rfl, rfl, by decide⟩
    | cons field rest =>
      rw [prettyChars]
      exact ⟨_, _, rfl, rfl, by decide⟩

/-- Of several items the first stands in front of a comma and the others on lines of their own. -/
theorem prettyItems_cons (level : Nat) (item next : Json) (rest : List Json) :
    prettyItems level (item :: next :: rest) =
      prettyChars level item ++ ',' :: newLine level ++ prettyItems level (next :: rest) := by
  rw [prettyItems]
  exact List.cons_ne_nil next rest

/-- Of several fields the first stands in front of a comma and the others on lines of their own. -/
theorem prettyFields_cons (level : Nat) (key : String) (value : Json) (next : String × Json)
    (rest : List (String × Json)) :
    prettyFields level ((key, value) :: next :: rest) =
      string key ++ ':' :: ' ' :: prettyChars level value ++ ',' :: newLine level ++
        prettyFields level (next :: rest) := by
  rw [prettyFields]
  exact List.cons_ne_nil next rest

/-- Written fields start with the quote of the first key. -/
theorem exists_prettyFields_eq (level : Nat) (key : String) (value : Json)
    (rest : List (String × Json)) :
    ∃ source, prettyFields level ((key, value) :: rest) = '"' :: source := by
  cases rest with
  | nil =>
    rw [prettyFields, string_append]
    exact ⟨_, rfl⟩
  | cons next rest =>
    rw [prettyFields_cons, List.append_assoc, List.append_assoc, string_append]
    exact ⟨_, rfl⟩

/-- Written items start with something that counts and closes no list. -/
theorem opens_prettyItems (level : Nat) (item : Json) (rest : List Json) :
    Opens (prettyItems level (item :: rest)) := by
  cases rest with
  | nil => exact opens_prettyChars level item
  | cons next rest =>
    rw [prettyItems_cons, List.append_assoc]
    exact (opens_prettyChars level item).append _

/-- A written string is read back as a text. -/
theorem readValue_string (fuel : Nat) (value : String) (rest : List Char) :
    readValue (fuel + 1) (string value ++ rest) = some (.text value, rest) := by
  rw [readValue, string_append, skipFiller_of_head rfl]
  simp only [readString_escaped]
  rfl

/-- A list is read if its items are read behind its opening bracket. -/
theorem readValue_list {fuel : Nat} {items : List Json} {source rest : List Char}
    (hitems : readItems fuel source = some (items, rest)) (hopens : Opens source) (level : Nat) :
    readValue (fuel + 1) ('[' :: (newLine level ++ source)) = some (.list items, rest) := by
  obtain ⟨c, more, rfl, hfiller, hclose⟩ := hopens
  rw [readValue, skipFiller_of_head rfl]
  simp only [skipFiller_newLine, skipFiller_of_head hfiller]
  split
  · next h =>
    injection h with hc
    exact absurd hc hclose
  · rw [hitems]
    rfl

/-- A record is read if its fields are read behind its opening brace. -/
theorem readValue_record {fuel : Nat} {fields : List (String × Json)} {source rest : List Char}
    (hfields : readFields fuel ('"' :: source) = some (fields, rest)) (level : Nat) :
    readValue (fuel + 1) ('\x7b' :: (newLine level ++ '"' :: source)) =
      some (.record fields, rest) := by
  rw [readValue, skipFiller_of_head rfl]
  simp only [skipFiller_newLine, skipFiller_of_head (rfl : isFiller '"' = false)]
  split
  · next h =>
    injection h with hc
    exact absurd hc (by decide)
  · rw [hfields]
    rfl

/-- A field is read if its value is read behind the key. -/
theorem readField_string {fuel : Nat} {value : Json} {source rest : List Char}
    (hvalue : readValue fuel source = some (value, rest)) (key : String) :
    readField (fuel + 1) (string key ++ ':' :: ' ' :: source) = some ((key, value), rest) := by
  rw [readField, string_append, skipFiller_of_head rfl]
  simp only [readString_escaped, skipFiller_of_head (rfl : isFiller ':' = false), readValue_blank,
    hvalue]
  rfl

/-! ## Values in values -/

/-- A value that is read back at every level and in front of anything, if there is fuel for twice
its length. -/
def ReadsBack (value : Json) : Prop :=
  ∀ (level fuel : Nat) (rest : List Char), 2 * (prettyChars level value).length ≤ fuel →
    readValue fuel (prettyChars level value ++ rest) = some (value, rest)

/-- The fuel that a written value asks for is not used up at the start. -/
theorem exists_fuel {level fuel : Nat} {value : Json}
    (hfuel : 2 * (prettyChars level value).length ≤ fuel) : ∃ less, fuel = less + 1 := by
  obtain ⟨c, rest, hcons, -⟩ := opens_prettyChars level value
  rw [hcons, List.length_cons] at hfuel
  exact ⟨fuel - 1, by omega⟩

/-- Written items are read back if each of them is. -/
theorem readItems_prettyItems {item : Json} {more : List Json}
    (hread : ∀ each ∈ item :: more, ReadsBack each) (level fuel : Nat)
    (hfuel : 2 * (prettyItems level (item :: more)).length < fuel) (outer : Nat)
    (rest : List Char) :
    readItems fuel (prettyItems level (item :: more) ++ (newLine outer ++ ']' :: rest)) =
      some (item :: more, rest) := by
  have hitem := hread item List.mem_cons_self
  induction more generalizing item fuel with
  | nil =>
    obtain ⟨fuel, rfl⟩ := Nat.exists_eq_succ_of_ne_zero (by omega : fuel ≠ 0)
    rw [prettyItems] at hfuel ⊢
    have hclose : skipFiller (newLine outer ++ ']' :: rest) = ']' :: rest := by
      rw [skipFiller_newLine, skipFiller_of_head rfl]
    rw [readItems, hitem level fuel _ (by omega)]
    simp only [hclose]
  | cons next more ih =>
    obtain ⟨fuel, rfl⟩ := Nat.exists_eq_succ_of_ne_zero (by omega : fuel ≠ 0)
    have hmore := fun each hmem => hread each (List.mem_cons_of_mem item hmem)
    have hcons := prettyItems_cons level item next more
    rw [hcons] at hfuel ⊢
    simp only [List.length_cons, List.length_append] at hfuel
    have hrest := ih hmore fuel (by omega) (hmore next List.mem_cons_self)
    simp only [List.append_assoc, List.cons_append]
    rw [readItems, hitem level fuel _ (by omega)]
    simp only [skipFiller_of_head (rfl : isFiller ',' = false), readItems_newLine, hrest]
    rfl

/-- Written fields are read back if the value of each is. -/
theorem readFields_prettyFields {key : String} {value : Json} {more : List (String × Json)}
    (hread : ∀ each ∈ (key, value) :: more, ReadsBack each.2) (level fuel : Nat)
    (hfuel : 2 * (prettyFields level ((key, value) :: more)).length < fuel) (outer : Nat)
    (rest : List Char) :
    readFields fuel (prettyFields level ((key, value) :: more) ++
      (newLine outer ++ '\x7d' :: rest)) = some ((key, value) :: more, rest) := by
  have hvalue : ReadsBack value := hread (key, value) List.mem_cons_self
  induction more generalizing key value fuel with
  | nil =>
    rw [prettyFields] at hfuel ⊢
    simp only [List.length_cons, List.length_append] at hfuel
    -- A field takes two calls, one for the field and one for its value.
    obtain ⟨fuel, rfl⟩ : ∃ less, fuel = less + 2 := ⟨fuel - 2, by omega⟩
    have hclose : skipFiller (newLine outer ++ '\x7d' :: rest) = '\x7d' :: rest := by
      rw [skipFiller_newLine, skipFiller_of_head rfl]
    simp only [List.append_assoc, List.cons_append]
    rw [readFields, readField_string (hvalue level fuel _ (by omega))]
    simp only [hclose]
  | cons next more ih =>
    obtain ⟨nextKey, nextValue⟩ := next
    have hmore := fun each hmem => hread each (List.mem_cons_of_mem (key, value) hmem)
    have hcons := prettyFields_cons level key value (nextKey, nextValue) more
    rw [hcons] at hfuel ⊢
    simp only [List.length_cons, List.length_append] at hfuel
    obtain ⟨fuel, rfl⟩ : ∃ less, fuel = less + 2 := ⟨fuel - 2, by omega⟩
    have hrest := ih hmore (fuel + 1) (by omega) (hmore _ List.mem_cons_self)
    simp only [List.append_assoc, List.cons_append]
    rw [readFields, readField_string (hvalue level fuel _ (by omega))]
    simp only [skipFiller_of_head (rfl : isFiller ',' = false), readFields_newLine, hrest]
    rfl

/-- Induction on the items of a list and the values of a record. -/
@[elab_as_elim]
theorem induction {motive : Json → Prop} (text : ∀ value, motive (.text value))
    (list : ∀ items, (∀ each ∈ items, motive each) → motive (.list items))
    (record : ∀ fields : List (String × Json), (∀ each ∈ fields, motive each.2) →
      motive (.record fields)) : ∀ value, motive value
  | .text value => text value
  | .list items => list items fun each _ => induction text list record each
  | .record fields => record fields fun each _ => induction text list record each.2
termination_by value => sizeOf value
decreasing_by
  · have hlt := List.sizeOf_lt_of_mem ‹each ∈ items›
    rw [Json.list.sizeOf_spec]
    omega
  · have hlt := List.sizeOf_lt_of_mem ‹each ∈ fields›
    have hpair : sizeOf each = 1 + sizeOf each.1 + sizeOf each.2 := Prod.mk.sizeOf_spec _ _
    rw [Json.record.sizeOf_spec]
    omega

/-- Every value is read back, by recursion on the values in it. -/
theorem readsBack (value : Json) : ReadsBack value := by
  induction value using Json.induction with
  | text value =>
    intro level fuel rest hfuel
    obtain ⟨fuel, rfl⟩ := exists_fuel hfuel
    rw [prettyChars]
    exact readValue_string fuel value rest
  | list items hread =>
    intro level fuel rest hfuel
    obtain ⟨fuel, rfl⟩ := exists_fuel hfuel
    cases items with
    | nil => rfl
    | cons item more =>
      rw [prettyChars] at hfuel ⊢
      simp only [List.length_cons, List.length_append] at hfuel
      have hitems := readItems_prettyItems hread (level + 1) fuel (by omega) level rest
      have hlist := readValue_list hitems ((opens_prettyItems _ item more).append _) (level + 1)
      simpa using hlist
  | record fields hread =>
    intro level fuel rest hfuel
    obtain ⟨fuel, rfl⟩ := exists_fuel hfuel
    cases fields with
    | nil => rfl
    | cons field more =>
      obtain ⟨key, value⟩ := field
      rw [prettyChars] at hfuel ⊢
      simp only [List.length_cons, List.length_append] at hfuel
      have hfields := readFields_prettyFields hread (level + 1) fuel (by omega) level rest
      obtain ⟨source, hsource⟩ := exists_prettyFields_eq (level + 1) key value more
      rw [hsource, List.cons_append] at hfields
      have hrecord := readValue_record hfields (level + 1)
      simpa [hsource] using hrecord

/-- A value that is written over lines is read back. -/
theorem read?_pretty (value : Json) : read? (pretty value) = some value := by
  have hvalue := readsBack value 0 (2 * (prettyChars 0 value).length + 1) [] (by omega)
  rw [List.append_nil] at hvalue
  rw [read?, pretty, String.toList_ofList, hvalue]
  rfl

/-- No two values are written alike. -/
theorem pretty_inj {value other : Json} (hsame : pretty value = pretty other) : value = other := by
  have hvalue := read?_pretty value
  rw [hsame, read?_pretty] at hvalue
  exact (Option.some.inj hvalue).symm

end SlashChat.Json
