import SlashChat.Fortune.Table
import SlashChat.Proofs.Random.Choice

/-!
# Fair picks

A search passes over the words that are not accepted and over no other (`choose_of_accepts`,
`choose_of_rejects`).  So successive picks use the accepted words of a stream one after the other:
each pick goes on behind the word of the one before (`picksOf_eq`).  Together with the count of the
words that choose an index, every pick is as likely to come out with one entry as with any other
(`pick_uniform`).
-/

set_option autoImplicit false

namespace SlashChat

open Finset
open SlashChat.Random

namespace Random

/-! ## Choices along a stream -/

variable {words : Nat → UInt64} {n place : Nat}

/-- The places of the accepted words among `length` words from `place` on. -/
def acceptedPlaces (words : Nat → UInt64) (n place length : Nat) : List Nat :=
  (List.range' place length).filter fun place => accepts n (words place)

/-- The place behind the last of some places, or `place` if there are none. -/
def placeBehind (place : Nat) (used : List Nat) : Nat := used.getLast?.elim place (· + 1)

/-- An accepted word at the front adds its place to the accepted places. -/
theorem acceptedPlaces_of_accepts (haccepts : accepts n (words place) = true) (length : Nat) :
    acceptedPlaces words n place (length + 1) =
      place :: acceptedPlaces words n (place + 1) length := by
  simp only [acceptedPlaces, List.range'_succ, List.filter_cons, haccepts, if_true]

/-- A rejected word at the front adds no place to the accepted ones. -/
theorem acceptedPlaces_of_rejects (hrejects : accepts n (words place) = false) (length : Nat) :
    acceptedPlaces words n place (length + 1) = acceptedPlaces words n (place + 1) length := by
  simp only [acceptedPlaces, List.range'_succ, List.filter_cons, hrejects, Bool.false_eq_true,
    if_false]

/-- The place behind some used words is the one behind the last of them, wherever the search began.
-/
theorem placeBehind_cons (place first : Nat) (used : List Nat) :
    placeBehind place (first :: used) = placeBehind (first + 1) used := by
  cases used with
  | nil => rfl
  | cons second rest =>
    rw [placeBehind, placeBehind, List.getLast?_cons_cons]
    cases hlast : (second :: rest).getLast? with
    | none => simp at hlast
    | some last => rfl

/-- An accepted word makes its choice. -/
theorem choose_of_accepts (hn : 0 < n) (haccepts : accepts n (words place) = true) :
    choose words n hn place = (⟨highHalf n (words place), highHalf_lt hn _⟩, place + 1) := by
  have hfound : acceptedPlace words n place = place := by rw [acceptedPlace_eq, if_pos haccepts]
  simp only [choose, hfound]

/-- A word that is not accepted is passed over. -/
theorem choose_of_rejects (hn : 0 < n) (hrejects : accepts n (words place) = false) :
    choose words n hn place = choose words n hn (place + 1) := by
  have hfound : acceptedPlace words n place = acceptedPlace words n (place + 1) := by
    rw [acceptedPlace_eq, if_neg (by simp [hrejects])]
  simp only [choose, hfound]

end Random

namespace FortuneTable

/-! ## Picks along a stream -/

/-- Successive picks with the words of any stream from `place` on, and the place behind the words
that they used up. -/
def picksOf (table : FortuneTable) (words : Nat → UInt64) : (count place : Nat) → List String × Nat
  | 0, place => ([], place)
  | count + 1, place =>
    let (index, place) := choose words table.size table.size_pos place
    let (more, place) := table.picksOf words count place
    (table.entries.get index :: more, place)

/-- Picks from a source are those from its stream at the place that it has been read up to. -/
theorem picks_eq_picksOf (table : FortuneTable) (count : Nat) (source : Source) :
    let drawn := table.picksOf source.key.word count source.place
    table.picks count source = (drawn.1, { source with place := drawn.2 }) := by
  induction count generalizing source with
  | zero => rfl
  | succ count ih =>
    intro drawn
    let found := choose source.key.word table.size table.size_pos source.place
    have hrest := ih { source with place := found.2 }
    show ((table.entries.get found.1 :: (table.picks count { source with place := found.2 }).1),
      (table.picks count { source with place := found.2 }).2) = _
    rw [hrest]
    rfl

/-- An accepted word gives the next pick, and the picks after it start at the word behind. -/
theorem picksOf_succ_of_accepts (table : FortuneTable) {words : Nat → UInt64} {place : Nat}
    (haccepts : accepts table.size (words place) = true) (count : Nat) :
    (table.picksOf words (count + 1) place).1.map some =
        table.entries[highHalf table.size (words place)]? ::
          (table.picksOf words count (place + 1)).1.map some ∧
      (table.picksOf words (count + 1) place).2 = (table.picksOf words count (place + 1)).2 := by
  have hindex : highHalf table.size (words place) < table.entries.length :=
    highHalf_lt table.size_pos _
  have hpicks : table.picksOf words (count + 1) place =
      (table.entries[highHalf table.size (words place)] ::
        (table.picksOf words count (place + 1)).1, (table.picksOf words count (place + 1)).2) := by
    simp only [picksOf, choose_of_accepts table.size_pos haccepts]
    rfl
  rw [hpicks, List.getElem?_eq_getElem hindex]
  exact ⟨rfl, rfl⟩

/-- A rejected word is passed over, as if the picks began at the word behind. -/
theorem picksOf_succ_of_rejects (table : FortuneTable) {words : Nat → UInt64} {place : Nat}
    (hrejects : accepts table.size (words place) = false) (count : Nat) :
    table.picksOf words (count + 1) place = table.picksOf words (count + 1) (place + 1) := by
  simp only [picksOf, choose_of_rejects table.size_pos hrejects]

/-- Picks use up the accepted words of a stream in order, each of them once. -/
theorem picksOf_eq (table : FortuneTable) (words : Nat → UInt64) {place length count : Nat}
    (hcount : count ≤ (acceptedPlaces words table.size place length).length) :
    let used := (acceptedPlaces words table.size place length).take count
    (table.picksOf words count place).1.map some =
        used.map (fun place => table.entries[highHalf table.size (words place)]?) ∧
      (table.picksOf words count place).2 = placeBehind place used := by
  induction length generalizing place count with
  | zero =>
    obtain rfl := Nat.le_zero.1 hcount
    exact ⟨rfl, rfl⟩
  | succ length ih =>
    cases count with
    | zero => exact ⟨rfl, rfl⟩
    | succ count =>
      cases haccepts : accepts table.size (words place) with
      | true =>
        rw [acceptedPlaces_of_accepts haccepts] at hcount ⊢
        obtain ⟨hmore, hplace⟩ := ih (Nat.le_of_succ_le_succ hcount)
        obtain ⟨hfortunes, hnext⟩ := table.picksOf_succ_of_accepts haccepts count
        intro used
        refine ⟨?_, ?_⟩
        · rw [hfortunes, hmore]
          rfl
        · rw [hnext, hplace]
          exact (placeBehind_cons place place _).symm
      | false =>
        rw [acceptedPlaces_of_rejects haccepts] at hcount ⊢
        obtain ⟨hmore, hplace⟩ := ih hcount
        intro used
        rw [table.picksOf_succ_of_rejects haccepts]
        refine ⟨hmore, hplace.trans ?_⟩
        -- At least one word is used, so the place that the search started from is of no account.
        obtain ⟨first, rest, hcons⟩ : ∃ first rest, used = first :: rest := by
          refine List.exists_cons_of_length_pos ?_
          rw [List.length_take]
          omega
        show placeBehind (place + 1) used = placeBehind place used
        rw [hcons, placeBehind_cons, placeBehind_cons]

/-- A pick from `n` entries is fair.  The zone is exact in 64 bits.  The high half of a product is
always the index of an entry, each index is chosen by the same number of accepted words, and these
are at least half of all words.  Successive picks answer the entries of the first accepted words of
the stream in order, and leave it behind the last of these. -/
theorem pick_uniform {n : Nat} (hpos : 0 < n) (hsize : n < 2 ^ 64) :
    (2 ^ 63 ≤ n * 2 ^ leadingZeros n ∧ n * 2 ^ leadingZeros n < 2 ^ 64 ∧
      zone n + 1 = n * 2 ^ leadingZeros n ∧
      ((n.toUInt64 <<< (leadingZeros n).toUInt64) - 1).toNat = zone n) ∧
    (∀ word, highHalf n word < n) ∧
    (∀ index < n,
      #{word : UInt64 | accepts n word = true ∧ highHalf n word = index} = 2 ^ leadingZeros n) ∧
    2 ^ 64 ≤ 2 * #{word : UInt64 | accepts n word = true} ∧
    ∀ table : FortuneTable, table.size = n →
      (∀ (words : Nat → UInt64) (place length count : Nat),
        count ≤ (acceptedPlaces words n place length).length →
        let used := (acceptedPlaces words n place length).take count
        (table.picksOf words count place).1.map some =
            used.map (fun place => table.entries[highHalf n (words place)]?) ∧
          (table.picksOf words count place).2 = placeBehind place used) ∧
      ∀ (count : Nat) (source : Source),
        let drawn := table.picksOf source.key.word count source.place
        table.picks count source = (drawn.1, { source with place := drawn.2 }) := by
  obtain ⟨hlow, hhigh⟩ := shift_bounds hpos hsize
  refine ⟨⟨hlow, hhigh, zone_add_one hpos hsize, toNat_wordZone hpos hsize⟩, highHalf_lt hpos,
    fun index hindex => card_choosing hsize hindex, ?_, ?_⟩
  · rw [card_accepted hpos hsize]
    omega
  · rintro table rfl
    exact ⟨fun words place length count hcount => table.picksOf_eq words hcount,
      fun count source => table.picks_eq_picksOf count source⟩

/-- Of three entries the last is chosen by a quarter of all words.  Two picks from a stream whose
first and fourth word are not accepted use up the two words between these. -/
theorem pick_uniform_three :
    let words : Nat → UInt64 := fun place =>
      [0xFFFFFFFFFFFFFFFF, 0, 0x8000000000000000, 0xFFFFFFFFFFFFFFFF].getD place 0
    0 < 3 ∧ 3 < 2 ^ 64 ∧ FortuneTable.builtin.size = 3 ∧
      2 ≤ (acceptedPlaces words 3 0 4).length ∧
      #{word : UInt64 | accepts 3 word = true ∧ highHalf 3 word = 2} = 2 ^ 62 ∧
      FortuneTable.builtin.picksOf words 2 0 = (FortuneTable.builtin.entries.take 2, 3) := by
  intro words
  have hused : acceptedPlaces words 3 0 4 = [1, 2] := by decide +kernel
  have hcount : 2 ≤ (acceptedPlaces words 3 0 4).length := by decide +kernel
  obtain ⟨-, -, hchoosing, -, hpicks⟩ := pick_uniform (n := 3) (by decide) (by decide)
  obtain ⟨hfortunes, hplace⟩ := (hpicks .builtin rfl).1 words 0 4 2 hcount
  refine ⟨by decide, by decide, rfl, hcount, hchoosing 2 (by decide), ?_⟩
  rw [hused] at hfortunes hplace
  refine Prod.ext (List.map_injective_iff.2 (Option.some_injective _) ?_) hplace
  rw [hfortunes]
  decide +kernel

end FortuneTable

end SlashChat
