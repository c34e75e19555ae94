import Mathlib.Algebra.BigOperators.Group.Finset.Basic
import Mathlib.Algebra.Order.Floor.Div
import Mathlib.Data.FinEnum
import Mathlib.Order.Interval.Finset.Nat
import Mathlib.Tactic.Ring
import SlashChat.Random.Choice

/-!
# Fairness of a choice

A word chooses `index` below `n` exactly when its product with `n` is in the window of
`n * 2 ^ leadingZeros n` numbers that starts at `index * 2 ^ 64` (`chooses_iff`).  A window of that
length holds `2 ^ leadingZeros n` multiples of `n`, wherever it starts (`mem_window_iff`).  So every
number below `n` is chosen by equally many words (`card_choosing`), and these are at least half of
all words (`card_accepted`).
-/

set_option autoImplicit false

namespace SlashChat.Random

open Finset

/-! ## The zone -/

/-- There are as many words as 64 bits can form. -/
theorem wordCount_eq : wordCount = 2 ^ 64 := rfl

/-- Moved up by its leading zeros, a number fills the 64 bits and does not leave them. -/
theorem shift_bounds {n : Nat} (hpos : 0 < n) (hsize : n < 2 ^ 64) :
    2 ^ 63 ≤ n * 2 ^ leadingZeros n ∧ n * 2 ^ leadingZeros n < 2 ^ 64 := by
  have hne : n ≠ 0 := by omega
  have hlog : n.log2 < 64 := (Nat.log2_lt hne).2 hsize
  have hzeros : leadingZeros n = 63 - n.log2 := if_neg hne
  have hlow : 2 ^ n.log2 ≤ n := Nat.log2_self_le hne
  have hhigh : n < 2 ^ (n.log2 + 1) := Nat.lt_log2_self
  have hfill : 2 ^ n.log2 * 2 ^ leadingZeros n = 2 ^ 63 := by
    rw [hzeros, ← Nat.pow_add]
    congr 1
    omega
  constructor
  · calc 2 ^ 63
      _ = 2 ^ n.log2 * 2 ^ leadingZeros n := hfill.symm
      _ ≤ n * 2 ^ leadingZeros n := Nat.mul_le_mul_right _ hlow
  · calc n * 2 ^ leadingZeros n
      _ < 2 ^ (n.log2 + 1) * 2 ^ leadingZeros n :=
        Nat.mul_lt_mul_of_pos_right hhigh (Nat.two_pow_pos _)
      _ = 2 ^ n.log2 * 2 ^ leadingZeros n * 2 := by ring
      _ = 2 ^ 64 := by rw [hfill]; rfl

/-- The zone ends below the number moved up by its leading zeros. -/
theorem zone_add_one {n : Nat} (hpos : 0 < n) (hsize : n < 2 ^ 64) :
    zone n + 1 = n * 2 ^ leadingZeros n := by
  obtain ⟨hlow, -⟩ := shift_bounds hpos hsize
  rw [zone, Nat.shiftLeft_eq]
  omega

/-- Computed with words of 64 bits the zone is the same number: no bit is shifted out, and there is
a one to take away. -/
theorem toNat_wordZone {n : Nat} (hpos : 0 < n) (hsize : n < 2 ^ 64) :
    ((n.toUInt64 <<< (leadingZeros n).toUInt64) - 1).toNat = zone n := by
  obtain ⟨hlow, hhigh⟩ := shift_bounds hpos hsize
  have hzeros : leadingZeros n < 64 := by
    rw [leadingZeros, if_neg (by omega)]
    omega
  have hshift : (n.toUInt64 <<< (leadingZeros n).toUInt64).toNat = n * 2 ^ leadingZeros n := by
    rw [UInt64.toNat_shiftLeft, UInt64.toNat_ofNat_of_lt' hsize,
      UInt64.toNat_ofNat_of_lt' (Nat.lt_trans hzeros (by decide)), Nat.mod_eq_of_lt hzeros,
      Nat.shiftLeft_eq, Nat.mod_eq_of_lt hhigh]
  have hone : (1 : UInt64) ≤ n.toUInt64 <<< (leadingZeros n).toUInt64 := by
    rw [UInt64.le_iff_toNat_le, hshift]
    exact Nat.le_trans (by decide) hlow
  rw [UInt64.toNat_sub_of_le _ _ hone, hshift, zone, Nat.shiftLeft_eq]
  rfl

/-! ## Windows -/

/-- The multiples of `n` in a window of `count * n` numbers are those of `count` successive
factors. -/
theorem mem_window_iff {n : Nat} (hpos : 0 < n) (start count factor : Nat) :
    (start ≤ factor * n ∧ factor * n < start + n * count) ↔
      factor ∈ Ico (start ⌈/⌉ n) (start ⌈/⌉ n + count) := by
  have hend : (start + n * count) ⌈/⌉ n = start ⌈/⌉ n + count := by
    have hmove : start + n * count + n - 1 = start + n - 1 + n * count := by omega
    rw [Nat.ceilDiv_eq_add_pred_div, Nat.ceilDiv_eq_add_pred_div, hmove,
      Nat.add_mul_div_left _ _ hpos]
  have hlow : start ⌈/⌉ n ≤ factor ↔ start ≤ n * factor := ceilDiv_le_iff_le_mul hpos
  have hhigh : factor < start ⌈/⌉ n + count ↔ n * factor < start + n * count := by
    rw [← Nat.not_le, ← hend, ceilDiv_le_iff_le_mul hpos, Nat.not_le]
  rw [mem_Ico, hlow, hhigh, Nat.mul_comm factor n]

/-- A word chooses `index` when its product with `n` is in the window of `index`. -/
theorem chooses_iff {n : Nat} (hpos : 0 < n) (hsize : n < 2 ^ 64) (word : UInt64) (index : Nat) :
    (accepts n word = true ∧ highHalf n word = index) ↔
      (index * 2 ^ 64 ≤ word.toNat * n ∧
        word.toNat * n < index * 2 ^ 64 + n * 2 ^ leadingZeros n) := by
  obtain ⟨-, hhigh⟩ := shift_bounds hpos hsize
  have hzone := zone_add_one hpos hsize
  have haccepts : accepts n word = true ↔ word.toNat * n % 2 ^ 64 ≤ zone n := decide_eq_true_iff
  rw [haccepts, highHalf, wordCount_eq]
  omega

/-! ## Counting words -/

/-- Every number below `n` is chosen by equally many words. -/
theorem card_choosing {n : Nat} (hsize : n < 2 ^ 64) {index : Nat} (hindex : index < n) :
    #{word : UInt64 | accepts n word = true ∧ highHalf n word = index} = 2 ^ leadingZeros n := by
  have hpos : 0 < n := by omega
  obtain ⟨-, hhigh⟩ := shift_bounds hpos hsize
  let first := index * 2 ^ 64 ⌈/⌉ n
  -- The window of the last index ends at `n * 2 ^ 64` or before, so its factors are words.
  have hwords : ∀ factor ∈ Ico first (first + 2 ^ leadingZeros n), factor < UInt64.size := by
    intro factor hfactor
    obtain ⟨-, hlt⟩ := (mem_window_iff hpos _ _ _).2 hfactor
    have hbelow : factor * n < 2 ^ 64 * n := by
      calc factor * n
        _ < index * 2 ^ 64 + n * 2 ^ leadingZeros n := hlt
        _ ≤ index * 2 ^ 64 + 2 ^ 64 := by omega
        _ = 2 ^ 64 * (index + 1) := by ring
        _ ≤ 2 ^ 64 * n := Nat.mul_le_mul_left _ hindex
    exact Nat.lt_of_mul_lt_mul_right hbelow
  calc #{word : UInt64 | accepts n word = true ∧ highHalf n word = index}
    _ = #(Ico first (first + 2 ^ leadingZeros n)) := by
      refine card_nbij' UInt64.toNat UInt64.ofNat ?_ ?_ ?_ ?_
      · intro word hword
        have hchooses := (mem_filter.1 (mem_coe.1 hword)).2
        exact mem_coe.2 ((mem_window_iff hpos _ _ _).1 ((chooses_iff hpos hsize _ _).1 hchooses))
      · intro factor hfactor
        have hword := UInt64.toNat_ofNat_of_lt' (hwords factor (mem_coe.1 hfactor))
        have hwindow := (mem_window_iff hpos _ _ _).2 (mem_coe.1 hfactor)
        rw [← hword] at hwindow
        exact mem_coe.2 (mem_filter.2 ⟨mem_univ _, (chooses_iff hpos hsize _ _).2 hwindow⟩)
      · intro word _
        exact UInt64.ofNat_toNat
      · intro factor hfactor
        exact UInt64.toNat_ofNat_of_lt' (hwords factor (mem_coe.1 hfactor))
    _ = 2 ^ leadingZeros n := by rw [Nat.card_Ico, Nat.add_sub_cancel_left]

/-- As many words are accepted as the number moved up by its leading zeros. -/
theorem card_accepted {n : Nat} (hpos : 0 < n) (hsize : n < 2 ^ 64) :
    #{word : UInt64 | accepts n word = true} = n * 2 ^ leadingZeros n := by
  have hbelow : ∀ word ∈ ({word : UInt64 | accepts n word = true} : Finset UInt64),
      highHalf n word ∈ range n := fun word _ => mem_range.2 (highHalf_lt hpos word)
  calc #{word : UInt64 | accepts n word = true}
    _ = ∑ index ∈ range n,
        #{word ∈ ({word : UInt64 | accepts n word = true} : Finset UInt64) |
          highHalf n word = index} := card_eq_sum_card_fiberwise hbelow
    _ = ∑ _index ∈ range n, 2 ^ leadingZeros n := by
      refine sum_congr rfl fun index hindex => ?_
      rw [filter_filter]
      exact card_choosing hsize (mem_range.1 hindex)
    _ = n * 2 ^ leadingZeros n := by rw [sum_const, card_range, smul_eq_mul]

end SlashChat.Random
