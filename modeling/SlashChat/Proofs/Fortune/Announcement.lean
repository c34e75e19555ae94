import Mathlib.Data.List.DropRight
import SlashChat.Proofs.Fortune.Count

/-!
# Counts in arguments and announcements

A count is read from an argument and written into an announcement.  What is written is a numeral of
the count (`numeral?_text`), so it is read back.  It has no blank in it, so in an announcement it
is the last word but one, however much the nickname resembles an announcement: the announcement
tells the nickname and the count (`announcement_inj`).  `parse_numerals_announcement_inj` sums up
what the two directions do.
-/

set_option autoImplicit false

namespace SlashChat.FortuneCount

/-! ## The text of a count -/

/-- The text of a count is read back as the count. -/
theorem numeral?_text (count : Int) : numeral? (text count).toList = some count := by
  cases count with
  | ofNat n =>
    show numeral? n.repr.toList = _
    rw [numeral?_of_isDigit Text.isDigit_of_mem_repr, Text.natural?_repr]
    rfl
  | negSucc n =>
    have hsign : (text (.negSucc n)).toList = '-' :: (n + 1).repr.toList := by
      simp [text]
    rw [hsign, numeral?_minus, Text.natural?_repr]
    rfl

/-- Counts with the same text are the same. -/
theorem text_inj {count other : Int} : text count = text other ↔ count = other := by
  constructor
  · intro htext
    have hnumeral := numeral?_text count
    rw [htext, numeral?_text] at hnumeral
    exact (Option.some.inj hnumeral).symm
  · exact congrArg text

/-- The text of a count has no blank in it. -/
theorem blank_notMem_text (count : Int) : ' ' ∉ (text count).toList := by
  have hdigits (n : Nat) : ' ' ∉ n.repr.toList := by
    intro hmem
    exact absurd (Text.isDigit_of_mem_repr ' ' hmem) (by decide)
  cases count with
  | ofNat n => exact hdigits n
  | negSucc n =>
    intro hmem
    have hmem' : ' ' ∈ (n + 1).repr.toList := by simpa [text] using hmem
    exact hdigits (n + 1) hmem'

/-! ## Announcements -/

/-- What follows a blank without another blank is the part of the text behind its last blank. -/
theorem rtakeWhile_blank (before : List Char) {behind : List Char} (hbehind : ' ' ∉ behind) :
    (before ++ ' ' :: behind).rtakeWhile (· != ' ') = behind := by
  have hkept : ∀ c ∈ behind.reverse, (c != ' ') = true := by
    intro c hc
    rw [bne_iff_ne]
    rintro rfl
    exact hbehind (List.mem_reverse.1 hc)
  rw [List.rtakeWhile, List.reverse_append, List.reverse_cons, List.append_assoc,
    List.singleton_append, List.takeWhile_append_of_pos hkept,
    List.takeWhile_cons_of_neg (by decide), List.append_nil, List.reverse_reverse]

/-- An announcement without its last word. -/
def opening (nickname : String) (count : Int) : List Char :=
  (nickname.toList ++ " has decided to send you".toList) ++ ' ' :: (text count).toList

/-- An announcement ends with its last word, behind the opening that holds the nickname and the
count. -/
theorem toList_announcement (nickname : String) (count : Int) :
    (announcement nickname count).toList = opening nickname count ++ " fortunes:".toList := by
  simp [announcement, opening]

/-- An announcement tells both the nickname and the count. -/
theorem announcement_inj {nickname other : String} {count count' : Int} :
    announcement nickname count = announcement other count' ↔ nickname = other ∧ count = count' := by
  constructor
  · intro hsame
    have hchars := congrArg String.toList hsame
    rw [toList_announcement, toList_announcement] at hchars
    have hopening : opening nickname count = opening other count' := List.append_cancel_right hchars
    have htext : (text count).toList = (text count').toList := by
      calc (text count).toList
        _ = (opening nickname count).rtakeWhile (· != ' ') :=
          (rtakeWhile_blank _ (blank_notMem_text count)).symm
        _ = (opening other count').rtakeWhile (· != ' ') := by rw [hopening]
        _ = (text count').toList := rtakeWhile_blank _ (blank_notMem_text count')
    have hnickname : nickname.toList = other.toList := by
      unfold opening at hopening
      rw [htext] at hopening
      exact List.append_cancel_right (List.append_cancel_right hopening)
    exact ⟨String.toList_inj.1 hnickname, text_inj.1 (String.toList_inj.1 htext)⟩
  · rintro ⟨rfl, rfl⟩
    rfl

/-! ## Both directions -/

/-- Arguments are the wrong number of them exactly if they are not one. -/
theorem parse_eq_argumentCount_iff {args : List String} :
    parse args = .error .argumentCount ↔ args.length ≠ 1 := by
  match args with
  | [] | _ :: _ :: _ => simp [parse]
  | [arg] =>
    rw [parse]
    cases (numeral? arg.toList).filter inRange <;> simp

/-- One argument is of the wrong type exactly if no count can be read from it. -/
theorem parse_eq_argumentType_iff {arg : String} :
    parse [arg] = .error .argumentType ↔ ¬ ∃ count, parse [arg] = .ok count := by
  rw [parse]
  cases (numeral? arg.toList).filter inRange <;> simp

/-- The arguments of a line are a count when there is one of them and it is a numeral, with any
leading zeros, of a number of 64 bits; the errors tell which of the two fails.  The text of such a
number is a count again, and an announcement tells the nickname and the number in it. -/
theorem parse_numerals_announcement_inj :
    (∀ args, parse args = .error .argumentCount ↔ args.length ≠ 1) ∧
      (∀ arg count, parse [arg] = .ok count ↔
        IsNumeral arg.toList count ∧ -2 ^ 63 ≤ count ∧ count ≤ 2 ^ 63 - 1) ∧
      (∀ arg, parse [arg] = .error .argumentType ↔
        ¬ ∃ count, IsNumeral arg.toList count ∧ -2 ^ 63 ≤ count ∧ count ≤ 2 ^ 63 - 1) ∧
      (∀ count, -2 ^ 63 ≤ count → count ≤ 2 ^ 63 - 1 → parse [text count] = .ok count) ∧
      ∀ nickname count other count', announcement nickname count = announcement other count' →
        nickname = other ∧ count = count' := by
  have haccepts (arg : String) (count : Int) : parse [arg] = .ok count ↔
      IsNumeral arg.toList count ∧ -2 ^ 63 ≤ count ∧ count ≤ 2 ^ 63 - 1 := by
    rw [parse_eq_ok_iff, Int.le_sub_one_iff]
    simp
  refine ⟨fun args => parse_eq_argumentCount_iff, haccepts, ?other, ?written, ?told⟩
  case other =>
    intro arg
    simp only [parse_eq_argumentType_iff, haccepts]
  case written =>
    intro count hleast hmost
    apply (haccepts (text count) count).2
    exact ⟨numeral?_eq_some_iff.1 (numeral?_text count), hleast, hmost⟩
  case told =>
    intro nickname count other count' hsame
    exact announcement_inj.1 hsame

/-- A nickname may read like the beginning of an announcement. -/
example : announcement "ann has decided to send you 1" (-2) =
    "ann has decided to send you 1 has decided to send you -2 fortunes:" := by decide +kernel

end SlashChat.FortuneCount
