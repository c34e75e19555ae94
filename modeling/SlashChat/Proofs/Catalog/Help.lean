import SlashChat.Catalog.Help
import SlashChat.Proofs.Catalog.History

/-!
# The width of the help listing

A listing is told to have a width of a fixed margin and as many characters as its longest help text
shows.  The margin is four characters wider than the name column and the separators together need,
so it fits names of up to 33 characters.

`length_helpLine` and `exists_helpWidth_eq` say how long a line is and what the width depends on.  A
line fits exactly when a help text of the listing is longer than its own by as much as its name is
beyond 33 characters (`helpLine_fits_iff`).  A single long name does not fit
(`not_forall_helpLines_fit`).
-/

set_option autoImplicit false

namespace SlashChat.Catalog

variable {h : Type}

/-- How many characters of its help text the line of a command shows. -/
def shownHelp (command : Command h) : Nat := min helpLimit command.description.length

/-- A padded text is as long as its column, or as the text if that is longer. -/
theorem length_padTo (width : Nat) (text : String) :
    (padTo width text).length = max width text.length := by
  rw [← String.length_toList, padTo, String.toList_ofList, List.length_append,
    List.length_replicate, String.length_toList]
  omega

/-- A help line takes its name column, the part of the help text that is shown, and four characters
in front of and between them. -/
theorem length_helpLine (command : Command h) :
    (helpLine command).length = max nameColumn command.name.length + shownHelp command + 4 := by
  have hblanks : "  ".length = 2 := rfl
  have hcolon : ": ".length = 2 := rfl
  simp only [helpLine, String.length_append, length_padTo, String.length_ofList, List.length_take,
    String.length_toList, hblanks, hcolon, shownHelp]
  omega

/-- The width is that of the margin and the longest help text. -/
theorem exists_helpWidth_eq {catalog : Catalog h} (hne : catalog.commands ≠ []) :
    ∃ longest ∈ catalog.commands, catalog.helpWidth = helpMargin + shownHelp longest ∧
      ∀ command ∈ catalog.commands, shownHelp command ≤ shownHelp longest := by
  let lengths := catalog.commands.map (·.description.toList.length)
  have hlengths : lengths ≠ [] := by simpa [lengths] using hne
  have hfold : lengths.foldl max 0 = lengths.max hlengths := by
    rw [List.foldl_max_eq_max hlengths]
    omega
  obtain ⟨longest, hlongest, hmax⟩ := List.mem_map.1 (List.max_mem hlengths)
  rw [String.length_toList] at hmax
  refine ⟨longest, hlongest, ?_, ?_⟩
  · show helpMargin + min helpLimit (lengths.foldl max 0) = _
    rw [hfold, ← hmax, shownHelp]
  · intro command hcommand
    have hmem : command.description.length ∈ lengths := by
      rw [← String.length_toList]
      exact List.mem_map_of_mem hcommand
    have hle := List.le_max_of_mem hmem
    unfold shownHelp
    omega

/-- A line fits when its help text is shorter than another one by what its name has beyond 33
characters. -/
theorem helpLine_fits_iff {catalog : Catalog h} {command : Command h}
    (hcommand : command ∈ catalog.commands) :
    (helpLine command).length ≤ catalog.helpWidth ↔ ∃ other ∈ catalog.commands,
      command.name.length + shownHelp command ≤ 33 + shownHelp other := by
  have hmargin : helpMargin = 37 := rfl
  have hcolumn : nameColumn = 29 := rfl
  obtain ⟨longest, hlongest, hwidth, hmost⟩ :=
    exists_helpWidth_eq (List.ne_nil_of_mem hcommand)
  have hshown := hmost command hcommand
  rw [length_helpLine, hwidth]
  constructor
  · intro hfits
    exact ⟨longest, hlongest, by omega⟩
  · rintro ⟨other, hother, hfits⟩
    have hle := hmost other hother
    omega

/-- Every line of a listing fits its width exactly when each name beyond 33 characters stands beside
a help text that is shorter than another one by as much.  So a listing of names of up to 33
characters fits. -/
theorem helpLines_fit_iff (catalog : Catalog h) :
    ((∀ line ∈ catalog.helpLines, line.length ≤ catalog.helpWidth) ↔
        ∀ command ∈ catalog.commands, ∃ other ∈ catalog.commands,
          command.name.length + shownHelp command ≤ 33 + shownHelp other) ∧
      ((∀ command ∈ catalog.commands, command.name.length ≤ 33) →
        ∀ line ∈ catalog.helpLines, line.length ≤ catalog.helpWidth) := by
  have hfits : (∀ line ∈ catalog.helpLines, line.length ≤ catalog.helpWidth) ↔
      ∀ command ∈ catalog.commands, ∃ other ∈ catalog.commands,
        command.name.length + shownHelp command ≤ 33 + shownHelp other := by
    rw [helpLines, List.forall_mem_map]
    apply forall₂_congr
    intro command hcommand
    exact helpLine_fits_iff hcommand
  refine ⟨hfits, ?_⟩
  intro hnames
  apply hfits.2
  intro command hcommand
  exact ⟨command, hcommand, Nat.add_le_add_right (hnames command hcommand) _⟩

/-- The line of a name of 34 characters does not fit a listing of its own. -/
theorem not_forall_helpLines_fit :
    ¬ ∀ history : List (Command Unit), ∀ line ∈ (ofHistory history).helpLines,
      line.length ≤ (ofHistory history).helpWidth := by
  intro hall
  have hfits := hall [⟨"/send-the-weather-report-to-friend", "weather", ()⟩]
  exact absurd hfits (by decide +kernel)

end SlashChat.Catalog
