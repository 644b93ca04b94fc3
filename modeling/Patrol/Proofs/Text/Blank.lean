import Patrol.Text.Blank

/-! Texts without the blanks at their end. -/
namespace Patrol.Text

/-- Nothing is left exactly of texts that show nothing. -/
theorem dropBlankEnd_eq_nil_iff {cs : List Char} :
    dropBlankEnd cs = [] ↔ ∀ c ∈ cs, isBlank c = true := by
  induction cs with
  | nil => simp [dropBlankEnd]
  | cons c cs ih =>
    rw [List.forall_mem_cons, ← ih, dropBlankEnd]
    cases dropBlankEnd cs with
    | nil => cases blank : isBlank c <;> simp
    | cons d ds => simp

/-- What is left has no blanks at its end. -/
theorem dropBlankEnd_dropBlankEnd (cs : List Char) :
    dropBlankEnd (dropBlankEnd cs) = dropBlankEnd cs := by
  induction cs with
  | nil => rfl
  | cons c cs ih =>
    rw [dropBlankEnd]
    cases kept : dropBlankEnd cs with
    | nil => cases blank : isBlank c <;> simp [dropBlankEnd, blank]
    | cons d ds =>
      rw [kept] at ih
      simp only
      rw [dropBlankEnd, ih]

theorem trimEnd_trimEnd (s : String) : trimEnd (trimEnd s) = trimEnd s := by
  rw [trimEnd, trimEnd, String.toList_ofList, dropBlankEnd_dropBlankEnd]

/-- A text shows as much without the blanks at its end. -/
theorem isBlankText_trimEnd (s : String) : isBlankText (trimEnd s) = isBlankText s := by
  have blank (cs : List Char) : cs.all isBlank = true ↔ dropBlankEnd cs = [] := by
    rw [dropBlankEnd_eq_nil_iff, List.all_eq_true]
  rw [Bool.eq_iff_iff, isBlankText, isBlankText, trimEnd, String.toList_ofList, blank, blank,
    dropBlankEnd_dropBlankEnd]

end Patrol.Text
