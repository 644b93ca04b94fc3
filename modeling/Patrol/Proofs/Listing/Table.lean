import Patrol.Listing
import Patrol.Proofs.Text.Digits
import Patrol.Proofs.Text.Split

/-! The listing for readers. Its last line tells how many rules there are, whatever stands in the
texts of the rules. -/
namespace Patrol.Listing
open Text (splitOn)

/-- Whether the last line of a text is this one, with its end behind it. -/
def EndsWithLine (text line : String) : Prop :=
  ∃ front, splitOn '\n' text.toList = front ++ [line.toList, []]

/-- The line with the number of rules. -/
def tally (count : Nat) : String := toString count ++ " rules active"

theorem newline_not_mem_tally (count : Nat) : '\n' ∉ (tally count).toList := by
  rw [tally, String.toList_append, List.mem_append, not_or]
  exact ⟨Text.newline_not_mem_toString count, by decide⟩

/-- The digits at its beginning tell which number a line is for. -/
theorem tally_inj {m n : Nat} : tally m = tally n ↔ m = n := by
  constructor
  · intro same
    have chars := congrArg String.toList same
    simp only [tally, String.toList_append] at chars
    have blank : ∀ c ∈ (" rules active".toList).head?, c.isDigit = false := by
      rintro c ⟨⟩
      decide
    exact (Text.eq_of_toString_append blank blank chars).1
  · rintro rfl
    rfl

/-- A text has one last line. -/
theorem EndsWithLine.unique {text line other : String} (ends : EndsWithLine text line)
    (ends' : EndsWithLine text other) : line = other := by
  obtain ⟨front, parts⟩ := ends
  obtain ⟨front', parts'⟩ := ends'
  have same := List.append_inj_right' (parts.symm.trans parts') rfl
  exact String.toList_inj.1 (List.cons.inj same).1

theorem table_eq {c : Catalog} (full : c.rules ≠ []) :
    table c =
      String.join (c.rules.mapIdx fun i r => line (nameWidth c) (i + 1) r) ++ "\n" ++
        toString c.size ++ " rules active\n" :=
  if_neg (by simpa using full)

theorem endsWithLine_table {c : Catalog} (some : c.rules ≠ []) :
    EndsWithLine (table c) (tally c.size) := by
  have rows : ∃ rows, table c = rows ++ "\n" ++ toString c.size ++ " rules active\n" :=
    ⟨_, table_eq some⟩
  obtain ⟨rows, text⟩ := rows
  have chars : (table c).toList =
      rows.toList ++ '\n' :: ((tally c.size).toList ++ '\n' :: []) := by
    rw [text, tally]
    simp only [String.toList_append, List.append_assoc]
    rfl
  have last := Text.splitOn_eq_singleton (newline_not_mem_tally c.size)
  refine ⟨splitOn '\n' rows.toList, ?_⟩
  rw [chars, Text.splitOn_append, Text.splitOn_append, last]
  rfl

/-- The last line of a listing tells how many rules it lists. -/
theorem endsWithLine_table_iff {c : Catalog} (some : c.rules ≠ []) {n : Nat} :
    EndsWithLine (table c) (tally n) ↔ n = c.size := by
  constructor
  · intro ends
    exact tally_inj.1 (ends.unique (endsWithLine_table some))
  · rintro rfl
    exact endsWithLine_table some

end Patrol.Listing
