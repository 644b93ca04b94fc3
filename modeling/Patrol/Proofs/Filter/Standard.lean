import Patrol.Proofs.Filter.Directories

/-! The filter of a project that names no globs. It passes over the directories of dependencies and
build tools, told by the parts of a path. -/
namespace Patrol.Filter
open Patrol.Language (dropQuery)
open Text (splitOn)

/-- The names of the directories that are passed over. -/
def dropped : List (List Char) := ["node_modules".toList, ".nuxt".toList]

def standard : Filter := ⟨dropped.map Glob.below⟩

theorem standard_eq : standard = passingOver dropped := rfl

theorem ofGlobs_defaultGlobs : ofGlobs defaultGlobs = .ok standard := rfl

/-- Whether none of some parts is the name of a directory that is passed over. -/
def Clear (parts : List (List Char)) : Prop := ∀ name ∈ dropped, name ∉ parts

theorem clear_append_iff {a b : List (List Char)} : Clear (a ++ b) ↔ Clear a ∧ Clear b := by
  simp only [Clear, List.mem_append, not_or]
  exact ⟨fun h => ⟨fun n hn => (h n hn).1, fun n hn => (h n hn).2⟩,
    fun h n hn => ⟨h.1 n hn, h.2 n hn⟩⟩

theorem clear_singleton_iff {name : String} :
    Clear [name.toList] ↔ name ≠ "node_modules" ∧ name ≠ ".nuxt" := by
  rw [Clear, dropped, List.forall_mem_cons, List.forall_mem_singleton, List.mem_singleton,
    List.mem_singleton, String.toList_inj, String.toList_inj, ne_comm, ne_comm (b := ".nuxt")]

theorem parts_append (front back : List Char) :
    parts (front ++ '/' :: back) = parts front ++ parts back := by
  have whole : slashed (front ++ '/' :: back) = slashed front ++ '/' :: slashed back := by
    simp [slashed]
  rw [parts, whole, Text.splitOn_append]
  rfl

theorem parts_of_plain {text : List Char} (unslashed : '/' ∉ text) (plain : '\\' ∉ text) :
    parts text = [text] := by
  have same : slashed text = text := by
    refine (List.map_congr_left fun c member => if_neg ?_).trans (List.map_id text)
    rintro rfl
    exact plain member
  rw [parts, same, Text.splitOn_eq_singleton unslashed]

/-! ## Files -/

/-- A path is excluded if it goes through a directory that is passed over. -/
theorem standard_excludes_eq_false_iff {path : List Char} :
    standard.excludes path = false ↔ Clear (splitOn '/' path).dropLast := by
  have unslashed : ∀ name ∈ dropped, '/' ∉ name := by decide
  rw [← Bool.not_eq_true, standard_eq, passingOver_excludes_iff unslashed]
  simp only [Clear, not_exists, not_and]

/-- A file is wanted if its path in front of a query is clear but for the last part, which is the name
of a source file. -/
theorem standard_wants_iff {file : String} :
    (∃ l, standard.verdict file = .ok l) ↔
      Clear (parts (dropQuery file.toList)).dropLast ∧ ∃ l, Language.detect? file = some l := by
  simp only [verdict_eq_ok_iff, standard_excludes_eq_false_iff, exists_and_left]
  rfl

/-! ## Directories -/

/-- A directory is entered if all parts of its path are clear. -/
theorem standard_prunes_eq_false_iff {directory : String} :
    standard.prunes directory = false ↔ Clear (parts directory.toList) := by
  have unslashed : ∀ name ∈ dropped, '/' ∉ name := by decide
  have nonempty : ∀ name ∈ dropped, name ≠ [] := by decide
  rw [← Bool.not_eq_true, standard_eq, passingOver_prunes_iff unslashed nonempty]
  simp only [Clear, not_exists, not_and]

end Patrol.Filter
