import Patrol.Proofs.Filter.Pruning
import Patrol.Proofs.Glob.Reader

/-! Filters that pass over the directories of some names. What they exclude is told by the parts of a
path: for a file by those in front of its own name, for a directory by all of them. -/
namespace Patrol.Filter
open Patrol.Language (dropQuery)
open Text (splitOn)

variable {names : List (List Char)}

/-- The filter that passes over the directories of some names. -/
def passingOver (names : List (List Char)) : Filter := ⟨names.map Glob.below⟩

/-- The parts of a text between slashes, where backslashes count as slashes. -/
def parts (text : List Char) : List (List Char) := splitOn '/' (slashed text)

/-- A path is excluded if it goes through a directory that is passed over. -/
theorem passingOver_excludes_iff (unslashed : ∀ n ∈ names, '/' ∉ n) {path : List Char} :
    (passingOver names).excludes path = true ↔ ∃ n ∈ names, n ∈ (splitOn '/' path).dropLast := by
  simp only [passingOver, excludes, List.any_map, List.any_eq_true, Function.comp_apply]
  refine exists_congr fun n => and_congr_right fun member => ?_
  rw [Glob.accepts_below_iff, Glob.GoesThrough, Text.mem_dropLast_splitOn_iff,
    and_iff_right (unslashed n member)]

/-- The parts of a directory's path are those in front of the slash behind it, unless they are
empty. -/
theorem mem_dropLast_folderPath_iff {n : List Char} (some : n ≠ []) {directory : List Char} :
    n ∈ (splitOn '/' (folderPath directory)).dropLast ↔ n ∈ parts directory := by
  rw [folderPath]
  split
  · next closed =>
    obtain ⟨front, path_eq⟩ := List.getLast?_eq_some_iff.1 closed
    have last : splitOn '/' (slashed directory) = splitOn '/' front ++ [[]] := by
      rw [path_eq, Text.splitOn_append]
      rfl
    rw [parts, last, List.dropLast_concat, List.mem_append, List.mem_singleton, or_iff_left some]
  · rw [Text.splitOn_append]
    have alone : splitOn '/' [] = [[]] := rfl
    rw [alone, List.dropLast_concat, parts]

/-- A directory is pruned if its path goes through, or to, one that is passed over. -/
theorem passingOver_prunes_iff (unslashed : ∀ n ∈ names, '/' ∉ n) (nonempty : ∀ n ∈ names, n ≠ [])
    {directory : String} :
    (passingOver names).prunes directory = true ↔ ∃ n ∈ names, n ∈ parts directory.toList := by
  rw [prunes_eq, passingOver_excludes_iff unslashed]
  exact exists_congr fun n => and_congr_right fun member =>
    mem_dropLast_folderPath_iff (nonempty n member)

/-! ## Names in globs -/

/-- Whether a text can be the name of a directory, and means nothing else in a glob. -/
structure IsPlainName (name : String) : Prop where
  nonempty : name ≠ ""
  plain : ∀ c ∈ name.toList, c ∉ Glob.marks

/-- The text of the glob that accepts what is below directories of a name. -/
def belowText (name : String) : String := "**/" ++ name ++ "/**"

theorem belowText_eq (name : String) : belowText name = (Glob.below name.toList).source := by
  apply String.toList_injective
  simp [belowText, Glob.below]

theorem ofGlobs_belowText {names : List String} (plain : ∀ n ∈ names, IsPlainName n) :
    ofGlobs (names.map belowText) = .ok (passingOver (names.map String.toList)) := by
  have globs : (names.map belowText).mapM (fun source =>
      (Glob.compile .strict source).mapError fun cause => BadGlob.mk source cause) =
      .ok ((names.map String.toList).map Glob.below) := by
    rw [mapM_eq_ok_iff, List.map_map, List.forall₂_map_left_iff, List.forall₂_map_right_iff,
      List.forall₂_same]
    intro n member
    rw [belowText_eq, Glob.compile_below (plain n member).plain]
    rfl
  rw [ofGlobs, globs]
  rfl

/-- **Excluded directories are told by their names.** The filter of the globs for what is below
directories of some names excludes the files below directories of exactly these names, and prunes
exactly these directories and those below them; the files that it does not exclude are judged by
their dialect. -/
theorem names_pass_over_exactly {names : List String} (plain : ∀ n ∈ names, IsPlainName n) :
    ∃ f, ofGlobs (names.map belowText) = .ok f ∧
      (∀ file, f.verdict file = .error .excluded ↔
        ∃ n ∈ names, n.toList ∈ (parts (dropQuery file.toList)).dropLast) ∧
      (∀ file, f.verdict file = .error .excluded ∨
        f.verdict file =
          match Language.detect? file with
          | some l => .ok l
          | none => .error .noLanguage) ∧
      (∀ directory, f.prunes directory = true ↔
        ∃ n ∈ names, n.toList ∈ parts directory.toList) ∧
      defaultGlobs = ["node_modules", ".nuxt"].map belowText := by
  have unslashed : ∀ n ∈ names.map String.toList, '/' ∉ n := by
    intro n member
    obtain ⟨name, known, rfl⟩ := List.mem_map.1 member
    exact fun slash => (plain name known).plain '/' slash (by decide)
  have nonempty : ∀ n ∈ names.map String.toList, n ≠ [] := by
    intro n member
    obtain ⟨name, known, rfl⟩ := List.mem_map.1 member
    simpa using (plain name known).nonempty
  have known (all : List (List Char)) :
      (∃ n ∈ names.map String.toList, n ∈ all) ↔ ∃ n ∈ names, n.toList ∈ all := by
    simp only [List.mem_map, exists_exists_and_eq_and]
  refine ⟨_, ofGlobs_belowText plain, fun file => ?_, fun file => ?_, fun directory => ?_, rfl⟩
  · rw [verdict_eq_excluded_iff, passingOver_excludes_iff unslashed, known]
    rfl
  · rw [verdict_eq]
    split
    · exact .inl rfl
    · exact .inr rfl
  · rw [passingOver_prunes_iff unslashed nonempty, known]

/-- Names that are parts of other names, and a name with a blank. -/
theorem names_pass_over_exactly_parts :
    (∀ n ∈ ["node_modules", "my files"], IsPlainName n) ∧
      ∃ f, ofGlobs ["**/node_modules/**", "**/my files/**"] = .ok f ∧
        f.verdict "app\\my files//a.js?x" = .error .excluded ∧
        f.verdict "my_node_modules/node_modules.js" = .ok .javaScript ∧
        f.prunes "app\\node_modules/" = true ∧ f.prunes "app/my_node_modules" = false := by
  have unmarked : ∀ n ∈ ["node_modules", "my files"],
      n ≠ "" ∧ n.toList.all (fun c => !Glob.marks.contains c) = true := by decide +kernel
  have plain : ∀ n ∈ ["node_modules", "my files"], IsPlainName n := by
    intro n member
    obtain ⟨nonempty, apart⟩ := unmarked n member
    refine ⟨nonempty, fun c within => ?_⟩
    simpa using List.all_eq_true.1 apart c within
  obtain ⟨f, made, excluded, others, pruned, -⟩ := names_pass_over_exactly plain
  refine ⟨plain, f, made, (excluded _).2 (by decide), ?_, (pruned _).2 (by decide), ?_⟩
  · obtain out | judged := others "my_node_modules/node_modules.js"
    · exact absurd ((excluded _).1 out) (by decide)
    · rw [judged]
      decide
  · rw [← Bool.not_eq_true, pruned]
    decide

end Patrol.Filter
