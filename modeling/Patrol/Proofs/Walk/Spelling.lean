import Patrol.Proofs.Filter.Pruning
import Patrol.Proofs.Glob.Floating
import Patrol.Proofs.Walk.Roots

/-! The directory at hand in front of paths. The filter judges a path as it is spelled, so what is found
below the directory at hand need not be what is found when its entries are given by name. -/
namespace Patrol

namespace Filter
open Patrol.Language (dropQuery)
variable {f : Filter}

/-! ## Verdicts -/

/-- A file is judged alike with and without the directory at hand in front if the globs exclude both
spellings or neither. -/
theorem verdict_here_iff {file : String} :
    f.verdict ("./" ++ file) = f.verdict file ↔
      f.excludes ('.' :: '/' :: slashed (dropQuery file.toList)) =
        f.excludes (slashed (dropQuery file.toList)) := by
  have whole : ("./" ++ file).toList = '.' :: '/' :: file.toList := by simp
  have judged : slashed (dropQuery ("./" ++ file).toList) =
      '.' :: '/' :: slashed (dropQuery file.toList) := by
    rw [whole]
    rfl
  have dialect : Language.detect? ("./" ++ file) = Language.detect? file := by
    have joined : Language.detect? ("." ++ "/" ++ file) = Language.detect? file :=
      Language.detect?_join (by decide) file
    exact joined
  simp only [verdict, Language.detect?_slashed]
  rw [dialect, judged]
  cases f.excludes ('.' :: '/' :: slashed (dropQuery file.toList)) <;>
    cases f.excludes (slashed (dropQuery file.toList)) <;>
    cases Language.detect? file <;> simp

/-- Whether all globs of a filter float. -/
def Floats (f : Filter) : Prop := ∀ g ∈ f.globs, g.floats = true

variable {exclude : List String} (made : ofGlobs exclude = .ok f) (floats : f.Floats)
include made floats

theorem excludes_here (path : List Char) : f.excludes ('.' :: '/' :: path) = f.excludes path := by
  rw [excludes, excludes, Bool.eq_iff_iff, List.any_eq_true, List.any_eq_true]
  refine exists_congr fun g => and_congr_right fun member => ?_
  obtain ⟨source, -, compiled⟩ := exists_source made member
  rw [Glob.accepts_here compiled (floats g member)]

theorem verdict_here (file : String) : f.verdict ("./" ++ file) = f.verdict file :=
  verdict_here_iff.2 (excludes_here made floats _)

theorem prunes_here {directory : String} (some : directory ≠ "") :
    f.prunes ("./" ++ directory) = f.prunes directory := by
  have more : directory.toList ≠ [] := by simpa using some
  have path_eq : folderPath ("./" ++ directory).toList =
      '.' :: '/' :: folderPath directory.toList := by
    have whole : slashed ("./" ++ directory).toList = '.' :: '/' :: slashed directory.toList := by
      simp [slashed]
    have last : slashed directory.toList ≠ [] := by simpa [slashed] using more
    rw [folderPath, folderPath, whole]
    simp only [List.getLast?_cons_cons, List.getLast?_cons_of_ne_nil last]
    split <;> rfl
  rw [prunes_eq, prunes_eq, path_eq, excludes_here made floats]

end Filter

namespace Walk
open Patrol.Tree
open Patrol.Filter (slashed)
open Patrol.Language (dropQuery)

variable {f : Filter} {tree : Folder}

/-! ## Walks -/

theorem joinAll_here_empty {names : List String} (more : names ≠ [])
    (valid : ∀ n ∈ names, IsFileName n) :
    Path.joinAll "." names = "./" ++ Path.joinAll "" names := by
  obtain ⟨name, names, rfl⟩ := List.exists_cons_of_ne_nil more
  rw [Path.joinAll_here (valid name (.head _)).nonempty, Path.joinAll_empty]

/-- Two lists of files are the same but for the directory at hand if the same is true of each file. -/
theorem Lists.eq_map_here_iff (sound : tree.Sound) {P Q : List String → String → Prop}
    {below named : List String} (listsBelow : Lists tree "." P below)
    (listsNamed : Lists tree "" Q named) :
    below = named.map ("./" ++ ·) ↔
      ∀ names name bytes, tree.entryAt? names name = some (.file bytes) →
        (P names name ↔ Q names name) := by
  have spelled {names : List String} {name : String} {bytes : List UInt8}
      (there : tree.entryAt? names name = some (.file bytes)) :
      Path.joinAll "." (names ++ [name]) = "./" ++ Path.joinAll "" (names ++ [name]) :=
    joinAll_here_empty (by simp) (sound.of_entryAt? there)
  have member {file : String} : "./" ++ file ∈ named.map ("./" ++ ·) ↔ file ∈ named := by
    simp [List.mem_map]
  constructor
  · rintro rfl names name bytes there
    rw [← listsBelow.joinAll_mem_iff sound (by decide) there, spelled there, member,
      listsNamed.joinAll_mem_iff sound (by decide) there]
  · intro same
    have strict : (named.map ("./" ++ ·)).Pairwise fun a b => Path.compare a b = .lt := by
      refine List.pairwise_map.2 (listsNamed.strict.imp_of_mem fun ha hb before => ?_)
      have plain {file : String} (there : file ∈ named) :
          Path.isAbsolute file = false ∧ Path.startsHere file = false := by
        obtain ⟨names, name, bytes, rfl, found, -⟩ := (listsNamed.mem_iff file).1 there
        have valid := sound.of_entryAt? found
        refine ⟨Path.isAbsolute_joinAll valid "", ?_⟩
        obtain ⟨first, rest, path_eq⟩ :=
          List.exists_cons_of_ne_nil (List.append_ne_nil_of_right_ne_nil names (List.cons_ne_nil name []))
        have notHere := (valid first (by rw [path_eq]; exact .head rest)).notHere
        rw [Path.startsHere, Path.steps_joinAll valid, path_eq]
        simpa [Path.steps, Text.splitOn] using notHere
      rw [Path.compare_here (plain ha).1 (plain hb).1 (plain ha).2 (plain hb).2]
      exact before
    refine eq_of_mem_iff listsBelow.strict strict fun file => ?_
    rw [listsBelow.mem_iff, List.mem_map]
    constructor
    · rintro ⟨names, name, bytes, rfl, there, p⟩
      exact ⟨_, (listsNamed.joinAll_mem_iff sound (by decide) there).2
        ((same names name bytes there).1 p), (spelled there).symm⟩
    · rintro ⟨file, member, rfl⟩
      obtain ⟨names, name, bytes, rfl, there, q⟩ := (listsNamed.mem_iff file).1 member
      exact ⟨names, name, bytes, (spelled there).symm, there, (same names name bytes there).2 q⟩

section
variable {exclude : List String} (made : Filter.ofGlobs exclude = .ok f) (floats : f.Floats)
include made floats

theorem entered_here_iff {names : List String} {directory : String} (some : directory ≠ "") :
    Entered f ("./" ++ directory) names ↔ Entered f directory names := by
  induction names generalizing directory with
  | nil => exact Iff.rfl
  | cons n names ih =>
    have more := Path.join_ne_empty some n
    simp only [Entered, Path.join_append some, Filter.prunes_here made floats more, ih more]

theorem wanted_here {names : List String} {name : String}
    (valid : ∀ n ∈ names ++ [name], IsFileName n) :
    f.verdict (Path.joinAll "." (names ++ [name])) = f.verdict (Path.joinAll "" (names ++ [name])) := by
  rw [joinAll_here_empty (by simp) valid, Filter.verdict_here made floats]

/-- Where all globs float, a file in a directory is found below the one at hand if its own is not pruned,
and all others on the way let in. -/
theorem foundHere_cons_iff {n name : String} {names : List String}
    (valid : ∀ m ∈ n :: names ++ [name], IsFileName m) :
    FoundHere f (n :: names) name ↔ f.prunes n = false ∧ n ≠ ".git" ∧ Entered f n names ∧
      ∃ l, f.verdict (Path.joinAll n (names ++ [name])) = .ok l := by
  have some : n ≠ "" := (valid n (.head _)).nonempty
  have step : Path.join "." n = "./" ++ n := by simp [Path.join, Path.endsWithSlash]
  have entered : Entered f "." (n :: names) ↔
      n ≠ ".git" ∧ f.prunes n = false ∧ Entered f n names := by
    rw [Entered, step, Filter.prunes_here made floats some, entered_here_iff made floats some]
  have wanted := wanted_here made floats valid
  rw [List.cons_append, Path.joinAll_empty] at wanted
  constructor
  · rintro ⟨way, found⟩
    obtain ⟨notGit, open_, deeper⟩ := entered.1 way
    exact ⟨open_, notGit, deeper, wanted ▸ found⟩
  · rintro ⟨open_, notGit, deeper, found⟩
    exact ⟨entered.2 ⟨notGit, open_, deeper⟩, wanted ▸ found⟩

omit made floats in
/-- By name it is found whether its own is pruned or not, unless that has the name of the input. -/
theorem foundByName_cons_iff {n name : String} {names : List String} :
    FoundByName f (n :: names) name ↔ n ≠ "-" ∧ n ≠ ".git" ∧ Entered f n names ∧
      ∃ l, f.verdict (Path.joinAll n (names ++ [name])) = .ok l := by
  have whole := Path.joinAll_empty n (names ++ [name])
  constructor
  · rintro ⟨⟨notGit, notInput, deeper⟩, found⟩
    exact ⟨notInput, notGit, deeper, whole ▸ found⟩
  · rintro ⟨notInput, notGit, deeper, found⟩
    exact ⟨⟨notGit, notInput, deeper⟩, whole.symm ▸ found⟩

/-- Where all globs float, only directories that are pruned or have the name of the input, but not both,
make a difference, and only if they hold wanted files. -/
theorem found_alike_iff (sound : tree.Sound) :
    (∀ names name bytes, tree.entryAt? names name = some (.file bytes) →
        (FoundHere f names name ↔ FoundByName f names name)) ↔
      ∀ n inner, tree.find? n = some (.directory inner) → n ≠ ".git" →
        (f.prunes n = true ↔ n = "-") ∨
          ∀ file, Meets f n inner file → ¬∃ l, f.verdict file = .ok l := by
  have deep {n name : String} {names : List String} {bytes : List UInt8}
      (found : tree.entryAt? (n :: names) name = some (.file bytes)) :
      (FoundHere f (n :: names) name ↔ FoundByName f (n :: names) name) ↔
        (n ≠ ".git" ∧ Entered f n names ∧ (∃ l, f.verdict (Path.joinAll n (names ++ [name])) = .ok l) →
          (f.prunes n = true ↔ n = "-")) := by
    rw [foundHere_cons_iff made floats (sound.of_entryAt? found), foundByName_cons_iff,
      and_congr_left_iff, ← Bool.not_eq_true, not_iff_not]
  constructor
  · intro alike n inner directory notGit
    by_cases same : f.prunes n = true ↔ n = "-"
    · exact .inl same
    · refine .inr ?_
      rintro file ⟨names, name, bytes, rfl, below, entered⟩ wanted
      have found := Folder.entryAt?_cons_iff.2 ⟨inner, directory, below⟩
      exact same ((deep found).1 (alike _ _ _ found) ⟨notGit, entered, wanted⟩)
  · intro alike names name bytes found
    cases names with
    | nil =>
      have wanted := wanted_here made floats (sound.of_entryAt? found)
      constructor
      · rintro ⟨-, own⟩
        exact ⟨trivial, wanted ▸ own⟩
      · rintro ⟨-, own⟩
        exact ⟨trivial, wanted ▸ own⟩
    | cons n names =>
      refine (deep found).2 ?_
      rintro ⟨notGit, entered, wanted⟩
      obtain ⟨inner, directory, below⟩ := Folder.entryAt?_cons_iff.1 found
      obtain same | nothing := alike n inner directory notGit
      · exact same
      · exact absurd wanted (nothing _ ⟨names, name, bytes, rfl, below, entered⟩)

end

end Walk
end Patrol
