import Patrol.Proofs.Tree.Resolve
import Patrol.Walk.Basic

/-! Whether a walk starts from a path. It does unless the path leads nowhere, or something is wrong
with the ignore files above the directory to which it leads. -/
namespace Patrol.Walk
open Patrol.Tree

variable {w : World} {filter : Filter} {path : String} {place : Place}

/-- Whether a walk starts from a path. -/
structure Opens (w : World) (path : String) : Prop where
  held : w.holds path = true
  clean : faultsAbove w path = []

/-- Why no walk starts from a path. It is a matter of the tree alone. -/
def failure? (w : World) (path : String) : Option Failure :=
  if w.holds path = false then some (.missing path)
  else if faultsAbove w path = [] then none
  else some (.faulty (faultsAbove w path))

theorem failure?_eq_none_iff : failure? w path = none ↔ Opens w path := by
  unfold failure?
  constructor
  · intro none
    split at none
    · cases none
    · next held =>
      split at none
      · next clean => exact ⟨by simpa using held, clean⟩
      · cases none
  · rintro ⟨held, clean⟩
    simp [held, clean]

theorem failure?_of_missing (missing : w.holds path = false) :
    failure? w path = some (.missing path) := if_pos missing

theorem failure?_of_faulty (held : w.holds path = true) (faulty : faultsAbove w path ≠ []) :
    failure? w path = some (.faulty (faultsAbove w path)) := by
  simp [failure?, held, faulty]

/-- Where walks do not start from all paths, there is a first one from which none starts. -/
theorem exists_first_closed {paths : List String} (closed : ¬∀ p ∈ paths, Opens w p) :
    ∃ front path back, paths = front ++ path :: back ∧ (∀ p ∈ front, Opens w p) ∧
      (w.holds path = false ∨ w.holds path = true ∧ faultsAbove w path ≠ []) := by
  induction paths with
  | nil => exact absurd (List.forall_mem_nil _) closed
  | cons path paths ih =>
    by_cases opens : Opens w path
    · have later : ¬∀ p ∈ paths, Opens w p := fun all =>
        closed (List.forall_mem_cons.2 ⟨opens, all⟩)
      obtain ⟨front, other, back, rfl, before, why⟩ := ih later
      exact ⟨path :: front, other, back, rfl, List.forall_mem_cons.2 ⟨opens, before⟩, why⟩
    · refine ⟨[], path, paths, rfl, List.forall_mem_nil _, ?_⟩
      by_cases held : w.holds path = true
      · exact .inr ⟨held, fun clean => opens ⟨held, clean⟩⟩
      · exact .inl (by simpa using held)

/-! ## Ignore files above -/

/-- The steps from a directory to its ignore files, in the order in which they are read. -/
def ignoreFiles : List (List String) := [[".ignore"], [".gitignore"], [".git", "info", "exclude"]]

/-- Whether a file that is read as an ignore file has a line that is no glob. -/
def HasBadGlob (bytes : List UInt8) : Prop :=
  ∃ line glob cause, (line, Flaw.badGlob glob cause) ∈ (readLines 1 (linesOf bytes)).2

/-- That such a file is not text to its end counts only beside other flaws. -/
theorem faults_ofFile_ne_nil_iff (directory file : String) (bytes : List UInt8) :
    (IgnoreList.ofFile directory file bytes).faults ≠ [] ↔ HasBadGlob bytes := by
  simp only [IgnoreList.ofFile, HasBadGlob]
  generalize (readLines 1 (linesOf bytes)).2 = flaws
  split
  · next text =>
    refine iff_of_false (fun some => some rfl) ?_
    rintro ⟨line, glob, cause, member⟩
    have own := List.all_eq_true.1 text _ member
    simp at own
  · next other =>
    have other : ∃ flaw ∈ flaws, flaw.2 ≠ .notText := by simpa using other
    obtain ⟨⟨line, flaw⟩, member, isGlob⟩ := other
    refine iff_of_true ?_ ?_
    · simpa using List.ne_nil_of_mem member
    · cases flaw with
      | badGlob glob cause => exact ⟨line, glob, cause, member⟩
      | notText => exact absurd rfl isGlob

theorem faults_ignoreList_ne_nil_iff {directory : String} {steps : List String} :
    (ignoreList w place directory steps).faults ≠ [] ↔
      ∃ q bytes, Leads w.top maxLinks place steps q (.file bytes) ∧ HasBadGlob bytes := by
  unfold ignoreList
  split
  · next q bytes followed =>
    rw [faults_ofFile_ne_nil_iff]
    constructor
    · intro bad
      exact ⟨q, bytes, leads_of_follow followed, bad⟩
    · rintro ⟨r, other, leads, bad⟩
      rw [follow_of_leads leads] at followed
      cases followed
      exact bad
  · next none =>
    refine iff_of_false (fun some => some rfl) ?_
    rintro ⟨q, bytes, leads, -⟩
    exact none q bytes (follow_of_leads leads)

theorem faults_level_ne_nil_iff {directory : String} :
    (level w place directory).faults ≠ [] ↔ ∃ steps ∈ ignoreFiles, ∃ q bytes,
      Leads w.top maxLinks place steps q (.file bytes) ∧ HasBadGlob bytes := by
  have all : (level w place directory).faults =
      ignoreFiles.flatMap fun steps => (ignoreList w place directory steps).faults := by
    simp [IgnoreLevel.faults, level, ignoreFiles]
  simp only [all, ne_eq, List.flatMap_eq_nil_iff, Classical.not_forall, exists_prop]
  exact exists_congr fun steps => and_congr_right fun _ => faults_ignoreList_ne_nil_iff

/-- Whether a path leads to a directory, and in one of the directories above, all the way up to the top,
an ignore file has a line that is no glob. -/
def BadGlobAbove (w : World) (path : String) : Prop :=
  isInput path = false ∧ ∃ place inner, w.resolve path = .ok (place, .directory inner) ∧
    ∃ n < place.length, ∃ steps ∈ ignoreFiles, ∃ q bytes,
      Leads w.top maxLinks (place.take n) steps q (.file bytes) ∧ HasBadGlob bytes

/-- Lines that are no globs are all that can be wrong above. -/
theorem faultsAbove_ne_nil_iff : faultsAbove w path ≠ [] ↔ BadGlobAbove w path := by
  unfold faultsAbove BadGlobAbove
  split
  · next place inner reached =>
    have bad : (levelsAbove w place).reverse.flatMap (·.faults) ≠ [] ↔
        ∃ n < place.length, ∃ steps ∈ ignoreFiles, ∃ q bytes,
          Leads w.top maxLinks (place.take n) steps q (.file bytes) ∧ HasBadGlob bytes := by
      have levels : (levelsAbove w place).reverse.flatMap (·.faults) ≠ [] ↔
          ∃ n < place.length,
            (level w (place.take n) (absolutePath (place.take n))).faults ≠ [] := by
        simp [levelsAbove]
      rw [levels]
      exact exists_congr fun n => and_congr_right fun _ => faults_level_ne_nil_iff
    split
    · next input => simp [input]
    · next other =>
      rw [bad, and_iff_right (by simpa using other)]
      constructor
      · intro found
        exact ⟨place, inner, reached, found⟩
      · rintro ⟨others, folder, same, found⟩
        cases reached.symm.trans same
        exact found
  · next none =>
    refine iff_of_false (fun some => some rfl) ?_
    rintro ⟨-, place, inner, reached, -⟩
    exact none place inner reached

/-- A directory with one source file, and above it an ignore file in which a group of alternatives is
opened and not closed. -/
def badIgnoreFile : World where
  top := .directory "work" (.file ".ignore" (Text.bytesOf "\x7bfoo".toList)
    (.directory "src" (.file "a.js" [118, 97, 114] .empty) .empty)) .empty
  here := ["work"]

theorem sound_badIgnoreFile : badIgnoreFile.Sound := by
  have work : IsFileName "work" := ⟨by decide, by decide, by decide, by decide, by decide⟩
  have ignore : IsFileName ".ignore" := ⟨by decide, by decide, by decide, by decide, by decide⟩
  have src : IsFileName "src" := ⟨by decide, by decide, by decide, by decide, by decide⟩
  have file : IsFileName "a.js" := ⟨by decide, by decide, by decide, by decide, by decide⟩
  exact ⟨work, rfl, ⟨ignore, rfl, src, rfl, ⟨file, rfl, trivial⟩, trivial⟩, trivial⟩

theorem linkless_badIgnoreFile : badIgnoreFile.top.Linkless := ⟨⟨trivial, trivial⟩, trivial⟩

/-- What is wrong is told with the file and the line. -/
theorem failure?_badIgnoreFile : failure? badIgnoreFile "src" = some (.faulty
    [⟨"/work/.ignore", 1, .badGlob "\x7bfoo" .unclosedChoice⟩]) := by decide +kernel

/-- A walk that starts where the ignore file stands reads it as far as it goes. -/
example : faultsAbove badIgnoreFile "." = [] := by decide

/-! ## Files -/

theorem filesOf_ok_iff {all : List String} :
    filesOf w filter path = .ok all ↔ ∃ place entry, w.resolve path = .ok (place, entry) ∧
      faultsAbove w path = [] ∧
      all = if isInput path then [] else filesFrom w filter path place entry := by
  constructor
  · intro walked
    simp only [filesOf] at walked
    split at walked
    · cases walked
    · next place entry reached =>
      split at walked
      · next clean => exact ⟨place, entry, reached, clean, (Except.ok.inj walked).symm⟩
      · cases walked
  · rintro ⟨place, entry, reached, clean, rfl⟩
    simp only [filesOf, reached, clean]

theorem filesOf_error_iff {failure : Failure} :
    filesOf w filter path = .error failure ↔ failure? w path = some failure := by
  unfold filesOf
  split
  · next e unreached =>
    have missing : w.holds path = false := by rw [World.holds, unreached]; rfl
    simp [failure?_of_missing missing]
  · next place entry reached =>
    have held : w.holds path = true := World.holds_iff.2 ⟨place, entry, reached⟩
    split
    · next clean => simp [failure?_eq_none_iff.2 ⟨held, clean⟩]
    · next faulty => simp [failure?_of_faulty held faulty]

/-- A walk starts unless there is a reason against it. -/
theorem filesOf_isOk_iff : (filesOf w filter path).isOk = true ↔ Opens w path := by
  rw [← failure?_eq_none_iff]
  cases walked : filesOf w filter path with
  | ok all =>
    refine iff_of_true rfl ?_
    cases failed : failure? w path with
    | none => rfl
    | some failure =>
      rw [filesOf_error_iff.2 failed] at walked
      cases walked
  | error failure =>
    rw [filesOf_error_iff.1 walked]
    exact iff_of_false Bool.false_ne_true nofun

end Patrol.Walk
