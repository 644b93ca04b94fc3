import Patrol.Proofs.Check.Alike
import Patrol.Proofs.Check.Normal
import Patrol.Proofs.Filter.Pruning
import Patrol.Proofs.Walk.Discovery

/-! More globs, fewer files. A glob that is added excludes files and keeps directories from being
entered, and both only take files away. What is left is looked at as before, so that all numbers of
a check can only become smaller. -/
namespace Patrol

/-! ## Filters -/

namespace Filter
variable {f g : Filter}

theorem mem_globs_iff {sources : List String} (made : ofGlobs sources = .ok f) {glob : Glob} :
    glob ∈ f.globs ↔ ∃ source ∈ sources, Glob.compile .strict source = .ok glob := by
  refine ⟨exists_source made, fun ⟨source, written, compiled⟩ => ?_⟩
  simp only [ofGlobs, bind, Except.bind] at made
  split at made
  · cases made
  · next globs all =>
    cases made
    obtain ⟨own, member, read⟩ := exists_of_forall₂ (mapM_eq_ok_iff.1 all).flip written
    rw [compiled] at read
    cases read
    exact member

/-- Whether all globs of a filter are globs of another one. -/
def Within (f g : Filter) : Prop := ∀ glob ∈ f.globs, glob ∈ g.globs

theorem within_of_ofGlobs {less more : List String} (madeLess : ofGlobs less = .ok f)
    (madeMore : ofGlobs more = .ok g) (among : ∀ glob ∈ less, glob ∈ more) : Within f g := by
  intro glob member
  obtain ⟨source, written, compiled⟩ := (mem_globs_iff madeLess).1 member
  exact (mem_globs_iff madeMore).2 ⟨source, among source written, compiled⟩

theorem Within.excludes (within : Within f g) {path : List Char} (out : f.excludes path = true) :
    g.excludes path = true := by
  obtain ⟨glob, member, accepted⟩ := List.any_eq_true.1 out
  exact List.any_eq_true.2 ⟨glob, within glob member, accepted⟩

/-- A file that is wanted still is with fewer globs. -/
theorem Within.wanted (within : Within f g) {file : String} {l : Language}
    (wanted : g.verdict file = .ok l) : f.verdict file = .ok l := by
  obtain ⟨free, dialect⟩ := verdict_eq_ok_iff.1 wanted
  refine verdict_eq_ok_iff.2 ⟨?_, dialect⟩
  rw [← Bool.not_eq_true] at free ⊢
  exact fun out => free (within.excludes out)

/-- A directory that is not entered is not with more globs. -/
theorem Within.prunes (within : Within f g) {directory : String}
    (pruned : f.prunes directory = true) : g.prunes directory = true := within.excludes pruned

end Filter

/-! ## Walks -/

namespace Walk
open Patrol.Tree
variable {w : World} {f g : Filter}

/-- Below a directory, fewer files are met with more globs. -/
theorem files_sublist (within : f.Within g) {root : Root} {trail : Trail} {directory : String}
    {place : Place} {folder : Folder} :
    (files w g root trail directory place folder).Sublist
      (files w f root trail directory place folder) := by
  induction folder generalizing trail directory place with
  | empty => exact .slnil
  | file n own rest ih => exact (List.Sublist.refl _).append ih
  | link n target rest ih => exact ih
  | directory n inner rest ihInner ih =>
    rw [files, files]
    refine List.Sublist.append ?_ ih
    split
    · exact List.nil_sublist _
    · next entered =>
      have enteredBefore : ¬(isIgnored (trail.sights root (Path.join directory n)) true ||
          n == ".git" || f.prunes (Path.join directory n)) = true := by
        simp only [Bool.or_eq_true, not_or] at entered ⊢
        exact ⟨entered.1, fun pruned => entered.2 (within.prunes pruned)⟩
      rw [if_neg enteredBefore]
      exact ihInner

theorem candidates_sublist (within : f.Within g) (path : String) :
    (candidates w g path).Sublist (candidates w f path) := by
  have fewer (files : List String) :
      (files.filter fun file => (g.verdict file).isOk).Sublist
        (files.filter fun file => (f.verdict file).isOk) := by
    refine List.monotone_filter_right files fun file kept => ?_
    cases verdict : g.verdict file with
    | error why => rw [verdict] at kept; cases kept
    | ok l => rw [within.wanted verdict]; rfl
  cases failed : failure? w path with
  | some failure =>
    rw [candidates_of_failure failed]
    exact List.nil_sublist _
  | none =>
    obtain ⟨held, clean⟩ := failure?_eq_none_iff.1 failed
    obtain ⟨place, entry, reached⟩ := World.holds_iff.1 held
    rw [candidates_of_opens reached clean, candidates_of_opens reached clean]
    split
    · exact .slnil
    · cases entry with
      | file _ | link _ => exact fewer _
      | directory inner => exact (fewer _).trans ((files_sublist within).filter _)

/-- With more globs, what is discovered is a part of what is discovered with fewer, but for the
spelling of the files. -/
theorem discover_sublist (within : f.Within g) {paths : List String}
    (opens : ∀ path ∈ paths, Opens w path) :
    ∃ files fewer, (discover w f paths).files = .ok files ∧
      (discover w g paths).files = .ok fewer ∧
      (fewer.map Path.parts).Sublist (files.map Path.parts) := by
  refine ⟨_, _, discover_of_opens f opens, discover_of_opens g opens,
    sublist_map_parts_inOrder fun file member => ?_⟩
  obtain ⟨path, given, found⟩ := List.mem_flatMap.1 member
  exact List.mem_flatMap.2 ⟨path, given, (candidates_sublist within path).subset found⟩

end Walk

/-! ## Checks -/

theorem total_sublist {α : Type} (count : α → Nat) {xs ys : List α} (part : xs.Sublist ys) :
    total count xs ≤ total count ys := by
  induction part with
  | slnil => rfl
  | cons y _ ih => exact Nat.le_add_left_of_le ih
  | cons_cons y _ ih => exact Nat.add_le_add_left ih (count y)

namespace Check
open Patrol.Tree
variable {w : World} {filter f g : Filter} {files : List String}

/-- The rules that are broken in a file. -/
def brokenIn (w : World) (catalog : Catalog) (file : String) : List Rule :=
  (violationsIn w.read catalog file).map (·.rule)

theorem length_brokenIn (catalog : Catalog) (file : String) :
    (brokenIn w catalog file).length = (violationsIn w.read catalog file).length := List.length_map _

/-- Files that are a part of others, but for their spelling, break a part of the rules. -/
theorem sublist_map_brokenIn {fewer : List String}
    (there : ∀ file ∈ fewer ++ files, ∃ place bytes, w.resolve file = .ok (place, .file bytes))
    (part : (fewer.map Path.parts).Sublist (files.map Path.parts)) (catalog : Catalog) :
    (fewer.map (brokenIn w catalog)).Sublist (files.map (brokenIn w catalog)) := by
  obtain ⟨kept, among, same⟩ := List.sublist_map_iff.1 part
  have alike : fewer.map (brokenIn w catalog) = kept.map (brokenIn w catalog) := by
    rw [← List.forall₂_eq_eq_eq, List.forall₂_map_left_iff, List.forall₂_map_right_iff,
      List.forall₂_iff_zip] at same ⊢
    refine ⟨same.1, fun {a b} pair => ?_⟩
    obtain ⟨memberA, memberB⟩ := List.of_mem_zip pair
    obtain ⟨p, bytes, fileA⟩ := there a (List.mem_append_left _ memberA)
    obtain ⟨q, other, fileB⟩ := there b (List.mem_append_right _ (among.subset memberB))
    exact map_rule_violationsIn (same.2 pair) fileA fileB catalog
  rw [alike]
  exact among.map _

/-- What a check with normal enforcement counts is all in the rules that are broken. -/
theorem counts_normal (catalog : Catalog) (ready : Ready w.read filter files) :
    filesChecked (inspectAll w.read ⟨catalog, .normal, filter⟩ files) =
        (files.map (brokenIn w catalog)).length ∧
      filesReported (inspectAll w.read ⟨catalog, .normal, filter⟩ files) =
        (files.map (brokenIn w catalog)).countP (!·.isEmpty) ∧
      violations (inspectAll w.read ⟨catalog, .normal, filter⟩ files) =
        total List.length (files.map (brokenIn w catalog)) := by
  have counted := summary_outcomes w.read catalog files
  rw [← ready.inspectAll_eq] at counted
  refine ⟨(congrArg Tally.checked counted).trans ?_, (congrArg Tally.reported counted).trans ?_,
    (congrArg Tally.violations counted).trans ?_⟩
  · simp only [expected, List.length_map]
  · rw [List.countP_map, List.countP_eq_length_filter]
    simp only [expected, Function.comp_def, brokenIn, List.isEmpty_map]
    rfl
  · simp only [expected, total_map, length_brokenIn]

/-- A strict check stops unless no rule is broken. -/
theorem stop?_strictly_eq_none_iff (catalog : Catalog) (ready : Ready w.read filter files) :
    stop? (inspectAll w.read ⟨catalog, .strictly, filter⟩ files) = none ↔
      ∀ broken ∈ files.map (brokenIn w catalog), broken = [] := by
  rw [stop?, Option.map_eq_none_iff, aborted?_strictly fun file member => (ready file member).2,
    List.findSome?_eq_none_iff]
  simp [brokenIn]

end Check
end Patrol
