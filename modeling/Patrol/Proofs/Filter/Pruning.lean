import Patrol.Proofs.Glob.Words
import Patrol.Proofs.Language
import Patrol.Proofs.Results

/-! What is hidden in directories that are not entered. A directory is judged by its path with a
slash behind it, a file by its whole path in front of a query, so the two judgements can differ. -/
namespace Patrol.Filter
open Patrol.Language (dropQuery)

/-- The path under which a directory is judged. -/
def folderPath (directory : List Char) : List Char :=
  if (slashed directory).getLast? = some '/' then slashed directory else slashed directory ++ ['/']

theorem prunes_eq (f : Filter) (directory : String) :
    f.prunes directory = f.excludes (folderPath directory.toList) := rfl

/-- The path of what is below a directory begins with the path of the directory. -/
theorem folderPath_prefix (directory below : List Char) :
    ∃ more, slashed (directory ++ '/' :: below) = folderPath directory ++ more := by
  have slash : slashed ('/' :: below) = '/' :: slashed below := rfl
  rw [folderPath, slashed, List.map_append]
  split
  · exact ⟨'/' :: slashed below, rfl⟩
  · exact ⟨slashed below, by simp [slashed]⟩

/-- Every glob of a filter is written in the list of which it was made. -/
theorem exists_source {sources : List String} {f : Filter} (made : ofGlobs sources = .ok f)
    {g : Glob} (hg : g ∈ f.globs) : ∃ source ∈ sources, Glob.compile .strict source = .ok g := by
  simp only [ofGlobs, bind, Except.bind] at made
  split at made
  · cases made
  · next globs compiled =>
    cases made
    obtain ⟨source, member, read⟩ := exists_of_forall₂ (mapM_eq_ok_iff.1 compiled) hg
    cases hs : Glob.compile .strict source with
    | error e => rw [hs] at read; cases read
    | ok glob => rw [hs] at read; cases read; exact ⟨source, member, hs⟩

/-- A list of texts makes a filter if each of them is a glob. -/
theorem exists_ofGlobs_iff {sources : List String} :
    (∃ f, ofGlobs sources = .ok f) ↔
      ∀ source ∈ sources, ∃ g, Glob.compile .strict source = .ok g := by
  have each (source : String) :
      (∃ g, (Glob.compile .strict source).mapError (BadGlob.mk source) = .ok g) ↔
        ∃ g, Glob.compile .strict source = .ok g := by
    cases Glob.compile .strict source <;> simp [Except.mapError]
  simp only [← each, ← mapM_isOk_iff, ofGlobs]
  cases sources.mapM fun source => (Glob.compile .strict source).mapError (BadGlob.mk source) with
  | error bad => simp [bind, Except.bind]
  | ok globs => simp [bind, Except.bind, pure, Except.pure]

theorem verdict_congr (f : Filter) {a b : String}
    (same : dropQuery a.toList = dropQuery b.toList) : f.verdict a = f.verdict b := by
  simp only [verdict, same]

/-- A file below a directory is wanted in two cases. Either a question mark in the directory cuts its
path off, and what is left is wanted by itself. Or there is none, the file is of a dialect, no glob
accepts it, and so all the globs that accept the directory end there. -/
theorem wanted_below_iff {exclude : List String} {f : Filter} (made : ofGlobs exclude = .ok f)
    (directory below : String) :
    (∃ l, f.verdict (directory ++ "/" ++ below) = .ok l) ↔
      ('?' ∈ directory.toList ∧ ∃ l, f.verdict directory = .ok l) ∨
      ('?' ∉ directory.toList ∧ (Language.detect? below).isSome = true ∧
        f.excludes (slashed (directory.toList ++ '/' :: dropQuery below.toList)) = false ∧
        ∀ g ∈ f.globs, g.accepts (folderPath directory.toList) = true → g.goesOn = false) := by
  have whole : (directory ++ "/" ++ below).toList = directory.toList ++ '/' :: below.toList := by
    simp
  by_cases query : '?' ∈ directory.toList
  · have same : f.verdict (directory ++ "/" ++ below) = f.verdict directory :=
      verdict_congr f (by rw [whole, Language.dropQuery_append_of_mem query])
    simp [query, same]
  · have slash : dropQuery ('/' :: below.toList) = '/' :: dropQuery below.toList := rfl
    simp only [verdict_eq_ok_iff, whole, Language.dropQuery_append query, slash,
      Language.detect?_join query, query, false_and, not_false_eq_true, true_and, false_or]
    constructor
    · rintro ⟨l, free, dialect⟩
      refine ⟨by simp [dialect], free, fun g hg accepted => ?_⟩
      cases on : g.goesOn with
      | false => rfl
      | true =>
        obtain ⟨source, -, compiled⟩ := exists_source made hg
        obtain ⟨more, path_eq⟩ := folderPath_prefix directory.toList (dropQuery below.toList)
        have level : Glob.endsUpward (folderPath directory.toList ++ more) = false := by
          have plain := Language.not_mem_slashed_dropQuery (directory ++ "/" ++ below).toList
          have named := Language.detect?_slashed (directory ++ "/" ++ below)
          rw [whole, Language.dropQuery_append query, slash, path_eq] at plain named
          cases up : Glob.endsUpward (folderPath directory.toList ++ more) with
          | false => rfl
          | true =>
            rw [Language.detect?_of_endsUpward plain up, Language.detect?_join query, dialect] at named
            cases named
        have excluded : f.excludes (folderPath directory.toList ++ more) = true :=
          List.any_eq_true.2 ⟨g, hg, Glob.accepts_append compiled on accepted level⟩
        rw [path_eq, excluded] at free
        cases free
    · rintro ⟨dialect, free, -⟩
      obtain ⟨l, hl⟩ := Option.isSome_iff_exists.1 dialect
      exact ⟨l, free, hl⟩

/-- **When pruning hides nothing.** No file below a directory that is not entered would be looked at,
but for two cases: where a question mark cuts the path off, the directory itself must not look like a
file that is wanted; and where all the globs that accept the directory end there, another glob must
accept the file. A glob that goes on behind the directory hides nothing. -/
theorem pruning_hides_nothing_iff {exclude : List String} {f : Filter}
    (made : ofGlobs exclude = .ok f) (directory below : String) :
    (f.prunes directory = true → ∀ l, f.verdict (directory ++ "/" ++ below) ≠ .ok l) ↔
      (f.prunes directory = true →
        ('?' ∈ directory.toList → ∀ l, f.verdict directory ≠ .ok l) ∧
        ('?' ∉ directory.toList → (Language.detect? below).isSome = true →
          (∀ g ∈ f.globs, g.accepts (folderPath directory.toList) = true → g.goesOn = false) →
          f.excludes (slashed (directory.toList ++ '/' :: dropQuery below.toList)) = true)) := by
  have wanted := wanted_below_iff made directory below
  refine forall_congr' fun _ => ?_
  rw [← not_exists, wanted]
  by_cases query : '?' ∈ directory.toList
  · simp [query]
  · simp only [query, false_and, not_false_eq_true, true_and, false_or, false_implies,
      true_implies]
    cases f.excludes (slashed (directory.toList ++ '/' :: dropQuery below.toList)) <;> simp

theorem pruning_hides_nothing_src :
    ∃ f, ofGlobs ["src/**"] = .ok f ∧ f.prunes "src" = true ∧
      ∀ l, f.verdict ("src" ++ "/" ++ "a.js") ≠ .ok l := by
  have made : ∃ f, ofGlobs ["src/**"] = .ok f ∧ f.prunes "src" = true ∧
      f.globs.any (fun g => g.accepts (folderPath "src".toList) && g.goesOn) = true :=
    ⟨_, rfl, by decide, by decide⟩
  obtain ⟨f, made, pruned, some⟩ := made
  obtain ⟨g, member, both⟩ := List.any_eq_true.1 some
  obtain ⟨accepted, on⟩ := Bool.and_eq_true_iff.1 both
  refine ⟨f, made, pruned, (pruning_hides_nothing_iff made "src" "a.js").2 ?_ pruned⟩
  refine fun _ => ⟨fun query => absurd query (by decide), fun _ _ ends => ?_⟩
  rw [ends g member accepted] at on
  cases on

/-- A glob that ends with the slash of a directory does not accept what is in it. -/
theorem source_hidden_by_slash :
    ∃ f, ofGlobs ["src/"] = .ok f ∧ f.prunes "src" = true ∧
      f.verdict ("src" ++ "/" ++ "a.js") = .ok .javaScript :=
  ⟨_, rfl, by decide, by decide⟩

end Patrol.Filter
