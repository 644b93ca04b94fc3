import Patrol.Proofs.Filter.Standard
import Patrol.Proofs.Walk.Roots

/-! Which source files are found where no globs are named. Names with question marks or backslashes
are read as those of a build tool, which puts queries behind its names; others as they are. -/
namespace Patrol.Walk
open Patrol.Tree
open Patrol.Filter (standard Clear parts)
open Patrol.Language (dropQuery isSeparator IsSourceName)

variable {names : List String} {name : String}

/-! ## Directories -/

/-- What is true of every directory that a walk enters: names can be joined to its path, and no part of
the path is the name of a directory that is passed over. -/
structure IsClearDirectory (directory : String) : Prop where
  nonempty : directory ≠ ""
  open_ : Path.endsWithSlash directory = false
  clear : Clear (parts directory.toList)

namespace IsClearDirectory
variable {directory : String}

theorem here : IsClearDirectory "." := ⟨by decide, by decide, by unfold Clear; decide⟩

theorem toList_join (d : IsClearDirectory directory) (name : String) :
    (Path.join directory name).toList = directory.toList ++ '/' :: name.toList :=
  Path.toList_join d.nonempty d.open_ name

/-- Below a directory that is clear, another one is clear if its own name is. -/
theorem clear_join_iff (d : IsClearDirectory directory) {name : String} :
    Clear (parts (Path.join directory name).toList) ↔ Clear (parts name.toList) := by
  rw [d.toList_join, Filter.parts_append, Filter.clear_append_iff, and_iff_right d.clear]

theorem join (d : IsClearDirectory directory) {name : String} (valid : IsFileName name)
    (own : Clear (parts name.toList)) : IsClearDirectory (Path.join directory name) :=
  ⟨Path.join_ne_empty d.nonempty name, Path.endsWithSlash_join valid, d.clear_join_iff.2 own⟩

end IsClearDirectory

/-- Below a directory that is clear, those are entered whose own names are clear. -/
theorem entered_standard_iff (valid : ∀ n ∈ names, IsFileName n) {directory : String}
    (d : IsClearDirectory directory) :
    Entered standard directory names ↔ ∀ n ∈ names, n ≠ ".git" ∧ Clear (parts n.toList) := by
  induction names generalizing directory with
  | nil => exact iff_of_true trivial nofun
  | cons n names ih =>
    obtain ⟨first, rest⟩ := List.forall_mem_cons.1 valid
    rw [List.forall_mem_cons, Entered, Filter.standard_prunes_eq_false_iff, d.clear_join_iff,
      ← and_assoc]
    exact and_congr_right fun own => ih rest (d.join first own.2)

/-! ## Files -/

/-- The name by which a file is judged: that of the first directory with a question mark, since the
path is cut off there, or the file's own. -/
def judgedName (names : List String) (name : String) : String :=
  (names.find? (·.toList.contains '?')).getD name

/-- Whether a name, in front of a query, is that of a source file; with backslashes as slashes, it must
not go through a directory that is passed over. -/
def IsCovered (name : String) : Prop :=
  Clear (parts (dropQuery name.toList)).dropLast ∧
    IsSourceName (Text.afterLast isSeparator (dropQuery name.toList))

theorem standard_wants_join_iff {directory : String} (d : IsClearDirectory directory)
    (plain : '?' ∉ directory.toList) (name : String) :
    (∃ l, standard.verdict (Path.join directory name) = .ok l) ↔ IsCovered name := by
  have cut : dropQuery (Path.join directory name).toList =
      directory.toList ++ '/' :: dropQuery name.toList := by
    rw [d.toList_join, Language.dropQuery_append plain]
    rfl
  have dialect : Language.detect? (Path.join directory name) = Language.detect? name := by
    have path_eq : Path.join directory name = directory ++ "/" ++ name := by
      simp [Path.join, d.nonempty, d.open_]
    rw [path_eq, Language.detect?_join plain]
  have last : (parts directory.toList ++ parts (dropQuery name.toList)).dropLast =
      parts directory.toList ++ (parts (dropQuery name.toList)).dropLast :=
    List.dropLast_append_of_ne_nil (Text.splitOn_ne_nil _)
  rw [Filter.standard_wants_iff, cut, Filter.parts_append, last, Filter.clear_append_iff,
    and_iff_right d.clear, dialect, Language.exists_detect?_iff, IsCovered]

/-- Below directories that are clear, a file is judged by one name. -/
theorem standard_wants_joinAll_iff (valid : ∀ n ∈ names, IsFileName n)
    (clear : ∀ n ∈ names, Clear (parts n.toList)) {directory : String}
    (d : IsClearDirectory directory) (plain : '?' ∉ directory.toList) :
    (∃ l, standard.verdict (Path.joinAll directory (names ++ [name])) = .ok l) ↔
      IsCovered (judgedName names name) := by
  induction names generalizing directory with
  | nil => exact standard_wants_join_iff d plain name
  | cons n names ih =>
    obtain ⟨first, rest⟩ := List.forall_mem_cons.1 valid
    obtain ⟨own, clear⟩ := List.forall_mem_cons.1 clear
    have deeper : Path.joinAll directory (n :: names ++ [name]) =
        Path.joinAll (Path.join directory n) (names ++ [name]) := rfl
    by_cases query : '?' ∈ n.toList
    · -- nothing behind this name is seen
      have judged : judgedName (n :: names) name = n := by simp [judgedName, query]
      have inside : '?' ∈ (Path.join directory n).toList := by
        rw [d.toList_join]
        exact List.mem_append_right _ (.tail _ query)
      have cut : dropQuery (Path.joinAll directory (n :: names ++ [name])).toList =
          dropQuery (Path.join directory n).toList := by
        obtain ⟨more, path_eq⟩ := Path.exists_joinAll_eq (Path.join directory n) (names ++ [name])
        rw [deeper, path_eq, String.toList_append, Language.dropQuery_append_of_mem inside]
      rw [judged, Filter.verdict_congr standard cut]
      exact standard_wants_join_iff d plain n
    · have judged : judgedName (n :: names) name = judgedName names name := by
        simp [judgedName, query]
      have plain : '?' ∉ (Path.join directory n).toList := by
        rw [d.toList_join]
        simp [plain, query]
      rw [judged, deeper]
      exact ih rest clear (d.join first own) plain

/-! ## What is found -/

/-- A file is found where no globs are named if the directories on the way are clear, none of them
belongs to version control, and the name by which it is judged is that of a source file. -/
theorem foundHere_standard_iff (valid : ∀ n ∈ names, IsFileName n) :
    FoundHere standard names name ↔
      (∀ n ∈ names, n ≠ ".git" ∧ Clear (parts n.toList)) ∧ IsCovered (judgedName names name) := by
  have entered := entered_standard_iff valid .here
  have wanted (clear : ∀ n ∈ names, Clear (parts n.toList)) :
      (∃ l, standard.verdict (Path.joinAll "." (names ++ [name])) = .ok l) ↔
        IsCovered (judgedName names name) :=
    standard_wants_joinAll_iff valid clear .here (by decide)
  constructor
  · rintro ⟨way, some⟩
    have own := entered.1 way
    exact ⟨own, (wanted fun n member => (own n member).2).1 some⟩
  · rintro ⟨own, covered⟩
    exact ⟨entered.2 own, (wanted fun n member => (own n member).2).2 covered⟩

/-- Names without question marks and backslashes count as they are. -/
theorem foundHere_standard_plain_iff (valid : ∀ n ∈ names ++ [name], IsFileName n)
    (plain : ∀ n ∈ names ++ [name], '?' ∉ n.toList ∧ '\\' ∉ n.toList) :
    FoundHere standard names name ↔
      (∀ n ∈ names, n ∉ [".git", "node_modules", ".nuxt"]) ∧ IsSourceName name.toList := by
  have one (n : String) (member : n ∈ names ++ [name]) : parts n.toList = [n.toList] :=
    Filter.parts_of_plain (valid n member).unslashed (plain n member).2
  have own (n : String) (member : n ∈ names) :
      n ≠ ".git" ∧ Clear (parts n.toList) ↔ n ∉ [".git", "node_modules", ".nuxt"] := by
    rw [one n (List.mem_append_left _ member), Filter.clear_singleton_iff]
    simp
  have judged : judgedName names name = name := by
    have none : names.find? (·.toList.contains '?') = none := by
      simpa using fun n member => (plain n (List.mem_append_left _ member)).1
    rw [judgedName, none]
    rfl
  have last : name ∈ names ++ [name] := List.mem_append_right _ (.head _)
  have covered : IsCovered name ↔ IsSourceName name.toList := by
    have unmarked : ∀ c ∈ name.toList, isSeparator c = false := by
      intro c member
      have slash : c ≠ '/' := fun same => (valid name last).unslashed (same ▸ member)
      have back : c ≠ '\\' := fun same => (plain name last).2 (same ▸ member)
      simp [isSeparator, slash, back]
    rw [IsCovered, Language.dropQuery_eq_self (plain name last).1, one name last,
      Text.afterLast_eq_self unmarked]
    exact and_iff_right nofun
  rw [foundHere_standard_iff fun n member => valid n (List.mem_append_left _ member), judged, covered]
  exact and_congr_left fun _ => forall₂_congr own

/-- **Which source files are found where no globs are named**, in a world without links and ignore
files. All of those whose names have no question mark and no backslash, but for what is below the
directories of version control, of dependencies and of build tools. In other names a question mark cuts
the path off, and a backslash counts as a slash. -/
theorem standard_files_exact {w : World} (sound : w.Sound) (linkless : w.top.Linkless)
    (free : w.top.IgnoreFree) {tree : Folder} (there : w.top.at? w.here = some tree) :
    ∃ filter files, Filter.ofGlobs Filter.defaultGlobs = .ok filter ∧
      (discover w filter ["."]).files = .ok files ∧
      Lists tree "." (fun names name =>
        (∀ n ∈ names, n ≠ ".git" ∧ Clear (parts n.toList)) ∧ IsCovered (judgedName names name)) files ∧
      ∀ names name bytes, tree.entryAt? names name = some (.file bytes) →
        (∀ n ∈ names ++ [name], '?' ∉ n.toList ∧ '\\' ∉ n.toList) →
        (Path.joinAll "." (names ++ [name]) ∈ files ↔
          (∀ n ∈ names, n ∉ [".git", "node_modules", ".nuxt"]) ∧ IsSourceName name.toList) := by
  have soundHere := Folder.Sound.of_at? sound there
  obtain ⟨files, found, lists⟩ := discover_here sound linkless free there standard
  refine ⟨standard, files, Filter.ofGlobs_defaultGlobs, found, ⟨lists.strict, fun file => ?_⟩, ?_⟩
  · rw [lists.mem_iff]
    refine exists₃_congr fun names name bytes => and_congr_right fun _ => and_congr_right fun stands => ?_
    have valid := soundHere.of_entryAt? stands
    exact foundHere_standard_iff fun n member => valid n (List.mem_append_left _ member)
  · intro names name bytes stands plain
    rw [lists.joinAll_mem_iff soundHere (by decide) stands]
    exact foundHere_standard_plain_iff (soundHere.of_entryAt? stands) plain

theorem standard_files_exact_oneFile :
    oneFile.Sound ∧ oneFile.top.Linkless ∧ oneFile.top.IgnoreFree ∧
      (∃ tree, oneFile.top.at? oneFile.here = some tree ∧
        tree.entryAt? ["src"] "a.js" = some (.file [118, 97, 114])) ∧
      ∃ filter files, Filter.ofGlobs Filter.defaultGlobs = .ok filter ∧
        (discover oneFile filter ["."]).files = .ok files ∧ "./src/a.js" ∈ files := by
  have stands : Folder.entryAt? (.directory "src" (.file "a.js" [118, 97, 114] .empty) .empty)
      ["src"] "a.js" = some (.file [118, 97, 114]) := rfl
  obtain ⟨filter, files, globs, found, -, exact_⟩ :=
    standard_files_exact sound_oneFile linkless_oneFile ignoreFree_oneFile at?_here_oneFile
  have plain : ∀ n ∈ ["src"] ++ ["a.js"], '?' ∉ n.toList ∧ '\\' ∉ n.toList := by decide
  have source : IsSourceName "a.js".toList := ⟨['a'], "js", by decide, by decide, by decide⟩
  have member := (exact_ ["src"] "a.js" _ stands plain).2 ⟨by decide, source⟩
  exact ⟨sound_oneFile, linkless_oneFile, ignoreFree_oneFile, ⟨_, at?_here_oneFile, stands⟩,
    filter, files, globs, found, member⟩

/-- A directory with one source file, the name of which looks as if it had a query. -/
def queried : World where
  top := .directory "work" (.file "a?.js" [] .empty) .empty
  here := ["work"]

/-- A file that is a source file by its name, and that is not found. -/
theorem source_hidden_by_query :
    queried.Sound ∧ queried.top.Linkless ∧ queried.top.IgnoreFree ∧
      queried.top.at? queried.here = some (.file "a?.js" [] .empty) ∧
      IsSourceName "a?.js".toList ∧
      ∃ filter, Filter.ofGlobs Filter.defaultGlobs = .ok filter ∧
        (discover queried filter ["."]).files = .ok [] := by
  have work : IsFileName "work" := ⟨by decide, by decide, by decide, by decide, by decide⟩
  have file : IsFileName "a?.js" := ⟨by decide, by decide, by decide, by decide, by decide⟩
  have free : queried.top.IgnoreFree := ⟨nofun, ⟨by decide, by decide, trivial⟩, trivial⟩
  have here : ∀ p ∈ ["."], Opens queried p := List.forall_mem_singleton.2 ⟨by decide, by decide⟩
  have none : ["."].flatMap (candidates queried standard) = [] := by decide
  refine ⟨⟨work, rfl, ⟨file, rfl, trivial⟩, trivial⟩, ⟨trivial, trivial⟩, free, rfl,
    ⟨['a', '?'], "js", by decide, by decide, by decide⟩, standard, Filter.ofGlobs_defaultGlobs, ?_⟩
  rw [discover_of_opens standard here, none, inOrder_eq_self .nil]

end Patrol.Walk
