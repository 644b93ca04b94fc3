import Patrol.Proofs.Language
import Patrol.Proofs.Walk.Entered

/-! The files of the directory at hand: found below it as a whole, or below what stands in it, each
entry given by its name. -/
namespace Patrol.Walk
open Patrol.Tree

variable {w : World} {filter : Filter} {tree : Folder}

/-- Whether a file is found when the directory at hand is walked: the directories on the way let in,
and the filter wants the path. -/
structure FoundHere (filter : Filter) (names : List String) (name : String) : Prop where
  entered : Entered filter "." names
  wanted : ∃ l, filter.verdict (Path.joinAll "." (names ++ [name])) = .ok l

/-- Whether directories let in, the first of which is given by its name. The filter is not asked
about the directory where a walk starts, but one with the name of the program's input is not walked. -/
def EnteredByName (filter : Filter) : List String → Prop
  | [] => True
  | name :: names => name ≠ ".git" ∧ name ≠ "-" ∧ Entered filter name names

/-- Whether a file is found when the entries of the directory at hand are given by name. -/
structure FoundByName (filter : Filter) (names : List String) (name : String) : Prop where
  entered : EnteredByName filter names
  wanted : ∃ l, filter.verdict (Path.joinAll "" (names ++ [name])) = .ok l

/-- Whether a list gives the paths of those files of a directory of which something is true: it is in
order and has each of them once. -/
structure Lists (tree : Folder) (directory : String) (IsFound : List String → String → Prop)
    (files : List String) : Prop where
  strict : files.Pairwise fun a b => Path.compare a b = .lt
  mem_iff : ∀ file, file ∈ files ↔
    ∃ names name bytes, file = Path.joinAll directory (names ++ [name]) ∧
      tree.entryAt? names name = some (.file bytes) ∧ IsFound names name

section
variable {directory : String} {IsFound : List String → String → Prop}

/-- Files that are known by the names that lead to them are found in order, and each of them once. -/
theorem discover_of_names (sound : tree.Sound) {paths : List String}
    (opens : ∀ p ∈ paths, Opens w p) (relative : Path.isAbsolute directory = false)
    (members : ∀ file, file ∈ paths.flatMap (candidates w filter) ↔
      ∃ names name bytes, file = Path.joinAll directory (names ++ [name]) ∧
        tree.entryAt? names name = some (.file bytes) ∧ IsFound names name) :
    ∃ files, (discover w filter paths).files = .ok files ∧ Lists tree directory IsFound files := by
  refine ⟨_, discover_of_opens filter opens, pairwise_inOrder _, fun file => ?_⟩
  rw [← members, mem_inOrder_iff]
  intro a ha b hb same
  obtain ⟨namesA, nameA, bytesA, rfl, foundA, -⟩ := (members a).1 ha
  obtain ⟨namesB, nameB, bytesB, rfl, foundB, -⟩ := (members b).1 hb
  rw [Path.joinAll_parts_inj relative (sound.of_entryAt? foundA) (sound.of_entryAt? foundB) same]

/-- A file of the directory has one path, so what is true of it decides. -/
theorem Lists.joinAll_mem_iff {files : List String} (lists : Lists tree directory IsFound files)
    (sound : tree.Sound) (relative : Path.isAbsolute directory = false) {names : List String}
    {name : String} {bytes : List UInt8} (there : tree.entryAt? names name = some (.file bytes)) :
    Path.joinAll directory (names ++ [name]) ∈ files ↔ IsFound names name := by
  rw [lists.mem_iff]
  constructor
  · rintro ⟨others, other, own, path_eq, found, isFound⟩
    have same := Path.joinAll_parts_inj relative (sound.of_entryAt? there) (sound.of_entryAt? found)
      (congrArg Path.parts path_eq)
    obtain ⟨rfl, last⟩ := List.append_inj' same rfl
    obtain rfl := List.singleton_inj.1 last
    exact isFound
  · intro isFound
    exact ⟨names, name, bytes, rfl, there, isFound⟩

end

/-- What is found below the directory at hand. -/
theorem discover_here (sound : w.Sound) (linkless : w.top.Linkless) (free : w.top.IgnoreFree)
    (there : w.top.at? w.here = some tree) (filter : Filter) :
    ∃ files, (discover w filter ["."]).files = .ok files ∧
      Lists tree "." (FoundHere filter) files := by
  have reached := World.resolve_here there
  have held : w.holds "." = true := World.holds_iff.2 ⟨_, _, reached⟩
  have opens : ∀ p ∈ ["."], Opens w p :=
    List.forall_mem_singleton.2 (opens_of_ignoreFree linkless free held)
  refine discover_of_names (Folder.Sound.of_at? sound there) opens (by decide) fun file => ?_
  rw [List.flatMap_singleton, mem_candidates_directory_iff sound linkless free reached,
    and_iff_right (show isInput "." = false by decide)]
  constructor
  · rintro ⟨⟨names, name, bytes, rfl, found, entered⟩, wanted⟩
    exact ⟨names, name, bytes, rfl, found, entered, wanted⟩
  · rintro ⟨names, name, bytes, rfl, found, entered, wanted⟩
    exact ⟨⟨names, name, bytes, rfl, found, entered⟩, wanted⟩

theorem isInput_name_iff {name : String} (valid : IsFileName name) :
    isInput name = false ↔ name ≠ "-" := by
  have input : Path.parts "-" = [.name "-"] := by decide
  simp [isInput, Path.parts_name valid, input]

/-- The input of the program is no source file. -/
theorem isInput_of_wanted {name : String} (valid : IsFileName name)
    (wanted : ∃ l, filter.verdict name = .ok l) : isInput name = false := by
  obtain ⟨l, wanted⟩ := wanted
  have dialect := (Filter.verdict_eq_ok_iff.1 wanted).2
  rw [isInput_name_iff valid]
  rintro rfl
  exact absurd dialect (by cases l <;> decide)

/-- Below an entry that is given by its name, those files are found that its name leads to. -/
theorem mem_candidates_name_iff (sound : w.Sound) (linkless : w.top.Linkless)
    (free : w.top.IgnoreFree) (there : w.top.at? w.here = some tree) {root : String}
    (notGit : root ≠ ".git") {entry : Entry} (stands : tree.find? root = some entry)
    {file : String} :
    file ∈ candidates w filter root ↔
      ∃ names name bytes, file = Path.joinAll "" (names ++ [name]) ∧
        tree.entryAt? names name = some (.file bytes) ∧ FoundByName filter names name ∧
        (names ++ [name]).head? = some root := by
  have noLink := ((linkless.of_at? there).of_find? stands).1
  have valid := ((Folder.Sound.of_at? sound there).of_find? stands).1
  have reached := World.resolve_name sound there stands noLink
  cases entry with
  | link target => exact absurd rfl (noLink target)
  | file bytes =>
    rw [mem_candidates_file_iff linkless free reached]
    constructor
    · rintro ⟨-, rfl, wanted⟩
      have alone : Path.joinAll "" ([] ++ [file]) = file := Path.joinAll_empty file []
      exact ⟨[], file, bytes, alone.symm, stands, ⟨trivial, alone.symm ▸ wanted⟩, rfl⟩
    · rintro ⟨names, name, own, rfl, found, ⟨-, wanted⟩, first⟩
      cases names with
      | nil =>
        cases first
        have alone : Path.joinAll "" ([] ++ [root]) = root := Path.joinAll_empty root []
        exact ⟨isInput_of_wanted valid (alone ▸ wanted), alone, wanted⟩
      | cons n names =>
        obtain rfl : n = root := by simpa using first
        obtain ⟨inner, directory, -⟩ := Folder.entryAt?_cons_iff.1 found
        rw [stands] at directory
        cases directory
  | directory inner =>
    rw [mem_candidates_directory_iff sound linkless free reached]
    constructor
    · rintro ⟨notInput, ⟨names, name, bytes, rfl, found, entered⟩, wanted⟩
      have other := (isInput_name_iff valid).1 notInput
      have whole := (Path.joinAll_empty root (names ++ [name])).symm
      exact ⟨root :: names, name, bytes, whole,
        Folder.entryAt?_cons_iff.2 ⟨inner, stands, found⟩,
        ⟨⟨notGit, other, entered⟩, whole ▸ wanted⟩, rfl⟩
    · rintro ⟨names, name, bytes, rfl, found, ⟨entered, wanted⟩, first⟩
      obtain ⟨below, rfl, deeper⟩ := Folder.exists_below_of_directory stands found first
      obtain ⟨-, other, entered⟩ := entered
      have whole := Path.joinAll_empty root (below ++ [name])
      exact ⟨(isInput_name_iff valid).2 other, ⟨below, name, bytes, whole, deeper, entered⟩, wanted⟩

/-- What is found when all entries of the directory at hand but that of version control are given by
name. -/
theorem discover_byName (sound : w.Sound) (linkless : w.top.Linkless) (free : w.top.IgnoreFree)
    (there : w.top.at? w.here = some tree) {roots : List String}
    (all : ∀ n, n ∈ roots ↔ n ≠ ".git" ∧ (tree.find? n).isSome = true) (filter : Filter) :
    ∃ files, (discover w filter roots).files = .ok files ∧
      Lists tree "" (FoundByName filter) files := by
  have stands {root : String} (member : root ∈ roots) :
      root ≠ ".git" ∧ ∃ entry, tree.find? root = some entry :=
    ((all root).1 member).imp_right Option.isSome_iff_exists.1
  have opens : ∀ p ∈ roots, Opens w p := by
    intro root member
    obtain ⟨-, entry, found⟩ := stands member
    have noLink := ((linkless.of_at? there).of_find? found).1
    apply opens_of_ignoreFree linkless free
    exact World.holds_iff.2 ⟨_, _, World.resolve_name sound there found noLink⟩
  refine discover_of_names (Folder.Sound.of_at? sound there) opens (by decide) fun file => ?_
  rw [List.mem_flatMap]
  constructor
  · rintro ⟨root, member, found⟩
    obtain ⟨notGit, entry, placed⟩ := stands member
    obtain ⟨names, name, bytes, path_eq, found, byName, -⟩ :=
      (mem_candidates_name_iff sound linkless free there notGit placed).1 found
    exact ⟨names, name, bytes, path_eq, found, byName⟩
  · rintro ⟨names, name, bytes, path_eq, found, byName⟩
    obtain ⟨root, first, notGit, entry, placed⟩ : ∃ root, (names ++ [name]).head? = some root ∧
        root ≠ ".git" ∧ ∃ entry, tree.find? root = some entry := by
      cases names with
      | nil =>
        refine ⟨name, rfl, ?_, _, found⟩
        -- the entry of version control is no source file
        rintro rfl
        obtain ⟨l, wanted⟩ := byName.wanted
        have dialect := (Filter.verdict_eq_ok_iff.1 wanted).2
        rw [List.nil_append, Path.joinAll_empty] at dialect
        exact absurd dialect (by cases l <;> decide)
      | cons n names =>
        obtain ⟨inner, directory, -⟩ := Folder.entryAt?_cons_iff.1 found
        exact ⟨n, rfl, byName.entered.1, _, directory⟩
    have member : root ∈ roots := (all root).2 ⟨notGit, by rw [placed]; rfl⟩
    exact ⟨root, member, (mem_candidates_name_iff sound linkless free there notGit placed).2
      ⟨names, name, bytes, path_eq, found, byName, first⟩⟩

end Patrol.Walk
