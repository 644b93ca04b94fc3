import Patrol.Proofs.Walk.Found

/-! Walks in worlds without ignore files: what is met below a directory are the files that all
directories on the way let in. -/
namespace Patrol

namespace Tree
namespace Folder

/-- Whether there is no ignore file, in the directory and below it. -/
def IgnoreFree : Folder → Prop
  | .empty => True
  | .file name _ rest => name ≠ ".ignore" ∧ name ≠ ".gitignore" ∧ rest.IgnoreFree
  | .link _ _ rest => rest.IgnoreFree
  | .directory name inner rest =>
    (name = ".git" → ∀ bytes, inner.entryAt? ["info"] "exclude" ≠ some (.file bytes)) ∧
      inner.IgnoreFree ∧ rest.IgnoreFree

variable {folder inner : Folder} {name : String}

theorem IgnoreFree.of_file (free : folder.IgnoreFree) {bytes : List UInt8}
    (found : folder.find? name = some (.file bytes)) : name ≠ ".ignore" ∧ name ≠ ".gitignore" := by
  induction folder with
  | empty => cases found
  | file n own rest ih =>
    obtain ⟨notOwn, notShared, free⟩ := free
    simp only [find?] at found
    split at found
    · next same => exact same ▸ ⟨notOwn, notShared⟩
    · exact ih free found
  | link n target rest ih =>
    simp only [find?] at found
    split at found
    · cases found
    · exact ih free found
  | directory n own rest _ ih =>
    simp only [find?] at found
    split at found
    · cases found
    · exact ih free.2.2 found

theorem IgnoreFree.of_directory (free : folder.IgnoreFree)
    (found : folder.find? name = some (.directory inner)) :
    (name = ".git" → ∀ bytes, inner.entryAt? ["info"] "exclude" ≠ some (.file bytes)) ∧
      inner.IgnoreFree := by
  induction folder with
  | empty => cases found
  | file n own rest ih =>
    simp only [find?] at found
    split at found
    · cases found
    · exact ih free.2.2 found
  | link n target rest ih =>
    simp only [find?] at found
    split at found
    · cases found
    · exact ih free found
  | directory n own rest _ ih =>
    obtain ⟨unshared, below, free⟩ := free
    simp only [find?] at found
    split at found
    · next same => cases found; exact same ▸ ⟨unshared, below⟩
    · exact ih free found

theorem IgnoreFree.of_at? (free : folder.IgnoreFree) {place : Place}
    (there : folder.at? place = some inner) : inner.IgnoreFree :=
  at?_induction (fun free found => (free.of_directory found).2) free there

end Folder

theorem ignoreFree_oneFile : oneFile.top.IgnoreFree :=
  ⟨nofun, ⟨nofun, ⟨by decide, by decide, trivial⟩, trivial⟩, trivial⟩

end Tree

namespace Walk
open Patrol.Tree

/-! ## Nothing is ignored -/

/-- Whether a level has no rules, and nothing is wrong with it. -/
structure IgnoreLevel.Silent (l : IgnoreLevel) : Prop where
  own : l.own.rules = []
  versioned : l.versioned.rules = []
  unshared : l.unshared.rules = []
  faultless : l.faults = []

theorem judge_of_silent {l : IgnoreList} (silent : l.rules = []) (path : List Char)
    (isDirectory : Bool) : l.judge path isDirectory = .silent := by
  simp [IgnoreList.judge, silent]

theorem nearest_of_silent {list : IgnoreLevel → IgnoreList} {sights : List Sight}
    (silent : ∀ s ∈ sights, (list s.1).rules = []) (isDirectory : Bool) :
    nearest list isDirectory sights = .silent := by
  induction sights with
  | nil => rfl
  | cons s sights ih =>
    obtain ⟨first, rest⟩ := List.forall_mem_cons.1 silent
    rw [nearest, judge_of_silent first, ih rest]
    rfl

theorem mem_of_mem_inVersionControl {sights : List Sight} {s : Sight}
    (member : s ∈ inVersionControl sights) : s ∈ sights := by
  have upTo (sights : List Sight) (member : s ∈ inVersionControl.upTo sights) : s ∈ sights := by
    induction sights with
    | nil => cases member
    | cons first rest ih =>
      simp only [inVersionControl.upTo] at member
      split at member
      · exact List.mem_singleton.1 member ▸ .head rest
      · obtain rfl | member := List.mem_cons.1 member
        · exact .head rest
        · exact .tail first (ih member)
  simp only [inVersionControl] at member
  split at member
  · exact upTo sights member
  · cases member

theorem isIgnored_of_silent {sights : List Sight} (silent : ∀ s ∈ sights, s.1.Silent)
    (isDirectory : Bool) : isIgnored sights isDirectory = false := by
  have inside (s : Sight) (member : s ∈ inVersionControl sights) : s.1.Silent :=
    silent s (mem_of_mem_inVersionControl member)
  simp only [isIgnored]
  rw [nearest_of_silent fun s member => (silent s member).own,
    nearest_of_silent fun s member => (inside s member).versioned,
    nearest_of_silent fun s member => (inside s member).unshared]
  rfl

variable {w : World} {filter : Filter}

/-- In a world without links and ignore files no directory has rules, and none has faults. -/
theorem silent_level (linkless : w.top.Linkless) (free : w.top.IgnoreFree) (place : Place)
    (directory : String) : (level w place directory).Silent := by
  have empty (names : List String) {name : String}
      (plain : ∀ n ∈ names ++ [name], n ≠ "." ∧ n ≠ "..")
      (noFile : ∀ bytes, w.top.entryAt? (place ++ names) name ≠ some (.file bytes)) :
      ignoreList w place directory (names ++ [name]) = ⟨directory.toList, [], []⟩ := by
    simp only [ignoreList]
    split
    · next q bytes followed =>
      exact absurd ((leads_of_follow followed).file_of_names linkless plain) (noFile bytes)
    · rfl
  have own : ignoreList w place directory [".ignore"] = ⟨directory.toList, [], []⟩ := by
    refine empty [] (by decide) fun bytes found => ?_
    obtain ⟨folder, there, found⟩ := Option.bind_eq_some_iff.1 found
    exact ((free.of_at? there).of_file found).1 rfl
  have versioned : ignoreList w place directory [".gitignore"] = ⟨directory.toList, [], []⟩ := by
    refine empty [] (by decide) fun bytes found => ?_
    obtain ⟨folder, there, found⟩ := Option.bind_eq_some_iff.1 found
    exact ((free.of_at? there).of_file found).2 rfl
  have unshared : ignoreList w place directory [".git", "info", "exclude"] =
      ⟨directory.toList, [], []⟩ := by
    refine empty [".git", "info"] (by decide) fun bytes found => ?_
    obtain ⟨deep, there, found⟩ := Option.bind_eq_some_iff.1 found
    rw [Folder.at?_append, Option.bind_eq_some_iff] at there
    obtain ⟨folder, there, below⟩ := there
    obtain ⟨inner, git, below⟩ := Folder.at?_cons_iff.1 below
    have shared := ((free.of_at? there).of_directory git).1 rfl bytes
    exact shared (by rw [Folder.entryAt?, below]; exact found)
  unfold level
  rw [own, versioned, unshared]
  exact ⟨rfl, rfl, rfl, rfl⟩

/-- Nor is anything wrong above a directory. -/
theorem faultsAbove_of_ignoreFree (linkless : w.top.Linkless) (free : w.top.IgnoreFree)
    (path : String) : faultsAbove w path = [] := by
  unfold faultsAbove
  split
  · split
    · rfl
    · refine List.flatMap_eq_nil_iff.2 fun l member => ?_
      rw [levelsAbove, List.reverse_reverse] at member
      obtain ⟨n, -, rfl⟩ := List.mem_map.1 member
      exact (silent_level linkless free _ _).faultless
  · rfl

/-- So a walk starts from every path that leads somewhere. -/
theorem opens_of_ignoreFree (linkless : w.top.Linkless) (free : w.top.IgnoreFree) {path : String}
    (held : w.holds path = true) : Opens w path :=
  ⟨held, faultsAbove_of_ignoreFree linkless free path⟩

def Trail.Silent (t : Trail) : Prop := ∀ l ∈ t.passed ++ t.above, l.Silent

theorem Trail.Silent.isIgnored {t : Trail} (silent : t.Silent) (root : Root) (path : String)
    (isDirectory : Bool) : Walk.isIgnored (t.sights root path) isDirectory = false := by
  refine isIgnored_of_silent (fun s member => ?_) isDirectory
  rw [Trail.sights, List.mem_append, List.mem_map, List.mem_map] at member
  obtain ⟨l, there, rfl⟩ | ⟨l, there, rfl⟩ := member
  · exact silent l (List.mem_append_left _ there)
  · exact silent l (List.mem_append_right _ there)

/-! ## What is met -/

/-- Whether directories, one below the other, let in: none of them belongs to version control, and
none is pruned. -/
def Entered (filter : Filter) : String → List String → Prop
  | _, [] => True
  | directory, name :: names =>
    name ≠ ".git" ∧ filter.prunes (Path.join directory name) = false ∧
      Entered filter (Path.join directory name) names

/-- Whether a file that stands in directories is met on a walk. -/
def Meets (filter : Filter) (directory : String) (folder : Folder) (file : String) : Prop :=
  ∃ names name bytes, file = Path.joinAll directory (names ++ [name]) ∧
    folder.entryAt? names name = some (.file bytes) ∧ Entered filter directory names

theorem not_meets_empty {directory file : String} : ¬Meets filter directory .empty file := by
  rintro ⟨names, name, bytes, -, found, -⟩
  cases names <;> cases found

/-- An entry in front adds itself if it is a file, and what is met in it if it is a directory that
lets in. -/
theorem meets_add_iff {rest : Folder} {n : String} (fresh : rest.find? n = none) {first : Entry}
    {directory file : String} :
    Meets filter directory (.add n first rest) file ↔
      (∃ bytes, first = .file bytes ∧ file = Path.join directory n) ∨
      (∃ inner, first = .directory inner ∧ n ≠ ".git" ∧
        filter.prunes (Path.join directory n) = false ∧
        Meets filter (Path.join directory n) inner file) ∨
      Meets filter directory rest file := by
  have own : (Folder.add n first rest).find? n = some first := by
    cases first <;> simp [Folder.add, Folder.find?]
  constructor
  · rintro ⟨names, name, bytes, rfl, found, entered⟩
    obtain ⟨rfl, rfl, rfl⟩ | ⟨inner, below, rfl, rfl, deeper⟩ | behind :=
      Folder.entryAt?_add_cases found
    · exact .inl ⟨bytes, rfl, rfl⟩
    · obtain ⟨notGit, open_, entered⟩ := entered
      exact .inr (.inl ⟨inner, rfl, notGit, open_, below, name, bytes, rfl, deeper, entered⟩)
    · exact .inr (.inr ⟨names, name, bytes, rfl, behind, entered⟩)
  · rintro (⟨bytes, rfl, rfl⟩ | ⟨inner, rfl, notGit, open_, met⟩ | met)
    · exact ⟨[], n, bytes, rfl, own, trivial⟩
    · obtain ⟨names, name, bytes, rfl, found, entered⟩ := met
      exact ⟨n :: names, name, bytes, rfl, Folder.entryAt?_cons_iff.2 ⟨inner, own, found⟩,
        notGit, open_, entered⟩
    · obtain ⟨names, name, bytes, rfl, found, entered⟩ := met
      exact ⟨names, name, bytes, rfl, Folder.entryAt?_add first fresh found, entered⟩

/-- A walk meets the files below a directory that are let in, and no others. -/
theorem mem_files_iff (linkless : w.top.Linkless) (free : w.top.IgnoreFree) {root : Root}
    {trail : Trail} (silent : trail.Silent) {directory : String} {place : Place} {folder : Folder}
    (sound : folder.Sound) {file : String} :
    file ∈ files w filter root trail directory place folder ↔
      Meets filter directory folder file := by
  induction folder generalizing trail directory place with
  | empty => exact iff_of_false List.not_mem_nil not_meets_empty
  | file n own rest ih =>
    obtain ⟨-, fresh, sound⟩ := sound
    have step := @meets_add_iff filter rest n fresh (.file own) directory file
    simp only [Folder.add] at step
    rw [files, silent.isIgnored, List.mem_append, ih silent sound, step]
    simp
  | link n target rest ih =>
    obtain ⟨-, fresh, sound⟩ := sound
    have step := @meets_add_iff filter rest n fresh (.link target) directory file
    simp only [Folder.add] at step
    rw [files, ih silent sound, step]
    simp
  | directory n inner rest ihInner ih =>
    obtain ⟨-, fresh, below, sound⟩ := sound
    have step := @meets_add_iff filter rest n fresh (.directory inner) directory file
    simp only [Folder.add] at step
    have deeper : Trail.Silent
        { trail with passed := level w (place ++ [n]) (Path.join directory n) :: trail.passed } :=
      List.forall_mem_cons.2 ⟨silent_level linkless free _ _, silent⟩
    rw [files, silent.isIgnored, List.mem_append, ih silent sound, step]
    simp only [Bool.false_or, Bool.or_eq_true, beq_iff_eq]
    split
    · next closed =>
      simp only [List.not_mem_nil, false_or]
      grind
    · next open_ =>
      rw [ihInner deeper below]
      grind

/-! ## What is found -/

theorem Trail.silent_start (linkless : w.top.Linkless) (free : w.top.IgnoreFree) (place : Place)
    (path : String) : Trail.Silent ⟨[level w place path], levelsAbove w place⟩ := by
  intro l member
  simp only [List.singleton_append, List.mem_cons, levelsAbove, List.mem_reverse, List.mem_map] at member
  obtain rfl | ⟨n, -, rfl⟩ := member <;> exact silent_level linkless free _ _

/-- Where nothing is ignored, a path that is taken for the input of the program stands for no file,
and any other for itself or for what is below it. -/
theorem mem_candidates_ignoreFree_iff (linkless : w.top.Linkless) (free : w.top.IgnoreFree)
    {path : String} {place : Place} {entry : Entry} (reached : w.resolve path = .ok (place, entry))
    {file : String} :
    file ∈ candidates w filter path ↔ isInput path = false ∧
      file ∈ filesFrom w filter path place entry ∧ ∃ l, filter.verdict file = .ok l := by
  rw [candidates_of_opens reached (faultsAbove_of_ignoreFree linkless free path), List.mem_filter]
  cases isInput path with
  | true => simp
  | false => cases verdict : filter.verdict file <;> simp [Except.isOk, Except.toBool]

/-- **What is found below a directory**, where nothing is ignored: the files that are let in and that
the filter wants. -/
theorem mem_candidates_directory_iff (sound : w.Sound) (linkless : w.top.Linkless)
    (free : w.top.IgnoreFree) {path : String} {place : Place} {inner : Folder}
    (reached : w.resolve path = .ok (place, .directory inner)) {file : String} :
    file ∈ candidates w filter path ↔ isInput path = false ∧
      Meets filter path inner file ∧ ∃ l, filter.verdict file = .ok l := by
  have there := (World.resolve_ok_iff.1 reached).2.at?_of_directory rfl
  have met : file ∈ filesFrom w filter path place (.directory inner) ↔ Meets filter path inner file :=
    mem_files_iff linkless free (Trail.silent_start linkless free place path)
      (Folder.Sound.of_at? sound there)
  rw [mem_candidates_ignoreFree_iff linkless free reached, met]

/-- A path to a file stands for itself. -/
theorem mem_candidates_file_iff (linkless : w.top.Linkless) (free : w.top.IgnoreFree) {path : String}
    {place : Place} {bytes : List UInt8} (reached : w.resolve path = .ok (place, .file bytes))
    {file : String} :
    file ∈ candidates w filter path ↔ isInput path = false ∧
      file = path ∧ ∃ l, filter.verdict file = .ok l := by
  rw [mem_candidates_ignoreFree_iff linkless free reached, filesFrom, List.mem_singleton]
  exact nofun

end Walk
end Patrol
