import Patrol.Proofs.Walk.Entered

/-! What a walk from one path finds where nothing is ignored, said of the tree and of paths as they
are written. A walk does not look into directories that are pruned, but the files that it finds are
told by the filter and by the directories on the way alone. -/
namespace Patrol.Walk
open Patrol.Tree

variable {w : World} {filter : Filter}

/-! ## Each file once -/

/-- Under a name that is not in a directory, nothing is met. -/
theorem not_mem_files_of_fresh {root : Root} {trail : Trail} {directory : String} {place : Place}
    {folder : Folder} (sound : folder.Sound) {n : String} (fresh : folder.find? n = none)
    {names : List String} (valid : ∀ m ∈ n :: names, IsFileName m) :
    Path.joinAll directory (n :: names) ∉ files w filter root trail directory place folder := by
  intro met
  obtain ⟨others, other, bytes, same, found⟩ := mem_files sound met
  have names_eq := Path.joinAll_inj valid (sound.of_entryAt? found) same
  cases others with
  | nil =>
    obtain ⟨rfl, -⟩ := List.cons.inj names_eq
    have file : folder.find? n = some (.file bytes) := found
    rw [fresh] at file
    cases file
  | cons m others =>
    obtain ⟨rfl, -⟩ := List.cons.inj names_eq
    obtain ⟨inner, directory, -⟩ := Folder.entryAt?_cons_iff.1 found
    rw [fresh] at directory
    cases directory

/-- A walk meets no file twice. -/
theorem nodup_files {root : Root} {trail : Trail} {directory : String} {place : Place}
    {folder : Folder} (sound : folder.Sound) :
    (files w filter root trail directory place folder).Nodup := by
  induction folder generalizing trail directory place with
  | empty => exact List.nodup_nil
  | file n own rest ih =>
    obtain ⟨valid, fresh, sound⟩ := sound
    rw [files, List.nodup_append']
    refine ⟨by split <;> simp, ih sound, ?_⟩
    intro file first met
    split at first
    · cases first
    · obtain rfl := List.mem_singleton.1 first
      exact not_mem_files_of_fresh sound fresh (List.forall_mem_singleton.2 valid) met
  | link n target rest ih =>
    obtain ⟨-, -, sound⟩ := sound
    exact ih sound
  | directory n inner rest ihInner ih =>
    obtain ⟨valid, fresh, below, sound⟩ := sound
    rw [files, List.nodup_append']
    refine ⟨?_, ih sound, ?_⟩
    · split
      · exact List.nodup_nil
      · exact ihInner below
    · intro file first met
      split at first
      · cases first
      · -- a file in the directory has the directory's name on its way
        obtain ⟨names, name, bytes, rfl, found⟩ := mem_files below first
        have all := List.forall_mem_cons.2 ⟨valid, below.of_entryAt? found⟩
        exact not_mem_files_of_fresh sound fresh all met

theorem nodup_filesOf (sound : w.Sound) {path : String} {all : List String}
    (walked : filesOf w filter path = .ok all) : all.Nodup := by
  obtain ⟨place, entry, reached, -, rfl⟩ := filesOf_ok_iff.1 walked
  split
  · exact List.nodup_nil
  · cases entry with
    | file bytes => exact List.nodup_singleton path
    | link target => exact List.nodup_singleton path
    | directory inner =>
      have there := (World.resolve_ok_iff.1 reached).2.at?_of_directory rfl
      exact nodup_files (Folder.Sound.of_at? sound there)

theorem nodup_candidates (sound : w.Sound) (path : String) : (candidates w filter path).Nodup := by
  unfold candidates
  split
  · next walked => exact (nodup_filesOf sound walked).filter _
  · exact List.nodup_nil

/-! ## The directories on the way -/

/-- Directories let in if each of them does, told by the names that lead to it. -/
theorem entered_iff {directory : String} {names : List String} :
    Entered filter directory names ↔ ∀ above n, above ++ [n] <+: names →
      n ≠ ".git" ∧ filter.prunes (Path.joinAll directory (above ++ [n])) = false := by
  induction names generalizing directory with
  | nil =>
    refine iff_of_true trivial fun above n begins => ?_
    have none := List.prefix_nil.1 begins
    simp at none
  | cons first names ih =>
    rw [Entered, ih]
    constructor
    · rintro ⟨notGit, open_, deeper⟩ above n begins
      cases above with
      | nil =>
        obtain ⟨rfl, -⟩ := List.cons_prefix_cons.1 begins
        exact ⟨notGit, open_⟩
      | cons m above =>
        obtain ⟨rfl, deep⟩ := List.cons_prefix_cons.1 begins
        exact deeper above n deep
    · intro all
      obtain ⟨notGit, open_⟩ := all [] first (List.prefix_append [first] names)
      refine ⟨notGit, open_, fun above n begins => ?_⟩
      exact all (first :: above) n (List.cons_prefix_cons.2 ⟨rfl, begins⟩)

/-! ## What is found -/

/-- Which files an entry stands for under a path. A file stands for itself. A directory stands for the
files below it, but for those in a directory on the way that belongs to version control or is pruned;
it is not asked about itself. -/
def StandsFor (filter : Filter) (path : String) : Entry → String → Prop
  | .file _, file => file = path
  | .link _, _ => False
  | .directory inner, file =>
    ∃ names name bytes, file = Path.below path (names ++ [name]) ∧
      inner.entryAt? names name = some (.file bytes) ∧
      ∀ above n, above ++ [n] <+: names →
        n ≠ ".git" ∧ filter.prunes (Path.below path (above ++ [n])) = false

/-- A directory stands for its own files, whatever is pruned. -/
theorem standsFor_own {path : String} {inner : Folder} {name : String} {bytes : List UInt8}
    (there : inner.find? name = some (.file bytes)) :
    StandsFor filter path (.directory inner) (Path.below path [name]) := by
  refine ⟨[], name, bytes, rfl, there, fun above n begins => ?_⟩
  have none := List.prefix_nil.1 begins
  simp at none

/-- What is met below a directory, with paths as they are written. -/
theorem meets_iff_standsFor {path : String} (some : path ≠ "") {inner : Folder} (sound : inner.Sound)
    {file : String} : Meets filter path inner file ↔ StandsFor filter path (.directory inner) file := by
  refine exists₃_congr fun names name bytes => ?_
  rw [and_left_comm, and_left_comm (b := inner.entryAt? names name = _)]
  refine and_congr_right fun found => ?_
  have valid := sound.of_entryAt? found
  rw [Path.joinAll_eq_below some (by simp) valid, entered_iff]
  refine and_congr_right fun _ => forall₃_congr fun above n begins => ?_
  have way : ∀ m ∈ above ++ [n], IsFileName m := fun m member =>
    valid m (List.mem_append_left _ (begins.subset member))
  rw [Path.joinAll_eq_below some (by simp) way]

/-- The candidates of a path, where nothing is ignored: the files for which the path stands and that the
filter wants, unless the path is taken for the input of the program. -/
theorem mem_candidates_iff_standsFor (sound : w.Sound) (linkless : w.top.Linkless)
    (free : w.top.IgnoreFree) {path : String} {place : Place} {entry : Entry}
    (reached : w.resolve path = .ok (place, entry)) {file : String} :
    file ∈ candidates w filter path ↔ isInput path = false ∧
      StandsFor filter path entry file ∧ ∃ l, filter.verdict file = .ok l := by
  cases entry with
  | file bytes => exact mem_candidates_file_iff linkless free reached
  | link target => exact absurd rfl ((World.resolve_ok_iff.1 reached).2.not_link target)
  | directory inner =>
    have there := (World.resolve_ok_iff.1 reached).2.at?_of_directory rfl
    rw [mem_candidates_directory_iff sound linkless free reached,
      meets_iff_standsFor (World.ne_empty_of_resolve reached) (Folder.Sound.of_at? sound there)]

/-- A directory that has the name of the program's input, with one source file. -/
def inputDirectory : World :=
  ⟨.directory "work" (.directory "-" (.file "a.js" [] .empty) .empty) .empty, ["work"]⟩

end Patrol.Walk
