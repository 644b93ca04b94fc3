import Patrol.Tree.Resolve

/-! What every directory has in common: the names in it are different, and each of them is one that
a path can lead to. -/
namespace Patrol.Tree

/-- Whether a name can stand in a directory. -/
structure IsFileName (name : String) : Prop where
  nonempty : name ≠ ""
  unslashed : '/' ∉ name.toList
  notHere : name ≠ "."
  notUp : name ≠ ".."
  fits : name.utf8ByteSize ≤ maxNameSize

namespace Folder

/-- Whether all names, in the directory and below it, can stand where they are. -/
def Sound : Folder → Prop
  | .empty => True
  | .file name _ rest | .link name _ rest =>
    IsFileName name ∧ rest.find? name = none ∧ rest.Sound
  | .directory name inner rest =>
    IsFileName name ∧ rest.find? name = none ∧ inner.Sound ∧ rest.Sound

/-- Whether there is no link, in the directory and below it. -/
def Linkless : Folder → Prop
  | .empty => True
  | .file _ _ rest => rest.Linkless
  | .link _ _ _ => False
  | .directory _ inner rest => inner.Linkless ∧ rest.Linkless

theorem at?_cons_iff {folder inner : Folder} {name : String} {place : Place} :
    folder.at? (name :: place) = some inner ↔
      ∃ next, folder.find? name = some (.directory next) ∧ next.at? place = some inner := by
  simp only [at?]
  cases folder.find? name with
  | none => simp
  | some entry => cases entry <;> simp

/-- What goes from a directory to those in it goes to all that are below. -/
theorem at?_induction {P : Folder → Prop}
    (step : ∀ {folder : Folder} {name : String} {inner : Folder}, P folder →
      folder.find? name = some (.directory inner) → P inner)
    {folder inner : Folder} (start : P folder) {place : Place}
    (there : folder.at? place = some inner) : P inner := by
  induction place generalizing folder with
  | nil => cases there; exact start
  | cons name place ih =>
    obtain ⟨next, found, there⟩ := at?_cons_iff.1 there
    exact ih (step start found) there

theorem at?_append (folder : Folder) (above below : Place) :
    folder.at? (above ++ below) = (folder.at? above).bind (·.at? below) := by
  induction above generalizing folder with
  | nil => rfl
  | cons name above ih =>
    simp only [List.cons_append, at?]
    cases folder.find? name with
    | none => rfl
    | some entry =>
      cases entry with
      | file _ | link _ => rfl
      | directory inner => exact ih inner

/-- What stands under a name of the directory at a place. -/
def entryAt? (folder : Folder) (place : Place) (name : String) : Option Entry :=
  (folder.at? place).bind (·.find? name)

theorem entryAt?_cons_iff {folder : Folder} {n : String} {place : Place} {name : String}
    {entry : Entry} :
    folder.entryAt? (n :: place) name = some entry ↔
      ∃ inner, folder.find? n = some (.directory inner) ∧ inner.entryAt? place name = some entry := by
  simp only [entryAt?, Option.bind_eq_some_iff, at?_cons_iff]
  grind

/-- A file whose first name is that of a directory stands in it. -/
theorem exists_below_of_directory {folder inner : Folder} {root : String}
    (directory : folder.find? root = some (.directory inner)) {names : List String} {name : String}
    {bytes : List UInt8} (found : folder.entryAt? names name = some (.file bytes))
    (first : (names ++ [name]).head? = some root) :
    ∃ below, names = root :: below ∧ inner.entryAt? below name = some (.file bytes) := by
  cases names with
  | nil =>
    obtain rfl : name = root := by simpa using first
    have file : folder.find? name = some (.file bytes) := found
    rw [directory] at file
    cases file
  | cons n below =>
    obtain rfl : n = root := by simpa using first
    obtain ⟨own, same, found⟩ := entryAt?_cons_iff.1 found
    rw [directory] at same
    cases same
    exact ⟨below, rfl, found⟩

/-- What is behind another entry is found as if that one were not there. -/
theorem entryAt?_add {rest : Folder} {n : String} (first : Entry) (fresh : rest.find? n = none)
    {place : Place} {name : String} {entry : Entry}
    (found : rest.entryAt? place name = some entry) :
    (add n first rest).entryAt? place name = some entry := by
  have kept {m : String} {e : Entry} (there : rest.find? m = some e) :
      (add n first rest).find? m = some e := by
    have other : n ≠ m := by
      rintro rfl
      rw [fresh] at there
      cases there
    cases first <;> simpa [add, find?, other] using there
  cases place with
  | nil => exact kept found
  | cons m place =>
    obtain ⟨inner, step, found⟩ := entryAt?_cons_iff.1 found
    exact entryAt?_cons_iff.2 ⟨inner, kept step, found⟩

/-- What is found in a directory is its first entry, or in it, or behind it. -/
theorem entryAt?_add_cases {rest : Folder} {n : String} {first : Entry} {place : Place}
    {name : String} {entry : Entry} (found : (add n first rest).entryAt? place name = some entry) :
    (place = [] ∧ n = name ∧ first = entry) ∨
      (∃ inner below, place = n :: below ∧ first = .directory inner ∧
        inner.entryAt? below name = some entry) ∨
      rest.entryAt? place name = some entry := by
  have step (m : String) :
      (add n first rest).find? m = if n = m then some first else rest.find? m := by
    cases first <;> rfl
  cases place with
  | nil =>
    have found : (add n first rest).find? name = some entry := found
    rw [step] at found
    split at found
    · next same => exact .inl ⟨rfl, same, Option.some.inj found⟩
    · exact .inr (.inr found)
  | cons m below =>
    obtain ⟨inner, there, deeper⟩ := entryAt?_cons_iff.1 found
    rw [step] at there
    split at there
    · next same =>
      subst same
      exact .inr (.inl ⟨inner, below, rfl, Option.some.inj there, deeper⟩)
    · exact .inr (.inr (entryAt?_cons_iff.2 ⟨inner, there, deeper⟩))

/-- What stands under a name of a sound directory stands under a name that can be there. -/
theorem Sound.of_find? {folder : Folder} (sound : folder.Sound) {name : String} {entry : Entry}
    (found : folder.find? name = some entry) :
    IsFileName name ∧ ∀ inner, entry = .directory inner → inner.Sound := by
  induction folder with
  | empty => cases found
  | file n bytes rest ih | link n target rest ih =>
    obtain ⟨valid, -, sound⟩ := sound
    simp only [find?] at found
    split at found
    · next same => cases found; exact ⟨same ▸ valid, nofun⟩
    · exact ih sound found
  | directory n inner rest _ ih =>
    obtain ⟨valid, -, below, sound⟩ := sound
    simp only [find?] at found
    split at found
    · next same => cases found; exact ⟨same ▸ valid, fun _ same => by cases same; exact below⟩
    · exact ih sound found

theorem Sound.of_at? {folder inner : Folder} (sound : folder.Sound) {place : Place}
    (there : folder.at? place = some inner) : inner.Sound :=
  at?_induction (fun sound found => (sound.of_find? found).2 _ rfl) sound there

theorem Sound.names_of_at? {folder inner : Folder} (sound : folder.Sound) {place : Place}
    (there : folder.at? place = some inner) : ∀ name ∈ place, IsFileName name := by
  induction place generalizing folder with
  | nil => exact nofun
  | cons name place ih =>
    obtain ⟨next, found, there⟩ := at?_cons_iff.1 there
    obtain ⟨valid, below⟩ := sound.of_find? found
    exact List.forall_mem_cons.2 ⟨valid, ih (below next rfl) there⟩

theorem Sound.of_entryAt? {folder : Folder} (sound : folder.Sound) {place : Place} {name : String}
    {entry : Entry} (found : folder.entryAt? place name = some entry) :
    ∀ n ∈ place ++ [name], IsFileName n := by
  obtain ⟨inner, there, found⟩ := Option.bind_eq_some_iff.1 found
  intro n hn
  obtain hn | hn := List.mem_append.1 hn
  · exact sound.names_of_at? there n hn
  · exact List.mem_singleton.1 hn ▸ ((sound.of_at? there).of_find? found).1

theorem Linkless.of_find? {folder : Folder} (linkless : folder.Linkless) {name : String}
    {entry : Entry} (found : folder.find? name = some entry) :
    (∀ target, entry ≠ .link target) ∧ ∀ inner, entry = .directory inner → inner.Linkless := by
  induction folder with
  | empty => cases found
  | file n bytes rest ih =>
    simp only [find?] at found
    split at found
    · cases found; exact ⟨nofun, nofun⟩
    · exact ih linkless found
  | link n target rest => exact linkless.elim
  | directory n inner rest _ ih =>
    simp only [find?] at found
    split at found
    · cases found; exact ⟨nofun, fun _ same => by cases same; exact linkless.1⟩
    · exact ih linkless.2 found

theorem Linkless.of_at? {folder inner : Folder} (linkless : folder.Linkless) {place : Place}
    (there : folder.at? place = some inner) : inner.Linkless :=
  at?_induction (fun linkless found => (linkless.of_find? found).2 _ rfl) linkless there

end Folder
end Patrol.Tree
