import Patrol.Proofs.Tree.Folder

/-! What stands at a place of a tree, and what stands there after something was put somewhere. A tree
is looked at place by place here: what is below a directory is told by the places below it. -/
namespace Patrol.Tree

/-- What an entry is by itself, whatever is below it. -/
inductive Kind where
  | file (bytes : List UInt8)
  | link (target : String)
  | directory
deriving DecidableEq

namespace Entry

def kind : Entry → Kind
  | .file bytes => .file bytes
  | .link target => .link target
  | .directory _ => .directory

theorem kind_eq_file_iff {e : Entry} {bytes : List UInt8} :
    e.kind = .file bytes ↔ e = .file bytes := by
  cases e <;> simp [kind]

theorem kind_eq_link_iff {e : Entry} {target : String} :
    e.kind = .link target ↔ e = .link target := by
  cases e <;> simp [kind]

/-- Whether nothing is below an entry. -/
def IsLeaf (e : Entry) : Prop := ∀ inner, e = .directory inner → inner = .empty

theorem isLeaf_file (bytes : List UInt8) : IsLeaf (.file bytes) := nofun

theorem isLeaf_empty : IsLeaf (.directory .empty) := fun _ same => (Entry.directory.inj same).symm

theorem kind_eq_directory_iff {e : Entry} : e.kind = .directory ↔ ∃ inner, e = .directory inner := by
  cases e <;> simp [kind]

end Entry

namespace Folder

/-- What stands at a place. The first place is that of the directory itself. -/
def kind? (folder : Folder) : Place → Option Kind
  | [] => some .directory
  | name :: place =>
    match folder.find? name with
    | some (.directory inner) => inner.kind? place
    | some entry => if place = [] then some entry.kind else none
    | none => none

theorem kind?_snoc (folder : Folder) (place : Place) (name : String) :
    folder.kind? (place ++ [name]) = (folder.entryAt? place name).map Entry.kind := by
  induction place generalizing folder with
  | nil =>
    simp only [List.nil_append, kind?, entryAt?, at?, Option.bind_some]
    cases folder.find? name with
    | none => rfl
    | some entry => cases entry <;> rfl
  | cons n place ih =>
    simp only [List.cons_append, kind?, entryAt?, at?]
    cases folder.find? n with
    | none => rfl
    | some entry =>
      cases entry with
      | directory inner => exact ih inner
      | file _ | link _ => simp

theorem kind?_snoc_eq_some {folder : Folder} {place : Place} {name : String} {entry : Entry}
    (found : folder.entryAt? place name = some entry) :
    folder.kind? (place ++ [name]) = some entry.kind := by
  rw [kind?_snoc, found, Option.map_some]

theorem kind?_eq_directory_iff {folder : Folder} {place : Place} :
    folder.kind? place = some .directory ↔ ∃ inner, folder.at? place = some inner := by
  induction place generalizing folder with
  | nil => simp [kind?, at?]
  | cons name place ih =>
    simp only [kind?, at?]
    cases folder.find? name with
    | none => simp
    | some entry =>
      cases entry with
      | directory inner => exact ih
      | file _ | link _ => by_cases last : place = [] <;> simp [last, Entry.kind]

theorem exists_entryAt? {folder : Folder} {place : Place} {name : String} {kind : Kind}
    (stands : folder.kind? (place ++ [name]) = some kind) :
    ∃ entry, folder.entryAt? place name = some entry ∧ entry.kind = kind := by
  rw [kind?_snoc] at stands
  exact Option.map_eq_some_iff.1 stands

theorem entryAt?_file_iff {folder : Folder} {place : Place} {name : String} {bytes : List UInt8} :
    folder.entryAt? place name = some (.file bytes) ↔
      folder.kind? (place ++ [name]) = some (.file bytes) := by
  refine ⟨kind?_snoc_eq_some, fun stands => ?_⟩
  obtain ⟨entry, found, kind⟩ := exists_entryAt? stands
  rw [found, Entry.kind_eq_file_iff.1 kind]

theorem entryAt?_link_iff {folder : Folder} {place : Place} {name target : String} :
    folder.entryAt? place name = some (.link target) ↔
      folder.kind? (place ++ [name]) = some (.link target) := by
  refine ⟨kind?_snoc_eq_some, fun stands => ?_⟩
  obtain ⟨entry, found, kind⟩ := exists_entryAt? stands
  rw [found, Entry.kind_eq_link_iff.1 kind]

/-- Only directories have something below them. -/
theorem kind?_append_eq_none {folder : Folder} {above below : Place} (more : below ≠ [])
    (other : folder.kind? above ≠ some .directory) : folder.kind? (above ++ below) = none := by
  induction above generalizing folder with
  | nil => exact absurd rfl other
  | cons name above ih =>
    have deeper : above ++ below ≠ [] := by simp [more]
    simp only [List.cons_append, kind?] at other ⊢
    cases found : folder.find? name with
    | none => rfl
    | some entry =>
      simp only [found] at other ⊢
      cases entry with
      | directory inner => exact ih other
      | file _ | link _ => simp [deeper]

/-! ## After something was put there -/

theorem find?_add (name : String) (entry : Entry) (rest : Folder) (n : String) :
    (add name entry rest).find? n = if n = name then some entry else rest.find? n := by
  cases entry <;> simp only [add, find?, eq_comm]

theorem put_add (n : String) (e : Entry) (rest : Folder) (name : String) (entry : Entry) :
    (add n e rest).put name entry =
      if n = name then add name entry rest else add n e (rest.put name entry) := by
  cases e <;> rfl

/-- A directory is empty, or has an entry in front of the others. -/
@[elab_as_elim]
theorem add_induction {P : Folder → Prop} (empty : P .empty)
    (add : ∀ n e rest, P rest → P (.add n e rest)) (folder : Folder) : P folder := by
  induction folder with
  | empty => exact empty
  | file n bytes rest ih => exact add n (.file bytes) rest ih
  | link n target rest ih => exact add n (.link target) rest ih
  | directory n inner rest _ ih => exact add n (.directory inner) rest ih

theorem find?_put (folder : Folder) (name : String) (entry : Entry) (n : String) :
    (folder.put name entry).find? n = if n = name then some entry else folder.find? n := by
  induction folder using add_induction with
  | empty => exact find?_add name entry .empty n
  | add m e rest ih =>
    rw [put_add]
    split
    · next same =>
      subst same
      rw [find?_add, find?_add]
      split <;> rfl
    · next other =>
      rw [find?_add, find?_add, ih]
      grind

/-- An entry with nothing below it stands where it was put, and all else stands where it stood, unless
a directory had to make room. -/
theorem kind?_put {folder : Folder} {name : String} {entry : Entry} (leaf : entry.IsLeaf)
    (room : folder.kind? [name] ≠ some .directory) (q : Place) :
    (folder.put name entry).kind? q = if q = [name] then some entry.kind else folder.kind? q := by
  cases q with
  | nil => rfl
  | cons n below =>
    by_cases own : n = name
    · subst own
      cases below with
      | nil => cases entry <;> simp [kind?, find?_put, Entry.kind]
      | cons m below =>
        have none : folder.kind? ([n] ++ m :: below) = none :=
          kind?_append_eq_none (List.cons_ne_nil m below) room
        rw [List.singleton_append] at none
        rw [if_neg (by simp), none, kind?, find?_put, if_pos rfl]
        cases entry with
        | directory inner => rw [leaf inner rfl]; rfl
        | file _ | link _ => rfl
    · simp [kind?, find?_put, own]

theorem kind?_putAt {folder : Folder} {place : Place} {name : String} {entry : Entry}
    (leaf : entry.IsLeaf) (there : folder.kind? place = some .directory)
    (room : folder.kind? (place ++ [name]) ≠ some .directory) (q : Place) :
    (folder.putAt name entry place).kind? q =
      if q = place ++ [name] then some entry.kind else folder.kind? q := by
  induction place generalizing folder q with
  | nil => exact kind?_put leaf room q
  | cons m place ih =>
    obtain ⟨inner, reached⟩ := kind?_eq_directory_iff.1 there
    obtain ⟨next, found, below⟩ := at?_cons_iff.1 reached
    have deeper (q : Place) : folder.kind? (m :: q) = next.kind? q := by rw [kind?, found]
    have changed : folder.putAt name entry (m :: place) =
        folder.put m (.directory (next.putAt name entry place)) := by rw [putAt, found]
    rw [changed]
    cases q with
    | nil => rfl
    | cons n q =>
      by_cases own : n = m
      · subst own
        rw [kind?, find?_put, if_pos rfl]
        rw [List.cons_append, deeper] at room
        simp only [List.cons_append, List.cons.injEq, true_and, deeper]
        exact ih (kind?_eq_directory_iff.2 ⟨inner, below⟩) room q
      · simp [kind?, find?_put, own]

end Folder
end Patrol.Tree
