import Mathlib.Data.List.Sort
import Patrol.Proofs.Tree.Path
import Patrol.Walk.Basic

/-! Files in order: nothing is added, each path is kept in one spelling, and the order is strict. -/
namespace Patrol.Walk
open Patrol.Tree

theorem dropEqual_sublist (paths : List String) : (dropEqual paths).Sublist paths := by
  induction paths with
  | nil => exact .slnil
  | cons path paths ih =>
    simp only [dropEqual]
    split
    · exact List.nil_sublist paths |>.cons_cons path
    · next next rest same =>
      rw [same] at ih
      split
      · exact ((List.sublist_cons_self next rest).trans ih).cons_cons path
      · exact ih.cons_cons path

/-- The first of some paths stays in front. -/
theorem exists_dropEqual_cons (path : String) (paths : List String) :
    ∃ rest, dropEqual (path :: paths) = path :: rest := by
  simp only [dropEqual]
  split
  · exact ⟨[], rfl⟩
  · split <;> exact ⟨_, rfl⟩

theorem exists_mem_dropEqual {paths : List String} {path : String} (member : path ∈ paths) :
    ∃ kept ∈ dropEqual paths, Path.parts kept = Path.parts path := by
  induction paths with
  | nil => cases member
  | cons first paths ih =>
    obtain rfl | member := List.mem_cons.1 member
    · obtain ⟨rest, kept⟩ := exists_dropEqual_cons path paths
      exact ⟨path, kept ▸ .head rest, rfl⟩
    · obtain ⟨kept, member, same⟩ := ih member
      simp only [dropEqual]
      split
      · next none => rw [none] at member; cases member
      · next next rest some =>
        rw [some] at member
        split
        · next equal =>
          obtain rfl | member := List.mem_cons.1 member
          · exact ⟨first, .head rest, equal.trans same⟩
          · exact ⟨kept, .tail first member, same⟩
        · exact ⟨kept, .tail first member, same⟩

theorem pairwise_dropEqual {paths : List String}
    (sorted : paths.Pairwise fun a b => (Path.compare a b).isLE = true) :
    (dropEqual paths).Pairwise fun a b => Path.compare a b = .lt := by
  induction paths with
  | nil => exact .nil
  | cons path paths ih =>
    obtain ⟨first, sorted⟩ := List.pairwise_cons.1 sorted
    have strict := ih sorted
    simp only [dropEqual]
    split
    · exact List.pairwise_singleton ..
    · next next rest some =>
      rw [some] at strict
      obtain ⟨behind, others⟩ := List.pairwise_cons.1 strict
      have le := first next ((dropEqual_sublist paths).subset (some ▸ .head rest))
      have lt : ∀ b ∈ rest, Path.compare path b = .lt := fun b hb =>
        Path.compare_lt_of_isLE_of_lt le (behind b hb)
      split
      · exact List.pairwise_cons.2 ⟨lt, others⟩
      · next different =>
        have ltNext : Path.compare path next = .lt := by
          cases order : Path.compare path next with
          | lt => rfl
          | eq => exact absurd (Path.compare_eq_iff.1 order) different
          | gt => rw [order] at le; cases le
        exact List.pairwise_cons.2 ⟨List.forall_mem_cons.2 ⟨ltNext, lt⟩, strict⟩

theorem isLE_iff_ne_gt (o : Ordering) : (o != .gt) = o.isLE := by cases o <;> rfl

theorem inOrder_eq (paths : List String) :
    inOrder paths = dropEqual (paths.mergeSort fun a b => (Path.compare a b).isLE) := by
  simp only [inOrder, isLE_iff_ne_gt]

theorem mem_of_mem_inOrder {paths : List String} {path : String} (member : path ∈ inOrder paths) :
    path ∈ paths := by
  rw [inOrder_eq] at member
  exact List.mem_mergeSort.1 ((dropEqual_sublist _).subset member)

/-- Each path stays, maybe in another spelling. -/
theorem exists_mem_inOrder {paths : List String} {path : String} (member : path ∈ paths) :
    ∃ kept ∈ inOrder paths, Path.parts kept = Path.parts path := by
  rw [inOrder_eq]
  exact exists_mem_dropEqual (List.mem_mergeSort.2 member)

/-- Where each path has one spelling, all of them stay. -/
theorem mem_inOrder_iff {paths : List String}
    (one : ∀ a ∈ paths, ∀ b ∈ paths, Path.parts a = Path.parts b → a = b) {path : String} :
    path ∈ inOrder paths ↔ path ∈ paths := by
  refine ⟨mem_of_mem_inOrder, fun member => ?_⟩
  obtain ⟨kept, there, same⟩ := exists_mem_inOrder member
  exact one kept (mem_of_mem_inOrder there) path member same ▸ there

theorem pairwise_inOrder (paths : List String) :
    (inOrder paths).Pairwise fun a b => Path.compare a b = .lt := by
  have total (a b : String) : ((Path.compare a b).isLE || (Path.compare b a).isLE) = true := by
    rw [Path.compare_eq_swap b a]
    cases Path.compare a b <;> rfl
  rw [inOrder_eq]
  apply pairwise_dropEqual
  exact @List.pairwise_mergeSort _ (fun a b => (Path.compare a b).isLE)
    (fun _ _ _ => Path.compare_isLE_trans) total paths

/-- Paths in strict order are known by which they are. -/
theorem eq_of_mem_iff {a b : List String} (strictA : a.Pairwise fun p q => Path.compare p q = .lt)
    (strictB : b.Pairwise fun p q => Path.compare p q = .lt)
    (same : ∀ path, path ∈ a ↔ path ∈ b) : a = b := by
  have irrefl : Std.Irrefl fun p q => Path.compare p q = .lt := ⟨fun p before => by
    rw [Path.compare_eq_iff.2 rfl] at before
    cases before⟩
  have antisymm : Std.Antisymm fun p q => Path.compare p q = .lt := ⟨fun p q before after => by
    rw [Path.compare_eq_swap, after] at before
    cases before⟩
  exact strictA.eq_of_mem_iff strictB same

/-- Files that are in order already stay as they are. -/
theorem inOrder_eq_self {paths : List String}
    (strict : paths.Pairwise fun a b => Path.compare a b = .lt) : inOrder paths = paths := by
  have sorted : paths.Pairwise fun a b => (Path.compare a b).isLE = true :=
    strict.imp fun before => by rw [before]; rfl
  rw [inOrder_eq, List.mergeSort_of_pairwise sorted]
  clear sorted
  induction paths with
  | nil => rfl
  | cons path paths ih =>
    obtain ⟨first, others⟩ := List.pairwise_cons.1 strict
    simp only [dropEqual, ih others]
    split
    · rfl
    · next next rest =>
      have different : Path.parts path ≠ Path.parts next := fun same => by
        have before := first next (.head rest)
        rw [Path.compare_eq_iff.2 same] at before
        cases before
      rw [if_neg different]

end Patrol.Walk
