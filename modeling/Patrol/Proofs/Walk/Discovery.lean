import Patrol.Proofs.Walk.Found

/-! What is discovered below some paths does not depend on how the paths are listed. -/
namespace Patrol.Walk
open Patrol.Tree

variable {w : World} {filter : Filter}

/-- Of paths in strict order, those that are all among others are a part of them, in that order. -/
theorem sublist_map_parts {a b : List String}
    (strictA : a.Pairwise fun p q => Path.compare p q = .lt)
    (strictB : b.Pairwise fun p q => Path.compare p q = .lt)
    (among : ∀ p ∈ a, ∃ q ∈ b, Path.parts q = Path.parts p) :
    (a.map Path.parts).Sublist (b.map Path.parts) := by
  have irrefl : Std.Irrefl fun x y => List.compareLex Path.compareParts x y = .lt := ⟨fun x lt => by
    rw [@Std.ReflCmp.compare_self _ (List.compareLex Path.compareParts)] at lt
    cases lt⟩
  have antisymm : Std.Antisymm fun x y => List.compareLex Path.compareParts x y = .lt :=
    ⟨fun x y lt gt => by
      rw [Std.OrientedCmp.gt_of_lt lt] at gt
      cases gt⟩
  have strict {paths : List String} (sorted : paths.Pairwise fun p q => Path.compare p q = .lt) :
      (paths.map Path.parts).Pairwise fun x y => List.compareLex Path.compareParts x y = .lt :=
    List.pairwise_map.2 sorted
  have subset : a.map Path.parts ⊆ b.map Path.parts := by
    intro parts member
    obtain ⟨p, own, rfl⟩ := List.mem_map.1 member
    exact List.mem_map.2 (among p own)
  have subperm := List.subperm_of_subset (strict strictA).nodup subset
  exact List.sublist_of_subperm_of_pairwise subperm (strict strictA) (strict strictB)

/-- Files in order are, but for their spelling, a part of those that hold more. -/
theorem sublist_map_parts_inOrder {a b : List String} (subset : a ⊆ b) :
    ((inOrder a).map Path.parts).Sublist ((inOrder b).map Path.parts) :=
  sublist_map_parts (pairwise_inOrder a) (pairwise_inOrder b) fun _ member =>
    exists_mem_inOrder (subset (mem_of_mem_inOrder member))

/-- The candidates of a path are those of a walk from it alone. -/
theorem found_walkAll_singleton {path : String} (opens : Opens w path) :
    (walkAll w filter [path]).1.found = candidates w filter path := by
  rw [walkAll_found filter (List.forall_mem_singleton.2 opens), List.flatMap_singleton]

end Patrol.Walk
