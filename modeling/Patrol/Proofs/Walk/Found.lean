import Patrol.Proofs.Walk.Opens
import Patrol.Proofs.Walk.Order

/-! What a walk finds: files that are there, under paths that begin with those it was given. -/
namespace Patrol.Walk
open Patrol.Tree

variable {w : World} {filter : Filter}

/-- Every file that is met stands somewhere below the directory, and its path says where. -/
theorem mem_files {root : Root} {trail : Trail} {directory : String} {place : Place}
    {folder : Folder} (sound : folder.Sound) {file : String}
    (met : file ∈ files w filter root trail directory place folder) :
    ∃ names name bytes, file = Path.joinAll directory (names ++ [name]) ∧
      folder.entryAt? names name = some (.file bytes) := by
  induction folder generalizing trail directory place with
  | empty => cases met
  | file n own rest ih =>
    obtain ⟨-, fresh, sound⟩ := sound
    rw [files, List.mem_append] at met
    cases met with
    | inl first =>
      split at first
      · cases first
      · obtain rfl := List.mem_singleton.1 first
        exact ⟨[], n, own, rfl, by simp [Folder.entryAt?, Folder.at?, Folder.find?]⟩
    | inr met =>
      obtain ⟨names, name, bytes, rfl, found⟩ := ih sound met
      exact ⟨names, name, bytes, rfl, Folder.entryAt?_add (.file own) fresh found⟩
  | link n target rest ih =>
    obtain ⟨-, fresh, sound⟩ := sound
    obtain ⟨names, name, bytes, rfl, found⟩ := ih sound met
    exact ⟨names, name, bytes, rfl, Folder.entryAt?_add (.link target) fresh found⟩
  | directory n inner rest ihInner ih =>
    obtain ⟨-, fresh, below, sound⟩ := sound
    rw [files, List.mem_append] at met
    cases met with
    | inl first =>
      split at first
      · cases first
      · obtain ⟨names, name, bytes, rfl, found⟩ := ihInner below first
        exact ⟨n :: names, name, bytes, rfl,
          Folder.entryAt?_cons_iff.2 ⟨inner, by simp [Folder.find?], found⟩⟩
    | inr met =>
      obtain ⟨names, name, bytes, rfl, found⟩ := ih sound met
      exact ⟨names, name, bytes, rfl, Folder.entryAt?_add (.directory inner) fresh found⟩

/-- What a path stands for: itself, or what is met below it. -/
theorem mem_filesOf (sound : w.Sound) {path : String} {all : List String}
    (walked : filesOf w filter path = .ok all) {file : String} (member : file ∈ all) :
    ∃ names place bytes, file = Path.joinAll path names ∧ (∀ name ∈ names, IsFileName name) ∧
      w.resolve file = .ok (place, .file bytes) := by
  obtain ⟨place, entry, reached, -, rfl⟩ := filesOf_ok_iff.1 walked
  split at member
  · cases member
  cases entry with
  | file bytes =>
    obtain rfl := List.mem_singleton.1 member
    exact ⟨[], place, bytes, rfl, nofun, reached⟩
  | link target => exact absurd rfl ((World.resolve_ok_iff.1 reached).2.not_link target)
  | directory inner =>
    have there := (World.resolve_ok_iff.1 reached).2.at?_of_directory rfl
    have below := Folder.Sound.of_at? sound there
    obtain ⟨names, name, bytes, rfl, found⟩ := mem_files below member
    exact ⟨_, _, bytes, rfl, below.of_entryAt? found, World.resolve_joinAll sound reached found⟩

/-- The files for which a path stands and that the filter wants. -/
def candidates (w : World) (filter : Filter) (path : String) : List String :=
  match filesOf w filter path with
  | .ok files => files.filter fun file => (filter.verdict file).isOk
  | .error _ => []

theorem candidates_of_opens {path : String} {place : Place} {entry : Entry}
    (reached : w.resolve path = .ok (place, entry)) (clean : faultsAbove w path = []) :
    candidates w filter path = (if isInput path then [] else filesFrom w filter path place entry).filter
      fun file => (filter.verdict file).isOk := by
  have walked : filesOf w filter path = .ok _ :=
    filesOf_ok_iff.2 ⟨place, entry, reached, clean, rfl⟩
  rw [candidates, walked]

theorem candidates_of_failure {path : String} {failure : Failure}
    (failed : failure? w path = some failure) : candidates w filter path = [] := by
  rw [candidates, filesOf_error_iff.2 failed]

theorem mem_candidates_iff {path file : String} :
    file ∈ candidates w filter path ↔
      (∃ all, filesOf w filter path = .ok all ∧ file ∈ all) ∧ ∃ l, filter.verdict file = .ok l := by
  simp only [candidates]
  split
  · next all walked =>
    cases verdict : filter.verdict file <;> simp [verdict, walked, Except.isOk, Except.toBool]
  · next walked => simp [walked]

theorem ofFiles_found (files : List String) :
    (Findings.ofFiles filter files).found =
      files.filter fun file => (filter.verdict file).isOk := by
  induction files with
  | nil => rfl
  | cons file files ih =>
    simp only [Findings.ofFiles]
    cases verdict : filter.verdict file with
    | ok l => simp [verdict, ih, Except.isOk, Except.toBool]
    | error why => simp [verdict, ih, Except.isOk, Except.toBool]

/-- Walks end at the first path from which none starts, whatever the filter is. -/
theorem walkAll_failure (filter : Filter) (paths : List String) :
    (walkAll w filter paths).2 = paths.findSome? (failure? w) := by
  induction paths with
  | nil => rfl
  | cons path paths ih =>
    rw [List.findSome?_cons, walkAll]
    cases walked : filesOf w filter path with
    | error failure => rw [filesOf_error_iff.1 walked]
    | ok files =>
      have opens : Opens w path := filesOf_isOk_iff.1 (by rw [walked]; rfl)
      rw [failure?_eq_none_iff.2 opens]
      exact ih

theorem walkAll_found (filter : Filter) {paths : List String} (opens : ∀ p ∈ paths, Opens w p) :
    (walkAll w filter paths).1.found = paths.flatMap (candidates w filter) := by
  induction paths with
  | nil => rfl
  | cons path paths ih =>
    obtain ⟨first, rest⟩ := List.forall_mem_cons.1 opens
    rw [List.flatMap_cons, walkAll]
    cases walked : filesOf w filter path with
    | error failure =>
      have walks : (filesOf w filter path).isOk = true := filesOf_isOk_iff.2 first
      rw [walked] at walks
      cases walks
    | ok files => simp [Findings.append, ofFiles_found, ih rest, candidates, walked]

theorem findSome?_failure?_eq_none_iff {paths : List String} :
    paths.findSome? (failure? w) = none ↔ ∀ p ∈ paths, Opens w p := by
  simp only [List.findSome?_eq_none_iff, failure?_eq_none_iff]

/-- What is discovered, in full: why the first walk that fails does, or what all walks find. -/
theorem discover_files_eq (w : World) (filter : Filter) (paths : List String) :
    (discover w filter paths).files =
      match paths.findSome? (failure? w) with
      | some failure => .error failure
      | none => .ok (inOrder (paths.flatMap (candidates w filter))) := by
  have failed := walkAll_failure (w := w) filter paths
  unfold discover
  split
  · next findings failure same =>
    rw [same] at failed
    rw [← failed]
  · next findings same =>
    rw [same] at failed
    have found := walkAll_found filter (findSome?_failure?_eq_none_iff.1 failed.symm)
    rw [same] at found
    rw [← failed, ← found]

theorem discover_of_opens (filter : Filter) {paths : List String} (opens : ∀ p ∈ paths, Opens w p) :
    (discover w filter paths).files = .ok (inOrder (paths.flatMap (candidates w filter))) := by
  rw [discover_files_eq, findSome?_failure?_eq_none_iff.2 opens]

theorem discover_of_failure (filter : Filter) {front : List String} (opens : ∀ p ∈ front, Opens w p)
    {path : String} {failure : Failure} (failed : failure? w path = some failure)
    (back : List String) : (discover w filter (front ++ path :: back)).files = .error failure := by
  rw [discover_files_eq, List.findSome?_append, findSome?_failure?_eq_none_iff.2 opens,
    Option.none_or, List.findSome?_cons, failed]

/-- Of paths that are all there, the first below ignore files with faults ends the discovery. -/
theorem discover_of_faulty (filter : Filter) {front back : List String} {path : String}
    (held : ∀ p ∈ front ++ path :: back, w.holds p = true)
    (clean : ∀ p ∈ front, faultsAbove w p = []) (faulty : faultsAbove w path ≠ []) :
    (discover w filter (front ++ path :: back)).files = .error (.faulty (faultsAbove w path)) := by
  obtain ⟨heldFront, heldRest⟩ := List.forall_mem_append.1 held
  have opens : ∀ p ∈ front, Opens w p := fun p member => ⟨heldFront p member, clean p member⟩
  have failed := failure?_of_faulty (heldRest path (.head back)) faulty
  exact discover_of_failure filter opens failed back

/-- Files are discovered only where all walks start. -/
theorem opens_of_discover {paths files : List String}
    (found : (discover w filter paths).files = .ok files) : ∀ p ∈ paths, Opens w p := by
  rw [← findSome?_failure?_eq_none_iff]
  rw [discover_files_eq] at found
  cases failed : paths.findSome? (failure? w) with
  | none => rfl
  | some failure => rw [failed] at found; cases found

/-- The files that are to be looked at: all of them are wanted, and they are in order. -/
theorem discover_ok {paths files : List String}
    (found : (discover w filter paths).files = .ok files) :
    (∀ file ∈ files, ∃ path ∈ paths, file ∈ candidates w filter path) ∧
      files.Pairwise fun a b => Path.compare a b = .lt := by
  rw [discover_of_opens filter (opens_of_discover found)] at found
  cases found
  exact ⟨fun _ member => List.mem_flatMap.1 (mem_of_mem_inOrder member), pairwise_inOrder _⟩

/-- All that is discovered in a world that can be is there. -/
theorem resolve_of_discover (sound : w.Sound) {paths files : List String}
    (found : (discover w filter paths).files = .ok files) {file : String} (member : file ∈ files) :
    ∃ place bytes, w.resolve file = .ok (place, .file bytes) := by
  obtain ⟨path, -, member⟩ := (discover_ok found).1 file member
  obtain ⟨⟨all, walked, member⟩, -⟩ := mem_candidates_iff.1 member
  obtain ⟨names, place, bytes, -, -, reached⟩ := mem_filesOf sound walked member
  exact ⟨place, bytes, reached⟩

end Patrol.Walk
