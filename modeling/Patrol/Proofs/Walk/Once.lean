import Mathlib.Data.List.Pairwise
import Patrol.Proofs.Check.Run

/-! When files are found twice. Files that are found are told apart by the parts of their paths, and
a path may begin with the directory at hand or not. -/
namespace Patrol.Walk
open Patrol.Tree

variable {w : World} {filter : Filter}

/-- Whether a path leads down from the directory at hand. -/
structure LeadsDown (path : String) : Prop where
  relative : Path.isAbsolute path = false
  downwards : ".." ∉ Path.steps path

/-- The place to which a path leads. -/
def place? (w : World) (path : String) : Option Place := (w.resolve path).toOption.map (·.1)

theorem place?_of_leadsDown (linkless : w.top.Linkless) {path : String} (down : LeadsDown path)
    {place : Place} {e : Entry} (reached : w.resolve path = .ok (place, e)) :
    place? w path = some (w.here ++ Path.names path) := by
  obtain ⟨-, leads⟩ := World.resolve_ok_iff.1 reached
  have names : (Route.ofPath path).allSteps.filter (· != ".") = Path.names path := by
    rw [Route.allSteps]
    split <;> simp [Route.ofPath, Path.names]
  have downwards : ".." ∉ (Route.ofPath path).allSteps := by
    rw [Route.allSteps]
    split <;> simpa [Route.ofPath] using down.downwards
  have start : (Route.ofPath path).start w.here = w.here := by
    simp [Route.start, Route.ofPath, down.relative]
  rw [place?, reached, ← names, ← start]
  exact congrArg some (leads.place_eq linkless downwards)

/-- A file that is found below a path leads down as the path does, begins as it does, and stands
where its names say. -/
theorem LeadsDown.of_candidate (sound : w.Sound) (linkless : w.top.Linkless) {path file : String}
    (down : LeadsDown path) (member : file ∈ candidates w filter path) :
    LeadsDown file ∧ Path.startsHere file = Path.startsHere path ∧
      place? w file = some (w.here ++ Path.names file) := by
  obtain ⟨⟨all, walked, member⟩, -⟩ := mem_candidates_iff.1 member
  obtain ⟨start, entry, begun, -, -⟩ := filesOf_ok_iff.1 walked
  obtain ⟨names, place, bytes, rfl, valid, reached⟩ := mem_filesOf sound walked member
  have steps := Path.steps_joinAll valid path
  have downFile : LeadsDown (Path.joinAll path names) := by
    refine ⟨(Path.isAbsolute_joinAll valid path).trans down.relative, ?_⟩
    rw [steps, List.mem_append, not_or]
    exact ⟨down.downwards, fun up => (valid _ up).notUp rfl⟩
  have some : Path.steps path ≠ [] := by
    intro none
    have empty : (Route.ofPath path).isEmpty = true := by
      simp [Route.isEmpty, Route.ofPath, down.relative, none]
    rw [(World.resolve_ok_iff.1 begun).1] at empty
    cases empty
  exact ⟨downFile, Path.startsHere_of_steps_append some steps,
    place?_of_leadsDown linkless downFile reached⟩

/-- Whether no file is found both below a path that begins with the directory at hand and below one
that does not. -/
def Apart (w : World) (filter : Filter) (paths : List String) : Prop :=
  ∀ p ∈ paths, Path.startsHere p = true → ∀ q ∈ paths, Path.startsHere q = false →
    ∀ a ∈ candidates w filter p, ∀ b ∈ candidates w filter q, place? w a ≠ place? w b

/-- Whether no two files of a list are the same file of the tree. -/
def Distinct (w : World) (files : List String) : Prop :=
  files.Pairwise fun a b => place? w a ≠ place? w b

/-- What is known about every file that is found. -/
theorem LeadsDown.of_found (sound : w.Sound) (linkless : w.top.Linkless) {paths : List String}
    (down : ∀ p ∈ paths, LeadsDown p) {file : String}
    (member : file ∈ paths.flatMap (candidates w filter)) :
    LeadsDown file ∧ place? w file = some (w.here ++ Path.names file) ∧
      ∃ p ∈ paths, file ∈ candidates w filter p ∧ Path.startsHere file = Path.startsHere p := by
  obtain ⟨p, hp, member⟩ := List.mem_flatMap.1 member
  obtain ⟨downFile, begins, place⟩ := (down p hp).of_candidate sound linkless member
  exact ⟨downFile, place, p, hp, member, begins⟩

/-- Every file that is found is kept in a spelling that begins alike and leads to the same place. -/
theorem LeadsDown.exists_kept (sound : w.Sound) (linkless : w.top.Linkless) {paths : List String}
    (down : ∀ p ∈ paths, LeadsDown p) {file : String}
    (member : file ∈ paths.flatMap (candidates w filter)) :
    ∃ kept ∈ inOrder (paths.flatMap (candidates w filter)),
      Path.startsHere kept = Path.startsHere file ∧ place? w kept = place? w file := by
  obtain ⟨kept, there, same⟩ := exists_mem_inOrder member
  obtain ⟨downFile, place, -⟩ := of_found sound linkless down member
  obtain ⟨downKept, placeKept, -⟩ := of_found sound linkless down (mem_of_mem_inOrder there)
  obtain ⟨begins, names⟩ := (Path.parts_eq_iff downKept.relative downFile.relative).1 same
  exact ⟨kept, there, begins, by rw [place, placeKept, names]⟩

theorem distinct_inOrder_iff (sound : w.Sound) (linkless : w.top.Linkless) {paths : List String}
    (down : ∀ p ∈ paths, LeadsDown p) :
    Distinct w (inOrder (paths.flatMap (candidates w filter))) ↔ Apart w filter paths := by
  constructor
  · intro distinct p hp hereP q hq hereQ a ha b hb same
    obtain ⟨-, beginsA, -⟩ := (down p hp).of_candidate sound linkless ha
    obtain ⟨-, beginsB, -⟩ := (down q hq).of_candidate sound linkless hb
    obtain ⟨a', keptA, alikeA, placeA⟩ :=
      LeadsDown.exists_kept sound linkless down (List.mem_flatMap.2 ⟨p, hp, ha⟩)
    obtain ⟨b', keptB, alikeB, placeB⟩ :=
      LeadsDown.exists_kept sound linkless down (List.mem_flatMap.2 ⟨q, hq, hb⟩)
    have different : a' ≠ b' := by
      rintro rfl
      rw [alikeA, beginsA, hereP] at alikeB
      rw [beginsB, hereQ] at alikeB
      cases alikeB
    have symm : Std.Symm fun a b => place? w a ≠ place? w b := ⟨fun _ _ => Ne.symm⟩
    exact distinct.forall keptA keptB different (by rw [placeA, placeB, same])
  · intro apart
    refine List.Pairwise.imp_of_mem ?_ (pairwise_inOrder (paths.flatMap (candidates w filter)))
    intro a b ha hb before same
    obtain ⟨downA, placeA, p, hp, memberA, beginsA⟩ :=
      LeadsDown.of_found sound linkless down (mem_of_mem_inOrder ha)
    obtain ⟨downB, placeB, q, hq, memberB, beginsB⟩ :=
      LeadsDown.of_found sound linkless down (mem_of_mem_inOrder hb)
    have names : Path.names a = Path.names b := by
      rw [placeA, placeB] at same
      exact List.append_cancel_left (Option.some.inj same)
    -- equal places and names leave only the first part to tell the two paths apart
    have different : Path.startsHere a ≠ Path.startsHere b := by
      intro alike
      have equal := (Path.parts_eq_iff downA.relative downB.relative).2 ⟨alike, names⟩
      rw [Path.compare_eq_iff.2 equal] at before
      cases before
    rw [beginsA, beginsB] at different
    cases hereP : Path.startsHere p with
    | true =>
      have hereQ : Path.startsHere q = false := by simpa [hereP] using different.symm
      exact apart p hp hereP q hq hereQ a memberA b memberB same
    | false =>
      have hereQ : Path.startsHere q = true := by simpa [hereP] using different.symm
      exact apart q hq hereQ p hp hereP b memberB a memberA same.symm

end Patrol.Walk
