import Patrol.Init
import Patrol.Proofs.Check.Alike
import Patrol.Proofs.Tree.Write

/-! What a run can do: the directories above a path, what becomes of a tree when the missing ones are
made, and the ways in which a run ends. -/
namespace Patrol
open Patrol.Tree

namespace Tree

/-! ## What is above a path -/

theorem Route.stepOf_partOf (step : String) : Route.stepOf (Path.partOf step) = some step := by
  rw [Path.partOf]
  split
  · next here => simp_all [Route.stepOf]
  · split
    · next up => simp_all [Route.stepOf]
    · rfl

theorem Path.filterMap_stepOf (steps : List String) :
    (steps.map partOf).filterMap Route.stepOf = steps := by
  have each : Route.stepOf ∘ partOf = some := funext Route.stepOf_partOf
  rw [List.filterMap_map, each, List.filterMap_some]

theorem Path.parts_of_absolute {path : String} (absolute : isAbsolute path = true) :
    parts path = .top :: (names path).map partOf := by
  simp [parts, absolute, names, filter_partOf]

/-- What is above a path: its steps that lead somewhere without the last one, and the directory at hand
in front of them if the path begins with it. -/
theorem Path.parent?_spec {path : String} {r : Route} (above : parent? path = some r) :
    r.absolute = isAbsolute path ∧ r.slash = false ∧
      (r.steps = (names path).dropLast ∨ r.steps = "." :: (names path).dropLast) := by
  have route : r = .ofParts (parts path).dropLast := by
    rw [parent?] at above
    split at above
    · cases above
    · cases above
    · exact (Option.some.inj above).symm
  have way : ((names path).map partOf).dropLast.filterMap Route.stepOf = (names path).dropLast := by
    rw [← List.map_dropLast, filterMap_stepOf]
  have first : ((names path).map partOf).dropLast.head? ≠ some .top := by
    rw [← List.map_dropLast]
    cases (names path).dropLast <;> simp [partOf_ne_top]
  subst route
  by_cases none : names path = []
  · cases absolute : isAbsolute path with
    | true => simp [parent?, parts_of_absolute absolute, none] at above
    | false =>
      refine ⟨?_, rfl, .inl ?_⟩ <;> rw [parts_of_relative absolute, none] <;>
        cases startsHere path <;> rfl
  · have more : (names path).map partOf ≠ [] := by simpa using none
    cases absolute : isAbsolute path with
    | true =>
      rw [parts_of_absolute absolute, List.dropLast_cons_of_ne_nil more]
      exact ⟨rfl, rfl, .inl way⟩
    | false =>
      rw [parts_of_relative absolute, List.dropLast_append_of_ne_nil more]
      cases startsHere path with
      | true => exact ⟨rfl, rfl, .inr (congrArg ("." :: ·) way)⟩
      | false => exact ⟨by simpa [Route.ofParts] using first, rfl, .inl way⟩

/-- Whether a route is that of a directory above a path. -/
def IsAncestor (path : String) (r : Route) : Prop :=
  ∃ parent, Path.parent? path = some parent ∧ r.IsOnWay parent

namespace World
variable {w : World} {path : String}

theorem holds_of_hasDirectory (directory : w.hasDirectory path = true) : w.holds path = true := by
  rw [World.hasDirectory] at directory
  rw [World.holds]
  split at directory
  · next reached => rw [reached]; rfl
  · cases directory

/-- Where a path leads, nothing above it is missing. -/
theorem makeDirectory_of_holds (held : w.holds path = true) {r : Route} (above : IsAncestor path r) :
    (w.makeDirectory r).isOk = false := by
  obtain ⟨parent, isParent, onWay⟩ := above
  obtain ⟨absolute, -, steps⟩ := Path.parent?_spec isParent
  cases done : w.makeDirectory r with
  | error e => rfl
  | ok made =>
    obtain ⟨⟨spot, name⟩, found, -⟩ := bind_eq_ok_iff.1 done
    obtain ⟨approaches, free⟩ := directorySpot_eq_ok_iff.1 found
    have nowhere := approaches.follow_of_free free
    obtain ⟨⟨place, e⟩, reached⟩ : ∃ x, w.resolve path = .ok x := by
      cases reached : w.resolve path with
      | ok x => exact ⟨x, rfl⟩
      | error e => rw [holds, reached] at held; cases held
    have reached := follow_of_leads (leads_names reached)
    have start : (Route.ofPath path).start w.here = r.start w.here := by
      rw [Route.start, Route.start, onWay.absolute, absolute]
      rfl
    obtain ⟨more, begins⟩ := onWay.front
    obtain ⟨last, whole⟩ := List.dropLast_prefix (Path.names path)
    have way := nowhere (more ++ last)
    rw [← List.append_assoc, begins] at way
    obtain steps | steps := steps
    · rw [steps, whole, ← start, reached] at way
      cases way
    · rw [steps, List.cons_append, whole, follow_cons, if_pos rfl, ← start, reached] at way
      cases way

/-- Where the directory above a path is there, nothing above the path is missing. -/
theorem makeDirectory_of_onWay {r whole : Route} (open_ : whole.slash = false)
    (there : (w.resolveRoute whole).isOk = true) (onWay : r.IsOnWay whole) :
    (w.makeDirectory r).isOk = false := by
  cases done : w.makeDirectory r with
  | error e => rfl
  | ok made =>
    obtain ⟨⟨spot, name⟩, found, -⟩ := bind_eq_ok_iff.1 done
    obtain ⟨approaches, free⟩ := directorySpot_eq_ok_iff.1 found
    obtain ⟨more, begins⟩ := onWay.front
    have nowhere := approaches.follow_of_free free more
    have start : r.start w.here = whole.start w.here := by simp [Route.start, onWay.absolute]
    have all : whole.allSteps = whole.steps := by simp [Route.allSteps, open_]
    rw [begins, start, ← all] at nowhere
    rw [resolveRoute, nowhere] at there
    split at there <;> cases there

end World
end Tree

namespace Init

/-- What becomes of a tree when the missing directories above a path are made. -/
theorem makeParent_spec (w : World) (path : String) :
    ∃ made, Adds w (makeParent w path).1 made ∧
      (∀ q ∈ made, ∃ r, IsAncestor path r ∧ Opens w (makeParent w path).1 r q) ∧
      (made = [] → (makeParent w path).1 = w) ∧
      (made = [] ↔ ∀ r, IsAncestor path r → (w.makeDirectory r).isOk = false) := by
  rw [makeParent]
  split
  · next none =>
    exact ⟨[], .refl w, nofun, fun _ => rfl,
      iff_of_true rfl fun r ⟨_, above, _⟩ => by rw [none] at above; cases above⟩
  · next parent above =>
    have ancestor_iff (r : Route) : IsAncestor path r ↔ r.IsOnWay parent := by
      simp [IsAncestor, above]
    simp only [ancestor_iff]
    obtain ⟨-, open_, -⟩ := Path.parent?_spec above
    split
    · next done =>
      refine ⟨[], .refl w, nofun, fun _ => rfl, iff_of_true rfl fun r onWay => ?_⟩
      obtain empty | there := Bool.or_eq_true_iff.1 done
      · have none : parent.steps = [] := by simp_all [Route.isEmpty]
        exact absurd (List.prefix_nil.1 (none ▸ onWay.front)) onWay.some
      · exact World.makeDirectory_of_onWay open_ there onWay
    · obtain ⟨made, adds, opens, unchanged, idle⟩ :=
        w.makeDirectories_spec parent.absolute parent.steps.reverse
      have whole : (⟨parent.absolute, parent.steps.reverse.reverse, false⟩ : Route) = parent := by
        rw [List.reverse_reverse, ← open_]
      rw [whole] at opens idle
      exact ⟨made, adds, opens, unchanged, idle⟩

/-- The bytes that are written. -/
def written : List UInt8 := Text.bytesOf document.toList

/-- How a run ends, and what the tree is then. -/
inductive Ends (w : World) (path : String) (force : Bool) : World → Except Error Outcome → Prop where
  | directory (found : w.hasDirectory path = true) :
      Ends w path force w (.error (.isDirectory path))
  | skipped (file : w.hasDirectory path = false) (held : w.holds path = true)
      (kept : force = false) : Ends w path force w (.ok .skipped)
  | overwritten {w' : World} (file : w.hasDirectory path = false) (held : w.holds path = true)
      (forced : force = true) (done : w.write path written = .ok w') :
      Ends w path force w' (.ok .overwritten)
  | notOverwritten {e : Tree.Error} (file : w.hasDirectory path = false)
      (held : w.holds path = true) (forced : force = true) (failed : w.write path written = .error e) :
      Ends w path force w (.error (.unwritable e))
  | noParent {w' : World} {e : Tree.Error} (nothing : w.holds path = false)
      (failed : makeParent w path = (w', some e)) : Ends w path force w' (.error (.unwritable e))
  | created {between w' : World} (nothing : w.holds path = false)
      (made : makeParent w path = (between, none)) (done : between.write path written = .ok w') :
      Ends w path force w' (.ok .created)
  | notCreated {between : World} {e : Tree.Error} (nothing : w.holds path = false)
      (made : makeParent w path = (between, none))
      (failed : between.write path written = .error e) :
      Ends w path force between (.error (.unwritable e))

theorem ends_run (w : World) (path : String) (force : Bool) :
    Ends w path force (run w path force).1 (run w path force).2 := by
  rw [run, ← written]
  split
  · next found => exact .directory found
  · next file =>
    rw [Bool.not_eq_true] at file
    split
    · next held =>
      split
      · next forced =>
        cases done : w.write path written with
        | ok w' => simpa only [done] using .overwritten file held forced done
        | error e => simpa only [done] using .notOverwritten file held forced done
      · next kept => exact .skipped file held (Bool.eq_false_iff.2 kept)
    · next nothing =>
      rw [Bool.not_eq_true] at nothing
      split
      · next failed => exact .noParent nothing failed
      · next between made =>
        cases done : between.write path written with
        | ok w' => simpa only [done] using .created nothing made done
        | error e => simpa only [done] using .notCreated nothing made done

theorem Ends.of_run {w w' : World} {path : String} {force : Bool} {result : Except Error Outcome}
    (ran : run w path force = (w', result)) : Ends w path force w' result := by
  have ends := ends_run w path force
  rwa [ran] at ends

end Init
end Patrol
