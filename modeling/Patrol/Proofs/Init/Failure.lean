import Patrol.Proofs.Init.Run

/-! Runs that fail. Nothing that was there is changed or removed, but directories above the path that
were missing may have been made before the file turned out not to be writable. -/
namespace Patrol.Init
open Patrol.Tree

variable {w w' : World} {path : String} {force : Bool} {e : Error}

/-- A run that fails where the path leads somewhere does nothing; elsewhere it makes what is missing
above the path, at the most. -/
theorem run_error_cases (failed : run w path force = (w', .error e)) :
    (w.holds path = true ∧ w' = w) ∨
      (w' = (makeParent w path).1 ∧ ∀ directory, e ≠ .isDirectory directory) := by
  generalize result : (Except.error e : Except Error Outcome) = r at failed
  cases Ends.of_run failed with
  | directory found => exact .inl ⟨World.holds_of_hasDirectory found, rfl⟩
  | notOverwritten _ held => exact .inl ⟨held, rfl⟩
  | noParent _ made | notCreated _ made =>
    cases result
    exact .inr ⟨by rw [made], nofun⟩
  | skipped | overwritten | created => cases result

/-- **What a failed run leaves behind.** All that was there is as it was, and what is new are
directories: each of them is above the path, and the way to it led nowhere before. Nothing is new
exactly if no directory above the path could be made; so it is where the path leads to a directory. -/
theorem failed_adds_ancestors (failed : run w path force = (w', .error e)) :
    w'.here = w.here ∧
      (∃ made : List Place,
        (∀ q, w'.top.kind? q = if q ∈ made then some .directory else w.top.kind? q) ∧
        ∀ q ∈ made, w.top.kind? q = none ∧ ∃ r, IsAncestor path r ∧ Opens w w' r q) ∧
      (w' = w ↔ ∀ r, IsAncestor path r → (w.makeDirectory r).isOk = false) ∧
      ∀ directory, e = .isDirectory directory → w' = w := by
  obtain ⟨held, rfl⟩ | ⟨rfl, other⟩ := run_error_cases failed
  · exact ⟨rfl, ⟨[], by simp, nofun⟩,
      iff_of_true rfl fun r above => World.makeDirectory_of_holds held above, fun _ _ => rfl⟩
  · obtain ⟨made, adds, opens, unchanged, idle⟩ := makeParent_spec w path
    refine ⟨adds.here, ⟨made, adds.kinds, fun q member => ⟨adds.free q member, opens q member⟩⟩, ?_,
      fun directory same => absurd same (other directory)⟩
    rw [← idle]
    refine ⟨fun same => ?_, unchanged⟩
    -- a directory that was made was not there before
    refine List.eq_nil_iff_forall_not_mem.2 fun q member => ?_
    have now := adds.kinds q
    rw [same, if_pos member, adds.free q member] at now
    cases now

/-- A working directory with nothing in it. -/
def bare : World := ⟨.directory "work" .empty .empty, ["work"]⟩

/-- The directory above the path is made, and then no file can be written under a name with a slash. -/
theorem failed_adds_ancestors_bare :
    ∃ w', run bare "new/x/" false = (w', .error (.unwritable .isADirectory)) ∧
      w'.here = bare.here ∧
      (∃ made : List Place,
        (∀ q, w'.top.kind? q = if q ∈ made then some .directory else bare.top.kind? q) ∧
        ∀ q ∈ made, bare.top.kind? q = none ∧ ∃ r, IsAncestor "new/x/" r ∧ Opens bare w' r q) ∧
      (w' = bare ↔ ∀ r, IsAncestor "new/x/" r → (bare.makeDirectory r).isOk = false) := by
  have error : (run bare "new/x/" false).2 = .error (.unwritable .isADirectory) := by decide +kernel
  have failed : run bare "new/x/" false =
      ((run bare "new/x/" false).1, .error (.unwritable .isADirectory)) := by rw [← error]
  obtain ⟨here, made, unchanged, -⟩ := failed_adds_ancestors failed
  exact ⟨_, failed, here, made, unchanged⟩

/-- A run that fails and leaves a directory behind. -/
theorem bare_left_with_directory :
    (run bare "new/x/" false).2 = .error (.unwritable .isADirectory) ∧
      bare.top.kind? ["work", "new"] = none ∧
      (run bare "new/x/" false).1.top.kind? ["work", "new"] = some .directory ∧
      (run bare "new/x/" false).1 ≠ bare := by
  have before : bare.top.kind? ["work", "new"] = none := by decide +kernel
  have after : (run bare "new/x/" false).1.top.kind? ["work", "new"] = some .directory := by decide +kernel
  refine ⟨by decide +kernel, before, after, fun same => ?_⟩
  rw [same, before] at after
  cases after

end Patrol.Init
