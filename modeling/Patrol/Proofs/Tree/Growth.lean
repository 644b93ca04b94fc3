import Patrol.Proofs.Tree.Resolve
import Patrol.Proofs.Tree.Standing

/-! Trees that grow. What was there still is there, though what is in files may have changed, so that
ways lead where they led before. -/
namespace Patrol.Tree
variable {top top' : Folder}

/-! ## What stands at the end of a way -/

namespace Leads
variable {links : Nat} {place q : Place} {steps : List String} {e : Entry}

theorem kind?_eq (leads : Leads top links place steps q e) : top.kind? q = some e.kind := by
  induction leads with
  | arrive there => exact Folder.kind?_eq_directory_iff.2 ⟨_, there⟩
  | file _ found => exact Folder.kind?_snoc_eq_some found
  | here _ ih | up _ ih | enter _ _ _ ih | link _ _ _ ih => exact ih

end Leads

/-! ## Growth -/

/-- Whether all that was there is there still: files as files, and all else as it was. -/
structure Grows (top top' : Folder) : Prop where
  directory : ∀ q, top.kind? q = some .directory → top'.kind? q = some .directory
  link : ∀ q target, top.kind? q = some (.link target) → top'.kind? q = some (.link target)
  file : ∀ q bytes, top.kind? q = some (.file bytes) → ∃ now, top'.kind? q = some (.file now)

namespace Grows
variable {links : Nat} {place q : Place} {steps : List String} {e : Entry}

theorem of_kept (kept : ∀ q kind, top.kind? q = some kind → top'.kind? q = some kind) :
    Grows top top' :=
  ⟨fun q => kept q _, fun q _ => kept q _, fun q bytes there => ⟨bytes, kept q _ there⟩⟩

/-- A way through the old tree is one through the new tree, and leads to the same place. -/
theorem leads (grows : Grows top top') (way : Leads top links place steps q e) :
    ∃ e', Leads top' links place steps q e' := by
  induction way with
  | @arrive _ place inner there =>
    have stands := grows.directory place (Folder.kind?_eq_directory_iff.2 ⟨inner, there⟩)
    obtain ⟨now, there⟩ := Folder.kind?_eq_directory_iff.1 stands
    exact ⟨_, .arrive there⟩
  | here _ ih =>
    obtain ⟨e', way⟩ := ih
    exact ⟨e', .here way⟩
  | up _ ih =>
    obtain ⟨e', way⟩ := ih
    exact ⟨e', .up way⟩
  | @enter _ place _ step _ _ inner valid found _ ih =>
    obtain ⟨e', way⟩ := ih
    have stands := grows.directory _ (Folder.kind?_snoc_eq_some found)
    obtain ⟨entry, found, kind⟩ := Folder.exists_entryAt? stands
    obtain ⟨now, rfl⟩ := Entry.kind_eq_directory_iff.1 kind
    exact ⟨e', .enter valid found way⟩
  | file valid found =>
    obtain ⟨now, stands⟩ := grows.file _ _ (Folder.kind?_snoc_eq_some found)
    exact ⟨_, .file valid (Folder.entryAt?_file_iff.2 stands)⟩
  | link valid found _ ih =>
    obtain ⟨e', way⟩ := ih
    have stands := grows.link _ _ (Folder.kind?_snoc_eq_some found)
    exact ⟨e', .link valid (Folder.entryAt?_link_iff.2 stands) way⟩

end Grows

/-- A way through a tree that has but one file more leads to that file, or was there before. -/
theorem Leads.of_fileMore {links : Nat} {place q spot : Place} {steps : List String} {e : Entry}
    (old : ∀ r kind, top'.kind? r = some kind → r ≠ spot → top.kind? r = some kind)
    {bytes : List UInt8} (new : top'.kind? spot = some (.file bytes))
    (way : Leads top' links place steps q e) :
    q = spot ∨ ∃ e', Leads top links place steps q e' := by
  have before {r : Place} {kind : Kind} (there : top'.kind? r = some kind)
      (other : ∀ own, kind ≠ .file own) : top.kind? r = some kind := by
    refine old r kind there ?_
    rintro rfl
    rw [new] at there
    exact other bytes (Option.some.inj there).symm
  induction way with
  | @arrive _ place inner there =>
    have stands := before (Folder.kind?_eq_directory_iff.2 ⟨inner, there⟩) nofun
    obtain ⟨now, there⟩ := Folder.kind?_eq_directory_iff.1 stands
    exact .inr ⟨_, .arrive there⟩
  | here _ ih => exact ih.imp_right fun ⟨e', way⟩ => ⟨e', .here way⟩
  | up _ ih => exact ih.imp_right fun ⟨e', way⟩ => ⟨e', .up way⟩
  | enter valid found _ ih =>
    refine ih.imp_right fun ⟨e', way⟩ => ?_
    obtain ⟨entry, found, kind⟩ := Folder.exists_entryAt?
      (before (Folder.kind?_snoc_eq_some found) nofun)
    obtain ⟨now, rfl⟩ := Entry.kind_eq_directory_iff.1 kind
    exact ⟨e', .enter valid found way⟩
  | @file _ place step own valid found =>
    refine Classical.or_iff_not_imp_left.2 fun other => ?_
    have stands := old _ _ (Folder.kind?_snoc_eq_some found) other
    exact ⟨_, .file valid (Folder.entryAt?_file_iff.2 stands)⟩
  | link valid found _ ih =>
    refine ih.imp_right fun ⟨e', way⟩ => ⟨e', .link valid (Folder.entryAt?_link_iff.2 ?_) way⟩
    exact before (Folder.kind?_snoc_eq_some found) nofun

/-! ## Worlds -/

namespace World
variable {w w' : World} {r : Route} {path : String} {place : Place} {e : Entry}

theorem resolveRoute_ok_iff :
    w.resolveRoute r = .ok (place, e) ↔
      r.isEmpty = false ∧ Leads w.top maxLinks (r.start w.here) r.allSteps place e := by
  rw [← follow_ok_iff, resolveRoute]
  split
  · next empty => simp [empty]
  · next some => simp [some]

/-- What a path leads to stands where it leads. -/
theorem kind?_of_resolveRoute (reached : w.resolveRoute r = .ok (place, e)) :
    w.top.kind? place = some e.kind :=
  (resolveRoute_ok_iff.1 reached).2.kind?_eq

/-- In a tree that has grown, paths lead where they led. -/
theorem resolveRoute_of_grows (grows : Grows w.top w'.top) (same : w'.here = w.here)
    (reached : w.resolveRoute r = .ok (place, e)) : ∃ e', w'.resolveRoute r = .ok (place, e') := by
  obtain ⟨some, way⟩ := resolveRoute_ok_iff.1 reached
  obtain ⟨e', way⟩ := grows.leads way
  exact ⟨e', resolveRoute_ok_iff.2 ⟨some, same ▸ way⟩⟩

theorem isOk_resolveRoute_of_grows (grows : Grows w.top w'.top) (same : w'.here = w.here)
    (reached : (w.resolveRoute r).isOk = true) : (w'.resolveRoute r).isOk = true := by
  cases found : w.resolveRoute r with
  | error e => rw [found] at reached; cases reached
  | ok x =>
    obtain ⟨e', reached⟩ := resolveRoute_of_grows grows same found
    rw [reached]
    rfl

end World
end Patrol.Tree
