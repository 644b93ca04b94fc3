import Patrol.Proofs.Tree.Spelled

/-! Trees with one more file. Ways lead where they led, and new ones lead to that file only. -/
namespace Patrol.Tree

namespace Folder
variable {top inner : Folder} {place : Place} {name : String} {entry : Entry}

/-- A directory with something new below it has it at the place that is left. -/
theorem at?_putAt_above (there : top.at? place = some inner) (below : Place) :
    (top.putAt name entry (place ++ below)).at? place = some (inner.putAt name entry below) := by
  induction place generalizing top with
  | nil => cases there; rfl
  | cons n place ih =>
    obtain ⟨next, found, there⟩ := at?_cons_iff.1 there
    rw [List.cons_append, putAt, found, at?_cons_iff]
    exact ⟨_, by rw [find?_put, if_pos rfl], ih there⟩

/-- Directories that are not above something new are as they were. -/
theorem at?_putAt_apart {spot : Place} (apart : ¬place <+: spot)
    (free : top.entryAt? spot name = none) {bytes : List UInt8} :
    (top.putAt name (.file bytes) spot).at? place = top.at? place := by
  induction place generalizing top spot with
  | nil => exact absurd (List.nil_prefix) apart
  | cons n place ih =>
    cases spot with
    | nil =>
      have none : top.find? name = none := free
      by_cases same : n = name <;> simp [putAt, at?, find?_put, same, none]
    | cons m spot =>
      cases found : top.find? m with
      | none => simp only [putAt, found]
      | some entry =>
        cases entry with
        | file _ | link _ => simp only [putAt, found]
        | directory next =>
          have inside : next.entryAt? spot name = none := by
            rw [← free, entryAt?, entryAt?, at?, found]
          by_cases same : n = m
          · subst same
            have deeper := ih (fun above => apart (List.cons_prefix_cons.2 ⟨rfl, above⟩)) inside
            simpa [putAt, at?, find?_put, found] using deeper
          · simp [putAt, at?, find?_put, found, same]

end Folder

/-- Whether a tree has one more file than another, in a directory that was there. -/
structure AddsFile (w w' : World) (place : Place) (name : String) (bytes : List UInt8) : Prop where
  there : w.top.kind? place = some .directory
  free : w.top.kind? (place ++ [name]) = none
  put : w' = w.put place name (.file bytes)

namespace AddsFile
variable {w w' : World} {place p q : Place} {name : String} {bytes : List UInt8} {links : Nat}
  {steps : List String} {e : Entry}

theorem here (adds : AddsFile w w' place name bytes) : w'.here = w.here := by
  rw [adds.put]
  rfl

theorem kinds (adds : AddsFile w w' place name bytes) (q : Place) :
    w'.top.kind? q = if q = place ++ [name] then some (.file bytes) else w.top.kind? q := by
  have room : w.top.kind? (place ++ [name]) ≠ some .directory := by simp [adds.free]
  rw [adds.put]
  exact World.put_spec (Entry.isLeaf_file bytes) adds.there room q

theorem grows (adds : AddsFile w w' place name bytes) : Grows w.top w'.top :=
  .of_written (fun kind there => by rw [adds.free] at there; cases there) adds.kinds

/-- What a way led to is there still. -/
theorem leads (adds : AddsFile w w' place name bytes) (way : Leads w.top links p steps q e) :
    ∃ e', Leads w'.top links p steps q e' ∧ e'.kind = e.kind := by
  obtain ⟨e', still⟩ := adds.grows.leads way
  have old := way.kind?_eq
  have now := still.kind?_eq
  rw [adds.kinds, if_neg, old] at now
  · exact ⟨e', still, (Option.some.inj now).symm⟩
  · rintro rfl
    rw [adds.free] at old
    cases old

/-- Where a way leads now, it led before, unless it leads to the new file. -/
theorem led (adds : AddsFile w w' place name bytes) (way : Leads w'.top links p steps q e)
    (other : q ≠ place ++ [name]) : ∃ e', Leads w.top links p steps q e' ∧ e'.kind = e.kind := by
  have old (r : Place) (kind : Kind) (stands : w'.top.kind? r = some kind)
      (other : r ≠ place ++ [name]) : w.top.kind? r = some kind := by
    rwa [adds.kinds, if_neg other] at stands
  have new : w'.top.kind? (place ++ [name]) = some (.file bytes) :=
    (adds.kinds _).trans (if_pos rfl)
  obtain ⟨e', before⟩ := (way.of_fileMore old new).resolve_left other
  have kind := old q e.kind way.kind?_eq other
  rw [before.kind?_eq] at kind
  exact ⟨e', before, Option.some.inj kind⟩

theorem resolve (adds : AddsFile w w' place name bytes) {path : String}
    (reached : w.resolve path = .ok (q, e)) :
    ∃ e', w'.resolve path = .ok (q, e') ∧ e'.kind = e.kind := by
  obtain ⟨some, way⟩ := World.resolveRoute_ok_iff.1 reached
  obtain ⟨e', way, kind⟩ := adds.leads way
  exact ⟨e', World.resolveRoute_ok_iff.2 ⟨some, adds.here ▸ way⟩, kind⟩

/-- What is in files is in them still. -/
theorem read (adds : AddsFile w w' place name bytes) {path : String} {own : List UInt8}
    (reached : w.resolve path = .ok (q, .file own)) : w'.read path = .ok own := by
  obtain ⟨e', still, kind⟩ := adds.resolve reached
  rw [Entry.kind_eq_file_iff.1 kind] at still
  exact World.read_of_resolve still

/-- Paths to the new file read what is in it. -/
theorem read_new (adds : AddsFile w w' place name bytes) {path : String}
    (reached : (w'.resolve path).toOption.map (·.1) = some (place ++ [name])) :
    w'.read path = .ok bytes := by
  cases found : w'.resolve path with
  | error cause => rw [found] at reached; cases reached
  | ok x =>
    obtain ⟨q, e⟩ := x
    rw [found] at reached
    obtain rfl := Option.some.inj reached
    have stands := World.kind?_of_resolveRoute found
    rw [adds.kinds, if_pos rfl] at stands
    obtain rfl := Entry.kind_eq_file_iff.1 (Option.some.inj stands).symm
    exact World.read_of_resolve found

/-- What a directory is now to which a path leads. -/
theorem resolve_directory (adds : AddsFile w w' place name bytes) {path : String} {inner : Folder}
    (reached : w.resolve path = .ok (q, .directory inner)) :
    (¬q <+: place ∧ w'.resolve path = .ok (q, .directory inner)) ∨
      ∃ below, place = q ++ below ∧ inner.entryAt? below name = none ∧
        (∃ own, inner.at? below = some own) ∧
        w'.resolve path = .ok (q, .directory (inner.putAt name (.file bytes) below)) := by
  obtain ⟨e', still, kind⟩ := adds.resolve reached
  obtain ⟨now, rfl⟩ := Entry.kind_eq_directory_iff.1 kind
  have was := (World.resolve_ok_iff.1 reached).2.at?_of_directory rfl
  have is_ := (World.resolve_ok_iff.1 still).2.at?_of_directory rfl
  have free : w.top.entryAt? place name = none := by
    have none := adds.free
    rwa [Folder.kind?_snoc, Option.map_eq_none_iff] at none
  have put : w'.top = w.top.putAt name (.file bytes) place := by rw [adds.put]; rfl
  rw [put] at is_
  by_cases above : q <+: place
  · obtain ⟨below, rfl⟩ := above
    obtain ⟨own, there⟩ := Folder.kind?_eq_directory_iff.1 adds.there
    rw [Folder.at?_append, was, Option.bind_some] at there
    rw [Folder.at?_putAt_above was below] at is_
    rw [Folder.entryAt?, Folder.at?_append, was, Option.bind_some] at free
    exact .inr ⟨below, rfl, free, ⟨own, there⟩, Option.some.inj is_ ▸ still⟩
  · rw [Folder.at?_putAt_apart above free, was] at is_
    exact .inl ⟨above, Option.some.inj is_ ▸ still⟩

end AddsFile
end Patrol.Tree
