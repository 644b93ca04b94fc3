import Patrol.Proofs.Tree.Write

/-! Trees without links. In such a tree a path leads, if it leads anywhere, to the place that its steps
spell out, and a file is written there. -/
namespace Patrol.Tree

/-- The place that steps spell out from a place, whatever is there. -/
def spelled : Place → List String → Place
  | place, [] => place
  | place, step :: rest =>
    if step = "." then spelled place rest
    else if step = ".." then spelled place.dropLast rest
    else spelled (place ++ [step]) rest

theorem spelled_append (place : Place) (front back : List String) :
    spelled place (front ++ back) = spelled (spelled place front) back := by
  induction front generalizing place with
  | nil => rfl
  | cons step front ih => simp only [List.cons_append, spelled, ih, apply_ite (spelled · back)]

theorem spelled_name {name : String} (valid : IsNameStep name) (place : Place) :
    spelled place [name] = place ++ [name] := by
  simp [spelled, valid.1, valid.2.1]

theorem Route.spelled_allSteps (r : Route) (place : Place) :
    spelled place r.allSteps = spelled place r.steps := by
  rw [allSteps]
  split
  · rw [spelled_append]
    rfl
  · rfl

/-- The place that a path spells out. -/
def World.spot (w : World) (path : String) : Place :=
  spelled ((Route.ofPath path).start w.here) (Route.ofPath path).steps

/-- Whether no link stands anywhere. -/
def NoLinks (top : Folder) : Prop := ∀ q target, top.kind? q ≠ some (.link target)

theorem Folder.Linkless.noLinks {top : Folder} (linkless : top.Linkless) : NoLinks top := by
  intro q target stands
  obtain rfl | ⟨place, name, rfl⟩ := List.eq_nil_or_concat q
  · cases stands
  · rw [List.concat_eq_append] at stands
    obtain ⟨inner, there, found⟩ := Option.bind_eq_some_iff.1 (Folder.entryAt?_link_iff.2 stands)
    exact ((linkless.of_at? there).of_find? found).1 target rfl

namespace NoLinks
variable {top : Folder} {links : Nat} {place q spot : Place} {steps : List String} {e : Entry}

theorem eq_spelled (noLinks : NoLinks top) (leads : Leads top links place steps q e) :
    q = spelled place steps := by
  induction leads with
  | arrive => rfl
  | here _ ih => simpa [spelled] using ih
  | up _ ih => simpa [spelled] using ih
  | enter valid _ _ ih => simpa [spelled, valid.1, valid.2.1] using ih
  | file valid => exact (spelled_name valid _).symm
  | link _ found => exact absurd (Folder.entryAt?_link_iff.1 found) (noLinks _ _)

theorem approaches (noLinks : NoLinks top) {r : Route} {name : String}
    (approaches : Approaches top place r spot name) :
    spot ++ [name] = spelled (r.start place) r.steps := by
  obtain ⟨valid, way, inner, steps, leads⟩ := approaches
  rw [steps, spelled_append, ← noLinks.eq_spelled leads, spelled_name valid]

theorem of_adds {w w' : World} {made : List Place} (noLinks : NoLinks w.top)
    (adds : Adds w w' made) : NoLinks w'.top := by
  intro q target stands
  rw [adds.kinds] at stands
  split at stands
  · cases stands
  · exact noLinks q target stands

theorem of_written {top' : Folder} {bytes : List UInt8} (noLinks : NoLinks top)
    (kinds : ∀ q, top'.kind? q = if q = spot then some (.file bytes) else top.kind? q) :
    NoLinks top' := by
  intro q target stands
  rw [kinds] at stands
  split at stands
  · cases stands
  · exact noLinks q target stands

end NoLinks

/-- A tree in which a file was written has grown. -/
theorem Grows.of_written {top top' : Folder} {spot : Place} {bytes : List UInt8}
    (takes : TakesFile top spot)
    (kinds : ∀ q, top'.kind? q = if q = spot then some (.file bytes) else top.kind? q) :
    Grows top top' := by
  have kept {q : Place} {kind : Kind} (there : top.kind? q = some kind)
      (other : ∀ own, kind ≠ .file own) : top'.kind? q = some kind := by
    rw [kinds, if_neg, there]
    rintro rfl
    obtain ⟨own, file⟩ := takes kind there
    exact other own file
  refine ⟨fun q there => kept there nofun, fun q target there => kept there nofun,
    fun q own there => ?_⟩
  by_cases same : q = spot
  · exact ⟨bytes, by rw [kinds, if_pos same]⟩
  · exact ⟨own, by rw [kinds, if_neg same, there]⟩

namespace World
variable {w w' : World} {path : String}

theorem eq_spot_of_resolve (noLinks : NoLinks w.top) {q : Place} {e : Entry}
    (reached : w.resolve path = .ok (q, e)) : q = w.spot path := by
  rw [noLinks.eq_spelled (resolveRoute_ok_iff.1 reached).2, Route.spelled_allSteps]
  rfl

/-- Whether a file stands where a path leads. -/
def HasFile (w : World) (path : String) (bytes : List UInt8) : Prop :=
  w.resolve path = .ok (w.spot path, .file bytes)

namespace HasFile
variable {bytes : List UInt8}

theorem holds (file : HasFile w path bytes) : w.holds path = true := by
  rw [World.holds, file]
  rfl

theorem read (file : HasFile w path bytes) : w.read path = .ok bytes := by
  rw [World.read, file]
  rfl

theorem kind?_spot (file : HasFile w path bytes) : w.top.kind? (w.spot path) = some (.file bytes) :=
  kind?_of_resolveRoute file

end HasFile

/-- Whether there is a file now where a path leads, and nothing else has changed. -/
structure Wrote (w w' : World) (path : String) (bytes : List UInt8) : Prop where
  takes : TakesFile w.top (w.spot path)
  here : w'.here = w.here
  kinds : ∀ q, w'.top.kind? q = if q = w.spot path then some (.file bytes) else w.top.kind? q
  file : HasFile w' path bytes

theorem spot_of_here (here : w'.here = w.here) : w'.spot path = w.spot path := by
  rw [spot, spot, here]

namespace Wrote
variable {w'' : World} {bytes more : List UInt8}

theorem grows (wrote : Wrote w w' path bytes) : Grows w.top w'.top :=
  .of_written wrote.takes wrote.kinds

/-- Where there is a file, doing nothing is like writing what is in it. -/
theorem refl (file : HasFile w path bytes) : Wrote w w path bytes where
  takes kind there := by
    rw [file.kind?_spot] at there
    exact ⟨bytes, (Option.some.inj there).symm⟩
  here := rfl
  kinds q := by
    split
    · next own => rw [own, file.kind?_spot]
    · rfl
  file := file

theorem trans (first : Wrote w w' path bytes) (next : Wrote w' w'' path more) :
    Wrote w w'' path more where
  takes := first.takes
  here := next.here.trans first.here
  kinds q := by
    rw [next.kinds, spot_of_here first.here]
    split
    · rfl
    · next other => rw [first.kinds, if_neg other]
  file := next.file

end Wrote

theorem wrote_of_write (noLinks : NoLinks w.top) {bytes : List UInt8}
    (done : w.write path bytes = .ok w') : Wrote w w' path bytes := by
  obtain ⟨⟨spot, name⟩, found, put⟩ := bind_eq_ok_iff.1 done
  obtain rfl := (Except.ok.inj put).symm
  obtain ⟨open_, approaches, takes⟩ | ⟨p, last, target, -, -, link, -⟩ := fileSpot_cases found
  · have same : spot ++ [name] = w.spot path := noLinks.approaches approaches
    have room : w.top.kind? (spot ++ [name]) ≠ some .directory := fun stands => by
      obtain ⟨bytes, file⟩ := takes _ stands
      cases file
    have kinds := put_spec (Entry.isLeaf_file bytes) approaches.directory room
    have still := approaches.of_grows (.of_written takes kinds)
    have stands := (kinds (spot ++ [name])).trans (if_pos rfl)
    obtain ⟨e, kind, reached⟩ :=
      resolveRoute_of_approaches (w := w.put spot name (.file bytes)) open_ still stands nofun
    obtain rfl := Entry.kind_eq_file_iff.1 kind
    rw [same] at takes kinds reached
    exact ⟨takes, rfl, kinds, reached⟩
  · exact absurd link (noLinks _ _)

end World
end Patrol.Tree
