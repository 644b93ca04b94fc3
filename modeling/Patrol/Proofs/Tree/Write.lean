import Patrol.Proofs.Results
import Patrol.Proofs.Tree.Growth
import Patrol.Tree.Write

/-! What making files and directories does to a tree. -/
namespace Patrol.Tree
variable {top : Folder}

theorem splitSteps_eq_some_iff {steps way : List String} {last : String} :
    splitSteps steps = some (way, last) ↔ steps = way ++ [last] := by
  rw [splitSteps, Option.map_eq_some_iff]
  constructor
  · rintro ⟨_, ends, same⟩
    obtain ⟨rfl, rfl⟩ := Prod.mk.inj same
    obtain ⟨front, rfl⟩ := List.getLast?_eq_some_iff.1 ends
    simp
  · rintro rfl
    exact ⟨last, by simp, by simp⟩

theorem splitSteps_eq_none_iff {steps : List String} : splitSteps steps = none ↔ steps = [] := by
  rw [splitSteps, Option.map_eq_none_iff, List.getLast?_eq_none_iff]

theorem isName_iff {step : String} : isName step = true ↔ step ≠ "." ∧ step ≠ ".." := by
  simp [isName]

/-- Steps that go on behind a way are followed from where it leads. -/
theorem Leads.follow_append {links : Nat} {place q : Place} {way : List String} {e : Entry}
    (leads : Leads top links place way q e) (directory : e.kind = .directory) :
    ∃ left, ∀ more, follow top links place (way ++ more) = follow top left q more := by
  induction leads with
  | arrive => exact ⟨_, fun _ => rfl⟩
  | file => cases directory
  | here _ ih =>
    obtain ⟨left, ih⟩ := ih directory
    exact ⟨left, fun more => by rw [List.cons_append, follow_cons, if_pos rfl, ih]⟩
  | up _ ih =>
    obtain ⟨left, ih⟩ := ih directory
    exact ⟨left, fun more => by rw [List.cons_append, follow_cons, if_neg (by decide), if_pos rfl, ih]⟩
  | enter valid found _ ih =>
    obtain ⟨left, ih⟩ := ih directory
    obtain ⟨notHere, notUp, short⟩ := valid
    exact ⟨left, fun more => by simp [follow_cons, notHere, notUp, short, found, ih]⟩
  | link valid found _ ih =>
    obtain ⟨left, ih⟩ := ih directory
    obtain ⟨notHere, notUp, short⟩ := valid
    refine ⟨left, fun more => ?_⟩
    have further := ih more
    rw [List.append_assoc] at further
    simp [follow_cons, notHere, notUp, short, found, further]

/-! ## Where something is made -/

/-- The way to the directory in which a route makes something, under a name that can stand there. -/
structure Approaches (top : Folder) (place : Place) (r : Route) (spot : Place) (name : String) : Prop where
  valid : IsNameStep name
  way : ∃ way inner, r.steps = way ++ [name] ∧
    Leads top maxLinks (r.start place) way spot (.directory inner)

theorem Approaches.directory {place spot : Place} {r : Route} {name : String}
    (approaches : Approaches top place r spot name) : top.kind? spot = some .directory := by
  obtain ⟨way, inner, -, leads⟩ := approaches.way
  exact leads.kind?_eq

theorem Approaches.of_grows {top' : Folder} {place spot : Place} {r : Route} {name : String}
    (approaches : Approaches top place r spot name) (grows : Grows top top') :
    Approaches top' place r spot name := by
  obtain ⟨valid, way, inner, steps, leads⟩ := approaches
  obtain ⟨e, further⟩ := grows.leads leads
  have kind := further.kind?_eq
  rw [grows.directory spot leads.kind?_eq] at kind
  obtain ⟨now, rfl⟩ := Entry.kind_eq_directory_iff.1 (Option.some.inj kind).symm
  exact ⟨valid, way, now, steps, further⟩

/-- Behind a name under which nothing stands, steps lead nowhere. -/
theorem Approaches.follow_of_free {place spot : Place} {r : Route} {name : String}
    (approaches : Approaches top place r spot name) (free : top.kind? (spot ++ [name]) = none)
    (more : List String) :
    follow top maxLinks (r.start place) (r.steps ++ more) = .error .notFound := by
  obtain ⟨⟨notHere, notUp, short⟩, way, inner, steps, leads⟩ := approaches
  obtain ⟨left, behind⟩ := leads.follow_append rfl
  rw [Folder.kind?_snoc, Option.map_eq_none_iff] at free
  rw [steps, List.append_assoc, behind, List.singleton_append, follow_cons]
  simp [notHere, notUp, short, free]

/-- Where a directory can be made: under a valid name that is free. -/
theorem directorySpot_eq_ok_iff {place spot : Place} {r : Route} {name : String} :
    directorySpot top place r = .ok (spot, name) ↔
      Approaches top place r spot name ∧ top.kind? (spot ++ [name]) = none := by
  rw [directorySpot]
  split
  · next none =>
    have empty := splitSteps_eq_none_iff.1 none
    refine iff_of_false (by split <;> nofun) ?_
    rintro ⟨⟨-, way, inner, steps, -⟩, -⟩
    simp [empty] at steps
  · next way last split =>
    have steps := splitSteps_eq_some_iff.1 split
    simp only [bind_eq_ok_iff, Prod.exists]
    constructor
    · rintro ⟨p, e, followed, made⟩
      have leads := follow_ok_iff.1 followed
      cases e with
      | directory inner =>
        by_cases plain : isName last = true <;> by_cases short : last.utf8ByteSize ≤ maxNameSize <;>
          cases free : inner.find? last <;>
          simp [plain, checkName, short, free, bind, Except.bind, pure, Except.pure, throw, throwThe,
            MonadExceptOf.throw] at made
        obtain ⟨rfl, rfl⟩ := made
        have there := leads.at?_of_directory rfl
        obtain ⟨notHere, notUp⟩ := isName_iff.1 plain
        refine ⟨⟨⟨notHere, notUp, short⟩, way, inner, steps, leads⟩, ?_⟩
        rw [Folder.kind?_snoc, Folder.entryAt?, there, Option.bind_some, free, Option.map_none]
      | file _ | link _ => cases made
    · rintro ⟨⟨⟨notHere, notUp, short⟩, way', inner, steps', leads⟩, free⟩
      obtain ⟨rfl, same⟩ := List.append_inj' (steps.symm.trans steps') rfl
      obtain rfl := List.singleton_inj.1 same
      have there := leads.at?_of_directory rfl
      rw [Folder.kind?_snoc, Folder.entryAt?, there, Option.bind_some, Option.map_eq_none_iff] at free
      refine ⟨spot, _, follow_of_leads leads, ?_⟩
      simp [isName, notHere, notUp, checkName, short, free, bind, Except.bind, pure, Except.pure]

/-- Whether a file can be put at a place without anything but a file making room. -/
def TakesFile (top : Folder) (q : Place) : Prop :=
  ∀ kind, top.kind? q = some kind → ∃ bytes, kind = .file bytes

/-- A file is put where a route leads, or where the link leads that stands there. -/
theorem fileSpot_cases {links : Nat} {place spot : Place} {r : Route} {name : String}
    (found : fileSpot top links place r = .ok (spot, name)) :
    (r.slash = false ∧ Approaches top place r spot name ∧ TakesFile top (spot ++ [name])) ∨
      ∃ p last target fewer, Approaches top place r p last ∧
        top.kind? (p ++ [last]) = some (.link target) ∧
        links = fewer + 1 ∧ fileSpot top fewer p (.ofPath target) = .ok (spot, name) := by
  rw [fileSpot.eq_def] at found
  cases split : splitSteps r.steps with
  | none =>
    simp only [split] at found
    cases found
  | some parts =>
    obtain ⟨way, last⟩ := parts
    simp only [split] at found
    have steps := splitSteps_eq_some_iff.1 split
    simp only [bind_eq_ok_iff, Prod.exists] at found
    obtain ⟨p, e, followed, found⟩ := found
    have leads := follow_ok_iff.1 followed
    cases e with
    | file _ | link _ => cases found
    | directory inner =>
      have there := leads.at?_of_directory rfl
      cases slash : r.slash <;> by_cases plain : isName last = true <;>
        by_cases short : last.utf8ByteSize ≤ maxNameSize <;>
        simp [slash, plain, checkName, short, bind, Except.bind, pure, Except.pure, throw, throwThe,
          MonadExceptOf.throw] at found
      obtain ⟨notHere, notUp⟩ := isName_iff.1 plain
      have approaches : Approaches top place r p last :=
        ⟨⟨notHere, notUp, short⟩, way, inner, steps, leads⟩
      have stands : top.kind? (p ++ [last]) = (inner.find? last).map Entry.kind := by
        rw [Folder.kind?_snoc, Folder.entryAt?, there, Option.bind_some]
      split at found
      · cases found
      · next target link =>
        split at found
        · cases found
        · next fewer =>
          refine .inr ⟨p, last, target, fewer, approaches, ?_, rfl, found⟩
          rw [stands, link, Option.map_some, Entry.kind]
      · next noDirectory noLink =>
        cases found
        refine .inl ⟨rfl, approaches, fun kind there => ?_⟩
        rw [stands] at there
        obtain ⟨entry, entered, rfl⟩ := Option.map_eq_some_iff.1 there
        cases entry with
        | file bytes => exact ⟨bytes, rfl⟩
        | link target => exact absurd entered (noLink target)
        | directory below => exact absurd entered (noDirectory below)

/-! ## What is there then -/

/-- Whether a tree has new directories at some places, and nothing else in it has changed. -/
structure Adds (w w' : World) (made : List Place) : Prop where
  here : w'.here = w.here
  kinds : ∀ q, w'.top.kind? q = if q ∈ made then some .directory else w.top.kind? q
  free : ∀ q ∈ made, w.top.kind? q = none

namespace Adds
variable {w w' w'' : World} {made more : List Place}

theorem refl (w : World) : Adds w w [] := ⟨rfl, fun _ => by simp, nofun⟩

theorem kept (adds : Adds w w' made) {q : Place} {kind : Kind} (there : w.top.kind? q = some kind) :
    w'.top.kind? q = some kind := by
  rw [adds.kinds, if_neg, there]
  intro member
  rw [adds.free q member] at there
  cases there

theorem grows (adds : Adds w w' made) : Grows w.top w'.top := .of_kept fun _ _ => adds.kept

theorem trans (first : Adds w w' made) (next : Adds w' w'' more) : Adds w w'' (made ++ more) where
  here := next.here.trans first.here
  kinds q := by
    rw [next.kinds, first.kinds]
    by_cases early : q ∈ made <;> by_cases late : q ∈ more <;> simp [early, late]
  free q member := by
    obtain early | late := List.mem_append.1 member
    · exact first.free q early
    · have free := next.free q late
      rw [first.kinds] at free
      split at free
      · cases free
      · exact free

end Adds

/-- Whether a route led nowhere and leads to a new directory now. -/
structure Opens (w w' : World) (r : Route) (q : Place) : Prop where
  nowhere : (w.resolveRoute r).isOk = false
  reached : ∃ inner, w'.resolveRoute r = .ok (q, .directory inner)

theorem Opens.trans {w w' w'' : World} {r : Route} {q : Place} (opens : Opens w w' r q)
    (grows : Grows w'.top w''.top) (same : w''.here = w'.here) : Opens w w'' r q := by
  obtain ⟨inner, reached⟩ := opens.reached
  obtain ⟨e, still⟩ := World.resolveRoute_of_grows grows same reached
  have stands := World.kind?_of_resolveRoute still
  rw [grows.directory q (World.kind?_of_resolveRoute reached)] at stands
  obtain ⟨now, rfl⟩ := Entry.kind_eq_directory_iff.1 (Option.some.inj stands).symm
  exact ⟨opens.nowhere, now, still⟩

namespace World
variable {w w' : World} {r : Route}

/-- A way to a place goes on to a file or a directory that stands there under a name. -/
theorem resolveRoute_of_approaches {spot : Place} {name : String} (open_ : r.slash = false)
    (approaches : Approaches w.top w.here r spot name) {kind : Kind}
    (stands : w.top.kind? (spot ++ [name]) = some kind) (noLink : ∀ target, kind ≠ .link target) :
    ∃ e, e.kind = kind ∧ w.resolveRoute r = .ok (spot ++ [name], e) := by
  obtain ⟨valid, way, inner, steps, leads⟩ := approaches
  obtain ⟨e, found, rfl⟩ := Folder.exists_entryAt? stands
  have some : r.isEmpty = false := by simp [Route.isEmpty, steps]
  have all : r.allSteps = way ++ [name] := by simp [Route.allSteps, open_, steps]
  obtain ⟨left, further⟩ := leads.append rfl
  refine ⟨e, rfl, resolveRoute_ok_iff.2 ⟨some, all ▸ further ?_⟩⟩
  cases e with
  | file bytes => exact .file valid found
  | link target => exact absurd rfl (noLink target)
  | directory below =>
    obtain ⟨now, there⟩ := Folder.kind?_eq_directory_iff.1 stands
    obtain ⟨folder, reached, entered⟩ := Option.bind_eq_some_iff.1 found
    have same : now = below := by
      rw [Folder.at?_append, reached, Option.bind_some, Folder.at?, entered] at there
      exact (Option.some.inj there).symm
    exact .enter valid found (.arrive (same ▸ there))

theorem put_spec {spot : Place} {name : String} {entry : Entry} (leaf : entry.IsLeaf)
    (there : w.top.kind? spot = some .directory)
    (room : w.top.kind? (spot ++ [name]) ≠ some .directory) (q : Place) :
    (w.put spot name entry).top.kind? q =
      if q = spot ++ [name] then some entry.kind else w.top.kind? q :=
  Folder.kind?_putAt leaf there room q

theorem adds_put {spot : Place} {name : String} (there : w.top.kind? spot = some .directory)
    (free : w.top.kind? (spot ++ [name]) = none) :
    Adds w (w.put spot name (.directory .empty)) [spot ++ [name]] where
  here := rfl
  kinds q := by
    have room : w.top.kind? (spot ++ [name]) ≠ some .directory := by simp [free]
    simp only [put_spec Entry.isLeaf_empty there room, List.mem_singleton, Entry.kind]
  free q member := List.mem_singleton.1 member ▸ free

/-- A directory is made where nothing stood, and the route leads there. -/
theorem makeDirectory_spec (open_ : r.slash = false) (made : w.makeDirectory r = .ok w') :
    ∃ q, Adds w w' [q] ∧ Opens w w' r q := by
  obtain ⟨⟨spot, name⟩, found, made⟩ := bind_eq_ok_iff.1 made
  cases made
  obtain ⟨approaches, free⟩ := directorySpot_eq_ok_iff.1 found
  have adds := adds_put approaches.directory free
  have nowhere : (w.resolveRoute r).isOk = false := by
    have none := approaches.follow_of_free free []
    rw [List.append_nil] at none
    have all : r.allSteps = r.steps := by simp [Route.allSteps, open_]
    rw [resolveRoute, all, none]
    split <;> rfl
  have stands : (w.put spot name (.directory .empty)).top.kind? (spot ++ [name]) = some .directory := by
    rw [adds.kinds, if_pos (.head _)]
  have still : Approaches (w.put spot name (.directory .empty)).top w.here r spot name :=
    approaches.of_grows adds.grows
  obtain ⟨e, kind, reached⟩ := resolveRoute_of_approaches open_ still stands (by simp)
  obtain ⟨inner, rfl⟩ := Entry.kind_eq_directory_iff.1 kind
  exact ⟨_, adds, nowhere, inner, reached⟩

/-- Where a directory can be made, nothing can be made below it yet. -/
theorem makeDirectory_below {absolute : Bool} {front more : List String} (deeper : more ≠ [])
    (made : w.makeDirectory ⟨absolute, front, false⟩ = .ok w') :
    w.makeDirectory ⟨absolute, front ++ more, false⟩ = .error .notFound := by
  obtain ⟨⟨spot, name⟩, found, -⟩ := bind_eq_ok_iff.1 made
  obtain ⟨approaches, free⟩ := directorySpot_eq_ok_iff.1 found
  obtain ⟨behind, last, rfl⟩ := (List.eq_nil_or_concat more).resolve_left deeper
  rw [List.concat_eq_append]
  have split : splitSteps (front ++ (behind ++ [last])) = some (front ++ behind, last) :=
    splitSteps_eq_some_iff.2 (List.append_assoc ..).symm
  have none : follow w.top maxLinks (Route.start ⟨absolute, front ++ (behind ++ [last]), false⟩ w.here)
      (front ++ behind) = .error .notFound := approaches.follow_of_free free behind
  simp only [makeDirectory, directorySpot, split, none, bind, Except.bind]

theorem ensureDirectory_spec (open_ : r.slash = false) :
    (w.ensureDirectory r).1 = w ∧ (∀ made, w.makeDirectory r ≠ .ok made) ∨
      ∃ q, Adds w (w.ensureDirectory r).1 [q] ∧ Opens w (w.ensureDirectory r).1 r q ∧
        ∃ made, w.makeDirectory r = .ok made := by
  rw [ensureDirectory]
  cases done : w.makeDirectory r with
  | ok made =>
    obtain ⟨q, adds, opens⟩ := makeDirectory_spec open_ done
    exact .inr ⟨q, adds, opens, made, rfl⟩
  | error e =>
    refine .inl ⟨?_, nofun⟩
    simp only
    split <;> rfl

end World

/-! ## Directories above directories -/

/-- Whether a route is one that another goes through on its way, or that one itself. -/
structure Route.IsOnWay (r whole : Route) : Prop where
  absolute : r.absolute = whole.absolute
  open_ : r.slash = false
  some : r.steps ≠ []
  front : r.steps <+: whole.steps

/-- What becomes of a tree when the directories on a way are made. -/
structure MakesWay (w w' : World) (whole : Route) (made : List Place) : Prop where
  adds : Adds w w' made
  opens : ∀ q ∈ made, ∃ r, r.IsOnWay whole ∧ Opens w w' r q
  unchanged : made = [] → w' = w
  idle : made = [] ↔ ∀ r, r.IsOnWay whole → (w.makeDirectory r).isOk = false

theorem Route.isOnWay_snoc_iff {r : Route} {absolute : Bool} {front : List String} {last : String} :
    r.IsOnWay ⟨absolute, front ++ [last], false⟩ ↔
      r.IsOnWay ⟨absolute, front, false⟩ ∨ r = ⟨absolute, front ++ [last], false⟩ := by
  obtain ⟨own, steps, slash⟩ := r
  constructor
  · rintro ⟨same, open_, some, begins⟩
    obtain whole | before := List.prefix_concat_iff.1 begins
    · exact .inr (by simp_all)
    · exact .inl ⟨same, open_, some, before⟩
  · rintro (⟨same, open_, some, before⟩ | whole)
    · exact ⟨same, open_, some, before.trans (List.prefix_append ..)⟩
    · cases whole
      exact ⟨rfl, rfl, by simp, List.prefix_rfl⟩

namespace MakesWay
variable {w w' w'' : World} {absolute : Bool} {front : List String} {last : String}
  {made more : List Place}

/-- Where the directories above were made, the last one is made or left alone. -/
theorem snoc (above : MakesWay w w' ⟨absolute, front, false⟩ made)
    (failed : w.makeDirectory ⟨absolute, front ++ [last], false⟩ = .error .notFound)
    (adds : Adds w' w'' more)
    (opens : ∀ q ∈ more, Opens w' w'' ⟨absolute, front ++ [last], false⟩ q)
    (unchanged : more = [] → w'' = w') (idle : made = [] → more = []) :
    MakesWay w w'' ⟨absolute, front ++ [last], false⟩ (made ++ more) where
  adds := above.adds.trans adds
  opens q member := by
    obtain early | late := List.mem_append.1 member
    · obtain ⟨r, onWay, opens⟩ := above.opens q early
      exact ⟨r, Route.isOnWay_snoc_iff.2 (.inl onWay), opens.trans adds.grows adds.here⟩
    · refine ⟨_, Route.isOnWay_snoc_iff.2 (.inr rfl), ?_, (opens q late).reached⟩
      rw [← Bool.not_eq_true]
      intro before
      have still := World.isOk_resolveRoute_of_grows above.adds.grows above.adds.here before
      rw [(opens q late).nowhere] at still
      cases still
  unchanged none := by
    obtain ⟨none, noMore⟩ := List.append_eq_nil_iff.1 none
    rw [unchanged noMore, above.unchanged none]
  idle := by
    have same : made ++ more = [] ↔ made = [] := by
      rw [List.append_eq_nil_iff]
      exact and_iff_left_of_imp idle
    rw [same, above.idle]
    constructor
    · intro none r onWay
      obtain onWay | rfl := Route.isOnWay_snoc_iff.1 onWay
      · exact none r onWay
      · rw [failed]; rfl
    · exact fun none r onWay => none r (Route.isOnWay_snoc_iff.2 (.inl onWay))

end MakesWay

/-- Where nothing is missing above, the last directory is made or left alone. -/
theorem MakesWay.ensured {w : World} {absolute : Bool} {front : List String} {last : String}
    (found : w.makeDirectory ⟨absolute, front ++ [last], false⟩ ≠ .error .notFound) :
    ∃ made, MakesWay w (w.ensureDirectory ⟨absolute, front ++ [last], false⟩).1
      ⟨absolute, front ++ [last], false⟩ made := by
  obtain ⟨same, failed⟩ | ⟨q, adds, opens, made, done⟩ :=
    World.ensureDirectory_spec (w := w) (r := ⟨absolute, front ++ [last], false⟩) rfl
  · rw [same]
    refine ⟨[], .refl w, nofun, fun _ => rfl, iff_of_true rfl fun r onWay => ?_⟩
    cases done : w.makeDirectory r with
    | error e => rfl
    | ok made =>
      obtain ⟨own, steps, slash⟩ := r
      obtain ⟨rfl, rfl, -, more, whole⟩ := onWay
      simp only at whole
      cases more with
      | nil =>
        rw [List.append_nil] at whole
        exact absurd (whole ▸ done) (failed made)
      | cons next more =>
        have below := World.makeDirectory_below (List.cons_ne_nil next more) done
        exact absurd (whole ▸ below) found
  · refine ⟨[q], adds, fun p member => ⟨_, Route.isOnWay_snoc_iff.2 (.inr rfl), ?_⟩, nofun,
      iff_of_false (by simp) fun none => ?_⟩
    · exact List.mem_singleton.1 member ▸ opens
    · have idle := none _ (Route.isOnWay_snoc_iff.2 (.inr rfl))
      rw [done] at idle
      cases idle

namespace World

theorem makeDirectories_spec (w : World) (absolute : Bool) (steps : List String) :
    ∃ made, MakesWay w (w.makeDirectories absolute steps).1 ⟨absolute, steps.reverse, false⟩ made := by
  induction steps with
  | nil =>
    refine ⟨[], .refl w, nofun, fun _ => rfl, ?_⟩
    simp only [true_iff]
    rintro r ⟨-, -, some, front⟩
    exact absurd (List.prefix_nil.1 front) some
  | cons last above ih =>
    obtain ⟨made, ih⟩ := ih
    rw [List.reverse_cons, makeDirectories, List.reverse_cons]
    split
    · next failed =>
      have nothing := ih.snoc failed (.refl _) nofun (fun _ => rfl) fun _ => rfl
      split
      · next between noError =>
        simp only [noError] at ih nothing
        obtain ⟨same, -⟩ | ⟨q, adds, opens, again, done⟩ :=
          ensureDirectory_spec (w := between) (r := ⟨absolute, above.reverse ++ [last], false⟩) rfl
        · rw [same]
          exact ⟨_, nothing⟩
        · refine ⟨_, ih.snoc failed adds (fun p member => List.mem_singleton.1 member ▸ opens)
            nofun fun none => ?_⟩
          -- nothing has changed since the first attempt, so the second one fails as well
          rw [ih.unchanged none, failed] at done
          cases done
      · next between e error =>
        simp only [error] at nothing
        exact ⟨_, nothing⟩
    · next other => exact MakesWay.ensured fun failed => other failed

end World
end Patrol.Tree
