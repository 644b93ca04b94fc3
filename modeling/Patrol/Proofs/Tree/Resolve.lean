import Patrol.Proofs.Tree.Path

/-! The ways through a tree as a relation, one rule for each kind of step. -/
namespace Patrol.Tree

/-- Whether a step of a path is a name, and a short enough one. -/
def IsNameStep (step : String) : Prop :=
  step ≠ "." ∧ step ≠ ".." ∧ step.utf8ByteSize ≤ maxNameSize

theorem IsFileName.isNameStep {name : String} (valid : IsFileName name) : IsNameStep name :=
  ⟨valid.notHere, valid.notUp, valid.fits⟩

/-- Where steps lead from a place, through at most `links` links. -/
inductive Leads (top : Folder) : Nat → Place → List String → Place → Entry → Prop
  | arrive {links : Nat} {place : Place} {inner : Folder} (there : top.at? place = some inner) :
      Leads top links place [] place (.directory inner)
  | here {links : Nat} {place q : Place} {rest : List String} {e : Entry}
      (next : Leads top links place rest q e) : Leads top links place ("." :: rest) q e
  | up {links : Nat} {place q : Place} {rest : List String} {e : Entry}
      (next : Leads top links place.dropLast rest q e) : Leads top links place (".." :: rest) q e
  | enter {links : Nat} {place q : Place} {step : String} {rest : List String} {e : Entry}
      {inner : Folder} (valid : IsNameStep step)
      (found : top.entryAt? place step = some (.directory inner))
      (next : Leads top links (place ++ [step]) rest q e) : Leads top links place (step :: rest) q e
  | file {links : Nat} {place : Place} {step : String} {bytes : List UInt8}
      (valid : IsNameStep step) (found : top.entryAt? place step = some (.file bytes)) :
      Leads top links place [step] (place ++ [step]) (.file bytes)
  | link {links : Nat} {place q : Place} {step target : String} {rest : List String} {e : Entry}
      (valid : IsNameStep step) (found : top.entryAt? place step = some (.link target))
      (next : Leads top links ((Route.ofPath target).start place)
        ((Route.ofPath target).allSteps ++ rest) q e) :
      Leads top (links + 1) place (step :: rest) q e

/-- What following one step does. -/
theorem follow_cons (top : Folder) (links : Nat) (place : Place) (step : String)
    (rest : List String) :
    follow top links place (step :: rest) =
      if step = "." then follow top links place rest
      else if step = ".." then follow top links place.dropLast rest
      else if step.utf8ByteSize ≤ maxNameSize then
        match top.entryAt? place step, links with
        | none, _ => .error .notFound
        | some (.directory _), _ => follow top links (place ++ [step]) rest
        | some (.file bytes), _ =>
          if rest = [] then .ok (place ++ [step], .file bytes) else .error .notADirectory
        | some (.link _), 0 => .error .tooManyLinks
        | some (.link target), links + 1 =>
          follow top links ((Route.ofPath target).start place)
            ((Route.ofPath target).allSteps ++ rest)
      else .error .nameTooLong := by
  cases links <;>
    simp only [follow, followToLink, Folder.entryAt?, checkName, beq_iff_eq, bind, Except.bind, throw,
      throwThe, MonadExceptOf.throw, pure, Except.pure, List.isEmpty_iff] <;>
    grind

theorem follow_nil (top : Folder) (links : Nat) (place : Place) :
    follow top links place [] =
      match top.at? place with
      | some inner => .ok (place, .directory inner)
      | none => .error .notFound := by
  cases links <;> rfl

theorem leads_of_follow {top : Folder} {links : Nat} {place q : Place} {steps : List String}
    {e : Entry} (followed : follow top links place steps = .ok (q, e)) :
    Leads top links place steps q e := by
  induction links using Nat.strongRecOn generalizing place steps with
  | _ links fewer =>
    induction steps generalizing place with
    | nil =>
      rw [follow_nil] at followed
      split at followed
      · next inner there => cases followed; exact .arrive there
      · cases followed
    | cons step rest ih =>
      rw [follow_cons] at followed
      split at followed
      · next here => exact here ▸ .here (ih followed)
      split at followed
      · next up => exact up ▸ .up (ih followed)
      split at followed
      · next here up short =>
        have valid : IsNameStep step := ⟨here, up, short⟩
        split at followed
        · cases followed
        · next found => exact .enter valid found (ih followed)
        · next found =>
          split at followed
          · next last => subst last; cases followed; exact .file valid found
          · cases followed
        · cases followed
        · next found => exact .link valid found (fewer _ (Nat.lt_succ_self _) followed)
      · cases followed

theorem follow_of_leads {top : Folder} {links : Nat} {place q : Place} {steps : List String}
    {e : Entry} (leads : Leads top links place steps q e) :
    follow top links place steps = .ok (q, e) := by
  induction leads with
  | arrive there => simp only [follow_nil, there]
  | here _ ih => simpa only [follow_cons, if_true] using ih
  | up _ ih => simpa [follow_cons] using ih
  | enter valid found _ ih =>
    obtain ⟨here, up, short⟩ := valid
    simpa [follow_cons, here, up, short, found] using ih
  | file valid found =>
    obtain ⟨here, up, short⟩ := valid
    simp [follow_cons, here, up, short, found]
  | link valid found _ ih =>
    obtain ⟨here, up, short⟩ := valid
    simpa [follow_cons, here, up, short, found] using ih

theorem follow_ok_iff {top : Folder} {links : Nat} {place q : Place} {steps : List String}
    {e : Entry} :
    follow top links place steps = .ok (q, e) ↔ Leads top links place steps q e :=
  ⟨leads_of_follow, follow_of_leads⟩

namespace Leads
variable {top : Folder} {links : Nat} {place q : Place} {steps : List String} {e : Entry}

/-- No way ends at a link. -/
theorem not_link (leads : Leads top links place steps q e) (target : String) :
    e ≠ .link target := by
  induction leads with
  | arrive | file => exact nofun
  | here _ ih | up _ ih | enter _ _ _ ih | link _ _ _ ih => exact ih

theorem at?_of_directory {inner : Folder} (leads : Leads top links place steps q e)
    (directory : e = .directory inner) : top.at? q = some inner := by
  induction leads with
  | arrive there => cases directory; exact there
  | file => cases directory
  | here _ ih | up _ ih | enter _ _ _ ih | link _ _ _ ih => exact ih directory

/-- A way goes on from the directory to which it leads. -/
theorem append {inner : Folder} (leads : Leads top links place steps q e)
    (directory : e = .directory inner) :
    ∃ left, ∀ {more : List String} {r : Place} {d : Entry},
      Leads top left q more r d → Leads top links place (steps ++ more) r d := by
  induction leads with
  | arrive => exact ⟨_, id⟩
  | file => cases directory
  | here _ ih =>
    obtain ⟨left, ih⟩ := ih directory
    exact ⟨left, fun more => .here (ih more)⟩
  | up _ ih =>
    obtain ⟨left, ih⟩ := ih directory
    exact ⟨left, fun more => .up (ih more)⟩
  | enter valid found _ ih =>
    obtain ⟨left, ih⟩ := ih directory
    exact ⟨left, fun more => .enter valid found (ih more)⟩
  | link valid found _ ih =>
    obtain ⟨left, ih⟩ := ih directory
    exact ⟨left, fun more => .link valid found (by simpa using ih more)⟩

/-- The directory at hand can be left out of the steps. -/
theorem drop_here {front back : List String}
    (leads : Leads top links place (front ++ "." :: back) q e) :
    Leads top links place (front ++ back) q e := by
  generalize whole : front ++ "." :: back = steps at leads
  induction leads generalizing front with
  | arrive => simp at whole
  | here next ih =>
    cases front with
    | nil => cases whole; exact next
    | cons step front => cases whole; exact .here (ih rfl)
  | up _ ih =>
    cases front with
    | nil => simp at whole
    | cons step front => cases whole; exact .up (ih rfl)
  | enter valid found _ ih =>
    cases front with
    | nil => cases whole; exact absurd rfl valid.1
    | cons step front => cases whole; exact .enter valid found (ih rfl)
  | file valid =>
    cases front with
    | nil => cases whole; exact absurd rfl valid.1
    | cons step front => simp at whole
  | link valid found _ ih =>
    cases front with
    | nil => cases whole; exact absurd rfl valid.1
    | cons step front =>
      obtain ⟨rfl, rfl⟩ := List.cons.inj whole
      have same := ih (List.append_assoc ..)
      exact .link valid found (by rwa [List.append_assoc] at same)

/-- A slash at the end of a route does not matter to what is below the directory. -/
theorem of_allSteps {r : Route} {more : List String}
    (leads : Leads top links place (r.allSteps ++ more) q e) :
    Leads top links place (r.steps ++ more) q e := by
  rw [Route.allSteps] at leads
  split at leads
  · exact drop_here (by simpa using leads)
  · exact leads

/-- Without links and steps upwards, the place is spelled out by the steps. -/
theorem place_eq (linkless : top.Linkless) (leads : Leads top links place steps q e)
    (downwards : ".." ∉ steps) : q = place ++ steps.filter (· != ".") := by
  induction leads with
  | arrive => simp
  | here _ ih => simpa using ih (by simpa using downwards)
  | up => simp at downwards
  | enter valid _ _ ih =>
    rw [List.mem_cons, not_or] at downwards
    simpa [valid.1] using ih downwards.2
  | file valid => simp [valid.1]
  | link valid found =>
    obtain ⟨folder, there, found⟩ := Option.bind_eq_some_iff.1 found
    exact absurd rfl ((linkless.of_at? there).of_find? found |>.1 _)

/-- Without links, names lead to the file that stands there. -/
theorem file_of_names (linkless : top.Linkless) {names : List String} {name : String}
    (plain : ∀ n ∈ names ++ [name], n ≠ "." ∧ n ≠ "..") {bytes : List UInt8}
    (leads : Leads top links place (names ++ [name]) q (.file bytes)) :
    top.entryAt? (place ++ names) name = some (.file bytes) := by
  have noLink {p : Place} {m target : String}
      (found : top.entryAt? p m = some (.link target)) : False := by
    obtain ⟨folder, there, found⟩ := Option.bind_eq_some_iff.1 found
    exact ((linkless.of_at? there).of_find? found).1 target rfl
  induction names generalizing place with
  | nil =>
    have notDots := plain name (by simp)
    cases leads with
    | here => exact absurd rfl notDots.1
    | up => exact absurd rfl notDots.2
    | enter _ _ next => cases next
    | file _ found => simpa using found
    | link _ found => exact (noLink found).elim
  | cons n names ih =>
    obtain ⟨notDots, plain⟩ := List.forall_mem_cons.1 plain
    generalize whole : n :: names ++ [name] = steps at leads
    cases leads with
    | here => exact absurd (List.cons.inj whole).1 notDots.1
    | up => exact absurd (List.cons.inj whole).1 notDots.2
    | enter _ _ next =>
      obtain ⟨rfl, rfl⟩ := List.cons.inj whole
      simpa using ih plain next
    | file => simp at whole
    | link _ found => exact (noLink (by cases whole; exact found)).elim

/-- The names of directories that stand one in the other are a way down. -/
theorem down {folder inner : Folder} (there : top.at? place = some folder) {names : List String}
    (valid : ∀ name ∈ names, IsNameStep name) (below : folder.at? names = some inner) :
    Leads top links place names (place ++ names) (.directory inner) := by
  induction names generalizing place folder with
  | nil => cases below; simpa using arrive there
  | cons name names ih =>
    obtain ⟨first, rest⟩ := List.forall_mem_cons.1 valid
    obtain ⟨next, step, below⟩ := Folder.at?_cons_iff.1 below
    have found : top.entryAt? place name = some (.directory next) := by
      simpa [Folder.entryAt?, there] using step
    have reached : top.at? (place ++ [name]) = some next := by
      simp [Folder.at?_append, there, Folder.at?, step]
    simpa using enter first found (ih reached rest below)

end Leads

theorem Path.isAbsolute_name {name : String} (valid : IsFileName name) :
    isAbsolute name = false := by
  cases front : name.toList with
  | nil => simp [isAbsolute, front]
  | cons c cs =>
    have other : c ≠ '/' := fun same => valid.unslashed (by simp [front, same])
    simp [isAbsolute, front, other]

theorem Path.parts_name {name : String} (valid : IsFileName name) : parts name = [.name name] := by
  simp [parts, isAbsolute_name valid, steps_of_unslashed valid.nonempty valid.unslashed, partOf,
    valid.notHere, valid.notUp]

/-- A name is one step from the directory at hand. -/
theorem Route.ofPath_name {name : String} (valid : IsFileName name) :
    ofPath name = ⟨false, [name], false⟩ := by
  have open_ : Path.endsWithSlash name = false := by
    have last : Path.endsWithSlash (Path.join "" name) = false := Path.endsWithSlash_join valid
    simpa [Path.join] using last
  rw [ofPath, Path.isAbsolute_name valid, open_,
    Path.steps_of_unslashed valid.nonempty valid.unslashed]

/-- Whether a world is one that can be: the names in its directories are such names. -/
def World.Sound (w : World) : Prop := w.top.Sound

namespace World
variable {w : World} {path : String} {place : Place} {e : Entry}

theorem holds_iff : w.holds path = true ↔ ∃ place e, w.resolve path = .ok (place, e) := by
  unfold holds
  cases w.resolve path with
  | ok found => exact iff_of_true rfl ⟨found.1, found.2, rfl⟩
  | error cause => simp [Except.isOk, Except.toBool]

theorem resolve_ok_iff :
    w.resolve path = .ok (place, e) ↔
      (Route.ofPath path).isEmpty = false ∧
        Leads w.top maxLinks ((Route.ofPath path).start w.here) (Route.ofPath path).allSteps
          place e := by
  rw [← follow_ok_iff, resolve, resolveRoute]
  split
  · next empty => simp [empty]
  · next some => simp [some]

theorem ne_empty_of_resolve (reached : w.resolve path = .ok (place, e)) : path ≠ "" := by
  rintro rfl
  have empty := (resolve_ok_iff.1 reached).1
  exact absurd empty (by decide)

theorem read_of_resolve {bytes : List UInt8} (reached : w.resolve path = .ok (place, .file bytes)) :
    w.read path = .ok bytes := by
  simp [read, reached, bind, Except.bind, pure, Except.pure]

/-- The directory at hand. -/
theorem resolve_here {inner : Folder} (there : w.top.at? w.here = some inner) :
    w.resolve "." = .ok (w.here, .directory inner) :=
  resolve_ok_iff.2 ⟨rfl, .here (.arrive there)⟩

/-- What stands in the directory at hand is found by its name. -/
theorem resolve_name (sound : w.Sound) {inner : Folder} (there : w.top.at? w.here = some inner)
    {name : String} (found : inner.find? name = some e) (noLink : ∀ target, e ≠ .link target) :
    w.resolve name = .ok (w.here ++ [name], e) := by
  have valid := ((Folder.Sound.of_at? sound there).of_find? found).1
  have route := Route.ofPath_name valid
  have entry : w.top.entryAt? w.here name = some e := by
    rw [Folder.entryAt?, there]
    exact found
  rw [resolve_ok_iff, route]
  refine ⟨rfl, ?_⟩
  cases e with
  | file bytes => exact .file valid.isNameStep entry
  | link target => exact absurd rfl (noLink target)
  | directory below =>
    have reached : w.top.at? (w.here ++ [name]) = some below := by
      rw [Folder.at?_append, there, Option.bind_some, Folder.at?_cons_iff]
      exact ⟨below, found, rfl⟩
    exact .enter valid.isNameStep entry (.arrive reached)

/-- A file that stands below a directory is found by its path. -/
theorem resolve_joinAll (sound : w.Sound) {inner : Folder}
    (reached : w.resolve path = .ok (place, .directory inner)) {names : List String}
    {name : String} {bytes : List UInt8} (found : inner.entryAt? names name = some (.file bytes)) :
    w.resolve (Path.joinAll path (names ++ [name])) =
      .ok (place ++ names ++ [name], .file bytes) := by
  obtain ⟨folder, below, found⟩ := Option.bind_eq_some_iff.1 found
  obtain ⟨-, leads⟩ := resolve_ok_iff.1 reached
  have there := leads.at?_of_directory rfl
  have soundHere := Folder.Sound.of_at? sound there
  have valid := soundHere.names_of_at? below
  have last := ((soundHere.of_at? below).of_find? found).1
  have all : ∀ n ∈ names ++ [name], IsFileName n := by simpa [or_imp, forall_and] using ⟨valid, last⟩
  have route : Route.ofPath (Path.joinAll path (names ++ [name])) =
      ⟨Path.isAbsolute path, Path.steps path ++ (names ++ [name]), false⟩ := by
    rw [Route.ofPath, Path.isAbsolute_joinAll all, Path.steps_joinAll all, Path.joinAll_snoc,
      Path.endsWithSlash_join last]
  obtain ⟨left, leads⟩ := leads.append rfl
  have down : Leads w.top left place names (place ++ names) (.directory folder) :=
    Leads.down there (fun n hn => (valid n hn).isNameStep) below
  obtain ⟨left', further⟩ := down.append rfl
  have file : Leads w.top left' (place ++ names) [name] (place ++ names ++ [name]) (.file bytes) := by
    refine .file last.isNameStep ?_
    simp [Folder.entryAt?, Folder.at?_append, there, below, found]
  rw [resolve_ok_iff, route]
  exact ⟨by simp [Route.isEmpty], Leads.of_allSteps (leads (further file))⟩

end World

/-- A small world: one directory with one source file, which says `var`. -/
def oneFile : World where
  top := .directory "work" (.directory "src" (.file "a.js" [118, 97, 114] .empty) .empty) .empty
  here := ["work"]

theorem at?_here_oneFile : oneFile.top.at? oneFile.here =
    some (.directory "src" (.file "a.js" [118, 97, 114] .empty) .empty) := rfl

theorem sound_oneFile : oneFile.Sound := by
  have work : IsFileName "work" := ⟨by decide, by decide, by decide, by decide, by decide⟩
  have src : IsFileName "src" := ⟨by decide, by decide, by decide, by decide, by decide⟩
  have file : IsFileName "a.js" := ⟨by decide, by decide, by decide, by decide, by decide⟩
  exact ⟨work, rfl, ⟨src, rfl, ⟨file, rfl, trivial⟩, trivial⟩, trivial⟩

theorem linkless_oneFile : oneFile.top.Linkless := ⟨⟨trivial, trivial⟩, trivial⟩

end Patrol.Tree
