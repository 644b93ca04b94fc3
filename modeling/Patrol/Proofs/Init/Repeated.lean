import Patrol.Proofs.Init.Document
import Patrol.Proofs.Init.Failure
import Patrol.Proofs.Tree.Spelled

/-! Runs in a row. The first one makes the file where the path leads nowhere; all others find it, and
do to it what they are told. -/
namespace Patrol.Init
open Patrol.Tree
open Patrol.Tree.World (HasFile Wrote)

variable {w w' : World} {path : String} {force : Bool} {outcome : Outcome} {bytes : List UInt8}
  {steps : List (Bool × Outcome)}

/-- What a run comes to where there is a file already. -/
def again (force : Bool) : Outcome := if force then .overwritten else .skipped

/-- What is in the file after such a run. -/
def content (force : Bool) (bytes : List UInt8) : List UInt8 := if force then written else bytes

theorem content_true (bytes : List UInt8) : content true bytes = written := if_pos rfl

theorem content_content (force later : Bool) (bytes : List UInt8) :
    content later (content force bytes) = content (force || later) bytes := by
  cases force <;> cases later <;> simp [content]

/-! ## One run -/

theorem hasDirectory_of_run (ran : run w path force = (w', .ok outcome)) :
    w.hasDirectory path = false := by
  generalize result : (Except.ok outcome : Except Error Outcome) = r at ran
  cases Ends.of_run ran with
  | skipped file | overwritten file => exact file
  | created nothing =>
    refine Bool.eq_false_iff.2 fun found => ?_
    rw [World.holds_of_hasDirectory found] at nothing
    cases nothing
  | directory | notOverwritten | noParent | notCreated => cases result

theorem hasFile_of_holds (noLinks : NoLinks w.top) (held : w.holds path = true)
    (file : w.hasDirectory path = false) : ∃ bytes, HasFile w path bytes := by
  cases reached : w.resolve path with
  | error e => rw [World.holds, reached] at held; cases held
  | ok x =>
    obtain ⟨q, e⟩ := x
    obtain rfl := World.eq_spot_of_resolve noLinks reached
    cases e with
    | file bytes => exact ⟨bytes, reached⟩
    | directory inner => rw [World.hasDirectory, reached] at file; cases file
    | link target => exact absurd rfl ((World.resolveRoute_ok_iff.1 reached).2.not_link target)

/-- A run over a file overwrites it or leaves it alone, and does nothing else. -/
theorem run_again (noLinks : NoLinks w.top) (file : HasFile w path bytes)
    (ran : run w path force = (w', .ok outcome)) :
    outcome = again force ∧ Wrote w w' path (content force bytes) := by
  generalize result : (Except.ok outcome : Except Error Outcome) = r at ran
  cases Ends.of_run ran with
  | skipped _ _ kept =>
    cases result
    subst kept
    exact ⟨rfl, .refl file⟩
  | overwritten _ _ forced done =>
    cases result
    subst forced
    rw [content_true]
    exact ⟨rfl, World.wrote_of_write noLinks done⟩
  | created nothing => rw [file.holds] at nothing; cases nothing
  | directory | notOverwritten | noParent | notCreated => cases result

/-- A run where the path leads nowhere makes what is missing above it, and the file. -/
theorem run_created (noLinks : NoLinks w.top) (nothing : w.holds path = false)
    (ran : run w path force = (w', .ok outcome)) :
    outcome = .created ∧ ∃ between made,
      Adds w between made ∧ (∀ q ∈ made, ∃ r, IsAncestor path r ∧ Opens w between r q) ∧
      Wrote between w' path written := by
  generalize result : (Except.ok outcome : Except Error Outcome) = r at ran
  cases Ends.of_run ran with
  | @created between _ _ above done =>
    cases result
    obtain ⟨made, adds, opens, -⟩ := makeParent_spec w path
    rw [above] at adds opens
    exact ⟨rfl, between, made, adds, opens, World.wrote_of_write (noLinks.of_adds adds) done⟩
  | skipped _ held | overwritten _ held => rw [nothing] at held; cases held
  | directory | notOverwritten | noParent | notCreated => cases result

/-! ## Many runs -/

/-- Runs in a row, each in the tree that the one before left, all of which succeed: whether each of
them was forced, and what it came to. -/
inductive Series (path : String) : World → List (Bool × Outcome) → World → Prop where
  | nil {w : World} : Series path w [] w
  | cons {w between w' : World} {force : Bool} {outcome : Outcome} {more : List (Bool × Outcome)}
      (ran : run w path force = (between, .ok outcome)) (rest : Series path between more w') :
      Series path w ((force, outcome) :: more) w'

/-- What runs in a row come to. -/
def outcomes (held : Bool) : List Bool → List Outcome
  | [] => []
  | force :: more => (if held then again force else .created) :: more.map again

theorem Series.wrote (noLinks : NoLinks w.top) (file : HasFile w path bytes)
    (series : Series path w steps w') :
    (∀ s ∈ steps, s.2 = again s.1) ∧ Wrote w w' path (content (steps.any (·.1)) bytes) := by
  induction series generalizing bytes with
  | nil => exact ⟨nofun, .refl file⟩
  | cons ran rest ih =>
    obtain ⟨rfl, wrote⟩ := run_again noLinks file ran
    obtain ⟨others, later⟩ := ih (noLinks.of_written wrote.kinds) wrote.file
    rw [content_content] at later
    exact ⟨List.forall_mem_cons.2 ⟨rfl, others⟩, wrote.trans later⟩

/-- What is new and what is old after runs in a row. -/
structure Leaves (w w' : World) (path : String) (bytes : List UInt8) (made : List Place) : Prop where
  file : HasFile w' path bytes
  spot : w'.spot path = w.spot path
  others : ∀ q, q ≠ w.spot path →
    w'.top.kind? q = if q ∈ made then some .directory else w.top.kind? q
  new : ∀ q ∈ made, w.top.kind? q = none ∧ ∃ r, IsAncestor path r ∧ Opens w w' r q

theorem Leaves.kind?_spot {made : List Place} (leaves : Leaves w w' path bytes made) :
    w'.top.kind? (w.spot path) = some (.file bytes) := by
  rw [← leaves.spot]
  exact leaves.file.kind?_spot

theorem Leaves.kept {made : List Place} (leaves : Leaves w w' path bytes made) {q : Place}
    (other : q ≠ w.spot path) {own : List UInt8} (there : w.top.kind? q = some (.file own)) :
    w'.top.kind? q = some (.file own) := by
  rw [leaves.others q other, if_neg, there]
  intro member
  rw [(leaves.new q member).1] at there
  cases there

theorem Series.leaves_of_holds (noLinks : NoLinks w.top) (held : w.holds path = true)
    (series : Series path w steps w') (some : steps ≠ []) :
    ∃ bytes, HasFile w path bytes ∧ (∀ s ∈ steps, s.2 = again s.1) ∧
      Leaves w w' path (content (steps.any (·.1)) bytes) [] := by
  have file : w.hasDirectory path = false := by
    cases series with
    | nil => exact absurd rfl some
    | cons ran rest => exact hasDirectory_of_run ran
  obtain ⟨bytes, file⟩ := hasFile_of_holds noLinks held file
  obtain ⟨each, wrote⟩ := series.wrote noLinks file
  exact ⟨bytes, file, each, wrote.file, World.spot_of_here wrote.here,
    fun q other => by simp [wrote.kinds, other], nofun⟩

theorem Series.leaves_of_missing (noLinks : NoLinks w.top) (nothing : w.holds path = false)
    (series : Series path w ((force, outcome) :: steps) w') :
    outcome = .created ∧ (∀ s ∈ steps, s.2 = again s.1) ∧
      ∃ made, Leaves w w' path written made := by
  cases series with
  | cons ran rest =>
    obtain ⟨created, between, made, adds, opens, first⟩ := run_created noLinks nothing ran
    obtain ⟨each, later⟩ := rest.wrote ((noLinks.of_adds adds).of_written first.kinds) first.file
    have same : content (steps.any (·.1)) written = written := ite_self _
    rw [same] at later
    have wrote := first.trans later
    have spot : between.spot path = w.spot path := World.spot_of_here adds.here
    refine ⟨created, each, made, wrote.file, ?_, fun q other => ?_, fun q member => ?_⟩
    · rw [World.spot_of_here wrote.here, spot]
    · rw [wrote.kinds, if_neg (spot ▸ other), adds.kinds]
    · obtain ⟨r, above, opens⟩ := opens q member
      exact ⟨adds.free q member, r, above, opens.trans wrote.grows wrote.here⟩

theorem outcomes_true (forces : List Bool) : outcomes true forces = forces.map again := by
  cases forces <;> rfl

theorem map_snd_eq (each : ∀ s ∈ steps, s.2 = again s.1) :
    steps.map (·.2) = (steps.map (·.1)).map again := by
  rw [List.map_map]
  exact List.map_congr_left each

theorem again_ne_skipped (force : Bool) : (again force != .skipped) = force := by
  cases force <;> rfl

theorem Series.outcomes_eq (noLinks : NoLinks w.top) (series : Series path w steps w') :
    steps.map (·.2) = outcomes (w.holds path) (steps.map (·.1)) := by
  cases steps with
  | nil => rfl
  | cons s steps =>
    cases held : w.holds path with
    | true =>
      obtain ⟨-, -, each, -⟩ := series.leaves_of_holds noLinks held (List.cons_ne_nil s steps)
      rw [outcomes_true, map_snd_eq each]
    | false =>
      obtain ⟨created, each, -⟩ := series.leaves_of_missing noLinks held
      rw [List.map_cons, created, map_snd_eq each]
      rfl

/-- The file holds what was in it until a run makes it or writes it anew. -/
theorem Series.read_eq (noLinks : NoLinks w.top) (series : Series path w steps w') :
    w'.read path = if steps.any (·.2 != .skipped) then .ok written else w.read path := by
  cases steps with
  | nil =>
    cases series
    rfl
  | cons s steps =>
    cases held : w.holds path with
    | true =>
      obtain ⟨bytes, file, each, leaves⟩ :=
        series.leaves_of_holds noLinks held (List.cons_ne_nil s steps)
      have same : (s :: steps).any (·.2 != .skipped) = (s :: steps).any (·.1) := by
        rw [Bool.eq_iff_iff, List.any_eq_true, List.any_eq_true]
        exact exists_congr fun t => and_congr_right fun member => by rw [each t member, again_ne_skipped]
      rw [leaves.file.read, file.read, same, content, apply_ite Except.ok]
    | false =>
      obtain ⟨created, -, made, leaves⟩ := series.leaves_of_missing noLinks held
      rw [leaves.file.read, if_pos]
      simp [created]

theorem Series.exists_leaves (noLinks : NoLinks w.top) (series : Series path w steps w')
    (some : steps ≠ []) : ∃ bytes made, Leaves w w' path bytes made := by
  cases held : w.holds path with
  | true =>
    obtain ⟨bytes, -, -, leaves⟩ := series.leaves_of_holds noLinks held some
    exact ⟨_, _, leaves⟩
  | false =>
    obtain ⟨s, steps, rfl⟩ := List.exists_cons_of_ne_nil some
    obtain ⟨-, -, made, leaves⟩ := series.leaves_of_missing noLinks held
    exact ⟨_, _, leaves⟩

/-- All other files are kept unless the path led nowhere and spells out the place of a file. -/
theorem Series.keeps_iff (noLinks : NoLinks w.top) (series : Series path w steps w') :
    (∀ q own, w.top.kind? q = some (.file own) →
        (∃ e, w.resolve path = .ok (q, e)) ∨ w'.top.kind? q = some (.file own)) ↔
      steps = [] ∨ w.holds path = true ∨
        ∀ own, w.top.kind? (w.spot path) = some (.file own) → own = written := by
  by_cases some : steps = []
  · subst some
    cases series
    exact iff_of_true (fun _ _ there => .inr there) (.inl rfl)
  rw [or_iff_right some]
  cases held : w.holds path with
  | true =>
    obtain ⟨bytes, file, -, leaves⟩ := series.leaves_of_holds noLinks held some
    refine iff_of_true (fun q own there => ?_) (.inl rfl)
    by_cases same : q = w.spot path
    · subst same
      exact .inl ⟨_, file⟩
    · exact .inr (leaves.kept same there)
  | false =>
    obtain ⟨s, steps, rfl⟩ := List.exists_cons_of_ne_nil some
    obtain ⟨-, -, made, leaves⟩ := series.leaves_of_missing noLinks held
    rw [or_iff_right Bool.false_ne_true]
    constructor
    · intro keeps own there
      obtain ⟨e, reached⟩ | still := keeps _ own there
      · rw [World.holds, reached] at held
        cases held
      · rw [leaves.kind?_spot] at still
        exact (Kind.file.inj (Option.some.inj still)).symm
    · intro same q own there
      by_cases spot : q = w.spot path
      · subst spot
        exact .inr (same own there ▸ leaves.kind?_spot)
      · exact .inr (leaves.kept spot there)

/-- **Runs in a row.** Without links, where all of them succeed, the first run makes the file exactly
if the path led nowhere, and every other run overwrites it if it is forced and leaves it alone if not.
The file holds what was in it until a run makes it or writes it anew, and is read as the standard
settings wherever it holds the document. What is new besides the file are directories above the path
that were missing. All other files are kept, except for one: where the path led nowhere because a
directory was missing, and then went back up from it, a file with other content that stands at the place
that the path spells out is lost. -/
theorem Series.outcomes_and_files (linkless : w.top.Linkless) (series : Series path w steps w') :
    steps.map (·.2) = outcomes (w.holds path) (steps.map (·.1)) ∧
    (w'.read path = if steps.any (·.2 != .skipped) then .ok written else w.read path) ∧
    (w'.read path = .ok written → Config.load w' path = .ok .standard) ∧
    (∃ made : List Place,
      (∀ q, q ≠ w.spot path →
        w'.top.kind? q = if q ∈ made then some .directory else w.top.kind? q) ∧
      ∀ q ∈ made, w.top.kind? q = none ∧ ∃ r, IsAncestor path r ∧ Opens w w' r q) ∧
    (steps ≠ [] → ∃ own, w'.resolve path = .ok (w.spot path, .file own)) ∧
    ((∀ q own, w.top.kind? q = some (.file own) →
        (∃ e, w.resolve path = .ok (q, e)) ∨ w'.top.kind? q = some (.file own)) ↔
      steps = [] ∨ w.holds path = true ∨
        ∀ own, w.top.kind? (w.spot path) = some (.file own) → own = written) := by
  have noLinks := linkless.noLinks
  refine ⟨series.outcomes_eq noLinks, series.read_eq noLinks, load_of_read, ?_, fun some => ?_,
    series.keeps_iff noLinks⟩
  · by_cases some : steps = []
    · subst some
      cases series
      exact ⟨[], fun q _ => by simp, nofun⟩
    · obtain ⟨bytes, made, leaves⟩ := series.exists_leaves noLinks some
      exact ⟨made, leaves.others, leaves.new⟩
  · obtain ⟨bytes, made, leaves⟩ := series.exists_leaves noLinks some
    exact ⟨bytes, leaves.spot ▸ leaves.file⟩

/-- In an empty directory the first of three runs makes the file, the second one leaves it alone, and
the third one is forced. -/
theorem outcomes_and_files_bare :
    bare.top.Linkless ∧ ∃ w',
      Series "conf/p.toml" bare [(false, .created), (false, .skipped), (true, .overwritten)] w' ∧
      w'.read "conf/p.toml" = .ok written ∧
      Config.load w' "conf/p.toml" = .ok .standard ∧
      ∀ q own, bare.top.kind? q = some (.file own) → w'.top.kind? q = some (.file own) := by
  have linkless : bare.top.Linkless := ⟨trivial, trivial⟩
  have ran (w : World) (force : Bool) (outcome : Outcome)
      (result : (run w "conf/p.toml" force).2 = .ok outcome) :
      run w "conf/p.toml" force = ((run w "conf/p.toml" force).1, .ok outcome) := by rw [← result]
  have series := Series.cons (ran bare false .created (by decide +kernel))
    (.cons (ran _ false .skipped (by decide +kernel))
      (.cons (ran _ true .overwritten (by decide +kernel)) .nil))
  obtain ⟨-, read, loads, -, -, keeps⟩ := series.outcomes_and_files linkless
  have read := read.trans (if_pos rfl)
  have free : bare.top.kind? (bare.spot "conf/p.toml") = none := by decide +kernel
  have kept := keeps.2 (.inr (.inr fun own there => by rw [free] at there; cases there))
  have nothing : (bare.resolve "conf/p.toml").isOk = false := by decide +kernel
  refine ⟨linkless, _, series, read, loads read, fun q own there => (kept q own there).resolve_left ?_⟩
  rintro ⟨e, reached⟩
  rw [reached] at nothing
  cases nothing

/-- A file next to a directory that is not there. -/
def occupied : World :=
  ⟨.directory "work" (.file "p.toml" (Text.bytesOf "user".toList) .empty) .empty, ["work"]⟩

/-- An unforced run that counts as having made its file, and has written over another one. -/
theorem occupied_lost :
    occupied.top.Linkless ∧ occupied.holds "a/../p.toml" = false ∧
      (run occupied "a/../p.toml" false).2 = .ok .created ∧
      occupied.top.kind? ["work", "p.toml"] = some (.file (Text.bytesOf "user".toList)) ∧
      (run occupied "a/../p.toml" false).1.top.kind? ["work", "p.toml"] = some (.file written) ∧
      Text.bytesOf "user".toList ≠ written := by
  have linkless : occupied.top.Linkless := ⟨trivial, trivial⟩
  have nothing : occupied.holds "a/../p.toml" = false := by decide +kernel
  have created : (run occupied "a/../p.toml" false).2 = .ok .created := by decide +kernel
  have ran : run occupied "a/../p.toml" false =
      ((run occupied "a/../p.toml" false).1, .ok .created) := by rw [← created]
  obtain ⟨-, -, made, leaves⟩ :=
    (Series.cons ran .nil).leaves_of_missing linkless.noLinks nothing
  have spot : occupied.spot "a/../p.toml" = ["work", "p.toml"] := by decide +kernel
  refine ⟨linkless, nothing, created, by decide +kernel, spot ▸ leaves.kind?_spot, fun same => ?_⟩
  have text := congrArg Text.text? same
  rw [written, Text.text?_bytesOf, Text.text?_bytesOf, String.ofList_toList, String.ofList_toList]
    at text
  -- the document is made of settings, and the other text is not
  have none : Toml.read document = none := by
    rw [← Option.some.inj text]
    decide +kernel
  rw [read_document] at none
  cases none

end Patrol.Init
