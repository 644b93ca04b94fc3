import Patrol.Proofs.Catalog.Selection
import Patrol.Proofs.Config.Load
import Patrol.Proofs.Program.Shown

/-! The stages of a check. The first one that ends it decides the exit code and what is shown. -/
namespace Patrol.Program
open Patrol.Check
open Patrol.Tree

/-- What a command shows beside its results. -/
def Run.written (r : Run) : String := shown r.messages

def complaint (message : String) : String := "Error: " ++ message ++ "\n"

/-- The stages in front of the banner are passed: settings are loaded, enforcement is enabled and the
rules make a catalog. The strictness is that of the command line, if it is given there. -/
structure Begins (w : World) (config : String) (override : Option Bool) (c : Config)
    (catalog : Catalog) (strict : Bool) : Prop where
  loads : Config.Loads w config (.ok c)
  enabled : c.enforcement.enabled = true
  rules : Catalog.ofSelection c.rules = .ok catalog
  strictness : strict = override.getD c.enforcement.strict

/-- Walks start from all paths, and these files are found on them, in order. -/
structure Finds (w : World) (c : Config) (paths files : List String) : Prop where
  opens : ∀ p ∈ paths, Walk.Opens w p
  found : ∃ filter, Filter.ofGlobs c.exclude = .ok filter ∧
    (Walk.discover w filter paths).files = .ok files
  order : files.Pairwise fun a b => Path.compare a b = .lt

/-- How a check ends: its exit code, and what it shows, stage by stage. -/
inductive CheckEnds (w : World) (config : String) (override : Option Bool) (paths : List String) :
    Nat → String → Prop where
  | malformed {cause : Toml.Error} (failed : Config.Loads w config (.error (.unfit cause))) :
      CheckEnds w config override paths 3 (complaint (ConfigError.unfit cause).message)
  | unusable {e : ConfigError} (failed : Config.Loads w config (.error e))
      (wellFormed : ∀ cause, e ≠ .unfit cause) :
      CheckEnds w config override paths 2 (complaint e.message)
  | idle {c : Config} (loads : Config.Loads w config (.ok c))
      (disabled : c.enforcement.enabled = false) : CheckEnds w config override paths 0 ""
  | badRules {c : Config} {e : RuleError} (loads : Config.Loads w config (.ok c))
      (enabled : c.enforcement.enabled = true) (failed : Catalog.ofSelection c.rules = .error e) :
      CheckEnds w config override paths 2 (complaint e.message)
  | missing {c : Config} {catalog : Catalog} {strict : Bool} {front back : List String}
      {path : String} (begins : Begins w config override c catalog strict)
      (given : paths = front ++ path :: back) (opens : ∀ p ∈ front, Walk.Opens w p)
      (missing : w.holds path = false) :
      CheckEnds w config override paths 2
        (Banner.render catalog.size strict ++ complaint (CheckError.walk (.missing path)).message)
  | faulty {c : Config} {catalog : Catalog} {strict : Bool} {front back : List String}
      {path : String} (begins : Begins w config override c catalog strict)
      (given : paths = front ++ path :: back) (opens : ∀ p ∈ front, Walk.Opens w p)
      (held : w.holds path = true) (faulty : Walk.faultsAbove w path ≠ []) :
      CheckEnds w config override paths 2
        (Banner.render catalog.size strict ++
          complaint (CheckError.walk (.faulty (Walk.faultsAbove w path))).message)
  | stopped {c : Config} {catalog : Catalog} {front back : List String} {file : String}
      {first : Violation} {rest : List Violation}
      (begins : Begins w config override c catalog true)
      (finds : Finds w c paths (front ++ file :: back))
      (calm : ∀ f ∈ front, violationsIn w.read catalog f = [])
      (broken : violationsIn w.read catalog file = first :: rest) :
      CheckEnds w config override paths 1
        (Banner.render catalog.size true ++ (Report.block first ++ "\n"))
  | finished {c : Config} {catalog : Catalog} {strict : Bool} {files : List String}
      (begins : Begins w config override c catalog strict) (finds : Finds w c paths files)
      (calm : strict = true → ∀ file ∈ files, violationsIn w.read catalog file = []) :
      CheckEnds w config override paths 0
        (Banner.render catalog.size strict ++
          .join ((files.filter (isBroken w.read catalog)).map (reportOn w.read catalog · ++ "\n")))

variable {w : World} {config : String} {override : Option Bool} {paths files : List String}
  {c : Config} {catalog : Catalog} {strict : Bool}

/-- Settings with another enforcement. -/
def enforced (c : Config) (e : Enforcement) : Config := { c with enforcement := e }

/-! ## What each stage leads to -/

theorem check_of_failed (colored : Bool) {e : ConfigError}
    (failed : Config.Loads w config (.error e)) :
    check colored w config override paths =
      ⟨configExit e, "", loading w config ++ [.failure e.headline e.explanation], w⟩ := by
  simp only [check, failed.eq]

theorem check_of_disabled (colored : Bool) (loads : Config.Loads w config (.ok c))
    (disabled : c.enforcement.enabled = false) :
    check colored w config override paths =
      ⟨0, "", loading w config ++
        [.event ⟨.info, "police is disabled in configuration; nothing to do", []⟩], w⟩ := by
  rw [check, loads.eq]
  exact if_pos (by rw [disabled]; rfl)

theorem check_of_badRules (colored : Bool) {e : RuleError} (loads : Config.Loads w config (.ok c))
    (enabled : c.enforcement.enabled = true) (failed : Catalog.ofSelection c.rules = .error e) :
    check colored w config override paths =
      ⟨2, "", loading w config ++ [.failure e.headline e.explanation], w⟩ := by
  -- the rules are named as in the definition, so that nothing has to compare two selections by
  -- making catalogs of them
  have same : Catalog.ofSelection
      { c with enforcement.strict := override.getD c.enforcement.strict }.rules = .error e := failed
  rw [check, loads.eq]
  refine (if_neg (by rw [enabled]; exact Bool.false_ne_true)).trans ?_
  rw [same]
  rfl

theorem Begins.check (begins : Begins w config override c catalog strict) (colored : Bool)
    (paths : List String) :
    check colored w config override paths =
      ⟨(checkWith colored w (enforced c ⟨true, strict⟩) catalog paths).1, "",
        loading w config ++ (checkWith colored w (enforced c ⟨true, strict⟩) catalog paths).2, w⟩ := by
  obtain ⟨loads, enabled, rules, rfl⟩ := begins
  have same : Catalog.ofSelection
      { c with enforcement.strict := override.getD c.enforcement.strict }.rules = .ok catalog := rules
  have settings : { c with enforcement.strict := override.getD c.enforcement.strict } =
      enforced c ⟨true, override.getD c.enforcement.strict⟩ := by rw [enforced, ← enabled]
  rw [Program.check, loads.eq]
  refine (if_neg (by rw [enabled]; exact Bool.false_ne_true)).trans ?_
  rw [same, settings]

theorem Begins.plainly_eq (begins : Begins w config override c catalog strict)
    (paths : List String) :
    ((Program.check false w config override paths).exit,
        (Program.check false w config override paths).written) =
      plainly (checkWith false w (enforced c ⟨true, strict⟩) catalog paths) := by
  rw [begins.check, Run.written, shown_append, shown_loading, String.empty_append]
  rfl

/-- Where the files are found, the check goes on with them. -/
theorem Finds.ran (finds : Finds w c paths files) (e : Enforcement) (catalog : Catalog) :
    ∃ filter, (∀ file ∈ files, ∃ l, filter.verdict file = .ok l) ∧
      (Check.run w (enforced c e) catalog paths).result =
        .ok (inspectAll w.read ⟨catalog, e, filter⟩ files) := by
  obtain ⟨-, ⟨filter, globs, found⟩, -⟩ := finds
  refine ⟨filter, fun file member => ?_, ?_⟩
  · obtain ⟨path, -, member⟩ := (Walk.discover_ok found).1 file member
    exact (Walk.mem_candidates_iff.1 member).2
  · rw [result_run w (enforced c e) globs, found]
    rfl

/-- A check with normal enforcement reports on the files with violations. -/
theorem Finds.plainly_normal (finds : Finds w c paths files) (catalog : Catalog) :
    plainly (checkWith false w (enforced c .normal) catalog paths) =
      (0, Banner.render catalog.size false ++
        .join ((files.filter (isBroken w.read catalog)).map (reportOn w.read catalog · ++ "\n"))) := by
  obtain ⟨filter, wanted, ran⟩ := finds.ran .normal catalog
  have calm : aborted? (inspectAll w.read ⟨catalog, .normal, filter⟩ files) = none := by
    rw [aborted?_inspectAll, List.findSome?_eq_none_iff]
    intro file member
    obtain ⟨l, wanted⟩ := wanted file member
    exact stopIn?_normal wanted
  rw [plainly_checkWith ran, calm, reports_normal wanted, List.map_map]
  rfl

/-- A strict check says nothing about violations but at the first file that has any. -/
theorem Finds.plainly_strictly (finds : Finds w c paths files) (catalog : Catalog) :
    plainly (checkWith false w (enforced c .strictly) catalog paths) =
      match files.findSome? fun file => (violationsIn w.read catalog file).head? with
      | none => (0, Banner.render catalog.size true)
      | some v => (1, Banner.render catalog.size true ++ (Report.block v ++ "\n")) := by
  obtain ⟨filter, wanted, ran⟩ := finds.ran .strictly catalog
  rw [plainly_checkWith ran, aborted?_strictly wanted, reports_strictly, List.map_nil,
    String.join_nil, String.append_empty]
  cases files.findSome? _ with
  | none => rfl
  | some v => simp only [String.empty_append]; rfl

theorem written_failure (w : World) (config : String) (exit : Nat) (headline explanation : String) :
    Run.written ⟨exit, "", loading w config ++ [.failure headline explanation], w⟩ =
      complaint (headline ++ explanation) := by
  simp [Run.written, complaint, String.append_assoc]

/-- A check ends at the first path from which no walk starts. -/
theorem Begins.check_of_failure (begins : Begins w config override c catalog strict)
    {front back : List String} {path : String} (opens : ∀ p ∈ front, Walk.Opens w p)
    {failure : Walk.Failure} (stopped : Walk.failure? w path = some failure) :
    (Program.check false w config override (front ++ path :: back)).exit = failed ∧
      (Program.check false w config override (front ++ path :: back)).written =
        Banner.render catalog.size strict ++ complaint (CheckError.walk failure).message := by
  obtain ⟨filter, globs⟩ := begins.loads.globs
  have result : (Check.run w (enforced c ⟨true, strict⟩) catalog (front ++ path :: back)).result =
      .error (.walk failure) := by
    rw [result_run w (enforced c ⟨true, strict⟩) globs,
      Walk.discover_of_failure filter opens stopped]
  exact Prod.mk.inj ((begins.plainly_eq _).trans (plainly_checkWith_failure result))

theorem CheckEnds.check {exit : Nat} {err : String}
    (ends : CheckEnds w config override paths exit err) :
    (check false w config override paths).exit = exit ∧
      (check false w config override paths).written = err := by
  cases ends with
  | malformed failed =>
    rw [check_of_failed false failed]
    exact ⟨rfl, written_failure w config ..⟩
  | @unusable e failed wellFormed =>
    rw [check_of_failed false failed]
    cases e with
    | unfit cause => exact absurd rfl (wellFormed cause)
    | badGlob | disabledTwice | unreadable | notText => exact ⟨rfl, written_failure w config ..⟩
  | idle loads disabled =>
    rw [check_of_disabled false loads disabled]
    exact ⟨rfl, by simp [Run.written, render_event]⟩
  | badRules loads enabled failed =>
    rw [check_of_badRules false loads enabled failed]
    exact ⟨rfl, written_failure w config ..⟩
  | missing begins given opens missing =>
    subst given
    exact begins.check_of_failure opens (Walk.failure?_of_missing missing)
  | faulty begins given opens held faulty =>
    subst given
    exact begins.check_of_failure opens (Walk.failure?_of_faulty held faulty)
  | @stopped c catalog front back file first rest begins finds calm broken =>
    have found : (front ++ file :: back).findSome? (fun f => (violationsIn w.read catalog f).head?) =
        some first :=
      List.findSome?_eq_some_iff.2 ⟨front, file, back, rfl, by rw [broken]; rfl,
        fun f member => List.head?_eq_none_iff.2 (calm f member)⟩
    have strictly := finds.plainly_strictly catalog
    rw [found] at strictly
    exact Prod.mk.inj ((begins.plainly_eq paths).trans strictly)
  | @finished c catalog strict files begins finds calm =>
    cases strict with
    | false => exact Prod.mk.inj ((begins.plainly_eq paths).trans (finds.plainly_normal catalog))
    | true =>
      have none : files.findSome? (fun file => (violationsIn w.read catalog file).head?) = none :=
        List.findSome?_eq_none_iff.2 fun file member =>
          List.head?_eq_none_iff.2 (calm rfl file member)
      have clean : files.filter (isBroken w.read catalog) = [] := by simpa [isBroken] using calm rfl
      have strictly := finds.plainly_strictly catalog
      rw [none] at strictly
      rw [clean, List.map_nil, String.join_nil, String.append_empty]
      exact Prod.mk.inj ((begins.plainly_eq paths).trans strictly)

/-- A check that begins stops at a path from which no walk starts or at a violation, or it goes
through. -/
theorem Begins.exists_ends (begins : Begins w config override c catalog strict)
    (paths : List String) : ∃ exit err, CheckEnds w config override paths exit err := by
  by_cases all : ∀ p ∈ paths, Walk.Opens w p
  · obtain ⟨filter, globs⟩ := begins.loads.globs
    have found := Walk.discover_of_opens filter all
    have finds : Finds w c paths _ := ⟨all, ⟨filter, globs, found⟩, (Walk.discover_ok found).2⟩
    generalize Walk.inOrder _ = files at finds
    cases strict with
    | false => exact ⟨_, _, .finished begins finds nofun⟩
    | true =>
      cases first : files.findSome? fun file => (violationsIn w.read catalog file).head? with
      | none =>
        have calm := List.findSome?_eq_none_iff.1 first
        exact ⟨_, _, .finished begins finds fun _ file member =>
          List.head?_eq_none_iff.1 (calm file member)⟩
      | some v =>
        obtain ⟨front, file, back, rfl, broken, calm⟩ := List.findSome?_eq_some_iff.1 first
        obtain ⟨rest, broken⟩ := List.head?_eq_some_iff.1 broken
        exact ⟨_, _, .stopped begins finds
          (fun f member => List.head?_eq_none_iff.1 (calm f member)) broken⟩
  · obtain ⟨front, path, back, given, opens, missing | ⟨held, faulty⟩⟩ :=
      Walk.exists_first_closed all
    · exact ⟨_, _, .missing begins given opens missing⟩
    · exact ⟨_, _, .faulty begins given opens held faulty⟩

/-- Every check ends. -/
theorem exists_checkEnds (w : World) (config : String) (override : Option Bool)
    (paths : List String) : ∃ exit err, CheckEnds w config override paths exit err := by
  obtain ⟨loaded, loads⟩ := Config.exists_loads w config
  cases loaded with
  | error e =>
    cases e with
    | unfit cause => exact ⟨_, _, .malformed loads⟩
    | badGlob | disabledTwice | unreadable | notText => exact ⟨_, _, .unusable loads nofun⟩
  | ok c =>
    cases enabled : c.enforcement.enabled with
    | false => exact ⟨_, _, .idle loads enabled⟩
    | true =>
      cases rules : Catalog.ofSelection c.rules with
      | error e => exact ⟨_, _, .badRules loads enabled rules⟩
      | ok catalog => exact Begins.exists_ends ⟨loads, enabled, rules, rfl⟩ paths

/-- A check prints no results and leaves the tree as it is. -/
theorem check_leaves (colored : Bool) (w : World) (config : String) (override : Option Bool)
    (paths : List String) :
    (check colored w config override paths).output = "" ∧
      (check colored w config override paths).world = w := by
  obtain ⟨loaded, loads⟩ := Config.exists_loads w config
  cases loaded with
  | error e => rw [check_of_failed colored loads]; exact ⟨rfl, rfl⟩
  | ok c =>
    cases enabled : c.enforcement.enabled with
    | false => rw [check_of_disabled colored loads enabled]; exact ⟨rfl, rfl⟩
    | true =>
      cases rules : Catalog.ofSelection c.rules with
      | error e => rw [check_of_badRules colored loads enabled rules]; exact ⟨rfl, rfl⟩
      | ok catalog =>
        rw [Begins.check ⟨loads, enabled, rules, rfl⟩]
        exact ⟨rfl, rfl⟩

end Patrol.Program
