import Patrol.Proofs.Check.Bytes
import Patrol.Proofs.Init.Document
import Patrol.Proofs.Program.Stages
import Patrol.Proofs.Walk.Added

/-! Checks after the file with the standard settings was made. -/
namespace Patrol
open Patrol.Tree

namespace Check
variable {w w' : World} {spot : Place} {name : String} {bytes : List UInt8} {paths : List String}

theorem inspectAll_congr {i : Inspector} {files : List String}
    (same : ∀ file ∈ files, w'.read file = w.read file) :
    inspectAll w'.read i files = inspectAll w.read i files := by
  induction files with
  | nil => rfl
  | cons file files ih =>
    obtain ⟨first, rest⟩ := List.forall_mem_cons.1 same
    simp only [inspectAll, first, ih rest]

/-- What comes of a check does not depend on a new file that goes unnoticed. -/
theorem result_added (sound : w.Sound) (adds : AddsFile w w' spot name bytes) {c : Config}
    {filter : Filter} (globs : Filter.ofGlobs c.exclude = .ok filter)
    (held : ∀ p ∈ paths, w.holds p = true)
    (unnoticed : ∀ p ∈ paths, Walk.Unnoticed w w' filter spot name p) (catalog : Catalog) :
    (run w' c catalog paths).result = (run w c catalog paths).result := by
  rw [result_run w' c globs, result_run w c globs, Walk.discover_added adds held unnoticed]
  cases found : (Walk.discover w filter paths).files with
  | error path => rfl
  | ok files =>
    refine congrArg Except.ok (inspectAll_congr fun file member => ?_)
    obtain ⟨place, own, reached⟩ := Walk.resolve_of_discover sound found member
    rw [adds.read reached, World.read_of_resolve reached]

end Check

namespace Init
variable {w : World} {name : String}

/-- A name that is not taken leads nowhere. -/
theorem resolve_free (valid : IsFileName name) (free : w.top.kind? (w.here ++ [name]) = none) :
    w.resolve name = .error .notFound := by
  obtain ⟨notHere, notUp, short⟩ := valid.isNameStep
  rw [Folder.kind?_snoc, Option.map_eq_none_iff] at free
  rw [World.resolve, World.resolveRoute, Route.ofPath_name valid]
  simp [Route.isEmpty, Route.start, Route.allSteps, follow_cons, notHere, notUp, short, free]

theorem loadOrStandard_free (valid : IsFileName name)
    (free : w.top.kind? (w.here ++ [name]) = none) :
    Config.loadOrStandard w name = .ok .standard := by
  have missing : w.holds name = false := by rw [World.holds, resolve_free valid free]; rfl
  rw [Config.loadOrStandard, missing]
  rfl

/-- Nothing has to be made above a name. -/
theorem makeParent_name (valid : IsFileName name) : makeParent w name = (w, none) := by
  have parent : Path.parent? name = some (.ofParts []) := by
    rw [Path.parent?, Path.parts_name valid]
    rfl
  rw [makeParent, parent]
  rfl

theorem write_name (valid : IsFileName name) (free : w.top.kind? (w.here ++ [name]) = none)
    (bytes : List UInt8) :
    (∃ w', w.write name bytes = .ok w' ∧ AddsFile w w' w.here name bytes) ∨
      w.write name bytes = .error .notFound := by
  obtain ⟨notHere, notUp, short⟩ := valid.isNameStep
  have plain : isName name = true := isName_iff.2 ⟨notHere, notUp⟩
  have split : splitSteps [name] = some ([], name) := rfl
  rw [World.write, Route.ofPath_name valid, fileSpot.eq_def]
  simp only [split, Route.start, follow_nil, Bool.false_eq_true, if_false]
  cases there : w.top.at? w.here with
  | none => exact .inr rfl
  | some inner =>
    have none := free
    rw [Folder.kind?_snoc, Option.map_eq_none_iff, Folder.entryAt?, there, Option.bind_some] at none
    refine .inl ⟨w.put w.here name (.file bytes), ?_,
      Folder.kind?_eq_directory_iff.2 ⟨inner, there⟩, free, rfl⟩
    simp [plain, checkName, short, none, bind, Except.bind, pure, Except.pure]

/-- A run in a directory without such a file makes it, unless there is no such directory. -/
theorem run_name (valid : IsFileName name) (free : w.top.kind? (w.here ++ [name]) = none)
    (force : Bool) :
    (∃ w', run w name force = (w', .ok .created) ∧ AddsFile w w' w.here name written) ∨
      run w name force = (w, .error (.unwritable .notFound)) := by
  have nowhere := resolve_free valid free
  have file : w.hasDirectory name = false := by rw [World.hasDirectory, nowhere]
  have missing : w.holds name = false := by rw [World.holds, nowhere]; rfl
  rw [run, ← written]
  simp only [file, missing, makeParent_name valid, Bool.false_eq_true, if_false]
  obtain ⟨w', done, adds⟩ | failed := write_name valid free written
  · exact .inl ⟨w', by rw [done], adds⟩
  · exact .inr (by rw [failed])

theorem addsFile_of_created (valid : IsFileName name)
    (free : w.top.kind? (w.here ++ [name]) = none) {force : Bool}
    (created : (run w name force).2 = .ok .created) :
    AddsFile w (run w name force).1 w.here name written := by
  obtain ⟨w', made, adds⟩ | failed := run_name valid free force
  · rw [made]
    exact adds
  · rw [failed] at created
    cases created

/-- The settings in the file that a run has made are the standard ones. -/
theorem loadOrStandard_of_run (valid : IsFileName name)
    (free : w.top.kind? (w.here ++ [name]) = none) (force : Bool) :
    Config.loadOrStandard (run w name force).1 name = .ok .standard := by
  obtain ⟨w', made, adds⟩ | failed := run_name valid free force
  · have stands : w'.top.kind? (w'.here ++ [name]) = some (.file written) := by
      rw [adds.here, adds.kinds, if_pos rfl]
    have reached : w'.resolve name = .ok (w'.here ++ [name], .file written) := by
      rw [World.resolve, Route.ofPath_name valid]
      exact World.resolveRoute_ok_iff.2
        ⟨rfl, .file valid.isNameStep (Folder.entryAt?_file_iff.2 stands)⟩
    have held : w'.holds name = true := World.holds_iff.2 ⟨_, _, reached⟩
    rw [made, Config.loadOrStandard, if_pos held, load_of_read (World.read_of_resolve reached)]
  · rw [failed, loadOrStandard_free valid free]

end Init

namespace Program
variable {w w' : World} {d : Display}

/-- The text of some messages. -/
def tell (d : Display) (messages : List Message) : String := .join (messages.map (·.render d))

theorem tell_append (front back : List Message) :
    tell d (front ++ back) = tell d front ++ tell d back := by
  rw [tell, List.map_append, String.join_append, tell, tell]

/-- What is worth no warning is not told where only warnings are shown. -/
theorem tell_of_minor (quiet : d.level = .warn) {messages : List Message}
    (minor : ∀ m ∈ messages, ∃ e, m = .event e ∧ e.level ≠ .warn) : tell d messages = "" := by
  induction messages with
  | nil => rfl
  | cons m messages ih =>
    obtain ⟨⟨e, rfl, level⟩, rest⟩ := List.forall_mem_cons.1 minor
    have silent : (Message.event e).render d = "" := by
      cases own : e.level with
      | warn => exact absurd own level
      | info | debug | trace => simp [Message.render, quiet, own, Log.Level.rank]
    have others := ih rest
    rw [tell] at others ⊢
    rw [List.map_cons, String.join_cons, silent, others, String.empty_append]

theorem tell_loading (quiet : d.level = .warn) (w : World) (config : String) :
    tell d (loading w config) = "" := by
  refine tell_of_minor quiet fun m member => ?_
  rw [loading] at member
  split at member
  · cases member
  · exact ⟨_, List.mem_singleton.1 member, by simp⟩

theorem tell_passedOver (quiet : d.level = .warn) (all : List (String × Skip)) :
    tell d (all.map passedOver) = "" := by
  refine tell_of_minor quiet fun m member => ?_
  obtain ⟨x, -, rfl⟩ := List.mem_map.1 member
  exact ⟨_, rfl, by simp⟩

/-- What follows from what came of a check. -/
def consequence (colored : Bool) : Except CheckError (List Inspected) → Nat × List Message
  | .error e => (failed, [.failure e.message ""])
  | .ok all =>
    match Check.stop? all with
    | none => (success, all.flatMap (inspected colored) ++ [finished all])
    | some stop =>
      (stopped, all.flatMap (inspected colored) ++
        [finished all, .text (painted colored true red (stop.report ++ "\n"))])

theorem checkWith_eq (colored : Bool) (w : World) (c : Config) (catalog : Catalog)
    (paths : List String) :
    checkWith colored w c catalog paths =
      ((consequence colored (Check.run w c catalog paths).result).1,
        [.text (painted colored true cyan (Banner.render catalog.size c.enforcement.strict))] ++
          (Check.run w c catalog paths).passedOver.map passedOver ++
          (consequence colored (Check.run w c catalog paths).result).2) := by
  rw [checkWith]
  cases (Check.run w c catalog paths).result with
  | error e => simp [consequence]
  | ok all =>
    simp only [consequence]
    cases Check.stop? all <;> simp

/-- What a check tells besides messages on its progress follows from what came of it. -/
theorem tell_checkWith (quiet : d.level = .warn) (colored : Bool) {c : Config} {catalog : Catalog}
    {paths : List String}
    (same : (Check.run w' c catalog paths).result = (Check.run w c catalog paths).result) :
    (checkWith colored w' c catalog paths).1 = (checkWith colored w c catalog paths).1 ∧
      tell d (checkWith colored w' c catalog paths).2 =
        tell d (checkWith colored w c catalog paths).2 := by
  rw [checkWith_eq, checkWith_eq, same]
  simp only [tell_append, tell_passedOver quiet, and_self]

/-- All that can be seen of a run: its exit code, what it prints, and what it tells beside that. -/
def seen (r : Run) (d : Display) : Nat × String × String := (r.exit, r.output, tell d r.messages)

/-- Checks with the same settings that come to the same look the same. -/
theorem seen_check (quiet : d.level = .warn) (colored : Bool) {config : String} {c : Config}
    (loads : Config.loadOrStandard w config = .ok c)
    (loads' : Config.loadOrStandard w' config = .ok c) {paths : List String}
    (same : ∀ (e : Enforcement) (catalog : Catalog),
      (Check.run w' (enforced c e) catalog paths).result =
        (Check.run w (enforced c e) catalog paths).result)
    (strict : Option Bool) :
    seen (check colored w' config strict paths) d = seen (check colored w config strict paths) d := by
  have loads := Config.loads_iff.2 loads
  have loads' := Config.loads_iff.2 loads'
  cases enabled : c.enforcement.enabled with
  | false =>
    rw [check_of_disabled colored loads enabled, check_of_disabled colored loads' enabled]
    simp only [seen, tell_append, tell_loading quiet]
  | true =>
    cases rules : Catalog.ofSelection c.rules with
    | error e =>
      rw [check_of_badRules colored loads enabled rules, check_of_badRules colored loads' enabled rules]
      simp only [seen, tell_append, tell_loading quiet]
    | ok catalog =>
      have begins : Begins w config strict c catalog _ := ⟨loads, enabled, rules, rfl⟩
      have begins' : Begins w' config strict c catalog _ := ⟨loads', enabled, rules, rfl⟩
      obtain ⟨exit, told⟩ := tell_checkWith quiet colored
        (same ⟨true, strict.getD c.enforcement.strict⟩ catalog)
      rw [begins.check, begins'.check]
      simp only [seen, tell_append, tell_loading quiet, exit, told]

/-! ## New settings -/

open CommandLine (standardConfig)

theorem isFileName_standardConfig : IsFileName standardConfig :=
  ⟨by decide, by decide, by decide, by decide, by decide⟩

theorem world_run_init {words : List String} {config : String} {force : Bool} {color : ColorChoice}
    {verbosity : Nat} (making : CommandLine.read words = .ok ⟨.init force, color, verbosity, config⟩)
    (showsColors : Bool) (w : World) :
    (run showsColors w words).1.world = (Init.run w config force).1 := by
  simp only [run, making, obey, init]
  split <;> next ran => rw [ran]

theorem seen_check_of_added (sound : w.Sound) {spot : Place} {name : String} {bytes : List UInt8}
    (adds : AddsFile w w' spot name bytes) {config : String}
    (loads : Config.loadOrStandard w config = .ok .standard)
    (loads' : Config.loadOrStandard w' config = .ok .standard) {paths : List String}
    (held : ∀ p ∈ paths, w.holds p = true)
    (unnoticed : ∀ p ∈ paths, Walk.Unnoticed w w' .standard spot name p) (quiet : d.level = .warn)
    (colored : Bool) (strict : Option Bool) :
    seen (check colored w' config strict paths) d = seen (check colored w config strict paths) d := by
  refine seen_check quiet colored loads loads' (fun e catalog => ?_) strict
  exact Check.result_added sound adds Filter.ofGlobs_defaultGlobs held unnoticed catalog

/-- All that can be seen of the program. -/
def sight (r : Run × Display) : Nat × String × String := seen r.1 r.2

variable {config file : String} {paths : List String} {bytes : List UInt8}

/-- With the standard settings a strict check of a TypeScript file stops at a comment. -/
theorem exit_of_tsIgnore (loads : Config.loadOrStandard w config = .ok .standard)
    (found : (Walk.discover w .standard paths).files = .ok [file]) (read : w.read file = .ok bytes)
    (dialect : Language.detect? file = some .typeScript)
    (part : Text.bytesOf "@ts-ignore".toList <:+: bytes) :
    (check false w config (some true) paths).exit = stopped := by
  obtain ⟨b, built⟩ := Catalog.exists_builtin
  obtain ⟨catalog, rules⟩ := Catalog.exists_ofSelection_standard
  obtain ⟨-, own, described, kept⟩ := (Catalog.ofSelection_eq_ok_iff built).1 rules
  obtain ⟨d, written, named, source, languages⟩ :
      ∃ d ∈ Catalog.builtinDefinitions, d.id = "no-ts-ignore" ∧ d.pattern = "@ts-ignore" ∧
        d.languages = [.typeScript, .vue] := by decide
  obtain ⟨r, member, describes⟩ :=
    exists_of_forall₂ (Catalog.ofDefinitions_eq_ok_iff.1 built).flip written
  have literally := Check.isLiteral_of_builtin built member (by rw [describes.id, named]; exact .head _)
  rw [Rule.source_of_compile describes.pattern, source] at literally
  have rule : r ∈ catalog.rules := by
    rw [kept]
    exact List.mem_append_left _ (List.mem_filter.2 ⟨member, decide_eq_true ⟨List.not_mem_nil, .inl rfl⟩⟩)
  have applies : r.appliesTo (Language.detect? file) = true := by
    rw [Rule.appliesTo, describes.languages, languages, dialect]
    rfl
  have violation := ((Check.ascii_violations_by_bytes (c := .standard) Filter.ofGlobs_defaultGlobs
    found (.head _) read catalog).2.1 r ⟨d, Rule.ofDefinition_eq_ok_iff.2 describes⟩ _ literally
    (by simp)).2 rule |>.2 ⟨applies, part⟩
  obtain ⟨first, rest, broken⟩ := List.exists_cons_of_ne_nil (List.ne_nil_of_mem violation)
  have begins : Begins w config (some true) .standard catalog true :=
    ⟨Config.loads_iff.2 loads, rfl, rules, rfl⟩
  have finds : Finds w .standard paths ([] ++ file :: []) :=
    ⟨Walk.opens_of_discover found, ⟨_, Filter.ofGlobs_defaultGlobs, found⟩,
      List.pairwise_singleton _ _⟩
  exact (CheckEnds.stopped begins finds (List.forall_mem_nil _) broken).check.1

/-- A check that finds no file goes through. -/
theorem exit_of_nothing (loads : Config.loadOrStandard w config = .ok .standard)
    (found : (Walk.discover w .standard paths).files = .ok []) :
    (check false w config (some true) paths).exit = success := by
  obtain ⟨catalog, rules⟩ := Catalog.exists_ofSelection_standard
  have begins : Begins w config (some true) .standard catalog true :=
    ⟨Config.loads_iff.2 loads, rfl, rules, rfl⟩
  have finds : Finds w .standard paths [] :=
    ⟨Walk.opens_of_discover found, ⟨_, Filter.ofGlobs_defaultGlobs, found⟩, .nil⟩
  exact (CheckEnds.finished begins finds nofun).check.1

/-- The exit code of the program. -/
theorem exit_run {words : List String}
    (checking : CommandLine.read words = .ok ⟨.check paths (some true), .auto, 0, config⟩) :
    (run false w words).1.exit = (check false w config (some true) paths).exit := by
  simp only [run, checking, obey]

/-- A directory in whose name a dialect stands in front of a question mark. -/
def queriedDirectory : World :=
  ⟨.directory "work" (.directory "d.ts?" .empty .empty) .empty, ["work"]⟩

/-- A source file that would be ignored under version control, and a link from where that is kept to
the file with the settings. -/
def linkedSettings : World :=
  ⟨.directory "work" (.link ".git" standardConfig
    (.file ".gitignore" (Text.bytesOf "a.ts".toList)
      (.file "a.ts" (Text.bytesOf "@ts-ignore".toList) .empty))) .empty, ["work"]⟩

end Program
end Patrol
