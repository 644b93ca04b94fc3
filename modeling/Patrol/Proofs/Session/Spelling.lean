import Patrol.Proofs.Language
import Patrol.Proofs.Session.Calls

/-! The spelling of a file's identifier is not seen: a query that a build tool puts behind it, and
backslashes in it, change neither whether the file is looked at nor what is found in it. -/
namespace Patrol
open Patrol.Language (dropQuery)

/-! ## Spellings -/

/-- The identifiers that are got from another one by putting queries behind it and by writing slashes
for its backslashes, in any order and number. -/
inductive Respelled (file : String) : String → Prop
  | same : Respelled file file
  | query {other : String} (before : Respelled file other) (query : String) :
      Respelled file (other ++ "?" ++ query)
  | slashes {other : String} (before : Respelled file other) :
      Respelled file (String.ofList (Filter.slashed other.toList))

/-- All spellings of an identifier are judged by the same path. -/
theorem Respelled.path_eq {file other : String} (respelled : Respelled file other) :
    Filter.slashed (dropQuery other.toList) = Filter.slashed (dropQuery file.toList) := by
  induction respelled with
  | same => rfl
  | query _ query ih => rw [Language.dropQuery_query, ih]
  | slashes _ ih => rw [String.toList_ofList, Language.dropQuery_slashed, Language.slashed_slashed, ih]

variable {file other : String}

theorem Respelled.detect?_eq (respelled : Respelled file other) :
    Language.detect? other = Language.detect? file := by
  rw [← Language.detect?_slashed other, ← Language.detect?_slashed file, respelled.path_eq]

theorem Respelled.verdict_eq (respelled : Respelled file other) (f : Filter) :
    f.verdict other = f.verdict file := by
  rw [f.verdict_eq, f.verdict_eq, respelled.path_eq, respelled.detect?_eq]

/-! ## What is found -/

namespace Violation

/-- The violation of the same rule in another file. -/
def inFile (file : String) (v : Violation) : Violation := ⟨v.rule, file⟩

theorem found_respelled (respelled : Respelled file other) (text : String) :
    found other text = found file text := by
  funext r
  rw [found, found, respelled.detect?_eq]

theorem collect_respelled (respelled : Respelled file other) (c : Catalog) (text : String) :
    collect c other text = (collect c file text).map (inFile other) := by
  rw [collect, collect, found_respelled respelled, List.map_map]
  rfl

theorem first?_respelled (respelled : Respelled file other) (c : Catalog) (text : String) :
    first? c other text = (first? c file text).map (inFile other) := by
  rw [first?, first?, found_respelled respelled, Option.map_map]
  rfl

end Violation

/-! ## What comes of it -/

/-- Whether two outcomes are of one kind, with equally many violations or because of the same rule. -/
def Outcome.Alike : Outcome → Outcome → Prop
  | .inactive, .inactive | .skipped, .skipped | .clean, .clean => True
  | .reported m, .reported n => m = n
  | .stopped why, .stopped because => why.rule = because.rule
  | _, _ => False

theorem Inspector.violations_respelled (respelled : Respelled file other) (i : Inspector)
    (text : String) : i.violations other text = (i.violations file text).map (Violation.inFile other) := by
  rw [violations, violations]
  split
  · rw [Violation.first?_respelled respelled, Option.toList_map]
  · exact Violation.collect_respelled respelled i.catalog text

/-- What becomes of violations does not depend on the file that they are in. -/
theorem Enforcement.decide_inFile (e : Enforcement) (file : String) (violations : List Violation) :
    e.decide (violations.map (Violation.inFile file)) =
      match e.decide violations with
      | .proceed reported => .proceed (reported.map (Violation.inFile file))
      | .abort because => .abort (because.inFile file) := by
  obtain ⟨enabled, strict⟩ := e
  cases enabled with
  | false => rfl
  | true =>
    cases strict with
    | false => rfl
    | true => cases violations <;> rfl

/-- What comes of looking at a file, said of another one. -/
def Inspection.inFile (file : String) : Inspection → Inspection
  | .inactive => .inactive
  | .skipped why => .skipped why
  | .clean => .clean
  | .reported violations => .reported (violations.map (Violation.inFile file))
  | .aborted because => .aborted (because.inFile file)

theorem Inspector.inspect_respelled (respelled : Respelled file other) (i : Inspector)
    (text : String) : i.inspect other text = (i.inspect file text).inFile other := by
  rw [inspect, inspect, respelled.verdict_eq, violations_respelled respelled, Enforcement.decide_inFile]
  split
  · rfl
  · cases i.filter.verdict file with
    | error why => rfl
    | ok l =>
      cases i.enforcement.decide (i.violations file text) with
      | abort because => rfl
      | proceed reported => cases reported <;> rfl

theorem Session.onFile_respelled (respelled : Respelled file other) (s : Session) (text : String) :
    Outcome.Alike (s.onFile ⟨other, text⟩).1 (s.onFile ⟨file, text⟩).1 := by
  rw [onFile, onFile, Inspector.inspect_respelled respelled]
  cases s.inspector.inspect file text with
  | inactive | skipped | clean => exact trivial
  | reported violations => exact List.length_map ..
  | aborted because => exact rfl

/-- **The spelling of an identifier does not matter.** A filter that lets a file in tells the dialect by
which rules are held against it; and for a file in another spelling the filter says the same, the
dialect is the same, the same rules are broken, and a session comes to the same. -/
theorem Session.spelling_does_not_matter (respelled : Respelled file other) :
    (∀ (f : Filter) l, f.verdict file = .ok l → Language.detect? file = some l) ∧
      (∀ f : Filter, f.verdict other = f.verdict file) ∧
      Language.detect? other = Language.detect? file ∧
      ∀ (s : Session) (text : String),
        (Violation.collect s.inspector.catalog other text).map (·.rule) =
          (Violation.collect s.inspector.catalog file text).map (·.rule) ∧
        Outcome.Alike (s.onFile ⟨other, text⟩).1 (s.onFile ⟨file, text⟩).1 := by
  refine ⟨fun f l wanted => (Filter.verdict_eq_ok_iff.1 wanted).2, respelled.verdict_eq,
    respelled.detect?_eq, fun s text => ⟨?_, s.onFile_respelled respelled text⟩⟩
  rw [Violation.collect_respelled respelled, List.map_map]
  rfl

theorem Outcome.alike_reported_iff {outcome : Outcome} {n : Nat} :
    outcome.Alike (.reported n) ↔ outcome = .reported n := by
  cases outcome <;> simp [Alike]

/-- A file with backslashes in its identifier, and the same with slashes and two queries. -/
theorem Session.spelling_does_not_matter_queried :
    Respelled "src\\a.js" "src/a.js?vue?raw" ∧
      ∃ filter catalog, Filter.ofGlobs Filter.defaultGlobs = .ok filter ∧
        Catalog.ofDefinitions [⟨"no-var", "No var", "*", "var", "Use let.", []⟩] = .ok catalog ∧
        ((start ⟨catalog, .normal, filter⟩).onFile ⟨"src\\a.js", "var x"⟩).1 = .reported 1 ∧
        ((start ⟨catalog, .normal, filter⟩).onFile ⟨"src/a.js?vue?raw", "var x"⟩).1 = .reported 1 := by
  have respelled : Respelled "src\\a.js" "src/a.js?vue?raw" := Respelled.same.slashes.query "vue?raw"
  have ready : ∃ filter catalog, Filter.ofGlobs Filter.defaultGlobs = .ok filter ∧
      Catalog.ofDefinitions [⟨"no-var", "No var", "*", "var", "Use let.", []⟩] = .ok catalog ∧
      ((start ⟨catalog, .normal, filter⟩).onFile ⟨"src\\a.js", "var x"⟩).1 = .reported 1 :=
    ⟨_, _, rfl, rfl, rfl⟩
  obtain ⟨filter, catalog, globs, rules, reported⟩ := ready
  obtain ⟨-, -, -, same⟩ := spelling_does_not_matter respelled
  have alike := (same (start ⟨catalog, .normal, filter⟩) "var x").2
  rw [reported, Outcome.alike_reported_iff] at alike
  exact ⟨respelled, filter, catalog, globs, rules, reported, alike⟩

end Patrol
