import Mathlib.Data.List.Perm.Basic
import Patrol.Proofs.Check.Run
import Patrol.Session

/-! The calls of a session do not affect one another: what a call comes to and what it shows depends
on its file and text alone. -/
namespace Patrol

/-- Whatever is reported is all that there is, and that is something. -/
theorem Inspector.reported_collect {i : Inspector} {file text : String} {found : List Violation}
    (reported : i.inspect file text = .reported found) :
    found = Violation.collect i.catalog file text ∧ found ≠ [] := by
  obtain ⟨catalog, ⟨enabled, strict⟩, filter⟩ := i
  cases enabled with
  | false => cases reported
  | true =>
    cases wanted : filter.verdict file with
    | error why => simp [inspect, wanted] at reported
    | ok l =>
      cases strict with
      | true =>
        have stop : inspect ⟨catalog, .strictly, filter⟩ file text = _ := inspect_strictly wanted
        rw [Enforcement.strictly, reported] at stop
        split at stop <;> cases stop
      | false =>
        have all : inspect ⟨catalog, .normal, filter⟩ file text = _ := inspect_normal wanted
        rw [Enforcement.normal, reported] at all
        split at all
        · cases all
        · next some => cases all; exact ⟨rfl, some⟩

namespace Session
variable {i : Inspector}

/-- What a call comes to when it is the only one. -/
def alone (i : Inspector) (call : Call) : Outcome := ((start i).onFile call).1

/-- What a call shows: one report on all violations if they were reported, otherwise nothing. -/
def shownFor (catalog : Catalog) (call : Call) : Outcome → List String
  | .reported _ => [Report.render call.file (Violation.collect catalog call.file call.text)]
  | .inactive | .skipped | .clean | .stopped _ => []

theorem alone_eq_reported {call : Call} {n : Nat} (reported : alone i call = .reported n) :
    n = (Violation.collect i.catalog call.file call.text).length ∧ 1 ≤ n := by
  simp only [alone, onFile, start] at reported
  split at reported
  · cases reported
  · cases reported
  · cases reported
  · next found inspected =>
    cases reported
    obtain ⟨rfl, some⟩ := Inspector.reported_collect inspected
    exact ⟨rfl, List.length_pos_iff.2 some⟩
  · cases reported

theorem alone_of_disabled (disabled : i.enforcement.enabled = false) (call : Call) :
    alone i call = .inactive := by
  simp [alone, onFile, start, Inspector.inspect, disabled]

/-- A call comes to what it would come to alone, and leaves the inspector as it is. -/
theorem onFile_eq (s : Session) (call : Call) :
    s.onFile call = (alone s.inspector call,
      ⟨s.inspector, s.shown ++ shownFor s.inspector.catalog call (alone s.inspector call)⟩) := by
  simp only [alone, onFile, start]
  split
  · simp [shownFor]
  · simp [shownFor]
  · simp [shownFor]
  · next found inspected =>
    obtain ⟨rfl, -⟩ := Inspector.reported_collect inspected
    rfl
  · simp [shownFor]

theorem onFiles_eq (s : Session) (calls : List Call) :
    s.onFiles calls = (calls.map (alone s.inspector),
      ⟨s.inspector, s.shown ++
        calls.flatMap fun call => shownFor s.inspector.catalog call (alone s.inspector call)⟩) := by
  induction calls generalizing s with
  | nil => simp [onFiles]
  | cons call calls ih => simp [onFiles, onFile_eq, ih]

theorem shown_onFiles (i : Inspector) (calls : List Call) :
    ((start i).onFiles calls).2.shown =
      calls.flatMap fun call => shownFor i.catalog call (alone i call) := by
  simp [onFiles_eq, start]

theorem zip_onFiles (i : Inspector) (calls : List Call) :
    calls.zip ((start i).onFiles calls).1 = calls.map fun call => (call, alone i call) := by
  rw [onFiles_eq, List.map_prod_left_eq_zip]
  rfl

/-- **Calls are independent.** Whatever has been looked at before, a call comes to what it comes to
with a fresh inspector; shown are the reports of the calls that reported something, in the order of
the calls, each with all violations; and an inspector that is disabled does nothing. -/
theorem calls_independent (i : Inspector) (calls : List Call) :
    ((start i).onFiles calls).1 = calls.map (fun call => ((start i).onFile call).1) ∧
      ((start i).onFiles calls).2.inspector = i ∧
      ((start i).onFiles calls).2.shown =
        (calls.zip ((start i).onFiles calls).1).flatMap (fun (call, outcome) =>
          shownFor i.catalog call outcome) ∧
      (∀ call n, (call, .reported n) ∈ calls.zip ((start i).onFiles calls).1 →
        n = (Violation.collect i.catalog call.file call.text).length ∧ 1 ≤ n) ∧
      (∀ others, calls.Perm others →
        (calls.zip ((start i).onFiles calls).1).Perm (others.zip ((start i).onFiles others).1) ∧
        ((start i).onFiles calls).2.shown.Perm ((start i).onFiles others).2.shown) ∧
      (i.enforcement.enabled = false →
        (∀ outcome ∈ ((start i).onFiles calls).1, outcome = .inactive) ∧
        ((start i).onFiles calls).2.shown = []) := by
  have outcomes : ((start i).onFiles calls).1 = calls.map (alone i) := by rw [onFiles_eq]; rfl
  refine ⟨outcomes, by rw [onFiles_eq]; rfl, ?_, ?_, ?_, ?_⟩
  · rw [shown_onFiles, zip_onFiles, List.flatMap_map]
  · intro call n member
    rw [zip_onFiles] at member
    obtain ⟨_, -, same⟩ := List.mem_map.1 member
    obtain ⟨rfl, reported⟩ := Prod.mk.inj same
    exact alone_eq_reported reported
  · intro others perm
    rw [zip_onFiles, zip_onFiles, shown_onFiles, shown_onFiles]
    exact ⟨perm.map _, perm.flatMap_right _⟩
  · intro disabled
    have inactive := alone_of_disabled disabled
    rw [outcomes, shown_onFiles]
    exact ⟨by simp [inactive], by simp [inactive, shownFor]⟩

/-- Two files, one of which breaks the only rule, in both orders. -/
theorem calls_independent_swapped :
    ∃ filter catalog, Filter.ofGlobs Filter.defaultGlobs = .ok filter ∧
      Catalog.ofDefinitions [⟨"no-var", "No var", "*", "var", "Use let.", []⟩] = .ok catalog ∧
      ((start ⟨catalog, .normal, filter⟩).onFiles [⟨"a.js", "var x"⟩, ⟨"b.js", "let y"⟩]).1 =
        [.reported 1, .clean] ∧
      ((start ⟨catalog, .normal, filter⟩).onFiles [⟨"a.js", "var x"⟩, ⟨"b.js", "let y"⟩]).2.shown.Perm
        ((start ⟨catalog, .normal, filter⟩).onFiles [⟨"b.js", "let y"⟩, ⟨"a.js", "var x"⟩]).2.shown ∧
      ((start ⟨catalog, .disabled, filter⟩).onFiles [⟨"a.js", "var x"⟩]).2.shown = [] := by
  have ready : ∃ filter catalog, Filter.ofGlobs Filter.defaultGlobs = .ok filter ∧
      Catalog.ofDefinitions [⟨"no-var", "No var", "*", "var", "Use let.", []⟩] = .ok catalog ∧
      ((start ⟨catalog, .normal, filter⟩).onFiles [⟨"a.js", "var x"⟩, ⟨"b.js", "let y"⟩]).1 =
        [.reported 1, .clean] := ⟨_, _, rfl, rfl, rfl⟩
  obtain ⟨filter, catalog, globs, rules, outcomes⟩ := ready
  refine ⟨filter, catalog, globs, rules, outcomes, ?_, ?_⟩
  · exact ((calls_independent ⟨catalog, .normal, filter⟩ _).2.2.2.2.1 _ (.swap _ _ [])).2
  · exact ((calls_independent ⟨catalog, .disabled, filter⟩ _).2.2.2.2.2 rfl).2

end Session
end Patrol
