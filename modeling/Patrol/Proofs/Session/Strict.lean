import Patrol.Proofs.Session.Calls

/-! A strict session beside a normal one: the one stops where the other reports, and for what it
reports first. -/
namespace Patrol

namespace Report

theorem intercalate_cons (separator first : String) (rest : List String) :
    separator.intercalate (first :: rest) = first ++ .join (rest.map (separator ++ ·)) := by
  induction rest generalizing first with
  | nil => simp
  | cons next rest ih =>
    rw [String.intercalate_cons_cons, ih, List.map_cons, String.join_cons, String.append_assoc,
      String.append_assoc]

/-- The first block of a report stands directly behind the header. -/
theorem render_cons (file : String) (first : Violation) (rest : List Violation) :
    render file (first :: rest) =
      header file (rest.length + 1) ++ block first ++
        .join (rest.map fun v => "\n" ++ block v) ++ trailer := by
  rw [render, List.map_cons, intercalate_cons, List.map_map, ← String.append_assoc]
  rfl

end Report

/-- Strict enforcement needs no more than the first violation. -/
theorem Enforcement.decide_take_one (enabled : Bool) (violations : List Violation) :
    decide ⟨enabled, true⟩ (violations.take 1) = decide ⟨enabled, true⟩ violations := by
  cases violations <;> rfl

namespace Session
variable {catalog : Catalog} {filter : Filter} {call : Call}

/-- What a call comes to with strict enforcement beside what it comes to with normal enforcement. -/
theorem alone_beside (catalog : Catalog) (filter : Filter) (call : Call) :
    (alone ⟨catalog, .strictly, filter⟩ call = .skipped ∧
        alone ⟨catalog, .normal, filter⟩ call = .skipped) ∨
      (alone ⟨catalog, .strictly, filter⟩ call = .clean ∧
        alone ⟨catalog, .normal, filter⟩ call = .clean) ∨
      ∃ first rest, Violation.collect catalog call.file call.text = first :: rest ∧
        alone ⟨catalog, .strictly, filter⟩ call = .stopped (.ofViolation first) ∧
        alone ⟨catalog, .normal, filter⟩ call = .reported (rest.length + 1) := by
  simp only [alone, onFile, start]
  cases wanted : filter.verdict call.file with
  | error why =>
    refine .inl ⟨?_, ?_⟩ <;> simp [Inspector.inspect, Enforcement.strictly, Enforcement.normal, wanted]
  | ok l =>
    rw [Inspector.inspect_strictly wanted, Inspector.inspect_normal wanted]
    cases Violation.collect catalog call.file call.text with
    | nil => exact .inr (.inl ⟨rfl, rfl⟩)
    | cons first rest => exact .inr (.inr ⟨first, rest, rfl, rfl, rfl⟩)

theorem file_of_mem_collect {file text : String} {v : Violation}
    (member : v ∈ Violation.collect catalog file text) : v.file = file := by
  obtain ⟨_, -, rfl⟩ := List.mem_map.1 member
  rfl

/-- **Lazy and eager calls agree.** A strict call skips and passes the same files as a normal one
with the same rules, and stops where the other reports. What it says then is what the other says
first. -/
theorem stops_where_reported (catalog : Catalog) (filter : Filter) (call : Call) :
    (alone ⟨catalog, .strictly, filter⟩ call = .skipped ↔
        alone ⟨catalog, .normal, filter⟩ call = .skipped) ∧
      (alone ⟨catalog, .strictly, filter⟩ call = .clean ↔
        alone ⟨catalog, .normal, filter⟩ call = .clean) ∧
      ((∃ why, alone ⟨catalog, .strictly, filter⟩ call = .stopped why) ↔
        ∃ n, 1 ≤ n ∧ alone ⟨catalog, .normal, filter⟩ call = .reported n) ∧
      (∀ why, alone ⟨catalog, .strictly, filter⟩ call = .stopped why →
        ∃ first rest, Violation.collect catalog call.file call.text = first :: rest ∧
          why.file = call.file ∧ why.rule = first.rule.id ∧ why.report = Report.block first ∧
          ((start ⟨catalog, .normal, filter⟩).onFile call).2.shown =
            [Report.header call.file (rest.length + 1) ++ why.report ++
              .join (rest.map fun v => "\n" ++ Report.block v) ++ Report.trailer]) ∧
      ∀ enabled violations,
        Enforcement.decide ⟨enabled, true⟩ (violations.take 1) =
          Enforcement.decide ⟨enabled, true⟩ violations := by
  obtain ⟨lazy, eager⟩ | ⟨lazy, eager⟩ | ⟨first, rest, found, lazy, eager⟩ :=
    alone_beside catalog filter call
  · simp [lazy, eager, Enforcement.decide_take_one]
  · simp [lazy, eager, Enforcement.decide_take_one]
  · refine ⟨by simp [lazy, eager], by simp [lazy, eager], ?_, ?_, Enforcement.decide_take_one⟩
    · rw [lazy, eager]
      exact ⟨fun _ => ⟨rest.length + 1, by omega, rfl⟩, fun _ => ⟨_, rfl⟩⟩
    · intro why stopped
      rw [lazy] at stopped
      cases stopped
      have member : first ∈ Violation.collect catalog call.file call.text := by simp [found]
      refine ⟨first, rest, found, file_of_mem_collect member, rfl, rfl, ?_⟩
      rw [onFile_eq, start, eager, shownFor, found, Report.render_cons]
      rfl

/-- A file that breaks two rules. -/
theorem stops_where_reported_twoRules :
    ∃ filter catalog why, Filter.ofGlobs Filter.defaultGlobs = .ok filter ∧
      Catalog.ofDefinitions [⟨"no-var", "No var", "*", "var", "Use let.", []⟩,
        ⟨"no-eval", "No eval", "*", "eval", "Do not.", []⟩] = .ok catalog ∧
      alone ⟨catalog, .normal, filter⟩ ⟨"a.js", "var x = eval(y)"⟩ = .reported 2 ∧
      alone ⟨catalog, .strictly, filter⟩ ⟨"a.js", "var x = eval(y)"⟩ = .stopped why ∧
      why.file = "a.js" := by
  have ready : ∃ filter catalog, Filter.ofGlobs Filter.defaultGlobs = .ok filter ∧
      Catalog.ofDefinitions [⟨"no-var", "No var", "*", "var", "Use let.", []⟩,
        ⟨"no-eval", "No eval", "*", "eval", "Do not.", []⟩] = .ok catalog ∧
      alone ⟨catalog, .normal, filter⟩ ⟨"a.js", "var x = eval(y)"⟩ = .reported 2 :=
    ⟨_, _, rfl, rfl, rfl⟩
  obtain ⟨filter, catalog, globs, rules, reported⟩ := ready
  obtain ⟨-, -, agree, said, -⟩ := stops_where_reported catalog filter ⟨"a.js", "var x = eval(y)"⟩
  obtain ⟨why, stopped⟩ := agree.2 ⟨2, by decide, reported⟩
  obtain ⟨-, -, -, file, -⟩ := said why stopped
  exact ⟨filter, catalog, why, globs, rules, reported, stopped, file⟩

end Session
end Patrol
