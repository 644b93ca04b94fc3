import Patrol.Proofs.Check.Normal

/-! What a check shows to those who ask for neither colours nor messages on its progress. -/
namespace Patrol

namespace Check
open Patrol.Tree
variable {w : World} {catalog : Catalog} {filter : Filter}

theorem report?_normal {file : String} {l : Language} (wanted : filter.verdict file = .ok l) :
    ((inspectFile? w.read ⟨catalog, .normal, filter⟩ file).bind fun f => f.inspection.report? f.file) =
      if isBroken w.read catalog file then some (reportOn w.read catalog file) else none := by
  cases read : w.read file with
  | error e => simp [inspectFile?, isBroken, violationsIn, read]
  | ok bytes => rw [inspectFile?_normal read wanted, Option.bind_some, report?_outcome]

/-- Normal enforcement reports on the files with violations; a file that cannot be read has none. -/
theorem reports_normal {files : List String}
    (wanted : ∀ file ∈ files, ∃ l, filter.verdict file = .ok l) :
    reports (inspectAll w.read ⟨catalog, .normal, filter⟩ files) =
      (files.filter (isBroken w.read catalog)).map (reportOn w.read catalog) := by
  have calm : ∀ file ∈ files, stopIn? w.read ⟨catalog, .normal, filter⟩ file = none := by
    intro file member
    obtain ⟨l, wanted⟩ := wanted file member
    exact stopIn?_normal wanted
  rw [inspectAll_eq_filterMap calm, reports, List.filterMap_filterMap]
  induction files with
  | nil => rfl
  | cons file files ih =>
    obtain ⟨⟨l, first⟩, rest⟩ := List.forall_mem_cons.1 wanted
    rw [List.filterMap_cons, report?_normal first, ih rest (List.forall_mem_cons.1 calm).2]
    cases broken : isBroken w.read catalog file <;> simp [broken]

end Check

namespace Program
open Patrol.Tree (World)

/-- No colours, and no messages on progress. -/
def plain : Display := ⟨false, .warn⟩

/-- What stands beside the results when messages are shown plainly. -/
def shown (messages : List Message) : String := .join (messages.map (·.render plain))

@[simp] theorem shown_nil : shown [] = "" := rfl

@[simp] theorem shown_cons (m : Message) (messages : List Message) :
    shown (m :: messages) = m.render plain ++ shown messages := by
  rw [shown, List.map_cons, String.join_cons, shown]

@[simp] theorem shown_append (some more : List Message) :
    shown (some ++ more) = shown some ++ shown more := by
  rw [shown, List.map_append, String.join_append, shown, shown]

@[simp] theorem render_text (t : String) : (Message.text t).render plain = t := rfl

@[simp] theorem render_failure (headline explanation : String) :
    (Message.failure headline explanation).render plain =
      "Error: " ++ headline ++ explanation ++ "\n" := rfl

/-- What is worth no warning is not shown. -/
theorem render_event {e : Log.Event} (minor : e.level ≠ .warn) :
    (Message.event e).render plain = "" := by
  cases level : e.level with
  | warn => exact absurd level minor
  | info | debug | trace => simp [Message.render, plain, level, Log.Level.rank]

@[simp] theorem shown_loading (w : World) (config : String) : shown (loading w config) = "" := by
  rw [loading]
  split
  · rfl
  · rw [shown_cons, render_event (by simp), shown_nil, String.append_empty]

@[simp] theorem shown_passedOver (all : List (String × Skip)) :
    shown (all.map passedOver) = "" := by
  induction all with
  | nil => rfl
  | cons first all ih =>
    rw [List.map_cons, shown_cons, ih, passedOver, render_event (by simp), String.append_empty]

/-- Of the files that are looked at, the reports are shown, each with a line feed behind it. -/
theorem shown_inspected (all : List Inspected) :
    shown (all.flatMap (inspected false)) = .join ((Check.reports all).map (· ++ "\n")) := by
  induction all with
  | nil => rfl
  | cons f all ih =>
    rw [List.flatMap_cons, shown_append, ih]
    cases looked : f.inspection <;>
      simp [inspected, looked, render_event, Inspection.report?, painted, Check.reports]

/-- The exit code of a check and what it shows. -/
def plainly (r : Nat × List Message) : Nat × String := (r.1, shown r.2)

variable {w : World} {c : Config} {catalog : Catalog} {paths : List String}

/-- Why no walk starts is told behind the banner. -/
theorem plainly_checkWith_failure {failure : Walk.Failure}
    (stopped : (Check.run w c catalog paths).result = .error (.walk failure)) :
    plainly (checkWith false w c catalog paths) =
      (failed, Banner.render catalog.size c.enforcement.strict ++
        ("Error: " ++ (CheckError.walk failure).message ++ "\n")) := by
  simp [plainly, checkWith, stopped, painted]

/-- Behind the banner stand the reports, and at the end the violation that stopped the check. -/
theorem plainly_checkWith {all : List Inspected}
    (ran : (Check.run w c catalog paths).result = .ok all) :
    plainly (checkWith false w c catalog paths) =
      match Check.aborted? all with
      | none =>
        (success, Banner.render catalog.size c.enforcement.strict ++
          .join ((Check.reports all).map (· ++ "\n")))
      | some v =>
        (stopped, Banner.render catalog.size c.enforcement.strict ++
          (.join ((Check.reports all).map (· ++ "\n")) ++ (Report.block v ++ "\n"))) := by
  have quiet : (finished all).render plain = "" := render_event (by simp)
  simp only [plainly, checkWith, ran, Check.stop?]
  cases Check.aborted? all with
  | none => simp [painted, shown_inspected, quiet]
  | some v => simp [painted, shown_inspected, quiet, Report.Stop.ofViolation]

end Program
end Patrol
