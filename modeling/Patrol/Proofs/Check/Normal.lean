import Mathlib.Data.List.Basic
import Patrol.Program
import Patrol.Proofs.Check.Strict
import Patrol.Proofs.Check.Workers

/-! Checks with normal enforcement: every file counts, and it counts once. -/
namespace Patrol.Check
open Patrol.Tree

variable {reader : Reader} {catalog : Catalog} {filter : Filter}

/-- Whether a file has violations. -/
def isBroken (reader : Reader) (catalog : Catalog) (file : String) : Bool :=
  !(violationsIn reader catalog file).isEmpty

/-- The report on a file. -/
def reportOn (reader : Reader) (catalog : Catalog) (file : String) : String :=
  Report.render file (violationsIn reader catalog file)

/-- What has to come of a file. -/
def outcome (reader : Reader) (catalog : Catalog) (file : String) : Inspection :=
  if violationsIn reader catalog file = [] then .clean else .reported (violationsIn reader catalog file)

theorem inspectFile?_normal {file : String} {bytes : List UInt8} (read : reader file = .ok bytes)
    {l : Language} (wanted : filter.verdict file = .ok l) :
    inspectFile? reader ⟨catalog, .normal, filter⟩ file = some ⟨file, outcome reader catalog file⟩ := by
  simp [inspectFile?, read, Inspector.inspect_normal wanted, outcome, violationsIn]

/-- The work on a file that is there and wanted. -/
theorem work_normal {file : String} {bytes : List UInt8} (read : reader file = .ok bytes)
    {l : Language} (wanted : filter.verdict file = .ok l) :
    work reader ⟨catalog, .normal, filter⟩ file =
      .checked ::
        if isBroken reader catalog file then
          [.emitted (reportOn reader catalog file), .reported,
            .counted (violationsIn reader catalog file).length]
        else [] := by
  simp only [work, inspectFile?_normal read wanted, effects, outcome, isBroken]
  by_cases clean : violationsIn reader catalog file = []
  · simp [clean]
  · simp [clean, reportOn]

/-- Files that can be read and are wanted. -/
def Ready (reader : Reader) (filter : Filter) (files : List String) : Prop :=
  ∀ file ∈ files, (∃ bytes, reader file = .ok bytes) ∧ ∃ l, filter.verdict file = .ok l

theorem Ready.inspectAll_eq {files : List String} (ready : Ready reader filter files) :
    inspectAll reader ⟨catalog, .normal, filter⟩ files =
      files.map fun file => ⟨file, outcome reader catalog file⟩ := by
  rw [inspectAll_eq_filterMap, ← List.filterMap_eq_map]
  · apply List.filterMap_congr
    intro file member
    obtain ⟨⟨bytes, read⟩, l, wanted⟩ := ready file member
    exact inspectFile?_normal read wanted
  · intro file member
    obtain ⟨-, l, wanted⟩ := ready file member
    exact stopIn?_normal wanted

/-- The numbers and reports that files must give. -/
def expected (reader : Reader) (catalog : Catalog) (files : List String) : Tally where
  checked := files.length
  reported := (files.filter (isBroken reader catalog)).length
  violations := total (fun file => (violationsIn reader catalog file).length) files
  sink := (files.filter (isBroken reader catalog)).map (reportOn reader catalog)
  stops := []

/-- The numbers and reports at the end of a check. -/
def summary (all : List Inspected) : Tally where
  checked := filesChecked all
  reported := filesReported all
  violations := violations all
  sink := reports all
  stops := (aborted? all).toList

theorem count_outcome (file : String) :
    (outcome reader catalog file).count = (violationsIn reader catalog file).length := by
  by_cases clean : violationsIn reader catalog file = [] <;> simp [outcome, clean, Inspection.count]

theorem report?_outcome (file : String) :
    (outcome reader catalog file).report? file =
      if isBroken reader catalog file then some (reportOn reader catalog file) else none := by
  by_cases clean : violationsIn reader catalog file = [] <;>
    simp [outcome, clean, Inspection.report?, isBroken, reportOn]

theorem abort?_outcome (file : String) : (outcome reader catalog file).abort? = none := by
  by_cases clean : violationsIn reader catalog file = [] <;> simp [outcome, clean, Inspection.abort?]

theorem filesReported_outcomes (files : List String) :
    filesReported (files.map fun file => ⟨file, outcome reader catalog file⟩) =
      (files.filter (isBroken reader catalog)).length := by
  rw [filesReported, List.countP_map, List.countP_eq_length_filter]
  congr 2
  funext file
  simp only [Function.comp_apply, count_outcome, isBroken]
  cases violationsIn reader catalog file <;> rfl

theorem reports_outcomes (files : List String) :
    reports (files.map fun file => ⟨file, outcome reader catalog file⟩) =
      (files.filter (isBroken reader catalog)).map (reportOn reader catalog) := by
  induction files with
  | nil => rfl
  | cons file files ih =>
    simp only [reports, List.map_cons, List.filterMap_cons, report?_outcome] at ih ⊢
    rw [ih]
    cases broken : isBroken reader catalog file <;> simp [broken]

theorem summary_outcomes (reader : Reader) (catalog : Catalog) (files : List String) :
    summary (files.map fun file => ⟨file, outcome reader catalog file⟩) = expected reader catalog files := by
  simp [summary, expected, filesReported_outcomes, reports_outcomes, filesChecked, violations,
    aborted?, count_outcome, abort?_outcome]

theorem Ready.ofEffects_eq {files : List String} (ready : Ready reader filter files) :
    Tally.ofEffects (files.flatMap (work reader ⟨catalog, .normal, filter⟩)) =
      expected reader catalog files := by
  rw [Tally.ofEffects_eq]
  induction files with
  | nil => rfl
  | cons file files ih =>
    obtain ⟨⟨⟨bytes, read⟩, l, wanted⟩, rest⟩ := List.forall_mem_cons.1 ready
    have ih := ih rest
    simp only [expected, Tally.mk.injEq] at ih ⊢
    obtain ⟨checked, reported, violations, sink, stops⟩ := ih
    have clean : isBroken reader catalog file = false → (violationsIn reader catalog file).length = 0 := by
      simp [isBroken]
    rw [List.flatMap_cons, work_normal read wanted]
    cases broken : isBroken reader catalog file with
    | true =>
      simp [broken, checked, reported, violations, sink, stops, Effect.checks, Effect.reports,
        Effect.violations, Effect.report?, Effect.stop?, List.filterMap_cons]
      omega
    | false =>
      simp [broken, checked, reported, violations, sink, stops, Effect.checks, Effect.reports,
        Effect.violations, Effect.report?, Effect.stop?, List.filterMap_cons, clean]
      omega

theorem Ready.calm {files : List String} (ready : Ready reader filter files) :
    ∀ e ∈ files.flatMap (work reader ⟨catalog, .normal, filter⟩), e.stop? = none := by
  have none : (Tally.ofEffects (files.flatMap (work reader ⟨catalog, .normal, filter⟩))).stops = [] := by
    rw [ready.ofEffects_eq]
    rfl
  rw [Tally.ofEffects_eq] at none
  exact List.filterMap_eq_nil_iff.1 none

/-! ## Files that cannot be read -/

/-- Whether a file can be read. -/
def isReadable (reader : Reader) (file : String) : Bool := (reader file).isOk

/-- A file that cannot be read does not count. -/
theorem inspectAll_readable (i : Inspector) (files : List String) :
    inspectAll reader i (files.filter (isReadable reader)) = inspectAll reader i files := by
  induction files with
  | nil => rfl
  | cons file files ih =>
    cases read : reader file with
    | error e =>
      have out : isReadable reader file = false := by rw [isReadable, read]; rfl
      rw [List.filter_cons_of_neg (by simp [out]), ih, inspectAll, read]
    | ok bytes =>
      have kept : isReadable reader file = true := by rw [isReadable, read]; rfl
      rw [List.filter_cons_of_pos kept, inspectAll, inspectAll, read, ih]

theorem flatMap_work_readable (i : Inspector) (files : List String) :
    (files.filter (isReadable reader)).flatMap (work reader i) = files.flatMap (work reader i) := by
  induction files with
  | nil => rfl
  | cons file files ih =>
    cases read : reader file with
    | error e =>
      have out : isReadable reader file = false := by rw [isReadable, read]; rfl
      have idle : work reader i file = [] := by simp [work, inspectFile?, read]
      rw [List.filter_cons_of_neg (by simp [out]), ih, List.flatMap_cons, idle, List.nil_append]
    | ok bytes =>
      have kept : isReadable reader file = true := by rw [isReadable, read]; rfl
      rw [List.filter_cons_of_pos kept, List.flatMap_cons, List.flatMap_cons, ih]

theorem ready_readable {files : List String} (wanted : ∀ file ∈ files, ∃ l, filter.verdict file = .ok l) :
    Ready reader filter (files.filter (isReadable reader)) := by
  intro file member
  obtain ⟨member, readable⟩ := List.mem_filter.1 member
  refine ⟨?_, wanted file member⟩
  cases read : reader file with
  | ok bytes => exact ⟨bytes, rfl⟩
  | error e => rw [isReadable, read] at readable; cases readable

/-! ## Whole checks -/

variable {w : World}

/-- All that a walk finds in a world that can be is there to be looked at. -/
theorem ready_of_discover (sound : w.Sound) {paths files : List String}
    (found : (Walk.discover w filter paths).files = .ok files) : Ready w.read filter files := by
  intro file member
  obtain ⟨place, bytes, reached⟩ := Walk.resolve_of_discover sound found member
  obtain ⟨path, -, candidate⟩ := (Walk.discover_ok found).1 file member
  exact ⟨⟨bytes, World.read_of_resolve reached⟩, (Walk.mem_candidates_iff.1 candidate).2⟩

/-- Where no walk starts, nothing but the banner is written beside what was passed over. -/
theorem checkWith_of_failure (colored : Bool) {c : Config} {paths : List String}
    {failure : Walk.Failure} (failed : (run w c catalog paths).result = .error (.walk failure)) :
    (Program.checkWith colored w c catalog paths).1 = Program.failed ∧
      ∀ text, .text text ∈ (Program.checkWith colored w c catalog paths).2 →
        text = Program.painted colored true Program.cyan
          (Banner.render catalog.size c.enforcement.strict) := by
  simp [Program.checkWith, failed, Program.passedOver]

end Patrol.Check
