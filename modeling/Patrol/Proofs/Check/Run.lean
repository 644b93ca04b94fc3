import Patrol.Check
import Patrol.Proofs.Walk.Found

/-! What comes of a check, file by file. -/
namespace Patrol
open Patrol.Tree (World)

/-- The violations in a file; none where the file cannot be read. -/
def violationsIn (reader : Check.Reader) (catalog : Catalog) (file : String) : List Violation :=
  match reader file with
  | .ok bytes => Violation.collect catalog file (Text.lossyText bytes)
  | .error _ => []

theorem Violation.first?_eq_head? (catalog : Catalog) (file text : String) :
    first? catalog file text = (collect catalog file text).head? := by
  rw [first?, collect, List.head?_map, List.head?_filter]

namespace Inspector
variable {catalog : Catalog} {filter : Filter}

/-- Normal enforcement reports what there is. -/
theorem inspect_normal {file text : String} {l : Language} (wanted : filter.verdict file = .ok l) :
    inspect ⟨catalog, .normal, filter⟩ file text =
      if Violation.collect catalog file text = [] then .clean
      else .reported (Violation.collect catalog file text) := by
  simp only [inspect, wanted, violations, Enforcement.normal, Enforcement.decide]
  cases Violation.collect catalog file text <;> simp

/-- Strict enforcement stops at the first violation. -/
theorem inspect_strictly {file text : String} {l : Language}
    (wanted : filter.verdict file = .ok l) :
    inspect ⟨catalog, .strictly, filter⟩ file text =
      match (Violation.collect catalog file text).head? with
      | some v => .aborted v
      | none => .clean := by
  simp only [inspect, wanted, violations, Enforcement.strictly, Enforcement.decide,
    Violation.first?_eq_head?]
  cases (Violation.collect catalog file text).head? <;> rfl

/-- Strict enforcement reports nothing, whatever the file is. -/
theorem report?_strictly (file text : String) :
    (inspect ⟨catalog, .strictly, filter⟩ file text).report? file = none := by
  cases wanted : filter.verdict file with
  | error why => simp [inspect, wanted, Enforcement.strictly, Inspection.report?]
  | ok l =>
    rw [inspect_strictly wanted]
    cases (Violation.collect catalog file text).head? <;> rfl

end Inspector

namespace Check
variable {reader : Reader} {i : Inspector}

/-- What comes of looking at one file; nothing where it cannot be read. -/
def inspectFile? (reader : Reader) (i : Inspector) (file : String) : Option Inspected :=
  match reader file with
  | .ok bytes => some ⟨file, i.inspect file (Text.lossyText bytes)⟩
  | .error _ => none

/-- Why looking at a file stops the check. -/
def stopIn? (reader : Reader) (i : Inspector) (file : String) : Option Violation :=
  (inspectFile? reader i file).bind (·.inspection.abort?)

/-- Without a reason to stop, each file is looked at. -/
theorem inspectAll_eq_filterMap {files : List String}
    (calm : ∀ file ∈ files, stopIn? reader i file = none) :
    inspectAll reader i files = files.filterMap (inspectFile? reader i) := by
  induction files with
  | nil => rfl
  | cons file files ih =>
    obtain ⟨first, rest⟩ := List.forall_mem_cons.1 calm
    cases read : reader file with
    | error e => simpa [inspectAll, inspectFile?, read] using ih rest
    | ok bytes =>
      have calm : (i.inspect file (Text.lossyText bytes)).abort? = none := by
        simpa [stopIn?, inspectFile?, read] using first
      simpa [inspectAll, inspectFile?, read, calm] using ih rest

/-- A check stops because of the first file, in order, that gives a reason. -/
theorem aborted?_inspectAll (files : List String) :
    aborted? (inspectAll reader i files) = files.findSome? (stopIn? reader i) := by
  induction files with
  | nil => rfl
  | cons file files ih =>
    simp only [inspectAll, List.findSome?_cons, stopIn?, inspectFile?]
    cases reader file with
    | error e => exact ih
    | ok bytes =>
      simp only [Option.bind_some]
      cases stop : (i.inspect file (Text.lossyText bytes)).abort? with
      | some v => simp [aborted?, stop]
      | none => simpa [aborted?, stop] using ih

theorem inspectAll_sublist (files : List String) :
    ((inspectAll reader i files).map (·.file)).Sublist files := by
  induction files with
  | nil => exact .slnil
  | cons file files ih =>
    simp only [inspectAll]
    split
    · exact ih.trans (List.sublist_cons_self file files)
    · split
      · exact (List.nil_sublist files).cons_cons file
      · exact ih.cons_cons file

theorem result_runWith (reader : Reader) (w : World) (c : Config) {filter : Filter}
    (globs : Filter.ofGlobs c.exclude = .ok filter) (catalog : Catalog) (paths : List String) :
    (runWith reader w c catalog paths).result =
      match (Walk.discover w filter paths).files with
      | .error failure => .error (.walk failure)
      | .ok files => .ok (inspectAll reader ⟨catalog, c.enforcement, filter⟩ files) := by
  simp only [runWith, globs]
  cases Walk.discover w filter paths with
  | mk passedOver files => cases files <;> rfl

theorem result_run (w : World) (c : Config) {filter : Filter}
    (globs : Filter.ofGlobs c.exclude = .ok filter) (catalog : Catalog) (paths : List String) :
    (run w c catalog paths).result =
      match (Walk.discover w filter paths).files with
      | .error failure => .error (.walk failure)
      | .ok files => .ok (inspectAll w.read ⟨catalog, c.enforcement, filter⟩ files) :=
  result_runWith w.read w c globs catalog paths

end Check
end Patrol
