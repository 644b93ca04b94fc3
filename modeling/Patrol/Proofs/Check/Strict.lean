import Patrol.Proofs.Check.Run

/-! Strict and normal enforcement side by side: the one stops where the other reports. -/
namespace Patrol.Check
open Patrol.Tree

variable {reader : Reader} {catalog : Catalog} {filter : Filter}

theorem stopIn?_normal {file : String} {l : Language} (wanted : filter.verdict file = .ok l) :
    stopIn? reader ⟨catalog, .normal, filter⟩ file = none := by
  simp only [stopIn?, inspectFile?, Inspector.inspect_normal wanted]
  cases reader file with
  | error e => rfl
  | ok bytes => simp only [Option.bind_some]; split <;> rfl

/-- Under strict enforcement the first violation in a file is the reason to stop. -/
theorem stopIn?_strictly {file : String} {l : Language} (wanted : filter.verdict file = .ok l) :
    stopIn? reader ⟨catalog, .strictly, filter⟩ file = (violationsIn reader catalog file).head? := by
  simp only [stopIn?, inspectFile?, violationsIn, Inspector.inspect_strictly wanted]
  cases reader file with
  | error e => rfl
  | ok bytes => simp only [Option.bind_some]; split <;> simp_all [Inspection.abort?]

theorem count_normal {file : String} {l : Language} (wanted : filter.verdict file = .ok l) :
    ((inspectFile? reader ⟨catalog, .normal, filter⟩ file).map (·.inspection.count)).getD 0 =
      (violationsIn reader catalog file).length := by
  simp only [inspectFile?, violationsIn, Inspector.inspect_normal wanted]
  cases reader file with
  | error e => rfl
  | ok bytes => simp only [Option.map_some, Option.getD_some]; split <;> simp_all [Inspection.count]

theorem violations_filterMap (f : String → Option Inspected) (files : List String) :
    violations (files.filterMap f) =
      total (fun file => ((f file).map (·.inspection.count)).getD 0) files := by
  induction files with
  | nil => rfl
  | cons file files ih =>
    rw [List.filterMap_cons]
    cases h : f file with
    | none => simpa [h] using ih
    | some i => simpa [h, violations] using ih

/-- Normal enforcement counts the violations of all files. -/
theorem violations_normal {files : List String}
    (wanted : ∀ file ∈ files, ∃ l, filter.verdict file = .ok l) :
    violations (inspectAll reader ⟨catalog, .normal, filter⟩ files) =
      total (fun file => (violationsIn reader catalog file).length) files := by
  rw [inspectAll_eq_filterMap, violations_filterMap]
  · apply total_congr
    intro file member
    obtain ⟨l, wanted⟩ := wanted file member
    exact count_normal wanted
  · intro file member
    obtain ⟨l, wanted⟩ := wanted file member
    exact stopIn?_normal wanted

theorem aborted?_strictly {files : List String}
    (wanted : ∀ file ∈ files, ∃ l, filter.verdict file = .ok l) :
    aborted? (inspectAll reader ⟨catalog, .strictly, filter⟩ files) =
      files.findSome? fun file => (violationsIn reader catalog file).head? := by
  rw [aborted?_inspectAll]
  induction files with
  | nil => rfl
  | cons file files ih =>
    obtain ⟨⟨l, first⟩, rest⟩ := List.forall_mem_cons.1 wanted
    rw [List.findSome?_cons, List.findSome?_cons, stopIn?_strictly first, ih rest]

theorem reports_strictly (files : List String) :
    reports (inspectAll reader ⟨catalog, .strictly, filter⟩ files) = [] := by
  have silent : ∀ f ∈ inspectAll reader ⟨catalog, .strictly, filter⟩ files,
      f.inspection.report? f.file = none := by
    induction files with
    | nil => exact nofun
    | cons file files ih =>
      simp only [inspectAll]
      split
      · exact ih
      · split
        · exact List.forall_mem_singleton.2 (Inspector.report?_strictly file _)
        · exact List.forall_mem_cons.2 ⟨Inspector.report?_strictly file _, ih⟩
  exact List.filterMap_eq_nil_iff.2 silent

/-- A violation that comes first in a file names the first rule of the catalog that is broken. -/
theorem head?_violationsIn {file : String} {v : Violation}
    (first : (violationsIn reader catalog file).head? = some v) :
    ∃ bytes front back, reader file = .ok bytes ∧ v.file = file ∧
      catalog.rules = front ++ v.rule :: back ∧
      v.rule.appliesTo (Language.detect? file) = true ∧
      v.rule.matchesIn (Text.lossyText bytes) = true ∧
      ∀ r ∈ front, ¬(r.appliesTo (Language.detect? file) = true ∧
        r.matchesIn (Text.lossyText bytes) = true) := by
  simp only [violationsIn] at first
  split at first
  · next bytes read =>
    rw [Violation.collect, List.head?_map, List.head?_filter, Option.map_eq_some_iff] at first
    obtain ⟨rule, found, rfl⟩ := first
    obtain ⟨broken, front, back, rules, earlier⟩ := List.find?_eq_some_iff_append.1 found
    obtain ⟨applies, occurs⟩ := Bool.and_eq_true_iff.1 broken
    refine ⟨bytes, front, back, read, rfl, rules, applies, occurs, fun r member both => ?_⟩
    simpa [Violation.found, both] using earlier r member
  · cases first

/-- The violation that stops a strict check comes first in the first broken file. -/
theorem first_broken {files : List String}
    (order : files.Pairwise fun a b => Path.compare a b = .lt) {v : Violation}
    (first : files.findSome? (fun file => (violationsIn reader catalog file).head?) = some v) :
    v.file ∈ files ∧ (violationsIn reader catalog v.file).head? = some v ∧
      ∀ file ∈ files, violationsIn reader catalog file ≠ [] →
        file = v.file ∨ Path.compare v.file file = .lt := by
  obtain ⟨before, file, after, rfl, first, calm⟩ := List.findSome?_eq_some_iff.1 first
  obtain ⟨bytes, front, back, read, rfl, -⟩ := head?_violationsIn first
  refine ⟨by simp, first, fun other member broken => ?_⟩
  obtain member | member := List.mem_append.1 member
  · exact absurd (List.head?_eq_none_iff.1 (calm other member)) broken
  · obtain rfl | member := List.mem_cons.1 member
    · exact .inl rfl
    · exact .inr ((List.pairwise_cons.1 (List.pairwise_append.1 order).2.1).1 other member)

end Patrol.Check
