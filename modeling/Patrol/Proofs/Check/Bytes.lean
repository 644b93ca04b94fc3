import Patrol.Proofs.Catalog.Built
import Patrol.Proofs.Check.Run
import Patrol.Proofs.Pattern.Literal
import Patrol.Proofs.Text.Lossy

/-! Files as the bytes that they are. A check reads them as text, whatever they are; what it finds of
ASCII patterns is what stands in the bytes. -/
namespace Patrol.Check
open Patrol.Tree (World)
variable {reader : Reader} {w : World} {i : Inspector} {c : Config} {filter : Filter} {catalog : Catalog}
  {paths files : List String} {file : String} {bytes : List UInt8} {r : Rule} {word : List Char}

/-- Nothing is said of a file but what comes of looking at it. -/
theorem inspectFile?_of_mem {f : Inspected} (member : f ∈ inspectAll reader i files) :
    inspectFile? reader i f.file = some f := by
  induction files with
  | nil => cases member
  | cons file files ih =>
    rw [inspectAll] at member
    cases read : reader file with
    | error e =>
      rw [read] at member
      exact ih member
    | ok bytes =>
      have looked : inspectFile? reader i file = some ⟨file, i.inspect file (Text.lossyText bytes)⟩ := by
        rw [inspectFile?, read]
      simp only [read] at member
      split at member
      · rw [List.mem_singleton.1 member, looked]
      · obtain rfl | later := List.mem_cons.1 member
        · exact looked
        · exact ih later

/-- A file that can be read is looked at, unless the check stops. -/
theorem mem_inspectAll (onward : aborted? (inspectAll reader i files) = none) (member : file ∈ files)
    (read : reader file = .ok bytes) :
    ⟨file, i.inspect file (Text.lossyText bytes)⟩ ∈ inspectAll reader i files := by
  rw [aborted?_inspectAll, List.findSome?_eq_none_iff] at onward
  rw [inspectAll_eq_filterMap onward, List.mem_filterMap]
  exact ⟨file, member, by rw [inspectFile?, read]⟩

/-- The builtin rules whose patterns are words to be found as they are written. -/
theorem isLiteral_of_builtin {b : Catalog} (built : Catalog.builtin = .ok b) {r : Rule}
    (member : r ∈ b.rules)
    (named : r.id.text ∈ ["no-ts-ignore", "no-ts-nocheck", "no-important"]) :
    r.pattern.IsLiteral r.pattern.source.toList := by
  obtain ⟨d, written, described⟩ :=
    exists_of_forall₂ (Catalog.ofDefinitions_eq_ok_iff.1 built) member
  have plain : ∀ d ∈ Catalog.builtinDefinitions,
      d.id ∈ ["no-ts-ignore", "no-ts-nocheck", "no-important"] →
        d.pattern ≠ "" ∧ d.pattern.toList.all (!Pattern.operators.contains ·) = true := by
    decide +kernel
  rw [described.id] at named
  obtain ⟨some, plain⟩ := plain d written named
  rw [← Rule.source_of_compile described.pattern] at some plain
  apply Pattern.isLiteral_of_writes (Pattern.writes_self plain)
  rwa [ne_eq, String.toList_eq_nil_iff]

/-- A literal of ASCII characters is found where its bytes stand in a row. -/
theorem matchesIn_lossyText_iff (made : r.IsMade) (literally : r.pattern.IsLiteral word)
    (ascii : ∀ ch ∈ word, ch.toNat < 0x80) :
    r.matchesIn (Text.lossyText bytes) = true ↔ Text.bytesOf word <:+: bytes := by
  obtain ⟨d, made⟩ := made
  have compiled := (Rule.ofDefinition_eq_ok_iff.1 made).pattern
  rw [Rule.matchesIn, Pattern.matchesIn_iff_of_literal compiled literally,
    Text.part_lossyText_iff ascii literally.ne_nil]

/-- **Bytes that are no text neither hide nor invent an ASCII violation.** A check looks at the text
of each file that it finds and can read, unless it stops before. A rule whose pattern is a literal of
ASCII characters is found in that text exactly if the bytes of the literal stand in those of the file
in a row, and is then a violation in the file if it holds for such files. Bytes that are text are
looked at as they are; in others each maximal stretch that is no character is replaced by one. -/
theorem ascii_violations_by_bytes (globs : Filter.ofGlobs c.exclude = .ok filter)
    (found : (Walk.discover w filter paths).files = .ok files) (discovered : file ∈ files)
    (read : w.read file = .ok bytes) (catalog : Catalog) :
    (∃ all, (run w c catalog paths).result = .ok all ∧
      (∀ f ∈ all, f.file = file → f.inspection =
        Inspector.inspect ⟨catalog, c.enforcement, filter⟩ file (Text.lossyText bytes)) ∧
      (aborted? all = none → ∃ f ∈ all, f.file = file)) ∧
    (∀ r : Rule, r.IsMade → ∀ word, r.pattern.IsLiteral word → (∀ ch ∈ word, ch.toNat < 0x80) →
      (r.matchesIn (Text.lossyText bytes) = true ↔ Text.bytesOf word <:+: bytes) ∧
      (r ∈ catalog.rules → (⟨r, file⟩ ∈ violationsIn w.read catalog file ↔
        r.appliesTo (Language.detect? file) = true ∧ Text.bytesOf word <:+: bytes))) ∧
    (bytes.toByteArray.IsValidUTF8 → (Text.lossyText bytes).toUTF8 = bytes.toByteArray) ∧
    ∃ parts, Text.Reads bytes parts ∧
      Text.lossyText bytes = String.ofList (parts.map (·.getD Text.replacement)) := by
  refine ⟨⟨inspectAll w.read ⟨catalog, c.enforcement, filter⟩ files, ?_, ?_, ?_⟩, ?_,
    Text.toUTF8_lossyText, Text.decode bytes, Text.reads_decode bytes, rfl⟩
  · rw [result_run w c globs, found]
  · rintro f member rfl
    have looked := inspectFile?_of_mem member
    rw [inspectFile?, read] at looked
    exact congrArg Inspected.inspection (Option.some.inj looked).symm
  · intro onward
    exact ⟨_, mem_inspectAll onward discovered read, rfl⟩
  · intro r made word literally ascii
    have occurs : r.matchesIn (Text.lossyText bytes) = true ↔ Text.bytesOf word <:+: bytes :=
      matchesIn_lossyText_iff made literally ascii
    refine ⟨occurs, fun rule => ?_⟩
    rw [violationsIn, read, Violation.mem_collect_iff, Violation.found, Bool.and_eq_true, occurs]
    simp [rule]

/-- A world with one file, which is no text: stray bytes stand on both sides of the comment in it. -/
def strayBytes : World where
  top := .directory "src"
    (.file "a.ts" ([0xC3] ++ Text.bytesOf "@ts-ignore".toList ++ [0xE9]) .empty) .empty
  here := []

/-- They do not hide the comment. -/
theorem ascii_violations_by_bytes_strayBytes :
    ∃ filter b r, Filter.ofGlobs [] = .ok filter ∧ Catalog.builtin = .ok b ∧ r ∈ b.rules ∧
      r.id.text = "no-ts-ignore" ∧
      (Walk.discover strayBytes filter ["src"]).files = .ok ["src/a.ts"] ∧
      ⟨r, "src/a.ts"⟩ ∈ violationsIn strayBytes.read b "src/a.ts" := by
  obtain ⟨b, built⟩ := Catalog.exists_builtin
  have written : ∃ d ∈ Catalog.builtinDefinitions, d.id = "no-ts-ignore" ∧
      d.pattern = "@ts-ignore" ∧ d.languages = [.typeScript, .vue] := by decide
  obtain ⟨d, written, named, source, languages⟩ := written
  obtain ⟨r, member, described⟩ :=
    exists_of_forall₂ (Catalog.ofDefinitions_eq_ok_iff.1 built).flip written
  have made : r.IsMade := ⟨d, Rule.ofDefinition_eq_ok_iff.2 described⟩
  rw [← described.id] at named
  have literally := isLiteral_of_builtin built member (by rw [named]; exact .head _)
  rw [Rule.source_of_compile described.pattern, source] at literally
  have applies : r.appliesTo (Language.detect? "src/a.ts") = true := by
    rw [Rule.appliesTo, described.languages, languages]
    decide
  have globs : Filter.ofGlobs { Config.standard with exclude := [] }.exclude = .ok ⟨[]⟩ := rfl
  have visited :
      (Walk.discover strayBytes ⟨[]⟩ ["src"]).files.toOption = some ["src/a.ts"] := by
    decide +kernel
  cases found : (Walk.discover strayBytes ⟨[]⟩ ["src"]).files with
  | error path =>
    rw [found] at visited
    cases visited
  | ok files =>
    rw [found] at visited
    cases visited
    have byBytes := (ascii_violations_by_bytes globs found (.head _) rfl b).2.1 r made _ literally
      (by simp)
    exact ⟨⟨[]⟩, b, r, rfl, built, member, named, found,
      (byBytes.2 member).2 ⟨applies, [0xC3], [0xE9], rfl⟩⟩

end Patrol.Check
