import Mathlib.Data.List.Nodup
import Patrol.Catalog.Basic
import Patrol.Proofs.Pattern.Returns
import Patrol.Proofs.Regex.Context
import Patrol.Proofs.Results
import Patrol.Proofs.Rule.Definition

/-! The rules that come with the program: they make a catalog, and those for certain dialects leave
JavaScript out. -/
namespace Patrol

-- so that the expressions of patterns that are written down can be computed and compared
deriving instance DecidableEq for Regex

/-- A text shows something if its first character does. -/
theorem Text.isBlankText_ofList_cons {c : Char} (shown : isBlank c = false) (cs : List Char) :
    isBlankText (String.ofList (c :: cs)) = false := by
  simp [isBlankText, shown]

theorem Text.isBlankText_append_of_left {a : String} (shown : isBlankText a = false) (b : String) :
    isBlankText (a ++ b) = false := by
  rw [isBlankText, String.toList_append, List.all_append, ← isBlankText, shown, Bool.false_and]

namespace Catalog
open Patrol.Rule (IsDescribedBy)
variable {c : Catalog} {rules : List Rule} {definitions : List Rule.Definition}

/-! ## Catalogs of rules and of definitions -/

theorem find?_eq_none_iff {id : RuleId} : c.find? id = none ↔ id ∉ c.ids := by
  simp only [find?, ids, List.find?_eq_none, List.mem_map, beq_iff_eq, not_exists, not_and]

/-- Rules make a catalog, in their order, unless two of them have the same name. -/
theorem ofRules_eq_ok_iff : ofRules rules = .ok c ↔ c.rules = rules := by
  constructor
  · intro made
    simp only [ofRules] at made
    split at made
    · cases made
    · cases made; rfl
  · intro same
    have none : firstRepeated? (rules.map (·.id)) = none :=
      firstRepeated?_eq_none_iff.2 (same ▸ c.distinct)
    simp only [ofRules]
    split
    · next id some => rw [some] at none; cases none
    · cases c; cases same; rfl

theorem ofRules_eq_error_iff {e : RuleError} :
    ofRules rules = .error e ↔
      ∃ front id back, rules.map (·.id) = front ++ id :: back ∧ front.Nodup ∧ id ∈ front ∧
        e = .duplicate id := by
  constructor
  · intro failed
    simp only [ofRules] at failed
    split at failed
    · next id repeated =>
      cases failed
      obtain ⟨front, back, names, distinct, again⟩ := firstRepeated?_eq_some_iff.1 repeated
      exact ⟨front, id, back, names, distinct, again, rfl⟩
    · cases failed
  · rintro ⟨front, id, back, names, distinct, again, rfl⟩
    have repeated := firstRepeated?_eq_some_iff.2 ⟨front, back, names, distinct, again⟩
    simp only [ofRules]
    split
    · next other some => rw [repeated] at some; cases some; rfl
    · next none => rw [repeated] at none; cases none

/-- Definitions make the catalog of the rules that they describe. -/
theorem ofDefinitions_eq_ok_iff :
    ofDefinitions definitions = .ok c ↔
      List.Forall₂ (fun d (r : Rule) => r.IsDescribedBy d) definitions c.rules := by
  have described : List.Forall₂ (fun d (r : Rule) => r.IsDescribedBy d) definitions c.rules ↔
      definitions.mapM Rule.ofDefinition = .ok c.rules := by
    simp only [mapM_eq_ok_iff, Rule.ofDefinition_eq_ok_iff]
  rw [described, ofDefinitions]
  cases definitions.mapM Rule.ofDefinition with
  | error e => simp [bind, Except.bind]
  | ok rules => simpa [bind, Except.bind, eq_comm] using ofRules_eq_ok_iff

/-- Rules bear the names of their definitions. -/
theorem texts_of_described {rules : List Rule}
    (described : List.Forall₂ (fun d (r : Rule) => r.IsDescribedBy d) definitions rules) :
    rules.map (·.id.text) = definitions.map (·.id) := by
  induction described with
  | nil => rfl
  | cons first _ ih => rw [List.map_cons, List.map_cons, first.id, ih]

theorem nodup_ids_iff : (rules.map (·.id)).Nodup ↔ (rules.map (·.id.text)).Nodup := by
  have texts : rules.map (·.id.text) = (rules.map (·.id)).map RuleId.text := by simp
  rw [texts, List.nodup_map_iff RuleId.text_injective]

/-! ## The rules that come with the program -/

theorem isRuleId_builtin : ∀ d ∈ builtinDefinitions, isRuleId d.id = true := by decide +kernel

theorem titled_builtin : ∀ d ∈ builtinDefinitions, Text.isBlankText d.title = false := by
  decide +kernel

theorem explained_builtin : ∀ d ∈ builtinDefinitions, Text.isBlankText d.message = false := by
  -- the first character of each message is enough; behind it are many more
  simp only [builtinDefinitions, List.forall_mem_cons, List.not_mem_nil, false_implies,
    implies_true, and_true]
  and_intros
  all_goals
    repeat with_reducible apply Text.isBlankText_append_of_left
    apply Text.isBlankText_ofList_cons
    decide

/-- The builtin rules that look at the characters around what they seek. -/
def lookingAround : List String :=
  ["no-var", "no-loose-equality", "no-loose-inequality", "no-any", "no-any-annotation"]

/-- All patterns can be read. None of them asks for what carriage returns change, and only those that
look around have anchors. -/
theorem patterns_builtin :
    ∀ d ∈ builtinDefinitions,
      ((Pattern.compile d.pattern).toOption.map fun p =>
        (Pattern.ignoresReturns p.regex, p.regex.anchorless)) =
        some (true, !lookingAround.contains d.id) := by
  decide +kernel

theorem exists_compile_builtin {d : Rule.Definition} (member : d ∈ builtinDefinitions) :
    ∃ p, Pattern.compile d.pattern = .ok p ∧ Pattern.ignoresReturns p.regex = true ∧
      p.regex.anchorless = !lookingAround.contains d.id := by
  have looked := patterns_builtin d member
  cases compiled : Pattern.compile d.pattern with
  | error e => rw [compiled] at looked; cases looked
  | ok p =>
    rw [compiled] at looked
    obtain ⟨ignores, free⟩ := Prod.mk.inj (Option.some.inj looked)
    exact ⟨p, rfl, ignores, free⟩

theorem nodup_builtin : (builtinDefinitions.map (·.id)).Nodup := by decide +kernel

theorem restricted_builtin :
    ∀ d ∈ builtinDefinitions, d.languages = [] ∨ .javaScript ∉ d.languages := by decide

theorem exists_described {d : Rule.Definition} (member : d ∈ builtinDefinitions) :
    ∃ r : Rule, r.IsDescribedBy d := by
  obtain ⟨pattern, compiled, -⟩ := exists_compile_builtin member
  exact ⟨⟨⟨d.id, isRuleId_builtin d member⟩, pattern, d.title, d.marker, Text.trimEnd d.message,
    d.languages⟩, rfl, rfl, rfl, rfl, rfl, compiled, titled_builtin d member,
    explained_builtin d member⟩

/-- The rules that come with the program make a catalog. -/
theorem exists_builtin : ∃ b, builtin = .ok b := by
  have all : ∀ d ∈ builtinDefinitions, ∃ r, Rule.ofDefinition d = .ok r := fun d member => by
    simpa only [Rule.ofDefinition_eq_ok_iff] using exists_described member
  obtain ⟨rules, made⟩ := mapM_isOk_iff.2 all
  have described := mapM_eq_ok_iff.1 made
  simp only [Rule.ofDefinition_eq_ok_iff] at described
  have distinct : (rules.map (·.id)).Nodup := by
    rw [nodup_ids_iff, texts_of_described described]
    exact nodup_builtin
  exact ⟨⟨rules, distinct⟩, ofDefinitions_eq_ok_iff.2 described⟩

/-- What the patterns of builtin rules are like. -/
theorem pattern_of_builtin {b : Catalog} (built : builtin = .ok b) {r : Rule}
    (member : r ∈ b.rules) :
    Pattern.ignoresReturns r.pattern.regex = true ∧
      r.pattern.regex.anchorless = !lookingAround.contains r.id.text := by
  obtain ⟨d, written, described⟩ := exists_of_forall₂ (ofDefinitions_eq_ok_iff.1 built) member
  obtain ⟨p, compiled, looked⟩ := exists_compile_builtin written
  rw [described.pattern] at compiled
  cases compiled
  rwa [described.id]

/-- The names of the builtin rules are those that are written down. -/
theorem mem_ids_builtin {b : Catalog} (built : builtin = .ok b) {id : RuleId} :
    id ∈ b.ids ↔ id.text ∈ builtinDefinitions.map (·.id) := by
  have texts : b.ids.map RuleId.text = builtinDefinitions.map (·.id) := by
    rw [← texts_of_described (ofDefinitions_eq_ok_iff.1 built), ids, List.map_map]
    rfl
  rw [← texts, List.mem_map_of_injective RuleId.text_injective]

/-- The builtin rule of a name, with the expression that its pattern writes. -/
theorem exists_builtin_rule {b : Catalog} (built : builtin = .ok b) {name : String}
    {e : Regex Pattern.Anchor}
    (written : ∃ d ∈ builtinDefinitions, d.id = name ∧
      (Pattern.compile d.pattern).toOption.map (·.regex) = some e) :
    ∃ r ∈ b.rules, r.id.text = name ∧ r.pattern.regex = e := by
  obtain ⟨d, member, rfl, compiled⟩ := written
  obtain ⟨r, rule, described⟩ := exists_of_forall₂ (ofDefinitions_eq_ok_iff.1 built).flip member
  rw [described.pattern] at compiled
  cases compiled
  exact ⟨r, rule, described.id, rfl⟩

/-- A builtin rule for certain dialects is not for JavaScript. -/
theorem not_javaScript_of_builtin {b : Catalog} (built : builtin = .ok b) {r : Rule}
    (member : r ∈ b.rules) : r.languages = [] ∨ .javaScript ∉ r.languages := by
  obtain ⟨d, written, described⟩ := exists_of_forall₂ (ofDefinitions_eq_ok_iff.1 built) member
  rw [described.languages]
  exact restricted_builtin d written

end Catalog
end Patrol
