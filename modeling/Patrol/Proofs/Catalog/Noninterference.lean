import Patrol.Proofs.Catalog.Selection
import Patrol.Violation

/-! What a selection changes in what is found: the builtin rules that it drops are not found any
more, its own rules are found behind the others, and all else stays as it is. -/
namespace Patrol

namespace Rule
variable {r : Rule} {language? : Option Language}

/-- JavaScript, and files of no dialect, are the business of rules for every file only. -/
theorem languages_eq_nil_of_appliesTo (untyped : r.languages = [] ∨ .javaScript ∉ r.languages)
    (plain : language? = some .javaScript ∨ language? = none)
    (applies : r.appliesTo language? = true) : r.languages = [] := by
  obtain none | without := untyped
  · exact none
  · obtain rfl | rfl := plain
    · simpa [appliesTo, without] using applies
    · simpa [appliesTo] using applies

end Rule

namespace Violation
open Catalog (builtin ofSelection)
variable {b c : Catalog} {file text : String}

/-- The violations of some rules in a file. -/
def ofRules (rules : List Rule) (file text : String) : List Violation :=
  (rules.filter (found file text)).map (⟨·, file⟩)

theorem ofRules_append (front back : List Rule) (file text : String) :
    ofRules (front ++ back) file text = ofRules front file text ++ ofRules back file text := by
  simp [ofRules]

/-- Rules that are dropped are not found, and the others are found as before. -/
theorem ofRules_filter (keep : Rule → Bool) (rules : List Rule) (file text : String) :
    ofRules (rules.filter keep) file text =
      (ofRules rules file text).filter fun v => keep v.rule := by
  simp only [ofRules, List.filter_map, List.filter_filter, Function.comp_def, Bool.and_comm]

theorem mem_collect_iff {v : Violation} :
    v ∈ collect c file text ↔
      v.rule ∈ c.rules ∧ found file text v.rule = true ∧ v.file = file := by
  cases v
  simp only [collect, List.mem_map, List.mem_filter, Violation.mk.injEq]
  grind

/-- The violations that come of a selection. -/
theorem collect_ofSelection (built : builtin = .ok b) {s : RuleSelection}
    (made : ofSelection s = .ok c) :
    ∃ own, Catalog.Describes s own ∧ ∀ file text,
      collect c file text =
        ((collect b file text).filter fun v => s.Leaves v.rule) ++ ofRules own file text := by
  obtain ⟨-, own, described, rules⟩ := (Catalog.ofSelection_eq_ok_iff built).1 made
  refine ⟨own, described, fun file text => ?_⟩
  have whole : collect c file text = ofRules (b.kept s ++ own) file text := by rw [← rules]; rfl
  rw [whole, ofRules_append, Catalog.kept, ofRules_filter]
  rfl

/-- Whether rules for certain dialects are kept does not matter to what is found in JavaScript. -/
theorem filter_leaves_congr (built : builtin = .ok b) (s : RuleSelection) (typed : Bool)
    (plain : Language.detect? file = some .javaScript ∨ Language.detect? file = none) :
    ((collect b file text).filter fun v => RuleSelection.Leaves { s with typed } v.rule) =
      (collect b file text).filter fun v => s.Leaves v.rule := by
  refine List.filter_congr fun v member => decide_eq_decide.2 ?_
  obtain ⟨known, occurs, -⟩ := mem_collect_iff.1 member
  have applies := (Bool.and_eq_true_iff.1 occurs).1
  have always : v.rule.languages = [] :=
    Rule.languages_eq_nil_of_appliesTo (Catalog.not_javaScript_of_builtin built known) plain applies
  simp [RuleSelection.Leaves, always]

/-- **A selection changes what it names.** What is found are the builtin rules but for those that
are disabled and, without types, those for certain dialects; then the custom rules that hold for the
file and occur in it, in their order. Two selections that differ in the types alone find the same in
JavaScript and in files of no dialect. -/
theorem selection_changes_what_it_names {s : RuleSelection} (made : ofSelection s = .ok c) :
    ∃ b own, builtin = .ok b ∧ s.custom.mapM Rule.ofDefinition = .ok own ∧
      (∀ file text,
        (collect c file text).map (·.rule.id) =
          ((collect b file text).filter fun v =>
            v.rule.id ∉ s.disabled ∧ (s.typed = true ∨ v.rule.languages = [])).map (·.rule.id) ++
          (own.filter fun r =>
            r.appliesTo (Language.detect? file) && r.matchesIn text).map (·.id)) ∧
      ∀ typed c', ofSelection { s with typed } = .ok c' → ∀ file text,
        Language.detect? file = some .javaScript ∨ Language.detect? file = none →
          collect c' file text = collect c file text := by
  obtain ⟨b, built⟩ := Catalog.exists_builtin
  obtain ⟨own, described, found⟩ := collect_ofSelection built made
  refine ⟨b, own, built, Catalog.describes_iff.1 described, ?_, ?_⟩
  · intro file text
    have left : ((collect b file text).filter fun v => s.Leaves v.rule) =
        (collect b file text).filter fun v =>
          v.rule.id ∉ s.disabled ∧ (s.typed = true ∨ v.rule.languages = []) :=
      List.filter_congr fun v _ => decide_eq_decide.2 Iff.rfl
    have names : (ofRules own file text).map (·.rule.id) =
        (own.filter (Violation.found file text)).map (·.id) := by
      simp [ofRules]
    rw [found, List.map_append, left, names]
    rfl
  · intro typed c' made' file text plain
    obtain ⟨own', described', found'⟩ := collect_ofSelection built made'
    have same : own' = own := by
      have read := Catalog.describes_iff.1 described
      have read' := Catalog.describes_iff.1 described'
      exact Except.ok.inj (read'.symm.trans read)
    rw [found, found', filter_leaves_congr built s typed plain, same]

/-- A selection without types and without `no-var`, and with a rule of its own. -/
def ownRuleOnly : RuleSelection where
  typed := false
  disabled := [⟨"no-var", by decide⟩]
  custom := [⟨"no-debugger", "Debugger", "*", "debugger", "Remove it.", []⟩]

/-- A selection gives a catalog here, with types or without. -/
theorem exists_ofSelection_ownRuleOnly (typed : Bool) :
    ∃ c, ofSelection { ownRuleOnly with typed } = .ok c := by
  obtain ⟨b, built⟩ := Catalog.exists_builtin
  refine (Catalog.ofSelection_isOk_iff built).2 ⟨?_, ?_, ?_, ?_⟩
  · exact List.forall_mem_singleton.2 ((Catalog.mem_ids_builtin built).2 (by decide +kernel))
  · exact List.forall_mem_singleton.2 ⟨_, rfl⟩
  · exact List.nodup_singleton _
  · intro r member _
    have known := (Catalog.mem_ids_builtin built).1 (List.mem_map_of_mem member)
    refine List.forall_mem_singleton.2 fun same => ?_
    rw [← same] at known
    exact absurd known (by decide +kernel)

theorem selection_changes_what_it_names_ownRuleOnly :
    ∃ c c' b own, ofSelection ownRuleOnly = .ok c ∧
      ofSelection { ownRuleOnly with typed := true } = .ok c' ∧ builtin = .ok b ∧
      ownRuleOnly.custom.mapM Rule.ofDefinition = .ok own ∧
      (collect c "b.ts" "debugger").map (·.rule.id) =
        ((collect b "b.ts" "debugger").filter fun v =>
          v.rule.id ∉ ownRuleOnly.disabled ∧
            (ownRuleOnly.typed = true ∨ v.rule.languages = [])).map (·.rule.id) ++
        (own.filter fun r =>
          r.appliesTo (Language.detect? "b.ts") && r.matchesIn "debugger").map (·.id) ∧
      collect c' "a.js" "debugger" = collect c "a.js" "debugger" := by
  obtain ⟨c, made⟩ := exists_ofSelection_ownRuleOnly false
  obtain ⟨c', made'⟩ := exists_ofSelection_ownRuleOnly true
  obtain ⟨b, own, built, described, names, plain⟩ := selection_changes_what_it_names made
  exact ⟨c, c', b, own, made, made', built, described, names "b.ts" "debugger",
    plain true c' made' "a.js" "debugger" (.inl (by decide))⟩

end Violation
end Patrol
