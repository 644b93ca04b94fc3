import Mathlib.Data.List.Nodup
import Patrol.Proofs.Catalog.Noninterference
import Patrol.Proofs.Regex.Search

/-! The ways in which catalogs are built. Each way gives rules in an order of its own; they make a
catalog, in that order, exactly if their names differ. So a name stands for one rule at most, and
no rule is found twice in a file. -/
namespace Patrol

namespace Catalog
open Patrol.Rule (IsDescribedBy)
variable {c : Catalog} {definitions : List Rule.Definition}

/-- What a catalog can be built from. -/
inductive Source where
  | rules (rules : List Rule)
  | definitions (definitions : List Rule.Definition)
  | document (text : String)
  | builtin
  | selection (s : RuleSelection)

namespace Source

def build : Source → Except RuleError Catalog
  | .rules all => ofRules all
  | .definitions all => ofDefinitions all
  | .document text => parse text
  | .builtin => Catalog.builtin
  | .selection s => ofSelection s

/-- The rules that are there to make a catalog of, in their order. -/
inductive Gives : Source → List Rule → Prop where
  | rules (rules : List Rule) : Gives (.rules rules) rules
  | definitions {definitions : List Rule.Definition} {rules : List Rule}
      (described : List.Forall₂ (fun d (r : Rule) => r.IsDescribedBy d) definitions rules) :
      Gives (.definitions definitions) rules
  | document {text : String} {definitions : List Rule.Definition} {rules : List Rule}
      (read : readDefinitions text = .ok definitions)
      (described : List.Forall₂ (fun d (r : Rule) => r.IsDescribedBy d) definitions rules) :
      Gives (.document text) rules
  | builtin {rules : List Rule}
      (described : List.Forall₂ (fun d (r : Rule) => r.IsDescribedBy d) builtinDefinitions rules) :
      Gives .builtin rules
  | selection {s : RuleSelection} {b : Catalog} {own : List Rule}
      (built : Catalog.builtin = .ok b) (known : ∀ id ∈ s.disabled, id ∈ b.ids)
      (described : List.Forall₂ (fun d (r : Rule) => r.IsDescribedBy d) s.custom own) :
      Gives (.selection s) (b.rules.filter (fun r => s.Leaves r) ++ own)

end Source

/-! ## Each way of building -/

theorem ofDefinitions_eq (definitions : List Rule.Definition) :
    ofDefinitions definitions =
      match definitions.mapM Rule.ofDefinition with
      | .error e => .error e
      | .ok rules => ofRules rules := by
  rw [ofDefinitions]
  cases definitions.mapM Rule.ofDefinition <;> rfl

/-- A document makes the catalog of the definitions in it. -/
theorem parse_eq_ok_iff {text : String} :
    parse text = .ok c ↔
      ∃ definitions, readDefinitions text = .ok definitions ∧
        ofDefinitions definitions = .ok c := by
  rw [parse]
  cases readDefinitions text with
  | error e => simp [bind, Except.bind, Except.mapError]
  | ok definitions => simp [bind, Except.bind, Except.mapError]

/-- Definitions do not make a catalog if one of them describes no rule. Only where all of them do is
it looked at whether a name is there before. -/
theorem ofDefinitions_eq_error_iff {e : RuleError} :
    ofDefinitions definitions = .error e ↔
      (∃ front d back, definitions = front ++ d :: back ∧
        (∀ x ∈ front, ∃ r, Rule.ofDefinition x = .ok r) ∧ Rule.ofDefinition d = .error e) ∨
      ∃ rules, definitions.mapM Rule.ofDefinition = .ok rules ∧
        ∃ front id back, rules.map (·.id) = front ++ id :: back ∧ front.Nodup ∧ id ∈ front ∧
          e = .duplicate id := by
  rw [ofDefinitions_eq, ← mapM_eq_error_iff]
  cases definitions.mapM Rule.ofDefinition with
  | error wrong => simp
  | ok rules =>
    have apart : (Except.ok rules : Except RuleError (List Rule)) ≠ .error e := nofun
    simp only [apart, false_or, Except.ok.injEq, exists_eq_left']
    exact ofRules_eq_error_iff

/-- Where all definitions describe rules, what can be wrong is that a name is there twice. -/
theorem ofDefinitions_fails_iff {rules : List Rule}
    (made : definitions.mapM Rule.ofDefinition = .ok rules) :
    (∃ e, ofDefinitions definitions = .error e) ↔ ¬(definitions.map (·.id)).Nodup := by
  have described : List.Forall₂ (fun d (r : Rule) => r.IsDescribedBy d) definitions rules := by
    simpa only [Rule.ofDefinition_eq_ok_iff] using mapM_eq_ok_iff.1 made
  have names : (definitions.map (·.id)).Nodup ↔ (rules.map (·.id)).Nodup := by
    rw [nodup_ids_iff, texts_of_described described]
  rw [ofDefinitions_eq, made, names]
  change (∃ e, ofRules rules = .error e) ↔ _
  cases same : ofRules rules with
  | error e =>
    obtain ⟨front, id, back, ids, -, again, -⟩ := ofRules_eq_error_iff.1 same
    have repeated : ¬(rules.map (·.id)).Nodup := by
      rw [ids, List.nodup_append]
      exact fun distinct => distinct.2.2 id again id (.head _) rfl
    exact ⟨fun _ => repeated, fun _ => ⟨e, rfl⟩⟩
  | ok c =>
    have distinct : (rules.map (·.id)).Nodup := ofRules_eq_ok_iff.1 same ▸ c.distinct
    exact ⟨nofun, fun repeated => absurd distinct repeated⟩

/-- A catalog is built exactly if there are rules for it with different names, and it holds them in
their order. -/
theorem Source.build_eq_ok_iff {source : Source} :
    source.build = .ok c ↔
      ∃ rules, source.Gives rules ∧ (rules.map (·.id)).Nodup ∧ c.rules = rules := by
  have enough (gives : source.Gives c.rules) :
      ∃ rules, source.Gives rules ∧ (rules.map (·.id)).Nodup ∧ c.rules = rules :=
    ⟨c.rules, gives, c.distinct, rfl⟩
  cases source with
  | rules rules =>
    rw [build, ofRules_eq_ok_iff]
    constructor
    · rintro rfl
      exact enough (.rules c.rules)
    · rintro ⟨_, gives, -, same⟩
      cases gives
      exact same
  | definitions definitions =>
    rw [build, ofDefinitions_eq_ok_iff]
    constructor
    · intro described
      exact enough (.definitions described)
    · rintro ⟨_, gives, -, rfl⟩
      cases gives with
      | definitions described => exact described
  | document text =>
    simp only [build, parse_eq_ok_iff, ofDefinitions_eq_ok_iff]
    constructor
    · rintro ⟨definitions, read, described⟩
      exact enough (.document read described)
    · rintro ⟨_, gives, -, rfl⟩
      cases gives with
      | document read described => exact ⟨_, read, described⟩
  | builtin =>
    rw [build, Catalog.builtin, ofDefinitions_eq_ok_iff]
    constructor
    · intro described
      exact enough (.builtin described)
    · rintro ⟨_, gives, -, rfl⟩
      cases gives with
      | builtin described => exact described
  | selection s =>
    obtain ⟨b, built⟩ := exists_builtin
    rw [build, ofSelection_eq_ok_iff built]
    constructor
    · rintro ⟨known, own, described, rules⟩
      exact enough (rules ▸ .selection built known described)
    · rintro ⟨_, gives, -, rules⟩
      cases gives with
      | selection built' known described =>
        cases built.symm.trans built'
        exact ⟨known, _, described, rules⟩

/-- The rules of a catalog come of definitions, whatever it is built from: rules that are given as
such have to do so already. -/
theorem Source.isMade_of_build {source : Source} (built : source.build = .ok c)
    (given : ∀ rules, source = .rules rules → ∀ r ∈ rules, r.IsMade) : ∀ r ∈ c.rules, r.IsMade := by
  have made {definitions : List Rule.Definition} {rules : List Rule}
      (described : List.Forall₂ (fun d (r : Rule) => r.IsDescribedBy d) definitions rules) :
      ∀ r ∈ rules, r.IsMade := by
    intro r member
    obtain ⟨i, inside, rfl⟩ := List.mem_iff_getElem.1 member
    have before : i < definitions.length := described.length_eq ▸ inside
    have own := (List.forall₂_iff_get.1 described).2 i before inside
    exact ⟨definitions[i], Rule.ofDefinition_eq_ok_iff.2 own⟩
  obtain ⟨rules, gives, -, same⟩ := Source.build_eq_ok_iff.1 built
  rw [same]
  cases gives with
  | rules rules => exact given rules rfl
  | definitions described => exact made described
  | document read described => exact made described
  | builtin described => exact made described
  | @selection s b own standard known described =>
    intro r member
    obtain member | member := List.mem_append.1 member
    · have standardRule := List.mem_of_mem_filter member
      exact made (ofDefinitions_eq_ok_iff.1 standard) r standardRule
    · exact made described r member

/-! ## What a catalog gives for a name, and what is found with it -/

theorem find?_eq_some_iff {id : RuleId} {r : Rule} :
    c.find? id = some r ↔ r ∈ c.rules ∧ r.id = id := by
  constructor
  · intro found
    exact ⟨List.mem_of_find?_eq_some found, by simpa using List.find?_some found⟩
  · rintro ⟨member, rfl⟩
    cases found : c.find? r.id with
    | none => exact absurd (List.mem_map_of_mem member) (find?_eq_none_iff.1 found)
    | some other =>
      have there : other ∈ c.rules := List.mem_of_find?_eq_some found
      have named : other.id = r.id := by simpa using List.find?_some found
      rw [List.inj_on_of_nodup_map c.distinct there member named]

theorem exists_find?_iff {id : RuleId} : (∃ r, c.find? id = some r) ↔ id ∈ c.ids := by
  rw [← Option.isSome_iff_exists, ← Option.ne_none_iff_isSome, ne_eq, find?_eq_none_iff, not_not]

end Catalog

theorem Rule.matchesIn_iff {r : Rule} {text : String} :
    r.matchesIn text = true ↔ r.pattern.regex.Occurs text.toList :=
  Regex.occursIn_iff r.pattern.regex text.toList

namespace Violation
variable {c : Catalog} {file text : String}

theorem found_iff {r : Rule} :
    found file text r = true ↔
      r.appliesTo (Language.detect? file) = true ∧ r.pattern.regex.Occurs text.toList := by
  rw [found, Bool.and_eq_true, Rule.matchesIn_iff]

/-- The rules that are found stand in the order of the catalog. -/
theorem ids_collect_sublist (c : Catalog) (file text : String) :
    ((collect c file text).map (·.rule.id)).Sublist c.ids := by
  have ids : (collect c file text).map (·.rule.id) =
      (c.rules.filter (found file text)).map (·.id) := by
    rw [collect, List.map_map]
    rfl
  rw [ids]
  exact List.filter_sublist.map _

theorem mem_ids_collect_iff {id : RuleId} :
    id ∈ (collect c file text).map (·.rule.id) ↔
      ∃ r ∈ c.rules, r.id = id ∧ r.appliesTo (Language.detect? file) = true ∧
        r.pattern.regex.Occurs text.toList := by
  simp only [List.mem_map, mem_collect_iff, found_iff]
  constructor
  · rintro ⟨v, ⟨member, occurs, -⟩, named⟩
    exact ⟨v.rule, member, named, occurs⟩
  · rintro ⟨r, member, named, occurs⟩
    exact ⟨⟨r, file⟩, ⟨member, occurs, rfl⟩, named⟩

/-- Nothing counts but whether a pattern occurs. -/
theorem collect_congr {other : String}
    (alike : ∀ r ∈ c.rules,
      r.pattern.regex.Occurs text.toList ↔ r.pattern.regex.Occurs other.toList) :
    collect c file text = collect c file other := by
  have same : c.rules.filter (found file text) = c.rules.filter (found file other) := by
    refine List.filter_congr fun r member => ?_
    rw [Bool.eq_iff_iff, found_iff, found_iff, alike r member]
  rw [collect, collect, same]

end Violation

/-- **A catalog holds each name once.** Whatever a catalog is built from, it is built exactly if the
rules for it have different names, and it holds them in their order. Definitions fail with the first
of them that describes no rule, even if names are repeated; else with the first name that is there
before, if there is one. The rule of a name is given exactly if the name is in the catalog. What is
found in a file are different names in the order of the catalog: those of the rules that hold for
the file and whose patterns occur in its text, wherever and however often they do. -/
theorem Catalog.holds_each_name_once :
    (∀ (source : Source) (c : Catalog), source.build = .ok c ↔
      ∃ rules, source.Gives rules ∧ (rules.map (·.id)).Nodup ∧ c.rules = rules) ∧
    (∀ definitions,
      (∀ e, ofDefinitions definitions = .error e ↔
        (∃ front d back, definitions = front ++ d :: back ∧
          (∀ x ∈ front, ∃ r, Rule.ofDefinition x = .ok r) ∧ Rule.ofDefinition d = .error e) ∨
        ∃ rules, definitions.mapM Rule.ofDefinition = .ok rules ∧
          ∃ front id back, rules.map (·.id) = front ++ id :: back ∧ front.Nodup ∧ id ∈ front ∧
            e = .duplicate id) ∧
      ((∀ d ∈ definitions, ∃ r, Rule.ofDefinition d = .ok r) →
        ((∃ e, ofDefinitions definitions = .error e) ↔ ¬(definitions.map (·.id)).Nodup))) ∧
    ∀ c : Catalog,
      (∀ id r, c.find? id = some r ↔ r ∈ c.rules ∧ r.id = id) ∧
      (∀ id, (∃ r, c.find? id = some r) ↔ id ∈ c.ids) ∧
      ∀ file text,
        ((Violation.collect c file text).map (·.rule.id)).Nodup ∧
        ((Violation.collect c file text).map (·.rule.id)).Sublist c.ids ∧
        (∀ id, id ∈ (Violation.collect c file text).map (·.rule.id) ↔
          ∃ r ∈ c.rules, r.id = id ∧ r.appliesTo (Language.detect? file) = true ∧
            r.pattern.regex.Occurs text.toList) ∧
        ∀ other : String,
          (∀ r ∈ c.rules,
            r.pattern.regex.Occurs text.toList ↔ r.pattern.regex.Occurs other.toList) →
          Violation.collect c file text = Violation.collect c file other := by
  refine ⟨fun source c => Source.build_eq_ok_iff, fun definitions => ⟨fun e => ?_, fun fine => ?_⟩,
    fun c => ⟨fun id r => find?_eq_some_iff, fun id => exists_find?_iff, fun file text => ?_⟩⟩
  · exact ofDefinitions_eq_error_iff
  · obtain ⟨rules, made⟩ := mapM_isOk_iff.2 fine
    exact ofDefinitions_fails_iff made
  · have inOrder := Violation.ids_collect_sublist c file text
    exact ⟨c.distinct.sublist inOrder, inOrder, fun id => Violation.mem_ids_collect_iff,
      fun other alike => Violation.collect_congr alike⟩

end Patrol
