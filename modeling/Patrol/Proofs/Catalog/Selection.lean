import Patrol.Proofs.Catalog.Builtin

/-! Which catalog a selection gives, and what is said where it gives none. Three things can be wrong
with a selection; they are looked for one after the other, each in the order of its list. -/
namespace Patrol

/-- Whether a builtin rule is left by a selection. -/
def RuleSelection.Leaves (s : RuleSelection) (r : Rule) : Prop :=
  r.id ∉ s.disabled ∧ (s.typed = true ∨ r.languages = [])

instance (s : RuleSelection) : DecidablePred s.Leaves :=
  fun r => inferInstanceAs (Decidable (r.id ∉ s.disabled ∧ (s.typed = true ∨ r.languages = [])))

namespace Catalog
open Patrol.Rule (IsDescribedBy)
variable {b c : Catalog} {s : RuleSelection}

theorem keeps_eq (s : RuleSelection) : keeps s = fun r => decide (s.Leaves r) := by
  funext r
  rw [Bool.eq_iff_iff, decide_eq_true_iff]
  simp [keeps, RuleSelection.Leaves]

/-- The builtin rules that a selection leaves. -/
def kept (b : Catalog) (s : RuleSelection) : List Rule := b.rules.filter fun r => s.Leaves r

/-- The names in front of which the custom rules of a selection stand, and their own. -/
def names (b : Catalog) (s : RuleSelection) (own : List Rule) : List RuleId :=
  (kept b s).map (·.id) ++ own.map (·.id)

/-- Whether all that a selection disables is builtin. -/
def Known (b : Catalog) (s : RuleSelection) : Prop := ∀ id ∈ s.disabled, id ∈ b.ids

/-- Whether rules are those of the custom definitions of a selection. -/
def Describes (s : RuleSelection) (own : List Rule) : Prop :=
  List.Forall₂ (fun d (r : Rule) => r.IsDescribedBy d) s.custom own

theorem describes_iff {own : List Rule} :
    Describes s own ↔ s.custom.mapM Rule.ofDefinition = .ok own := by
  simp only [Describes, mapM_eq_ok_iff, Rule.ofDefinition_eq_ok_iff]

/-- The three steps in which a selection is looked at. -/
theorem ofSelection_eq (built : builtin = .ok b) (s : RuleSelection) :
    ofSelection s =
      match s.disabled.find? fun id => (b.find? id).isNone with
      | some id => .error (.notFound id)
      | none =>
        match s.custom.mapM Rule.ofDefinition with
        | .error e => .error e
        | .ok own => ofRules (kept b s ++ own) := by
  rw [ofSelection, built]
  simp only [kept, keeps_eq, bind, Except.bind, throw, throwThe, MonadExceptOf.throw]
  cases s.disabled.find? fun id => (b.find? id).isNone with
  | some id => rfl
  | none => cases s.custom.mapM Rule.ofDefinition <;> rfl

theorem find?_unknown_eq_none_iff :
    (s.disabled.find? fun id => (b.find? id).isNone) = none ↔ Known b s := by
  simp only [List.find?_eq_none, Option.isNone_iff_eq_none, find?_eq_none_iff, not_not, Known]

theorem not_known_of_find? {id : RuleId}
    (unknown : (s.disabled.find? fun id => (b.find? id).isNone) = some id) : ¬Known b s := by
  intro known
  rw [find?_unknown_eq_none_iff.2 known] at unknown
  cases unknown

theorem find?_unknown_eq_some_iff {id : RuleId} :
    (s.disabled.find? fun id => (b.find? id).isNone) = some id ↔
      ∃ front back, s.disabled = front ++ id :: back ∧ (∀ k ∈ front, k ∈ b.ids) ∧ id ∉ b.ids := by
  simp only [List.find?_eq_some_iff_append, Bool.not_eq_true', Option.isNone_iff_eq_none,
    find?_eq_none_iff, Option.isNone_eq_false_iff]
  have known (k : RuleId) : (b.find? k).isSome = true ↔ k ∈ b.ids := by
    rw [← Option.ne_none_iff_isSome, ne_eq, find?_eq_none_iff, not_not]
  simp only [known]
  grind

/-- Where all is well, the builtin rules that are left come first, and then the custom ones. -/
theorem ofSelection_eq_ok_iff (built : builtin = .ok b) :
    ofSelection s = .ok c ↔
      Known b s ∧ ∃ own, Describes s own ∧ c.rules = kept b s ++ own := by
  rw [ofSelection_eq built]
  cases unknown : s.disabled.find? fun id => (b.find? id).isNone with
  | some id => simp [not_known_of_find? unknown]
  | none =>
    have known := find?_unknown_eq_none_iff.1 unknown
    simp only [known, true_and, describes_iff]
    cases s.custom.mapM Rule.ofDefinition with
    | error e => simp
    | ok own => simpa using ofRules_eq_ok_iff

/-- What is said where it is not: the first name that is not builtin, then what is wrong with the
first custom definition, then the first name that was there before. -/
theorem ofSelection_eq_error_iff (built : builtin = .ok b) {e : RuleError} :
    ofSelection s = .error e ↔
      (∃ front id back, s.disabled = front ++ id :: back ∧ (∀ k ∈ front, k ∈ b.ids) ∧
        id ∉ b.ids ∧ e = .notFound id) ∨
      (Known b s ∧ ∃ front d back, s.custom = front ++ d :: back ∧
        (∀ x ∈ front, ∃ r, Rule.ofDefinition x = .ok r) ∧ Rule.ofDefinition d = .error e) ∨
      (Known b s ∧ ∃ own, Describes s own ∧ ∃ front id back,
        names b s own = front ++ id :: back ∧ front.Nodup ∧ id ∈ front ∧ e = .duplicate id) := by
  rw [ofSelection_eq built]
  cases unknown : s.disabled.find? fun id => (b.find? id).isNone with
  | some id =>
    have found := find?_unknown_eq_some_iff.1 unknown
    simp only [not_known_of_find? unknown, false_and, or_false, Except.error.injEq]
    constructor
    · rintro rfl
      obtain ⟨front, back, disabled, known, missing⟩ := found
      exact ⟨front, id, back, disabled, known, missing, rfl⟩
    · rintro ⟨front, first, back, disabled, known, missing, rfl⟩
      have same := find?_unknown_eq_some_iff.2 ⟨front, back, disabled, known, missing⟩
      rw [same] at unknown
      cases unknown
      rfl
  | none =>
    have known := find?_unknown_eq_none_iff.1 unknown
    have noneMissing : ¬∃ front id back, s.disabled = front ++ id :: back ∧
        (∀ k ∈ front, k ∈ b.ids) ∧ id ∉ b.ids ∧ e = .notFound id := by
      rintro ⟨front, id, back, disabled, -, missing, -⟩
      exact missing (known id (by simp [disabled]))
    simp only [noneMissing, known, true_and, false_or, describes_iff]
    cases made : s.custom.mapM Rule.ofDefinition with
    | error e' => simpa [made] using @mapM_eq_error_iff _ _ _ Rule.ofDefinition s.custom e
    | ok own =>
      have noneWrong : ¬∃ front d back, s.custom = front ++ d :: back ∧
          (∀ x ∈ front, ∃ r, Rule.ofDefinition x = .ok r) ∧ Rule.ofDefinition d = .error e := by
        intro wrong
        have failed := mapM_eq_error_iff.2 wrong
        rw [made] at failed
        cases failed
      simp only [noneWrong, false_or, Except.ok.injEq, exists_eq_left']
      rw [ofRules_eq_error_iff, List.map_append]
      rfl

/-- The names are different if the custom definitions name different rules, and none of those that
are left. -/
theorem nodup_names_iff {own : List Rule} (described : Describes s own) :
    (names b s own).Nodup ↔
      (s.custom.map (·.id)).Nodup ∧ ∀ r ∈ b.rules, s.Leaves r → ∀ d ∈ s.custom, d.id ≠ r.id.text := by
  have texts := texts_of_described described
  have left : ((kept b s).map (·.id)).Nodup := b.distinct.sublist (List.filter_sublist.map _)
  have apart : (∀ r ∈ kept b s, ∀ o ∈ own, r.id ≠ o.id) ↔
      ∀ r ∈ b.rules, s.Leaves r → ∀ d ∈ s.custom, d.id ≠ r.id.text := by
    have among (text : String) : (∃ o ∈ own, o.id.text = text) ↔ ∃ d ∈ s.custom, d.id = text := by
      rw [← List.mem_map, ← List.mem_map, texts]
    constructor
    · intro apart r member leaves d written same
      obtain ⟨o, there, named⟩ := (among r.id.text).2 ⟨d, written, same⟩
      refine apart r (List.mem_filter.2 ⟨member, by simpa using leaves⟩) o there ?_
      cases hr : r.id; cases ho : o.id
      simpa [hr, ho, eq_comm] using named
    · intro apart r member o there same
      obtain ⟨member, leaves⟩ := List.mem_filter.1 member
      obtain ⟨d, written, named⟩ := (among r.id.text).1 ⟨o, there, by rw [same]⟩
      exact apart r member (by simpa using leaves) d written named
  have distinct := @nodup_ids_iff own
  rw [texts] at distinct
  rw [names, List.nodup_append, distinct, ← apart]
  simp [left]

/-- A selection gives a catalog if what it disables is builtin, its own definitions describe rules,
and the names are different. -/
theorem ofSelection_isOk_iff (built : builtin = .ok b) :
    (∃ c, ofSelection s = .ok c) ↔
      Known b s ∧ (∀ d ∈ s.custom, ∃ r, Rule.ofDefinition d = .ok r) ∧
        (s.custom.map (·.id)).Nodup ∧
        ∀ r ∈ b.rules, s.Leaves r → ∀ d ∈ s.custom, d.id ≠ r.id.text := by
  simp only [ofSelection_eq_ok_iff built]
  constructor
  · rintro ⟨c, known, own, described, rules⟩
    have fine := mapM_isOk_iff.1 ⟨own, describes_iff.1 described⟩
    have distinct : (names b s own).Nodup := by
      have distinct := c.distinct
      rwa [rules, List.map_append] at distinct
    exact ⟨known, fine, (nodup_names_iff described).1 distinct⟩
  · rintro ⟨known, fine, distinct⟩
    obtain ⟨own, made⟩ := mapM_isOk_iff.2 fine
    have described := describes_iff.2 made
    have distinct : ((kept b s ++ own).map (·.id)).Nodup := by
      rw [List.map_append]
      exact (nodup_names_iff described).2 distinct
    exact ⟨⟨kept b s ++ own, distinct⟩, known, own, described, rfl⟩

theorem exists_ofSelection_standard : ∃ c, ofSelection .standard = .ok c := by
  obtain ⟨b, built⟩ := exists_builtin
  exact (ofSelection_isOk_iff built).2 ⟨nofun, nofun, List.nodup_nil, nofun⟩

/-- The order and the number of times in which rules are disabled do not count. -/
theorem ofSelection_congr (built : builtin = .ok b) (made : ofSelection s = .ok c)
    {disabled : List RuleId} (same : ∀ id, id ∈ disabled ↔ id ∈ s.disabled) :
    ofSelection { s with disabled } = .ok c := by
  obtain ⟨known, own, described, rules⟩ := (ofSelection_eq_ok_iff built).1 made
  have keptSame : kept b { s with disabled } = kept b s := by
    refine List.filter_congr fun r _ => decide_eq_decide.2 ?_
    simp only [RuleSelection.Leaves, same]
  refine (ofSelection_eq_ok_iff built).2 ⟨fun id member => known id ((same id).1 member), own,
    described, ?_⟩
  rw [keptSame, rules]

/-- **What a selection gives.** There is a catalog if all that is disabled is builtin, each custom
definition describes a rule, and the custom names differ from each other and from those of the
builtin rules that are left. It holds these builtin rules in their order and then the custom ones,
whatever the order in which rules are disabled. Otherwise the first unknown name is told, or else
what is wrong with the first custom definition, or else the first name that is there twice. -/
theorem ofSelection_exact :
    ∃ b, builtin = .ok b ∧ ∀ s : RuleSelection,
      ((∃ c, ofSelection s = .ok c) ↔
        (∀ id ∈ s.disabled, id ∈ b.ids) ∧ (∀ d ∈ s.custom, ∃ r, Rule.ofDefinition d = .ok r) ∧
        (s.custom.map (·.id)).Nodup ∧
        ∀ r ∈ b.rules, s.Leaves r → ∀ d ∈ s.custom, d.id ≠ r.id.text) ∧
      (∀ c, ofSelection s = .ok c →
        (∃ own, s.custom.mapM Rule.ofDefinition = .ok own ∧
          c.rules = b.rules.filter (fun r => s.Leaves r) ++ own) ∧
        ∀ disabled, (∀ id, id ∈ disabled ↔ id ∈ s.disabled) →
          ofSelection { s with disabled } = .ok c) ∧
      ∀ e, ofSelection s = .error e ↔
        (∃ front id back, s.disabled = front ++ id :: back ∧ (∀ k ∈ front, k ∈ b.ids) ∧
          id ∉ b.ids ∧ e = .notFound id) ∨
        ((∀ id ∈ s.disabled, id ∈ b.ids) ∧ ∃ front d back, s.custom = front ++ d :: back ∧
          (∀ x ∈ front, ∃ r, Rule.ofDefinition x = .ok r) ∧ Rule.ofDefinition d = .error e) ∨
        ((∀ id ∈ s.disabled, id ∈ b.ids) ∧ ∃ own, s.custom.mapM Rule.ofDefinition = .ok own ∧
          ∃ front id back,
            (b.rules.filter (fun r => s.Leaves r)).map (·.id) ++ own.map (·.id) =
              front ++ id :: back ∧
            front.Nodup ∧ id ∈ front ∧ e = .duplicate id) := by
  obtain ⟨b, built⟩ := exists_builtin
  refine ⟨b, built, fun s => ⟨ofSelection_isOk_iff built, fun c made => ⟨?_, ?_⟩, fun e => ?_⟩⟩
  · obtain ⟨-, own, described, rules⟩ := (ofSelection_eq_ok_iff built).1 made
    exact ⟨own, describes_iff.1 described, rules⟩
  · exact fun disabled same => ofSelection_congr built made same
  · simpa only [describes_iff, Known, names, kept] using ofSelection_eq_error_iff built

end Catalog
end Patrol
