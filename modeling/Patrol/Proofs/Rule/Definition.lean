import Mathlib.Logic.Function.Basic
import Patrol.Proofs.Text.Blank
import Patrol.Rule.Basic

/-! Which definitions describe a rule, and which rule it is. A rule is described by what it says of
itself. -/
namespace Patrol

theorem RuleId.text_injective : Function.Injective RuleId.text := by
  rintro ⟨a, _⟩ ⟨b, _⟩ rfl
  rfl

theorem RuleId.ofString?_eq_some_iff {text : String} {id : RuleId} :
    RuleId.ofString? text = some id ↔ id.text = text := by
  constructor
  · intro read
    simp only [RuleId.ofString?] at read
    split at read
    · cases read; rfl
    · cases read
  · rintro rfl
    simp [RuleId.ofString?, id.valid]

/-- A pattern keeps the text that it was written as, and seeks what is read there. -/
theorem Pattern.compile_eq_ok {source : String} {p : Pattern} (compiled : compile source = .ok p) :
    p.source = source ∧ ∃ e t flags, read source.toList = .ok e ∧
      Term.ofExpr .initial e = .ok (t, flags) ∧ p.regex = t.regex := by
  simp only [compile, bind, Except.bind] at compiled
  split at compiled
  · cases compiled
  · next e read =>
    split at compiled
    · cases compiled
    · next made t =>
      split at compiled
      · cases compiled
      · cases compiled
        exact ⟨rfl, e, _, _, read, t, rfl⟩

namespace Rule

/-- Whether a rule is the one that a definition writes down. -/
structure IsDescribedBy (r : Rule) (d : Definition) : Prop where
  id : r.id.text = d.id
  title : r.title = d.title
  marker : r.marker = d.marker
  message : r.message = Text.trimEnd d.message
  languages : r.languages = d.languages
  pattern : Pattern.compile d.pattern = .ok r.pattern
  titled : Text.isBlankText d.title = false
  explained : Text.isBlankText d.message = false

theorem ofDefinition_eq_ok_iff {d : Definition} {r : Rule} :
    ofDefinition d = .ok r ↔ r.IsDescribedBy d := by
  constructor
  · intro made
    simp only [ofDefinition, bind, Except.bind, throw, throwThe, MonadExceptOf.throw, pure,
      Except.pure] at made
    cases read : RuleId.ofString? d.id with
    | none => simp [read] at made
    | some id =>
      rw [read] at made
      cases titled : Text.isBlankText d.title with
      | true => simp [titled] at made
      | false =>
        cases explained : Text.isBlankText d.message with
        | true => simp [titled, explained] at made
        | false =>
          cases compiled : Pattern.compile d.pattern with
          | error cause => simp [titled, explained, compiled] at made
          | ok pattern =>
            simp only [titled, explained, compiled, Bool.false_eq_true, if_false] at made
            cases made
            exact ⟨RuleId.ofString?_eq_some_iff.1 read, rfl, rfl, rfl, rfl, compiled, titled,
              explained⟩
  · intro described
    have read := RuleId.ofString?_eq_some_iff.2 described.id
    obtain ⟨id, pattern, title, marker, message, languages⟩ := r
    obtain ⟨-, rfl, rfl, rfl, rfl, compiled, titled, explained⟩ := described
    simp [ofDefinition, read, compiled, titled, explained, pure, Except.pure]

theorem source_of_compile {source : String} {p : Pattern}
    (compiled : Pattern.compile source = .ok p) :
    p.source = source :=
  (Pattern.compile_eq_ok compiled).1

/-- A rule that comes of a definition is described by its own definition as well. -/
theorem IsDescribedBy.toDefinition {r : Rule} {d : Definition} (described : r.IsDescribedBy d) :
    r.IsDescribedBy r.toDefinition where
  id := rfl
  title := rfl
  marker := rfl
  message := by
    change r.message = Text.trimEnd r.message
    rw [described.message, Text.trimEnd_trimEnd]
  languages := rfl
  pattern := by
    change Pattern.compile r.pattern.source = .ok r.pattern
    rw [source_of_compile described.pattern, described.pattern]
  titled := by
    change Text.isBlankText r.title = false
    rw [described.title, described.titled]
  explained := by
    change Text.isBlankText r.message = false
    rw [described.message, Text.isBlankText_trimEnd, described.explained]

/-- Whether a rule comes of a definition. -/
def IsMade (r : Rule) : Prop := ∃ d, ofDefinition d = .ok r

theorem IsMade.ofDefinition_toDefinition {r : Rule} (made : r.IsMade) :
    ofDefinition r.toDefinition = .ok r := by
  obtain ⟨d, made⟩ := made
  exact ofDefinition_eq_ok_iff.2 (ofDefinition_eq_ok_iff.1 made).toDefinition

end Rule
end Patrol
