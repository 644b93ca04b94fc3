import Patrol.Proofs.Catalog.Built

/-! Rules and their definitions, there and back. A rule gives back the definition it comes of, but
for the blanks at the end of the message, and that one describes the same rule again. So a catalog
is all in its definitions. -/
namespace Patrol
open Patrol.Text (isBlankText trimEnd dropBlankEnd)

/-! ## Texts -/

/-- Whether a text is a name: letters, numbers, dashes and underscores, one at least. -/
def IsName (text : String) : Prop :=
  text ≠ "" ∧ ∀ c ∈ text.toList, isAlphanumeric c = true ∨ c = '-' ∨ c = '_'

/-- Whether a text has a character that is not blank. -/
def Shows (text : String) : Prop := ∃ c ∈ text.toList, isBlank c = false

theorem isRuleId_iff {text : String} : isRuleId text = true ↔ IsName text := by
  simp [isRuleId, IsName, or_assoc]

theorem isBlankText_eq_false_iff {text : String} : isBlankText text = false ↔ Shows text := by
  simp [isBlankText, Shows]

theorem isBlankText_eq_true_iff {text : String} : isBlankText text = true ↔ ¬Shows text := by
  rw [← isBlankText_eq_false_iff, Bool.not_eq_false]

theorem RuleId.ofString?_eq_none_iff {text : String} : ofString? text = none ↔ ¬IsName text := by
  rw [← isRuleId_iff, ofString?]
  split <;> simp [*]

theorem RuleId.exists_text_eq_iff {text : String} :
    (∃ id : RuleId, id.text = text) ↔ IsName text := by
  rw [← isRuleId_iff]
  constructor
  · rintro ⟨id, rfl⟩
    exact id.valid
  · exact fun valid => ⟨⟨text, valid⟩, rfl⟩

/-- Nothing but blanks is taken off a text, and all of those at its end. -/
theorem Text.dropBlankEnd_spec (cs : List Char) :
    ∃ blanks, cs = dropBlankEnd cs ++ blanks ∧ (∀ c ∈ blanks, isBlank c = true) ∧
      ∀ c ∈ (dropBlankEnd cs).getLast?, isBlank c = false := by
  induction cs with
  | nil => exact ⟨[], rfl, by simp, by simp [dropBlankEnd]⟩
  | cons c cs ih =>
    obtain ⟨blanks, whole, blank, last⟩ := ih
    rw [dropBlankEnd]
    cases kept : dropBlankEnd cs with
    | nil =>
      rw [kept, List.nil_append] at whole
      subst whole
      cases own : isBlank c with
      | true => exact ⟨c :: cs, rfl, List.forall_mem_cons.2 ⟨own, blank⟩, by simp⟩
      | false =>
        refine ⟨cs, rfl, blank, fun d only => ?_⟩
        obtain rfl : c = d := by simpa using only
        exact own
    | cons d ds =>
      rw [kept] at whole last
      refine ⟨blanks, by rw [whole]; rfl, blank, fun e atEnd => last e ?_⟩
      simpa using atEnd

/-! ## Definitions that describe no rule -/

namespace Rule
variable {d : Definition} {r : Rule}

/-- Why a definition describes no rule: the first of its name, its title, its message and its
pattern that cannot be used. -/
inductive Definition.Fails (d : Definition) : RuleError → Prop
  | name (unnamed : ¬IsName d.id) : d.Fails (.invalidId d.id)
  | title {id : RuleId} (named : id.text = d.id) (blank : ¬Shows d.title) : d.Fails (.emptyTitle id)
  | message {id : RuleId} (named : id.text = d.id) (titled : Shows d.title)
      (blank : ¬Shows d.message) : d.Fails (.emptyMessage id)
  | pattern {id : RuleId} {cause : Pattern.Error} (named : id.text = d.id) (titled : Shows d.title)
      (explained : Shows d.message) (bad : Pattern.compile d.pattern = .error cause) :
      d.Fails (.badPattern d.pattern id cause)

theorem Definition.Fails.ofDefinition_eq {e : RuleError} (fails : d.Fails e) :
    ofDefinition d = .error e := by
  cases fails with
  | name unnamed =>
    simp only [ofDefinition, RuleId.ofString?_eq_none_iff.2 unnamed]
    rfl
  | title named blank =>
    simp only [ofDefinition, RuleId.ofString?_eq_some_iff.2 named, isBlankText_eq_true_iff.2 blank]
    rfl
  | message named titled blank =>
    simp only [ofDefinition, RuleId.ofString?_eq_some_iff.2 named,
      isBlankText_eq_false_iff.2 titled, isBlankText_eq_true_iff.2 blank]
    rfl
  | pattern named titled explained bad =>
    simp only [ofDefinition, RuleId.ofString?_eq_some_iff.2 named,
      isBlankText_eq_false_iff.2 titled, isBlankText_eq_false_iff.2 explained, bad]
    rfl

/-- A definition fails, or its parts are all of use. -/
theorem Definition.fails_or (d : Definition) :
    (∃ e, d.Fails e) ∨
      IsName d.id ∧ Shows d.title ∧ Shows d.message ∧ ∃ p, Pattern.compile d.pattern = .ok p := by
  by_cases named : IsName d.id
  · obtain ⟨id, named'⟩ := RuleId.exists_text_eq_iff.2 named
    by_cases titled : Shows d.title
    · by_cases explained : Shows d.message
      · cases compiled : Pattern.compile d.pattern with
        | error cause => exact .inl ⟨_, .pattern named' titled explained compiled⟩
        | ok p => exact .inr ⟨named, titled, explained, p, rfl⟩
      · exact .inl ⟨_, .message named' titled explained⟩
    · exact .inl ⟨_, .title named' titled⟩
  · exact .inl ⟨_, .name named⟩

theorem exists_ofDefinition_iff :
    (∃ r, ofDefinition d = .ok r) ↔
      IsName d.id ∧ Shows d.title ∧ Shows d.message ∧ ∃ p, Pattern.compile d.pattern = .ok p := by
  constructor
  · rintro ⟨r, made⟩
    have described := ofDefinition_eq_ok_iff.1 made
    exact ⟨RuleId.exists_text_eq_iff.1 ⟨r.id, described.id⟩,
      isBlankText_eq_false_iff.1 described.titled, isBlankText_eq_false_iff.1 described.explained,
      r.pattern, described.pattern⟩
  · rintro ⟨named, titled, explained, p, compiled⟩
    obtain ⟨id, named⟩ := RuleId.exists_text_eq_iff.2 named
    exact ⟨⟨id, p, d.title, d.marker, trimEnd d.message, d.languages⟩, ofDefinition_eq_ok_iff.2
      ⟨named, rfl, rfl, rfl, rfl, compiled, isBlankText_eq_false_iff.2 titled,
        isBlankText_eq_false_iff.2 explained⟩⟩

theorem ofDefinition_eq_error_iff {e : RuleError} : ofDefinition d = .error e ↔ d.Fails e := by
  refine ⟨fun failed => ?_, Definition.Fails.ofDefinition_eq⟩
  obtain ⟨e', fails⟩ | useful := d.fails_or
  · obtain rfl : e' = e := Except.error.inj (fails.ofDefinition_eq.symm.trans failed)
    exact fails
  · obtain ⟨r, made⟩ := exists_ofDefinition_iff.2 useful
    rw [made] at failed
    cases failed

/-! ## Definitions given back -/

/-- A rule gives its definition back with the message as it is shown. -/
theorem IsDescribedBy.toDefinition_eq (described : r.IsDescribedBy d) :
    r.toDefinition = { d with message := trimEnd d.message } := by
  obtain ⟨named, title, marker, message, languages, compiled, -, -⟩ := described
  simp only [Rule.toDefinition, named, title, marker, message, languages,
    source_of_compile compiled]

end Rule

/-- A catalog is all in the definitions of its rules. -/
theorem Catalog.ofDefinitions_toDefinition {c : Catalog} (made : ∀ r ∈ c.rules, r.IsMade) :
    ofDefinitions (c.rules.map Rule.toDefinition) = .ok c := by
  rw [ofDefinitions_eq_ok_iff, List.forall₂_map_left_iff, List.forall₂_same]
  intro r member
  exact Rule.ofDefinition_eq_ok_iff.1 (made r member).ofDefinition_toDefinition

/-- **Definitions, there and back.** A definition describes a rule exactly if its name is one, its
title and its message show something and its pattern can be read; else the first of these that is
not so is named. The rule gives back the definition without the blanks at the end of the message,
and of that comes the rule itself, with all that it holds for and finds. A catalog, the rules of
which come of definitions, is made again by their own, so that it collects and reports the same. -/
theorem Rule.definitions_there_and_back :
    (∀ d, (∃ r, ofDefinition d = .ok r) ↔
      (d.id ≠ "" ∧ ∀ c ∈ d.id.toList, isAlphanumeric c = true ∨ c = '-' ∨ c = '_') ∧
      (∃ c ∈ d.title.toList, isBlank c = false) ∧ (∃ c ∈ d.message.toList, isBlank c = false) ∧
      ∃ p, Pattern.compile d.pattern = .ok p) ∧
    (∀ d e, ofDefinition d = .error e ↔ d.Fails e) ∧
    (∀ d r, ofDefinition d = .ok r →
      (∃ message blanks, r.toDefinition = { d with message } ∧
        d.message.toList = message.toList ++ blanks ∧ (∀ c ∈ blanks, isBlank c = true) ∧
        ∀ c ∈ message.toList.getLast?, isBlank c = false) ∧
      ofDefinition r.toDefinition = .ok r) ∧
    ∀ c : Catalog, (∀ r ∈ c.rules, r.IsMade) → Catalog.ofDefinitions c.definitions = .ok c := by
  refine ⟨fun d => exists_ofDefinition_iff, fun d e => ofDefinition_eq_error_iff,
    fun d r made => ⟨?_, IsMade.ofDefinition_toDefinition ⟨d, made⟩⟩,
    fun c => Catalog.ofDefinitions_toDefinition⟩
  obtain ⟨blanks, whole, blank, last⟩ := Text.dropBlankEnd_spec d.message.toList
  have kept : (trimEnd d.message).toList = dropBlankEnd d.message.toList := by
    rw [trimEnd, String.toList_ofList]
  refine ⟨trimEnd d.message, blanks, (ofDefinition_eq_ok_iff.1 made).toDefinition_eq, ?_, blank, ?_⟩
  · rw [kept]
    exact whole
  · rw [kept]
    exact last

/-- A definition whose message ends with blanks of several kinds. -/
def Rule.blankEnded : Definition where
  id := "no-var"
  title := " No var "
  marker := ""
  pattern := "var"
  message := " Use\u3000let. \n\u2028"
  languages := [.vue]

theorem Rule.definitions_there_and_back_blankEnded :
    ∃ r c, ofDefinition blankEnded = .ok r ∧
      r.toDefinition = { blankEnded with message := " Use\u3000let." } ∧
      ofDefinition r.toDefinition = .ok r ∧
      Catalog.ofDefinitions [blankEnded] = .ok c ∧ Catalog.ofDefinitions c.definitions = .ok c := by
  have describes : ∃ r, ofDefinition blankEnded = .ok r ∧
      r.toDefinition = { blankEnded with message := " Use\u3000let." } := ⟨_, rfl, by decide⟩
  have builds : ∃ c, Catalog.ofDefinitions [blankEnded] = .ok c := ⟨_, rfl⟩
  obtain ⟨r, made, given⟩ := describes
  obtain ⟨c, built⟩ := builds
  have source : (Catalog.Source.definitions [blankEnded]).build = .ok c := built
  have rules := Catalog.Source.isMade_of_build source nofun
  exact ⟨r, c, made, given, (definitions_there_and_back.2.2.1 blankEnded r made).2, built,
    definitions_there_and_back.2.2.2 c rules⟩

end Patrol
