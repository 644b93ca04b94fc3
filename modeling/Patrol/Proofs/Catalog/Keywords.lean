import Mathlib.Data.List.TakeWhile
import Patrol.Proofs.Catalog.Built
import Patrol.Proofs.Pattern.Begins

/-! The rules about keywords. Their patterns look at the edges of a word, so that the letters of a
keyword inside a longer word are passed over; all but the one about `eval`, which asks only for what
stands behind the word. -/
namespace Patrol

namespace Pattern
open Regex
variable {c : Char} {p q front back text word : List Char} {r : Regex Anchor}

/-- The text behind a word begins with blanks that go on to another line or to the end, or with a
mark that closes something, behind blanks or not. -/
def EndsType (back : List Char) : Prop :=
  '\n' ∈ back.takeWhile isBlank ∨ back.dropWhile isBlank = [] ∨
    ∃ c ∈ (back.dropWhile isBlank).head?, c ∈ [';', ',', ')', ']', '\x7d']

/-! ## The pattern for types that end with `any` -/

def closing : CodeSet :=
  ⟨[')'.toNat, ')'.toNat + 1, ','.toNat, ','.toNat + 1, ';'.toNat, ';'.toNat + 1, ']'.toNat,
    ']'.toNat + 1, '\x7d'.toNat, '\x7d'.toNat + 1]⟩

/-- The marks are what the set has, and neither blanks nor characters of words. -/
theorem closing_of_mark (closes : c ∈ [';', ',', ')', ']', '\x7d']) :
    closing.contains c.toNat = true ∧ isBlank c = false ∧ isWordChar c = false := by
  have all : [';', ',', ')', ']', '\x7d'].all (fun c =>
      closing.contains c.toNat && (!isBlank c && !isWordChar c)) = true := by
    decide
  simpa using List.all_eq_true.1 all c closes

theorem contains_closing_iff :
    closing.contains c.toNat = true ↔ c ∈ [';', ',', ')', ']', '\x7d'] := by
  constructor
  · intro member
    have marks : ∀ n ∈ CodeSet.between closing.bounds,
        Char.ofNat n ∈ [';', ',', ')', ']', '\x7d'] := by
      decide
    rw [← Char.ofNat_toNat c]
    exact marks c.toNat (CodeSet.mem_between_of_memFrom rfl member)
  · intro closes
    exact (closing_of_mark closes).1

def typeEnd : Regex Anchor :=
  .alt (.seq blanks (.letter closing)) (.seq blanks (.anchor (.lineEnd false)))

/-- Blanks can be divided between the pattern and what follows it in many ways; what counts is how
all of them go on. -/
theorem beginsAt_typeEnd_iff : typeEnd.BeginsAt ⟨p, q⟩ ↔ EndsType q := by
  rw [typeEnd, beginsAt_alt_iff]
  simp only [beginsAt_blanks_seq_iff, beginsAt_letter_iff, beginsAt_anchor_iff]
  constructor
  · rintro (⟨u, _, rfl, blank, c, rest, rfl, closes⟩ | ⟨u, rest, rfl, blank, lineEnd⟩)
    · replace closes := contains_closing_iff.1 closes
      refine .inr (.inr ⟨c, ?_, closes⟩)
      simp [List.dropWhile_append_of_pos blank, (closing_of_mark closes).2.1]
    · cases rest with
      | nil => exact .inr (.inl (by rwa [List.append_nil, List.dropWhile_eq_nil_iff]))
      | cons c rest =>
        have newline : c = '\n' := by simpa [Alphabet.holds, Anchor.holds] using lineEnd
        subst newline
        left
        rw [List.takeWhile_append_of_pos blank, List.takeWhile_cons_of_pos (by decide)]
        simp
  · have split := List.takeWhile_append_dropWhile (p := isBlank) (l := q)
    have blank : ∀ c ∈ q.takeWhile isBlank, isBlank c = true := fun c => List.mem_takeWhile_imp
    rintro (newline | none | ⟨c, first, closes⟩)
    · obtain ⟨u, v, cut⟩ := List.append_of_mem newline
      rw [cut] at split blank
      refine .inr ⟨u, '\n' :: (v ++ q.dropWhile isBlank), by simpa using split.symm, ?_, ?_⟩
      · exact fun c inside => blank c (List.mem_append_left _ inside)
      · simp [Alphabet.holds, Anchor.holds]
    · rw [none, List.append_nil] at split
      refine .inr ⟨q, [], (List.append_nil q).symm, ?_, ?_⟩
      · rwa [split] at blank
      · simp [Alphabet.holds, Anchor.holds]
    · obtain ⟨rest, cut⟩ := List.head?_eq_some_iff.1 first
      rw [cut] at split
      exact .inl ⟨_, c :: rest, split.symm, blank, c, rest, rfl, contains_closing_iff.2 closes⟩

def typeAny : Regex Anchor := .seq .empty (.seq edge (spelled ['a', 'n', 'y'] typeEnd))

theorem occurs_typeAny_iff :
    typeAny.Occurs text ↔
      ∃ front back, text = front ++ (['a', 'n', 'y'] ++ back) ∧ EndsApart front ∧ EndsType back := by
  have begins : isWordChar 'a' = true := by decide
  rw [typeAny, occurs_iff_beginsAt]
  simp only [beginsAt_empty_seq_iff, beginsAt_edge_spelled_iff begins, beginsAt_spelled_iff,
    beginsAt_typeEnd_iff]
  constructor
  · rintro ⟨front, _, rfl, apart, back, rfl, ends⟩
    exact ⟨front, back, rfl, apart, ends⟩
  · rintro ⟨front, back, rfl, apart, ends⟩
    exact ⟨front, _, rfl, apart, back, rfl, ends⟩

/-- Neither a blank nor a mark that closes something goes on with the word. -/
theorem EndsType.beginsApart (ends : EndsType back) : BeginsApart back := by
  intro c first
  obtain ⟨rest, rfl⟩ := List.head?_eq_some_iff.1 first
  by_cases blank : isBlank c = true
  · exact isWordChar_of_isBlank blank
  · have none : (c :: rest).takeWhile isBlank = [] := List.takeWhile_cons_of_neg blank
    have all : (c :: rest).dropWhile isBlank = c :: rest := List.dropWhile_cons_of_neg blank
    rw [EndsType, none, all] at ends
    obtain inside | whole | ⟨d, same, closes⟩ := ends
    · cases inside
    · cases whole
    · cases same
      exact (closing_of_mark closes).2.2

theorem standsAlone_of_typeAny (occurs : typeAny.Occurs text) :
    StandsAlone ['a', 'n', 'y'] text := by
  obtain ⟨front, back, split, apart, ends⟩ := occurs_typeAny_iff.1 occurs
  exact ⟨front, back, split, apart, ends.beginsApart⟩

/-! ## The pattern for annotations -/

def annotationAny : Regex Anchor :=
  spelled [':'] (.seq blanks (spelled ['a', 'n', 'y'] edge))

theorem occurs_annotationAny_iff :
    annotationAny.Occurs text ↔
      ∃ front u back, text = front ++ ([':'] ++ (u ++ (['a', 'n', 'y'] ++ back))) ∧
        (∀ c ∈ u, isBlank c = true) ∧ BeginsApart back := by
  have ends : isWordChar 'y' = true := by decide
  have behind (p q : List Char) : edge.BeginsAt ⟨p ++ ['a', 'n', 'y'], q⟩ ↔ BeginsApart q := by
    have last : p ++ ['a', 'n', 'y'] = (p ++ ['a', 'n']) ++ ['y'] := by simp
    rw [last, beginsAt_edge_iff ends]
  rw [annotationAny, occurs_iff_beginsAt]
  simp only [beginsAt_spelled_iff, beginsAt_blanks_seq_iff, behind]
  constructor
  · rintro ⟨front, _, rfl, _, rfl, u, _, rfl, blank, back, rfl, apart⟩
    exact ⟨front, u, back, rfl, blank, apart⟩
  · rintro ⟨front, u, back, rfl, blank, apart⟩
    exact ⟨front, _, rfl, _, rfl, u, _, rfl, blank, back, rfl, apart⟩

theorem standsAlone_of_annotationAny (occurs : annotationAny.Occurs text) :
    StandsAlone ['a', 'n', 'y'] text := by
  obtain ⟨front, u, back, rfl, blank, apart⟩ := occurs_annotationAny_iff.1 occurs
  refine ⟨front ++ [':'] ++ u, back, by simp, ?_, apart⟩
  intro c last
  -- the last character is a blank, or the colon where there is none
  obtain rfl | ⟨v, d, rfl⟩ := List.eq_nil_or_concat' u
  · rw [List.append_nil, List.getLast?_concat] at last
    cases last
    decide
  · rw [← List.append_assoc, List.getLast?_concat] at last
    cases last
    exact isWordChar_of_isBlank (blank c (by simp))

/-! ## The patterns for `var` and for calls of `eval` -/

def keywordVar : Regex Anchor :=
  .seq edge (spelled ['v', 'a', 'r']
    (.seq (.letter Unicode.Property.whiteSpace) (.star (.letter Unicode.Property.whiteSpace))))

theorem occurs_keywordVar_iff :
    keywordVar.Occurs text ↔
      ∃ front c back, text = front ++ (['v', 'a', 'r'] ++ c :: back) ∧ EndsApart front ∧
        isBlank c = true := by
  have begins : isWordChar 'v' = true := by decide
  rw [keywordVar, occurs_iff_beginsAt]
  simp only [beginsAt_edge_spelled_iff begins, beginsAt_spelled_iff, beginsAt_letter_seq_iff,
    beginsAt_star, and_true]
  constructor
  · rintro ⟨front, _, rfl, apart, _, rfl, c, back, rfl, blank⟩
    exact ⟨front, c, back, rfl, apart, blank⟩
  · rintro ⟨front, c, back, rfl, apart, blank⟩
    exact ⟨front, _, rfl, apart, _, rfl, c, back, rfl, blank⟩

theorem standsAlone_of_keywordVar (occurs : keywordVar.Occurs text) :
    StandsAlone ['v', 'a', 'r'] text := by
  obtain ⟨front, c, back, split, apart, blank⟩ := occurs_keywordVar_iff.1 occurs
  refine ⟨front, c :: back, split, apart, ?_⟩
  intro d first
  cases first
  exact isWordChar_of_isBlank blank

def callEval : Regex Anchor :=
  spelled ['e', 'v', 'a', 'l'] (.seq blanks (.letter (.single '('.toNat)))

theorem occurs_callEval_iff :
    callEval.Occurs text ↔
      ∃ front u back, text = front ++ (['e', 'v', 'a', 'l'] ++ (u ++ '(' :: back)) ∧
        ∀ c ∈ u, isBlank c = true := by
  rw [callEval, occurs_iff_beginsAt]
  simp only [beginsAt_spelled_iff, beginsAt_blanks_seq_iff, beginsAt_letter_iff,
    contains_single_toNat_iff]
  constructor
  · rintro ⟨front, _, rfl, _, rfl, u, _, rfl, blank, _, back, rfl, rfl⟩
    exact ⟨front, u, back, rfl, blank⟩
  · rintro ⟨front, u, back, rfl, blank⟩
    exact ⟨front, _, rfl, _, rfl, u, _, rfl, blank, _, back, rfl, rfl⟩

/-- Blanks and the parenthesis of a call do not go on with the word in front of them. -/
theorem beginsApart_of_call {u : List Char} (blank : ∀ c ∈ u, isBlank c = true) :
    BeginsApart (u ++ '(' :: back) := by
  intro c first
  cases u with
  | nil =>
    cases first
    decide
  | cons d u =>
    cases first
    exact isWordChar_of_isBlank (blank c (.head u))

end Pattern

namespace Catalog
theorem written_typeAny :
    ∃ d ∈ builtinDefinitions, d.id = "no-any" ∧
      (Pattern.compile d.pattern).toOption.map (·.regex) = some Pattern.typeAny := by
  decide +kernel

theorem written_annotationAny :
    ∃ d ∈ builtinDefinitions, d.id = "no-any-annotation" ∧
      (Pattern.compile d.pattern).toOption.map (·.regex) = some Pattern.annotationAny := by
  decide +kernel

theorem written_keywordVar :
    ∃ d ∈ builtinDefinitions, d.id = "no-var" ∧
      (Pattern.compile d.pattern).toOption.map (·.regex) = some Pattern.keywordVar := by
  decide +kernel

theorem written_callEval :
    ∃ d ∈ builtinDefinitions, d.id = "no-eval" ∧
      (Pattern.compile d.pattern).toOption.map (·.regex) = some Pattern.callEval := by
  decide +kernel

open Pattern (EndsApart BeginsApart EndsType StandsAlone)

/-- **The rule about types matches exactly where a type ends with `any`**: nothing of a word is before
it, and behind it and its blanks there is another line, the end of the text or a mark that closes
something. Neither this rule nor the one about annotations takes the letters of a longer word for
`any`. -/
theorem any_rules_exact :
    ∃ b, builtin = .ok b ∧
      (∃ r ∈ b.rules, r.id.text = "no-any" ∧ ∀ text : String,
        (r.matchesIn text = true ↔
          ∃ front back, text.toList = front ++ (['a', 'n', 'y'] ++ back) ∧ EndsApart front ∧
            EndsType back) ∧
        (r.matchesIn text = true → StandsAlone ['a', 'n', 'y'] text.toList)) ∧
      ∃ r ∈ b.rules, r.id.text = "no-any-annotation" ∧ ∀ text : String,
        (r.matchesIn text = true ↔
          ∃ front u back, text.toList = front ++ ([':'] ++ (u ++ (['a', 'n', 'y'] ++ back))) ∧
            (∀ c ∈ u, isBlank c = true) ∧ BeginsApart back) ∧
        (r.matchesIn text = true → StandsAlone ['a', 'n', 'y'] text.toList) := by
  obtain ⟨b, built⟩ := exists_builtin
  obtain ⟨inType, member, named, expression⟩ := exists_builtin_rule built written_typeAny
  obtain ⟨annotated, member', named', expression'⟩ :=
    exists_builtin_rule built written_annotationAny
  refine ⟨b, built, ⟨inType, member, named, fun text => ?_⟩,
    annotated, member', named', fun text => ?_⟩
  · rw [Rule.matchesIn_iff, expression]
    exact ⟨Pattern.occurs_typeAny_iff, Pattern.standsAlone_of_typeAny⟩
  · rw [Rule.matchesIn_iff, expression']
    exact ⟨Pattern.occurs_annotationAny_iff, Pattern.standsAlone_of_annotationAny⟩

/-- Blanks that run on to the next line, and a word that does not end with `any`. -/
example : (Pattern.compile "(?m)\\bany(?:\\s*[;,)\\]\x7d]|\\s*$)").toOption.map (fun p =>
    ["x: any \n= 1", "x: any = 1", "x: many;", "f(x: any)"].map p.matchesIn) =
      some [true, false, false, true] := by
  decide +kernel

/-- **The rule about `var` takes no longer word for it; the one about `eval` looks only at what stands
behind the word.** The first one matches exactly where a blank is behind `var` and nothing of a word
before it, so that `var` stands alone there; the second one exactly where `eval` is called, whatever
stands before it, so that no character of words is right behind it. -/
theorem keyword_rules_exact :
    ∃ b, builtin = .ok b ∧
      (∃ r ∈ b.rules, r.id.text = "no-var" ∧ ∀ text : String,
        (r.matchesIn text = true ↔
          ∃ front c back, text.toList = front ++ (['v', 'a', 'r'] ++ c :: back) ∧ EndsApart front ∧
            isBlank c = true) ∧
        (r.matchesIn text = true → StandsAlone ['v', 'a', 'r'] text.toList)) ∧
      ∃ r ∈ b.rules, r.id.text = "no-eval" ∧ ∀ text : String,
        (r.matchesIn text = true ↔
          ∃ front u back, text.toList = front ++ (['e', 'v', 'a', 'l'] ++ (u ++ '(' :: back)) ∧
            ∀ c ∈ u, isBlank c = true) ∧
        (r.matchesIn text = true →
          ∃ front back, text.toList = front ++ (['e', 'v', 'a', 'l'] ++ back) ∧
            BeginsApart back) := by
  obtain ⟨b, built⟩ := exists_builtin
  obtain ⟨declared, member, named, expression⟩ := exists_builtin_rule built written_keywordVar
  obtain ⟨called, member', named', expression'⟩ := exists_builtin_rule built written_callEval
  refine ⟨b, built, ⟨declared, member, named, fun text => ?_⟩,
    called, member', named', fun text => ?_⟩
  · rw [Rule.matchesIn_iff, expression]
    exact ⟨Pattern.occurs_keywordVar_iff, Pattern.standsAlone_of_keywordVar⟩
  · rw [Rule.matchesIn_iff, expression']
    refine ⟨Pattern.occurs_callEval_iff, fun occurs => ?_⟩
    obtain ⟨front, u, back, split, blank⟩ := Pattern.occurs_callEval_iff.1 occurs
    exact ⟨front, _, split, Pattern.beginsApart_of_call blank⟩

/-- A call of a function whose name ends with `eval`: the rule matches, and the word does not stand
alone. -/
theorem eval_found_in_longer_word :
    ∃ b, builtin = .ok b ∧ ∃ r ∈ b.rules, r.id.text = "no-eval" ∧
      r.matchesIn "medieval(x)" = true ∧
      ¬StandsAlone ['e', 'v', 'a', 'l'] "medieval(x)".toList := by
  obtain ⟨b, built⟩ := exists_builtin
  obtain ⟨called, member, named, expression⟩ := exists_builtin_rule built written_callEval
  refine ⟨b, built, called, member, named, ?_, by decide⟩
  rw [Rule.matchesIn_iff, expression, Pattern.occurs_callEval_iff]
  exact ⟨"medi".toList, [], "x)".toList, by decide, nofun⟩

end Catalog
end Patrol
