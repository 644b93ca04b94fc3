import Patrol.Proofs.Catalog.Built
import Patrol.Proofs.Pattern.Begins

/-! The rules about loose comparisons. Their patterns take along the characters next to an operator,
and so they tell operators by the length of their runs of equals signs. -/
namespace Patrol

/-- In `text`, behind `front` and in front of `back`, the letter `c` stands `n` times, and it stands
neither right before nor right behind that. -/
structure Text.IsRun {α : Type} (c : α) (n : Nat) (text front back : List α) : Prop where
  positive : 0 < n
  split : text = front ++ (List.replicate n c ++ back)
  starts : front.getLast? ≠ some c
  ends : back.head? ≠ some c

namespace Pattern
open Regex
variable {set : CodeSet} {c : Char} {p q text : List Char} {r : Regex Anchor}

/-! ## The characters next to a part -/

/-- At the start of the text, or behind a letter of the set. -/
theorem occurs_behind_iff :
    (Regex.seq (.alt (.anchor .textStart) (.letter set)) r).Occurs text ↔
      ∃ p q, text = p ++ q ∧ (∀ d ∈ p.getLast?, set.contains d.toNat = true) ∧ r.BeginsAt ⟨p, q⟩ := by
  rw [occurs_iff_beginsAt]
  simp only [beginsAt_alt_seq_iff, beginsAt_anchor_seq_iff, beginsAt_letter_seq_iff]
  constructor
  · rintro ⟨p, q, rfl, ⟨start, begins⟩ | ⟨d, rest, rfl, member, begins⟩⟩
    · have none : p.getLast? = none := Option.isNone_iff_eq_none.1 start
      refine ⟨p, q, rfl, fun d last => ?_, begins⟩
      rw [none] at last
      cases last
    · refine ⟨p ++ [d], rest, by simp, fun e last => ?_, begins⟩
      rw [List.getLast?_concat] at last
      cases last
      exact member
  · rintro ⟨p, q, rfl, allowed, begins⟩
    obtain rfl | ⟨front, d, rfl⟩ := List.eq_nil_or_concat' p
    · exact ⟨[], q, rfl, .inl ⟨rfl, begins⟩⟩
    · have member := allowed d List.getLast?_concat
      exact ⟨front, d :: q, by simp, .inr ⟨d, q, rfl, member, begins⟩⟩

/-- At the end of the text, or in front of a letter of the set. -/
theorem beginsAt_ahead_iff :
    (Regex.alt (.letter set) (.anchor .textEnd) : Regex Anchor).BeginsAt ⟨p, q⟩ ↔
      ∀ d ∈ q.head?, set.contains d.toNat = true := by
  rw [beginsAt_alt_iff, beginsAt_letter_iff, beginsAt_anchor_iff]
  cases q with
  | nil =>
    constructor
    · intro _ d first
      cases first
    · intro _
      exact .inr rfl
  | cons d rest =>
    constructor
    · rintro (⟨e, rest, same, member⟩ | none)
      · cases same
        intro f first
        cases first
        exact member
      · cases none
    · intro allowed
      exact .inl ⟨d, rest, rfl, allowed d rfl⟩

/-! ## Equals signs -/

/-- The characters with which an operator of comparison can begin. -/
def comparing : CodeSet := ⟨['!'.toNat, '!'.toNat + 1, '<'.toNat, '>'.toNat + 1]⟩

theorem contains_comparing_iff :
    comparing.contains c.toNat = true ↔ c = '=' ∨ c ∈ ['!', '<', '>'] := by
  have code (d : Char) : c = d ↔ c.toNat = d.toNat := Char.toNat_inj.symm
  simp only [comparing, CodeSet.contains, CodeSet.memFrom, List.mem_cons, List.not_mem_nil, or_false,
    code, Char.reduceToNat]
  grind

def equals : Regex Anchor := .letter (.single '='.toNat)

/-- No further equals sign. -/
def noEquals : Regex Anchor :=
  .alt (.letter (CodeSet.single '='.toNat).complement) (.anchor .textEnd)

def looseEquality : Regex Anchor :=
  .seq (.alt (.anchor .textStart) (.letter comparing.complement))
    (.seq equals (.seq equals noEquals))

def looseInequality : Regex Anchor :=
  .seq (.letter (.single '!'.toNat)) (.seq equals noEquals)

theorem beginsAt_noEquals_iff : noEquals.BeginsAt ⟨p, q⟩ ↔ q.head? ≠ some '=' := by
  have other (d : Char) :
      (CodeSet.single '='.toNat).complement.contains d.toNat = true ↔ d ≠ '=' :=
    CodeSet.contains_complement_iff.trans (not_congr contains_single_toNat_iff)
  rw [noEquals, beginsAt_ahead_iff]
  simp only [other]
  constructor
  · intro allowed first
    exact allowed '=' first rfl
  · rintro apart d first rfl
    exact apart first

/-- An equality is loose if it has two equals signs and is not the end of another operator. -/
theorem occurs_looseEquality_iff :
    looseEquality.Occurs text ↔
      ∃ front back, Text.IsRun '=' 2 text front back ∧
        ∀ d ∈ front.getLast?, d ∉ ['!', '<', '>'] := by
  rw [looseEquality, occurs_behind_iff]
  simp only [equals, beginsAt_single_seq_iff, beginsAt_noEquals_iff,
    CodeSet.contains_complement_iff, contains_comparing_iff, not_or]
  constructor
  · rintro ⟨front, _, rfl, allowed, _, rfl, back, rfl, ends⟩
    refine ⟨front, back, ⟨by omega, rfl, fun last => ?_, ends⟩, fun d last => (allowed d last).2⟩
    exact (allowed '=' last).1 rfl
  · rintro ⟨front, back, run, allowed⟩
    refine ⟨front, _, run.split, fun d last => ⟨?_, allowed d last⟩, _, rfl, back, rfl, run.ends⟩
    rintro rfl
    exact run.starts last

/-- An inequality is loose if it has one equals sign. -/
theorem occurs_looseInequality_iff :
    looseInequality.Occurs text ↔ ∃ front back, Text.IsRun '=' 1 text (front ++ ['!']) back := by
  rw [looseInequality, occurs_iff_beginsAt]
  simp only [equals, beginsAt_single_seq_iff, beginsAt_noEquals_iff]
  constructor
  · rintro ⟨front, _, rfl, _, rfl, back, rfl, ends⟩
    refine ⟨front, back, by omega, by simp, ?_, ends⟩
    rw [List.getLast?_concat]
    decide
  · rintro ⟨front, back, run⟩
    exact ⟨front, '!' :: '=' :: back, by simpa using run.split, _, rfl, back, rfl, run.ends⟩

theorem not_occurs_looseEquality
    (strict : ∀ n front back, Text.IsRun '=' n text front back → n = 1 ∨ 3 ≤ n) :
    ¬looseEquality.Occurs text := by
  rw [occurs_looseEquality_iff]
  rintro ⟨front, back, run, -⟩
  have many := strict 2 front back run
  omega

theorem not_occurs_looseInequality
    (strict : ∀ n front back, Text.IsRun '=' n text (front ++ ['!']) back → 2 ≤ n) :
    ¬looseInequality.Occurs text := by
  rw [occurs_looseInequality_iff]
  rintro ⟨front, back, run⟩
  have many := strict 1 front back run
  omega

end Pattern

namespace Catalog

theorem written_looseEquality :
    ∃ d ∈ builtinDefinitions, d.id = "no-loose-equality" ∧
      (Pattern.compile d.pattern).toOption.map (·.regex) = some Pattern.looseEquality := by
  decide +kernel

theorem written_looseInequality :
    ∃ d ∈ builtinDefinitions, d.id = "no-loose-inequality" ∧
      (Pattern.compile d.pattern).toOption.map (·.regex) = some Pattern.looseInequality := by
  decide +kernel

/-- **Strict comparisons are never taken for loose ones.** The rule about equalities matches a text
exactly if two equals signs stand together in it, no more and no fewer, and no exclamation mark,
less-than or greater-than sign is right before them; the rule about inequalities exactly if an
exclamation mark has one equals sign right behind it, and no more. So the first one is silent where
equals signs stand alone or at least three together, and the other one where each exclamation mark
with equals signs right behind it has at least two of them. -/
theorem loose_comparisons_exact :
    ∃ b, builtin = .ok b ∧
      (∃ r ∈ b.rules, r.id.text = "no-loose-equality" ∧ ∀ text : String,
        (r.matchesIn text = true ↔
          ∃ front back, Text.IsRun '=' 2 text.toList front back ∧
            ∀ c ∈ front.getLast?, c ∉ ['!', '<', '>']) ∧
        ((∀ n front back, Text.IsRun '=' n text.toList front back → n = 1 ∨ 3 ≤ n) →
          r.matchesIn text = false)) ∧
      ∃ r ∈ b.rules, r.id.text = "no-loose-inequality" ∧ ∀ text : String,
        (r.matchesIn text = true ↔
          ∃ front back, Text.IsRun '=' 1 text.toList (front ++ ['!']) back) ∧
        ((∀ n front back, Text.IsRun '=' n text.toList (front ++ ['!']) back → 2 ≤ n) →
          r.matchesIn text = false) := by
  obtain ⟨b, built⟩ := exists_builtin
  obtain ⟨equality, member, named, expression⟩ := exists_builtin_rule built written_looseEquality
  obtain ⟨inequality, member', named', expression'⟩ :=
    exists_builtin_rule built written_looseInequality
  refine ⟨b, built, ⟨equality, member, named, fun text => ?_⟩,
    inequality, member', named', fun text => ?_⟩
  · rw [← Bool.not_eq_true, Rule.matchesIn_iff, expression]
    exact ⟨Pattern.occurs_looseEquality_iff, Pattern.not_occurs_looseEquality⟩
  · rw [← Bool.not_eq_true, Rule.matchesIn_iff, expression']
    exact ⟨Pattern.occurs_looseInequality_iff, Pattern.not_occurs_looseInequality⟩

/-- Operators at the ends of a text and next to each other. -/
example : (Pattern.compile "(?:^|[^=!<>])==(?:[^=]|$)").toOption.map (fun p =>
    ["==", "a !== b ==", "a <= b === c", "!=="].map p.matchesIn) = some [true, true, false, false] := by
  decide +kernel

end Catalog
end Patrol
