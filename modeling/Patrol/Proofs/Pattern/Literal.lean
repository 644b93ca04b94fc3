import Patrol.Proofs.Pattern.Begins
import Patrol.Proofs.Rule.Definition

/-! Patterns that are a row of characters and nothing else. Such a pattern occurs where its characters
stand in a row. It is written with these characters, and with a backslash in front of those that
would mean something else. -/
namespace Patrol.Pattern
open Regex
variable {c : Char} {e : Expr} {names : List (List Char)} {n : Nat} {p : Pattern}
  {source word text : List Char} {members : List Expr}

/-- The expression is these characters, one after the other. -/
inductive Expr.Spells : Expr → List Char → Prop where
  | last (c : Char) (isByte : Bool) : Spells (.literal c isByte) [c]
  | cons (c : Char) (isByte : Bool) {e : Expr} {word : List Char} (rest : Spells e word) :
      Spells (.seq (.literal c isByte) e) (c :: word)

/-- The pattern is read as these characters, one after the other. -/
def IsLiteral (p : Pattern) (word : List Char) : Prop :=
  ∃ e, read p.source.toList = .ok e ∧ e.Spells word

/-! ## Where they occur -/

theorem IsLiteral.ne_nil (literally : p.IsLiteral word) : word ≠ [] := by
  obtain ⟨e, -, spells⟩ := literally
  cases spells <;> exact List.cons_ne_nil _ _

/-- At the beginning of a pattern no flag is set that gives a character another meaning. -/
theorem literal_initial (c : Char) (isByte : Bool) :
    Flags.initial.literal c isByte = .ok (.letter (.single c.toNat)) := by
  simp [Flags.literal, Flags.initial]

theorem Expr.Spells.ofExpr (spells : e.Spells word) :
    ∃ front c t, word = front ++ [c] ∧ Term.ofExpr .initial e = .ok (t, .initial) ∧
      t.regex = spelled front (.letter (.single c.toNat)) := by
  induction spells with
  | last c isByte =>
    refine ⟨[], c, .letter (.single c.toNat), rfl, ?_, rfl⟩
    simp [Term.ofExpr, literal_initial, bind, Except.bind, pure, Except.pure]
  | cons c isByte rest ih =>
    obtain ⟨front, d, t, rfl, made, regex⟩ := ih
    refine ⟨c :: front, d, .seq (.letter (.single c.toNat)) t, rfl, ?_, ?_⟩
    · simp [Term.ofExpr, literal_initial, made, bind, Except.bind, pure, Except.pure]
    · rw [Term.regex, regex]
      rfl

/-- A row of characters occurs where it stands. -/
theorem matchesIn_iff_of_literal {source : String} (compiled : compile source = .ok p)
    (literally : p.IsLiteral word) {text : String} :
    p.matchesIn text = true ↔ word <:+: text.toList := by
  obtain ⟨rfl, e, t, flags, read, made, regex⟩ := compile_eq_ok compiled
  obtain ⟨e', read', spells⟩ := literally
  obtain ⟨front, c, t', rfl, made', regex'⟩ := spells.ofExpr
  rw [read] at read'
  cases read'
  rw [made] at made'
  cases made'
  rw [matchesIn, occursIn_iff, regex, regex', occurs_iff_beginsAt]
  simp only [beginsAt_spelled_iff, beginsAt_letter_iff, contains_single_toNat_iff]
  constructor
  · rintro ⟨p, _, whole, _, rfl, d, rest, rfl, rfl⟩
    exact ⟨p, rest, by simp [whole]⟩
  · rintro ⟨p, q, whole⟩
    exact ⟨p, front ++ c :: q, by simp [← whole], c :: q, rfl, c, q, rfl, rfl⟩

/-! ## How they are written -/

/-- The characters that mean something else between the members of a pattern. -/
def operators : List Char := "|()[?*+\x7b.^$\\".toList

/-- How a row of characters is written: each as itself if it is no operator, or behind a
backslash. -/
inductive Writes : List Char → List Char → Prop where
  | done : Writes [] []
  | plain {c : Char} {source word : List Char} (own : c ∉ operators) (rest : Writes source word) :
      Writes (c :: source) (c :: word)
  | escaped {c : Char} {source word : List Char} (escapable : isEscapable c = true)
      (rest : Writes source word) : Writes ('\\' :: c :: source) (c :: word)

theorem writes_self (plain : word.all (!operators.contains ·) = true) : Writes word word := by
  induction word with
  | nil => exact .done
  | cons c word ih =>
    rw [List.all_cons, Bool.and_eq_true] at plain
    exact .plain (by simpa using plain.1) (ih plain.2)

theorem isAlphanum_of_isEscapable (escapable : isEscapable c = true) : c.isAlphanum = false := by
  have marks : "\\.+*?()|[]\x7b\x7d^$#&-~".toList.all (!·.isAlphanum) = true := by decide
  rw [isEscapable, Bool.or_eq_true] at escapable
  obtain mark | other := escapable
  · simpa using List.all_eq_true.1 marks c (List.contains_iff_mem.1 mark)
  · simp only [Bool.and_eq_true, Bool.not_eq_true'] at other
    exact other.1.1.2

theorem readEscape_escapable (escapable : isEscapable c = true) (cs : List Char) :
    readEscape false (c :: cs) = .ok (.literal c false, cs) := by
  have other := isAlphanum_of_isEscapable escapable
  have apart {d : Char} (letter : d.isAlphanum = true) : (c == d) = false := by
    rw [beq_eq_false_iff_ne]
    rintro rfl
    rw [letter] at other
    cases other
  have digit : c.isDigit = false := by
    rw [Char.isAlphanum, Bool.or_eq_false_iff] at other
    exact other.2
  simp [readEscape, digit, escapable, apart]

theorem readSequence_plain (own : c ∉ operators) (cs : List Char) :
    readSequence (n + 1) members ⟨c :: cs, false, names⟩ =
      readSequence n (.literal c false :: members) ⟨cs, false, names⟩ := by
  rw [readSequence]
  simp only [gap, Bool.false_eq_true, if_false]
  split
  all_goals first | rfl | exact absurd (by decide) own

theorem readSequence_escaped (escapable : isEscapable c = true) (cs : List Char) :
    readSequence (n + 1) members ⟨'\\' :: c :: cs, false, names⟩ =
      readSequence n (.literal c false :: members) ⟨cs, false, names⟩ := by
  rw [readSequence]
  simp only [gap, Bool.false_eq_true, if_false, readEscape_escapable escapable, bind, Except.bind,
    Atom.toExpr]

theorem readSequence_writes (writes : Writes source word) (enough : source.length < n) :
    readSequence n members ⟨source, false, names⟩ =
      .ok (seqOf ((word.map (.literal · false)).reverse ++ members), ⟨[], false, names⟩) := by
  induction writes generalizing n members with
  | done =>
    obtain ⟨n, rfl⟩ := Nat.exists_eq_succ_of_ne_zero (Nat.ne_zero_of_lt enough)
    rfl
  | @plain c source word own rest ih =>
    obtain ⟨n, rfl⟩ := Nat.exists_eq_succ_of_ne_zero (Nat.ne_zero_of_lt enough)
    rw [Nat.succ_eq_add_one, readSequence_plain own, ih (Nat.lt_of_succ_lt_succ enough)]
    simp
  | @escaped c source word escapable rest ih =>
    obtain ⟨n, rfl⟩ := Nat.exists_eq_succ_of_ne_zero (Nat.ne_zero_of_lt enough)
    have less : source.length < n := Nat.lt_of_succ_lt (Nat.lt_of_succ_lt_succ enough)
    rw [Nat.succ_eq_add_one, readSequence_escaped escapable, ih less]
    simp

/-- Characters that were read, last first, are put in front of what they spell. -/
theorem spells_foldl (before : List Char) (spells : e.Spells word) :
    ((before.map (.literal · false)).foldl (fun rest first => Expr.seq first rest) e).Spells
      (before.reverse ++ word) := by
  induction before generalizing e word with
  | nil => exact spells
  | cons c before ih =>
    rw [List.reverse_cons, List.append_assoc]
    exact ih (.cons c false spells)

theorem spells_seqOf (some : word ≠ []) :
    (seqOf (word.map (.literal · false)).reverse).Spells word := by
  obtain ⟨c, before, backward⟩ := List.exists_cons_of_ne_nil (List.reverse_ne_nil_iff.2 some)
  have spells := spells_foldl before (.last c false)
  rw [← List.reverse_cons, ← backward, List.reverse_reverse] at spells
  rw [← List.map_reverse, backward]
  exact spells

theorem Expr.Spells.depth_le (spells : e.Spells word) : e.depth false false ≤ 1 := by
  have flat {e : Expr} {word : List Char} (spells : e.Spells word) : e.depth true false = 0 := by
    induction spells with
    | last c isByte => rfl
    | cons c isByte rest ih => simp [Expr.depth, ih]
  cases spells with
  | last c isByte => exact Nat.zero_le 1
  | cons c isByte rest => simp [Expr.depth, flat rest]

/-- Characters that are written one by one are read as such. -/
theorem isLiteral_of_writes (writes : Writes p.source.toList word) (some : word ≠ []) :
    p.IsLiteral word := by
  have spells := spells_seqOf some
  refine ⟨_, ?_, spells⟩
  have alternatives : readAlternatives (2 * p.source.toList.length + 2) ⟨p.source.toList, false, []⟩ =
      .ok (seqOf (word.map (.literal · false)).reverse, ⟨[], false, []⟩) := by
    rw [readAlternatives, readSequence_writes writes (by omega), List.append_nil]
    rfl
  have shallow : ¬maxDepth < (seqOf (word.map (.literal · false)).reverse).depth false false :=
    Nat.not_lt.2 (Nat.le_trans spells.depth_le (by decide))
  simp [read, alternatives, bind, Except.bind, pure, Except.pure, shallow]

end Patrol.Pattern
