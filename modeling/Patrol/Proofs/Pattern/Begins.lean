import Patrol.Pattern.Anchor
import Patrol.Proofs.CodeSet
import Patrol.Proofs.Regex.Begins

/-! Patterns held against a text from one position on: characters that stand for themselves, blanks,
and the edges of words. -/
namespace Patrol.Pattern
open Regex
variable {c : Char} {p q word : List Char} {r : Regex Anchor}

/-! ## Characters that stand for themselves -/

theorem contains_single_toNat_iff {d : Char} :
    (CodeSet.single c.toNat).contains (Alphabet.code Anchor d) = true ↔ d = c := by
  rw [CodeSet.contains_single_iff]
  exact Char.toNat_inj

/-- A character that stands for itself, and what follows it. -/
theorem beginsAt_single_seq_iff :
    (Regex.seq (.letter (.single c.toNat)) r).BeginsAt ⟨p, q⟩ ↔
      ∃ rest, q = c :: rest ∧ r.BeginsAt ⟨p ++ [c], rest⟩ := by
  rw [beginsAt_letter_seq_iff]
  simp only [contains_single_toNat_iff]
  constructor
  · rintro ⟨d, rest, rfl, rfl, begins⟩
    exact ⟨rest, rfl, begins⟩
  · rintro ⟨rest, rfl, begins⟩
    exact ⟨c, rest, rfl, rfl, begins⟩

/-- The characters of a word one after the other, and behind them `r`. -/
def spelled (word : List Char) (r : Regex Anchor) : Regex Anchor :=
  word.foldr (fun c r => .seq (.letter (.single c.toNat)) r) r

theorem beginsAt_spelled_iff :
    (spelled word r).BeginsAt ⟨p, q⟩ ↔
      ∃ rest, q = word ++ rest ∧ r.BeginsAt ⟨p ++ word, rest⟩ := by
  induction word generalizing p q with
  | nil => simp [spelled]
  | cons c word ih =>
    have whole : spelled (c :: word) r = .seq (.letter (.single c.toNat)) (spelled word r) := rfl
    rw [whole, beginsAt_single_seq_iff]
    constructor
    · rintro ⟨_, rfl, first⟩
      obtain ⟨rest, rfl, begins⟩ := ih.1 first
      rw [List.append_assoc] at begins
      exact ⟨rest, rfl, begins⟩
    · rintro ⟨rest, rfl, begins⟩
      refine ⟨word ++ rest, rfl, ih.2 ⟨rest, rfl, ?_⟩⟩
      rwa [List.append_assoc]

/-! ## Blanks -/

/-- Any number of blanks. -/
def blanks : Regex Anchor := .seq .empty (.star (.letter Unicode.Property.whiteSpace))

theorem beginsAt_blanks_seq_iff :
    (Regex.seq blanks r).BeginsAt ⟨p, q⟩ ↔
      ∃ u rest, q = u ++ rest ∧ (∀ c ∈ u, isBlank c = true) ∧ r.BeginsAt ⟨p ++ u, rest⟩ := by
  rw [blanks, beginsAt_seq_assoc_iff, beginsAt_empty_seq_iff]
  exact beginsAt_letters_seq_iff

/-- No blank belongs to a word. -/
theorem isWordChar_of_isBlank (blank : isBlank c = true) : isWordChar c = false := by
  have apart : ∀ n ∈ CodeSet.between Unicode.Property.whiteSpace.bounds,
      isWordChar (Char.ofNat n) = false := by
    decide +kernel
  rw [← Char.ofNat_toNat c]
  exact apart c.toNat (CodeSet.mem_between_of_memFrom rfl blank)

/-! ## Edges of words -/

/-- No character of words stands at the end of the text. -/
def EndsApart (front : List Char) : Prop := ∀ c ∈ front.getLast?, isWordChar c = false

/-- No character of words stands at the beginning of the text. -/
def BeginsApart (back : List Char) : Prop := ∀ c ∈ back.head?, isWordChar c = false

theorem any_isWordChar_eq_false_iff {c? : Option Char} :
    c?.any isWordChar = false ↔ ∀ c ∈ c?, isWordChar c = false := by
  cases c? <;> simp

instance (front : List Char) : Decidable (EndsApart front) :=
  decidable_of_iff (front.getLast?.any isWordChar = false) any_isWordChar_eq_false_iff

instance (back : List Char) : Decidable (BeginsApart back) :=
  decidable_of_iff (back.head?.any isWordChar = false) any_isWordChar_eq_false_iff

/-- The word stands in the text with no character of words right before or right behind it. -/
def StandsAlone (word text : List Char) : Prop :=
  ∃ front back, text = front ++ (word ++ back) ∧ EndsApart front ∧ BeginsApart back

/-- Where the word could stand alone can be tried out place by place. -/
theorem standsAlone_iff {word text : List Char} :
    StandsAlone word text ↔
      ∃ n ∈ List.range (text.length + 1), word <+: text.drop n ∧ EndsApart (text.take n) ∧
        BeginsApart ((text.drop n).drop word.length) := by
  constructor
  · rintro ⟨front, back, rfl, before, behind⟩
    refine ⟨front.length, ?_, ?_⟩
    · rw [List.mem_range, List.length_append]
      omega
    · simpa using ⟨before, behind⟩
  · rintro ⟨n, -, ⟨back, split⟩, before, behind⟩
    refine ⟨text.take n, back, ?_, before, ?_⟩
    · rw [split, List.take_append_drop]
    · rwa [← split, List.drop_left] at behind

instance (word text : List Char) : Decidable (StandsAlone word text) :=
  decidable_of_iff _ standsAlone_iff.symm

/-- Where a word begins or ends. -/
def edge : Regex Anchor := .anchor (.word .boundary true)

/-- The edge in front of a word: what stands before it is none of its characters. -/
theorem beginsAt_edge_spelled_iff (begins : isWordChar c = true) :
    (Regex.seq edge (spelled (c :: word) r)).BeginsAt ⟨p, q⟩ ↔
      EndsApart p ∧ (spelled (c :: word) r).BeginsAt ⟨p, q⟩ := by
  rw [edge, beginsAt_anchor_seq_iff]
  refine and_congr_left fun spelt => ?_
  obtain ⟨rest, rfl, -⟩ := beginsAt_spelled_iff.1 spelt
  rw [EndsApart, ← any_isWordChar_eq_false_iff]
  simp [Alphabet.holds, Anchor.holds, WordEdge.holds, begins]

/-- The edge behind a word. -/
theorem beginsAt_edge_iff (ends : isWordChar c = true) :
    edge.BeginsAt ⟨p ++ [c], q⟩ ↔ BeginsApart q := by
  rw [edge, beginsAt_anchor_iff, BeginsApart, ← any_isWordChar_eq_false_iff]
  simp [Alphabet.holds, Anchor.holds, WordEdge.holds, ends]

end Patrol.Pattern
