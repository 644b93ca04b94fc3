import Patrol.Proofs.Regex.Search

/-! Expressions without anchors. What stands around a part of a text does not matter to them, so each
of them is a set of words, and it occurs where one of its words does. -/
namespace Patrol.Regex
variable {π : Type}

/-- Whether an expression has no anchors. -/
def anchorless : Regex π → Bool
  | .empty | .letter _ => true
  | .anchor _ => false
  | .seq r s | .alt r s => r.anchorless && s.anchorless
  | .star r => r.anchorless

variable {α : Type} [Alphabet π α] {r : Regex π} {p u q text whole : List α}

/-- Without anchors, a part of one text is matched in any other text. -/
theorem matches_anywhere (free : r.anchorless = true) (matched : r.Matches p u q) (p' q' : List α) :
    r.Matches p' u q' := by
  induction matched generalizing p' q' with
  | empty => exact .empty p' q'
  | letter _ _ member => exact .letter p' q' member
  | anchor => cases free
  | seq _ _ first second =>
    obtain ⟨freeR, freeS⟩ := Bool.and_eq_true_iff.1 free
    exact .seq (first freeR ..) (second freeS ..)
  | altLeft s _ left => exact .altLeft s (left (Bool.and_eq_true_iff.1 free).1 ..)
  | altRight r _ right => exact .altRight r (right (Bool.and_eq_true_iff.1 free).2 ..)
  | starNil r => exact .starNil r p' q'
  | starCons _ _ first more => exact .starCons (first free ..) (more free ..)

/-- Without anchors, only the words of an expression count. -/
theorem occurs_iff_exists_word (free : r.anchorless = true) :
    r.Occurs text ↔ ∃ u, u <:+: text ∧ r.Matches [] u [] := by
  constructor
  · rintro ⟨p, u, q, rfl, matched⟩
    exact ⟨u, ⟨p, q, List.append_assoc p u q⟩, matches_anywhere free matched [] []⟩
  · rintro ⟨u, ⟨p, q, rfl⟩, word⟩
    exact ⟨p, u, q, List.append_assoc p u q, matches_anywhere free word p q⟩

/-- What occurs in a part of a text occurs in all of it. -/
theorem Occurs.of_part (free : r.anchorless = true) (inside : text <:+: whole)
    (occurs : r.Occurs text) : r.Occurs whole := by
  rw [occurs_iff_exists_word free] at occurs ⊢
  obtain ⟨u, part, word⟩ := occurs
  exact ⟨u, part.trans inside, word⟩

end Patrol.Regex
