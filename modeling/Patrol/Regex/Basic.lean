import Patrol.CodeSet

/-! Regular expressions over any alphabet whose letters have code numbers, with anchors that look
at the letters on both sides of a position. The relation `Matches` is their meaning; the modules
that search texts are held against it. -/
namespace Patrol

/-- Expressions with anchors from `π`. -/
inductive Regex (π : Type) where
  | empty
  | letter (set : CodeSet)
  | anchor (a : π)
  | seq (r s : Regex π)
  | alt (r s : Regex π)
  | star (r : Regex π)

/-- The letters of a text, and what an anchor asks of the letter before it and the letter behind
it; at the ends of the text there is none. -/
class Alphabet (π : Type) (α : outParam Type) where
  code : α → Nat
  holds : π → Option α → Option α → Bool

namespace Regex
variable {π : Type}

/-- The word of the given codes. -/
def word : List Nat → Regex π
  | [] => .empty
  | [c] => .letter (.single c)
  | c :: cs => .seq (.letter (.single c)) (word cs)

def opt (r : Regex π) : Regex π := .alt r .empty

/-- Exactly `n` times `r`, put together in halves so that the tree stays shallow. The first
argument bounds the depth and `n` is enough of it. -/
def powerIn (r : Regex π) : Nat → Nat → Regex π
  | _, 0 => .empty
  | _, 1 => r
  | 0, _ => .empty
  | depth + 1, n => .seq (powerIn r depth (n / 2)) (powerIn r depth (n - n / 2))

def power (r : Regex π) (n : Nat) : Regex π := powerIn r n n

/-- At least `lo` times `r`, and at most `hi` times where `hi` is given. -/
def repeated (r : Regex π) (lo : Nat) : Option Nat → Regex π
  | none => .seq (power r lo) (.star r)
  | some hi => .seq (power r lo) (power (opt r) (hi - lo))

/-- `r.Matches p u q`: in the text made of `p`, `u` and `q`, the part `u` is matched. -/
inductive Matches {α : Type} [Alphabet π α] : Regex π → List α → List α → List α → Prop where
  | empty (p q) : Matches .empty p [] q
  | letter {set : CodeSet} {c : α} (p q) (member : set.contains (Alphabet.code π c) = true) :
      Matches (.letter set) p [c] q
  | anchor {a : π} {p q : List α} (here : Alphabet.holds a p.getLast? q.head? = true) :
      Matches (.anchor a) p [] q
  | seq {r s : Regex π} {p u v q : List α} (first : Matches r p u (v ++ q))
      (second : Matches s (p ++ u) v q) : Matches (.seq r s) p (u ++ v) q
  | altLeft {r : Regex π} {p u q : List α} (s : Regex π) (left : Matches r p u q) :
      Matches (.alt r s) p u q
  | altRight {s : Regex π} {p u q : List α} (r : Regex π) (right : Matches s p u q) :
      Matches (.alt r s) p u q
  | starNil (r : Regex π) (p q : List α) : Matches (.star r) p [] q
  | starCons {r : Regex π} {p u v q : List α} (first : Matches r p u (v ++ q))
      (more : Matches (.star r) (p ++ u) v q) : Matches (.star r) p (u ++ v) q

/-- Some part of the text is matched. -/
def Occurs {α : Type} [Alphabet π α] (r : Regex π) (text : List α) : Prop :=
  ∃ p u q, text = p ++ (u ++ q) ∧ r.Matches p u q

end Regex
end Patrol
