import Patrol.Pattern.Anchor
import Patrol.Proofs.Regex.Span
import Patrol.Proofs.Text.Returns

/-! Positions of a text in the same text with carriage returns before its line feeds, and what
anchors say there. -/
namespace Patrol.Pattern
open Patrol.Regex
open Text

/-- The same position in the text with returns; in front of a line feed, it is in front of the
return too. -/
def returned (x : Position Char) : Position Char := ⟨withReturns x.before, withReturns x.after⟩

/-- The text has a line feed between `x` and `y`, and `m` is between it and its return. -/
structure Between (x y m : Position Char) : Prop where
  newline : x.Next '\n' y
  eq : m = ⟨withReturns x.before ++ ['\r'], '\n' :: withReturns y.after⟩

variable {x y m : Position Char} {c : Char}

theorem exists_between (newline : x.Next '\n' y) : ∃ m, Between x y m := ⟨_, newline, rfl⟩

theorem returned_next (plain : c ≠ '\n') (next : x.Next c y) :
    (returned x).Next c (returned y) := by
  obtain ⟨after, before⟩ := next
  simp only [returned, Position.Next, after, before]
  exact ⟨withReturns_cons_of_ne plain _, withReturns_concat_of_ne plain _⟩

namespace Between

theorem enter (between : Between x y m) : (returned x).Next '\r' m := by
  obtain ⟨⟨after, -⟩, rfl⟩ := between
  simp only [returned, Position.Next, after]
  exact ⟨withReturns_cons_newline _, trivial⟩

theorem leave (between : Between x y m) : m.Next '\n' (returned y) := by
  obtain ⟨⟨-, before⟩, rfl⟩ := between
  simp only [returned, Position.Next, before]
  exact ⟨trivial, withReturns_concat_newline _⟩

theorem text_eq (between : Between x y m) : m.text = withReturns x.text := by
  obtain ⟨⟨after, -⟩, rfl⟩ := between
  simp [Position.text, after, withReturns_append, withReturns_cons_newline]

end Between

/-- The ways on from a position in the text with returns. -/
theorem next_returned_cases {z : Position Char} (next : (returned x).Next c z) :
    (c ≠ '\n' ∧ ∃ y, x.Next c y ∧ z = returned y) ∨ (c = '\r' ∧ ∃ y, Between x y z) := by
  obtain ⟨p, q⟩ := x
  cases q with
  | nil => cases next.1
  | cons d q =>
    have here : Position.Next d ⟨p, d :: q⟩ ⟨p ++ [d], q⟩ := ⟨rfl, rfl⟩
    by_cases newline : d = '\n'
    · subst newline
      obtain ⟨m, between⟩ := exists_between here
      obtain ⟨rfl, rfl⟩ := between.enter.unique next
      exact .inr ⟨rfl, _, between⟩
    · obtain ⟨rfl, rfl⟩ := (returned_next newline here).unique next
      exact .inl ⟨newline, _, here, rfl⟩

/-- Every position of the text with returns is one of the text, or between a line feed and its
return. -/
theorem exists_returned {text : List Char} {z : Position Char} (whole : z.text = withReturns text) :
    ∃ x : Position Char, x.text = text ∧ (z = returned x ∨ ∃ y, Between x y z) := by
  obtain ⟨front, back⟩ := z
  obtain ⟨p, q, ⟨rfl, rfl, rfl⟩ | ⟨rfl, rfl, rfl⟩⟩ := withReturns_eq_append whole.symm
  · exact ⟨⟨p, q⟩, rfl, .inl rfl⟩
  · exact ⟨⟨p, '\n' :: q⟩, rfl, .inr ⟨⟨p ++ ['\n'], q⟩, ⟨rfl, rfl⟩, rfl⟩⟩

theorem text_returned (x : Position Char) : (returned x).text = withReturns x.text :=
  (withReturns_append x.before x.after).symm

/-! ## Anchors with returns -/

/-- Whether an anchor holds at a position. -/
def Anchor.holdsAt (a : Anchor) (x : Position Char) : Bool :=
  a.holds x.before.getLast? x.after.head?

/-- Anchors that hold with returns where they hold without, and between a line feed and its return
nowhere. -/
def Anchor.steady : Anchor → Bool
  | .textStart | .textEnd | .lineStart false => true
  | .word .boundary _ | .word .start _ | .word .stop _ => true
  | _ => false

theorem any_head?_withReturns {p : Char → Bool} (neither : p '\r' = p '\n') (cs : List Char) :
    (withReturns cs).head?.any p = cs.head?.any p := by
  rw [head?_withReturns, Option.any_map]
  congr 1
  funext c
  by_cases newline : c = '\n' <;> simp [newline, neither]

theorem Anchor.holdsAt_returned {a : Anchor} (steady : a.steady = true) (x : Position Char) :
    a.holdsAt (returned x) = a.holdsAt x := by
  have word : isWordChar '\r' = isWordChar '\n' := by decide
  have ascii : isAsciiWordChar '\r' = isAsciiWordChar '\n' := by decide
  cases a with
  | textStart | textEnd => simp [holdsAt, holds, returned, head?_withReturns]
  | lineStart crlf =>
    cases crlf with
    | false => simp [holdsAt, holds, returned]
    | true => cases steady
  | lineEnd crlf => cases steady
  | word edge unicode =>
    cases unicode <;>
      simp [holdsAt, holds, returned, any_head?_withReturns word, any_head?_withReturns ascii]

theorem Anchor.not_holdsAt_between {a : Anchor} (steady : a.steady = true)
    (between : Between x y m) : a.holdsAt m = false := by
  obtain ⟨-, rfl⟩ := between
  simp only [holdsAt, List.getLast?_concat, List.head?_cons]
  cases a with
  | textStart | textEnd => rfl
  | lineStart crlf =>
    cases crlf with
    | false => decide
    | true => cases steady
  | lineEnd crlf => cases steady
  | word edge unicode =>
    cases edge with
    | boundary | start | stop => cases unicode <;> decide
    | noBoundary | startHalf | stopHalf => cases steady

/-- Lines end in front of the line feed itself: between it and its return, or at the end of the
text. -/
theorem holdsAt_lineEnd_iff {x : Position Char} :
    (Anchor.lineEnd false).holdsAt x = true ↔ x.after = [] ∨ ∃ y, x.Next '\n' y := by
  obtain ⟨p, q⟩ := x
  cases q with
  | nil => simp [Anchor.holdsAt, Anchor.holds]
  | cons c q =>
    simp only [Anchor.holdsAt, Anchor.holds, Position.Next, List.head?_cons]
    constructor
    · intro here
      have newline : c = '\n' := by simpa using here
      exact .inr ⟨⟨p ++ [c], q⟩, by rw [newline], by rw [newline]⟩
    · rintro (none | ⟨y, after, -⟩)
      · cases none
      · obtain ⟨rfl, -⟩ := List.cons.inj after
        rfl

end Patrol.Pattern
