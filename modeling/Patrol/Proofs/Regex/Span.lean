import Mathlib.Data.Set.Defs
import Mathlib.Logic.Relation
import Patrol.Proofs.Regex.Search

/-! Matches as ways from one position of a text to another, and how the ways through one text are
followed in another text. -/
namespace Patrol.Regex
variable {π α : Type}

/-- A position in a text, by what stands in front of it and what stands behind it. -/
structure Position (α : Type) where
  before : List α
  after : List α

namespace Position

def text (x : Position α) : List α := x.before ++ x.after

/-- The position `y` is the next one behind `x`, and `c` is between them. -/
def Next (c : α) (x y : Position α) : Prop := x.after = c :: y.after ∧ y.before = x.before ++ [c]

/-- There is one way on from a position. -/
theorem Next.unique {c d : α} {x y z : Position α} (next : x.Next c y) (other : x.Next d z) :
    d = c ∧ z = y := by
  obtain ⟨p, q⟩ := y
  obtain ⟨p', q'⟩ := z
  obtain ⟨after, before⟩ := next
  obtain ⟨after', before'⟩ := other
  obtain ⟨rfl, same⟩ := List.cons.inj (after'.symm.trans after)
  exact ⟨rfl, congr (congrArg Position.mk (before'.trans before.symm)) same⟩

end Position

variable [Alphabet π α] {r s : Regex π} {x y z : Position α}

/-- What stands between two positions is matched. -/
def Spans (r : Regex π) (x y : Position α) : Prop :=
  ∃ u, x.after = u ++ y.after ∧ y.before = x.before ++ u ∧ Matches r x.before u y.after

theorem occurs_iff_spans {text : List α} :
    r.Occurs text ↔ ∃ x y : Position α, x.text = text ∧ r.Spans x y := by
  constructor
  · rintro ⟨p, u, q, rfl, matched⟩
    exact ⟨⟨p, u ++ q⟩, ⟨p ++ u, q⟩, rfl, u, rfl, rfl, matched⟩
  · rintro ⟨x, y, rfl, u, split, -, matched⟩
    exact ⟨x.before, u, y.after, by rw [Position.text, split], matched⟩

@[simp] theorem spans_empty_iff : (Regex.empty : Regex π).Spans x y ↔ y = x := by
  obtain ⟨p, q⟩ := x
  obtain ⟨p', q'⟩ := y
  simp [Spans]
  grind

theorem spans_letter_iff {set : CodeSet} :
    (Regex.letter set : Regex π).Spans x y ↔
      ∃ c, x.Next c y ∧ set.contains (Alphabet.code π c) = true := by
  simp only [Spans, matches_letter_iff, Position.Next]
  grind

@[simp] theorem spans_anchor_iff {a : π} :
    (Regex.anchor a).Spans x y ↔
      y = x ∧ Alphabet.holds a x.before.getLast? x.after.head? = true := by
  obtain ⟨p, q⟩ := x
  obtain ⟨p', q'⟩ := y
  simp [Spans]
  grind

theorem spans_seq_iff : (Regex.seq r s).Spans x y ↔ ∃ z, r.Spans x z ∧ s.Spans z y := by
  constructor
  · rintro ⟨u, split, front, matched⟩
    obtain ⟨v, w, rfl, first, second⟩ := matches_seq_iff.1 matched
    exact ⟨⟨x.before ++ v, w ++ y.after⟩, ⟨v, by simpa using split, rfl, first⟩,
      ⟨w, rfl, by simpa using front, second⟩⟩
  · rintro ⟨z, ⟨v, splitV, frontV, first⟩, ⟨w, splitW, frontW, second⟩⟩
    rw [splitW] at first
    rw [frontV] at second
    exact ⟨v ++ w, by rw [splitV, splitW, List.append_assoc],
      by rw [frontW, frontV, List.append_assoc], matches_seq_iff.2 ⟨v, w, rfl, first, second⟩⟩

theorem spans_alt_iff : (Regex.alt r s).Spans x y ↔ r.Spans x y ∨ s.Spans x y := by
  simp only [Spans, matches_alt_iff]
  grind

theorem spans_star_iff : (Regex.star r).Spans x y ↔ Relation.ReflTransGen r.Spans x y := by
  constructor
  · rintro ⟨u, split, front, matched⟩
    obtain ⟨p, q⟩ := x
    obtain ⟨p', q'⟩ := y
    simp only at split front matched
    subst split front
    generalize hs : Regex.star r = s at matched
    induction matched with
    | starNil => rw [List.append_nil, List.nil_append]
    | @starCons r' p u v q first _ _ ih =>
      cases hs
      refine .head (b := ⟨p ++ u, v ++ q⟩) ⟨u, by simp, rfl, first⟩ ?_
      simpa using ih rfl
    | _ => cases hs
  · intro way
    induction way using Relation.ReflTransGen.head_induction_on with
    | refl => exact ⟨[], rfl, (List.append_nil _).symm, .starNil r ..⟩
    | @head x z first _ ih =>
      obtain ⟨u, split, front, matched⟩ := first
      obtain ⟨v, splitV, frontV, more⟩ := ih
      rw [splitV] at matched
      rw [front] at more
      exact ⟨u ++ v, by rw [split, splitV, List.append_assoc],
        by rw [frontV, front, List.append_assoc], .starCons matched more⟩

theorem Spans.star (spans : r.Spans x y) : (Regex.star r).Spans x y :=
  spans_star_iff.2 (.single spans)

/-! ## Ways through two texts -/

/-- The positions to which the expression leads from some position of a set. -/
def reached (r : Regex π) (X : Set (Position α)) : Set (Position α) :=
  {y | ∃ x ∈ X, r.Spans x y}

theorem subset_reached_star (r : Regex π) (X : Set (Position α)) : X ⊆ (Regex.star r).reached X :=
  fun x member => ⟨x, member, spans_star_iff.2 .refl⟩

theorem reached_star_star (r : Regex π) (X : Set (Position α)) :
    (Regex.star r).reached ((Regex.star r).reached X) ⊆ (Regex.star r).reached X := by
  rintro z ⟨y, ⟨x, member, first⟩, second⟩
  exact ⟨x, member, spans_star_iff.2 ((spans_star_iff.1 first).trans (spans_star_iff.1 second))⟩

/-- What is known of the positions reached in one text, when a position is reached in the other.
Reaching more does not hurt. -/
structure Footing (α : Type) where
  holds : Position α → Set (Position α) → Prop
  mono : ∀ {x X Y}, X ⊆ Y → holds x X → holds x Y

/-- Wherever the expression leads in the one text, it leads in the other, from footing to
footing. -/
def Follows (r : Regex π) (σ τ : Footing α) : Prop :=
  ∀ x X, σ.holds x X → ∀ y, r.Spans x y → τ.holds y (r.reached X)

namespace Follows
variable {σ τ υ : Footing α}

theorem weaken {σ' τ' : Footing α} (before : ∀ {x X}, σ'.holds x X → σ.holds x X)
    (after : ∀ {x X}, τ.holds x X → τ'.holds x X) (follows : Follows r σ τ) : Follows r σ' τ' :=
  fun x X here y spans => after (follows x X (before here) y spans)

theorem empty (σ : Footing α) : Follows (.empty : Regex π) σ σ := by
  intro x X here y spans
  obtain rfl := spans_empty_iff.1 spans
  exact σ.mono (fun z member => ⟨z, member, spans_empty_iff.2 rfl⟩) here

theorem seq (first : Follows r σ τ) (second : Follows s τ υ) : Follows (.seq r s) σ υ := by
  intro x X here y spans
  obtain ⟨z, spansR, spansS⟩ := spans_seq_iff.1 spans
  refine υ.mono ?_ (second z _ (first x X here z spansR) y spansS)
  rintro y' ⟨z', ⟨x', member, spansR⟩, spansS⟩
  exact ⟨x', member, spans_seq_iff.2 ⟨z', spansR, spansS⟩⟩

theorem alt (left : Follows r σ τ) (right : Follows s σ τ) : Follows (.alt r s) σ τ := by
  intro x X here y spans
  obtain spans | spans := spans_alt_iff.1 spans
  · refine τ.mono ?_ (left x X here y spans)
    rintro y' ⟨x', member, way⟩
    exact ⟨x', member, spans_alt_iff.2 (.inl way)⟩
  · refine τ.mono ?_ (right x X here y spans)
    rintro y' ⟨x', member, way⟩
    exact ⟨x', member, spans_alt_iff.2 (.inr way)⟩

/-- A repetition may follow one turn with any number of its own. -/
theorem star (step : ∀ x X, σ.holds x X → ∀ y, r.Spans x y → σ.holds y ((Regex.star r).reached X)) :
    Follows (.star r) σ σ := by
  intro x X here y spans
  replace spans := spans_star_iff.1 spans
  induction spans with
  | refl => exact σ.mono (subset_reached_star r X) here
  | tail _ last ih => exact σ.mono (reached_star_star r X) (step _ _ ih _ last)

end Follows

end Patrol.Regex
