/-! The first element of a list that stands in it before. -/
namespace Patrol

variable {α : Type} [DecidableEq α]

/-- The first element that is among `seen` or among those in front of it. -/
def firstRepeatedAfter (seen : List α) : List α → Option α
  | [] => none
  | x :: xs => if x ∈ seen then some x else firstRepeatedAfter (x :: seen) xs

def firstRepeated? (xs : List α) : Option α := firstRepeatedAfter [] xs

theorem firstRepeatedAfter_eq_none_iff {seen xs : List α} :
    firstRepeatedAfter seen xs = none ↔ xs.Nodup ∧ ∀ x ∈ xs, x ∉ seen := by
  induction xs generalizing seen with
  | nil => simp [firstRepeatedAfter]
  | cons x xs ih =>
    simp only [firstRepeatedAfter, List.nodup_cons, List.forall_mem_cons]
    split <;> rename_i h
    · simp [h]
    · rw [ih]
      simp only [List.mem_cons, not_or]
      grind

theorem firstRepeated?_eq_none_iff {xs : List α} : firstRepeated? xs = none ↔ xs.Nodup := by
  simp [firstRepeated?, firstRepeatedAfter_eq_none_iff]

/-- An element is the first repeated one if all in front of it are different, and it is among them. -/
theorem firstRepeatedAfter_eq_some_iff {seen xs : List α} {x : α} :
    firstRepeatedAfter seen xs = some x ↔
      ∃ front back, xs = front ++ x :: back ∧ front.Nodup ∧ (∀ y ∈ front, y ∉ seen) ∧
        (x ∈ front ∨ x ∈ seen) := by
  induction xs generalizing seen with
  | nil => simp [firstRepeatedAfter]
  | cons y ys ih =>
    simp only [firstRepeatedAfter]
    constructor
    · intro found
      split at found
      · next old => cases found; exact ⟨[], ys, rfl, .nil, nofun, .inr old⟩
      · next new =>
        obtain ⟨front, back, rfl, distinct, unseen, again⟩ := ih.1 found
        refine ⟨y :: front, back, rfl, ?_, ?_, ?_⟩ <;> grind
    · rintro ⟨front, back, same, distinct, unseen, again⟩
      cases front with
      | nil =>
        obtain ⟨rfl, rfl⟩ := List.cons.inj same
        have old : y ∈ seen := by simpa using again
        rw [if_pos old]
      | cons z front =>
        obtain ⟨rfl, rfl⟩ := List.cons.inj same
        rw [if_neg (unseen y (.head front))]
        refine ih.2 ⟨front, back, rfl, ?_, ?_, ?_⟩ <;> grind

theorem firstRepeated?_eq_some_iff {xs : List α} {x : α} :
    firstRepeated? xs = some x ↔ ∃ front back, xs = front ++ x :: back ∧ front.Nodup ∧ x ∈ front := by
  simp [firstRepeated?, firstRepeatedAfter_eq_some_iff]

end Patrol
