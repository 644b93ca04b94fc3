/-! Sums over lists. -/
namespace Patrol
variable {α β : Type}

/-- What the elements of a list count for together. -/
def total (count : α → Nat) : List α → Nat
  | [] => 0
  | x :: xs => count x + total count xs

@[simp]
theorem total_nil (count : α → Nat) : total count [] = 0 := rfl

@[simp]
theorem total_cons (count : α → Nat) (x : α) (xs : List α) :
    total count (x :: xs) = count x + total count xs := rfl

@[simp]
theorem total_append (count : α → Nat) (xs ys : List α) :
    total count (xs ++ ys) = total count xs + total count ys := by
  induction xs with
  | nil => simp
  | cons x xs ih => simp [ih, Nat.add_assoc]

@[simp]
theorem total_map (count : β → Nat) (f : α → β) (xs : List α) :
    total count (xs.map f) = total (fun x => count (f x)) xs := by
  induction xs with
  | nil => rfl
  | cons x xs ih => simp [ih]

@[simp]
theorem total_replicate (count : α → Nat) (n : Nat) (x : α) :
    total count (List.replicate n x) = n * count x := by
  induction n with
  | zero => simp
  | succ n ih => simp [List.replicate_succ, ih, Nat.succ_mul, Nat.add_comm]

theorem total_congr {count other : α → Nat} {xs : List α} (same : ∀ x ∈ xs, count x = other x) :
    total count xs = total other xs := by
  induction xs with
  | nil => rfl
  | cons x xs ih =>
    obtain ⟨first, rest⟩ := List.forall_mem_cons.1 same
    rw [total_cons, total_cons, first, ih rest]

/-- The order of the elements does not matter. -/
theorem total_perm (count : α → Nat) {xs ys : List α} (same : xs.Perm ys) :
    total count xs = total count ys := by
  induction same with
  | nil => rfl
  | cons x _ ih => simp [ih]
  | swap x y xs => simp [Nat.add_left_comm]
  | trans _ _ first second => exact first.trans second

theorem total_pos_iff {count : α → Nat} {xs : List α} :
    0 < total count xs ↔ ∃ x ∈ xs, 0 < count x := by
  induction xs with
  | nil => simp
  | cons x xs ih =>
    rw [total_cons, Nat.add_pos_iff_pos_or_pos, ih]
    simp

end Patrol
