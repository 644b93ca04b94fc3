import Mathlib.Data.List.Forall2

/-! Lists of results, each of which may be an error. -/
namespace Patrol
variable {ε α β : Type}

theorem bind_eq_ok_iff {x : Except ε α} {f : α → Except ε β} {b : β} :
    x >>= f = .ok b ↔ ∃ a, x = .ok a ∧ f a = .ok b := by
  cases x <;> simp [bind, Except.bind]

/-- All goes well with a list exactly if it does with each element. -/
theorem mapM_eq_ok_iff {f : α → Except ε β} {xs : List α} {ys : List β} :
    xs.mapM f = .ok ys ↔ List.Forall₂ (fun x y => f x = .ok y) xs ys := by
  induction xs generalizing ys with
  | nil => cases ys <;> simp [pure, Except.pure]
  | cons x xs ih =>
    rw [List.mapM_cons, List.forall₂_cons_left_iff]
    cases hx : f x with
    | error e => simp [bind, Except.bind]
    | ok y =>
      cases hxs : xs.mapM f with
      | error e =>
        have none (ys : List β) : ¬List.Forall₂ (fun x y => f x = .ok y) xs ys := fun h => by
          rw [← ih, hxs] at h; cases h
        simp [bind, Except.bind, none]
      | ok rest =>
        have same (ys : List β) : List.Forall₂ (fun x y => f x = .ok y) xs ys ↔ rest = ys := by
          rw [← ih, hxs, Except.ok.injEq]
        simp [bind, Except.bind, pure, Except.pure, same, eq_comm]

/-- What goes wrong with a list is what goes wrong with the first element with which anything does. -/
theorem mapM_eq_error_iff {f : α → Except ε β} {xs : List α} {e : ε} :
    xs.mapM f = .error e ↔
      ∃ front x back, xs = front ++ x :: back ∧ (∀ y ∈ front, ∃ z, f y = .ok z) ∧
        f x = .error e := by
  induction xs with
  | nil => simp [pure, Except.pure]
  | cons first xs ih =>
    rw [List.mapM_cons]
    constructor
    · intro failed
      cases hf : f first with
      | error e' =>
        simp only [hf, bind, Except.bind, Except.error.injEq] at failed
        exact ⟨[], first, xs, rfl, nofun, failed ▸ hf⟩
      | ok z =>
        have rest : xs.mapM f = .error e := by
          cases hxs : xs.mapM f with
          | error e' => simpa [hf, hxs, bind, Except.bind] using failed
          | ok zs => simp [hf, hxs, bind, Except.bind, pure, Except.pure] at failed
        obtain ⟨front, x, back, rfl, fine, wrong⟩ := ih.1 rest
        exact ⟨first :: front, x, back, rfl, List.forall_mem_cons.2 ⟨⟨z, hf⟩, fine⟩, wrong⟩
    · rintro ⟨front, x, back, same, fine, wrong⟩
      cases front with
      | nil =>
        obtain ⟨rfl, rfl⟩ := List.cons.inj same
        simp [wrong, bind, Except.bind]
      | cons y front =>
        obtain ⟨rfl, rfl⟩ := List.cons.inj same
        obtain ⟨⟨z, hf⟩, fine⟩ := List.forall_mem_cons.1 fine
        have rest : (front ++ x :: back).mapM f = .error e := ih.2 ⟨front, x, back, rfl, fine, wrong⟩
        simp [hf, rest, bind, Except.bind]

theorem exists_of_forall₂ {R : α → β → Prop} {xs : List α} {ys : List β}
    (h : List.Forall₂ R xs ys) {y : β} (hy : y ∈ ys) : ∃ x ∈ xs, R x y := by
  induction h with
  | nil => cases hy
  | cons hxy _ ih =>
    obtain rfl | hy := List.mem_cons.1 hy
    · exact ⟨_, .head _, hxy⟩
    · obtain ⟨x, hx, h⟩ := ih hy
      exact ⟨x, .tail _ hx, h⟩

theorem mapM_isOk_iff {f : α → Except ε β} {xs : List α} :
    (∃ ys, xs.mapM f = .ok ys) ↔ ∀ x ∈ xs, ∃ y, f x = .ok y := by
  constructor
  · rintro ⟨ys, all⟩ x hx
    obtain ⟨y, -, hy⟩ := exists_of_forall₂ (mapM_eq_ok_iff.1 all).flip hx
    exact ⟨y, hy⟩
  · intro fine
    cases result : xs.mapM f with
    | ok ys => exact ⟨ys, rfl⟩
    | error e =>
      obtain ⟨front, x, back, rfl, -, wrong⟩ := mapM_eq_error_iff.1 result
      obtain ⟨y, hy⟩ := fine x (by simp)
      rw [wrong] at hy
      cases hy

end Patrol
