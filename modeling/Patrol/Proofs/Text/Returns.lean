import Mathlib.Data.List.Induction

/-! Texts whose line feeds get carriage returns in front of them. -/
namespace Patrol.Text

/-- The text with a carriage return directly before every line feed. -/
def withReturns (cs : List Char) : List Char :=
  cs.flatMap fun c => if c = '\n' then ['\r', '\n'] else [c]

@[simp] theorem withReturns_nil : withReturns [] = [] := rfl

theorem withReturns_cons_newline (cs : List Char) :
    withReturns ('\n' :: cs) = '\r' :: '\n' :: withReturns cs := rfl

theorem withReturns_cons_of_ne {c : Char} (plain : c ≠ '\n') (cs : List Char) :
    withReturns (c :: cs) = c :: withReturns cs := by
  simp [withReturns, plain]

theorem withReturns_append (p q : List Char) :
    withReturns (p ++ q) = withReturns p ++ withReturns q := by
  simp [withReturns]

theorem withReturns_concat_newline (p : List Char) :
    withReturns (p ++ ['\n']) = withReturns p ++ ['\r'] ++ ['\n'] := by
  rw [withReturns_append, withReturns_cons_newline, withReturns_nil, List.append_assoc]
  rfl

theorem withReturns_concat_of_ne {c : Char} (plain : c ≠ '\n') (p : List Char) :
    withReturns (p ++ [c]) = withReturns p ++ [c] := by
  rw [withReturns_append, withReturns_cons_of_ne plain, withReturns_nil]

@[simp] theorem withReturns_eq_nil_iff {cs : List Char} : withReturns cs = [] ↔ cs = [] := by
  cases cs with
  | nil => simp
  | cons c cs =>
    by_cases newline : c = '\n'
    · subst newline; simp [withReturns_cons_newline]
    · simp [withReturns_cons_of_ne newline]

/-- A text ends as before. -/
@[simp] theorem getLast?_withReturns (cs : List Char) :
    (withReturns cs).getLast? = cs.getLast? := by
  induction cs using List.reverseRecOn with
  | nil => rfl
  | append_singleton p c _ =>
    by_cases newline : c = '\n'
    · subst newline; rw [withReturns_concat_newline, List.getLast?_concat, List.getLast?_concat]
    · rw [withReturns_concat_of_ne newline, List.getLast?_concat, List.getLast?_concat]

theorem head?_withReturns (cs : List Char) :
    (withReturns cs).head? = cs.head?.map fun c => if c = '\n' then '\r' else c := by
  cases cs with
  | nil => rfl
  | cons c cs =>
    by_cases newline : c = '\n'
    · subst newline; rfl
    · simp [withReturns_cons_of_ne newline, newline]

/-- Wherever the text with returns is cut, the text was cut at the same place, or the cut is between
a line feed and its return. -/
theorem withReturns_eq_append {cs front back : List Char} (cut : withReturns cs = front ++ back) :
    ∃ p q, cs = p ++ q ∧ front = withReturns p ∧ back = withReturns q ∨
      cs = p ++ '\n' :: q ∧ front = withReturns p ++ ['\r'] ∧ back = '\n' :: withReturns q := by
  induction cs generalizing front with
  | nil =>
    obtain ⟨rfl, rfl⟩ := List.append_eq_nil_iff.1 cut.symm
    exact ⟨[], [], .inl ⟨rfl, rfl, rfl⟩⟩
  | cons c cs ih =>
    cases front with
    | nil => exact ⟨[], c :: cs, .inl ⟨rfl, rfl, cut.symm⟩⟩
    | cons d front =>
      by_cases newline : c = '\n'
      · subst newline
        rw [withReturns_cons_newline, List.cons_append, List.cons.injEq] at cut
        obtain ⟨rfl, cut⟩ := cut
        cases front with
        | nil => exact ⟨[], cs, .inr ⟨rfl, rfl, cut.symm⟩⟩
        | cons e front =>
          rw [List.cons_append, List.cons.injEq] at cut
          obtain ⟨rfl, cut⟩ := cut
          obtain ⟨p, q, ⟨rfl, rfl, rfl⟩ | ⟨rfl, rfl, rfl⟩⟩ := ih cut
          · exact ⟨'\n' :: p, q, .inl ⟨rfl, rfl, rfl⟩⟩
          · exact ⟨'\n' :: p, q, .inr ⟨rfl, rfl, rfl⟩⟩
      · rw [withReturns_cons_of_ne newline, List.cons_append, List.cons.injEq] at cut
        obtain ⟨rfl, cut⟩ := cut
        obtain ⟨p, q, ⟨rfl, rfl, rfl⟩ | ⟨rfl, rfl, rfl⟩⟩ := ih cut
        · exact ⟨c :: p, q, .inl ⟨rfl, (withReturns_cons_of_ne newline p).symm, rfl⟩⟩
        · exact ⟨c :: p, q, .inr ⟨rfl, by rw [withReturns_cons_of_ne newline]; rfl, rfl⟩⟩

end Patrol.Text
