import Patrol.Regex.Search

/-! Reading a text in one pass finds the matches that the meaning of an expression allows: marks
stand for the matches that are under way, and one more letter carries each of them on. -/
namespace Patrol.Regex
variable {π α : Type} [Alphabet π α]

/-! ## What composite expressions match -/

section
variable {r s : Regex π} {p u q : List α}

@[simp] theorem matches_empty_iff : Matches (.empty : Regex π) p u q ↔ u = [] := by
  constructor
  · rintro ⟨⟩; rfl
  · rintro rfl; exact .empty p q

@[simp] theorem matches_letter_iff {set : CodeSet} :
    Matches (.letter set : Regex π) p u q ↔
      ∃ c, u = [c] ∧ set.contains (Alphabet.code π c) = true := by
  constructor
  · rintro (_ | ⟨_, _, member⟩); exact ⟨_, rfl, member⟩
  · rintro ⟨c, rfl, member⟩; exact .letter p q member

@[simp] theorem matches_anchor_iff {a : π} :
    Matches (.anchor a) p u q ↔ u = [] ∧ Alphabet.holds a p.getLast? q.head? = true := by
  constructor
  · rintro (_ | _ | ⟨here⟩); exact ⟨rfl, here⟩
  · rintro ⟨rfl, here⟩; exact .anchor here

theorem matches_seq_iff :
    Matches (.seq r s) p u q ↔
      ∃ v w, u = v ++ w ∧ Matches r p v (w ++ q) ∧ Matches s (p ++ v) w q := by
  constructor
  · rintro (_ | _ | _ | ⟨first, second⟩); exact ⟨_, _, rfl, first, second⟩
  · rintro ⟨v, w, rfl, first, second⟩; exact .seq first second

@[simp] theorem matches_alt_iff :
    Matches (.alt r s) p u q ↔ Matches r p u q ∨ Matches s p u q := by
  constructor
  · rintro (_ | _ | _ | _ | ⟨_, left⟩ | ⟨_, right⟩)
    · exact .inl left
    · exact .inr right
  · rintro (left | right)
    · exact .altLeft s left
    · exact .altRight r right

theorem matches_seq_nil_iff :
    Matches (.seq r s) p [] q ↔ Matches r p [] q ∧ Matches s p [] q := by
  simp [matches_seq_iff, and_assoc]

theorem exists_split_cons_iff {c : α} {P : List α → List α → Prop} :
    (∃ v w, c :: u = v ++ w ∧ P v w) ↔
      P [] (c :: u) ∨ ∃ v w, u = v ++ w ∧ P (c :: v) w := by
  constructor
  · rintro ⟨v, w, split, h⟩
    cases v with
    | nil => subst split; exact .inl h
    | cons d v =>
      obtain ⟨rfl, rfl⟩ := List.cons.inj split
      exact .inr ⟨v, w, rfl, h⟩
  · rintro (h | ⟨v, w, rfl, h⟩)
    · exact ⟨[], c :: u, rfl, h⟩
    · exact ⟨c :: v, w, rfl, h⟩

theorem matches_seq_cons_iff {c : α} :
    Matches (.seq r s) p (c :: u) q ↔
      (Matches r p [] (c :: u ++ q) ∧ Matches s p (c :: u) q) ∨
      ∃ v w, u = v ++ w ∧ Matches r p (c :: v) (w ++ q) ∧ Matches s (p ++ c :: v) w q := by
  rw [matches_seq_iff, exists_split_cons_iff, List.append_nil]

/-- Turns that match nothing can be left out, so the first turn of a match that is not empty takes
its first letter. -/
theorem matches_star_cons_iff {c : α} :
    Matches (.star r) p (c :: u) q ↔
      ∃ v w, u = v ++ w ∧ Matches r p (c :: v) (w ++ q) ∧
        Matches (.star r) (p ++ c :: v) w q := by
  constructor
  · intro h
    generalize hr : Regex.star r = r' at h
    generalize hu : c :: u = u' at h
    induction h with
    | starNil => cases hu
    | @starCons r' p v w q first more _ ih =>
      cases hr
      cases v with
      | nil => simpa using ih rfl hu
      | cons d v =>
        obtain ⟨rfl, rfl⟩ := List.cons.inj hu
        exact ⟨v, w, rfl, first, more⟩
    | _ => cases hr
  · rintro ⟨v, w, rfl, first, more⟩
    exact .starCons first more

end

namespace Marked

/-- The expression without its marks. -/
def toRegex : Marked π → Regex π
  | .empty => .empty
  | .letter _ set => .letter set
  | .anchor a => .anchor a
  | .seq _ r s => .seq r.toRegex s.toRegex
  | .alt _ r s => .alt r.toRegex s.toRegex
  | .star _ r => .star r.toRegex

/-- Composite expressions know whether there is a mark below. -/
def Tidy : Marked π → Prop
  | .seq live r s => live = (r.live || s.live) ∧ r.Tidy ∧ s.Tidy
  | .alt live r s => live = (r.live || s.live) ∧ r.Tidy ∧ s.Tidy
  | .star live r => live = r.live ∧ r.Tidy
  | _ => True

/-- `m.Continues p u q`: behind `p`, a match that is under way at some mark ends with `u`, in front
of `q`. -/
def Continues : Marked π → List α → List α → List α → Prop
  | .empty, _, _, _ => False
  | .letter here _, _, u, _ => here = true ∧ u = []
  | .anchor _, _, _, _ => False
  | .seq _ r s, p, u, q =>
    s.Continues p u q ∨
      ∃ v w, u = v ++ w ∧ r.Continues p v (w ++ q) ∧ Matches s.toRegex (p ++ v) w q
  | .alt _ r s, p, u, q => r.Continues p u q ∨ s.Continues p u q
  | .star _ r, p, u, q =>
    ∃ v w, u = v ++ w ∧ r.Continues p v (w ++ q) ∧ Matches (.star r.toRegex) (p ++ v) w q

@[simp] theorem toRegex_ofRegex (r : Regex π) : (ofRegex r).toRegex = r := by
  induction r <;> simp_all [ofRegex, toRegex]

@[simp] theorem live_ofRegex (r : Regex π) : (ofRegex r).live = false := by
  cases r <;> rfl

theorem tidy_ofRegex (r : Regex π) : (ofRegex r).Tidy := by
  induction r <;> simp_all [ofRegex, Tidy]

theorem not_continues {m : Marked π} (tidy : m.Tidy) (dead : m.live = false) (p u q : List α) :
    ¬ m.Continues p u q := by
  induction m generalizing u q with
  | empty | anchor _ => exact id
  | letter here set => simp_all [live, Continues]
  | seq live r s ihr ihs | alt live r s ihr ihs =>
    obtain ⟨rfl, hr, hs⟩ := tidy
    simp only [Marked.live, Bool.or_eq_false_iff] at dead
    simp [Continues, ihr hr dead.1, ihs hs dead.2]
  | star live r ih =>
    obtain ⟨rfl, hr⟩ := tidy
    simp [Continues, ih hr dead]

theorem nullable_iff (m : Marked π) (p q : List α) :
    m.nullable p.getLast? q.head? = true ↔ Matches m.toRegex p [] q := by
  induction m with
  | empty => simp [nullable, toRegex]
  | letter => simp [nullable, toRegex]
  | anchor => simp [nullable, toRegex]
  | seq _ r s ihr ihs => simp [nullable, toRegex, matches_seq_nil_iff, ihr, ihs]
  | alt _ r s ihr ihs => simp [nullable, toRegex, ihr, ihs]
  | star => simpa [nullable, toRegex] using Matches.starNil _ p q

theorem ending_iff {m : Marked π} (tidy : m.Tidy) (p q : List α) :
    m.ending p.getLast? q.head? = true ↔ m.Continues p [] q := by
  induction m with
  | empty | anchor _ => simp [ending, Continues]
  | letter here _ => simp [ending, Continues]
  | seq live r s ihr ihs =>
    cases live with
    | false => simp [ending, not_continues tidy rfl]
    | true =>
      simp [ending, Continues, ihr tidy.2.1, ihs tidy.2.2, nullable_iff, and_assoc]
  | alt live r s ihr ihs =>
    cases live with
    | false => simp [ending, not_continues tidy rfl]
    | true => simp [ending, Continues, ihr tidy.2.1, ihs tidy.2.2]
  | star live r ih =>
    cases live with
    | false => simp [ending, not_continues tidy rfl]
    | true => simpa [ending, Continues, ih tidy.2, and_assoc] using fun _ => Matches.starNil _ p q

@[simp] theorem toRegex_step (before : Option α) (c : α) (enter : Bool) (m : Marked π) :
    (m.step before c enter).toRegex = m.toRegex := by
  induction m generalizing enter with
  | empty | anchor _ => rfl
  | letter => simp only [step]; split <;> rfl
  | seq _ r s ihr ihs | alt _ r s ihr ihs =>
    simp only [step]
    split
    · simp only [toRegex, ihr, ihs]
    · rfl
  | star _ r ih =>
    simp only [step]
    split
    · simp only [toRegex, ih]
    · rfl

theorem tidy_step {m : Marked π} (tidy : m.Tidy) (before : Option α) (c : α) (enter : Bool) :
    (m.step before c enter).Tidy := by
  induction m generalizing enter with
  | empty | anchor _ => trivial
  | letter => simp only [step]; split <;> trivial
  | seq live r s ihr ihs | alt live r s ihr ihs =>
    simp only [step]
    split
    · exact ⟨rfl, ihr tidy.2.1 _, ihs tidy.2.2 _⟩
    · exact tidy
  | star live r ih =>
    simp only [step]
    split
    · exact ⟨rfl, ih tidy.2 _⟩
    · exact tidy

/-- Without marks and without entering, there is nothing to carry on. -/
theorem continues_step_idle {m : Marked π} (tidy : m.Tidy) (dead : m.live = false) {enter : Bool}
    (idle : enter = false) (p u q : List α) (c : α) :
    (m.step p.getLast? c enter).Continues (p ++ [c]) u q ↔
      m.Continues p (c :: u) q ∨ (enter = true ∧ Matches m.toRegex p (c :: u) q) := by
  subst idle
  have same : m.step p.getLast? c false = m := by cases m <;> simp_all [step, live]
  simp [same, not_continues tidy dead]

/-- One more letter carries on the matches that are under way and, with `enter`, those that begin
in front of it. -/
theorem continues_step_iff {m : Marked π} (tidy : m.Tidy) (p u q : List α) (c : α) (enter : Bool) :
    (m.step p.getLast? c enter).Continues (p ++ [c]) u q ↔
      m.Continues p (c :: u) q ∨ (enter = true ∧ Matches m.toRegex p (c :: u) q) := by
  induction m generalizing u q enter with
  | empty => simp [step, Continues, toRegex]
  | anchor _ => simp [step, Continues, toRegex]
  | letter here set =>
    simp only [step, toRegex, matches_letter_iff]
    split <;> rename_i h
    · constructor
      · rintro ⟨marked, rfl⟩
        simp only [Bool.and_eq_true] at marked
        exact .inr ⟨marked.1, c, rfl, marked.2⟩
      · rintro (⟨_, none⟩ | ⟨begins, _, one, member⟩)
        · cases none
        · cases one
          exact ⟨by simp [begins, member], rfl⟩
    · simp_all [Continues]
  | seq live r s ihr ihs =>
    rcases Bool.eq_false_or_eq_true (live || enter) with h | h
    · have ends := ending_iff tidy.2.1 p (c :: (u ++ q))
      have empty := nullable_iff r p (c :: (u ++ q))
      have mark : r.Continues p [] (c :: (u ++ q)) → live = true := by
        intro under
        cases hl : live
        · exact absurd under (not_continues tidy.2.1 (by simp_all [Tidy]) _ _ _)
        · rfl
      simp only [List.head?_cons] at ends empty
      simp only [step, h, if_true, Continues, ihs tidy.2.2, ihr tidy.2.1,
        toRegex, toRegex_step, matches_seq_cons_iff, exists_split_cons_iff, Bool.or_eq_true,
        Bool.and_eq_true, ends, empty, List.append_assoc, List.cons_append, List.append_nil,
        List.nil_append]
      grind
    · have off := Bool.or_eq_false_iff.1 h
      exact continues_step_idle tidy off.1 off.2 ..
  | alt live r s ihr ihs =>
    rcases Bool.eq_false_or_eq_true (live || enter) with h | h
    · simp only [step, h, if_true, Continues, ihs tidy.2.2, ihr tidy.2.1,
        toRegex, matches_alt_iff]
      grind
    · have off := Bool.or_eq_false_iff.1 h
      exact continues_step_idle tidy off.1 off.2 ..
  | star live r ih =>
    rcases Bool.eq_false_or_eq_true (live || enter) with h | h
    · have ends := ending_iff tidy.2 p (c :: (u ++ q))
      have mark : r.Continues p [] (c :: (u ++ q)) → live = true := by
        intro under
        cases hl : live
        · exact absurd under (not_continues tidy.2 (by simp_all [Tidy]) _ _ _)
        · rfl
      simp only [List.head?_cons] at ends
      simp only [step, h, if_true, Continues, ih tidy.2, toRegex, toRegex_step,
        matches_star_cons_iff, exists_split_cons_iff, Bool.or_eq_true, Bool.and_eq_true, ends,
        List.append_assoc, List.cons_append, List.append_nil, List.nil_append]
      grind
    · have off := Bool.or_eq_false_iff.1 h
      exact continues_step_idle tidy off.1 off.2 ..

theorem finish_iff {m : Marked π} (tidy : m.Tidy) (p text : List α) (enter : Bool) :
    m.finish p.getLast? enter text = true ↔
      m.Continues p text [] ∨ (enter = true ∧ Matches m.toRegex p text []) := by
  induction text generalizing m p enter with
  | nil =>
    have ends := ending_iff tidy p []
    have empty := nullable_iff m p []
    simp only [List.head?_nil] at ends empty
    simp only [finish, Bool.or_eq_true, Bool.and_eq_true, ends, empty]
  | cons c cs ih =>
    have next := ih (tidy_step tidy p.getLast? c enter) (p ++ [c]) false
    rw [List.getLast?_concat] at next
    simp only [finish, next, continues_step_iff tidy, Bool.false_eq_true, false_and, or_false]

/-- A search ends well if a match that is under way does, or one that begins in the rest of the
text. -/
theorem search_iff {m : Marked π} (tidy : m.Tidy) (p text : List α) :
    m.search p.getLast? text = true ↔
      (∃ u q, text = u ++ q ∧ m.Continues p u q) ∨
        ∃ v rest, text = v ++ rest ∧ ∃ u q, rest = u ++ q ∧ Matches m.toRegex (p ++ v) u q := by
  induction text generalizing m p with
  | nil =>
    have ends := ending_iff tidy p []
    have empty := nullable_iff m p []
    simp only [List.head?_nil] at ends empty
    simp [search, ends, empty, and_assoc]
  | cons c cs ih =>
    have ends := ending_iff tidy p (c :: cs)
    have empty := nullable_iff m p (c :: cs)
    have next := ih (tidy_step tidy p.getLast? c true) (p ++ [c])
    rw [List.getLast?_concat] at next
    simp only [List.head?_cons] at ends empty
    simp only [search, Bool.or_eq_true, ends, empty, next, continues_step_iff tidy, true_and,
      toRegex_step, exists_split_cons_iff, List.append_assoc, List.singleton_append,
      List.append_nil, and_or_left, exists_or]
    grind

end Marked

/-- One pass over the text decides whether the expression matches all of it. -/
theorem matchesAll_iff (r : Regex π) (text : List α) :
    r.matchesAll text = true ↔ r.Matches [] text [] := by
  have h := Marked.finish_iff (Marked.tidy_ofRegex r) ([] : List α) text true
  simpa [matchesAll, Marked.not_continues (Marked.tidy_ofRegex r)] using h

/-- One pass over the text finds out whether some part of it is matched. -/
theorem occursIn_iff (r : Regex π) (text : List α) : r.occursIn text = true ↔ r.Occurs text := by
  have h := Marked.search_iff (Marked.tidy_ofRegex r) ([] : List α) text
  simp only [List.getLast?_nil, Marked.not_continues (Marked.tidy_ofRegex r) (Marked.live_ofRegex r),
    and_false, exists_false, false_or, Marked.toRegex_ofRegex, List.nil_append] at h
  rw [occursIn, h]
  constructor
  · rintro ⟨p, rest, rfl, u, q, rfl, matched⟩
    exact ⟨p, u, q, rfl, matched⟩
  · rintro ⟨p, u, q, rfl, matched⟩
    exact ⟨p, u ++ q, rfl, u, q, rfl, matched⟩

end Patrol.Regex
