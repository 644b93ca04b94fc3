import Patrol.CodeSet

/-! What is in a set of code numbers. -/
namespace Patrol.CodeSet
variable {c d : Nat}

theorem contains_single_iff : (single c).contains d = true ↔ d = c := by
  simp only [single, contains, memFrom]
  split
  · simp; omega
  · split <;> simp <;> omega

/-- Behind the same bounds, membership is the other way round if it starts the other way round. -/
theorem memFrom_not (c : Nat) (inside : Bool) (bounds : List Nat) :
    memFrom c (!inside) bounds = !memFrom c inside bounds := by
  induction bounds generalizing inside with
  | nil => rfl
  | cons b bounds ih =>
    unfold memFrom
    by_cases before : c < b
    · rw [if_pos before, if_pos before]
    · rw [if_neg before, if_neg before, ih]

theorem memFrom_zero (c : Nat) (inside : Bool) (bounds : List Nat) :
    memFrom c inside (0 :: bounds) = !memFrom c inside bounds := by
  rw [memFrom, if_neg (Nat.not_lt_zero c), memFrom_not]

theorem contains_complement (s : CodeSet) (c : Nat) : s.complement.contains c = !s.contains c := by
  unfold complement contains
  split
  · next bounds start => rw [start, memFrom_zero, Bool.not_not]
  · exact memFrom_zero c false s.bounds

theorem contains_complement_iff {s : CodeSet} :
    s.complement.contains c = true ↔ ¬s.contains c = true := by
  rw [contains_complement, Bool.not_eq_true', Bool.not_eq_true]

/-- The numbers between the first bound and the second, between the third and the fourth, and so on. -/
def between : List Nat → List Nat
  | lo :: hi :: bounds => List.range' lo (hi - lo) ++ between bounds
  | _ => []

/-- Where bounds come in pairs, there are no other members. -/
theorem mem_between_of_memFrom {bounds : List Nat} (pairs : bounds.length % 2 = 0)
    (member : memFrom c false bounds = true) : c ∈ between bounds := by
  induction bounds using between.induct with
  | case1 lo hi bounds ih =>
    rw [between, List.mem_append, List.mem_range'_1]
    unfold memFrom memFrom at member
    by_cases before : c < lo
    · simp [before] at member
    · by_cases inside : c < hi
      · left
        omega
      · right
        apply ih
        · simp only [List.length_cons] at pairs
          omega
        · simpa [before, inside] using member
  | case2 bounds short =>
    cases bounds with
    | nil => cases member
    | cons lo bounds =>
      cases bounds with
      | nil => cases pairs
      | cons hi bounds => exact absurd rfl (short lo hi bounds)

end Patrol.CodeSet
