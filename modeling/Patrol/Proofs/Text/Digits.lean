import Mathlib.Algebra.Group.Nat.Defs
import Mathlib.Data.List.Basic
import Mathlib.Data.List.TakeDrop
import Patrol.Text.Digits

/-! Numbers in digits, and reading them back. -/
namespace Patrol.Text

/-- What stands in front of the first character of another kind. -/
theorem span_append {p : Char → Bool} {front rest : List Char} (kind : ∀ c ∈ front, p c = true)
    (other : ∀ c ∈ rest.head?, p c = false) : (front ++ rest).span p = (front, rest) := by
  rw [List.span_eq_takeWhile_dropWhile, List.takeWhile_append_of_pos kind,
    List.dropWhile_append_of_pos kind]
  cases rest with
  | nil => simp
  | cons c rest =>
    have stop : p c = false := other c rfl
    simp [stop]

/-- Characters of different kinds differ. -/
theorem ne_of_kind {p : Char → Bool} {c d : Char} (kind : p c = true) (other : p d = false) :
    c ≠ d := by
  rintro rfl
  rw [kind] at other
  cases other

/-! ## Hexadecimal digits -/

theorem hexDigit?_digitChar {n : ℕ} (small : n < 16) : hexDigit? n.digitChar = some n := by
  have all : ∀ n < 16, hexDigit? n.digitChar = some n := by decide
  exact all n small

/-- Two hexadecimal digits behind two zeros write any number below 256. -/
theorem mapM_hexDigit?_pair {n : ℕ} (small : n < 256) :
    ['0', '0', (n / 16).digitChar, (n % 16).digitChar].mapM hexDigit? =
      some [0, 0, n / 16, n % 16] := by
  have zero : hexDigit? '0' = some 0 := by decide
  have high : hexDigit? (n / 16).digitChar = some (n / 16) := hexDigit?_digitChar (by omega)
  have low : hexDigit? (n % 16).digitChar = some (n % 16) := hexDigit?_digitChar (by omega)
  simp [zero, high, low]

theorem ofDigits_pair (n : ℕ) : ofDigits 16 [0, 0, n / 16, n % 16] = n := by
  simp only [ofDigits, List.foldl_cons, List.foldl_nil]
  omega

/-! ## Decimal digits -/

theorem toList_toString (n : ℕ) : (toString n).toList = Nat.toDigits 10 n := Nat.toList_repr

theorem isDigit_of_mem_toString {n : ℕ} {c : Char} (member : c ∈ (toString n).toList) :
    c.isDigit = true := by
  rw [toList_toString] at member
  exact Nat.isDigit_of_mem_toDigits (by decide) (by decide) member

theorem toString_toList_ne_nil (n : ℕ) : (toString n).toList ≠ [] := by
  rw [toList_toString]
  exact Nat.toDigits_ne_nil

theorem newline_not_mem_toString (n : ℕ) : '\n' ∉ (toString n).toList := fun member => by
  have digit := isDigit_of_mem_toString member
  revert digit
  decide

/-- The digits of a number end where no digit follows. -/
theorem span_toString {n : ℕ} {rest : List Char} (other : ∀ c ∈ rest.head?, c.isDigit = false) :
    ((toString n).toList ++ rest).span Char.isDigit = ((toString n).toList, rest) :=
  span_append (fun _ member => isDigit_of_mem_toString member) other

theorem ofDigits_toString (n : ℕ) :
    ofDigits 10 ((toString n).toList.map fun c => c.toNat - '0'.toNat) = n := by
  rw [ofDigits, List.foldl_map, toList_toString, ← Nat.ofDigitChars_eq_foldl]
  exact Nat.ofDigitChars_ten_toDigits

theorem length_toString_le_iff {n digits : ℕ} (some : 0 < digits) :
    (toString n).length ≤ digits ↔ n < 10 ^ digits := by
  rw [← String.length_toList, toList_toString]
  exact Nat.length_toDigits_le_iff (by decide) some

/-- Only zero begins with a zero. -/
theorem head?_toString_ne_zero {n : ℕ} (positive : 0 < n) : (toString n).toList.head? ≠ some '0' := by
  rw [toList_toString]
  induction n using Nat.strongRecOn with
  | _ n shorter =>
    by_cases small : n < 10
    · rw [Nat.toDigits_of_lt_base small, List.head?_cons, ne_eq, Option.some.injEq,
        Nat.digitChar_eq_zero]
      omega
    · rw [Nat.toDigits_of_base_le (by decide) (by omega),
        List.head?_append_of_ne_nil _ Nat.toDigits_ne_nil]
      exact shorter (n / 10) (by omega) (by omega)

/-- No zero stands in front of other digits. -/
theorem digits_toString_ne {n : ℕ} {second : ℕ} {more : List ℕ} :
    ((toString n).toList.map fun c => c.toNat - '0'.toNat) ≠ 0 :: second :: more := by
  intro same
  rcases Nat.eq_zero_or_pos n with rfl | positive
  · cases same
  · have first := head?_toString_ne_zero positive
    have digits : ∀ c ∈ (toString n).toList, c.isDigit = true := fun _ => isDigit_of_mem_toString
    cases chars : (toString n).toList with
    | nil => exact toString_toList_ne_nil n chars
    | cons c cs =>
      rw [chars] at same first digits
      have zero : c.toNat - 48 = 0 := (List.cons.inj same).1
      have digit : 48 ≤ c.toNat := by
        have := digits c (.head _)
        simp only [Char.isDigit, Bool.and_eq_true, decide_eq_true_eq] at this
        exact this.1
      refine first (congrArg some (Char.toNat_inj.1 ?_))
      change c.toNat = 48
      omega

/-- The digits of a number tell it, whatever follows that is no digit. -/
theorem eq_of_toString_append {m n : ℕ} {rest more : List Char}
    (other : ∀ c ∈ rest.head?, c.isDigit = false) (other' : ∀ c ∈ more.head?, c.isDigit = false)
    (same : (toString m).toList ++ rest = (toString n).toList ++ more) : m = n ∧ rest = more := by
  have parts := congrArg (List.span Char.isDigit) same
  rw [span_toString other, span_toString other', Prod.mk.injEq] at parts
  refine ⟨?_, parts.2⟩
  rw [← ofDigits_toString m, parts.1, ofDigits_toString]

end Patrol.Text
