import Mathlib.Data.List.Infix
import Patrol.Proofs.Text.Utf8

/-! The encodings of characters as readers of bytes see them: one byte in ASCII, and else a leading
byte with bytes that can follow it. All such bytes in a row encode a character. -/
namespace Patrol.Text
variable {lead lo hi : UInt8} {bytes rest used tail : List UInt8} {n count code more : Nat}

/-! ## The encoding of a character by its code -/

theorem toNat_ofNat_of_valid (valid : n.isValidChar) : (Char.ofNat n).val.toNat = n := by
  rw [Char.ofNat, dif_pos valid]
  rfl

theorem utf8EncodeChar_one (ascii : n < 0x80) :
    String.utf8EncodeChar (Char.ofNat n) = [UInt8.ofNat n] := by
  have valid : n.isValidChar := .inl (by omega)
  rw [String.utf8EncodeChar.eq_def, toNat_ofNat_of_valid valid]
  dsimp only
  rw [if_pos (by omega)]

theorem utf8EncodeChar_two (wide : 0x80 ≤ n) (bound : n < 0x800) :
    String.utf8EncodeChar (Char.ofNat n) =
      [UInt8.ofNat (n / 64 + 0xC0), UInt8.ofNat (n % 64 + 0x80)] := by
  have valid : n.isValidChar := .inl (by omega)
  rw [String.utf8EncodeChar.eq_def, toNat_ofNat_of_valid valid]
  dsimp only
  rw [if_neg (by omega), if_pos (by omega), Nat.mod_eq_of_lt (by omega : n / 64 < 32)]

theorem utf8EncodeChar_three (wide : 0x800 ≤ n) (bound : n < 0x10000) (valid : n.isValidChar) :
    String.utf8EncodeChar (Char.ofNat n) =
      [UInt8.ofNat (n / 4096 + 0xE0), UInt8.ofNat (n / 64 % 64 + 0x80),
        UInt8.ofNat (n % 64 + 0x80)] := by
  rw [String.utf8EncodeChar.eq_def, toNat_ofNat_of_valid valid]
  dsimp only
  rw [if_neg (by omega), if_neg (by omega), if_pos (by omega),
    Nat.mod_eq_of_lt (by omega : n / 4096 < 16)]

theorem utf8EncodeChar_four (wide : 0x10000 ≤ n) (bound : n < 0x110000) :
    String.utf8EncodeChar (Char.ofNat n) =
      [UInt8.ofNat (n / 262144 + 0xF0), UInt8.ofNat (n / 4096 % 64 + 0x80),
        UInt8.ofNat (n / 64 % 64 + 0x80), UInt8.ofNat (n % 64 + 0x80)] := by
  have valid : n.isValidChar := .inr ⟨by omega, bound⟩
  rw [String.utf8EncodeChar.eq_def, toNat_ofNat_of_valid valid]
  dsimp only
  rw [if_neg (by omega), if_neg (by omega), if_neg (by omega),
    Nat.mod_eq_of_lt (by omega : n / 262144 < 8)]

/-! ## Leading bytes and those that follow them -/

/-- `lead` leads a character, `more + 1` bytes follow it, and the first of them is between `lo` and
`hi`. -/
inductive Leads (lead : UInt8) : UInt8 → UInt8 → Nat → Prop where
  | two (least : 0xC2 ≤ lead.toNat) (most : lead.toNat < 0xE0) : Leads lead 0x80 0xBF 0
  | three (least : 0xE0 ≤ lead.toNat) (most : lead.toNat < 0xF0) :
      Leads lead (if lead.toNat = 0xE0 then 0xA0 else 0x80)
        (if lead.toNat = 0xED then 0x9F else 0xBF) 1
  | four (least : 0xF0 ≤ lead.toNat) (most : lead.toNat < 0xF5) :
      Leads lead (if lead.toNat = 0xF0 then 0x90 else 0x80)
        (if lead.toNat = 0xF4 then 0x8F else 0xBF) 2

theorem following?_eq_some_iff :
    following? lead = some (lo, hi, more) ↔ Leads lead lo hi more := by
  simp only [following?, UInt8.lt_iff_toNat_lt, beq_iff_eq, ← UInt8.toNat_inj, UInt8.reduceToNat]
  constructor
  · intro leads
    grind [Leads]
  · rintro (⟨least, most⟩ | ⟨least, most⟩ | ⟨least, most⟩) <;> grind

/-- The bytes can follow a leading one: the first of them is between `lo` and `hi`, and all others
are between `0x80` and `0xBF`. -/
def Follow (lo hi : UInt8) : List UInt8 → Prop
  | [] => True
  | b :: bytes => (lo.toNat ≤ b.toNat ∧ b.toNat ≤ hi.toNat) ∧ Follow 0x80 0xBF bytes

theorem Follow.of_append (follow : Follow lo hi (used ++ rest)) : Follow lo hi used := by
  induction used generalizing lo hi with
  | nil => trivial
  | cons b used ih => exact ⟨follow.1, ih follow.2⟩

theorem Follow.append (follow : Follow lo hi used) (some : used ≠ [])
    (others : Follow 0x80 0xBF rest) : Follow lo hi (used ++ rest) := by
  induction used generalizing lo hi with
  | nil => exact absurd rfl some
  | cons b used ih =>
    refine ⟨follow.1, ?_⟩
    by_cases last : used = []
    · rwa [last]
    · exact ih follow.2 last

theorem follow_replicate (n : Nat) : Follow 0x80 0xBF (List.replicate n 0x80) := by
  induction n with
  | zero => trivial
  | succ n ih => exact ⟨by decide, ih⟩

/-- A code with six bits more for each of the bytes. -/
def joined (code : Nat) (used : List UInt8) : Nat :=
  used.foldl (fun code b => code * 64 + b.toNat % 64) code

/-- What a leading byte gives to the code of its character. -/
def leadBits (more : Nat) (lead : UInt8) : Nat :=
  lead.toNat % (if more = 0 then 32 else if more = 1 then 16 else 8)

theorem leadBits_zero : leadBits 0 lead = lead.toNat % 32 := rfl

theorem leadBits_one : leadBits 1 lead = lead.toNat % 16 := rfl

theorem leadBits_two : leadBits 2 lead = lead.toNat % 8 := rfl

theorem readFollowing_append (follow : Follow lo hi used) (code : Nat) (rest : List UInt8) :
    readFollowing lo hi used.length code (used ++ rest) = (some (joined code used), rest) := by
  induction used generalizing lo hi code with
  | nil => rfl
  | cons b used ih =>
    obtain ⟨inside, others⟩ := follow
    have taken : (decide (lo ≤ b) && decide (b ≤ hi)) = true := by
      simpa [UInt8.le_iff_toNat_le] using inside
    rw [List.length_cons, List.cons_append, readFollowing, if_pos taken]
    exact ih others _

/-- Bytes are taken as long as they can follow and are wanted. -/
theorem readFollowing_cases (lo hi : UInt8) (count code : Nat) (bytes : List UInt8) :
    ∃ used rest, bytes = used ++ rest ∧ Follow lo hi used ∧
      (used.length = count ∧
          readFollowing lo hi count code bytes = (some (joined code used), rest) ∨
        used.length < count ∧ readFollowing lo hi count code bytes = (none, rest) ∧
          ∀ longer, longer <+: bytes → Follow lo hi longer → longer.length ≤ used.length) := by
  induction count generalizing lo hi code bytes with
  | zero => exact ⟨[], bytes, rfl, trivial, .inl ⟨rfl, rfl⟩⟩
  | succ count ih =>
    cases bytes with
    | nil =>
      refine ⟨[], [], rfl, trivial, .inr ⟨Nat.succ_pos _, rfl, fun longer part _ => ?_⟩⟩
      exact part.length_le
    | cons b bytes =>
      by_cases inside : lo.toNat ≤ b.toNat ∧ b.toNat ≤ hi.toNat
      · obtain ⟨used, rest, rfl, follow, found⟩ := ih 0x80 0xBF (code * 64 + b.toNat % 64) bytes
        have taken : (decide (lo ≤ b) && decide (b ≤ hi)) = true := by
          simpa [UInt8.le_iff_toNat_le] using inside
        refine ⟨b :: used, rest, rfl, ⟨inside, follow⟩, ?_⟩
        rw [readFollowing, if_pos taken, List.length_cons]
        obtain ⟨all, read⟩ | ⟨few, read, most⟩ := found
        · exact .inl ⟨congrArg (· + 1) all, read⟩
        · refine .inr ⟨Nat.succ_lt_succ few, read, fun longer part follows => ?_⟩
          cases longer with
          | nil => exact Nat.zero_le _
          | cons d longer =>
            exact Nat.succ_le_succ (most longer (List.cons_prefix_cons.1 part).2 follows.2)
      · have refused : ¬(decide (lo ≤ b) && decide (b ≤ hi)) = true := by
          simpa [UInt8.le_iff_toNat_le] using inside
        refine ⟨[], b :: bytes, rfl, trivial, .inr ⟨Nat.succ_pos _, ?_, fun longer part follows => ?_⟩⟩
        · rw [readFollowing, if_neg refused]
        · cases longer with
          | nil => exact Nat.le_refl _
          | cons d longer =>
            obtain ⟨rfl, -⟩ := List.cons_prefix_cons.1 part
            exact absurd follows.1 inside

/-! ## The encodings are what can be read -/

theorem ofNat_eq_iff {b : UInt8} (small : n < 256) : UInt8.ofNat n = b ↔ n = b.toNat := by
  rw [← UInt8.toNat_inj, UInt8.toNat_ofNat', Nat.mod_eq_of_lt small]

/-- A leading byte with those that can follow it encodes a character. -/
theorem utf8EncodeChar_joined (leads : Leads lead lo hi more) (follow : Follow lo hi tail)
    (all : tail.length = more + 1) :
    String.utf8EncodeChar (Char.ofNat (joined (leadBits more lead) tail)) = lead :: tail := by
  cases leads with
  | two least most =>
    match tail, all with
    | [b], _ =>
      simp only [Follow, UInt8.reduceToNat] at follow
      simp only [joined, leadBits_zero, List.foldl_cons, List.foldl_nil]
      rw [utf8EncodeChar_two (by omega) (by omega)]
      simp (disch := omega) only [List.cons.injEq, ofNat_eq_iff, and_true]
      omega
  | three least most =>
    match tail, all with
    | [b, d], _ =>
      simp only [Follow, UInt8.reduceToNat, apply_ite UInt8.toNat] at follow
      have shortest : lead.toNat = 0xE0 → 0xA0 ≤ b.toNat := fun h => by simpa [h] using follow.1.1
      have scalar : lead.toNat = 0xED → b.toNat ≤ 0x9F := fun h => by simpa [h] using follow.1.2
      have inside : 0x80 ≤ b.toNat ∧ b.toNat ≤ 0xBF := by split_ifs at follow <;> omega
      replace follow := follow.2.1
      simp only [joined, leadBits_one, List.foldl_cons, List.foldl_nil]
      rw [utf8EncodeChar_three (by omega) (by omega) (by simp only [Nat.isValidChar]; omega)]
      simp (disch := omega) only [List.cons.injEq, ofNat_eq_iff, and_true]
      omega
  | four least most =>
    match tail, all with
    | [b, d, e], _ =>
      simp only [Follow, UInt8.reduceToNat, apply_ite UInt8.toNat] at follow
      have shortest : lead.toNat = 0xF0 → 0x90 ≤ b.toNat := fun h => by simpa [h] using follow.1.1
      have scalar : lead.toNat = 0xF4 → b.toNat ≤ 0x8F := fun h => by simpa [h] using follow.1.2
      have inside : 0x80 ≤ b.toNat ∧ b.toNat ≤ 0xBF := by split_ifs at follow <;> omega
      replace follow := follow.2
      simp only [joined, leadBits_two, List.foldl_cons, List.foldl_nil]
      rw [utf8EncodeChar_four (by omega) (by omega)]
      simp (disch := omega) only [List.cons.injEq, ofNat_eq_iff, and_true]
      omega

/-- The encoding of a character is one byte, or a leading byte with those that follow it. -/
theorem utf8EncodeChar_cases (c : Char) :
    (c.toNat < 0x80 ∧ String.utf8EncodeChar c = [UInt8.ofNat c.toNat]) ∨
      ∃ lead tail lo hi more, String.utf8EncodeChar c = lead :: tail ∧ Leads lead lo hi more ∧
        Follow lo hi tail ∧ tail.length = more + 1 ∧ joined (leadBits more lead) tail = c.toNat := by
  have valid : c.toNat.isValidChar := c.valid
  have code : Char.ofNat c.toNat = c := Char.ofNat_toNat c
  generalize c.toNat = n at valid code
  subst code
  simp only [Nat.isValidChar] at valid
  by_cases one : n < 0x80
  · exact .inl ⟨one, utf8EncodeChar_one one⟩
  right
  by_cases two : n < 0x800
  · refine ⟨_, _, _, _, _, utf8EncodeChar_two (by omega) two, .two ?_ ?_, ?_, rfl, ?_⟩
    all_goals simp only [Follow, joined, leadBits_zero, List.foldl_cons, List.foldl_nil,
      UInt8.toNat_ofNat', UInt8.reduceToNat, and_true]
    all_goals omega
  by_cases three : n < 0x10000
  · refine ⟨_, _, _, _, _, utf8EncodeChar_three (by omega) three valid, .three ?_ ?_, ?_, rfl, ?_⟩
    all_goals simp only [Follow, joined, leadBits_one, List.foldl_cons, List.foldl_nil,
      UInt8.toNat_ofNat', UInt8.reduceToNat, apply_ite UInt8.toNat, and_true]
    case refine_3 => split_ifs <;> omega
    all_goals omega
  · refine ⟨_, _, _, _, _, utf8EncodeChar_four (by omega) (by omega), .four ?_ ?_, ?_, rfl, ?_⟩
    all_goals simp only [Follow, joined, leadBits_two, List.foldl_cons, List.foldl_nil,
      UInt8.toNat_ofNat', UInt8.reduceToNat, apply_ite UInt8.toNat, and_true]
    case refine_3 => split_ifs <;> omega
    all_goals omega

end Patrol.Text
