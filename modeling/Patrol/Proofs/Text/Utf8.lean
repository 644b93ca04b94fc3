import Patrol.Text.Utf8

/-! Texts as bytes: which texts begin alike, and where a text can be cut. -/
namespace Patrol.Text
variable {cs front back : List Char} {u v : List UInt8}

theorem bytesOf_nil : bytesOf [] = [] := rfl

theorem bytesOf_cons (c : Char) (cs : List Char) :
    bytesOf (c :: cs) = String.utf8EncodeChar c ++ bytesOf cs := List.flatMap_cons

theorem bytesOf_append (front back : List Char) :
    bytesOf (front ++ back) = bytesOf front ++ bytesOf back := List.flatMap_append

theorem bytesOf_infix {part cs : List Char} (infix_ : part <:+: cs) : bytesOf part <:+: bytesOf cs := by
  obtain ⟨front, back, rfl⟩ := infix_
  rw [bytesOf_append, bytesOf_append]
  exact List.infix_append ..

/-- Bytes begin with those of a text exactly if they are those of a longer one. -/
theorem bytesOf_eq_append_iff :
    bytesOf cs = bytesOf front ++ v ↔ ∃ back, cs = front ++ back ∧ bytesOf back = v := by
  constructor
  · intro same
    have bytes : front.utf8Encode ++ v.toByteArray = cs.utf8Encode := by
      have whole := congrArg List.toByteArray same
      rw [List.toByteArray_append] at whole
      exact whole.symm
    obtain ⟨back, rfl⟩ := List.isPrefix_of_utf8Encode_append_eq_utf8Encode _ bytes
    rw [bytesOf_append] at same
    exact ⟨back, rfl, List.append_cancel_left same⟩
  · rintro ⟨back, rfl, rfl⟩
    exact bytesOf_append front back

/-- The byte of an ASCII character stands in no other character. -/
theorem eq_of_mem_utf8EncodeChar {b : UInt8} (ascii : b.toNat < 0x80) {c : Char}
    (member : b ∈ String.utf8EncodeChar c) : c.toNat = b.toNat := by
  rw [String.utf8EncodeChar.eq_def] at member
  have whole : c.val.toNat = c.toNat := rfl
  simp only [whole] at member
  split at member
  · obtain rfl := List.mem_singleton.1 member
    simp only [UInt8.toNat_ofNat'] at ascii ⊢
    omega
  · -- all other bytes are beyond ASCII
    have beyond : 0x80 ≤ b.toNat := by
      split at member
      · simp only [List.mem_cons, List.not_mem_nil, or_false] at member
        obtain rfl | rfl := member <;> simp only [UInt8.toNat_ofNat'] <;> omega
      · split at member
        · simp only [List.mem_cons, List.not_mem_nil, or_false] at member
          obtain rfl | rfl | rfl := member <;> simp only [UInt8.toNat_ofNat'] <;> omega
        · simp only [List.mem_cons, List.not_mem_nil, or_false] at member
          obtain rfl | rfl | rfl | rfl := member <;> simp only [UInt8.toNat_ofNat'] <;> omega
    omega

/-- Where the byte of a slash stands in the bytes of a text, a slash stands in the text. -/
theorem bytesOf_eq_append_slash_iff :
    bytesOf cs = u ++ 0x2F :: v ↔
      ∃ front back, cs = front ++ '/' :: back ∧ bytesOf front = u ∧ bytesOf back = v := by
  constructor
  · intro same
    induction cs generalizing u with
    | nil => simp [bytesOf] at same
    | cons c cs ih =>
      by_cases slash : c = '/'
      · subst slash
        cases u with
        | nil => exact ⟨[], cs, rfl, rfl, (List.cons.inj same).2⟩
        | cons b u =>
          obtain ⟨rfl, rest⟩ := List.cons.inj same
          obtain ⟨front, back, rfl, rfl, rfl⟩ := ih rest
          exact ⟨'/' :: front, back, rfl, rfl, rfl⟩
      · rw [bytesOf_cons] at same
        have apart : (0x2F : UInt8) ∉ String.utf8EncodeChar c := by
          intro member
          have code := eq_of_mem_utf8EncodeChar (by decide) member
          exact slash (Char.ext (UInt32.toNat_inj.1 code))
        -- so that byte is behind those of the character
        have behind : ∃ rest, u = String.utf8EncodeChar c ++ rest ∧ bytesOf cs = rest ++ 0x2F :: v := by
          obtain ⟨rest, first, second⟩ | ⟨rest, first, second⟩ := List.append_eq_append_iff.1 same
          · exact ⟨rest, first, second⟩
          · cases rest with
            | nil => exact ⟨[], by simpa using first.symm, second.symm⟩
            | cons b rest =>
              obtain ⟨rfl, -⟩ := List.cons.inj second
              exact absurd (by simp [first]) apart
        obtain ⟨rest, rfl, found⟩ := behind
        obtain ⟨front, back, rfl, rfl, rfl⟩ := ih found
        exact ⟨c :: front, back, rfl, bytesOf_cons .., rfl⟩
  · rintro ⟨front, back, rfl, rfl, rfl⟩
    rw [bytesOf_append]
    rfl

end Patrol.Text
