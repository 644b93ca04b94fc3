import Patrol.Proofs.CodeSet
import Patrol.Proofs.Glob.Words
import Patrol.Proofs.Text.Split
import Patrol.Proofs.Text.Utf8

/-! What each part of a glob stands for; and the globs of all that is below directories of a name. -/
namespace Patrol.Glob
variable {u v : List UInt8} {tokens : List Token}

/-! ## Parts -/

theorem isWord_empty_iff : IsWord .empty u ↔ u = [] := Regex.matches_empty_iff

theorem isWord_byte_iff {b : UInt8} : IsWord (.letter (.single b.toNat)) u ↔ u = [b] := by
  have code (c : UInt8) : (CodeSet.single b.toNat).contains (Alphabet.code Empty c) = true ↔ c = b := by
    rw [CodeSet.contains_single_iff]
    exact UInt8.toNat_inj
  simp [IsWord, code]

theorem isWord_slash_iff : IsWord (.letter slash) u ↔ u = [0x2F] := isWord_byte_iff (b := 0x2F)

theorem isWord_word_iff {bytes : List UInt8} : IsWord (.word (bytes.map UInt8.toNat)) u ↔ u = bytes := by
  induction bytes generalizing u with
  | nil => exact isWord_empty_iff
  | cons b bytes ih =>
    cases bytes with
    | nil => exact isWord_byte_iff
    | cons c bytes =>
      have whole : Regex.word ((b :: c :: bytes).map UInt8.toNat) =
          (.seq (.letter (.single b.toNat)) (.word ((c :: bytes).map UInt8.toNat)) : ByteRegex) := rfl
      rw [whole, isWord_seq_iff]
      constructor
      · rintro ⟨v, w, rfl, first, second⟩
        rw [isWord_byte_iff.1 first, ih.1 second]
        rfl
      · rintro rfl
        exact ⟨[b], c :: bytes, rfl, isWord_byte_iff.2 rfl, ih.2 rfl⟩

theorem isWord_literal_iff {c : Char} :
    IsWord ((Token.literal c).regex .strict) u ↔ u = Text.bytesOf [c] := by
  have bytes : Text.bytesOf [c] = String.utf8EncodeChar c := by simp [Text.bytesOf]
  rw [bytes]
  exact isWord_word_iff

/-- Nothing, or directories with a slash behind them. -/
theorem isWord_leading_iff : IsWord leadingRegex u ↔ u = [] ∨ ∃ v, u = v ++ [0x2F] := by
  have opt : IsWord (.opt (.letter slash)) u ↔ u = [0x2F] ∨ u = [] := by
    rw [Regex.opt, isWord_alt_iff, isWord_slash_iff, isWord_empty_iff]
  have deep : IsWord (.seq (anyOf anyByte) (.letter slash)) u ↔ ∃ v, u = v ++ [0x2F] := by
    rw [isWord_seq_iff]
    constructor
    · rintro ⟨v, w, rfl, -, second⟩
      exact ⟨v, by rw [isWord_slash_iff.1 second]⟩
    · rintro ⟨v, rfl⟩
      exact ⟨v, [0x2F], rfl, isWord_anything v, isWord_slash_iff.2 rfl⟩
  rw [leadingRegex, isWord_alt_iff, opt, deep]
  constructor
  · rintro ((rfl | rfl) | some)
    · exact .inr ⟨[], rfl⟩
    · exact .inl rfl
    · exact .inr some
  · rintro (rfl | some)
    · exact .inl (.inr rfl)
    · exact .inr some

theorem isWord_trailing_iff : IsWord trailingRegex u ↔ ∃ v, u = 0x2F :: v := by
  rw [trailingRegex, isWord_seq_iff]
  constructor
  · rintro ⟨v, w, rfl, first, -⟩
    exact ⟨w, by rw [isWord_slash_iff.1 first]; rfl⟩
  · rintro ⟨v, rfl⟩
    exact ⟨[0x2F], v, rfl, isWord_slash_iff.2 rfl, isWord_anything v⟩

/-- Parts stand for what they stand for one after the other. -/
theorem isWord_cons_iff {t : Token} :
    IsWord (tokensRegex .strict (t :: tokens)) u ↔
      ∃ v w, u = v ++ w ∧ IsWord (t.regex .strict) v ∧ IsWord (tokensRegex .strict tokens) w := by
  cases tokens with
  | nil =>
    constructor
    · intro word
      exact ⟨u, [], by simp, word, isWord_empty_iff.2 rfl⟩
    · rintro ⟨v, w, rfl, first, second⟩
      have none : w = [] := isWord_empty_iff.1 second
      rw [none, List.append_nil]
      exact first
  | cons t' tokens => exact isWord_seq_iff

/-- Characters in front stand for themselves. -/
theorem isWord_literals_iff {cs : List Char} :
    IsWord (tokensRegex .strict (cs.map .literal ++ tokens)) u ↔
      ∃ v, u = Text.bytesOf cs ++ v ∧ IsWord (tokensRegex .strict tokens) v := by
  induction cs generalizing u with
  | nil => simp [Text.bytesOf_nil]
  | cons c cs ih =>
    have bytes : Text.bytesOf (c :: cs) = Text.bytesOf [c] ++ Text.bytesOf cs :=
      Text.bytesOf_append [c] cs
    rw [List.map_cons, List.cons_append, isWord_cons_iff, bytes]
    constructor
    · rintro ⟨v, w, rfl, first, second⟩
      obtain ⟨rest, rfl, word⟩ := ih.1 second
      exact ⟨rest, by rw [isWord_literal_iff.1 first, List.append_assoc], word⟩
    · rintro ⟨rest, rfl, word⟩
      exact ⟨Text.bytesOf [c], Text.bytesOf cs ++ rest, by simp, isWord_literal_iff.2 rfl,
        ih.2 ⟨rest, rfl, word⟩⟩

theorem globRegex_eq {style : Style} (more : tokens ≠ [.leading]) :
    globRegex style tokens = tokensRegex style tokens := by
  unfold globRegex
  split
  · exact absurd rfl more
  · rfl

/-! ## All that is below directories of a name -/

/-- The parts of the glob that accepts what is below directories of a name, however deep. -/
def belowTokens (name : List Char) : List Token := .leading :: (name.map .literal ++ [.trailing])

/-- The glob that accepts what is below directories of a name. -/
def below (name : List Char) : Glob where
  source := String.ofList (['*', '*', '/'] ++ name ++ ['/', '*', '*'])
  regex := globRegex .strict (belowTokens name)
  named := false

/-- Whether a path goes through a directory of a name. -/
def GoesThrough (name path : List Char) : Prop :=
  ∃ front back, path = front ++ name ++ '/' :: back ∧ (front = [] ∨ ∃ above, front = above ++ ['/'])

theorem accepts_below_iff {name path : List Char} :
    (below name).accepts path = true ↔ GoesThrough name path := by
  have more : belowTokens name ≠ [.leading] := by simp [belowTokens]
  have regex : (below name).regex = tokensRegex .strict (belowTokens name) := globRegex_eq more
  have tail {w : List UInt8} : IsWord (tokensRegex .strict (name.map .literal ++ [.trailing])) w ↔
      ∃ v, w = Text.bytesOf name ++ 0x2F :: v := by
    rw [isWord_literals_iff]
    constructor
    · rintro ⟨v, rfl, word⟩
      obtain ⟨v, rfl⟩ := isWord_trailing_iff.1 word
      exact ⟨v, rfl⟩
    · rintro ⟨v, rfl⟩
      exact ⟨0x2F :: v, rfl, isWord_trailing_iff.2 ⟨v, rfl⟩⟩
  -- the bytes of the name and of the slash behind it are those of characters
  have through {rest : List Char} {v : List UInt8}
      (same : Text.bytesOf rest = Text.bytesOf name ++ 0x2F :: v) :
      ∃ back, rest = name ++ '/' :: back := by
    obtain ⟨behind, rfl, bytes⟩ := Text.bytesOf_eq_append_iff.1 same
    obtain ⟨front, back, rfl, none, -⟩ := Text.bytesOf_eq_append_slash_iff (u := []).1 bytes
    cases front with
    | nil => exact ⟨back, rfl⟩
    | cons c front =>
      have size := congrArg List.length none
      rw [Text.bytesOf_cons, List.length_append, String.length_utf8EncodeChar] at size
      have := c.utf8Size_pos
      simp at size
      omega
  rw [accepts_iff, regex, belowTokens, isWord_cons_iff]
  simp only [below, true_or, true_and]
  constructor
  · rintro ⟨u, w, path_eq, front, word⟩
    obtain ⟨v, rfl⟩ := tail.1 word
    obtain rfl | ⟨above, rfl⟩ := isWord_leading_iff.1 front
    · obtain ⟨back, rfl⟩ := through path_eq
      exact ⟨[], back, rfl, .inl rfl⟩
    · rw [List.append_assoc] at path_eq
      obtain ⟨above, rest, rfl, -, bytes⟩ := Text.bytesOf_eq_append_slash_iff.1 path_eq
      obtain ⟨back, rfl⟩ := through bytes
      exact ⟨above ++ ['/'], back, by simp, .inr ⟨above, rfl⟩⟩
  · rintro ⟨front, back, rfl, place⟩
    refine ⟨Text.bytesOf front, Text.bytesOf (name ++ '/' :: back), by
      rw [List.append_assoc, Text.bytesOf_append], ?_, ?_⟩
    · refine isWord_leading_iff.2 (place.imp ?_ ?_)
      · rintro rfl; rfl
      · rintro ⟨above, rfl⟩
        exact ⟨Text.bytesOf above, Text.bytesOf_append above ['/']⟩
    · exact tail.2 ⟨Text.bytesOf back, Text.bytesOf_append ..⟩

end Patrol.Glob
