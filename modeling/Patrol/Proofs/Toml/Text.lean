import Patrol.Proofs.Text.Digits
import Patrol.Toml.Text
import Patrol.Toml.Writer

/-! The words of documents are read back as they were written: quoted texts, whatever stands in
them, and keys of bare parts. -/
namespace Patrol.Toml
open Text (hexDigit? ofDigits ne_of_kind span_append mapM_hexDigit?_pair ofDigits_pair)

/-! ## Quoted texts -/

/-- A small character is told by the two digits of its code. -/
theorem scalar?_pair {c : Char} (small : c.toNat < 256) (rest : List Char) :
    scalar? 4 ('0' :: '0' :: (c.toNat / 16).digitChar :: (c.toNat % 16).digitChar :: rest) =
      some (c, rest) := by
  have valid : c.toNat.isValidChar := c.valid
  simp only [scalar?, List.take_succ_cons, List.take_zero, mapM_hexDigit?_pair small, ofDigits_pair,
    bind, Option.bind, List.length_cons, List.length_nil, valid, Char.ofNat_toNat, and_self,
    if_true, List.drop_succ_cons, List.drop_zero]

/-- A character is written behind a backslash, from where it is read back, or it stands for
itself. -/
theorem escaped_cases (c : Char) :
    (∃ word, escaped c = '\\' :: word ∧ ∀ rest, escape? (word ++ rest) = some (c, rest)) ∨
      (escaped c = [c] ∧ c ≠ '"' ∧ c ≠ '\\' ∧ isPlain c = true) := by
  unfold escaped
  split
  case h_8 quote backslash _ _ _ _ _ =>
    split
    · next control =>
      have small : c.toNat < 256 := by
        simp only [Bool.or_eq_true, decide_eq_true_eq, beq_iff_eq] at control
        omega
      exact .inl ⟨_, rfl, scalar?_pair small⟩
    · next visible =>
      refine .inr ⟨rfl, quote, backslash, ?_⟩
      simp only [Bool.or_eq_true, decide_eq_true_eq, beq_iff_eq, not_or] at visible
      simp [isPlain, visible.2]
      omega
  all_goals exact .inl ⟨_, rfl, fun _ => rfl⟩

theorem readQuoted_mark (rest : List Char) :
    readQuoted '"' false ('"' :: rest) = some ([], rest) := by
  rw [readQuoted]
  rfl

theorem readQuoted_escape {word rest : List Char} {c : Char}
    (read : escape? word = some (c, rest)) :
    readQuoted '"' false ('\\' :: word) =
      (readQuoted '"' false rest).map fun (t, rest) => (c :: t, rest) := by
  rw [readQuoted]
  simp only [Char.reduceBEq, Bool.false_eq_true, if_false, Bool.and_self, if_true]
  split
  · next d rest' read' =>
    rw [read] at read'
    cases read'
    rfl
  · next unread =>
    rw [read] at unread
    cases unread

theorem readQuoted_plain {c : Char} (quote : c ≠ '"') (backslash : c ≠ '\\')
    (plain : isPlain c = true) (cs : List Char) :
    readQuoted '"' false (c :: cs) =
      (readQuoted '"' false cs).map fun (t, rest) => (c :: t, rest) := by
  rw [readQuoted]
  simp [quote, backslash, plain]

/-- A text is read back up to its closing quotation mark. -/
theorem readQuoted_escaped (text rest : List Char) :
    readQuoted '"' false (text.flatMap escaped ++ '"' :: rest) = some (text, rest) := by
  induction text with
  | nil => exact readQuoted_mark rest
  | cons c text ih =>
    rw [List.flatMap_cons, List.append_assoc]
    obtain ⟨word, written, read⟩ | ⟨written, quote, backslash, plain⟩ := escaped_cases c
    · rw [written, List.cons_append, readQuoted_escape (read _), ih]
      rfl
    · rw [written, List.singleton_append, readQuoted_plain quote backslash plain, ih]
      rfl

/-- Behind the first quotation mark a text is read back. Where it is empty, another mark behind it
would open a text of several lines. -/
theorem readText_escaped (text : List Char) {rest : List Char} (apart : rest.head? ≠ some '"') :
    readText '"' (text.flatMap escaped ++ '"' :: rest) = some (text, rest) := by
  have whole := readQuoted_escaped text rest
  have single : ¬∃ more, text.flatMap escaped ++ '"' :: rest = '"' :: '"' :: more := by
    rintro ⟨more, same⟩
    cases text with
    | nil =>
      obtain ⟨-, rfl⟩ := List.cons.inj same
      exact apart rfl
    | cons c text =>
      obtain ⟨word, written, -⟩ | ⟨written, quote, -⟩ := escaped_cases c
      · simp [written] at same
      · simp [written, quote] at same
  unfold readText
  split
  · next a b more shape =>
    split
    · next marks =>
      simp only [Bool.and_eq_true, beq_iff_eq] at marks
      obtain ⟨rfl, rfl⟩ := marks
      exact absurd ⟨more, shape⟩ single
    · exact whole
  · exact whole

theorem quoted_append (s : String) (rest : List Char) :
    quoted s ++ rest = '"' :: (s.toList.flatMap escaped ++ '"' :: rest) := by
  simp [quoted]

/-! ## Keys -/

theorem dropSpace_cons {c : Char} (visible : isSpace c = false) (cs : List Char) :
    dropSpace (c :: cs) = c :: cs := by
  simp [dropSpace, visible]

theorem dropSpace_space (cs : List Char) : dropSpace (' ' :: cs) = dropSpace cs := rfl

/-- A part of a key that needs no quotation marks. -/
structure IsBarePart (part : String) : Prop where
  nonempty : part.toList ≠ []
  bare : ∀ c ∈ part.toList, isBare c = true

theorem isBarePart_iff {part : String} :
    IsBarePart part ↔ part.toList ≠ [] ∧ part.toList.all isBare = true := by
  rw [List.all_eq_true]
  exact ⟨fun bare => ⟨bare.nonempty, bare.bare⟩, fun ⟨nonempty, bare⟩ => ⟨nonempty, bare⟩⟩

instance : DecidablePred IsBarePart := fun _ => decidable_of_iff _ isBarePart_iff.symm

/-- The text of a key. -/
def keyChars (path : List String) : List Char := ['.'].intercalate (path.map (·.toList))

/-- Whether a key is written as its parts are, which need no quotation marks. -/
structure WritesKey (key : String) (path : List String) : Prop where
  chars : key.toList = keyChars path
  nonempty : path ≠ []
  bare : ∀ part ∈ path, IsBarePart part
  short : path.length < maxDepth

theorem keyChars_singleton (key : String) : keyChars [key] = key.toList := by simp [keyChars]

theorem writesKey_singleton {key : String} (bare : IsBarePart key) : WritesKey key [key] where
  chars := (keyChars_singleton key).symm
  nonempty := List.cons_ne_nil key []
  bare := List.forall_mem_singleton.2 bare
  short := by simp [maxDepth]

/-- What can stand behind a key: no part of it goes on there, and no other follows. -/
structure EndsKey (rest : List Char) : Prop where
  other : ∀ c ∈ rest.head?, isBare c = false
  last : (dropSpace rest).head? ≠ some '.'

theorem IsBarePart.exists_cons {part : String} (bare : IsBarePart part) :
    ∃ c cs, part.toList = c :: cs ∧ isBare c = true := by
  obtain ⟨c, cs, chars⟩ := List.exists_cons_of_ne_nil bare.nonempty
  exact ⟨c, cs, chars, bare.bare c (by simp [chars])⟩

theorem isSpace_of_bare {c : Char} (bare : isBare c = true) : isSpace c = false := by
  have space : c ≠ ' ' := ne_of_kind bare (by decide)
  have tab : c ≠ '\t' := ne_of_kind bare (by decide)
  simp [isSpace, space, tab]

theorem readKeyPart_bare {part : String} (bare : IsBarePart part) {rest : List Char}
    (other : ∀ c ∈ rest.head?, isBare c = false) :
    readKeyPart (dropSpace (part.toList ++ rest)) = some (part, rest) := by
  have parts := span_append bare.bare other
  have whole := String.ofList_toList (s := part)
  obtain ⟨c, cs, chars, first⟩ := bare.exists_cons
  rw [chars] at parts whole
  have visible := dropSpace_cons (isSpace_of_bare first) (cs ++ rest)
  rw [chars, List.cons_append, visible, ← List.cons_append]
  unfold readKeyPart
  split
  · next same => exact absurd (List.cons.inj same).1 (ne_of_kind first (by decide))
  · next same => exact absurd (List.cons.inj same).1 (ne_of_kind first (by decide))
  · rw [parts]
    simp only [whole]

/-- A key is read back as its parts, if there are not too many of them. -/
theorem readKeyParts_keyChars {path : List String} (some : path ≠ [])
    (bare : ∀ part ∈ path, IsBarePart part) {fuel : Nat} (enough : path.length ≤ fuel)
    {rest : List Char} (ends : EndsKey rest) :
    readKeyParts fuel (keyChars path ++ rest) = Option.some (path, dropSpace rest) := by
  induction path generalizing fuel with
  | nil => exact absurd rfl some
  | cons part path ih =>
    obtain ⟨fuel, rfl⟩ : ∃ n, fuel = n + 1 := ⟨fuel - 1, by simp at enough; omega⟩
    cases path with
    | nil =>
      have first := readKeyPart_bare (bare part (.head _)) ends.other
      have chars : keyChars [part] = part.toList := by simp [keyChars]
      rw [chars, readKeyParts, first]
      simp only [bind, Option.bind]
      split
      · next more dot => exact absurd (congrArg List.head? dot) ends.last
      · rfl
    | cons second path =>
      have chars : keyChars (part :: second :: path) ++ rest =
          part.toList ++ '.' :: (keyChars (second :: path) ++ rest) := by
        simp [keyChars]
      have dot : ∀ c ∈ ('.' :: (keyChars (second :: path) ++ rest)).head?, isBare c = false := by
        rintro c ⟨⟩
        decide
      have first := readKeyPart_bare (bare part (.head _)) dot
      have others := ih (List.cons_ne_nil _ _) (fun p member => bare p (.tail _ member))
        (Nat.le_of_succ_le_succ enough)
      have point := dropSpace_cons (c := '.') (by decide) (keyChars (second :: path) ++ rest)
      rw [chars, readKeyParts, first]
      simp only [bind, Option.bind, point, others]

variable {key : String} {path : List String}

theorem WritesKey.exists_cons (writes : WritesKey key path) :
    ∃ c cs, key.toList = c :: cs ∧ isBare c = true := by
  obtain ⟨chars, nonempty, bare, -⟩ := writes
  rw [chars]
  cases path with
  | nil => exact absurd rfl nonempty
  | cons part path =>
    obtain ⟨c, cs, begins, letter⟩ := (bare part (.head _)).exists_cons
    cases path with
    | nil => exact ⟨c, cs, by rw [keyChars_singleton, begins], letter⟩
    | cons second path => exact ⟨c, _, by simp [keyChars, begins]; rfl, letter⟩

theorem WritesKey.readKey (writes : WritesKey key path) {rest : List Char} (ends : EndsKey rest) :
    readKey (key.toList ++ rest) = some (path, dropSpace rest) := by
  rw [writes.chars]
  exact readKeyParts_keyChars writes.nonempty writes.bare (Nat.le_pred_of_lt writes.short) ends

end Patrol.Toml
