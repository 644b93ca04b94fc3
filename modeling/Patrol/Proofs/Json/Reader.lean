import Patrol.Json.Reader
import Patrol.Proofs.Text.Digits

/-! What is written as JSON is read back, and holds no control characters: so it stands on one
line. -/
namespace Patrol.Json
open Text (hexDigit? ofDigits ne_of_kind span_toString ofDigits_toString digits_toString_ne
  isDigit_of_mem_toString toString_toList_ne_nil mapM_hexDigit?_pair ofDigits_pair)

/-! ## Texts -/

/-- A small character is told by the two digits of its code. -/
theorem codeChar?_pair {c : Char} (control : c.toNat < 0x20) (rest : List Char) :
    codeChar? ('0' :: '0' :: (c.toNat / 16).digitChar :: (c.toNat % 16).digitChar :: rest) =
      some (c, rest) := by
  have unit : unit? ('0' :: '0' :: (c.toNat / 16).digitChar :: (c.toNat % 16).digitChar :: rest) =
      some (c.toNat, rest) := by
    simp only [unit?, mapM_hexDigit?_pair (show c.toNat < 256 by omega), bind, Option.bind, pure,
      ofDigits_pair]
  have high : ¬(0xD800 ≤ c.toNat ∧ c.toNat < 0xDC00) := by omega
  have low : ¬(0xDC00 ≤ c.toNat ∧ c.toNat < 0xE000) := by omega
  simp only [codeChar?, unit, bind, Option.bind, high, low, if_false, Char.ofNat_toNat]

/-- A character is written behind a backslash, from where it is read back, or it stands for
itself. -/
theorem escaped_cases (c : Char) :
    (∃ word, escaped c = '\\' :: word ∧ ∀ rest, escape? (word ++ rest) = some (c, rest)) ∨
      (escaped c = [c] ∧ c ≠ '"' ∧ c ≠ '\\' ∧ 0x20 ≤ c.toNat) := by
  unfold escaped
  split
  case h_8 quote backslash _ _ _ _ _ =>
    split
    · next control => exact .inl ⟨_, rfl, codeChar?_pair control⟩
    · next visible => exact .inr ⟨rfl, quote, backslash, by omega⟩
  all_goals exact .inl ⟨_, rfl, fun _ => rfl⟩

/-- A text is read back up to its closing quotation mark, with as much fuel as it has characters and
one more. -/
theorem readQuoted_escaped (fuel : Nat) {text : List Char} (enough : text.length < fuel)
    (rest : List Char) :
    readQuoted fuel (text.flatMap escaped ++ '"' :: rest) = some (text, rest) := by
  induction text generalizing fuel with
  | nil =>
    obtain ⟨fuel, rfl⟩ : ∃ n, fuel = n + 1 := ⟨fuel - 1, by omega⟩
    simp [readQuoted]
  | cons c text ih =>
    obtain ⟨fuel, rfl⟩ : ∃ n, fuel = n + 1 := ⟨fuel - 1, by omega⟩
    have more := ih fuel (by simpa using enough)
    rw [List.flatMap_cons, List.append_assoc]
    obtain ⟨word, written, read⟩ | ⟨written, quote, backslash, visible⟩ := escaped_cases c
    · simp [written, readQuoted, read, more]
    · have shown : ¬c.toNat < 32 := by omega
      simp [written, readQuoted, quote, backslash, shown, more]

theorem length_le_flatMap_escaped (text : List Char) :
    text.length ≤ (text.flatMap escaped).length := by
  induction text with
  | nil => exact Nat.le_refl 0
  | cons c text ih =>
    have one : 1 ≤ (escaped c).length := by
      obtain ⟨word, written, -⟩ | ⟨written, -⟩ := escaped_cases c <;> simp [written]
    rw [List.flatMap_cons, List.length_append, List.length_cons]
    omega

/-- The characters behind the first quotation mark. -/
def quotedTail (s : String) (rest : List Char) : List Char :=
  s.toList.flatMap escaped ++ '"' :: rest

theorem quoted_append (s : String) (rest : List Char) :
    quoted s ++ rest = '"' :: quotedTail s rest := by
  simp [quoted, quotedTail]

theorem readQuoted_quotedTail (s : String) (rest : List Char) :
    readQuoted (quotedTail s rest).length (quotedTail s rest) = some (s.toList, rest) := by
  refine readQuoted_escaped _ ?_ rest
  have := length_le_flatMap_escaped s.toList
  simp only [quotedTail, List.length_append, List.length_cons]
  omega

/-! ## Numbers -/

/-- The values of the decimal digits of a number. -/
def digitsOf (n : Nat) : List Nat := (toString n).toList.map fun c => c.toNat - '0'.toNat

theorem readDigits_toString {n : Nat} {rest : List Char}
    (ends : ∀ c ∈ rest.head?, c.isDigit = false) :
    readDigits ((toString n).toList ++ rest) = some (digitsOf n, rest) := by
  rw [readDigits, span_toString ends]
  cases digits : (toString n).toList with
  | nil => exact absurd digits (toString_toList_ne_nil n)
  | cons c cs => simp only [digitsOf, digits]

theorem readWhole_toString {n : Nat} {rest : List Char}
    (ends : ∀ c ∈ rest.head?, c.isDigit = false) :
    readWhole ((toString n).toList ++ rest) = some (digitsOf n, rest) := by
  rw [readWhole, readDigits_toString ends]
  split
  · next zero =>
    have digits := (Prod.mk.inj (Option.some.inj zero)).1
    exact absurd digits digits_toString_ne
  · rfl

/-- A number is written with its sign, if it has one, and the digits of its size. -/
theorem toList_toString_int (i : Int) :
    (toString i).toList = (if i < 0 then ['-'] else []) ++ (toString i.natAbs).toList := by
  cases i with
  | ofNat n => rfl
  | negSucc n =>
    have sign : (Int.negSucc n) < 0 := Int.negSucc_lt_zero n
    rw [if_pos sign]
    exact String.toList_append

/-- The number with a sign and a size. -/
theorem signed_natAbs (i : Int) : (if i < 0 then -(i.natAbs : Int) else i.natAbs) = i := by
  split <;> omega

/-- What may stand behind a value. -/
def Ends (rest : List Char) : Prop := ∀ c ∈ rest.head?, c = ',' ∨ c = ']' ∨ c = '\x7d'

theorem Ends.not_isDigit {rest : List Char} (ends : Ends rest) :
    ∀ c ∈ rest.head?, c.isDigit = false := by
  intro c first
  obtain rfl | rfl | rfl := ends c first <;> decide

theorem readFraction_of_ne {rest : List Char} (none : rest.head? ≠ some '.') :
    readFraction rest = some ([], rest) := by
  unfold readFraction
  split
  · exact absurd rfl none
  · rfl

theorem Ends.head?_ne {rest : List Char} (ends : Ends rest) {c : Char}
    (other : c ≠ ',' ∧ c ≠ ']' ∧ c ≠ '\x7d') : rest.head? ≠ some c := by
  intro first
  obtain rfl | rfl | rfl := ends c first <;> simp at other

theorem readExponent_none {rest : List Char} (ends : Ends rest) :
    readExponent rest = some (0, rest) := by
  unfold readExponent
  split
  · exact absurd rfl (ends.head?_ne (c := 'e') (by decide))
  · exact absurd rfl (ends.head?_ne (c := 'E') (by decide))
  · rfl

/-- The digits of a number begin with one. -/
theorem exists_toString_eq (n : Nat) :
    ∃ c cs, (toString n).toList = c :: cs ∧ c.isDigit = true := by
  have digits : ∀ c ∈ (toString n).toList, c.isDigit = true := fun _ => isDigit_of_mem_toString
  cases chars : (toString n).toList with
  | nil => exact absurd chars (toString_toList_ne_nil n)
  | cons c cs => exact ⟨c, cs, rfl, digits c (chars ▸ .head cs)⟩

theorem toString_append_ne (n : Nat) (rest : List Char) {c : Char} (other : c.isDigit = false)
    (cs : List Char) : (toString n).toList ++ rest ≠ c :: cs := by
  obtain ⟨d, ds, chars, digit⟩ := exists_toString_eq n
  rw [chars, List.cons_append]
  exact fun same => ne_of_kind digit other (List.cons.inj same).1

theorem readExponent_toString {e : Int} {rest : List Char} (ends : Ends rest) :
    readExponent ('e' :: ((toString e).toList ++ rest)) = some (e, rest) := by
  have read := readDigits_toString (n := e.natAbs) ends.not_isDigit
  have value : (ofDigits 10 (digitsOf e.natAbs) : Int) = e.natAbs :=
    congrArg Nat.cast (ofDigits_toString e.natAbs)
  have sign := signed_natAbs e
  rw [toList_toString_int]
  split at sign
  · next negative =>
    simp only [readExponent, negative, if_true, List.cons_append, List.nil_append, read, value, sign,
      bind, Option.bind]
  · next positive =>
    simp only [readExponent, positive, if_false, List.nil_append]
    split
    · next same => exact absurd same (toString_append_ne _ _ (by decide) _)
    · next same => exact absurd same (toString_append_ne _ _ (by decide) _)
    · simp only [read, value, sign, bind, Option.bind, Bool.false_eq_true, if_false]

/-- What stands behind the digits of the mantissa. -/
theorem readExponent_rest (mantissa : Int) {exponent : Int} {rest : List Char} (ends : Ends rest) :
    ∃ tail, (numberText mantissa exponent).toList ++ rest = (toString mantissa).toList ++ tail ∧
      (∀ c ∈ tail.head?, c.isDigit = false) ∧ tail.head? ≠ some '.' ∧
      readExponent tail = some (exponent, rest) := by
  rw [numberText]
  split
  · next none =>
    refine ⟨rest, by simp, ends.not_isDigit, ends.head?_ne (by decide), ?_⟩
    rw [none]
    exact readExponent_none ends
  · next some =>
    refine ⟨'e' :: ((toString exponent).toList ++ rest), by simp, ?_, by simp,
      readExponent_toString ends⟩
    rintro c ⟨⟩
    decide

/-- A number is read back where nothing follows that could belong to it. -/
theorem readNumber_numberText (mantissa exponent : Int) {rest : List Char} (ends : Ends rest) :
    readNumber ((numberText mantissa exponent).toList ++ rest) =
      some (.number mantissa exponent, rest) := by
  obtain ⟨tail, written, digitless, pointless, read⟩ := readExponent_rest mantissa ends
  have whole := readWhole_toString (n := mantissa.natAbs) digitless
  have value : (ofDigits 10 (digitsOf mantissa.natAbs) : Int) = mantissa.natAbs :=
    congrArg Nat.cast (ofDigits_toString mantissa.natAbs)
  have sign := signed_natAbs mantissa
  have fraction := readFraction_of_ne pointless
  rw [written, toList_toString_int]
  split at sign
  · next negative =>
    simp only [readNumber, negative, if_true, List.cons_append, List.nil_append, whole, fraction,
      read, value, sign, bind, Option.bind, List.append_nil, List.length_nil, Int.natCast_zero,
      Int.sub_zero]
  · next positive =>
    simp only [readNumber, positive, if_false, List.nil_append]
    split
    · next same => exact absurd same (toString_append_ne _ _ (by decide) _)
    · simp only [whole, fraction, read, value, sign, bind, Option.bind, List.append_nil,
        List.length_nil, Int.natCast_zero, Int.sub_zero, Bool.false_eq_true, if_false]

/-! ## Values -/

theorem readValue_number (fuel : Nat) {c : Char} (first : c = '-' ∨ c.isDigit = true)
    (cs : List Char) : readValue (fuel + 1) (c :: cs) = readNumber (c :: cs) := by
  have other (d : Char) (plain : d ≠ '-' ∧ d.isDigit = false) : c ≠ d := by
    obtain rfl | digit := first
    · exact plain.1.symm
    · exact ne_of_kind digit plain.2
  rw [readValue]
  all_goals
    intro rest same
    exact other _ (by decide) (List.cons.inj same).1

/-- A number begins with a minus or with a digit. -/
theorem exists_numberText_eq (mantissa exponent : Int) :
    ∃ c cs, (numberText mantissa exponent).toList = c :: cs ∧ (c = '-' ∨ c.isDigit = true) := by
  rw [numberText, String.toList_append, toList_toString_int]
  split
  · exact ⟨'-', _, rfl, .inl rfl⟩
  · obtain ⟨c, cs, chars, digit⟩ := exists_toString_eq mantissa.natAbs
    rw [chars]
    exact ⟨c, _, rfl, .inr digit⟩

/-- A value begins neither with a blank nor with a closing bracket. -/
theorem exists_chars_eq (v : Value) :
    ∃ c cs, v.chars = c :: cs ∧ isSpace c = false ∧ c ≠ ']' := by
  cases v with
  | null => exact ⟨'n', _, rfl, by decide, by decide⟩
  | boolean b => cases b <;> exact ⟨_, _, rfl, by decide, by decide⟩
  | number mantissa exponent =>
    obtain ⟨c, cs, chars, first⟩ := exists_numberText_eq mantissa exponent
    refine ⟨c, cs, by rw [Value.chars, chars], ?_⟩
    obtain rfl | digit := first
    · exact ⟨by decide, by decide⟩
    · have other {d : Char} : d.isDigit = false → c ≠ d := ne_of_kind digit
      have blank : isSpace c = false := by
        simp [isSpace, other (d := ' ') (by decide), other (d := '\t') (by decide),
          other (d := '\n') (by decide), other (d := '\r') (by decide)]
      exact ⟨blank, other (by decide)⟩
  | string text => exact ⟨'"', _, rfl, by decide, by decide⟩
  | array items => exact ⟨'[', _, rfl, by decide, by decide⟩
  | object members => exact ⟨'\x7b', _, rfl, by decide, by decide⟩

theorem dropSpace_cons {c : Char} (visible : isSpace c = false) (cs : List Char) :
    dropSpace (c :: cs) = c :: cs := by
  simp [dropSpace, visible]

theorem dropSpace_chars (v : Value) (rest : List Char) :
    dropSpace (v.chars ++ rest) = v.chars ++ rest := by
  obtain ⟨c, cs, chars, visible, -⟩ := exists_chars_eq v
  rw [chars, List.cons_append, dropSpace_cons visible]

theorem length_chars_pos (v : Value) : 1 ≤ v.chars.length := by
  obtain ⟨c, cs, chars, -⟩ := exists_chars_eq v
  rw [chars, List.length_cons]
  omega

theorem itemsChars_cons (v : Value) {vs : List Value} (more : vs ≠ []) :
    itemsChars (v :: vs) = v.chars ++ ',' :: itemsChars vs := by
  cases vs with
  | nil => exact absurd rfl more
  | cons w vs => rfl

theorem membersChars_cons (name : String) (v : Value) {members : List (String × Value)}
    (more : members ≠ []) :
    membersChars ((name, v) :: members) =
      quoted name ++ ':' :: (v.chars ++ ',' :: membersChars members) := by
  cases members with
  | nil => exact absurd rfl more
  | cons member members => rfl

/-- Items begin with neither a blank nor a closing bracket. -/
theorem exists_itemsChars_eq {items : List Value} (some : items ≠ []) :
    ∃ c cs, itemsChars items = c :: cs ∧ isSpace c = false ∧ c ≠ ']' := by
  cases items with
  | nil => exact absurd rfl some
  | cons v vs =>
    obtain ⟨c, cs, chars, first⟩ := exists_chars_eq v
    cases vs with
    | nil => exact ⟨c, cs, chars, first⟩
    | cons w vs =>
      rw [itemsChars_cons v (List.cons_ne_nil w vs), chars]
      exact ⟨c, _, rfl, first⟩

theorem exists_membersChars_eq {members : List (String × Value)} (some : members ≠ []) :
    ∃ cs, membersChars members = '"' :: cs := by
  cases members with
  | nil => exact absurd rfl some
  | cons member members =>
    obtain ⟨name, v⟩ := member
    cases members with
    | nil => exact ⟨_, quoted_append name _⟩
    | cons other members =>
      rw [membersChars_cons name v (List.cons_ne_nil other members)]
      exact ⟨_, quoted_append name _⟩

theorem array_append (items : List Value) (rest : List Char) :
    (Value.array items).chars ++ rest = '[' :: (itemsChars items ++ ']' :: rest) := by
  simp [Value.chars]

theorem object_append (members : List (String × Value)) (rest : List Char) :
    (Value.object members).chars ++ rest = '\x7b' :: (membersChars members ++ '\x7d' :: rest) := by
  simp [Value.chars]

theorem length_array (items : List Value) :
    (Value.array items).chars.length = (itemsChars items).length + 2 := by
  simp [Value.chars]

theorem length_object (members : List (String × Value)) :
    (Value.object members).chars.length = (membersChars members).length + 2 := by
  simp [Value.chars]

theorem ends_comma (rest : List Char) : Ends (',' :: rest) := by
  rintro c ⟨⟩
  exact .inl rfl

theorem ends_bracket (rest : List Char) : Ends (']' :: rest) := by
  rintro c ⟨⟩
  exact .inr (.inl rfl)

theorem ends_brace (rest : List Char) : Ends ('\x7d' :: rest) := by
  rintro c ⟨⟩
  exact .inr (.inr rfl)

mutual

/-- A value is read back, with fuel of twice its length. -/
theorem readValue_chars (v : Value) (fuel : Nat) (enough : 2 * v.chars.length ≤ fuel)
    {rest : List Char} (ends : Ends rest) : readValue fuel (v.chars ++ rest) = some (v, rest) := by
  have long := length_chars_pos v
  obtain ⟨fuel, rfl⟩ : ∃ n, fuel = n + 1 := ⟨fuel - 1, by omega⟩
  match v with
  | .null => simp [Value.chars, readValue]
  | .boolean b => cases b <;> simp [Value.chars, readValue]
  | .number mantissa exponent =>
    obtain ⟨c, cs, chars, first⟩ := exists_numberText_eq mantissa exponent
    have read := readNumber_numberText mantissa exponent ends
    rw [chars, List.cons_append] at read
    rw [Value.chars, chars, List.cons_append, readValue_number fuel first, read]
  | .string text =>
    rw [Value.chars, quoted_append, readValue, readQuoted_quotedTail]
    simp
  | .array [] =>
    have closed := dropSpace_cons (c := ']') (by decide) rest
    simp [array_append, itemsChars, readValue, closed]
  | .array (first :: others) =>
    obtain ⟨c, cs, chars, visible, other⟩ := exists_itemsChars_eq (List.cons_ne_nil first others)
    rw [length_array] at enough
    have read := readItems_chars (first :: others) (List.cons_ne_nil first others) fuel
      (by omega) rest
    rw [chars, List.cons_append] at read
    rw [array_append, chars, List.cons_append, readValue, dropSpace_cons visible]
    split
    · next closed => exact absurd (List.cons.inj closed).1 other
    · simp [read]
  | .object [] =>
    have closed := dropSpace_cons (c := '\x7d') (by decide) rest
    simp [object_append, membersChars, readValue, closed]
  | .object (first :: others) =>
    obtain ⟨cs, chars⟩ := exists_membersChars_eq (List.cons_ne_nil first others)
    rw [length_object] at enough
    have read := readMembers_chars (first :: others) (List.cons_ne_nil first others)
      fuel (by omega) rest
    have visible := dropSpace_cons (c := '"') (by decide) (cs ++ '\x7d' :: rest)
    rw [chars, List.cons_append] at read
    rw [object_append, chars, List.cons_append, readValue, visible]
    simp [read]

/-- Items are read back up to the closing bracket. -/
theorem readItems_chars (items : List Value) (some : items ≠ []) (fuel : Nat)
    (enough : 2 * (itemsChars items).length + 1 ≤ fuel) (rest : List Char) :
    readItems fuel (itemsChars items ++ ']' :: rest) = .some (items, rest) := by
  obtain ⟨fuel, rfl⟩ : ∃ n, fuel = n + 1 := ⟨fuel - 1, by omega⟩
  match items with
  | [first] =>
    have read := readValue_chars first fuel (by simpa [itemsChars] using enough)
      (ends_bracket rest)
    simp [readItems, itemsChars, read, dropSpace_cons (c := ']') (by decide)]
  | first :: second :: others =>
    rw [itemsChars_cons first (List.cons_ne_nil second others)] at enough ⊢
    simp only [List.length_append, List.length_cons] at enough
    have long := length_chars_pos first
    have read := readValue_chars first fuel (by omega)
      (ends_comma (itemsChars (second :: others) ++ ']' :: rest))
    have more := readItems_chars (second :: others) (List.cons_ne_nil second others)
      fuel (by omega) rest
    obtain ⟨c, cs, chars, visible, -⟩ := exists_itemsChars_eq (List.cons_ne_nil second others)
    rw [chars, List.cons_append] at read more
    rw [List.append_assoc, List.cons_append, chars, List.cons_append, readItems, read]
    simp [dropSpace_cons (c := ',') (by decide), dropSpace_cons visible, more]

/-- Members are read back up to the closing brace. -/
theorem readMembers_chars (members : List (String × Value)) (some : members ≠ []) (fuel : Nat)
    (enough : 2 * (membersChars members).length + 1 ≤ fuel) (rest : List Char) :
    readMembers fuel (membersChars members ++ '\x7d' :: rest) = .some (members, rest) := by
  obtain ⟨fuel, rfl⟩ : ∃ n, fuel = n + 1 := ⟨fuel - 1, by omega⟩
  match members with
  | [(name, v)] =>
    simp only [membersChars, List.length_append, List.length_cons] at enough
    have read := readValue_chars v fuel (by omega) (ends_brace rest)
    rw [membersChars, List.append_assoc, quoted_append, List.cons_append, readMembers]
    simp [readQuoted_quotedTail, dropSpace_cons (c := ':') (by decide), dropSpace_chars, read,
      dropSpace_cons (c := '\x7d') (by decide)]
  | (name, v) :: second :: others =>
    rw [membersChars_cons name v (List.cons_ne_nil second others)] at enough ⊢
    simp only [List.length_append, List.length_cons] at enough
    have read := readValue_chars v fuel (by omega)
      (ends_comma (membersChars (second :: others) ++ '\x7d' :: rest))
    have more := readMembers_chars (second :: others) (List.cons_ne_nil second others)
      fuel (by omega) rest
    obtain ⟨cs, chars⟩ := exists_membersChars_eq (List.cons_ne_nil second others)
    rw [chars, List.cons_append] at read more
    rw [List.append_assoc, quoted_append, List.cons_append, List.append_assoc, List.cons_append,
      chars, List.cons_append, readMembers]
    simp [readQuoted_quotedTail, dropSpace_cons (c := ':') (by decide), dropSpace_chars, read,
      dropSpace_cons (c := ',') (by decide), dropSpace_cons (c := '"') (by decide), more]

end

/-- **What is written is read back.** Every value comes back from its text. -/
theorem read_text (v : Value) : read v.text = some v := by
  have ends : Ends [] := nofun
  have chars := readValue_chars v (2 * v.chars.length) (Nat.le_refl _) ends
  have visible := dropSpace_chars v []
  have nothing : dropSpace [] = [] := rfl
  rw [List.append_nil] at chars visible
  simp [read, Value.text, visible, chars, nothing]

/-! ## No control characters -/

/-- Characters that are no controls. -/
def Visible (cs : List Char) : Prop := ∀ c ∈ cs, 0x20 ≤ c.toNat

instance : DecidablePred Visible := fun cs =>
  decidable_of_iff (cs.all fun c => decide (0x20 ≤ c.toNat)) (by simp [Visible])

theorem visible_cons {c : Char} {cs : List Char} :
    Visible (c :: cs) ↔ 0x20 ≤ c.toNat ∧ Visible cs := List.forall_mem_cons

theorem visible_append {front back : List Char} :
    Visible (front ++ back) ↔ Visible front ∧ Visible back := List.forall_mem_append

theorem visible_nil : Visible [] := nofun

theorem visible_escaped (c : Char) : Visible (escaped c) := by
  have digit (n : Nat) (small : n < 16) : 0x20 ≤ n.digitChar.toNat := by
    have all : ∀ n < 16, 0x20 ≤ n.digitChar.toNat := by decide
    exact all n small
  unfold escaped
  split
  case h_8 =>
    split
    · next control =>
      have high := digit (c.toNat / 16) (by omega)
      have low := digit (c.toNat % 16) (by omega)
      simp only [visible_cons, high, low, visible_nil, and_true]
      decide
    · next visible => exact List.forall_mem_singleton.2 (by omega)
  all_goals simp only [visible_cons, visible_nil]; decide

theorem visible_quoted (s : String) : Visible (quoted s) := by
  have inside : Visible (s.toList.flatMap escaped) := by
    intro c member
    obtain ⟨d, -, member⟩ := List.mem_flatMap.1 member
    exact visible_escaped d c member
  simp only [quoted, visible_cons, visible_append, inside, visible_nil]
  decide

theorem visible_toString (i : Int) : Visible (toString i).toList := by
  rw [toList_toString_int]
  refine visible_append.2 ⟨?_, fun c member => ?_⟩
  · split
    · exact List.forall_mem_singleton.2 (by decide)
    · exact visible_nil
  · have digit := isDigit_of_mem_toString member
    simp only [Char.isDigit, Bool.and_eq_true, decide_eq_true_eq] at digit
    have code : 48 ≤ c.toNat := digit.1
    omega

theorem visible_numberText (mantissa exponent : Int) :
    Visible (numberText mantissa exponent).toList := by
  rw [numberText, String.toList_append]
  refine visible_append.2 ⟨visible_toString mantissa, ?_⟩
  split
  · exact visible_nil
  · rw [String.toList_append]
    exact visible_append.2
      ⟨List.forall_mem_singleton.2 (by decide), visible_toString exponent⟩

mutual

/-- The text of a value holds no control character. -/
theorem visible_chars (v : Value) : Visible v.chars := by
  match v with
  | .null =>
    change Visible "null".toList
    decide
  | .boolean b =>
    change Visible (if b then "true" else "false").toList
    cases b <;> decide
  | .number mantissa exponent => exact visible_numberText mantissa exponent
  | .string text => exact visible_quoted text
  | .array items =>
    have inside := visible_itemsChars items
    simp only [Value.chars, visible_cons, visible_append, inside, visible_nil]
    decide
  | .object members =>
    have inside := visible_membersChars members
    simp only [Value.chars, visible_cons, visible_append, inside, visible_nil]
    decide

theorem visible_itemsChars (items : List Value) : Visible (itemsChars items) := by
  match items with
  | [] => exact visible_nil
  | [v] => exact visible_chars v
  | v :: w :: vs =>
    have first := visible_chars v
    have others := visible_itemsChars (w :: vs)
    rw [itemsChars_cons v (List.cons_ne_nil w vs)]
    simp only [visible_cons, visible_append, first, others]
    decide

theorem visible_membersChars (members : List (String × Value)) :
    Visible (membersChars members) := by
  match members with
  | [] => exact visible_nil
  | [(name, v)] =>
    have named := visible_quoted name
    have value := visible_chars v
    simp only [membersChars, visible_cons, visible_append, named, value]
    decide
  | (name, v) :: member :: members =>
    have named := visible_quoted name
    have value := visible_chars v
    have others := visible_membersChars (member :: members)
    rw [membersChars_cons name v (List.cons_ne_nil member members)]
    simp only [visible_cons, visible_append, named, value, others]
    decide

end

/-- The text of a value stands on one line. -/
theorem newline_not_mem_chars (v : Value) : '\n' ∉ v.chars := fun member => by
  have visible := visible_chars v '\n' member
  revert visible
  decide

end Patrol.Json
