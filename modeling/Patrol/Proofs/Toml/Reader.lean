import Mathlib.Data.List.Forall2
import Patrol.Proofs.Toml.Text
import Patrol.Toml.Reader

/-! Documents are read back as they were written, line by line. -/
namespace Patrol.Toml
open Text (ne_of_kind span_append)

/-! ## Values -/

/-- What can stand behind a value. -/
def EndsValue (rest : List Char) : Prop := ∀ c ∈ rest.head?, c = ',' ∨ c = ']' ∨ c = '\n'

/-- Whether a text is read as a value, wherever it stands in a document. -/
structure Writes (text : List Char) (v : Value) : Prop where
  visible : ∃ c cs, text = c :: cs ∧ isSpace c = false
  read : ∀ (fuel depth : Nat) {rest : List Char}, 2 * text.length ≤ fuel → 0 < depth →
    EndsValue rest → readValue fuel depth (text ++ rest) = some (v, rest)

theorem readValue_quoted (s : String) (fuel : Nat) (some : 0 < fuel) (depth : Nat)
    {rest : List Char} (apart : rest.head? ≠ Option.some '"') :
    readValue fuel depth (quoted s ++ rest) = Option.some (.string s, rest) := by
  obtain ⟨fuel, rfl⟩ : ∃ n, fuel = n + 1 := ⟨fuel - 1, by omega⟩
  rw [quoted_append, readValue]
  simp [readText_escaped s.toList apart]

theorem EndsValue.head?_ne_quote {rest : List Char} (ends : EndsValue rest) :
    rest.head? ≠ some '"' := by
  intro first
  have := ends '"' first
  simp at this

theorem writes_quoted (s : String) : Writes (quoted s) (.string s) where
  visible := ⟨_, _, rfl, by decide⟩
  read fuel depth _ enough _ ends := by
    have some : 0 < (quoted s).length := by simp [quoted]
    exact readValue_quoted s fuel (by omega) depth ends.head?_ne_quote

theorem writes_boolean (b : Bool) : Writes (boolean b) (.boolean b) where
  visible := by
    cases b with
    | false => exact ⟨_, _, rfl, by decide⟩
    | true => exact ⟨_, _, rfl, by decide⟩
  read fuel depth rest enough _ ends := by
    have stop : ∀ c ∈ rest.head?, isBareChar c = false := by
      intro c first
      obtain rfl | rfl | rfl := ends c first <;> decide
    have letters : (boolean b).all isBareChar = true := by cases b <;> decide
    have word := span_append (List.all_eq_true.1 letters) stop
    have bare : readBare (boolean b ++ rest) = some (.boolean b, rest) := by
      rw [readBare, word]
      cases b <;> rfl
    have some : 0 < (boolean b).length := by cases b <;> decide
    obtain ⟨fuel, rfl⟩ : ∃ n, fuel = n + 1 := ⟨fuel - 1, by omega⟩
    rw [← bare]
    cases b <;> rfl

/-- The items of an array of texts. -/
def itemsChars (texts : List String) : List Char := [',', ' '].intercalate (texts.map quoted)

theorem itemsChars_singleton (s : String) : itemsChars [s] = quoted s := by simp [itemsChars]

theorem itemsChars_cons (s : String) {texts : List String} (some : texts ≠ []) :
    itemsChars (s :: texts) = quoted s ++ ',' :: ' ' :: itemsChars texts := by
  cases texts with
  | nil => exact absurd rfl some
  | cons second texts => simp [itemsChars]

theorem dropBlank_itemsChars {texts : List String} (some : texts ≠ []) (rest : List Char) :
    dropBlank false (itemsChars texts ++ rest) = itemsChars texts ++ rest := by
  have mark : ∃ back, itemsChars texts ++ rest = '"' :: back := by
    cases texts with
    | nil => exact absurd rfl some
    | cons s texts =>
      cases texts with
      | nil =>
        rw [itemsChars_singleton, quoted_append]
        exact ⟨_, rfl⟩
      | cons second texts =>
        rw [itemsChars_cons s (List.cons_ne_nil second texts), List.append_assoc, quoted_append]
        exact ⟨_, rfl⟩
  obtain ⟨back, chars⟩ := mark
  rw [chars]
  simp [dropBlank, isSpace]

theorem readItems_quoted {texts : List String} (some : texts ≠ []) (fuel : Nat)
    (enough : 2 * (itemsChars texts).length < fuel) (depth : Nat) (rest : List Char) :
    readItems fuel depth (itemsChars texts ++ ']' :: rest) =
      Option.some (texts.map .string, rest) := by
  induction texts generalizing fuel with
  | nil => exact absurd rfl some
  | cons s texts ih =>
    obtain ⟨fuel, rfl⟩ : ∃ n, fuel = n + 1 := ⟨fuel - 1, by omega⟩
    have two : 2 ≤ (quoted s).length := by simp [quoted]
    cases texts with
    | nil =>
      have apart : (']' :: rest).head? ≠ Option.some '"' := by simp
      have first := readValue_quoted s fuel (by rw [itemsChars_singleton] at enough; omega) depth
        apart
      have bracket : dropBlank false (']' :: rest) = ']' :: rest := by simp [dropBlank, isSpace]
      rw [itemsChars_singleton, quoted_append, readItems, ← quoted_append, first]
      · simp [bracket]
      · simp
    | cons second texts =>
      have more := List.cons_ne_nil second texts
      rw [itemsChars_cons s more] at enough ⊢
      simp only [List.length_append, List.length_cons] at enough
      have others := ih more fuel (by omega)
      have apart : (',' :: ' ' :: (itemsChars (second :: texts) ++ ']' :: rest)).head? ≠
          Option.some '"' := by simp
      have first := readValue_quoted s fuel (by omega) depth apart
      have comma : dropBlank false (',' :: ' ' :: (itemsChars (second :: texts) ++ ']' :: rest)) =
          ',' :: ' ' :: (itemsChars (second :: texts) ++ ']' :: rest) := by
        simp [dropBlank, isSpace]
      have blank : dropBlank false (' ' :: (itemsChars (second :: texts) ++ ']' :: rest)) =
          itemsChars (second :: texts) ++ ']' :: rest := by
        rw [← dropBlank_itemsChars more]
        simp [dropBlank, isSpace, dropBlank_itemsChars more]
      rw [List.append_assoc, List.cons_append, List.cons_append, quoted_append, readItems,
        ← quoted_append, first]
      · simp [comma, blank, others]
      · simp

theorem writes_array (texts : List String) :
    Writes (array (texts.map quoted)) (.array (texts.map .string)) where
  visible := ⟨_, _, rfl, by decide⟩
  read fuel depth rest enough deep _ := by
    obtain ⟨depth, rfl⟩ : ∃ n, depth = n + 1 := ⟨depth - 1, by omega⟩
    have chars : array (texts.map quoted) ++ rest = '[' :: (itemsChars texts ++ ']' :: rest) := by
      simp [array, itemsChars]
    have size : (array (texts.map quoted)).length = (itemsChars texts).length + 2 := by
      simp [array, itemsChars]
    obtain ⟨fuel, rfl⟩ : ∃ n, fuel = n + 1 := ⟨fuel - 1, by omega⟩
    rw [chars, readValue]
    cases texts with
    | nil =>
      obtain ⟨fuel, rfl⟩ : ∃ n, fuel = n + 1 := ⟨fuel - 1, by omega⟩
      rfl
    | cons s texts =>
      have more := List.cons_ne_nil s texts
      have items := readItems_quoted more fuel (by omega) depth rest
      simp [dropBlank_itemsChars more, items]

/-! ## Lines -/

/-- Whether a text is one line that is read as a statement. -/
structure IsLine (text : List Char) (s : Statement) : Prop where
  visible : ∃ c cs, text = c :: cs ∧ isSpace c = false ∧ c ∉ ['#', '\n', '\r', '\uFEFF']
  read : ∀ rest, readStatement (text ++ rest) = some (s, '\n' :: rest)

theorem endsKey_equals (rest : List Char) : EndsKey (' ' :: '=' :: rest) where
  other := by
    rintro c ⟨⟩
    decide
  last := by simp [dropSpace, isSpace]

theorem endsKey_bracket (rest : List Char) : EndsKey (']' :: rest) where
  other := by
    rintro c ⟨⟩
    decide
  last := by simp [dropSpace, isSpace]

theorem isLine_entry {key : String} {value : List Char} {v : Value} (bare : IsBarePart key)
    (writes : Writes value v) : IsLine (entry key value) (.entry [key] v) := by
  obtain ⟨first, back, chars, letter⟩ := bare.exists_cons
  constructor
  · refine ⟨first, _, by rw [entry, chars]; rfl, isSpace_of_bare letter, fun member => ?_⟩
    have plain : ['#', '\n', '\r', '\uFEFF'].all (fun d => !isBare d) = true := by decide
    have other := List.all_eq_true.1 plain first member
    rw [letter] at other
    cases other
  · intro rest
    obtain ⟨⟨c, cs, begins, visible⟩, read⟩ := writes
    have line : entry key value ++ rest =
        key.toList ++ ' ' :: '=' :: ' ' :: (value ++ '\n' :: rest) := by
      simp [entry]
    have path := (writesKey_singleton bare).readKey
      (endsKey_equals (' ' :: (value ++ '\n' :: rest)))
    have equals := dropSpace_cons (c := '=') (by decide) (' ' :: (value ++ '\n' :: rest))
    have blank : dropSpace (' ' :: (value ++ '\n' :: rest)) = value ++ '\n' :: rest := by
      rw [dropSpace_space, begins]
      exact dropSpace_cons visible _
    have stop : EndsValue ('\n' :: rest) := by
      rintro c ⟨⟩
      exact .inr (.inr rfl)
    have found := read (2 * (' ' :: (value ++ '\n' :: rest)).length) (maxDepth - 1)
      (by simp only [List.length_cons, List.length_append]; omega) (by decide) stop
    have bracket (cs : List Char) :
        key.toList ++ ' ' :: '=' :: ' ' :: (value ++ '\n' :: rest) ≠ '[' :: cs := by
      rw [chars]
      exact fun same => ne_of_kind letter (by decide) (List.cons.inj same).1
    rw [line]
    unfold readStatement
    split
    · next same => exact absurd same (bracket _)
    · next same => exact absurd same (bracket _)
    · rw [path]
      simp only [bind, Option.bind, dropSpace_space, equals]
      rw [← dropSpace_space, blank, found]

theorem isLine_heading {key : String} {path : List String} (writes : WritesKey key path) :
    IsLine (heading key) (.heading path) where
  visible := ⟨_, _, rfl, by decide, by decide⟩
  read rest := by
    have line : heading key ++ rest = '[' :: (key.toList ++ ']' :: '\n' :: rest) := by
      simp [heading]
    have read := writes.readKey (endsKey_bracket ('\n' :: rest))
    have bracket := dropSpace_cons (c := ']') (by decide) ('\n' :: rest)
    obtain ⟨first, back, begins, letter⟩ := writes.exists_cons
    rw [line]
    unfold readStatement
    split
    · next same =>
      rw [begins] at same
      exact absurd (List.cons.inj (List.cons.inj same).2).1 (ne_of_kind letter (by decide))
    · next same =>
      cases same
      rw [read]
      simp only [bind, Option.bind, bracket]
    · next other => exact absurd rfl (other _)

theorem isLine_itemHeading {key : String} {path : List String} (writes : WritesKey key path) :
    IsLine (itemHeading key) (.itemHeading path) where
  visible := ⟨_, _, rfl, by decide, by decide⟩
  read rest := by
    have line : itemHeading key ++ rest =
        '[' :: '[' :: (key.toList ++ ']' :: ']' :: '\n' :: rest) := by
      simp [itemHeading]
    have read := writes.readKey (endsKey_bracket (']' :: '\n' :: rest))
    have bracket := dropSpace_cons (c := ']') (by decide) (']' :: '\n' :: rest)
    rw [line, readStatement, read]
    simp only [bind, Option.bind, bracket]

/-! Lines with plain keys. -/

theorem isLine_section {key : String} (bare : IsBarePart key) :
    IsLine (heading key) (.heading [key]) :=
  isLine_heading (writesKey_singleton bare)

theorem isLine_switch {key : String} (bare : IsBarePart key) (b : Bool) :
    IsLine (entry key (boolean b)) (.entry [key] (.boolean b)) :=
  isLine_entry bare (writes_boolean b)

theorem isLine_texts {key : String} (bare : IsBarePart key) (texts : List String) :
    IsLine (entry key (array (texts.map quoted))) (.entry [key] (.array (texts.map .string))) :=
  isLine_entry bare (writes_array texts)

/-! ## Documents -/

theorem IsLine.readStatements {text : List Char} {s : Statement} (line : IsLine text s) (fuel : Nat)
    (rest : List Char) :
    readStatements (fuel + 1) (text ++ rest) = (readStatements fuel rest).map (s :: ·) := by
  obtain ⟨⟨c, cs, rfl, space, plain⟩, read⟩ := line
  simp only [List.mem_cons, List.not_mem_nil, or_false, not_or] at plain
  have statement := read rest
  have visible := dropSpace_cons space (cs ++ rest)
  have ends : endOfLine? ('\n' :: rest) = some rest := by
    rw [endOfLine?, dropSpace_cons (by decide)]
    rfl
  rw [List.cons_append] at statement ⊢
  rw [Toml.readStatements, visible]
  cases others : Toml.readStatements fuel rest <;> simp [plain, statement, ends, others]

theorem readStatements_lines {texts : List (List Char)} {statements : List Statement}
    (lines : List.Forall₂ IsLine texts statements) (fuel : Nat) (enough : texts.length < fuel) :
    readStatements fuel texts.flatten = some statements := by
  induction lines generalizing fuel with
  | nil =>
    obtain ⟨fuel, rfl⟩ : ∃ n, fuel = n + 1 := ⟨fuel - 1, by omega⟩
    rfl
  | cons line lines ih =>
    obtain ⟨fuel, rfl⟩ : ∃ n, fuel = n + 1 := ⟨fuel - 1, by omega⟩
    rw [List.flatten_cons, line.readStatements, ih fuel (by simpa using enough)]
    rfl

theorem length_le_flatten {texts : List (List Char)} {statements : List Statement}
    (lines : List.Forall₂ IsLine texts statements) : texts.length ≤ texts.flatten.length := by
  induction lines with
  | nil => exact Nat.le_refl 0
  | cons line lines ih =>
    obtain ⟨⟨c, cs, rfl, -⟩, -⟩ := line
    simp only [List.flatten_cons, List.length_append, List.length_cons]
    omega

theorem read_lines {texts : List (List Char)} {statements : List Statement}
    (lines : List.Forall₂ IsLine texts statements) :
    read (String.ofList texts.flatten) = ofStatements statements := by
  have enough := length_le_flatten lines
  have statements := readStatements_lines lines (texts.flatten.length + 1) (by omega)
  have noMark (cs : List Char) : texts.flatten ≠ '\uFEFF' :: cs := by
    cases lines with
    | nil => nofun
    | cons line lines =>
      obtain ⟨⟨c, cs, rfl, -, plain⟩, -⟩ := line
      intro same
      obtain ⟨rfl, -⟩ := List.cons.inj same
      exact plain (by decide)
  rw [read, String.toList_ofList]
  split
  · next same => exact absurd same (noMark _)
  · rw [statements]
    rfl

/-- Whether a part of a document consists of lines that are read as these statements. -/
def Spells (text : List Char) (statements : List Statement) : Prop :=
  ∃ texts, text = texts.flatten ∧ List.Forall₂ IsLine texts statements

theorem IsLine.spells {text : List Char} {s : Statement} (line : IsLine text s) : Spells text [s] :=
  ⟨[text], by simp, .cons line .nil⟩

theorem spells_nil : Spells [] [] := ⟨[], rfl, .nil⟩

theorem Spells.append {text more : List Char} {front back : List Statement}
    (spells : Spells text front) (spellsMore : Spells more back) :
    Spells (text ++ more) (front ++ back) := by
  obtain ⟨texts, rfl, lines⟩ := spells
  obtain ⟨others, rfl, otherLines⟩ := spellsMore
  exact ⟨texts ++ others, List.flatten_append.symm, List.rel_append lines otherLines⟩

theorem spells_flatMap {α : Type} {text : α → List Char} {statements : α → List Statement}
    (spells : ∀ x, Spells (text x) (statements x)) (xs : List α) :
    Spells (xs.flatMap text) (xs.flatMap statements) := by
  induction xs with
  | nil => exact spells_nil
  | cons x xs ih =>
    rw [List.flatMap_cons, List.flatMap_cons]
    exact (spells x).append ih

/-- A document is read as what its statements say. -/
theorem Spells.read {text : List Char} {statements : List Statement}
    (spells : Spells text statements) :
    Toml.read (String.ofList text) = ofStatements statements := by
  obtain ⟨texts, rfl, lines⟩ := spells
  exact read_lines lines

end Patrol.Toml
