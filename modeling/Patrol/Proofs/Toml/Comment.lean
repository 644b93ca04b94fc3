import Patrol.Proofs.Toml.Reader

/-! Documents with comments and blank lines, which say nothing. -/
namespace Patrol.Toml

/-- Whether a text is a comment on a line of its own. -/
def isComment : List Char → Bool
  | '#' :: cs => cs.dropLast.all isPlain && cs.getLast? == some '\n'
  | _ => false

theorem isComment_iff {text : List Char} :
    isComment text = true ↔ ∃ cs, text = '#' :: (cs ++ ['\n']) ∧ ∀ c ∈ cs, isPlain c = true := by
  constructor
  · intro comment
    unfold isComment at comment
    split at comment
    · rw [Bool.and_eq_true, List.all_eq_true, beq_iff_eq] at comment
      obtain ⟨plain, last⟩ := comment
      refine ⟨_, ?_, plain⟩
      rw [List.dropLast_append_getLast? _ last]
    · cases comment
  · rintro ⟨cs, rfl, plain⟩
    simpa [isComment] using plain

/-- Whether a text is one line that says nothing. -/
structure IsSilent (text : List Char) : Prop where
  visible : ∃ c cs, text = c :: cs ∧ isSpace c = false ∧ c ∈ ['#', '\n']
  ends : ∀ rest, endOfLine? (text ++ rest) = some rest

theorem isSilent_newline : IsSilent ['\n'] where
  visible := ⟨'\n', [], rfl, by decide, by decide⟩
  ends rest := by
    have blank : dropSpace ('\n' :: rest) = '\n' :: rest := dropSpace_cons (by decide) rest
    rw [List.singleton_append, endOfLine?, blank]
    rfl

theorem isSilent_comment {text : List Char} (comment : isComment text = true) : IsSilent text := by
  obtain ⟨cs, rfl, plain⟩ := isComment_iff.1 comment
  refine ⟨⟨'#', _, rfl, by decide, by decide⟩, fun rest => ?_⟩
  have whole : '#' :: (cs ++ ['\n']) ++ rest = '#' :: (cs ++ '\n' :: rest) := by simp
  have mark : dropSpace ('#' :: (cs ++ '\n' :: rest)) = '#' :: (cs ++ '\n' :: rest) :=
    dropSpace_cons (by decide) _
  have passed : (cs ++ '\n' :: rest).dropWhile isPlain = '\n' :: rest := by
    rw [List.dropWhile_append_of_pos plain]
    rfl
  rw [whole, endOfLine?, mark]
  simp only [passed]
  rfl

/-- Whether a document consists of lines, those that say something with their statements. -/
inductive Lines : List Char → List Statement → Prop
  | nil : Lines [] []
  | line {text more : List Char} {s : Statement} {statements : List Statement}
      (line : IsLine text s) (rest : Lines more statements) : Lines (text ++ more) (s :: statements)
  | silent {text more : List Char} {statements : List Statement} (silent : IsSilent text)
      (rest : Lines more statements) : Lines (text ++ more) statements

theorem IsSilent.lines {text : List Char} (silent : IsSilent text) : Lines text [] := by
  rw [← List.append_nil text]
  exact .silent silent .nil

theorem IsSilent.readStatements {text : List Char} (silent : IsSilent text) (fuel : Nat)
    (rest : List Char) :
    readStatements (fuel + 1) (text ++ rest) = readStatements fuel rest := by
  obtain ⟨⟨c, cs, rfl, space, mark⟩, ends⟩ := silent
  have ends := ends rest
  have visible := dropSpace_cons space (cs ++ rest)
  have kind : (c == '#' || c == '\n' || c == '\r') = true := by
    simp only [List.mem_cons, List.not_mem_nil, or_false] at mark
    obtain rfl | rfl := mark <;> rfl
  rw [List.cons_append] at ends ⊢
  rw [Toml.readStatements, visible]
  simp only [kind, ends, if_true, bind, Option.bind]

theorem Lines.readStatements {text : List Char} {statements : List Statement}
    (lines : Lines text statements) (fuel : Nat) (enough : text.length < fuel) :
    readStatements fuel text = some statements := by
  induction lines generalizing fuel with
  | nil =>
    obtain ⟨fuel, rfl⟩ : ∃ n, fuel = n + 1 := ⟨fuel - 1, by omega⟩
    rfl
  | @line text more s statements line _ ih =>
    obtain ⟨fuel, rfl⟩ : ∃ n, fuel = n + 1 := ⟨fuel - 1, by omega⟩
    have size : 0 < text.length := by
      obtain ⟨⟨c, cs, rfl, -⟩, -⟩ := line
      exact Nat.succ_pos _
    rw [List.length_append] at enough
    rw [line.readStatements, ih fuel (by omega)]
    rfl
  | @silent text more statements silent _ ih =>
    obtain ⟨fuel, rfl⟩ : ∃ n, fuel = n + 1 := ⟨fuel - 1, by omega⟩
    have size : 0 < text.length := by
      obtain ⟨⟨c, cs, rfl, -⟩, -⟩ := silent
      exact Nat.succ_pos _
    rw [List.length_append] at enough
    rw [silent.readStatements, ih fuel (by omega)]

/-- A document is read as what its lines say. -/
theorem Lines.read {text : List Char} {statements : List Statement}
    (lines : Lines text statements) :
    Toml.read (String.ofList text) = ofStatements statements := by
  have noMark (cs : List Char) : text ≠ '\uFEFF' :: cs := by
    rintro rfl
    generalize whole : '\uFEFF' :: cs = text at lines
    cases lines with
    | nil => cases whole
    | line line _ =>
      obtain ⟨⟨c, front, rfl, -, plain⟩, -⟩ := line
      obtain ⟨rfl, -⟩ := List.cons.inj whole
      exact plain (by decide)
    | silent silent _ =>
      obtain ⟨⟨c, front, rfl, -, mark⟩, -⟩ := silent
      obtain ⟨rfl, -⟩ := List.cons.inj whole
      exact absurd mark (by decide)
  have said := lines.readStatements (text.length + 1) (Nat.lt_succ_self _)
  rw [Toml.read, String.toList_ofList]
  split
  · exact absurd rfl (noMark _)
  · rw [said]
    rfl

end Patrol.Toml
