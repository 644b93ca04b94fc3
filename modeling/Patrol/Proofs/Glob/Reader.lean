import Patrol.Proofs.Glob.Parts

/-! Reading the globs of all that is below directories of a name. A name has no mark in it, so its
characters stand for themselves. -/
namespace Patrol.Glob

/-- The characters that mean something in a glob, and those that separate names. -/
def marks : List Char := ['/', '\\', '*', '?', '[', ']', '\x7b', '\x7d', ',']

variable {style : Style} {inChoice : Bool} {fuel : Nat} {before : Option Char} {tokens : List Token}
  {c : Char} {cs name : List Char}

/-- A character that is no mark stands for itself, and so does a slash. -/
theorem readTokens_plain (plain : c = '/' ∨ c ∉ marks) :
    readTokens style inChoice (fuel + 1) before tokens (c :: cs) =
      readTokens style inChoice fuel (some c) (.literal c :: tokens) cs := by
  rw [readTokens.eq_def]
  simp only
  split
  case h_8 => rfl
  all_goals exact absurd plain (by decide)

/-- A name is read character by character. -/
theorem readTokens_name (plain : ∀ c ∈ name, c ∉ marks) (fuel : Nat) (before : Option Char)
    (tokens : List Token) (cs : List Char) :
    ∃ last, readTokens style inChoice (name.length + fuel) before tokens (name ++ cs) =
      readTokens style inChoice fuel last ((name.map Token.literal).reverse ++ tokens) cs := by
  induction name generalizing before tokens with
  | nil => exact ⟨before, by simp⟩
  | cons c name ih =>
    obtain ⟨first, rest⟩ := List.forall_mem_cons.1 plain
    obtain ⟨last, step⟩ := ih rest (some c) (.literal c :: tokens)
    refine ⟨last, ?_⟩
    have size : (c :: name).length + fuel = name.length + fuel + 1 := by
      rw [List.length_cons]
      omega
    rw [size, List.cons_append, readTokens_plain (.inr first), step]
    simp

/-- A double star in front takes the slash behind it. -/
theorem readTokens_leading :
    readTokens style inChoice (fuel + 1) none [] ('*' :: '*' :: '/' :: cs) =
      readTokens style inChoice fuel (some '/') [.leading] cs := by
  simp [readTokens, readDoubleStar]

/-- A double star at the end takes the slash in front of it. -/
theorem readTokens_trailing :
    readTokens style false (fuel + 3) before tokens ['/', '*', '*'] =
      .ok ((.trailing :: tokens).reverse, []) := by
  rw [readTokens_plain (.inl rfl)]
  simp [readTokens, readDoubleStar]

/-- The text of the glob for what is below directories of a name is read as that glob. -/
theorem read_below (plain : ∀ c ∈ name, c ∉ marks) :
    read style (['*', '*', '/'] ++ name ++ ['/', '*', '*']) = .ok (belowTokens name) := by
  -- one call for the double star in front, one for each character, and three for what is behind them
  obtain ⟨fuel, enough⟩ : ∃ fuel, 2 * (['*', '*', '/'] ++ name ++ ['/', '*', '*']).length + 2 =
      name.length + (fuel + 3) + 1 := ⟨name.length + 10, by simp; omega⟩
  obtain ⟨last, named⟩ : ∃ last, readTokens style false (name.length + (fuel + 3)) (some '/')
      [.leading] (name ++ ['/', '*', '*']) = _ := readTokens_name plain (fuel + 3) _ _ _
  have whole : ['*', '*', '/'] ++ name ++ ['/', '*', '*'] =
      '*' :: '*' :: '/' :: (name ++ ['/', '*', '*']) := rfl
  rw [read, enough, whole, readTokens_leading, named, readTokens_trailing]
  simp [belowTokens, bind, Except.bind, pure, Except.pure]

/-- Such a glob asks for more than a name. -/
theorem asksForName_below : asksForName style (belowTokens name) = false := by
  have bareName : isBareName (belowTokens name) = false := by
    simp [isBareName, belowTokens, isLiteralOtherThan]
  have bareExtension : isBareExtension style (belowTokens name) = false := by
    cases name <;> rfl
  have extension : hasExtension (belowTokens name) = false := by
    simp [hasExtension, belowTokens, isLiteralOtherThan]
  rw [asksForName, bareName, bareExtension, extension]
  rfl

theorem compile_below (plain : ∀ c ∈ name, c ∉ marks) :
    compile .strict (below name).source = .ok (below name) := by
  have text : (below name).source.toList = ['*', '*', '/'] ++ name ++ ['/', '*', '*'] := by
    rw [below, String.toList_ofList]
  rw [compile, text, read_below plain]
  simp only [bind, Except.bind, pure, Except.pure, asksForName_below]
  rfl

end Patrol.Glob
