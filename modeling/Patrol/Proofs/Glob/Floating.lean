import Patrol.Proofs.Glob.Parts

/-! Globs that float: they accept a path whether or not the directory at hand stands in front of it.
Those with a double star or a star in front do, unless what follows asks for the slash. -/
namespace Patrol.Glob
variable {tokens : List Token} {u : List UInt8} {front path : List Char}

/-! ## How words begin -/

theorem exists_slash_of_isWord_between (word : IsWord betweenRegex u) : ∃ v, u = 0x2F :: v := by
  rw [betweenRegex, isWord_alt_iff, isWord_slash_iff, isWord_seq_iff] at word
  obtain rfl | ⟨v, w, rfl, first, -⟩ := word
  · exact ⟨[], rfl⟩
  · exact ⟨w, by rw [isWord_slash_iff.1 first]; rfl⟩

/-- Whether the characters in front of a glob, or a slash, rule out that it begins with a text. -/
def cannotBegin : List Char → List Token → Bool
  | [], _ => false
  | _ :: _, [] => true
  | c :: cs, .literal d :: ts => c != d || cannotBegin cs ts
  | c :: _, .trailing :: _ | c :: _, .between :: _ => c != '/'
  | _, _ => false

theorem not_isWord_of_cannotBegin (ruledOut : cannotBegin front tokens = true) (path : List Char) :
    ¬IsWord (tokensRegex .strict tokens) (Text.bytesOf (front ++ path)) := by
  -- a word that begins with the byte of a slash is the text of one
  have slash {c : Char} {cs : List Char} {v : List UInt8} (same : Text.bytesOf (c :: cs) = 0x2F :: v) :
      c = '/' := by
    have same : Text.bytesOf (c :: cs) = Text.bytesOf ['/'] ++ v := same
    obtain ⟨back, path_eq, -⟩ := Text.bytesOf_eq_append_iff.1 same
    exact (List.cons.inj path_eq).1
  intro word
  induction front, tokens using cannotBegin.induct with
  | case1 => cases ruledOut
  | case2 c cs =>
    have size := congrArg List.length (isWord_empty_iff.1 word)
    have some := c.utf8Size_pos
    rw [List.cons_append, Text.bytesOf_cons, List.length_append, String.length_utf8EncodeChar] at size
    simp at size
    omega
  | case3 c cs d ts ih =>
    obtain ⟨v, w, path_eq, first, rest⟩ := isWord_cons_iff.1 word
    rw [isWord_literal_iff.1 first] at path_eq
    obtain ⟨back, whole, rfl⟩ := Text.bytesOf_eq_append_iff.1 path_eq
    obtain ⟨rfl, rfl⟩ := List.cons.inj whole
    exact ih (by simpa [cannotBegin] using ruledOut) rest
  | case4 c cs ts =>
    obtain ⟨v, w, path_eq, first, -⟩ := isWord_cons_iff.1 word
    obtain ⟨v, rfl⟩ := isWord_trailing_iff.1 first
    exact absurd (slash path_eq) (by simpa [cannotBegin] using ruledOut)
  | case5 c cs ts =>
    obtain ⟨v, w, path_eq, first, -⟩ := isWord_cons_iff.1 word
    obtain ⟨v, rfl⟩ := exists_slash_of_isWord_between first
    exact absurd (slash path_eq) (by simpa [cannotBegin] using ruledOut)
  | case6 cs ts => simp_all [cannotBegin]

/-! ## Parts that float -/

/-- Whether parts float: any directories or any text come first, and what follows can begin neither
with the directory at hand nor, behind any text, with the slash behind it. -/
def listFloats : List Token → Bool
  | [.leading] => true
  | .leading :: .star :: ts | .star :: ts => cannotBegin ['.', '/'] ts && cannotBegin ['/'] ts
  | .leading :: ts => cannotBegin ['.', '/'] ts
  | _ => false

theorem bytesOf_here (path : List Char) :
    Text.bytesOf ('.' :: '/' :: path) = 0x2E :: 0x2F :: Text.bytesOf path := rfl

theorem isWord_star_cons_iff : IsWord (tokensRegex .strict (.star :: tokens)) u ↔
    ∃ v w, u = v ++ w ∧ IsWord (tokensRegex .strict tokens) w := by
  rw [isWord_cons_iff]
  exact exists₂_congr fun v w => and_congr_right fun _ => and_iff_right (isWord_anything v)

theorem isWord_leading_cons_iff : IsWord (tokensRegex .strict (.leading :: tokens)) u ↔
    IsWord (tokensRegex .strict tokens) u ∨
      ∃ v w, u = v ++ 0x2F :: w ∧ IsWord (tokensRegex .strict tokens) w := by
  rw [isWord_cons_iff]
  constructor
  · rintro ⟨v, w, rfl, first, rest⟩
    obtain rfl | ⟨above, rfl⟩ := isWord_leading_iff.1 first
    · exact .inl rest
    · exact .inr ⟨above, w, by simp, rest⟩
  · rintro (word | ⟨v, w, rfl, word⟩)
    · exact ⟨[], u, rfl, isWord_leading_iff.2 (.inl rfl), word⟩
    · exact ⟨v ++ [0x2F], w, by simp, isWord_leading_iff.2 (.inr ⟨v, rfl⟩), word⟩

theorem isWord_star_here_iff (notHere : cannotBegin ['.', '/'] tokens = true)
    (notSlash : cannotBegin ['/'] tokens = true) :
    IsWord (tokensRegex .strict (.star :: tokens)) (Text.bytesOf ('.' :: '/' :: path)) ↔
      IsWord (tokensRegex .strict (.star :: tokens)) (Text.bytesOf path) := by
  rw [isWord_star_cons_iff, isWord_star_cons_iff, bytesOf_here]
  constructor
  · rintro ⟨v, w, path_eq, word⟩
    match v with
    | [] =>
      obtain rfl : w = Text.bytesOf ('.' :: '/' :: path) := path_eq.symm
      exact absurd word (not_isWord_of_cannotBegin notHere path)
    | [_] =>
      obtain rfl : w = Text.bytesOf ('/' :: path) := (List.cons.inj path_eq).2.symm
      exact absurd word (not_isWord_of_cannotBegin notSlash path)
    | _ :: _ :: v => exact ⟨v, w, (List.cons.inj (List.cons.inj path_eq).2).2, word⟩
  · rintro ⟨v, w, path_eq, word⟩
    exact ⟨0x2E :: 0x2F :: v, w, by rw [path_eq]; rfl, word⟩

theorem isWord_leading_here_iff (notHere : cannotBegin ['.', '/'] tokens = true) :
    IsWord (tokensRegex .strict (.leading :: tokens)) (Text.bytesOf ('.' :: '/' :: path)) ↔
      IsWord (tokensRegex .strict (.leading :: tokens)) (Text.bytesOf path) := by
  rw [isWord_leading_cons_iff, isWord_leading_cons_iff]
  constructor
  · rintro (word | ⟨v, w, path_eq, word⟩)
    · exact absurd word (not_isWord_of_cannotBegin notHere path)
    · rw [bytesOf_here] at path_eq
      match v with
      | [] => exact absurd (List.cons.inj path_eq).1 (by decide)
      | [_] =>
        obtain rfl : w = Text.bytesOf path :=
          (List.cons.inj (List.cons.inj path_eq).2).2.symm
        exact .inl word
      | _ :: _ :: v => exact .inr ⟨v, w, (List.cons.inj (List.cons.inj path_eq).2).2, word⟩
  · rintro (word | ⟨v, w, path_eq, word⟩)
    · exact .inr ⟨[0x2E], Text.bytesOf path, rfl, word⟩
    · exact .inr ⟨0x2E :: 0x2F :: v, w, by rw [bytesOf_here, path_eq]; rfl, word⟩

theorem isWord_here_iff_of_listFloats (floats : listFloats tokens = true) :
    IsWord (globRegex .strict tokens) (Text.bytesOf ('.' :: '/' :: path)) ↔
      IsWord (globRegex .strict tokens) (Text.bytesOf path) := by
  unfold listFloats at floats
  split at floats
  · exact iff_of_true (isWord_anything _) (isWord_anything _)
  · next ts =>
    obtain ⟨notHere, notSlash⟩ := Bool.and_eq_true_iff.1 floats
    -- any directories in front of any text are any text
    have absorbed {u : List UInt8} : IsWord (tokensRegex .strict (.leading :: .star :: ts)) u ↔
        IsWord (tokensRegex .strict (.star :: ts)) u := by
      rw [isWord_leading_cons_iff, isWord_star_cons_iff]
      refine or_iff_left_of_imp ?_
      rintro ⟨v, w, rfl, word⟩
      rw [isWord_star_cons_iff] at word
      obtain ⟨a, b, rfl, word⟩ := word
      exact ⟨v ++ 0x2F :: a, b, by simp, word⟩
    rw [globRegex_eq (by simp), absorbed, absorbed]
    exact isWord_star_here_iff notHere notSlash
  · next ts =>
    obtain ⟨notHere, notSlash⟩ := Bool.and_eq_true_iff.1 floats
    rw [globRegex_eq (by simp)]
    exact isWord_star_here_iff notHere notSlash
  · next ts more _ =>
    rw [globRegex_eq (by simpa using more)]
    exact isWord_leading_here_iff floats
  · cases floats

/-! ## Globs that float -/

/-- Whether a glob accepts paths with and without the directory at hand in front of them, as its text
tells. -/
def floats (g : Glob) : Bool :=
  match read .strict g.source.toList with
  | .ok tokens => listFloats tokens
  | .error _ => false

theorem endsUpward_iff : endsUpward path = true ↔ path = ['.', '.'] ∨ ['/', '.', '.'] <:+ path := by
  unfold endsUpward
  split
  · exact iff_of_true rfl (.inl rfl)
  · next other => rw [List.isSuffixOf_iff_suffix, or_iff_right (other ·)]

theorem endsUpward_here (path : List Char) : endsUpward ('.' :: '/' :: path) = endsUpward path := by
  rw [Bool.eq_iff_iff, endsUpward_iff, endsUpward_iff]
  simp [List.suffix_cons_iff, eq_comm]

theorem accepts_here {source : String} {g : Glob} (compiled : compile .strict source = .ok g)
    (floats : g.floats = true) (path : List Char) :
    g.accepts ('.' :: '/' :: path) = g.accepts path := by
  obtain ⟨tokens, tokensRead, rfl⟩ := exists_tokens_of_compile compiled
  simp only [Glob.floats, tokensRead] at floats
  rw [Bool.eq_iff_iff, accepts_iff, accepts_iff, endsUpward_here]
  exact and_congr_right fun _ => isWord_here_iff_of_listFloats floats

example : ["**/generated/**", "*.js", "**/*.test.ts", "src/**"].map
      (fun source => (compile .strict source).toOption.map floats) =
    [some true, some true, some true, some false] := by decide

end Patrol.Glob
