import Patrol.Glob.Basic
import Patrol.Proofs.Regex.Context

/-! The paths that a glob accepts, as words of bytes; and globs that go on: with a path they accept
every path that begins with it. -/
namespace Patrol.Glob
variable {r s : ByteRegex} {u v : List UInt8}

/-- Bytes have no anchors. -/
theorem anchorless (r : ByteRegex) : r.anchorless = true := by
  induction r with
  | empty | letter _ => rfl
  | anchor a => exact nomatch a
  | seq r s ihr ihs | alt r s ihr ihs => exact Bool.and_eq_true_iff.2 ⟨ihr, ihs⟩
  | star r ih => exact ih

/-- So a match does not look around. -/
theorem matches_anywhere {p q : List UInt8} (h : r.Matches p u q) (p' q' : List UInt8) :
    r.Matches p' u q' := Regex.matches_anywhere (anchorless r) h p' q'

/-- `u` is a word of the expression. -/
def IsWord (r : ByteRegex) (u : List UInt8) : Prop := r.Matches [] u []

theorem isWord_seq_iff : IsWord (.seq r s) u ↔ ∃ v w, u = v ++ w ∧ IsWord r v ∧ IsWord s w := by
  refine Regex.matches_seq_iff.trans ⟨?_, ?_⟩
  · rintro ⟨v, w, rfl, first, second⟩
    exact ⟨v, w, rfl, matches_anywhere first .., matches_anywhere second ..⟩
  · rintro ⟨v, w, rfl, first, second⟩
    exact ⟨v, w, rfl, matches_anywhere first .., matches_anywhere second ..⟩

theorem isWord_alt_iff : IsWord (.alt r s) u ↔ IsWord r u ∨ IsWord s u := Regex.matches_alt_iff

theorem isWord_anything (u : List UInt8) : IsWord (anyOf anyByte) u := by
  induction u with
  | nil => exact .starNil ..
  | cons b u ih =>
    have member : anyByte.contains (Alphabet.code Empty b) = true := by
      have := b.toNat_lt
      simp [anyByte, CodeSet.range, CodeSet.contains, CodeSet.memFrom, Alphabet.code]
      omega
    exact .starCons (.letter [] _ member) (matches_anywhere ih ..)

theorem accepts_iff {g : Glob} {path : List Char} :
    g.accepts path = true ↔
      (g.named = false ∨ endsUpward path = false) ∧ IsWord g.regex (Text.bytesOf path) := by
  simp only [accepts, Bool.and_eq_true, Bool.not_eq_true', Bool.and_eq_false_iff,
    Regex.matchesAll_iff, IsWord]

/-! ## Globs that go on -/

mutual

/-- Whether what follows can be added to all that a part stands for. -/
def Token.goesOn : Token → Bool
  | .star | .trailing => true
  | .choice branches => allGoOn branches
  | _ => false

/-- Parts go on if the last of them does. -/
def listGoesOn : List Token → Bool
  | [] => false
  | [t] => t.goesOn
  | _ :: ts => listGoesOn ts

def allGoOn : List (List Token) → Bool
  | [] => false
  | [b] => listGoesOn b
  | b :: bs => listGoesOn b && allGoOn bs

end

mutual

theorem Token.not_isVoid (t : Token) (on : t.goesOn = true) : t.isVoid = false := by
  match t with
  | .star | .trailing => rfl
  | .choice bs => exact not_allVoid bs on

theorem not_isVoidList (ts : List Token) (on : listGoesOn ts = true) : isVoidList ts = false := by
  match ts with
  | [t] => simp [isVoidList, Token.not_isVoid t on]
  | t :: t' :: ts => simp [isVoidList.eq_2 t, not_isVoidList (t' :: ts) on]

theorem not_allVoid (bs : List (List Token)) (on : allGoOn bs = true) : allVoid bs = false := by
  match bs with
  | [b] => simp [allVoid, not_isVoidList b on]
  | b :: b' :: bs =>
    have both := Bool.and_eq_true_iff.1 on
    simp [allVoid.eq_2 b, not_isVoidList b both.1]

end

mutual

theorem Token.isWord_append (t : Token) (on : t.goesOn = true) {u : List UInt8}
    (h : IsWord (t.regex .strict) u) (v : List UInt8) : IsWord (t.regex .strict) (u ++ v) := by
  match t with
  | .star => exact isWord_anything _
  | .trailing =>
    obtain ⟨a, b, rfl, first, _⟩ := isWord_seq_iff.1 h
    exact isWord_seq_iff.2 ⟨a, b ++ v, by simp, first, isWord_anything _⟩
  | .choice bs => exact isWord_append_branches bs on h v

theorem isWord_append_list (ts : List Token) (on : listGoesOn ts = true) {u : List UInt8}
    (h : IsWord (tokensRegex .strict ts) u) (v : List UInt8) :
    IsWord (tokensRegex .strict ts) (u ++ v) := by
  match ts with
  | [t] => exact Token.isWord_append t on h v
  | t :: t' :: ts =>
    obtain ⟨a, b, rfl, first, second⟩ := isWord_seq_iff.1 h
    exact isWord_seq_iff.2
      ⟨a, b ++ v, by simp, first, isWord_append_list (t' :: ts) on second v⟩

/-- Void branches do not count, but a branch that goes on is not void. -/
theorem isWord_append_branches (bs : List (List Token)) (on : allGoOn bs = true) {u : List UInt8}
    (h : IsWord (branchesRegex .strict bs) u) (v : List UInt8) :
    IsWord (branchesRegex .strict bs) (u ++ v) := by
  match bs with
  | [b] =>
    have alone : branchesRegex .strict [b] = tokensRegex .strict b := by
      simp [branchesRegex, not_isVoidList b on, allVoid]
    rw [alone] at h ⊢
    exact isWord_append_list b on h v
  | b :: b' :: bs =>
    have both := Bool.and_eq_true_iff.1 on
    have choice : branchesRegex .strict (b :: b' :: bs) =
        .alt (tokensRegex .strict b) (branchesRegex .strict (b' :: bs)) := by
      rw [branchesRegex, not_isVoidList b both.1, not_allVoid (b' :: bs) both.2]
      rfl
    rw [choice, isWord_alt_iff] at h ⊢
    exact h.imp (isWord_append_list b both.1 · v) (isWord_append_branches (b' :: bs) both.2 · v)

end

/-- Whether a glob goes on behind all that it accepts: so do those with one star or two at the end,
and a double star alone. -/
def goesOn (g : Glob) : Bool :=
  match read .strict g.source.toList with
  | .ok [.leading] => true
  | .ok tokens => listGoesOn tokens
  | .error _ => false

/-- A glob is made of the parts that its text is read as. -/
theorem exists_tokens_of_compile {source : String} {g : Glob}
    (compiled : compile .strict source = .ok g) :
    ∃ tokens, read .strict source.toList = .ok tokens ∧
      g = ⟨source, globRegex .strict tokens, asksForName .strict tokens⟩ := by
  cases hr : read .strict source.toList with
  | error e => simp [compile, hr, bind, Except.bind] at compiled
  | ok tokens =>
    refine ⟨tokens, rfl, ?_⟩
    simpa [compile, hr, bind, Except.bind, pure, Except.pure, eq_comm] using compiled

/-- A glob that goes on accepts whatever begins with a path that it accepts, unless that ends with
the way up to a parent directory. -/
theorem accepts_append {source : String} {g : Glob} (compiled : compile .strict source = .ok g)
    (on : g.goesOn = true) {path : List Char} (accepted : g.accepts path = true)
    {more : List Char} (level : endsUpward (path ++ more) = false) :
    g.accepts (path ++ more) = true := by
  obtain ⟨tokens, tokensRead, rfl⟩ := exists_tokens_of_compile compiled
  refine accepts_iff.2 ⟨.inr level, ?_⟩
  have word := (accepts_iff.1 accepted).2
  rw [Text.bytesOf, List.flatMap_append]
  simp only [goesOn, tokensRead] at on
  split at on
  · next h => cases h; exact isWord_anything _
  · next ts one h =>
    cases h
    have same : globRegex .strict tokens = tokensRegex .strict tokens := by
      unfold globRegex; split
      · exact absurd rfl one
      · rfl
    rw [same] at word ⊢
    exact isWord_append_list tokens on word _
  · cases on

end Patrol.Glob
