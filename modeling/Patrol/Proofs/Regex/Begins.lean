import Patrol.Proofs.Regex.Span

/-! Expressions held against a text from one position on. Their parts are taken off one by one from
the front, and with each part the position moves on by what the part matches. -/
namespace Patrol.Regex
variable {π α : Type} [Alphabet π α] {r s t : Regex π} {x : Position α} {p q : List α}
  {set : CodeSet} {a : π}

/-- A match begins at the position. -/
def BeginsAt (r : Regex π) (x : Position α) : Prop := ∃ y, r.Spans x y

theorem occurs_iff_beginsAt {text : List α} :
    r.Occurs text ↔ ∃ p q, text = p ++ q ∧ r.BeginsAt ⟨p, q⟩ := by
  rw [occurs_iff_spans]
  constructor
  · rintro ⟨x, y, rfl, spans⟩
    exact ⟨x.before, x.after, rfl, y, spans⟩
  · rintro ⟨p, q, rfl, y, spans⟩
    exact ⟨⟨p, q⟩, y, rfl, spans⟩

/-- There is a next position where the text goes on. -/
theorem exists_next_iff {P : α → Position α → Prop} :
    (∃ y c, (⟨p, q⟩ : Position α).Next c y ∧ P c y) ↔
      ∃ c rest, q = c :: rest ∧ P c ⟨p ++ [c], rest⟩ := by
  constructor
  · rintro ⟨y, c, ⟨after, before⟩, holds⟩
    exact ⟨c, y.after, after, before ▸ holds⟩
  · rintro ⟨c, rest, rfl, holds⟩
    exact ⟨_, c, ⟨rfl, rfl⟩, holds⟩

theorem beginsAt_letter_iff :
    (Regex.letter set : Regex π).BeginsAt ⟨p, q⟩ ↔
      ∃ c rest, q = c :: rest ∧ set.contains (Alphabet.code π c) = true := by
  simp only [BeginsAt, spans_letter_iff, exists_next_iff]

theorem beginsAt_anchor_iff :
    (Regex.anchor a).BeginsAt x ↔ Alphabet.holds a x.before.getLast? x.after.head? = true := by
  simp only [BeginsAt, spans_anchor_iff, exists_eq_left]

theorem beginsAt_alt_iff : (Regex.alt r s).BeginsAt x ↔ r.BeginsAt x ∨ s.BeginsAt x := by
  simp only [BeginsAt, spans_alt_iff, exists_or]

/-! ## One part after the other -/

theorem beginsAt_seq_iff : (Regex.seq r s).BeginsAt x ↔ ∃ z, r.Spans x z ∧ s.BeginsAt z := by
  unfold BeginsAt
  constructor
  · rintro ⟨y, spans⟩
    obtain ⟨z, first, second⟩ := spans_seq_iff.1 spans
    exact ⟨z, first, y, second⟩
  · rintro ⟨z, first, y, second⟩
    exact ⟨y, spans_seq_iff.2 ⟨z, first, second⟩⟩

theorem beginsAt_letter_seq_iff :
    (Regex.seq (.letter set) s).BeginsAt ⟨p, q⟩ ↔
      ∃ c rest, q = c :: rest ∧ set.contains (Alphabet.code π c) = true ∧
        s.BeginsAt ⟨p ++ [c], rest⟩ := by
  simp only [beginsAt_seq_iff, spans_letter_iff, ← exists_and_right, and_assoc, exists_next_iff]

theorem beginsAt_anchor_seq_iff :
    (Regex.seq (.anchor a) s).BeginsAt x ↔
      Alphabet.holds a x.before.getLast? x.after.head? = true ∧ s.BeginsAt x := by
  simp only [beginsAt_seq_iff, spans_anchor_iff, and_assoc, exists_eq_left]

theorem beginsAt_alt_seq_iff :
    (Regex.seq (.alt r s) t).BeginsAt x ↔
      (Regex.seq r t).BeginsAt x ∨ (Regex.seq s t).BeginsAt x := by
  simp only [beginsAt_seq_iff, spans_alt_iff, or_and_right, exists_or]

/-! ## Repeated letters -/

/-- Repeated letters match as many letters of the set as one likes. -/
theorem spans_letters_iff {y : Position α} :
    (Regex.star (.letter set) : Regex π).Spans ⟨p, q⟩ y ↔
      ∃ u rest, q = u ++ rest ∧ (∀ c ∈ u, set.contains (Alphabet.code π c) = true) ∧
        y = ⟨p ++ u, rest⟩ := by
  rw [spans_star_iff]
  constructor
  · intro way
    induction way with
    | refl => exact ⟨[], q, rfl, nofun, by rw [List.append_nil]⟩
    | @tail _ z _ last ih =>
      obtain ⟨u, _, rfl, members, rfl⟩ := ih
      obtain ⟨c, next, member⟩ := spans_letter_iff.1 last
      obtain ⟨p', rest⟩ := z
      simp only [Position.Next] at next
      obtain ⟨rfl, rfl⟩ := next
      refine ⟨u ++ [c], rest, by simp, ?_, by rw [List.append_assoc]⟩
      intro d inside
      obtain inside | last := List.mem_append.1 inside
      · exact members d inside
      · rw [List.mem_singleton.1 last]
        exact member
  · rintro ⟨u, rest, rfl, members, rfl⟩
    induction u generalizing p with
    | nil => rw [List.append_nil]; exact .refl
    | cons c u ih =>
      obtain ⟨first, others⟩ := List.forall_mem_cons.1 members
      have step : (Regex.letter set : Regex π).Spans ⟨p, c :: (u ++ rest)⟩ ⟨p ++ [c], u ++ rest⟩ :=
        spans_letter_iff.2 ⟨c, ⟨rfl, rfl⟩, first⟩
      have onward := ih others (p := p ++ [c])
      rw [List.append_assoc] at onward
      exact .head step onward

theorem beginsAt_letters_seq_iff :
    (Regex.seq (.star (.letter set)) s).BeginsAt ⟨p, q⟩ ↔
      ∃ u rest, q = u ++ rest ∧ (∀ c ∈ u, set.contains (Alphabet.code π c) = true) ∧
        s.BeginsAt ⟨p ++ u, rest⟩ := by
  rw [beginsAt_seq_iff]
  constructor
  · rintro ⟨z, letters, begins⟩
    obtain ⟨u, rest, rfl, members, rfl⟩ := spans_letters_iff.1 letters
    exact ⟨u, rest, rfl, members, begins⟩
  · rintro ⟨u, rest, rfl, members, begins⟩
    exact ⟨_, spans_letters_iff.2 ⟨u, rest, rfl, members, rfl⟩, begins⟩

/-- No letter is one way to repeat letters. -/
theorem beginsAt_star (r : Regex π) (x : Position α) : (Regex.star r).BeginsAt x :=
  ⟨x, spans_star_iff.2 .refl⟩

theorem beginsAt_empty_seq_iff : (Regex.seq .empty s).BeginsAt x ↔ s.BeginsAt x := by
  simp only [beginsAt_seq_iff, spans_empty_iff, exists_eq_left]

theorem beginsAt_seq_assoc_iff :
    (Regex.seq (.seq r s) t).BeginsAt x ↔ (Regex.seq r (.seq s t)).BeginsAt x := by
  simp only [beginsAt_seq_iff, spans_seq_iff]
  grind

end Patrol.Regex
