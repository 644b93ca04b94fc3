import Patrol.Text.Split
import Patrol.Total

/-! Cutting texts that are put together at a mark. -/
namespace Patrol.Text

theorem splitAtFirst_append {mark : Char} {front : List Char} (unmarked : mark ∉ front)
    (back : List Char) : splitAtFirst [mark] (front ++ mark :: back) = some (front, back) := by
  induction front with
  | nil => simp [splitAtFirst]
  | cons c front ih =>
    obtain ⟨other, unmarked⟩ := not_or.1 (mt List.mem_cons.2 unmarked)
    simp [splitAtFirst, other, ih unmarked]

section
variable {isMark : Char → Bool} {c : Char}

theorem splitAtLast_eq_none {cs : List Char} (unmarked : ∀ c ∈ cs, isMark c = false) :
    splitAtLast isMark cs = none := by
  induction cs with
  | nil => rfl
  | cons c cs ih =>
    simp [splitAtLast, ih fun d hd => unmarked d (.tail c hd), unmarked c (.head cs)]

theorem splitAtLast_append (marked : isMark c = true) (front : List Char) {back : List Char}
    (unmarked : ∀ c ∈ back, isMark c = false) :
    splitAtLast isMark (front ++ c :: back) = some (front, back) := by
  induction front with
  | nil => simp [splitAtLast, splitAtLast_eq_none unmarked, marked]
  | cons d front ih => simp [splitAtLast, ih]

/-- A text has no mark, or there is a last one. -/
theorem unmarked_or_last_mark (isMark : Char → Bool) (cs : List Char) :
    (∀ c ∈ cs, isMark c = false) ∨
      ∃ front c back, cs = front ++ c :: back ∧ isMark c = true ∧
        ∀ d ∈ back, isMark d = false := by
  induction cs with
  | nil => exact .inl nofun
  | cons c cs ih =>
    obtain unmarked | ⟨front, d, back, rfl, marked, unmarked⟩ := ih
    · cases hc : isMark c with
      | false => exact .inl (List.forall_mem_cons.2 ⟨hc, unmarked⟩)
      | true => exact .inr ⟨[], c, cs, rfl, hc, unmarked⟩
    · exact .inr ⟨c :: front, d, back, rfl, marked, unmarked⟩

theorem splitAtLast_eq_some_iff {cs front back : List Char} :
    splitAtLast isMark cs = some (front, back) ↔
      ∃ c, cs = front ++ c :: back ∧ isMark c = true ∧ ∀ d ∈ back, isMark d = false := by
  constructor
  · intro split
    obtain unmarked | ⟨a, c, b, rfl, marked, unmarked⟩ := unmarked_or_last_mark isMark cs
    · rw [splitAtLast_eq_none unmarked] at split
      cases split
    · rw [splitAtLast_append marked a unmarked] at split
      cases split
      exact ⟨c, rfl, marked, unmarked⟩
  · rintro ⟨c, rfl, marked, unmarked⟩
    exact splitAtLast_append marked front unmarked

theorem afterLast_eq_self {cs : List Char} (unmarked : ∀ c ∈ cs, isMark c = false) :
    afterLast isMark cs = cs := by
  rw [afterLast, splitAtLast_eq_none unmarked]

theorem afterLast_append (marked : isMark c = true) (front back : List Char) :
    afterLast isMark (front ++ c :: back) = afterLast isMark back := by
  obtain unmarked | ⟨a, d, b, rfl, hd, unmarked⟩ := unmarked_or_last_mark isMark back
  · rw [afterLast, splitAtLast_append marked front unmarked, afterLast_eq_self unmarked]
  · have whole : front ++ c :: (a ++ d :: b) = (front ++ c :: a) ++ d :: b := by simp
    rw [whole, afterLast, afterLast, splitAtLast_append hd _ unmarked,
      splitAtLast_append hd _ unmarked]

/-- What stands behind the last mark has none, and in front of it there is nothing, or all up to a mark. -/
theorem afterLast_eq_iff {cs back : List Char} :
    afterLast isMark cs = back ↔
      ∃ front, cs = front ++ back ∧ (∀ c ∈ front.getLast?, isMark c = true) ∧
        ∀ c ∈ back, isMark c = false := by
  constructor
  · rintro rfl
    obtain unmarked | ⟨front, c, back, rfl, marked, unmarked⟩ := unmarked_or_last_mark isMark cs
    · rw [afterLast_eq_self unmarked]
      exact ⟨[], rfl, nofun, unmarked⟩
    · rw [afterLast_append marked, afterLast_eq_self unmarked]
      exact ⟨front ++ [c], by simp, by simpa using marked, unmarked⟩
  · rintro ⟨front, rfl, marked, unmarked⟩
    obtain rfl | ⟨above, c, rfl⟩ := List.eq_nil_or_concat front
    · exact afterLast_eq_self unmarked
    · rw [List.concat_eq_append, List.append_assoc, List.singleton_append,
        afterLast_append (marked c (by simp)), afterLast_eq_self unmarked]

/-- What stands behind the last mark is the same if only marks are exchanged for marks. -/
theorem afterLast_map {f : Char → Char} (marks : ∀ c, isMark (f c) = isMark c)
    (others : ∀ c, isMark c = false → f c = c) (cs : List Char) :
    afterLast isMark (cs.map f) = afterLast isMark cs := by
  have same (back : List Char) (unmarked : ∀ c ∈ back, isMark c = false) : back.map f = back :=
    (List.map_congr_left fun c hc => others c (unmarked c hc)).trans (List.map_id back)
  obtain unmarked | ⟨front, c, back, rfl, marked, unmarked⟩ := unmarked_or_last_mark isMark cs
  · rw [same cs unmarked]
  · rw [List.map_append, List.map_cons, afterLast_append ((marks c).trans marked),
      afterLast_append marked, same back unmarked]

end

/-! Between all marks. -/

section
variable {mark : Char}

theorem splitOn_ne_nil (cs : List Char) : splitOn mark cs ≠ [] := by
  cases cs with
  | nil => simp [splitOn]
  | cons c cs => simp only [splitOn]; split <;> (try split) <;> simp

theorem splitOn_eq_singleton {cs : List Char} (unmarked : mark ∉ cs) : splitOn mark cs = [cs] := by
  induction cs with
  | nil => rfl
  | cons c cs ih =>
    simp only [List.mem_cons, not_or] at unmarked
    simp [splitOn, Ne.symm unmarked.1, ih unmarked.2]

theorem splitOn_append (front back : List Char) :
    splitOn mark (front ++ mark :: back) = splitOn mark front ++ splitOn mark back := by
  induction front with
  | nil => simp [splitOn]
  | cons c front ih =>
    simp only [List.cons_append, splitOn]
    split
    · rw [ih]; rfl
    · rw [ih]
      cases hs : splitOn mark front with
      | nil => exact absurd hs (splitOn_ne_nil front)
      | cons part parts => rfl

/-- There is one part more than there are marks. -/
theorem length_splitOn (cs : List Char) : (splitOn mark cs).length = cs.count mark + 1 := by
  induction cs with
  | nil => rfl
  | cons c cs ih =>
    rw [splitOn, List.count_cons]
    split
    · rw [List.length_cons, ih]
    · cases parts : splitOn mark cs with
      | nil => exact absurd parts (splitOn_ne_nil cs)
      | cons part parts' =>
        rw [parts] at ih
        simpa using ih

/-- Lines that each end with the mark are its parts; then comes what stands behind them. -/
theorem splitOn_lines {lines : List (List Char)} (unmarked : ∀ line ∈ lines, mark ∉ line)
    (back : List Char) :
    splitOn mark (lines.flatMap (· ++ [mark]) ++ back) = lines ++ splitOn mark back := by
  induction lines with
  | nil => rfl
  | cons line lines ih =>
    have others := ih fun other member => unmarked other (.tail line member)
    rw [List.flatMap_cons, List.append_assoc, List.append_assoc, List.singleton_append,
      splitOn_append, splitOn_eq_singleton (unmarked line (.head lines)), others]
    rfl

/-- Behind texts that each end with the mark, with marks in them or not, comes an empty part. -/
theorem splitOn_flatMap (mark : Char) (texts : List (List Char)) :
    ∃ parts, splitOn mark (texts.flatMap (· ++ [mark])) = parts ++ [[]] ∧
      parts.length = total (·.count mark) texts + texts.length := by
  induction texts with
  | nil => exact ⟨[], rfl, rfl⟩
  | cons text texts ih =>
    obtain ⟨parts, all, number⟩ := ih
    refine ⟨splitOn mark text ++ parts, ?_, ?_⟩
    · rw [List.flatMap_cons, List.append_assoc, List.singleton_append, splitOn_append, all,
        List.append_assoc]
    · rw [List.length_append, length_splitOn, number, total_cons, List.length_cons]
      omega

/-- The parts in front of the last one are those between marks, or between the beginning and a mark. -/
theorem mem_dropLast_splitOn_iff {cs part : List Char} :
    part ∈ (splitOn mark cs).dropLast ↔
      mark ∉ part ∧ ∃ front back, cs = front ++ part ++ mark :: back ∧
        (front = [] ∨ ∃ above, front = above ++ [mark]) := by
  constructor
  · intro member
    induction size : cs.length using Nat.strongRecOn generalizing cs with
    | _ n shorter =>
      by_cases marked : mark ∈ cs
      · obtain ⟨first, rest, rfl, unmarked⟩ := List.eq_append_cons_of_mem marked
        rw [splitOn_append, splitOn_eq_singleton unmarked, List.singleton_append,
          List.dropLast_cons_of_ne_nil (splitOn_ne_nil rest)] at member
        obtain rfl | member := List.mem_cons.1 member
        · exact ⟨unmarked, [], rest, rfl, .inl rfl⟩
        · have less : rest.length < n := by
            simp only [List.length_append, List.length_cons] at size
            omega
          obtain ⟨plain, front, back, rfl, place⟩ := shorter rest.length less member rfl
          refine ⟨plain, first ++ mark :: front, back, by simp, .inr ?_⟩
          obtain rfl | ⟨above, rfl⟩ := place
          · exact ⟨first, rfl⟩
          · exact ⟨first ++ mark :: above, by simp⟩
      · rw [splitOn_eq_singleton marked] at member
        cases member
  · rintro ⟨plain, front, back, rfl, place⟩
    have parts : splitOn mark (part ++ mark :: back) = part :: splitOn mark back := by
      rw [splitOn_append, splitOn_eq_singleton plain]
      rfl
    have inFront : part ∈ (part :: splitOn mark back).dropLast := by
      rw [List.dropLast_cons_of_ne_nil (splitOn_ne_nil back)]
      exact .head _
    obtain rfl | ⟨above, rfl⟩ := place
    · simpa only [List.nil_append, parts] using inFront
    · have whole : above ++ [mark] ++ part ++ mark :: back =
          above ++ mark :: (part ++ mark :: back) := by simp
      rw [whole, splitOn_append, parts, List.dropLast_append_of_ne_nil (List.cons_ne_nil _ _)]
      exact List.mem_append_right _ inFront

end
end Patrol.Text
