import Patrol.Proofs.Pattern.Returned

/-! Expressions followed from a text to the text with carriage returns before its line feeds. -/
namespace Patrol.Pattern
open Patrol.Regex
open Text

variable {x y m : Position Char} {c : Char} {set : CodeSet}

/-- What is reached in the text with returns when `x` is reached in the text: some position; `x`, or
the one between the line feed in front of `x` and its return; `x` itself; or `x` and also, where a
line feed follows, the position between it and its return. -/
inductive Landing where
  | somewhere | behind | same | every
deriving DecidableEq

namespace Landing

def Holds : Landing → Position Char → Set (Position Char) → Prop
  | .somewhere, _, X => ∃ m, m ∈ X
  | .behind, x, X => returned x ∈ X ∨ ∃ w, ∃ m ∈ X, Between w x m
  | .same, x, X => returned x ∈ X
  | .every, x, X => returned x ∈ X ∧ ∀ y m, Between x y m → m ∈ X

def footing (l : Landing) : Footing Char where
  holds := l.Holds
  mono := by
    intro x X Y sub here
    cases l with
    | somewhere => obtain ⟨m, member⟩ := here; exact ⟨m, sub member⟩
    | behind =>
      obtain member | ⟨w, m, member, between⟩ := here
      · exact .inl (sub member)
      · exact .inr ⟨w, m, sub member, between⟩
    | same => exact sub here
    | every => exact ⟨sub here.1, fun y m between => sub (here.2 y m between)⟩

/-- The weaker one of two. -/
def weaker : Landing → Landing → Landing
  | .somewhere, _ | _, .somewhere => .somewhere
  | .behind, _ | _, .behind => .behind
  | .same, _ | _, .same => .same
  | .every, .every => .every

theorem weaker_comm (l k : Landing) : l.weaker k = k.weaker l := by
  cases l <;> cases k <;> rfl

theorem nonempty_of_holds {l : Landing} {X : Set (Position Char)} (here : l.footing.holds x X) :
    ∃ m, m ∈ X := by
  cases l with
  | somewhere => exact here
  | behind =>
    obtain member | ⟨w, m, member, -⟩ := here
    · exact ⟨_, member⟩
    · exact ⟨m, member⟩
  | same => exact ⟨_, here⟩
  | every => exact ⟨_, here.1⟩

theorem holds_weaker {l : Landing} (k : Landing) {X : Set (Position Char)}
    (here : l.footing.holds x X) : (l.weaker k).footing.holds x X := by
  have same : l = .every → Holds .same x X := by rintro rfl; exact here.1
  have behind : l = .every ∨ l = .same → Holds .behind x X := by
    rintro (rfl | rfl)
    · exact .inl here.1
    · exact .inl here
  have somewhere : Holds .somewhere x X := nonempty_of_holds here
  cases l <;> cases k <;> simp_all [weaker, footing]

/-- Behind a letter. A line feed is followed by its return alone, unless the return could be passed
before. -/
def letter? (set : CodeSet) : Landing → Option Landing
  | .every => some .same
  | .same =>
    if !set.contains '\n'.toNat then some .same
    else if set.contains '\r'.toNat then some .behind else none
  | .behind | .somewhere => none

/-- Behind any number of letters. -/
def letters? (set : CodeSet) : Landing → Option Landing
  | .every | .same =>
    if set.contains '\r'.toNat then some .every
    else if set.contains '\n'.toNat then none else some .same
  | .behind =>
    if set.contains '\r'.toNat && set.contains '\n'.toNat then some .every else none
  | .somewhere => none

def anchor? (a : Anchor) : Landing → Option Landing
  | .every => if a.steady then some .same else if a = .lineEnd false then some .somewhere else none
  | .same => if a.steady then some .same else none
  | .behind | .somewhere => none

end Landing

/-- What is reached behind an expression. -/
def landing? : Regex Anchor → Landing → Option Landing
  | .empty, l => some l
  | .letter set, l => l.letter? set
  | .anchor a, l => l.anchor? a
  | .seq r s, l => (landing? r l).bind (landing? s)
  | .alt r s, l =>
    match landing? r l, landing? s l with
    | some a, some b => some (a.weaker b)
    | _, _ => none
  | .star (.letter set), l => l.letters? set
  | .star _, _ => none

variable {l l' : Landing}

/-- A letter other than a line feed is the next one with returns too. -/
theorem spans_returned_of_ne (plain : c ≠ '\n') (next : x.Next c y)
    (member : set.contains c.toNat = true) :
    (Regex.letter set : Regex Anchor).Spans (returned x) (returned y) :=
  spans_letter_iff.2 ⟨c, returned_next plain next, member⟩

theorem Between.spans_enter (between : Between x y m) (member : set.contains '\r'.toNat = true) :
    (Regex.letter set : Regex Anchor).Spans (returned x) m :=
  spans_letter_iff.2 ⟨'\r', between.enter, member⟩

theorem Between.spans_leave (between : Between x y m) (member : set.contains '\n'.toNat = true) :
    (Regex.letter set : Regex Anchor).Spans m (returned y) :=
  spans_letter_iff.2 ⟨'\n', between.leave, member⟩

theorem follows_letter_landing (made : l.letter? set = some l') :
    Follows (.letter set : Regex Anchor) l.footing l'.footing := by
  intro x X here y spans
  obtain ⟨c, next, member⟩ := spans_letter_iff.1 spans
  change set.contains c.toNat = true at member
  cases l with
  | every =>
    cases made
    by_cases newline : c = '\n'
    · -- the letter alone passes the line feed, from behind the return
      subst newline
      obtain ⟨m, between⟩ := exists_between next
      exact ⟨m, here.2 y m between, between.spans_leave member⟩
    · exact ⟨returned x, here.1, spans_returned_of_ne newline next member⟩
  | same =>
    simp only [Landing.letter?] at made
    by_cases newline : c = '\n'
    · subst newline
      rw [member] at made
      cases cr : set.contains '\r'.toNat with
      | true =>
        -- the letter is spent on the return, and the line feed is not passed yet
        rw [cr] at made
        cases made
        obtain ⟨m, between⟩ := exists_between next
        exact .inr ⟨x, m, ⟨returned x, here, between.spans_enter cr⟩, between⟩
      | false => rw [cr] at made; cases made
    · have step : returned y ∈ (Regex.letter set : Regex Anchor).reached X :=
        ⟨returned x, here, spans_returned_of_ne newline next member⟩
      split at made
      · cases made; exact step
      · split at made
        · cases made; exact .inl step
        · cases made
  | behind | somewhere => cases made

section
variable {X : Set (Position Char)}

/-- Repeated letters get past a line feed with its return. -/
theorem follows_letters_same (sound : set.contains '\n'.toNat = true → set.contains '\r'.toNat = true) :
    Follows (.star (.letter set) : Regex Anchor) Landing.same.footing Landing.same.footing := by
  refine .star fun x X here y spans => ?_
  obtain ⟨c, next, member⟩ := spans_letter_iff.1 spans
  by_cases newline : c = '\n'
  · subst newline
    obtain ⟨m, between⟩ := exists_between next
    have enter := (between.spans_enter (sound member)).star
    have leave := (between.spans_leave member).star
    exact reached_star_star _ X ⟨m, ⟨returned x, here, enter⟩, leave⟩
  · exact ⟨returned x, here, (spans_returned_of_ne newline next member).star⟩

/-- Repeated letters with returns among them also lead between the next line feed and its return. -/
theorem holds_every_of_same (cr : set.contains '\r'.toNat = true)
    (here : Landing.same.Holds y ((Regex.star (.letter set) : Regex Anchor).reached X)) :
    Landing.every.Holds y ((Regex.star (.letter set) : Regex Anchor).reached X) :=
  ⟨here, fun _ _ between =>
    reached_star_star _ X ⟨returned y, here, (between.spans_enter cr).star⟩⟩

/-- Repeated letters with line feeds among them get past the one that is not passed yet. -/
theorem holds_same_of_behind (lf : set.contains '\n'.toNat = true) (here : Landing.behind.Holds x X) :
    Landing.same.Holds x ((Regex.star (.letter set) : Regex Anchor).reached X) := by
  obtain member | ⟨w, m, member, between⟩ := here
  · exact subset_reached_star _ X member
  · exact ⟨m, member, (between.spans_leave lf).star⟩

end

theorem follows_letters_landing (made : l.letters? set = some l') :
    Follows (.star (.letter set) : Regex Anchor) l.footing l'.footing := by
  have always : set.contains '\r'.toNat = true →
      Follows (.star (.letter set) : Regex Anchor) Landing.same.footing Landing.every.footing :=
    fun cr x X here y spans =>
      holds_every_of_same cr (follows_letters_same (fun _ => cr) x X here y spans)
  have fromSame : Landing.letters? set .same = some l' →
      Follows (.star (.letter set) : Regex Anchor) Landing.same.footing l'.footing := by
    intro made
    simp only [Landing.letters?] at made
    split at made
    · next cr => cases made; exact always cr
    · split at made
      · cases made
      · next noLf => cases made; exact follows_letters_same fun lf => absurd lf noLf
  cases l with
  | every => exact (fromSame made).weaken (fun here => here.1) id
  | same => exact fromSame made
  | behind =>
    simp only [Landing.letters?] at made
    split at made
    · next both =>
      cases made
      obtain ⟨cr, lf⟩ := Bool.and_eq_true_iff.1 both
      intro x X here y spans
      exact Landing.every.footing.mono (reached_star_star _ X)
        (always cr x _ (holds_same_of_behind lf here) y spans)
    · cases made
  | somewhere => cases made

theorem follows_anchor_landing {a : Anchor} (made : l.anchor? a = some l') :
    Follows (.anchor a) l.footing l'.footing := by
  have fromSame : a.steady = true →
      Follows (.anchor a) Landing.same.footing Landing.same.footing := by
    intro steady x X here y spans
    obtain ⟨rfl, holds⟩ := spans_anchor_iff.1 spans
    exact ⟨returned y, here, spans_anchor_iff.2 ⟨rfl, (a.holdsAt_returned steady y).trans holds⟩⟩
  cases l with
  | every =>
    simp only [Landing.anchor?] at made
    split at made
    · next steady => cases made; exact (fromSame steady).weaken (fun here => here.1) id
    · split at made
      · next lineEnd =>
        cases made
        subst lineEnd
        intro x X here y spans
        obtain ⟨rfl, holds⟩ := spans_anchor_iff.1 spans
        obtain last | ⟨z, newline⟩ := holdsAt_lineEnd_iff.1 holds
        · have atEnd : (Anchor.lineEnd false).holdsAt (returned y) = true :=
            holdsAt_lineEnd_iff.2 (.inl (withReturns_eq_nil_iff.2 last))
          exact ⟨_, returned y, here.1, spans_anchor_iff.2 ⟨rfl, atEnd⟩⟩
        · obtain ⟨m, between⟩ := exists_between newline
          have atEnd : (Anchor.lineEnd false).holdsAt m = true :=
            holdsAt_lineEnd_iff.2 (.inr ⟨_, between.leave⟩)
          exact ⟨m, m, here.2 z m between, spans_anchor_iff.2 ⟨rfl, atEnd⟩⟩
      · cases made
  | same =>
    simp only [Landing.anchor?] at made
    split at made
    · next steady => cases made; exact fromSame steady
    · cases made
  | behind | somewhere => cases made

theorem follows_landing {r : Regex Anchor} (made : landing? r l = some l') :
    Follows r l.footing l'.footing := by
  induction r generalizing l l' with
  | empty => cases made; exact .empty _
  | letter set => exact follows_letter_landing made
  | anchor a => exact follows_anchor_landing made
  | seq r s ihr ihs =>
    obtain ⟨k, first, second⟩ := Option.bind_eq_some_iff.1 made
    exact (ihr first).seq (ihs second)
  | alt r s ihr ihs =>
    simp only [landing?] at made
    split at made
    · next a b left right =>
      cases made
      refine .alt ((ihr left).weaken id (Landing.holds_weaker b)) ((ihs right).weaken id ?_)
      exact fun here => Landing.weaker_comm b a ▸ Landing.holds_weaker a here
    · cases made
  | star r _ =>
    cases r with
    | letter set => exact follows_letters_landing made
    | _ => cases made

end Patrol.Pattern
