import Patrol.Proofs.Pattern.Landing

/-! Expressions that occur in a text if and only if they occur in it with carriage returns before its
line feeds. Whether an expression is one of them is worked out from its parts: `landing?` follows it
from the text to the text with returns, `origin?` the other way. -/
namespace Patrol.Pattern
open Patrol.Regex
open Text

variable {c : Char} {set : CodeSet}

/-! ## From the text with returns to the text -/

/-- What is reached in the text when `z` is reached in the text with returns: a position next to
`z`; or the position `z` itself, or the one in front of the line feed and the return that `z` is
between. -/
inductive Origin where
  | nearby | place
deriving DecidableEq

namespace Origin

def Holds : Origin → Position Char → Set (Position Char) → Prop
  | .nearby, z, X => ∃ x ∈ X, z = returned x ∨ (∃ y, Between x y z) ∨ ∃ w, Between w x z
  | .place, z, X => ∃ x ∈ X, z = returned x ∨ ∃ y, Between x y z

def footing (o : Origin) : Footing Char where
  holds := o.Holds
  mono := by
    intro z X Y sub here
    cases o with
    | nearby => obtain ⟨x, member, way⟩ := here; exact ⟨x, sub member, way⟩
    | place => obtain ⟨x, member, way⟩ := here; exact ⟨x, sub member, way⟩

theorem nearby_of_place {z : Position Char} {X : Set (Position Char)}
    (here : place.footing.holds z X) : nearby.footing.holds z X := by
  obtain ⟨x, member, rfl | between⟩ := here
  · exact ⟨x, member, .inl rfl⟩
  · exact ⟨x, member, .inr (.inl between)⟩

theorem holds_nearby {o : Origin} {z : Position Char} {X : Set (Position Char)}
    (here : o.footing.holds z X) : nearby.footing.holds z X := by
  cases o with
  | nearby => exact here
  | place => exact nearby_of_place here

/-- The weaker one of two. -/
def weaker : Origin → Origin → Origin
  | .place, .place => .place
  | _, _ => .nearby

theorem weaker_comm (o k : Origin) : o.weaker k = k.weaker o := by
  cases o <;> cases k <;> rfl

theorem holds_weaker {o : Origin} (k : Origin) {z : Position Char} {X : Set (Position Char)}
    (here : o.footing.holds z X) : (o.weaker k).footing.holds z X := by
  cases o with
  | nearby => exact here
  | place =>
    cases k with
    | nearby => exact nearby_of_place here
    | place => exact here

/-- Behind a letter. Neither a return nor a line feed can be passed by a letter that is none of
them, so nothing is left open behind it. -/
def letter? (set : CodeSet) (o : Origin) : Option Origin :=
  if !set.contains '\n'.toNat && !set.contains '\r'.toNat then some .place
  else if o = .place && (set.contains '\n'.toNat || !set.contains '\r'.toNat) then some .nearby
  else none

def anchor? (a : Anchor) (o : Origin) : Option Origin :=
  if a.steady then some .place
  else if o = .place && a = .lineEnd false then some .place else none

end Origin

/-- What is reached behind an expression. Returns that repeated letters pass can be left out. -/
def origin? : Regex Anchor → Origin → Option Origin
  | .empty, o => some o
  | .letter set, o => o.letter? set
  | .anchor a, o => o.anchor? a
  | .seq r s, o => (origin? r o).bind (origin? s)
  | .alt r s, o =>
    match origin? r o, origin? s o with
    | some a, some b => some (a.weaker b)
    | _, _ => none
  | .star (.letter _), o => some o
  | .star _, _ => none

variable {o o' : Origin}

theorem follows_letter_origin (made : o.letter? set = some o') :
    Follows (.letter set : Regex Anchor) o.footing o'.footing := by
  intro z X here z' spans
  obtain ⟨c, next, member⟩ := spans_letter_iff.1 spans
  change set.contains c.toNat = true at member
  have step {x y : Position Char} (reached : x ∈ X) (next : x.Next c y) :
      y ∈ (Regex.letter set : Regex Anchor).reached X :=
    ⟨x, reached, spans_letter_iff.2 ⟨c, next, member⟩⟩
  simp only [Origin.letter?] at made
  split at made
  · next neither =>
    cases made
    simp only [Bool.and_eq_true, Bool.not_eq_true'] at neither
    have noLf : c ≠ '\n' := fun same => by rw [same, neither.1] at member; cases member
    have noCr : c ≠ '\r' := fun same => by rw [same, neither.2] at member; cases member
    obtain ⟨x, reached, rfl | ⟨y, between⟩ | ⟨w, between⟩⟩ := Origin.holds_nearby here
    · obtain ⟨-, y, ahead, rfl⟩ | ⟨cr, -⟩ := next_returned_cases next
      · exact ⟨y, step reached ahead, .inl rfl⟩
      · exact absurd cr noCr
    · exact absurd (between.leave.unique next).1 noLf
    · exact absurd (between.leave.unique next).1 noLf
  · split at made
    · next both =>
      cases made
      simp only [Bool.and_eq_true, decide_eq_true_iff, Bool.or_eq_true, Bool.not_eq_true'] at both
      obtain ⟨rfl, lf⟩ := both
      obtain ⟨x, reached, rfl | ⟨y, between⟩⟩ := here
      · obtain ⟨-, y, ahead, rfl⟩ | ⟨rfl, y, between⟩ := next_returned_cases next
        · exact ⟨y, step reached ahead, .inl rfl⟩
        · have lf : set.contains '\n'.toNat = true := by
            obtain lf | noCr := lf
            · exact lf
            · rw [noCr] at member; cases member
          exact ⟨y, ⟨x, reached, spans_letter_iff.2 ⟨'\n', between.newline, lf⟩⟩,
            .inr (.inr ⟨x, between⟩)⟩
      · obtain ⟨rfl, rfl⟩ := between.leave.unique next
        exact ⟨y, step reached between.newline, .inl rfl⟩
    · cases made

theorem follows_letters_origin (set : CodeSet) (o : Origin) :
    Follows (.star (.letter set) : Regex Anchor) o.footing o.footing := by
  refine .star fun z X here z' spans => ?_
  obtain ⟨c, next, member⟩ := spans_letter_iff.1 spans
  change set.contains c.toNat = true at member
  have stay {x : Position Char} (reached : x ∈ X) :
      x ∈ (Regex.star (.letter set) : Regex Anchor).reached X := subset_reached_star _ X reached
  have step {x y : Position Char} (reached : x ∈ X) (next : x.Next c y) :
      y ∈ (Regex.star (.letter set) : Regex Anchor).reached X :=
    ⟨x, reached, (spans_letter_iff.2 ⟨c, next, member⟩).star⟩
  have onward {x : Position Char} (reached : x ∈ X) (stands : z = returned x ∨ ∃ y, Between x y z) :
      Origin.place.Holds z' ((Regex.star (.letter set) : Regex Anchor).reached X) := by
    obtain rfl | ⟨y, between⟩ := stands
    · obtain ⟨-, y, ahead, rfl⟩ | ⟨-, y, between⟩ := next_returned_cases next
      · exact ⟨y, step reached ahead, .inl rfl⟩
      · exact ⟨x, stay reached, .inr ⟨y, between⟩⟩
    · obtain ⟨rfl, rfl⟩ := between.leave.unique next
      exact ⟨y, step reached between.newline, .inl rfl⟩
  cases o with
  | place =>
    obtain ⟨x, reached, stands⟩ := here
    exact onward reached stands
  | nearby =>
    obtain ⟨x, reached, rfl | between | ⟨w, between⟩⟩ := here
    · exact Origin.nearby_of_place (onward reached (.inl rfl))
    · exact Origin.nearby_of_place (onward reached (.inr between))
    · obtain ⟨-, rfl⟩ := between.leave.unique next
      exact ⟨x, stay reached, .inl rfl⟩

theorem follows_anchor_origin {a : Anchor} (made : o.anchor? a = some o') :
    Follows (.anchor a) o.footing o'.footing := by
  intro z X here z' spans
  obtain ⟨rfl, holds⟩ := spans_anchor_iff.1 spans
  have stay {x : Position Char} (reached : x ∈ X) (holds : a.holdsAt x = true) :
      x ∈ (Regex.anchor a).reached X := ⟨x, reached, spans_anchor_iff.2 ⟨rfl, holds⟩⟩
  change a.holdsAt z' = true at holds
  simp only [Origin.anchor?] at made
  split at made
  · next steady =>
    cases made
    have never {x y : Position Char} (between : Between x y z') : False := by
      rw [a.not_holdsAt_between steady between] at holds
      cases holds
    obtain ⟨x, reached, rfl | ⟨y, between⟩ | ⟨w, between⟩⟩ := Origin.holds_nearby here
    · exact ⟨x, stay reached (a.holdsAt_returned steady x ▸ holds), .inl rfl⟩
    · exact (never between).elim
    · exact (never between).elim
  · split at made
    · next lineEnd =>
      cases made
      simp only [Bool.and_eq_true, decide_eq_true_iff] at lineEnd
      obtain ⟨rfl, rfl⟩ := lineEnd
      obtain ⟨x, reached, rfl | ⟨y, between⟩⟩ := here
      · obtain last | ⟨z, newline⟩ := holdsAt_lineEnd_iff.1 holds
        · exact ⟨x, stay reached (holdsAt_lineEnd_iff.2 (.inl (withReturns_eq_nil_iff.1 last))),
            .inl rfl⟩
        · obtain ⟨no, -⟩ | ⟨no, -⟩ := next_returned_cases newline
          · exact absurd rfl no
          · cases no
      · exact ⟨x, stay reached (holdsAt_lineEnd_iff.2 (.inr ⟨y, between.newline⟩)), .inr ⟨y, between⟩⟩
    · cases made

theorem follows_origin {r : Regex Anchor} (made : origin? r o = some o') :
    Follows r o.footing o'.footing := by
  induction r generalizing o o' with
  | empty => cases made; exact .empty _
  | letter set => exact follows_letter_origin made
  | anchor a => exact follows_anchor_origin made
  | seq r s ihr ihs =>
    obtain ⟨k, first, second⟩ := Option.bind_eq_some_iff.1 made
    exact (ihr first).seq (ihs second)
  | alt r s ihr ihs =>
    simp only [origin?] at made
    split at made
    · next a b left right =>
      cases made
      refine .alt ((ihr left).weaken id (Origin.holds_weaker b)) ((ihs right).weaken id ?_)
      exact fun here => Origin.weaker_comm b a ▸ Origin.holds_weaker a here
    · cases made
  | star r _ =>
    cases r with
    | letter set => cases made; exact follows_letters_origin set o
    | _ => cases made

/-! ## Both together -/

/-- Whether an expression can be told to occur with returns where it occurs without. A match may
begin at any position, so both ways start from all that can be reached. -/
def ignoresReturns (r : Regex Anchor) : Bool :=
  (landing? r .every).isSome && (origin? r .place).isSome

/-- **Carriage returns before line feeds do not matter** to an expression that ignores them. -/
theorem occurs_withReturns_iff {r : Regex Anchor} (ignores : ignoresReturns r = true)
    {text : List Char} : r.Occurs (withReturns text) ↔ r.Occurs text := by
  obtain ⟨onward, back⟩ := Bool.and_eq_true_iff.1 ignores
  obtain ⟨l, onward⟩ := Option.isSome_iff_exists.1 onward
  obtain ⟨o, back⟩ := Option.isSome_iff_exists.1 back
  rw [occurs_iff_spans, occurs_iff_spans]
  constructor
  · rintro ⟨z, z', whole, spans⟩
    obtain ⟨x, inText, stands⟩ := exists_returned whole
    have here : Origin.place.footing.holds z {x | x.text = text} := ⟨x, inText, stands⟩
    obtain ⟨y, ⟨x, inText, way⟩, -⟩ := Origin.holds_nearby (follows_origin back z _ here z' spans)
    exact ⟨x, y, inText, way⟩
  · rintro ⟨x, y, rfl, spans⟩
    have here : Landing.every.footing.holds x {z | z.text = withReturns x.text} :=
      ⟨text_returned x, fun _ _ between => between.text_eq⟩
    obtain ⟨m, z, inText, way⟩ := Landing.nonempty_of_holds (follows_landing onward x _ here y spans)
    exact ⟨z, m, inText, way⟩

end Patrol.Pattern
