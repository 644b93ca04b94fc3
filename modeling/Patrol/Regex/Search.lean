import Patrol.Regex.Basic

/-! Searching a text in one pass. A marked expression remembers at which of its letters the part
read so far may have ended; reading one more letter moves the marks. -/
namespace Patrol.Regex

/-- An expression with marks. In composite expressions `live` says whether there is a mark below,
so that parts without marks are passed over. -/
inductive Marked (π : Type) where
  | empty
  | letter (here : Bool) (set : CodeSet)
  | anchor (a : π)
  | seq (live : Bool) (r s : Marked π)
  | alt (live : Bool) (r s : Marked π)
  | star (live : Bool) (r : Marked π)

namespace Marked
variable {π α : Type}

def live : Marked π → Bool
  | .empty => false
  | .letter here _ => here
  | .anchor _ => false
  | .seq live _ _ => live
  | .alt live _ _ => live
  | .star live _ => live

/-- An expression without marks. -/
def ofRegex : Regex π → Marked π
  | .empty => .empty
  | .letter set => .letter false set
  | .anchor a => .anchor a
  | .seq r s => .seq false (ofRegex r) (ofRegex s)
  | .alt r s => .alt false (ofRegex r) (ofRegex s)
  | .star r => .star false (ofRegex r)

variable [Alphabet π α]

/-- Whether the expression matches the empty part between two letters. -/
def nullable (before after : Option α) : Marked π → Bool
  | .empty => true
  | .letter _ _ => false
  | .anchor a => Alphabet.holds a before after
  | .seq _ r s => nullable before after r && nullable before after s
  | .alt _ r s => nullable before after r || nullable before after s
  | .star _ _ => true

/-- Whether some mark can be the end of a match between two letters. -/
def ending (before after : Option α) : Marked π → Bool
  | .empty => false
  | .letter here _ => here
  | .anchor _ => false
  | .seq live r s =>
    live && (ending before after s || (ending before after r && nullable before after s))
  | .alt live r s => live && (ending before after r || ending before after s)
  | .star live r => live && ending before after r

/-- Moves the marks over the letter `c` that follows `before`; with `enter`, a match may also
begin in front of `c`. -/
def step (before : Option α) (c : α) (enter : Bool) : Marked π → Marked π
  | .empty => .empty
  | .letter here set =>
    if here || enter then .letter (enter && set.contains (Alphabet.code π c)) set
    else .letter here set
  | .anchor a => .anchor a
  | .seq live r s =>
    if live || enter then
      let through := (live && ending before (some c) r) || (enter && nullable before (some c) r)
      let r' := step before c enter r
      let s' := step before c through s
      .seq (r'.live || s'.live) r' s'
    else .seq live r s
  | .alt live r s =>
    if live || enter then
      let r' := step before c enter r
      let s' := step before c enter s
      .alt (r'.live || s'.live) r' s'
    else .alt live r s
  | .star live r =>
    if live || enter then
      let r' := step before c (enter || (live && ending before (some c) r)) r
      .star r'.live r'
    else .star live r

/-- Whether a match ends here, or later in the rest of the text. -/
def search (before : Option α) (r : Marked π) : List α → Bool
  | [] => ending before none r || nullable before none r
  | c :: cs =>
    ending before (some c) r || nullable before (some c) r ||
      search (some c) (step before c true r) cs

/-- Whether the marks, or with `enter` the whole expression, lead to the very end of the text. -/
def finish (before : Option α) (enter : Bool) (r : Marked π) : List α → Bool
  | [] => ending before none r || (enter && nullable before none r)
  | c :: cs => finish (some c) false (step before c enter r) cs

end Marked

variable {π α : Type} [Alphabet π α]

/-- Whether some part of the text is matched. -/
def occursIn (r : Regex π) (text : List α) : Bool :=
  (Marked.ofRegex r).search none text

/-- Whether the whole text is matched. -/
def matchesAll (r : Regex π) (text : List α) : Bool :=
  (Marked.ofRegex r).finish none true text

end Patrol.Regex
