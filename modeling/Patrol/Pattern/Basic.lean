import Patrol.Pattern.Reader
import Patrol.Pattern.Size
import Patrol.Regex.Search

/-! Patterns that are ready to be sought in texts. -/
namespace Patrol

/-- A pattern with the text it was written as. -/
structure Pattern where
  source : String
  regex : Regex Pattern.Anchor

namespace Pattern

/-- The pattern that a text writes. -/
def compile (source : String) : Except Error Pattern := do
  let e ← read source.toList
  let (t, _) ← Term.ofExpr .initial e
  if !t.fits then throw .tooLarge
  return ⟨source, t.regex⟩

/-- Whether the pattern occurs somewhere in the text. -/
def matchesIn (p : Pattern) (text : String) : Bool :=
  p.regex.occursIn text.toList

end Pattern
end Patrol
