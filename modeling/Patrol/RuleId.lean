import Patrol.Unicode.Class

/-! Names of rules. -/
namespace Patrol

/-- Letters, numbers, dashes and underscores, one at least. -/
def isRuleId (text : String) : Bool :=
  text != "" && text.toList.all fun c => isAlphanumeric c || c == '-' || c == '_'

structure RuleId where
  text : String
  valid : isRuleId text = true
deriving DecidableEq

def RuleId.ofString? (text : String) : Option RuleId :=
  if h : isRuleId text = true then some ⟨text, h⟩ else none

end Patrol
