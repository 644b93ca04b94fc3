import Patrol.Json.Reader
import Patrol.Rule.Definition

/-! Reading rules from the lines of a listing. -/
namespace Patrol.Listing
open Json (Value)

def string? : Value → Option String
  | .string text => some text
  | _ => none

def natural? : Value → Option Nat
  | .number (.ofNat n) 0 => some n
  | _ => none

def languages? : Value → Option (List Language)
  | .array items => items.mapM fun item => do Language.ofName? (← string? item)
  | _ => none

/-- The position of a rule and its definition. -/
def ofRecord? (v : Value) : Option (Nat × Rule.Definition) := do
  let field (name : String) : Option String := do string? (← v.get? name)
  if (← field "type") != "rule" then none
  let position ← natural? (← v.get? "position")
  some (position, {
    id := ← field "id"
    title := ← field "title"
    marker := ← field "marker"
    pattern := ← field "pattern"
    message := ← field "message"
    languages := ← languages? (← v.get? "languages") })

/-- The rule on one line. -/
def readRecord? (line : String) : Option (Nat × Rule.Definition) := do ofRecord? (← Json.read line)

end Patrol.Listing
