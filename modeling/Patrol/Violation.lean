import Patrol.Catalog.Basic

/-! The rules whose patterns occur in a file, and what becomes of them. -/
namespace Patrol

/-- A rule whose pattern occurs in a file. -/
structure Violation where
  rule : Rule
  file : String

namespace Violation

/-- Whether a rule holds for a file and its pattern occurs in the text. -/
def found (file text : String) (r : Rule) : Bool :=
  r.appliesTo (Language.detect? file) && r.matchesIn text

/-- All violations in a file, in the order of the catalog. -/
def collect (c : Catalog) (file text : String) : List Violation :=
  (c.rules.filter (found file text)).map (⟨·, file⟩)

/-- The first violation in a file; no rule behind it is tried. -/
def first? (c : Catalog) (file text : String) : Option Violation :=
  (c.rules.find? (found file text)).map (⟨·, file⟩)

end Violation

/-- What becomes of violations: the check goes on and reports them, or it stops because of one. -/
inductive Decision where
  | proceed (reported : List Violation)
  | abort (because : Violation)

/-- Nothing is reported unless enforcement is enabled; a strict one stops at the first violation. -/
def Enforcement.decide (e : Enforcement) (violations : List Violation) : Decision :=
  if !e.enabled then .proceed []
  else
    match e.strict, violations with
    | true, first :: _ => .abort first
    | _, violations => .proceed violations

end Patrol
