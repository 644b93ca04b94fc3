import Patrol.Violation

/-! The text that is shown for the violations in a file. -/
namespace Patrol.Report

def thinLine : String := "-----------------------------------------------------\n"

def thickLine : String := "=====================================================\n"

/-- One violation, as a block of its own. -/
def block (v : Violation) : String :=
  v.rule.marker ++ " [" ++ v.rule.title ++ "] " ++ v.rule.marker ++ "\n" ++ thinLine ++
    "Forbidden pattern found in file: " ++ v.file ++ "\n\n" ++ v.rule.message ++ "\n" ++ thinLine

/-- What is said about a violation that stops a check. -/
structure Stop where
  file : String
  rule : RuleId
  report : String

def Stop.ofViolation (v : Violation) : Stop := ⟨v.file, v.rule.id, block v⟩

def header (file : String) (count : Nat) : String :=
  "Police Report\n" ++ thickLine ++ "File: " ++ file ++ "\nViolations: " ++ toString count ++
    "\n" ++ thickLine

def trailer : String := thickLine ++ "🔧 Fix these before they ship! 🔧\n" ++ thickLine

/-- All violations of a file with empty lines between them. -/
def render (file : String) (violations : List Violation) : String :=
  header file violations.length ++ "\n".intercalate (violations.map block) ++ trailer

end Patrol.Report
