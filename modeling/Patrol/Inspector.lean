import Patrol.Filter
import Patrol.Report

/-! Looking at one file at a time. -/
namespace Patrol

/-- What is decided before the first file: the rules, what becomes of violations, and which files
are looked at. -/
structure Inspector where
  catalog : Catalog
  enforcement : Enforcement
  filter : Filter

/-- What came of looking at a file. -/
inductive Inspection where
  | inactive
  | skipped (why : Skip)
  | clean
  | reported (violations : List Violation)
  | aborted (because : Violation)

/-- Why no inspector can be made of some settings. -/
inductive SetupError where
  | rule (cause : RuleError)
  | config (cause : ConfigError)

def SetupError.headline : SetupError → String
  | .rule cause => "Rule error: " ++ cause.headline
  | .config cause => "Configuration error: " ++ cause.headline

namespace Inspector

/-- The inspector that settings ask for. -/
def ofConfig (c : Config) : Except SetupError Inspector := do
  let catalog ← (Catalog.ofSelection c.rules).mapError SetupError.rule
  let filter ← (Filter.ofGlobs c.exclude).mapError fun e => SetupError.config (.badGlob e)
  return ⟨catalog, c.enforcement, filter⟩

/-- The violations that are looked for: the first one is enough for strict enforcement. -/
def violations (i : Inspector) (file text : String) : List Violation :=
  if i.enforcement.strict then (Violation.first? i.catalog file text).toList
  else Violation.collect i.catalog file text

/-- Looks at a file. -/
def inspect (i : Inspector) (file text : String) : Inspection :=
  if !i.enforcement.enabled then .inactive
  else
    match i.filter.verdict file with
    | .error why => .skipped why
    | .ok _ =>
      match i.enforcement.decide (i.violations file text) with
      | .abort because => .aborted because
      | .proceed [] => .clean
      | .proceed violations => .reported violations

end Inspector

namespace Inspection

/-- How many violations were reported. -/
def count : Inspection → Nat
  | .reported violations => violations.length
  | _ => 0

/-- The report that is shown for a file. -/
def report? (file : String) : Inspection → Option String
  | .reported violations => some (Report.render file violations)
  | _ => none

/-- The violation that stops the check. -/
def abort? : Inspection → Option Violation
  | .aborted because => some because
  | _ => none

end Inspection
end Patrol
