import Patrol.Inspector

/-! Looking at the files that a pipeline hands over, one call after the other. -/
namespace Patrol

/-- What a call comes to. -/
inductive Outcome where
  | inactive
  | skipped
  | clean
  | reported (count : Nat)
  | stopped (why : Report.Stop)

/-- A file that is handed over, with its text. -/
structure Call where
  file : String
  text : String

/-- An inspector at work, with the reports that it has shown so far. -/
structure Session where
  inspector : Inspector
  shown : List String

namespace Session

/-- Before the first call nothing is shown. -/
def start (i : Inspector) : Session := ⟨i, []⟩

def emit (s : Session) (report : String) : Session := { s with shown := s.shown ++ [report] }

/-- Looks at a file, and shows the report if there is one. -/
def onFile (s : Session) (call : Call) : Outcome × Session :=
  match s.inspector.inspect call.file call.text with
  | .inactive => (.inactive, s)
  | .skipped _ => (.skipped, s)
  | .clean => (.clean, s)
  | .reported violations =>
    (.reported violations.length, s.emit (Report.render call.file violations))
  | .aborted because => (.stopped (.ofViolation because), s)

/-- Looks at one file after the other. Nothing stops a pipeline from handing over the next one. -/
def onFiles (s : Session) : List Call → List Outcome × Session
  | [] => ([], s)
  | call :: calls =>
    let (outcome, next) := s.onFile call
    let (outcomes, last) := next.onFiles calls
    (outcome :: outcomes, last)

end Session
end Patrol
