import Patrol.Regex.Basic
import Patrol.Unicode.Class

/-! Positions in a text: its ends, the ends of its lines, and the edges of words. -/
namespace Patrol.Pattern

/-- What is asked of the two characters around a position, by whether they belong to words. The
half edges look at one side only. -/
inductive WordEdge where
  | boundary | noBoundary | start | stop | startHalf | stopHalf
deriving DecidableEq

def WordEdge.holds (before after : Bool) : WordEdge → Bool
  | .boundary => before != after
  | .noBoundary => before == after
  | .start => !before && after
  | .stop => before && !after
  | .startHalf => !before
  | .stopHalf => !after

/-- Lines end with a line feed; with `crlf` a carriage return, a line feed, or the two together. -/
inductive Anchor where
  | textStart
  | textEnd
  | lineStart (crlf : Bool)
  | lineEnd (crlf : Bool)
  | word (edge : WordEdge) (unicode : Bool)
deriving DecidableEq

namespace Anchor

def holds : Anchor → Option Char → Option Char → Bool
  | .textStart, before, _ => before.isNone
  | .textEnd, _, after => after.isNone
  | .lineStart false, before, _ => before.isNone || before == some '\n'
  | .lineStart true, before, after =>
    before.isNone || before == some '\n' || (before == some '\r' && after != some '\n')
  | .lineEnd false, _, after => after.isNone || after == some '\n'
  | .lineEnd true, before, after =>
    after.isNone || after == some '\r' || (after == some '\n' && before != some '\r')
  | .word edge unicode, before, after =>
    let inWord := if unicode then isWordChar else isAsciiWordChar
    edge.holds (before.any inWord) (after.any inWord)

end Anchor

instance : Alphabet Anchor Char where
  code := Char.toNat
  holds := Anchor.holds

end Patrol.Pattern
