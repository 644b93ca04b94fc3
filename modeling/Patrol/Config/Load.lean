import Patrol.Config.Basic
import Patrol.Text.Utf8
import Patrol.Tree.Resolve

/-! Settings in files. -/
namespace Patrol.Config
open Patrol.Tree (World)

/-- The settings in the file that a path leads to. -/
def load (w : World) (path : String) : Except ConfigError Config := do
  let bytes ← (w.read path).mapError ConfigError.unreadable
  let some text := Text.text? bytes | throw .notText
  parse text

/-- The settings in a file; the standard ones if the path leads nowhere. -/
def loadOrStandard (w : World) (path : String) : Except ConfigError Config :=
  if w.holds path then load w path else .ok standard

end Patrol.Config
