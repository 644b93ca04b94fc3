import Patrol.Catalog.Basic
import Patrol.Toml.Writer

/-! Settings and rules as documents. -/
namespace Patrol
open Toml (entry quoted)

/-- A definition as one table of an array with the given key. -/
def Rule.Definition.written (key : String) (d : Rule.Definition) : List Char :=
  Toml.itemHeading key ++ entry "id" (quoted d.id) ++ entry "title" (quoted d.title) ++
    entry "marker" (quoted d.marker) ++ entry "pattern" (quoted d.pattern) ++
    entry "message" (quoted d.message) ++
    if d.languages.isEmpty then []
    else entry "languages" (Toml.array (d.languages.map fun l => quoted l.name))

/-- The document that holds some settings. -/
def Config.write (c : Config) : String :=
  String.ofList <|
    Toml.heading "police" ++ entry "enabled" (Toml.boolean c.enforcement.enabled) ++
    entry "strict" (Toml.boolean c.enforcement.strict) ++
    Toml.heading "files" ++ entry "exclude" (Toml.array (c.exclude.map quoted)) ++
    Toml.heading "rules" ++ entry "typed" (Toml.boolean c.rules.typed) ++
    entry "disabled" (Toml.array (c.rules.disabled.map (quoted ·.text))) ++
    c.rules.custom.flatMap (Rule.Definition.written "rules.custom")

/-- The document that holds some rules. -/
def Catalog.write (definitions : List Rule.Definition) : String :=
  String.ofList (definitions.flatMap (Rule.Definition.written "rule"))

end Patrol
