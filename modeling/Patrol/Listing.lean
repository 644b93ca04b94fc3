import Patrol.Banner
import Patrol.Catalog.Basic
import Patrol.Json.Value

/-! The rules of a catalog as they are listed, for readers and for other programs. -/
namespace Patrol.Listing

/-- Blanks in front of a text, up to `columns`. -/
def rightAligned (columns : Nat) (text : String) : String :=
  String.ofList (List.replicate (columns - text.length) ' ') ++ text

/-- The line of the rule at a position, with the names padded to `width`. -/
def line (width position : Nat) (r : Rule) : String :=
  let languages :=
    if r.languages.isEmpty then ""
    else " (" ++ ", ".intercalate (r.languages.map (·.name)) ++ ")"
  rightAligned 2 (toString position) ++ ". " ++ Banner.padded width r.id.text ++ "  " ++
    r.marker ++ " " ++ r.title ++ languages ++ "\n"

/-- The greatest size of a name, in bytes. -/
def nameWidth (c : Catalog) : Nat := (c.rules.map (·.id.text.utf8ByteSize)).foldl max 0

/-- One line for each rule and one with their number. -/
def table (c : Catalog) : String :=
  if c.rules.isEmpty then "No rules are enabled.\n"
  else
    String.join (c.rules.mapIdx fun i r => line (nameWidth c) (i + 1) r) ++
      "\n" ++ toString c.size ++ " rules active\n"

/-- The rule at a position as an object. -/
def record (position : Nat) (r : Rule) : Json.Value :=
  .object
    [ ("type", .string "rule"), ("position", .natural position), ("id", .string r.id.text),
      ("title", .string r.title), ("marker", .string r.marker),
      ("pattern", .string r.pattern.source),
      ("languages", .array (r.languages.map fun l => .string l.name)),
      ("message", .string r.message) ]

/-- One object on a line for each rule. -/
def records (c : Catalog) : String :=
  String.join (c.rules.mapIdx fun i r => (record (i + 1) r).text ++ "\n")

end Patrol.Listing
