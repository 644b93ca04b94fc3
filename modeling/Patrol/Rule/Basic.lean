import Patrol.Pattern.Basic
import Patrol.Rule.Definition
import Patrol.RuleId
import Patrol.Text.Blank

/-! Rules that are ready to be held against texts. -/
namespace Patrol

/-- A pattern that is not wanted in source files, and what to say about it. -/
structure Rule where
  id : RuleId
  pattern : Pattern
  title : String
  marker : String
  message : String
  languages : List Language

/-- Why there is no rule, or no list of rules. -/
inductive RuleError where
  | malformed (cause : Toml.Error)
  | invalidId (id : String)
  | emptyTitle (id : RuleId)
  | emptyMessage (id : RuleId)
  | badPattern (pattern : String) (id : RuleId) (cause : Pattern.Error)
  | notFound (id : RuleId)
  | duplicate (id : RuleId)

/-- What is wrong, up to the part that differs from one reader of patterns or documents to the
next. -/
def RuleError.headline : RuleError → String
  | .malformed _ => "Invalid rule definition: Failed to parse TOML: "
  | .invalidId id => "Invalid rule definition: Invalid rule ID: " ++ id
  | .emptyTitle id => "Invalid rule definition: Rule '" ++ id.text ++ "' has an empty title"
  | .emptyMessage id => "Invalid rule definition: Rule '" ++ id.text ++ "' has an empty message"
  | .badPattern pattern id _ =>
    "Invalid regex pattern: Failed to compile pattern '" ++ pattern ++ "' for rule '" ++
      id.text ++ "': "
  | .notFound id => "Rule not found: " ++ id.text
  | .duplicate id => "Duplicate rule id: " ++ id.text

/-- The rest of the message behind the headline. -/
def RuleError.explanation : RuleError → String
  | .malformed cause => cause.message
  | .badPattern _ _ cause => cause.message
  | _ => ""

def RuleError.message (e : RuleError) : String := e.headline ++ e.explanation

namespace Rule

/-- The rule that a definition describes. The message loses the blanks at its end. -/
def ofDefinition (d : Definition) : Except RuleError Rule := do
  let some id := RuleId.ofString? d.id | throw (.invalidId d.id)
  if Text.isBlankText d.title then throw (.emptyTitle id)
  if Text.isBlankText d.message then throw (.emptyMessage id)
  match Pattern.compile d.pattern with
  | .error cause => throw (.badPattern d.pattern id cause)
  | .ok pattern =>
    return {
      id, pattern
      title := d.title
      marker := d.marker
      message := Text.trimEnd d.message
      languages := d.languages }

def toDefinition (r : Rule) : Definition where
  id := r.id.text
  title := r.title
  marker := r.marker
  pattern := r.pattern.source
  message := r.message
  languages := r.languages

/-- Whether a rule holds for files of a dialect, or of none. -/
def appliesTo (r : Rule) (language? : Option Language) : Bool :=
  r.languages.isEmpty || language?.any r.languages.contains

/-- Whether the pattern occurs in a text. -/
def matchesIn (r : Rule) (text : String) : Bool := r.pattern.matchesIn text

end Rule
end Patrol
