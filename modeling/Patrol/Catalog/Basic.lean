import Patrol.Catalog.Builtin
import Patrol.Config.Basic
import Patrol.Rule.Basic

/-! Lists of rules, in the order in which they are held against a text. -/
namespace Patrol

/-- Rules with different names. -/
structure Catalog where
  rules : List Rule
  distinct : (rules.map (·.id)).Nodup

namespace Catalog

def ids (c : Catalog) : List RuleId := c.rules.map (·.id)

def size (c : Catalog) : Nat := c.rules.length

def find? (c : Catalog) (id : RuleId) : Option Rule := c.rules.find? (·.id == id)

/-- The catalog of some rules, unless two have the same name. -/
def ofRules (rules : List Rule) : Except RuleError Catalog :=
  match h : firstRepeated? (rules.map (·.id)) with
  | some id => .error (.duplicate id)
  | none => .ok ⟨rules, firstRepeated?_eq_none_iff.1 h⟩

def ofDefinitions (definitions : List Rule.Definition) : Except RuleError Catalog := do
  ofRules (← definitions.mapM Rule.ofDefinition)

def definitions (c : Catalog) : List Rule.Definition := c.rules.map (·.toDefinition)

/-- A document with rules is a list of their definitions. -/
def record : Toml.Record where
  name := "CatalogDocument"
  fields := [.optional "rule" (.list Rule.Definition.decode)]

/-- The definitions that a document writes. -/
def readDefinitions (text : String) : Except Toml.Error (List Rule.Definition) := do
  let some entries := Toml.read text | throw .malformed
  let entries ← (record.entries (.table entries)).mapError Toml.Error.mismatch
  (Toml.optional? entries "rule" (.list Rule.Definition.decode) []).mapError Toml.Error.mismatch

/-- The catalog that a document writes. -/
def parse (text : String) : Except RuleError Catalog := do
  ofDefinitions (← (readDefinitions text).mapError RuleError.malformed)

/-- The rules that come with the program. -/
def builtin : Except RuleError Catalog := ofDefinitions builtinDefinitions

/-- Whether a selection keeps a builtin rule. -/
def keeps (selection : RuleSelection) (r : Rule) : Bool :=
  !selection.disabled.contains r.id && (selection.typed || r.languages.isEmpty)

/-- The rules that a selection asks for. Only builtin rules can be disabled. -/
def ofSelection (selection : RuleSelection) : Except RuleError Catalog := do
  let builtin ← builtin
  match selection.disabled.find? fun id => (builtin.find? id).isNone with
  | some id => throw (.notFound id)
  | none =>
    let custom ← selection.custom.mapM Rule.ofDefinition
    ofRules (builtin.rules.filter (keeps selection) ++ custom)

end Catalog
end Patrol
