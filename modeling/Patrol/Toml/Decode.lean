import Patrol.Toml.Value
import Patrol.Text.Quoted

/-! What a value has to look like to be taken for a setting. A text that is well formed can still
hold the wrong things; the first of them, in the order of the document, is named. -/
namespace Patrol.Toml

/-- How a value fails to be what is expected. -/
inductive Mismatch where
  | wrongType (found : Value) (expected : String)
  | unknownField (name : String) (known : List String)
  | missingField (name : String)
  | wrongLength (length : Nat) (record : String) (fields : Nat)
  | unknownVariant (name : String) (known : List String)
  | notAVariant
  | notOneEntry (tooFew : Bool)
  | notEmpty (found : Value)
  | invalidRuleId (text : String)

namespace Mismatch

def backquoted (s : String) : String := "\x60" ++ s ++ "\x60"

/-- A value as it is called in messages. -/
def describe : Value → String
  | .string text => "string " ++ Text.quoted text
  | .integer n => "integer " ++ backquoted (toString n)
  | .real x => "floating point " ++ backquoted x.text
  | .boolean b => "boolean " ++ backquoted (if b then "true" else "false")
  | .array _ => "sequence"
  | .time | .table _ => "map"

/-- The names to choose from. -/
def oneOf : List String → String
  | [a] => "expected " ++ backquoted a
  | [a, b] => "expected " ++ backquoted a ++ " or " ++ backquoted b
  | names => "expected one of " ++ ", ".intercalate (names.map backquoted)

/-- The kinds of values, where a variant was to have none. -/
def kind : Value → String
  | .string _ => "string"
  | .integer _ => "integer"
  | .real _ => "float"
  | .boolean _ => "boolean"
  | .time => "datetime"
  | .array _ => "array"
  | .table _ => "table"

def message : Mismatch → String
  | .wrongType found expected => "invalid type: " ++ describe found ++ ", expected " ++ expected
  | .unknownField name known => "unknown field " ++ backquoted name ++ ", " ++ oneOf known
  | .missingField name => "missing field " ++ backquoted name
  | .wrongLength length record fields =>
    "invalid length " ++ toString length ++ ", expected struct " ++ record ++ " with " ++
      toString fields ++ " elements"
  | .unknownVariant name known => "unknown variant " ++ backquoted name ++ ", " ++ oneOf known
  | .notAVariant => "wanted string or table"
  | .notOneEntry tooFew =>
    if tooFew then "wanted exactly 1 element, found 0 elements"
    else "wanted exactly 1 element, more than 1 element"
  | .notEmpty (.table _) => "expected empty table"
  | .notEmpty (.array _) => "expected empty array"
  | .notEmpty found => "expected table, found " ++ kind found
  | .invalidRuleId text => "Invalid rule ID: " ++ text

end Mismatch

/-- Takes a value for a setting of some type. -/
abbrev Decoder (α : Type) := Value → Except Mismatch α

namespace Decoder

def boolean : Decoder Bool
  | .boolean b => .ok b
  | found => .error (.wrongType found "a boolean")

def string : Decoder String
  | .string text => .ok text
  | found => .error (.wrongType found "a string")

def list {α : Type} (item : Decoder α) : Decoder (List α)
  | .array items => items.mapM item
  | found => .error (.wrongType found "a sequence")

/-- A name out of a list: a string, or a table whose only key is the name and holds nothing. -/
def variant {α : Type} (choices : List (String × α)) : Decoder α
  | .string name => choose name
  | .table [(name, inside)] => do
    let chosen ← choose name
    match inside with
    | .table [] | .array [] => return chosen
    | found => throw (.notEmpty found)
  | .table entries => .error (.notOneEntry entries.isEmpty)
  | _ => .error .notAVariant
where
  choose (name : String) : Except Mismatch α :=
    match choices.lookup name with
    | some chosen => .ok chosen
    | none => .error (.unknownVariant name (choices.map (·.1)))

end Decoder

/-- One field of a record: whether it may be left out, and what is asked of its value. -/
structure Field where
  name : String
  required : Bool
  check : Decoder Unit

def Field.optional {α : Type} (name : String) (decoder : Decoder α) : Field :=
  ⟨name, false, fun v => discard (decoder v)⟩

def Field.needed {α : Type} (name : String) (decoder : Decoder α) : Field :=
  ⟨name, true, fun v => discard (decoder v)⟩

/-- A record: its name and its fields in the order of their declaration. -/
structure Record where
  name : String
  fields : List Field

namespace Record

/-- Each entry of a table must be a field with a fitting value. -/
def checkEntries (r : Record) : List (String × Value) → Except Mismatch Unit
  | [] => .ok ()
  | (name, value) :: rest => do
    match r.fields.find? (·.name == name) with
    | some field => field.check value
    | none => throw (.unknownField name (r.fields.map (·.name)))
    r.checkEntries rest

/-- Gives the items of an array to the fields in order. Fields that need no value may lack one at
the end, and items that are left over do not count. -/
def assign (r : Record) (length : Nat) : List Field → List Value →
    Except Mismatch (List (String × Value))
  | [], _ => .ok []
  | field :: fields, [] =>
    if field.required then .error (.wrongLength length r.name r.fields.length)
    else r.assign length fields []
  | field :: fields, value :: values => do
    field.check value
    return (field.name, value) :: (← r.assign length fields values)

/-- The key by which a time counts as a table of one entry. -/
def timeKey : String := "$__toml_private_datetime"

/-- The fields that a value gives, checked in the order of the document. A record is a table by
field names, or an array of the fields in the order of their declaration. -/
def entries (r : Record) : Decoder (List (String × Value))
  | .table entries => do
    r.checkEntries entries
    match r.fields.find? fun field => field.required && (entries.lookup field.name).isNone with
    | some field => throw (.missingField field.name)
    | none => return entries
  | .array items => r.assign items.length r.fields items
  | .time => .error (.unknownField timeKey (r.fields.map (·.name)))
  | found => .error (.wrongType found ("struct " ++ r.name))

end Record

/-- The value of a field that need not be there. -/
def optional? {α : Type} (entries : List (String × Value)) (name : String) (decoder : Decoder α)
    (default : α) : Except Mismatch α :=
  match entries.lookup name with
  | some value => decoder value
  | none => .ok default

/-- The value of a field that must be there. -/
def needed {α : Type} (entries : List (String × Value)) (name : String) (decoder : Decoder α) :
    Except Mismatch α :=
  match entries.lookup name with
  | some value => decoder value
  | none => .error (.missingField name)

/-- Why a document was not taken: its text is malformed, or it holds the wrong things. -/
inductive Error where
  | malformed
  | mismatch (m : Mismatch)

def Error.message : Error → String
  | .malformed => "malformed document"
  | .mismatch m => m.message

end Patrol.Toml
