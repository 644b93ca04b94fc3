import Patrol.Enforcement
import Patrol.Filter
import Patrol.Repeated
import Patrol.RuleId
import Patrol.Rule.Definition
import Patrol.Toml.Reader
import Patrol.Tree.Error

/-! The settings of a check. -/
namespace Patrol

/-- Which rules are used: the builtin ones that are not disabled, without those for certain
dialects unless `typed`, and then the custom ones. -/
structure RuleSelection where
  typed : Bool
  disabled : List RuleId
  custom : List Rule.Definition
deriving DecidableEq

def RuleSelection.standard : RuleSelection := ⟨true, [], []⟩

structure Config where
  enforcement : Enforcement
  exclude : List String
  rules : RuleSelection
deriving DecidableEq

/-- Why there are no settings. -/
inductive ConfigError where
  | unfit (cause : Toml.Error)
  | badGlob (cause : BadGlob)
  | disabledTwice (id : RuleId)
  | unreadable (cause : Tree.Error)
  | notText

/-- What is wrong, up to the part that differs from one reader of documents to the next. -/
def ConfigError.headline : ConfigError → String
  | .unfit _ => "Invalid configuration syntax: "
  | .badGlob cause => "Invalid configuration: " ++ cause.message
  | .disabledTwice id =>
    "Invalid configuration: Rule '" ++ id.text ++ "' is listed more than once in rules.disabled"
  | .unreadable cause => "I/O error: " ++ cause.message
  | .notText => "I/O error: stream did not contain valid UTF-8"

def ConfigError.explanation : ConfigError → String
  | .unfit cause => cause.message
  | _ => ""

def ConfigError.message (e : ConfigError) : String := e.headline ++ e.explanation

namespace Config
open Toml (Decoder Field Record optional?)

/-- The settings of an empty document. -/
def standard : Config := ⟨.normal, Filter.defaultGlobs, .standard⟩

def ruleId : Decoder RuleId := fun v => do
  let text ← Decoder.string v
  match RuleId.ofString? text with
  | some id => return id
  | none => throw (.invalidRuleId text)

def filesRecord : Record where
  name := "FilesConfig"
  fields := [.optional "exclude" (Decoder.list Decoder.string)]

def files : Decoder (List String) := fun v => do
  let entries ← filesRecord.entries v
  optional? entries "exclude" (Decoder.list Decoder.string) Filter.defaultGlobs

def rulesRecord : Record where
  name := "RulesConfig"
  fields :=
    [ .optional "typed" Decoder.boolean, .optional "disabled" (Decoder.list ruleId),
      .optional "custom" (Decoder.list Rule.Definition.decode) ]

def rulesSection : Decoder RuleSelection := fun v => do
  let entries ← rulesRecord.entries v
  return {
    typed := ← optional? entries "typed" Decoder.boolean true
    disabled := ← optional? entries "disabled" (Decoder.list ruleId) []
    custom := ← optional? entries "custom" (Decoder.list Rule.Definition.decode) [] }

def record : Record where
  name := "Config"
  fields :=
    [ .optional "police" Enforcement.decode, .optional "files" files,
      .optional "rules" rulesSection ]

/-- Settings whose globs and lists are not looked at yet. -/
def decode : Decoder Config := fun v => do
  let entries ← record.entries v
  return {
    enforcement := ← optional? entries "police" Enforcement.decode .normal
    exclude := ← optional? entries "files" files Filter.defaultGlobs
    rules := ← optional? entries "rules" rulesSection .standard }

/-- Settings that can be used: every glob is one, and no rule is disabled twice. -/
def validate (c : Config) : Except ConfigError Unit := do
  let _ ← (Filter.ofGlobs c.exclude).mapError ConfigError.badGlob
  match firstRepeated? c.rules.disabled with
  | some id => throw (.disabledTwice id)
  | none => return ()

/-- The settings that a document writes. -/
def parse (text : String) : Except ConfigError Config := do
  let some entries := Toml.read text | throw (.unfit .malformed)
  let config ← (decode (.table entries)).mapError fun m => ConfigError.unfit (.mismatch m)
  config.validate
  return config

end Config
end Patrol
