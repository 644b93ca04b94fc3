import Patrol.Check
import Patrol.CommandLine.Reader
import Patrol.Config.Load
import Patrol.Init
import Patrol.Listing
import Patrol.Log

/-! The commands: what they print, how they end, and what becomes of the tree. -/
namespace Patrol.Program
open Patrol.Tree (World)

/-- What is written beside the results: a text, a message on progress, or why a command failed. -/
inductive Message where
  | text (text : String)
  | event (event : Log.Event)
  | failure (headline explanation : String)

/-- How messages are shown: with colours or without, and from which level on. -/
structure Display where
  colored : Bool
  level : Log.Level

def Message.render (d : Display) : Message → String
  | .text t => t
  | .event e => if e.level.rank ≤ d.level.rank then e.render d.colored else ""
  | .failure headline explanation => "Error: " ++ headline ++ explanation ++ "\n"

/-- The result of a command: its exit code, what it prints, what it writes beside that, and the
tree behind it. -/
structure Run where
  exit : Nat
  output : String
  messages : List Message
  world : World

/-- All went well. -/
def success : Nat := 0

/-- A strict check was stopped by a violation. -/
def stopped : Nat := 1

/-- Something else went wrong. -/
def failed : Nat := 2

/-- The settings are not well formed. -/
def malformed : Nat := 3

/-- A text in bold or plain letters of a colour. -/
def painted (colored bold : Bool) (color text : String) : String :=
  if colored then "\x1b[0m" ++ (if bold then "\x1b[1m" else "") ++ color ++ text ++ "\x1b[0m"
  else text

def cyan : String := "\x1b[36m"
def yellow : String := "\x1b[33m"
def red : String := "\x1b[31m"

/-- Says that the settings are the standard ones, where that is so for lack of a file. -/
def loading (w : World) (config : String) : List Message :=
  if w.holds config then []
  else [.event ⟨.debug, "no configuration file, using defaults", [("path", config)]⟩]

def configExit : ConfigError → Nat
  | .unfit _ => malformed
  | _ => failed

/-! Checks. -/

def passedOver : String × Skip → Message
  | (path, why) => .event ⟨.trace, "not a candidate", [("path", path), ("reason", why.name)]⟩

/-- What is shown for one file. -/
def inspected (colored : Bool) (f : Inspected) : List Message :=
  let file := Log.quoted "file" f.file
  match f.inspection with
  | .inactive => []
  | .skipped why => [.event ⟨.debug, "skipping file", [file, ("reason", why.name)]⟩]
  | .clean => [.event ⟨.trace, "clean", [file]⟩]
  | .aborted v =>
    [.event ⟨.debug, "strict mode abort", [file, ("rule", v.rule.id.text)]⟩]
  | .reported vs =>
    [ .event ⟨.debug, "reporting violations", [file, Log.number "violations" vs.length]⟩,
      .text (painted colored false yellow (Report.render f.file vs ++ "\n")) ]

/-- The numbers at the end of a check. -/
def finished (all : List Inspected) : Message :=
  .event ⟨.info, "check finished",
    [ Log.number "files" (Check.filesChecked all), Log.number "reported" (Check.filesReported all),
      Log.number "violations" (Check.violations all) ]⟩

/-- Checks paths with settings that are enabled and rules that are known. -/
def checkWith (colored : Bool) (w : World) (c : Config) (catalog : Catalog) (paths : List String) :
    Nat × List Message :=
  let banner := Message.text
    (painted colored true cyan (Banner.render catalog.size c.enforcement.strict))
  let findings := Check.run w c catalog paths
  let start := banner :: findings.passedOver.map passedOver
  match findings.result with
  | .error e => (failed, start ++ [.failure e.message ""])
  | .ok all =>
    let messages := start ++ all.flatMap (inspected colored) ++ [finished all]
    match Check.stop? all with
    | none => (success, messages)
    | some stop =>
      (stopped, messages ++ [.text (painted colored true red (stop.report ++ "\n"))])

def check (colored : Bool) (w : World) (config : String) (strict : Option Bool)
    (paths : List String) : Run :=
  let loaded := loading w config
  match Config.loadOrStandard w config with
  | .error e => ⟨configExit e, "", loaded ++ [.failure e.headline e.explanation], w⟩
  | .ok c =>
    let c := { c with enforcement.strict := strict.getD c.enforcement.strict }
    if !c.enforcement.enabled then
      let idle := Message.event
        ⟨.info, "police is disabled in configuration; nothing to do", []⟩
      ⟨success, "", loaded ++ [idle], w⟩
    else
      match Catalog.ofSelection c.rules with
      | .error e => ⟨failed, "", loaded ++ [.failure e.headline e.explanation], w⟩
      | .ok catalog =>
        let (exit, messages) := checkWith colored w c catalog paths
        ⟨exit, "", loaded ++ messages, w⟩

/-! Lists. -/

def list (w : World) (config : String) (format : ListFormat) : Run :=
  let loaded := loading w config
  match Config.loadOrStandard w config with
  | .error e => ⟨configExit e, "", loaded ++ [.failure e.headline e.explanation], w⟩
  | .ok c =>
    match Catalog.ofSelection c.rules with
    | .error e =>
      ⟨failed, "", loaded ++ [.failure ("Rule error: " ++ e.headline) e.explanation], w⟩
    | .ok catalog =>
      let text := match format with
        | .human => Listing.table catalog
        | .jsonl => Listing.records catalog
      ⟨success, text, loaded, w⟩

/-! New settings. -/

def init (w : World) (config : String) (force : Bool) : Run :=
  match Init.run w config force with
  | (w, .ok outcome) =>
    let text := match outcome with
      | .created => "Created " ++ config ++ ".\n"
      | .overwritten => "Overwrote " ++ config ++ ".\n"
      | .skipped => config ++ " already exists; use --force to overwrite it.\n"
    ⟨success, text, [], w⟩
  | (w, .error e) => ⟨failed, "", [.failure e.message ""], w⟩

/-! The program. -/

def usage : String :=
  "Flag forbidden patterns in front-end source files\n\n" ++
  "Usage: police [--color auto|always|never] [-v...] [--config FILE] COMMAND\n\n" ++
  "Commands:\n" ++
  "  check [--strict | --no-strict] [PATH]...  report forbidden patterns\n" ++
  "  list [--format human|jsonl]               list active rules in evaluation order\n" ++
  "  init [--force]                            write a default police.toml\n" ++
  "  help                                      print this help\n"

def version : String := "police 0.1.0\n"

def refusal : CommandLine.Error → String
  | .help | .nothingGiven => usage
  | .version => version
  | .noCommand => "error: a command is required\n"
  | .unknownCommand => "error: unrecognized command\n"
  | .unknownArgument => "error: unexpected argument\n"
  | .badValue => "error: missing or invalid value for an option\n"
  | .needlessValue => "error: an option that takes no value was given one\n"
  | .conflict => "error: options given twice or in conflict\n"

def obey (w : World) (c : CommandLine) (colored : Bool) : Run :=
  match c.command with
  | .check paths strict => check colored w c.config strict paths
  | .list format => list w c.config format
  | .init force => init w c.config force

/-- Obeys a command line. `showsColors` says whether colours are shown where nothing is said. -/
def run (showsColors : Bool) (w : World) (words : List String) : Run × Display :=
  match CommandLine.read words with
  | .error e =>
    let plain : Display := ⟨false, .warn⟩
    match e with
    | .help | .version => (⟨success, refusal e, [], w⟩, plain)
    | _ => (⟨failed, "", [.text (refusal e)], w⟩, plain)
  | .ok c =>
    let colored := match c.color with
      | .always => true
      | .never => false
      | .auto => showsColors
    (obey w c colored, ⟨c.color != .never, .ofVerbosity c.verbosity⟩)

end Patrol.Program
