import Patrol.CommandLine.Basic
import Patrol.Text.Split

/-! Reading a command line. Options stand in front of the command or behind it, and every command
has some of its own. An option that needs a value takes the rest of its word or the next word. The
value of a next word is looked at only when the following option or path is met, or at the end. -/
namespace Patrol.CommandLine

/-- Where an option stands: in front of the command, or behind one of the commands. -/
inductive Level where
  | front | check | list | init
deriving DecidableEq

inductive Switch where
  | color | config | verbose | strict | noStrict | format | force | help | version
deriving DecidableEq

/-- Whether a switch needs a value. -/
def Switch.takesValue : Switch → Bool
  | .color | .config | .format => true
  | _ => false

namespace Level

/-- The switches of a level that have long names. -/
def longNames : Level → List (String × Switch)
  | .front => common ++ [("version", .version)]
  | .check => common ++ [("strict", .strict), ("no-strict", .noStrict)]
  | .list => common ++ [("format", .format)]
  | .init => common ++ [("force", .force)]
where
  common : List (String × Switch) :=
    [("color", .color), ("config", .config), ("verbose", .verbose), ("help", .help)]

/-- The switches of a level that have names of one character. -/
def shortNames : Level → List (Char × Switch)
  | .front => common ++ [('V', .version)]
  | .list => common ++ [('f', .format)]
  | _ => common
where
  common : List (Char × Switch) := [('v', .verbose), ('h', .help)]

def ofCommand? : String → Option Level
  | "check" => some .check
  | "list" => some .list
  | "init" => some .init
  | _ => none

end Level

/-- What one level was given. -/
structure Given where
  color : Option ColorChoice := none
  config : Option String := none
  verbosity : Nat := 0
  strict : Bool := false
  noStrict : Bool := false
  format : Option ListFormat := none
  force : Bool := false
  paths : List String := []

namespace Given

/-- Sets a switch that needs a value. None is set twice, and a value must be one of its kind; no
value is empty. -/
def setValue (g : Given) (s : Switch) (value : String) : Except Error Given :=
  match s with
  | .color =>
    if g.color.isSome then .error .conflict
    else
      match ColorChoice.ofName? value with
      | some c => .ok { g with color := some c }
      | none => .error .badValue
  | .format =>
    if g.format.isSome then .error .conflict
    else
      match ListFormat.ofName? value with
      | some f => .ok { g with format := some f }
      | none => .error .badValue
  | .config =>
    if g.config.isSome then .error .conflict
    else if value == "" then .error .badValue
    else .ok { g with config := some value }
  | _ => .error .needlessValue

/-- Sets a switch without a value. -/
def setSwitch (g : Given) : Switch → Except Error Given
  | .verbose => .ok { g with verbosity := min maxVerbosity (g.verbosity + 1) }
  | .strict => if g.strict then .error .conflict else .ok { g with strict := true }
  | .noStrict => if g.noStrict then .error .conflict else .ok { g with noStrict := true }
  | .force => if g.force then .error .conflict else .ok { g with force := true }
  | .help => .error .help
  | .version => .error .version
  | .color | .config | .format => .error .badValue

def addPaths (g : Given) (paths : List String) : Except Error Given :=
  if paths.contains "" then .error .badValue else .ok { g with paths := g.paths ++ paths }

end Given

/-- Words that are not looked at yet: the value of a switch, if it was met, or paths. -/
inductive Pending where
  | nothing
  | value (s : Switch) (value : Option String)
  | paths (paths : List String)

/-- How far the words of a level are read. With `onlyPaths` no word is an option any more. -/
structure State where
  given : Given := {}
  pending : Pending := .nothing
  onlyPaths : Bool := false

namespace State

/-- Whether the next word is a value. -/
def awaitsValue (st : State) : Bool :=
  match st.pending with
  | .value _ none => true
  | _ => false

/-- Looks at the words that were put off. -/
def settle (st : State) : Except Error State := do
  let given ← match st.pending with
    | .nothing => pure st.given
    | .value _ none => throw .badValue
    | .value s (some v) => st.given.setValue s v
    | .paths paths => st.given.addPaths paths
  return { st with given, pending := .nothing }

def setSwitch (st : State) (s : Switch) : Except Error State := do
  let st ← st.settle
  return { st with given := ← st.given.setSwitch s }

def setValue (st : State) (s : Switch) (value : String) : Except Error State := do
  let st ← st.settle
  return { st with given := ← st.given.setValue s value }

/-- Lets the next word be the value of a switch. -/
def await (st : State) (s : Switch) : Except Error State := do
  return { (← st.settle) with pending := .value s none }

/-- A word that begins with two dashes, without them. -/
def readLong (level : Level) (st : State) (word : List Char) : Except Error State := do
  let (name, value) := match Text.splitAtFirst ['='] word with
    | some (name, value) => (name, some (String.ofList value))
    | none => (word, none)
  let some s := level.longNames.lookup (String.ofList name) | throw .unknownArgument
  match s.takesValue, value with
  | true, some v => st.setValue s v
  | true, none => st.await s
  | false, some _ => throw .needlessValue
  | false, none => st.setSwitch s

/-- A word that begins with one dash, without it: switches of one character each, up to the first
that needs a value and takes the rest. -/
def readShort (level : Level) : State → List Char → Except Error State
  | st, [] => .ok st
  | st, c :: cs => do
    let some s := level.shortNames.lookup c | throw .unknownArgument
    if s.takesValue then
      match cs with
      | [] => st.await s
      | '=' :: v => st.setValue s (String.ofList v)
      | v => st.setValue s (String.ofList v)
    else readShort level (← st.setSwitch s) cs

/-- A word that is no option: only checks have paths. -/
def readPath (level : Level) (st : State) (word : String) : Except Error State :=
  match level with
  | .check =>
    match st.pending with
    | .paths paths => .ok { st with pending := .paths (paths ++ [word]) }
    | _ => do return { (← st.settle) with pending := .paths [word] }
  | .front =>
    .error (if st.onlyPaths && (Level.ofCommand? word |>.isSome) || st.onlyPaths && word == "help"
      then .unknownArgument else .unknownCommand)
  | _ => .error .unknownArgument

/-- One word of a level. -/
def readWord (level : Level) (st : State) (word : String) : Except Error State :=
  if st.onlyPaths then st.readPath level word
  else
    match word.toList with
    | ['-', '-'] => .ok { st with onlyPaths := true }
    | '-' :: '-' :: cs => st.readLong level cs
    | '-' :: c :: cs => readShort level st (c :: cs)
    | _ =>
      match st.pending with
      | .value s none => .ok { st with pending := .value s (some word) }
      | _ => st.readPath level word

end State

/-- The words in front of the command, the command, and the words behind it. -/
def splitCommand : State → List String → Except Error (State × Option (String × List String))
  | st, [] => .ok (st, none)
  | st, word :: words =>
    let isCommand := (Level.ofCommand? word).isSome || word == "help"
    if isCommand && !st.onlyPaths && !st.awaitsValue then .ok (st, some (word, words))
    else do splitCommand (← st.readWord .front word) words

/-- The words behind a command. -/
def readLevel (level : Level) (words : List String) : Except Error Given := do
  let st ← words.foldlM (State.readWord level) {}
  let st ← st.settle
  if st.given.strict && st.given.noStrict then throw .conflict
  return st.given

/-- Help on the program, or on one of its commands. -/
def readHelp : List String → Error
  | [] => .help
  | [word] => if (Level.ofCommand? word).isSome || word == "help" then .help else .unknownCommand
  | _ => .unknownCommand

def Given.strictness (g : Given) : Option Bool :=
  if g.strict then some true else if g.noStrict then some false else none

def Given.command (g : Given) : Level → Command
  | .front | .check => .check (if g.paths.isEmpty then standardPaths else g.paths) g.strictness
  | .list => .list (g.format.getD .human)
  | .init => .init g.force

/-- What the words of a command line ask for. What stands behind the command counts more than what
stands in front of it. -/
def read (words : List String) : Except Error CommandLine := do
  let (st, command) ← splitCommand {} words
  match command with
  | none =>
    let given := (← st.settle).given
    if given.color.isNone && given.config.isNone && given.verbosity == 0 then throw .nothingGiven
    throw .noCommand
  | some (word, words) =>
    let some level := Level.ofCommand? word | throw (readHelp words)
    let behind ← readLevel level words
    let front := (← st.settle).given
    return {
      command := behind.command level
      color := (behind.color <|> front.color).getD .auto
      verbosity := if behind.verbosity == 0 then front.verbosity else behind.verbosity
      config := (behind.config <|> front.config).getD standardConfig }

end Patrol.CommandLine
