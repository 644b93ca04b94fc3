/-! What can be asked for on the command line. -/
namespace Patrol

/-- Whether colours are used: where they are shown, always, or never. -/
inductive ColorChoice where
  | auto | always | never
deriving DecidableEq

/-- How rules are listed: for readers, or as one object on a line for each. -/
inductive ListFormat where
  | human | jsonl
deriving DecidableEq

/-- What is done. A check may be told whether to be strict, whatever the settings say. -/
inductive Command where
  | check (paths : List String) (strict : Option Bool)
  | list (format : ListFormat)
  | init (force : Bool)
deriving DecidableEq

structure CommandLine where
  command : Command
  color : ColorChoice
  verbosity : Nat
  config : String
deriving DecidableEq

namespace ColorChoice

def all : List ColorChoice := [.auto, .always, .never]

def name : ColorChoice → String
  | .auto => "auto"
  | .always => "always"
  | .never => "never"

def ofName? (name : String) : Option ColorChoice := all.find? (·.name == name)

end ColorChoice

namespace ListFormat

def all : List ListFormat := [.human, .jsonl]

def name : ListFormat → String
  | .human => "human"
  | .jsonl => "jsonl"

def ofName? (name : String) : Option ListFormat := all.find? (·.name == name)

end ListFormat

namespace CommandLine

/-- The file with the settings, unless another is named. -/
def standardConfig : String := "police.toml"

/-- The paths of a check, unless others are named. -/
def standardPaths : List String := ["."]

/-- No more repetitions of the switch for more messages are counted. -/
def maxVerbosity : Nat := 255

/-- Why a command line is not obeyed. Help and the version may be asked for in any place. -/
inductive Error where
  | help
  | version
  | nothingGiven
  | noCommand
  | unknownCommand
  | unknownArgument
  | badValue
  | needlessValue
  | conflict
deriving DecidableEq

end CommandLine
end Patrol
