import Patrol.Text.Quoted

/-! Messages about the progress of a check, for those who ask for them. -/
namespace Patrol.Log

/-- How much a message matters; the first levels matter most. -/
inductive Level where
  | warn | info | debug | trace
deriving DecidableEq

namespace Level

def rank : Level → Nat
  | .warn => 0
  | .info => 1
  | .debug => 2
  | .trace => 3

def name : Level → String
  | .warn => "WARN"
  | .info => "INFO"
  | .debug => "DEBUG"
  | .trace => "TRACE"

/-- The least important level that is shown when more messages are asked for so many times. -/
def ofVerbosity : Nat → Level
  | 0 => .warn
  | 1 => .info
  | 2 => .debug
  | _ => .trace

/-- The colour of a level on a terminal. -/
def color : Level → String
  | .warn => "\x1b[33m"
  | .info => "\x1b[32m"
  | .debug => "\x1b[34m"
  | .trace => "\x1b[35m"

end Level

/-- A message with named values, which are written already. -/
structure Event where
  level : Level
  message : String
  fields : List (String × String)

/-- A value in quotation marks. -/
def quoted (name value : String) : String × String := (name, Text.quoted value)

def number (name : String) (n : Nat) : String × String := (name, toString n)

/-- The name of a level, in five columns. -/
def Level.column (l : Level) : String := (if l.name.length < 5 then " " else "") ++ l.name

/-- An event on one line; with colours, the level has its own and the names are slanted. -/
def Event.render (colored : Bool) (e : Event) : String :=
  if colored then
    e.level.color ++ e.level.column ++ "\x1b[0m " ++ e.message ++
      String.join (e.fields.map fun (name, value) =>
        " \x1b[3m" ++ name ++ "\x1b[0m\x1b[2m=\x1b[0m" ++ value) ++ "\n"
  else
    e.level.column ++ " " ++ e.message ++
      String.join (e.fields.map fun (name, value) => " " ++ name ++ "=" ++ value) ++ "\n"

end Patrol.Log
