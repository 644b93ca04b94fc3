import Patrol.CommandLine.Basic

/-! The words that ask for a command. -/
namespace Patrol

/-- The command with its own options. Paths stand behind two dashes, so that none of them is taken
for an option. -/
def Command.words : Command → List String
  | .check paths strict =>
    let switch := match strict with
      | none => []
      | some true => ["--strict"]
      | some false => ["--no-strict"]
    "check" :: switch ++ "--" :: paths
  | .list format => ["list", "--format", format.name]
  | .init force => "init" :: if force then ["--force"] else []

namespace CommandLine

/-- The options in front of the command. -/
def options (c : CommandLine) : List String :=
  ["--color", c.color.name, "--config=" ++ c.config] ++ List.replicate c.verbosity "-v"

def words (c : CommandLine) : List String := c.options ++ c.command.words

end CommandLine
end Patrol
