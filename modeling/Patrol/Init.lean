import Patrol.Text.Utf8
import Patrol.Tree.Write

/-! Writing a file with the standard settings. -/
namespace Patrol.Init
open Patrol.Tree (Entry Route World)

/-- The file, with comments on every setting. -/
def document : String :=
  "# Police configuration\n" ++
  "\n" ++
  "[police]\n" ++
  "# Set to false to switch every check off\n" ++
  "enabled = true\n" ++
  "# Abort on the first violation instead of reporting everything\n" ++
  "strict = false\n" ++
  "\n" ++
  "[files]\n" ++
  "# Files under these globs are never inspected\n" ++
  "exclude = [\"**/node_modules/**\", \"**/.nuxt/**\"]\n" ++
  "\n" ++
  "[rules]\n" ++
  "# Keep rules that only apply to TypeScript and Vue files (any, @ts-ignore, ...)\n" ++
  "typed = true\n" ++
  "# Builtin rules to switch off; run `police list` to see their ids\n" ++
  "disabled = []\n" ++
  "\n" ++
  "# Extra rules are appended after the builtin ones:\n" ++
  "#\n" ++
  "# [[rules.custom]]\n" ++
  "# id = \"no-debugger\"\n" ++
  "# title = \"DEBUGGER LEFT BEHIND\"\n" ++
  "# marker = \"🐛\"\n" ++
  "# pattern = '\\bdebugger\\b'\n" ++
  "# message = \"\"\"\n" ++
  "# \"A debugger statement!? In a commit?\"\n" ++
  "# Remove it before pushing.\"\"\"\n"

inductive Outcome where
  | created | skipped | overwritten
deriving DecidableEq

/-- Why the file was not written. -/
inductive Error where
  | isDirectory (path : String)
  | unwritable (cause : Tree.Error)
deriving DecidableEq

def Error.message : Error → String
  | .isDirectory path => "Path error: Path '" ++ path ++ "' exists but is a directory"
  | .unwritable cause => "I/O error: " ++ cause.message

/-- Makes the directory of a new file where it is missing. -/
def makeParent (w : World) (path : String) : World × Option Tree.Error :=
  match Tree.Path.parent? path with
  | none => (w, none)
  | some r =>
    if r.isEmpty || (w.resolveRoute r).isOk then (w, none)
    else w.makeDirectories r.absolute r.steps.reverse

/-- Writes the file, or with `force` writes it anew. Gives the tree as it is then. -/
def run (w : World) (path : String) (force : Bool) : World × Except Error Outcome :=
  let write (w : World) (done : Outcome) : World × Except Error Outcome :=
    match w.write path (Text.bytesOf document.toList) with
    | .ok written => (written, .ok done)
    | .error e => (w, .error (.unwritable e))
  if w.hasDirectory path then (w, .error (.isDirectory path))
  else if w.holds path then
    if force then write w .overwritten else (w, .ok .skipped)
  else
    match makeParent w path with
    | (w, some e) => (w, .error (.unwritable e))
    | (w, none) => write w .created

end Patrol.Init
