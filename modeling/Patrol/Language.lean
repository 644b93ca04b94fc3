import Patrol.Text.Split

/-! The dialects of source files, told by the extension of a file's name. -/
namespace Patrol
open Text (splitAtFirst splitAtLast afterLast)

inductive Language where
  | vue | javaScript | typeScript
deriving DecidableEq

namespace Language

/-- All dialects, in the order in which they are listed. -/
def all : List Language := [.vue, .javaScript, .typeScript]

def name : Language → String
  | .vue => "vue"
  | .javaScript => "javascript"
  | .typeScript => "typescript"

def ofName? (name : String) : Option Language := all.find? (·.name == name)

/-- The extensions of a dialect, without the dot. -/
def extensions : Language → List String
  | .vue => ["vue"]
  | .javaScript => ["js", "jsx", "mjs", "cjs"]
  | .typeScript => ["ts", "tsx", "mts", "cts"]

def ofExtension? (extension : String) : Option Language :=
  all.find? (·.extensions.contains extension)

/-- A file's identifier without the query that a build tool may have put behind it. -/
def dropQuery (file : List Char) : List Char := file.takeWhile (· != '?')

def isSeparator (c : Char) : Bool := c == '/' || c == '\\'

/-- The dialect of a file: its name is a stem, a dot and one of the dialect's extensions. -/
def detect? (file : String) : Option Language :=
  match splitAtLast (· == '.') (afterLast isSeparator (dropQuery file.toList)) with
  | none | some ([], _) => none
  | some (_ :: _, extension) => ofExtension? (String.ofList extension)

end Language
end Patrol
