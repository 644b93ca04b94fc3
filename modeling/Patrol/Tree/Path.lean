import Patrol.Text.Split

/-! Paths: how they are split into parts, compared and put together. -/
namespace Patrol.Tree

/-- A directory or a file by the names that lead to it from the top. -/
abbrev Place := List String

/-- A part of a path: the top, the directory at hand, the one above it, or a name. -/
inductive Part where
  | top | here | up | name (name : String)
deriving DecidableEq

namespace Path

/-- The texts between slashes that are not empty. -/
def steps (path : String) : List String :=
  ((Text.splitOn '/' path.toList).filter (!·.isEmpty)).map String.ofList

def isAbsolute (path : String) : Bool := path.toList.head? == some '/'

def endsWithSlash (path : String) : Bool := path.toList.getLast? == some '/'

def partOf (step : String) : Part :=
  if step == "." then .here else if step == ".." then .up else .name step

/-- The parts of a path. The directory at hand counts in front of all others only. -/
def parts (path : String) : List Part :=
  let all := (steps path).map partOf
  if isAbsolute path then .top :: all.filter (· != .here)
  else
    match all with
    | [] => []
    | first :: rest => first :: rest.filter (· != .here)

def rank : Part → Nat
  | .top => 0
  | .here => 1
  | .up => 2
  | .name _ => 3

/-- The top comes first, then the directory at hand, the one above it, and names as texts. -/
def compareParts : Part → Part → Ordering
  | .name a, .name b => compare a b
  | a, b => compare (rank a) (rank b)

/-- Paths are ordered part by part. -/
def compare (a b : String) : Ordering := List.compareLex compareParts (parts a) (parts b)

/-- A name in a directory; there is one slash between them. -/
def join (directory name : String) : String :=
  if directory == "" || endsWithSlash directory then directory ++ name else directory ++ "/" ++ name

end Path

/-- Where a path leads: from the top or from the directory at hand, step by step; with a slash at
the end it asks for a directory. -/
structure Route where
  absolute : Bool
  steps : List String
  slash : Bool

namespace Route

def ofPath (path : String) : Route :=
  ⟨Path.isAbsolute path, Path.steps path, Path.endsWithSlash path⟩

def isEmpty (r : Route) : Bool := !r.absolute && r.steps.isEmpty

def stepOf : Part → Option String
  | .top => none
  | .here => some "."
  | .up => some ".."
  | .name n => some n

def ofParts (parts : List Part) : Route := ⟨parts.head? == some .top, parts.filterMap stepOf, false⟩

end Route

/-- The path without its last part; nothing is above the top and the empty path. -/
def Path.parent? (path : String) : Option Route :=
  match (parts path).getLast? with
  | none | some .top => none
  | some _ => some (.ofParts (parts path).dropLast)

end Patrol.Tree
