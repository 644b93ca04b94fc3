import Patrol.Filter
import Patrol.Tree.Resolve
import Patrol.Walk.Ignore

/-! Walking through directories in search of files. -/
namespace Patrol.Walk
open Patrol.Tree

/-- The ignore list in a file that steps from a directory lead to; empty where there is none. -/
def ignoreList (w : World) (place : Place) (directory : String) (steps : List String) :
    IgnoreList :=
  match follow w.top maxLinks place steps with
  | .ok (_, .file bytes) => .ofFile directory (Path.join directory ("/".intercalate steps)) bytes
  | _ => ⟨directory.toList, [], []⟩

/-- What a directory contributes, by its place and by the path under which it was reached. -/
def level (w : World) (place : Place) (directory : String) : IgnoreLevel where
  own := ignoreList w place directory [".ignore"]
  versioned := ignoreList w place directory [".gitignore"]
  unshared := ignoreList w place directory [".git", "info", "exclude"]
  startsVersionControl := (follow w.top maxLinks place [".git"]).isOk

/-- The path of a place from the top. -/
def absolutePath (place : Place) : String := "/" ++ "/".intercalate place

/-- The levels of the directories above a place, the nearest one first. -/
def levelsAbove (w : World) (place : Place) : List IgnoreLevel :=
  ((List.range place.length).map fun n => level w (place.take n) (absolutePath (place.take n))).reverse

/-- Where a walk starts: the path it was given and the directory's place. -/
structure Root where
  path : String
  place : Place

/-- What is known on the way: the levels passed since the start, the nearest one first, and those
above the start. -/
structure Trail where
  passed : List IgnoreLevel
  above : List IgnoreLevel

/-- The part of a path behind the start of the walk. -/
def behind (root : Root) (path : List Char) : List Char :=
  if root.path == "." then path
  else
    let rest := (stripPrefix? (dropHere root.path.toList) path).getD path
    (stripPrefix? ['/'] rest).getD rest

/-- An entry as the levels of a trail name it: by its path, and above the start from the top. -/
def Trail.sights (t : Trail) (root : Root) (path : String) : List Sight :=
  let path := dropHere path.toList
  let fromTop := (Path.join (absolutePath root.place) (String.ofList (behind root path))).toList
  t.passed.map (·, path) ++ t.above.map (·, fromTop)

/-- The files below a directory that are neither ignored nor in a directory that is not entered.
Links are passed over. -/
def files (w : World) (filter : Filter) (root : Root) (trail : Trail) (directory : String)
    (place : Place) : Folder → List String
  | .empty => []
  | .file name _ rest =>
    let path := Path.join directory name
    let found := if isIgnored (trail.sights root path) false then [] else [path]
    found ++ files w filter root trail directory place rest
  | .link _ _ rest => files w filter root trail directory place rest
  | .directory name inner rest =>
    let path := Path.join directory name
    let found :=
      if isIgnored (trail.sights root path) true || name == ".git" || filter.prunes path then []
      else
        let place := place ++ [name]
        let trail := { trail with passed := level w place path :: trail.passed }
        files w filter root trail path place inner
    found ++ files w filter root trail directory place rest

/-- Why the files that paths stand for are not found: a path leads nowhere, or something is wrong
with ignore files above one. -/
inductive Failure where
  | missing (path : String)
  | faulty (faults : List Fault)
deriving DecidableEq

def Failure.message : Failure → String
  | .missing path => "Path does not exist: " ++ path
  | .faulty faults => "Walk error: " ++ "\n".intercalate (faults.map (·.message))

/-- Whether a path is taken for the input of the program, in which there are no files. -/
def isInput (path : String) : Bool := Path.parts path == Path.parts "-"

/-- What is wrong with the ignore files above the directory to which a path leads, from the top down.
Other ignore files are read as far as they go. -/
def faultsAbove (w : World) (path : String) : List Fault :=
  match w.resolve path with
  | .ok (place, .directory _) =>
    if isInput path then [] else (levelsAbove w place).reverse.flatMap (·.faults)
  | _ => []

/-- The files from an entry on: itself if it is a file, and those below it if it is a directory. -/
def filesFrom (w : World) (filter : Filter) (path : String) (place : Place) : Entry → List String
  | .directory inner =>
    files w filter ⟨path, place⟩ ⟨[level w place path], levelsAbove w place⟩ path place inner
  | _ => [path]

/-- The files that a path stands for. A walk does not start below ignore files with faults. -/
def filesOf (w : World) (filter : Filter) (path : String) : Except Failure (List String) :=
  match w.resolve path with
  | .error _ => .error (.missing path)
  | .ok (place, entry) =>
    match faultsAbove w path with
    | [] => .ok (if isInput path then [] else filesFrom w filter path place entry)
    | faults => .error (.faulty faults)

/-- What was found on a walk: files to be looked at, in the order in which they were met, and
files that are passed over. -/
structure Findings where
  passedOver : List (String × Skip)
  found : List String

/-- Sorts out the files that the filter wants. -/
def Findings.ofFiles (filter : Filter) : List String → Findings
  | [] => ⟨[], []⟩
  | path :: paths =>
    let rest := ofFiles filter paths
    match filter.verdict path with
    | .ok _ => { rest with found := path :: rest.found }
    | .error why => { rest with passedOver := (path, why) :: rest.passedOver }

def Findings.append (a b : Findings) : Findings :=
  ⟨a.passedOver ++ b.passedOver, a.found ++ b.found⟩

/-- Walks one path after the other, up to the first from which no walk starts. Gives what was found,
and why the walks ended there. -/
def walkAll (w : World) (filter : Filter) : List String → Findings × Option Failure
  | [] => (⟨[], []⟩, none)
  | path :: paths =>
    match filesOf w filter path with
    | .error failure => (⟨[], []⟩, some failure)
    | .ok files =>
      let (more, failure) := walkAll w filter paths
      ((Findings.ofFiles filter files).append more, failure)

/-- Drops a path that equals the one in front of it, part by part. -/
def dropEqual : List String → List String
  | [] => []
  | path :: paths =>
    match dropEqual paths with
    | [] => [path]
    | next :: rest =>
      if Path.parts path = Path.parts next then path :: rest else path :: next :: rest

/-- The paths in order, each of them once. -/
def inOrder (paths : List String) : List String :=
  dropEqual (paths.mergeSort fun a b => Path.compare a b != .gt)

/-- What was passed over on a walk, and the files to be looked at, in order and each of them once;
or why the first walk that fails does. -/
structure Discovery where
  passedOver : List (String × Skip)
  files : Except Failure (List String)

/-- Finds the files that paths stand for. -/
def discover (w : World) (filter : Filter) (paths : List String) : Discovery :=
  match walkAll w filter paths with
  | (findings, some failure) => ⟨findings.passedOver, .error failure⟩
  | (findings, none) => ⟨findings.passedOver, .ok (inOrder findings.found)⟩

end Patrol.Walk
