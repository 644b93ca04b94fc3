import Patrol.Tree.Resolve

/-! Making files and directories. -/
namespace Patrol.Tree

/-- The last step of a route and the steps in front of it. -/
def splitSteps (steps : List String) : Option (List String × String) :=
  steps.getLast?.map (steps.dropLast, ·)

def isName (step : String) : Bool := step != "." && step != ".."

/-- The directory and the name under which a route puts a file. Links at the end are followed, also
to where nothing is yet. -/
def fileSpot (top : Folder) : Nat → Place → Route → Except Error (Place × String)
  | links, place, r =>
    match splitSteps r.steps with
    | none => .error (if r.absolute then .isADirectory else .notFound)
    | some (way, last) => do
      let (place, entry) ← follow top maxLinks (r.start place) way
      let .directory inner := entry | throw .notADirectory
      if r.slash || !isName last then throw .isADirectory
      checkName last
      match inner.find? last with
      | some (.directory _) => throw .isADirectory
      | some (.link target) =>
        match links with
        | 0 => throw .tooManyLinks
        | links + 1 => fileSpot top links place (.ofPath target)
      | _ => return (place, last)

/-- The directory and the name under which a route makes a directory: nothing may stand there. -/
def directorySpot (top : Folder) (place : Place) (r : Route) : Except Error (Place × String) :=
  match splitSteps r.steps with
  | none => .error (if r.absolute then .alreadyExists else .notFound)
  | some (way, last) => do
    let (place, entry) ← follow top maxLinks (r.start place) way
    let .directory inner := entry | throw .notADirectory
    if !isName last then throw .alreadyExists
    checkName last
    if (inner.find? last).isSome then throw .alreadyExists
    return (place, last)

namespace World

def put (w : World) (place : Place) (name : String) (entry : Entry) : World :=
  { w with top := w.top.putAt name entry place }

/-- Writes a file, which may be there already. -/
def write (w : World) (path : String) (bytes : List UInt8) : Except Error World := do
  let (place, name) ← fileSpot w.top maxLinks w.here (.ofPath path)
  return w.put place name (.file bytes)

def makeDirectory (w : World) (r : Route) : Except Error World := do
  let (place, name) ← directorySpot w.top w.here r
  return w.put place name (.directory .empty)

def leadsToDirectory (w : World) (r : Route) : Bool :=
  match w.resolveRoute r with
  | .ok (_, .directory _) => true
  | _ => false

/-- Makes a directory where none is yet. -/
def ensureDirectory (w : World) (r : Route) : World × Option Error :=
  match w.makeDirectory r with
  | .ok made => (made, none)
  | .error e => if w.leadsToDirectory r then (w, none) else (w, some e)

/-- Makes a directory, and those above it where they are missing; the steps to it are listed last
first. Gives the tree as it is then, with the error where one could not be made: those above it
stay. -/
def makeDirectories (w : World) (absolute : Bool) : List String → World × Option Error
  | [] => (w, none)
  | last :: above =>
    let r : Route := ⟨absolute, (last :: above).reverse, false⟩
    match w.makeDirectory r with
    | .error .notFound =>
      match w.makeDirectories absolute above with
      | (w, none) => w.ensureDirectory r
      | (w, some e) => (w, some e)
    | _ => w.ensureDirectory r

end World
end Patrol.Tree
