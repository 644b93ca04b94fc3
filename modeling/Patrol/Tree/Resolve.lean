import Patrol.Tree.Error
import Patrol.Tree.Folder

/-! Where paths lead in a tree with links, and what can be read there. -/
namespace Patrol.Tree

/-- All directories below the top, and the one that paths start from. -/
structure World where
  top : Folder
  here : Place

/-- The greatest size of a name, in bytes. -/
def maxNameSize : Nat := 255

/-- How many links one path may lead through. -/
def maxLinks : Nat := 40

def checkName (name : String) : Except Error Unit :=
  if name.utf8ByteSize ≤ maxNameSize then .ok () else .error .nameTooLong

namespace Route

/-- Where a route starts that is met in the directory at a place. -/
def start (r : Route) (place : Place) : Place := if r.absolute then [] else place

/-- The steps of a route; a slash at the end is one more step into the directory itself. -/
def allSteps (r : Route) : List String := if r.slash then r.steps ++ ["."] else r.steps

end Route

/-- Follows steps from a directory up to the first link. From there on `next` follows those of the
link and the steps behind it. -/
def followToLink (next : Place → List String → Except Error (Place × Entry)) (top : Folder) :
    Place → List String → Except Error (Place × Entry)
  | place, [] =>
    match top.at? place with
    | some inner => .ok (place, .directory inner)
    | none => .error .notFound
  | place, step :: rest =>
    if step == "." then followToLink next top place rest
    else if step == ".." then followToLink next top place.dropLast rest
    else do
      checkName step
      match (top.at? place).bind (·.find? step) with
      | none => throw .notFound
      | some (.directory _) => followToLink next top (place ++ [step]) rest
      | some (.file bytes) =>
        if rest.isEmpty then return (place ++ [step], .file bytes) else throw .notADirectory
      | some (.link target) =>
        let route := Route.ofPath target
        next (route.start place) (route.allSteps ++ rest)

/-- Follows steps from a directory to the end, through at most `links` links. -/
def follow (top : Folder) : Nat → Place → List String → Except Error (Place × Entry)
  | 0 => followToLink (fun _ _ => .error .tooManyLinks) top
  | links + 1 => followToLink (follow top links) top

namespace World

/-- What a path leads to, and the place where it stands. -/
def resolveRoute (w : World) (r : Route) : Except Error (Place × Entry) :=
  if r.isEmpty then .error .notFound else follow w.top maxLinks (r.start w.here) r.allSteps

def resolve (w : World) (path : String) : Except Error (Place × Entry) :=
  w.resolveRoute (.ofPath path)

def holds (w : World) (path : String) : Bool := (w.resolve path).isOk

def hasDirectory (w : World) (path : String) : Bool :=
  match w.resolve path with
  | .ok (_, .directory _) => true
  | _ => false

/-- The bytes of the file that a path leads to. -/
def read (w : World) (path : String) : Except Error (List UInt8) := do
  match ← w.resolve path with
  | (_, .file bytes) => return bytes
  | _ => throw .isADirectory

end World
end Patrol.Tree
