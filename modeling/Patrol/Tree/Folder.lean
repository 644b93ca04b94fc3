import Patrol.Tree.Path

/-! Directories with all that is in them. -/
namespace Patrol.Tree

/-- The entries of a directory, each in front of the rest. -/
inductive Folder where
  | empty
  | file (name : String) (bytes : List UInt8) (rest : Folder)
  | link (name target : String) (rest : Folder)
  | directory (name : String) (inner rest : Folder)
deriving DecidableEq

/-- What stands under a name. -/
inductive Entry where
  | file (bytes : List UInt8)
  | link (target : String)
  | directory (inner : Folder)
deriving DecidableEq

namespace Folder

def add (name : String) (entry : Entry) (rest : Folder) : Folder :=
  match entry with
  | .file bytes => .file name bytes rest
  | .link target => .link name target rest
  | .directory inner => .directory name inner rest

def find? (name : String) : Folder → Option Entry
  | .empty => none
  | .file n bytes rest => if n = name then some (.file bytes) else rest.find? name
  | .link n target rest => if n = name then some (.link target) else rest.find? name
  | .directory n inner rest => if n = name then some (.directory inner) else rest.find? name

/-- Puts an entry under a name, in the place of what stands there, or behind the others. -/
def put (name : String) (entry : Entry) : Folder → Folder
  | .empty => .add name entry .empty
  | .file n bytes rest =>
    if n = name then .add name entry rest else .file n bytes (rest.put name entry)
  | .link n target rest =>
    if n = name then .add name entry rest else .link n target (rest.put name entry)
  | .directory n inner rest =>
    if n = name then .add name entry rest else .directory n inner (rest.put name entry)

/-- The directory at a place. -/
def at? (folder : Folder) : Place → Option Folder
  | [] => some folder
  | name :: place =>
    match folder.find? name with
    | some (.directory inner) => inner.at? place
    | _ => none

/-- Puts an entry under a name of the directory at a place; without that directory nothing
changes. -/
def putAt (name : String) (entry : Entry) : Place → Folder → Folder
  | [], folder => folder.put name entry
  | n :: place, folder =>
    match folder.find? n with
    | some (.directory inner) => folder.put n (.directory (inner.putAt name entry place))
    | _ => folder

end Folder
end Patrol.Tree
