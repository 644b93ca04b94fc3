import Patrol.Inspector
import Patrol.Text.Utf8
import Patrol.Total
import Patrol.Walk.Basic

/-! Checking all files below some paths. -/
namespace Patrol
open Patrol.Tree (World)

/-- A file with what came of looking at it. -/
structure Inspected where
  file : String
  inspection : Inspection

/-- Why paths cannot be checked. -/
inductive CheckError where
  | badGlob (cause : BadGlob)
  | walk (failure : Walk.Failure)

def CheckError.message : CheckError → String
  | .badGlob cause => "Configuration error: " ++ (ConfigError.badGlob cause).message
  | .walk failure => "File walker error: " ++ failure.message

namespace Check

/-- How files are read: the bytes in a file, or why it cannot be read. -/
abbrev Reader := String → Except Tree.Error (List UInt8)

/-- Looks at one file after the other, up to the first that stops the check. A file that cannot be
read is left out. Bytes that are no text are replaced and do not keep a file from being looked at. -/
def inspectAll (read : Reader) (i : Inspector) : List String → List Inspected
  | [] => []
  | file :: files =>
    match read file with
    | .error _ => inspectAll read i files
    | .ok bytes =>
      let inspection := i.inspect file (Text.lossyText bytes)
      if inspection.abort?.isSome then [⟨file, inspection⟩]
      else ⟨file, inspection⟩ :: inspectAll read i files

/-- What was passed over on the way, and what came of looking at the files in order. -/
structure Findings where
  passedOver : List (String × Skip)
  result : Except CheckError (List Inspected)

/-- Finds the files in a tree, reads them and looks at them. A walk that fails does so before any file
is looked at. -/
def runWith (read : Reader) (w : World) (c : Config) (catalog : Catalog) (paths : List String) :
    Findings :=
  match Filter.ofGlobs c.exclude with
  | .error cause => ⟨[], .error (.badGlob cause)⟩
  | .ok filter =>
    match Walk.discover w filter paths with
    | ⟨passedOver, .error failure⟩ => ⟨passedOver, .error (.walk failure)⟩
    | ⟨passedOver, .ok files⟩ =>
      ⟨passedOver, .ok (inspectAll read ⟨catalog, c.enforcement, filter⟩ files)⟩

/-- A check of a tree that stays as it is, and in which whoever checks it may read all files. -/
def run (w : World) (c : Config) (catalog : Catalog) (paths : List String) : Findings :=
  runWith w.read w c catalog paths

def filesChecked (all : List Inspected) : Nat := all.length

def filesReported (all : List Inspected) : Nat := all.countP fun f => f.inspection.count != 0

def violations (all : List Inspected) : Nat := total (·.inspection.count) all

/-- The reports, in the order of the files. -/
def reports (all : List Inspected) : List String :=
  all.filterMap fun f => f.inspection.report? f.file

/-- The violation that stopped the check. -/
def aborted? (all : List Inspected) : Option Violation := all.findSome? (·.inspection.abort?)

/-- What is said about it. -/
def stop? (all : List Inspected) : Option Report.Stop := (aborted? all).map .ofViolation

end Check
end Patrol
