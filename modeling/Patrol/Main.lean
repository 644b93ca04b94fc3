import Patrol.Program

/-! The program on a file system: takes in what a command may look at, does the command, and writes
out what it says and makes. -/
namespace Patrol.Main
open Patrol.Tree

/-! Taking in. A place is a directory by its names from the top of the file system, none of which
is a link. -/

def kind (place : Place) (name : String) : IO (Option IO.FS.FileType) := do
  let entry : IO.FS.DirEntry := ⟨Walk.absolutePath place, name⟩
  match ← entry.path.symlinkMetadata.toBaseIO with
  | .ok data => return some data.type
  | .error _ => return none

def takeFile (w : World) (place : Place) (name : String) : IO World := do
  match ← (IO.FS.readBinFile (Path.join (Walk.absolutePath place) name)).toBaseIO with
  | .ok bytes => return w.put place name (.file bytes.toList)
  | .error _ => return w

def takeDirectory (w : World) (place : Place) : World := (w.makeDirectories true place.reverse).1

/-- Takes in a directory without its entries, but with what says which of them are ignored. -/
def takeLevel (w : World) (place : Place) : IO World := do
  let w ← takeFile (takeDirectory w place) place ".ignore"
  let w ← takeFile w place ".gitignore"
  match ← kind place ".git" with
  | none => return w
  | some .dir =>
    let info := place ++ [".git", "info"]
    takeFile (takeDirectory w info) info "exclude"
  | some _ => return w.put place ".git" (.file [])

/-- Takes in a directory and those above it. -/
def takeLevels (w : World) (place : Place) : IO World :=
  (List.range (place.length + 1)).foldlM (fun w n => takeLevel w (place.take n)) w

/-- Takes in a link, with where it leads to in the end. One that leads nowhere is left out. -/
def takeLink (w : World) (place : Place) (name : String) : IO (World × Option Place) := do
  match ← (IO.FS.realPath (Path.join (Walk.absolutePath place) name)).toBaseIO with
  | .ok target => return (w.put place name (.link target.toString), some (Path.steps target.toString))
  | .error _ => return (w, none)

/-- Takes in what stands under a name. -/
def takeEntry (w : World) (place : Place) (name : String) : IO World := do
  match ← kind place name with
  | none => return w
  | some .dir => takeLevels w (place ++ [name])
  | some .symlink =>
    let (w, some target) ← takeLink w place name | return w
    let w ← takeLevels w target.dropLast
    let some last := target.getLast? | return w
    if (← kind target.dropLast last) == some .dir then takeLevels w target
    else takeFile w target.dropLast last
  | some _ => takeFile w place name

/-- Takes in all that a path leads through, step by step. -/
def takePath (w : World) (path : String) : IO World := do
  let r := Route.ofPath path
  (List.range r.steps.length).foldlM (fun w n => do
    match w.resolveRoute ⟨r.absolute, "." :: r.steps.take n, false⟩, r.steps[n]? with
    | .ok (place, .directory _), some name =>
      if isName name then takeEntry w place name else return w
    | _, _ => return w) w

/-- Takes in all below a directory but what need not be entered. Only files of a known dialect are
read. -/
partial def takeBelow (prunes : String → Bool) (w : World) (path : String) (place : Place) :
    IO World := do
  let .ok root ← (IO.FS.realPath (Walk.absolutePath place)).toBaseIO | return w
  let .ok entries ← root.readDir.toBaseIO | return w
  entries.foldlM (fun w entry => do
    let name := entry.fileName
    let inner := Path.join path name
    match ← kind place name with
    | some .dir =>
      if name == ".git" then return w
      else if prunes inner then return takeDirectory w (place ++ [name])
      else takeBelow prunes (← takeLevel w (place ++ [name])) inner (place ++ [name])
    | some .symlink =>
      if ((w.top.at? place).bind (·.find? name)).isSome then return w
      else return (← takeLink w place name).1
    | some .file =>
      if (Language.detect? name).isSome then takeFile w place name
      else if ((w.top.at? place).bind (·.find? name)).isSome then return w
      else return w.put place name (.file [])
    | _ => return w) w

/-- Takes in what a command line names. -/
def takeAll (words : List String) : IO World := do
  let here := Path.steps (← IO.FS.realPath ".").toString
  let w ← takeLevels ⟨.empty, here⟩ here
  let .ok line := CommandLine.read words | return w
  let w ← takePath w line.config
  let .check paths _ := line.command | return w
  let .ok settings := Config.loadOrStandard w line.config | return w
  let .ok filter := Filter.ofGlobs settings.exclude | return w
  paths.foldlM (fun w path => do
    let w ← takePath w path
    match w.resolve path with
    | .ok (place, .directory _) => takeBelow filter.prunes w path place
    | _ => return w) w

/-! Writing out. -/

/-- Writes the file with the settings where a command made or changed it. -/
def writeConfig (before after : World) (words : List String) : IO Unit := do
  let .ok line := CommandLine.read words | return
  let .ok bytes := after.read line.config | return
  if (before.read line.config).toOption != some bytes then
    if let some parent := Path.parent? line.config then
      if !parent.isEmpty then
        IO.FS.createDirAll ((if parent.absolute then "/" else "") ++ "/".intercalate parent.steps)
    IO.FS.writeBinFile line.config ⟨bytes.toArray⟩

/-- Terminals show colours unless they are known not to, or are asked not to. -/
def showsColors : IO Bool := do
  match ← IO.getEnv "TERM" with
  | none | some "dumb" => return false
  | some _ => return (← IO.getEnv "NO_COLOR").isNone

end Patrol.Main

/-- Does what the words ask for and gives the exit code. -/
def main (words : List String) : IO UInt32 := do
  let world ← Patrol.Main.takeAll words
  let (run, display) := Patrol.Program.run (← Patrol.Main.showsColors) world words
  let messages ← IO.getStderr
  match ← (Patrol.Main.writeConfig world run.world words).toBaseIO with
  | .error e =>
    messages.putStr ("Error: I/O error: " ++ toString e ++ "\n")
    return Patrol.Program.failed.toUInt32
  | .ok _ =>
    (← IO.getStdout).putStr run.output
    run.messages.forM fun m => messages.putStr (m.render display)
    return run.exit.toUInt32
