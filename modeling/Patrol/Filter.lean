import Patrol.Glob.Basic
import Patrol.Language

/-! Which files are looked at: those of a known dialect that no exclude glob accepts. -/
namespace Patrol
open Patrol.Language (dropQuery)

/-- A text that is no glob. -/
structure BadGlob where
  glob : String
  cause : Glob.Error
deriving DecidableEq

def BadGlob.message (b : BadGlob) : String :=
  "Invalid exclude glob pattern '" ++ b.glob ++ "': error parsing glob '" ++ b.glob ++ "': " ++
    b.cause.message

/-- Why a file is passed over. -/
inductive Skip where
  | excluded | noLanguage
deriving DecidableEq

def Skip.name : Skip → String
  | .excluded => "ExcludedByPattern"
  | .noLanguage => "NoMatchingLanguage"

structure Filter where
  globs : List Glob

namespace Filter

/-- The directories of dependencies and build tools. -/
def defaultGlobs : List String := ["**/node_modules/**", "**/.nuxt/**"]

/-- The filter of a list of globs; the first text that is none is named. -/
def ofGlobs (sources : List String) : Except BadGlob Filter := do
  let globs ← sources.mapM fun source =>
    (Glob.compile .strict source).mapError fun cause => BadGlob.mk source cause
  return ⟨globs⟩

def patterns (f : Filter) : List String := f.globs.map (·.source)

/-- Globs know the slash alone as a separator. -/
def slashed (cs : List Char) : List Char := cs.map fun c => if c = '\\' then '/' else c

def excludes (f : Filter) (path : List Char) : Bool := f.globs.any (·.accepts path)

/-- The dialect of a file that is looked at, or why another is passed over. -/
def verdict (f : Filter) (file : String) : Except Skip Language :=
  let path := slashed (dropQuery file.toList)
  if f.excludes path then .error .excluded
  else
    match Language.detect? (String.ofList path) with
    | some language => .ok language
    | none => .error .noLanguage

/-- Whether a directory need not be entered: a glob accepts it with a slash behind it. -/
def prunes (f : Filter) (directory : String) : Bool :=
  let path := slashed directory.toList
  f.excludes (if path.getLast? = some '/' then path else path ++ ['/'])

end Filter
end Patrol
