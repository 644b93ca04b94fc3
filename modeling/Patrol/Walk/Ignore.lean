import Patrol.Glob.Basic
import Patrol.Text.Blank
import Patrol.Tree.Path

/-! Ignore files: lists of globs that say which files of a directory are passed over. -/
namespace Patrol.Walk

/-- One line of an ignore file. -/
structure IgnoreRule where
  glob : Glob
  keeps : Bool
  directoriesOnly : Bool

/-- What is wrong with a line of an ignore file: it is no glob, or no text at all. -/
inductive Flaw where
  | badGlob (glob : String) (cause : Glob.Error)
  | notText
deriving DecidableEq

def Flaw.message : Flaw → String
  | .badGlob glob cause => "error parsing glob '" ++ glob ++ "': " ++ cause.message
  | .notText => "stream did not contain valid UTF-8"

/-- A flaw with the ignore file in which it is, and the number of its line. -/
structure Fault where
  file : String
  line : Nat
  flaw : Flaw
deriving DecidableEq

def Fault.message (f : Fault) : String :=
  f.file ++ ": line " ++ toString f.line ++ ": " ++ f.flaw.message

/-- What the rules of a directory say about an entry below it. -/
inductive Judgement where
  | silent | ignored | kept
deriving DecidableEq

/-- The first of two judgements that says something. -/
def Judgement.orElse (a b : Judgement) : Judgement := if a = .silent then b else a

namespace IgnoreRule

/-- Removes a slash at the end, with a backslash in front of it, and says whether it was there. -/
def splitSlash (cs : List Char) : Bool × List Char :=
  match cs.reverse with
  | '/' :: '\\' :: rest => (true, rest.reverse)
  | '/' :: rest => (true, rest.reverse)
  | _ => (false, cs)

/-- A glob without a slash holds in all directories below; one that ends with a double star does
not hold for the directory in front of the stars itself. -/
def widen (anchored : Bool) (cs : List Char) : List Char :=
  let deep := ['*', '*', '/']
  let cs :=
    if anchored || cs.contains '/' || cs == ['*', '*'] then cs else deep ++ cs
  if ['/', '*', '*'].isSuffixOf cs then cs ++ ['/', '*'] else cs

/-- What a line says: a rule, nothing where it is a comment or blank, or why it is no glob. An
exclamation mark in front keeps what other rules ignore; a slash in front ties the glob to the
directory of the file, and one at the end asks for directories. -/
def ofLine (line : List Char) : Except Flaw (Option IgnoreRule) := do
  if line.head? == some '#' then return none
  let line := if ['\\', ' '].isSuffixOf line then line else Text.dropBlankEnd line
  if line.isEmpty then return none
  let written := String.ofList line
  let (keeps, anchored, line) := match line with
    | '\\' :: '!' :: rest => (false, false, '!' :: rest)
    | '\\' :: '#' :: rest => (false, false, '#' :: rest)
    | '!' :: '/' :: rest => (true, true, rest)
    | '!' :: rest => (true, false, rest)
    | '/' :: rest => (false, true, rest)
    | rest => (false, false, rest)
  let (directoriesOnly, line) := splitSlash line
  let glob ← (Glob.compile .loose (String.ofList (widen anchored line))).mapError
    (Flaw.badGlob written)
  return some ⟨glob, keeps, directoriesOnly⟩

end IgnoreRule

/-- The lines of a text; a carriage return in front of the end of one does not count. -/
def linesOf (text : List UInt8) : List (List UInt8) :=
  let rec split : List UInt8 → List (List UInt8)
    | [] => [[]]
    | b :: bs =>
      if b == 0x0A then [] :: split bs
      else
        match split bs with
        | [] => [[b]]
        | line :: lines => (b :: line) :: lines
  let lines := split text
  let ended := lines.dropLast.map fun line =>
    if line.getLast? == some 0x0D then line.dropLast else line
  ended ++ lines.getLast?.toList

/-- What the lines of an ignore file say, one after the other: the rules, and the flaws with the
numbers of their lines. Reading ends at the first line that is not text; a mark of the byte order in
front of the first line does not count. -/
def readLines : Nat → List (List UInt8) → List IgnoreRule × List (Nat × Flaw)
  | _, [] => ([], [])
  | n, line :: lines =>
    match Text.text? line with
    | none => ([], [(n, .notText)])
    | some text =>
      let (rules, flaws) := readLines (n + 1) lines
      let line := if n = 1 then text.toList.dropWhile (· == '\uFEFF') else text.toList
      match IgnoreRule.ofLine line with
      | .ok none => (rules, flaws)
      | .ok (some rule) => (rule :: rules, flaws)
      | .error flaw => (rules, (n, flaw) :: flaws)

/-- The rules of an ignore file with the directory to which they are tied, and what is wrong with
other lines of the file. -/
structure IgnoreList where
  directory : List Char
  rules : List IgnoreRule
  faults : List Fault

def stripPrefix? (front cs : List Char) : Option (List Char) :=
  if front.isPrefixOf cs then some (cs.drop front.length) else none

/-- A path without the directory at hand in front. -/
def dropHere (cs : List Char) : List Char := (stripPrefix? ['.', '/'] cs).getD cs

namespace IgnoreList

/-- The list in a file. Where nothing is wrong but that the file cannot be read as text to its end,
no fault is found with it. -/
def ofFile (directory file : String) (bytes : List UInt8) : IgnoreList :=
  let (rules, flaws) := readLines 1 (linesOf bytes)
  let faults := if flaws.all (·.2 == .notText) then [] else flaws.map fun (n, flaw) => ⟨file, n, flaw⟩
  ⟨directory.toList, rules, faults⟩

/-- A path as it is seen from the directory of the list. -/
def relative (l : IgnoreList) (path : List Char) : List Char :=
  let path := dropHere path
  let root := dropHere l.directory
  if root == ['.'] || !path.contains '/' then path
  else
    match stripPrefix? root path with
    | none => path
    | some rest => (stripPrefix? ['/'] rest).getD rest

/-- The last rule that holds for an entry decides. -/
def judge (l : IgnoreList) (path : List Char) (isDirectory : Bool) : Judgement :=
  let path := l.relative path
  match l.rules.reverse.find? fun r =>
      (isDirectory || !r.directoriesOnly) && r.glob.accepts path with
  | none => .silent
  | some r => if r.keeps then .kept else .ignored

end IgnoreList

/-- What one directory contributes: its own list, those of version control, and whether version
control starts there. -/
structure IgnoreLevel where
  own : IgnoreList
  versioned : IgnoreList
  unshared : IgnoreList
  startsVersionControl : Bool

/-- What is wrong with the ignore files of a directory, in the order in which they are read. -/
def IgnoreLevel.faults (l : IgnoreLevel) : List Fault :=
  l.own.faults ++ l.versioned.faults ++ l.unshared.faults

/-- An entry as a level names it; the nearest level comes first. -/
abbrev Sight := IgnoreLevel × List Char

/-- The judgement of the nearest level that says something. -/
def nearest (list : IgnoreLevel → IgnoreList) (isDirectory : Bool) : List Sight → Judgement
  | [] => .silent
  | (level, path) :: rest =>
    ((list level).judge path isDirectory).orElse (nearest list isDirectory rest)

/-- The levels up to the one where version control starts; none if it starts nowhere. -/
def inVersionControl (sights : List Sight) : List Sight :=
  let rec upTo : List Sight → List Sight
    | [] => []
    | s :: rest => if s.1.startsVersionControl then [s] else s :: upTo rest
  if sights.any (·.1.startsVersionControl) then upTo sights else []

/-- Whether an entry is ignored. The lists of their own go before those of version control, and
those that are shared before those that are not. -/
def isIgnored (sights : List Sight) (isDirectory : Bool) : Bool :=
  let inside := inVersionControl sights
  (nearest (·.own) isDirectory sights
    |>.orElse (nearest (·.versioned) isDirectory inside)
    |>.orElse (nearest (·.unshared) isDirectory inside)) == .ignored

end Patrol.Walk
