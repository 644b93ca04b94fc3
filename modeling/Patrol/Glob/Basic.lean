import Patrol.Glob.Reader
import Patrol.Regex.Search

/-! Globs that are ready to be held against paths. -/
namespace Patrol

/-- A glob with the text it was written as. With `named` it accepts only paths whose last part is
a name. -/
structure Glob where
  source : String
  regex : Glob.ByteRegex
  named : Bool

namespace Glob

def isLiteral : Token → Bool
  | .literal _ => true
  | _ => false

def isLiteralOtherThan (marks : List Char) : Token → Bool
  | .literal c => !marks.contains c
  | _ => false

/-- Nothing but characters behind any directories. -/
def isBareName : List Token → Bool
  | .leading :: rest => !rest.isEmpty && rest.all (isLiteralOtherThan ['/'])
  | _ => false

/-- Any name with a given extension, in any directories. -/
def isBareExtension (style : Style) : List Token → Bool
  | .leading :: .star :: .literal '.' :: rest => rest.all (isLiteralOtherThan ['.', '/'])
  | .star :: .literal '.' :: rest =>
    style = .strict && rest.all (isLiteralOtherThan ['.', '/'])
  | _ => false

/-- Characters behind nothing, any directories, a star, or any directories and a star. -/
def isSuffix : List Token → Bool
  | .leading :: .star :: rest | .leading :: rest | .star :: rest | rest => rest.all isLiteral

/-- Characters in front of nothing, a star, or any directories. -/
def isPrefixed (tokens : List Token) : Bool :=
  match tokens.reverse with
  | .star :: rest | .trailing :: rest | rest => rest.all isLiteral

/-- A point and characters at the end, in the last part of the path. -/
def hasExtension (tokens : List Token) : Bool :=
  match tokens.reverse.dropWhile (isLiteralOtherThan ['.', '/']) with
  | .literal '.' :: _ => true
  | _ => false

/-- Whether the glob asks for a name or an extension only. A path that ends with the way up to a
parent directory has neither. -/
def asksForName (style : Style) (tokens : List Token) : Bool :=
  isBareName tokens || isBareExtension style tokens ||
    (hasExtension tokens && !isSuffix tokens && !isPrefixed tokens)

/-- The glob that a text writes. -/
def compile (style : Style) (source : String) : Except Error Glob := do
  let tokens ← read style source.toList
  return ⟨source, globRegex style tokens, asksForName style tokens⟩

/-- Whether the last part of a path is the way up to a parent directory. -/
def endsUpward : List Char → Bool
  | ['.', '.'] => true
  | cs => ['/', '.', '.'].isSuffixOf cs

/-- Whether the glob accepts a path. -/
def accepts (g : Glob) (path : List Char) : Bool :=
  !(g.named && endsUpward path) && g.regex.matchesAll (Text.bytesOf path)

end Glob
end Patrol
