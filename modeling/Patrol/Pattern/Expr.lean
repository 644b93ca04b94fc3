import Patrol.Pattern.Anchor
import Patrol.Unicode.Query

/-! The written form of patterns, and why a text is not a pattern. -/
namespace Patrol.Pattern

/-- Why a pattern is refused. -/
inductive Error where
  | unclosedGroup | unopenedGroup | badGroupName | repeatedGroupName
  | unknownFlag | repeatedFlag | danglingFlag
  | unsupported
  | nothingToRepeat | badRepetition
  | badEscape | badCodePoint
  | unclosedClass | badRange | badClassMember
  | unknownProperty | needsUnicode | matchesInvalidText
  | nestedTooDeeply | tooLarge
deriving DecidableEq

def Error.message : Error → String
  | .unclosedGroup => "unclosed group"
  | .unopenedGroup => "unopened group"
  | .badGroupName => "invalid group name"
  | .repeatedGroupName => "duplicate group name"
  | .unknownFlag => "unrecognized flag"
  | .repeatedFlag => "duplicate flag"
  | .danglingFlag => "dangling flag negation operator"
  | .unsupported => "look-around and backreferences are not supported"
  | .nothingToRepeat => "repetition operator missing expression"
  | .badRepetition => "invalid repetition count range"
  | .badEscape => "unrecognized escape sequence"
  | .badCodePoint => "hexadecimal literal is not a Unicode scalar value"
  | .unclosedClass => "unclosed character class"
  | .badRange => "invalid character class range"
  | .badClassMember => "invalid member of a character class"
  | .unknownProperty => "Unicode property not found"
  | .needsUnicode => "Unicode not allowed here"
  | .matchesInvalidText => "pattern can match invalid UTF-8"
  | .nestedTooDeeply => "exceeds the maximum nesting depth"
  | .tooLarge => "compiled pattern exceeds size limit"

/-- The switches of a pattern. `spaced` lets blanks and comments stand between its parts and
`lazy` swaps the two kinds of repetition, which matters to where a match ends only. -/
inductive Flag where
  | ignoreCase | multiLine | dotAll | lazy | unicode | crlf | spaced
deriving DecidableEq

structure FlagChange where
  flag : Flag
  on : Bool
deriving DecidableEq

/-- What a list of changes says of a flag; it names no flag twice. -/
def setting? (changes : List FlagChange) (flag : Flag) : Option Bool :=
  (changes.find? (·.flag == flag)).map (·.on)

inductive ShortClass where
  | digit | space | word
deriving DecidableEq

inductive AsciiClass where
  | alnum | alpha | ascii | blank | cntrl | digit | graph | lower | print | punct | space | upper
  | word | xdigit
deriving DecidableEq

inductive SetOp where
  | inter | diff | symmDiff
deriving DecidableEq

/-- What stands in brackets. A literal is a byte where it was written with two hexadecimal
digits. The right part of a union is the rest of its members. -/
inductive ClassExpr where
  | empty
  | literal (c : Char) (isByte : Bool)
  | range (lo : Char) (loByte : Bool) (hi : Char) (hiByte : Bool)
  | ascii (name : AsciiClass) (negated : Bool)
  | short (name : ShortClass) (negated : Bool)
  | property (query : Unicode.Query) (negated : Bool)
  | bracket (negated : Bool) (body : ClassExpr)
  | union (first rest : ClassExpr)
  | combined (op : SetOp) (left right : ClassExpr)

/-- Anchors as they are written; the flags say what they mean. -/
inductive Assertion where
  | lineStart | lineEnd | textStart | textEnd
  | word (edge : WordEdge)
deriving DecidableEq

inductive GroupKind where
  | capturing
  | plain (changes : List FlagChange)

/-- A pattern as it is written. The right part of a sequence or an alternation is the rest of its
members. -/
inductive Expr where
  | empty
  | flags (changes : List FlagChange)
  | literal (c : Char) (isByte : Bool)
  | dot
  | assertion (a : Assertion)
  | short (name : ShortClass) (negated : Bool)
  | property (query : Unicode.Query) (negated : Bool)
  | bracket (negated : Bool) (body : ClassExpr)
  | repeated (e : Expr) (lo : Nat) (hi : Option Nat)
  | group (kind : GroupKind) (e : Expr)
  | seq (first rest : Expr)
  | alt (first rest : Expr)

/-- How deep brackets, unions and set operations are nested; a union counts once for all of its
members. -/
def ClassExpr.depth (inUnion : Bool) : ClassExpr → Nat
  | .bracket _ body => 1 + body.depth false
  | .union first rest =>
    (if inUnion then 0 else 1) + max (first.depth false) (rest.depth true)
  | .combined _ left right => 1 + max (left.depth false) (right.depth false)
  | _ => 0

/-- How deep groups, repetitions, sequences and alternations are nested; a sequence or an
alternation counts once for all of its members. -/
def Expr.depth (inSeq inAlt : Bool) : Expr → Nat
  | .bracket _ body => 1 + body.depth false
  | .repeated e _ _ => 1 + e.depth false false
  | .group _ e => 1 + e.depth false false
  | .seq first rest =>
    (if inSeq then 0 else 1) + max (first.depth false false) (rest.depth true false)
  | .alt first rest =>
    (if inAlt then 0 else 1) + max (first.depth false false) (rest.depth false true)
  | _ => 0

/-- The deepest nesting that is accepted. -/
def maxDepth : Nat := 250

end Patrol.Pattern
