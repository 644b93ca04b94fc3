import Patrol.Regex.Basic
import Patrol.Text.Utf8

/-! Globs: paths with gaps. A glob is held against the bytes of a path, so a gap of one place and
a class stand for one byte each. -/
namespace Patrol.Glob

/-- The parts of a glob. The three kinds of double stars stand for any directories in front of
the rest, behind it, or between two parts. The text from which they are read comes with slashes
that belong to them. -/
inductive Token where
  | literal (c : Char)
  | any
  | star
  | leading
  | trailing
  | between
  | oneOf (negated : Bool) (ranges : List (Char × Char))
  | choice (branches : List (List Token))

/-- Why a text is no glob. -/
inductive Error where
  | unclosedClass
  | invalidRange (lo hi : Char)
  | unopenedChoice
  | unclosedChoice
  | danglingEscape
deriving DecidableEq

def Error.message : Error → String
  | .unclosedClass => "unclosed character class; missing ']'"
  | .invalidRange lo hi =>
    "invalid range; '" ++ String.singleton lo ++ "' > '" ++ String.singleton hi ++ "'"
  | .unopenedChoice =>
    "unopened alternate group; missing '\x7b' (maybe escape '\x7d' with '[\x7d]'?)"
  | .unclosedChoice =>
    "unclosed alternate group; missing '\x7d' (maybe escape '\x7b' with '[\x7b]'?)"
  | .danglingEscape => "dangling '\\'"

/-- What the gaps of a glob may cross, and how forgiving its reading is: with `loose`, a bracket
that is never closed stands for itself, and stars and question marks stop at slashes. -/
inductive Style where
  | strict | loose
deriving DecidableEq

/-! The paths that a glob accepts. -/

/-- Bytes have no anchors. -/
instance : Alphabet Empty UInt8 where
  code := UInt8.toNat
  holds := nofun

def slash : CodeSet := .single 0x2F

def anyByte : CodeSet := .range 0 0xFF

/-- What a gap may hold. -/
def Style.gap : Style → CodeSet
  | .strict => anyByte
  | .loose => anyByte.diff slash

/-- The bytes of a character, in front of the last one and the last one. -/
def splitBytes (c : Char) : List Nat × Nat :=
  let bytes := (String.utf8EncodeChar c).map UInt8.toNat
  (bytes.dropLast, bytes.getLast?.getD 0)

/-- The bytes of a range of a class: those of its ends, and all between the last byte of the lower
end and the first byte of the upper one. -/
def rangeSet : Char × Char → CodeSet
  | (lo, hi) =>
    if lo = hi then .ofList ((String.utf8EncodeChar lo).map UInt8.toNat)
    else
      let (front, last) := splitBytes lo
      match (String.utf8EncodeChar hi).map UInt8.toNat with
      | [] => .empty
      | first :: back => .unionAll [.ofList front, .range last first, .ofList back]

abbrev ByteRegex := Regex Empty

def anyOf (set : CodeSet) : ByteRegex := .star (.letter set)

/-- Directories with the slash behind them, or a slash alone, or nothing. -/
def leadingRegex : ByteRegex :=
  .alt (.opt (.letter slash)) (.seq (anyOf anyByte) (.letter slash))

def trailingRegex : ByteRegex := .seq (.letter slash) (anyOf anyByte)

def betweenRegex : ByteRegex :=
  .alt (.letter slash) (.seq (.letter slash) (.seq (anyOf anyByte) (.letter slash)))

mutual

/-- Whether a part stands for the empty text as if it were not there: a choice between nothing. -/
def Token.isVoid : Token → Bool
  | .choice branches => allVoid branches
  | _ => false

def isVoidList : List Token → Bool
  | [] => true
  | t :: ts => t.isVoid && isVoidList ts

def allVoid : List (List Token) → Bool
  | [] => true
  | b :: bs => isVoidList b && allVoid bs

end

mutual

def Token.regex (style : Style) : Token → ByteRegex
  | .literal c => .word ((String.utf8EncodeChar c).map UInt8.toNat)
  | .any => .letter style.gap
  | .star => anyOf style.gap
  | .leading => leadingRegex
  | .trailing => trailingRegex
  | .between => betweenRegex
  | .oneOf negated ranges =>
    let set := CodeSet.unionAll (ranges.map rangeSet)
    .letter (if negated then anyByte.diff set else set)
  | .choice branches => branchesRegex style branches

def tokensRegex (style : Style) : List Token → ByteRegex
  | [] => .empty
  | [t] => t.regex style
  | t :: ts => .seq (t.regex style) (tokensRegex style ts)

/-- Any of the branches; void ones do not count. -/
def branchesRegex (style : Style) : List (List Token) → ByteRegex
  | [] => .empty
  | b :: bs =>
    if isVoidList b then branchesRegex style bs
    else if allVoid bs then tokensRegex style b
    else .alt (tokensRegex style b) (branchesRegex style bs)

end

/-- The paths of a whole glob; a double star alone accepts every path. -/
def globRegex (style : Style) : List Token → ByteRegex
  | [.leading] => anyOf anyByte
  | tokens => tokensRegex style tokens

end Patrol.Glob
