import Patrol.Pattern.Expr
import Patrol.Unicode.CaseFolding

/-! Patterns whose flags are worked out: each part says by itself which characters it accepts. -/
namespace Patrol.Pattern

/-- A pattern without flags. -/
inductive Term where
  | empty
  | letter (set : CodeSet)
  | anchor (a : Anchor)
  | capture (t : Term)
  | repeated (t : Term) (lo : Nat) (hi : Option Nat)
  | seq (first rest : Term)
  | alt (first rest : Term)

/-- The flags in force. The other two flags do not change what is matched. -/
structure Flags where
  ignoreCase : Bool
  multiLine : Bool
  dotAll : Bool
  unicode : Bool
  crlf : Bool

/-- The flags at the beginning of a pattern. -/
def Flags.initial : Flags := ⟨false, false, false, true, false⟩

def Flags.change (flags : Flags) (changes : List FlagChange) : Flags where
  ignoreCase := (setting? changes .ignoreCase).getD flags.ignoreCase
  multiLine := (setting? changes .multiLine).getD flags.multiLine
  dotAll := (setting? changes .dotAll).getD flags.dotAll
  unicode := (setting? changes .unicode).getD flags.unicode
  crlf := (setting? changes .crlf).getD flags.crlf

/-! Classes. -/

/-- The set of the codes in the given stretches, which ascend and do not touch. -/
def stretchesSet (stretches : List (Nat × Nat)) : CodeSet :=
  ⟨stretches.flatMap fun (lo, hi) => [lo, hi + 1]⟩

def asciiSet : AsciiClass → CodeSet
  | .alnum => stretchesSet [(0x30, 0x39), (0x41, 0x5A), (0x61, 0x7A)]
  | .alpha => stretchesSet [(0x41, 0x5A), (0x61, 0x7A)]
  | .ascii => .range 0 0x7F
  | .blank => stretchesSet [(0x09, 0x09), (0x20, 0x20)]
  | .cntrl => stretchesSet [(0x00, 0x1F), (0x7F, 0x7F)]
  | .digit => .range 0x30 0x39
  | .graph => .range 0x21 0x7E
  | .lower => .range 0x61 0x7A
  | .print => .range 0x20 0x7E
  | .punct => stretchesSet [(0x21, 0x2F), (0x3A, 0x40), (0x5B, 0x60), (0x7B, 0x7E)]
  | .space => stretchesSet [(0x09, 0x0D), (0x20, 0x20)]
  | .upper => .range 0x41 0x5A
  | .word => stretchesSet [(0x30, 0x39), (0x41, 0x5A), (0x5F, 0x5F), (0x61, 0x7A)]
  | .xdigit => stretchesSet [(0x30, 0x39), (0x41, 0x46), (0x61, 0x66)]

/-- Digits, blanks and the characters of words: all of them, or those in ASCII. -/
def shortSet (unicode : Bool) : ShortClass → CodeSet
  | .digit => if unicode then Unicode.Category.decimalNumber else asciiSet .digit
  | .space => if unicode then Unicode.Property.whiteSpace else asciiSet .space
  | .word => if unicode then Unicode.word else asciiSet .word

def SetOp.apply : SetOp → CodeSet → CodeSet → CodeSet
  | .inter => .inter
  | .diff => .diff
  | .symmDiff => .symmDiff

/-- The ASCII letters in `s` in both cases, besides all of `s`. -/
def closeAscii (s : CodeSet) : CodeSet :=
  let shifted (t : CodeSet) (f : Nat → Nat) : CodeSet := ⟨t.bounds.map f⟩
  let upper := s.inter (asciiSet .upper)
  let lower := s.inter (asciiSet .lower)
  .unionAll [s, shifted upper (· + 32), shifted lower (· - 32)]

namespace Flags

/-- The set with the other cases of its members, where case is ignored. -/
def fold (flags : Flags) (s : CodeSet) : CodeSet :=
  if !flags.ignoreCase then s
  else if flags.unicode then Unicode.CaseFolding.close s
  else closeAscii s

/-- Without the Unicode flag a class is one of bytes, and a byte above ASCII is no text. -/
def checked (flags : Flags) (s : CodeSet) : Except Error CodeSet :=
  if flags.unicode || s.below 0x80 then .ok s else .error .matchesInvalidText

/-- The complement, in the characters or in the bytes. -/
def negate (flags : Flags) (s : CodeSet) : CodeSet :=
  if flags.unicode then s.complement else (CodeSet.range 0 0xFF).diff s

def negateIf (flags : Flags) (negated : Bool) (s : CodeSet) : CodeSet :=
  if negated then flags.negate s else s

/-- The code of a literal in a class. -/
def code (flags : Flags) (c : Char) (isByte : Bool) : Except Error Nat :=
  if flags.unicode || isByte || c.toNat < 0x80 then .ok c.toNat else .error .needsUnicode

def property (flags : Flags) (query : Unicode.Query) (negated : Bool) : Except Error CodeSet :=
  if !flags.unicode then .error .needsUnicode
  else
    match query.codes? with
    | none => .error .unknownProperty
    | some s => .ok (flags.negateIf negated (flags.fold s))

/-- The members of a class. Case is ignored member by member only where a class has parts of its
own: named classes, brackets, and the sides of an operation. -/
def classSet (flags : Flags) : ClassExpr → Except Error CodeSet
  | .empty => .ok .empty
  | .literal c isByte => return .single (← flags.code c isByte)
  | .range lo loByte hi hiByte => return .range (← flags.code lo loByte) (← flags.code hi hiByte)
  | .ascii name negated => flags.checked (flags.negateIf negated (flags.fold (asciiSet name)))
  | .short name negated => flags.checked (flags.negateIf negated (shortSet flags.unicode name))
  | .property query negated => flags.property query negated
  | .bracket negated body => do
    flags.checked (flags.negateIf negated (flags.fold (← flags.classSet body)))
  | .union first rest => return (← flags.classSet first).union (← flags.classSet rest)
  | .combined op left right =>
    return op.apply (flags.fold (← flags.classSet left)) (flags.fold (← flags.classSet right))

/-- One character. Without the Unicode flag, bytes above ASCII are no text. -/
def literal (flags : Flags) (c : Char) (isByte : Bool) : Except Error Term :=
  if !flags.unicode && isByte && 0x80 ≤ c.toNat then .error .matchesInvalidText
  else if flags.ignoreCase && (flags.unicode || c.isAlpha) then
    .ok (.letter (flags.fold (.single c.toNat)))
  else .ok (.letter (.single c.toNat))

/-- Any character but the ends of lines, or with `dotAll` any at all. -/
def dot (flags : Flags) : Except Error Term :=
  if !flags.unicode then .error .matchesInvalidText
  else if flags.dotAll then .ok (.letter (CodeSet.empty.complement))
  else if flags.crlf then .ok (.letter (CodeSet.ofList [0x0A, 0x0D]).complement)
  else .ok (.letter (CodeSet.single 0x0A).complement)

def assertion (flags : Flags) : Assertion → Anchor
  | .lineStart => if flags.multiLine then .lineStart flags.crlf else .textStart
  | .lineEnd => if flags.multiLine then .lineEnd flags.crlf else .textEnd
  | .textStart => .textStart
  | .textEnd => .textEnd
  | .word edge => .word edge flags.unicode

end Flags

/-- Whether every match is empty. -/
def Term.onlyEmpty : Term → Bool
  | .empty | .anchor _ => true
  | .letter _ => false
  | .capture t => t.onlyEmpty
  | .repeated t _ hi => t.onlyEmpty || hi == some 0
  | .seq first rest => first.onlyEmpty && rest.onlyEmpty
  | .alt first rest => first.onlyEmpty && rest.onlyEmpty

/-- A repetition. What matches nothing but the empty text need not be tried more than once. -/
def Term.times (t : Term) (lo : Nat) (hi : Option Nat) : Term :=
  let (lo, hi) := if t.onlyEmpty then (min lo 1, some (min (hi.getD 1) 1)) else (lo, hi)
  if hi == some 0 then .empty
  else if lo == 1 && hi == some 1 then t
  else .repeated t lo hi

/-- Works out the flags of an expression from left to right. Gives the flags behind it, too: a
change holds up to the end of its group, also behind a bar. -/
def Term.ofExpr (flags : Flags) : Expr → Except Error (Term × Flags)
  | .empty => .ok (.empty, flags)
  | .flags changes => .ok (.empty, flags.change changes)
  | .literal c isByte => return (← flags.literal c isByte, flags)
  | .dot => return (← flags.dot, flags)
  | .assertion a => .ok (.anchor (flags.assertion a), flags)
  | .short name negated => do
    let s ← flags.classSet (.short name negated)
    return (.letter s, flags)
  | .property query negated => do
    let s ← flags.classSet (.property query negated)
    return (.letter s, flags)
  | .bracket negated body => do
    let s ← flags.classSet (.bracket negated body)
    return (.letter s, flags)
  | .repeated e lo hi => do
    let (t, after) ← ofExpr flags e
    return (t.times lo hi, after)
  | .group .capturing e => do
    let (t, _) ← ofExpr flags e
    return (.capture t, flags)
  | .group (.plain changes) e => do
    let (t, _) ← ofExpr (flags.change changes) e
    return (t, flags)
  | .seq first rest => do
    let (a, flags) ← ofExpr flags first
    let (b, flags) ← ofExpr flags rest
    return (.seq a b, flags)
  | .alt first rest => do
    let (a, flags) ← ofExpr flags first
    let (b, flags) ← ofExpr flags rest
    return (.alt a b, flags)

/-- The expression that a term stands for. -/
def Term.regex : Term → Regex Anchor
  | .empty => .empty
  | .letter set => .letter set
  | .anchor a => .anchor a
  | .capture t => t.regex
  | .repeated t lo hi => t.regex.repeated lo hi
  | .seq first rest => .seq first.regex rest.regex
  | .alt first rest => .alt first.regex rest.regex

end Patrol.Pattern
