import Patrol.Pattern.Expr
import Patrol.Text.Digits
import Patrol.Text.Split

/-! Reading a pattern from its text. Each reader takes the characters that are left and gives
what it read with the rest. In spaced patterns blanks and comments are passed over wherever
`gap` is called. -/
namespace Patrol.Pattern
open Text (hexDigit? splitAtFirst)

/-- Drops blanks and comments in front; `inComment` up to the next line feed. -/
def dropSpace : Bool → List Char → List Char
  | _, [] => []
  | true, c :: cs => dropSpace (c != '\n') cs
  | false, c :: cs => if isBlank c then dropSpace false cs else if c == '#' then dropSpace true cs else c :: cs

def gap (spaced : Bool) (cs : List Char) : List Char :=
  if spaced then dropSpace false cs else cs

/-- The characters that stand for something other than themselves somewhere in a pattern. -/
def isMeta (c : Char) : Bool :=
  "\\.+*?()|[]\x7b\x7d^$#&-~".toList.contains c

/-- The characters that may follow a backslash to stand for themselves. -/
def isEscapable (c : Char) : Bool :=
  isMeta c || (c.toNat < 0x80 && !c.isAlphanum && c != '<' && c != '>')

/-- The character of a code point. -/
def charOf (code : Nat) : Except Error Char :=
  if code.isValidChar then .ok (Char.ofNat code) else .error .badCodePoint

/-- A number of exactly so many hexadecimal digits. -/
def readHexDigits (spaced : Bool) : Nat → Nat → List Char → Except Error (Nat × List Char)
  | 0, value, cs => .ok (value, cs)
  | _ + 1, _, [] => .error .badEscape
  | n + 1, value, c :: cs =>
    match hexDigit? c with
    | some d => readHexDigits spaced n (16 * value + d) (gap spaced cs)
    | none => .error .badEscape

/-- The hexadecimal digits up to a closing brace. -/
def readHexBraces (spaced : Bool) : List Nat → List Char → Except Error (List Nat × List Char)
  | _, [] => .error .badEscape
  | digits, c :: cs =>
    if c == '\x7d' then .ok (digits.reverse, gap spaced cs)
    else if spaced && isBlank c then readHexBraces spaced digits cs
    else
      match hexDigit? c with
      | some d => readHexBraces spaced (d :: digits) cs
      | none => .error .badEscape

/-- A member of a pattern without parts. -/
inductive Atom where
  | literal (c : Char) (isByte : Bool)
  | dot
  | assertion (a : Assertion)
  | short (name : ShortClass) (negated : Bool)
  | property (query : Unicode.Query) (negated : Bool)

def Atom.toExpr : Atom → Expr
  | .literal c isByte => .literal c isByte
  | .dot => .dot
  | .assertion a => .assertion a
  | .short name negated => .short name negated
  | .property query negated => .property query negated

/-- Anchors are no members of classes. -/
def Atom.toClass : Atom → Except Error ClassExpr
  | .literal c isByte => .ok (.literal c isByte)
  | .short name negated => .ok (.short name negated)
  | .property query negated => .ok (.property query negated)
  | .dot | .assertion _ => .error .badClassMember

/-- A code point by its digits: as many as the letter asks for, or any number in braces. -/
def readCodePoint (spaced : Bool) (kind : Char) (cs : List Char) :
    Except Error (Atom × List Char) :=
  match gap spaced cs with
  | '\x7b' :: cs => do
    let (digits, rest) ← readHexBraces spaced [] cs
    if digits.isEmpty then throw .badEscape
    let c ← charOf (digits.foldl (16 * · + ·) 0)
    return (.literal c false, rest)
  | cs => do
    let width := if kind == 'x' then 2 else if kind == 'u' then 4 else 8
    let (code, rest) ← readHexDigits spaced width 0 cs
    let c ← charOf code
    return (.literal c (kind == 'x'), rest)

/-- The characters in front of a closing brace, and what is behind it. -/
def readBraces (spaced : Bool) : List Char → List Char → Except Error (List Char × List Char)
  | _, [] => .error .badEscape
  | name, c :: cs =>
    if c == '\x7d' then .ok (name.reverse, cs)
    else if spaced && isBlank c then readBraces spaced name cs
    else readBraces spaced (c :: name) cs

/-- The name in a property's braces: alone, or a property and its value. -/
def queryOf (name : List Char) : Unicode.Query :=
  match splitAtFirst ['!', '='] name <|> splitAtFirst [':'] name <|> splitAtFirst ['='] name with
  | some (property, value) => .valued (String.ofList property) (String.ofList value)
  | none => .named (String.ofList name)

def readProperty (spaced negated : Bool) (cs : List Char) : Except Error (Atom × List Char) :=
  match gap spaced cs with
  | [] => .error .badEscape
  | '\x7b' :: cs => do
    let (name, rest) ← readBraces spaced [] (gap spaced cs)
    return (.property (queryOf name) negated, rest)
  | '\\' :: _ => .error .badEscape
  | c :: cs => .ok (.property (.named (String.singleton c)) negated, gap spaced cs)

/-- The name in the braces behind a word boundary. If what stands there cannot be such a name,
the braces are left for a repetition. -/
def readEdge (spaced : Bool) (cs : List Char) : Except Error (WordEdge × List Char) :=
  let isNameChar (c : Char) := c.isAlpha || c == '-'
  match cs with
  | '\x7b' :: inside =>
    match gap spaced inside with
    | [] => .error .badRepetition
    | c :: more =>
      if !isNameChar c then .ok (.boundary, cs)
      else
        let rec name : List Char → List Char × List Char
          | [] => ([], [])
          | c :: cs =>
            if isNameChar c then let (n, r) := name cs; (c :: n, r)
            else if spaced && isBlank c then name cs
            else ([], c :: cs)
        match name (c :: more) with
        | (n, '\x7d' :: rest) =>
          match String.ofList n with
          | "start" => .ok (.start, rest)
          | "end" => .ok (.stop, rest)
          | "start-half" => .ok (.startHalf, rest)
          | "end-half" => .ok (.stopHalf, rest)
          | _ => .error .badEscape
        | _ => .error .badEscape
  | cs => .ok (.boundary, cs)

/-- What a backslash introduces. -/
def readEscape (spaced : Bool) : List Char → Except Error (Atom × List Char)
  | [] => .error .badEscape
  | c :: cs =>
    if c.isDigit then .error .unsupported
    else if c == 'x' || c == 'u' || c == 'U' then readCodePoint spaced c cs
    else if c == 'p' || c == 'P' then readProperty spaced (c == 'P') cs
    else if isEscapable c then .ok (.literal c false, cs)
    else
      match c with
      | 'd' => .ok (.short .digit false, cs)
      | 'D' => .ok (.short .digit true, cs)
      | 's' => .ok (.short .space false, cs)
      | 'S' => .ok (.short .space true, cs)
      | 'w' => .ok (.short .word false, cs)
      | 'W' => .ok (.short .word true, cs)
      | 'a' => .ok (.literal '\x07' false, cs)
      | 'f' => .ok (.literal '\x0c' false, cs)
      | 't' => .ok (.literal '\t' false, cs)
      | 'n' => .ok (.literal '\n' false, cs)
      | 'r' => .ok (.literal '\r' false, cs)
      | 'v' => .ok (.literal '\x0b' false, cs)
      | 'A' => .ok (.assertion .textStart, cs)
      | 'z' => .ok (.assertion .textEnd, cs)
      | 'b' => do
        let (edge, rest) ← readEdge spaced cs
        return (.assertion (.word edge), rest)
      | 'B' => .ok (.assertion (.word .noBoundary), cs)
      | '<' => .ok (.assertion (.word .start), cs)
      | '>' => .ok (.assertion (.word .stop), cs)
      | _ => .error .badEscape

/-! Classes in brackets. -/

def asciiClass? : List Char → Option AsciiClass
  | ['a', 'l', 'n', 'u', 'm'] => some .alnum
  | ['a', 'l', 'p', 'h', 'a'] => some .alpha
  | ['a', 's', 'c', 'i', 'i'] => some .ascii
  | ['b', 'l', 'a', 'n', 'k'] => some .blank
  | ['c', 'n', 't', 'r', 'l'] => some .cntrl
  | ['d', 'i', 'g', 'i', 't'] => some .digit
  | ['g', 'r', 'a', 'p', 'h'] => some .graph
  | ['l', 'o', 'w', 'e', 'r'] => some .lower
  | ['p', 'r', 'i', 'n', 't'] => some .print
  | ['p', 'u', 'n', 'c', 't'] => some .punct
  | ['s', 'p', 'a', 'c', 'e'] => some .space
  | ['u', 'p', 'p', 'e', 'r'] => some .upper
  | ['w', 'o', 'r', 'd'] => some .word
  | ['x', 'd', 'i', 'g', 'i', 't'] => some .xdigit
  | _ => none

/-- A named class behind an opening bracket, such as `:alpha:]`; anything else is read as a
nested class. -/
def readAsciiClass? : List Char → Option (ClassExpr × List Char)
  | ':' :: cs =>
    let (negated, cs) := match cs with
      | '^' :: more => (true, more)
      | _ => (false, cs)
    match splitAtFirst [':'] cs with
    | some (name, ']' :: rest) => (asciiClass? name).map fun k => (.ascii k negated, rest)
    | _ => none
  | _ => none

/-- One character of a class, or what a backslash introduces. -/
def readMember (spaced : Bool) : List Char → Except Error (Atom × List Char)
  | [] => .error .unclosedClass
  | '\\' :: cs => readEscape spaced cs
  | c :: cs => .ok (.literal c false, cs)

/-- A member of a class or a range of characters. A dash in front of a closing bracket or of
another dash makes no range. -/
def readRange (spaced : Bool) (cs : List Char) : Except Error (ClassExpr × List Char) := do
  let (lo, rest) ← readMember spaced cs
  match gap spaced rest with
  | [] => throw .unclosedClass
  | '-' :: more =>
    match gap spaced more with
    | [] => throw .unclosedClass
    | c :: cs =>
      if c == ']' || c == '-' then return (← lo.toClass, '-' :: more)
      let (hi, rest) ← readMember spaced (c :: cs)
      match lo, hi with
      | .literal a aByte, .literal b bByte =>
        if a ≤ b then return (.range a aByte b bByte, rest) else throw .badRange
      | _, _ => throw .badRange
  | rest => return (← lo.toClass, rest)

/-- The union of the members of a class, which are listed last first. -/
def unionOf : List ClassExpr → ClassExpr
  | [] => .empty
  | last :: before => before.foldl (fun rest first => .union first rest) last

/-- What is read of a class so far, with the operation that waits for its right side. -/
def combinedWith (waiting : Option (ClassExpr × SetOp)) (members : List ClassExpr) : ClassExpr :=
  match waiting with
  | none => unionOf members
  | some (left, op) => .combined op left (unionOf members)

/-- The dashes in front of a class, which stand for themselves. -/
def readDashes (spaced : Bool) : List Char → List ClassExpr × List Char
  | '-' :: cs =>
    let (dashes, rest) := readDashes spaced cs
    (.literal '-' false :: dashes, rest)
  | c :: cs => if spaced && isBlank c then readDashes spaced cs else ([], c :: cs)
  | [] => ([], [])

/-- The beginning of a class: whether it is negated, and the members that could not stand
elsewhere without a backslash. -/
def readOpening (spaced : Bool) (cs : List Char) : Bool × List ClassExpr × List Char :=
  let (negated, cs) := match gap spaced cs with
    | '^' :: more => (true, gap spaced more)
    | cs => (false, cs)
  match readDashes spaced cs with
  | ([], ']' :: rest) => (negated, [.literal ']' false], rest)
  | (dashes, rest) => (negated, dashes, rest)

/-- The rest of a class up to its closing bracket, with the members so far, last first. Each call
takes a character or more, so the length of the text is fuel enough. -/
def readClass (spaced : Bool) : Nat → Option (ClassExpr × SetOp) → List ClassExpr → List Char →
    Except Error (ClassExpr × List Char)
  | 0, _, _, _ => .error .unclosedClass
  | n + 1, waiting, members, cs =>
    match gap spaced cs with
    | [] => .error .unclosedClass
    | ']' :: rest => .ok (combinedWith waiting members, rest)
    | '[' :: inner =>
      match readAsciiClass? inner with
      | some (named, rest) => readClass spaced n waiting (named :: members) rest
      | none => do
        let (negated, first, inner) := readOpening spaced inner
        let (body, rest) ← readClass spaced n none first inner
        readClass spaced n waiting (.bracket negated body :: members) rest
    | '&' :: '&' :: rest => readClass spaced n (some (combinedWith waiting members, .inter)) [] rest
    | '-' :: '-' :: rest => readClass spaced n (some (combinedWith waiting members, .diff)) [] rest
    | '~' :: '~' :: rest =>
      readClass spaced n (some (combinedWith waiting members, .symmDiff)) [] rest
    | cs => do
      let (member, rest) ← readRange spaced cs
      readClass spaced n waiting (member :: members) rest

/-- The class behind an opening bracket. -/
def readBracket (spaced : Bool) (cs : List Char) : Except Error (Expr × List Char) := do
  let (negated, first, inner) := readOpening spaced cs
  let (body, rest) ← readClass spaced (inner.length + 1) none first inner
  return (.bracket negated body, rest)

/-! Groups and repetitions. -/

def flag? : Char → Option Flag
  | 'i' => some .ignoreCase
  | 'm' => some .multiLine
  | 's' => some .dotAll
  | 'U' => some .lazy
  | 'u' => some .unicode
  | 'R' => some .crlf
  | 'x' => some .spaced
  | _ => none

/-- Flags up to a colon or a closing parenthesis, which is left in front of the rest. A dash turns
the flags behind it off and stands once at most. -/
def readFlags : Bool → List FlagChange → List Char → Except Error (List FlagChange × List Char)
  | _, _, [] => .error .unknownFlag
  | negated, changes, c :: cs =>
    if c == ':' || c == ')' then .ok (changes.reverse, c :: cs)
    else if c == '-' then
      if negated then .error .repeatedFlag
      else
        match cs with
        | [] => .error .danglingFlag
        | d :: _ =>
          if d == ':' || d == ')' then .error .danglingFlag else readFlags true changes cs
    else
      match flag? c with
      | none => .error .unknownFlag
      | some flag =>
        if changes.any (·.flag == flag) then .error .repeatedFlag
        else readFlags negated (⟨flag, !negated⟩ :: changes) cs

def isNameStart (c : Char) : Bool := c == '_' || isAlphabetic c

def isNameRest (c : Char) : Bool :=
  c == '_' || c == '.' || c == '[' || c == ']' || isAlphanumeric c

/-- The name of a group, up to the closing angle. -/
def readName (cs : List Char) : Except Error (List Char × List Char) :=
  match splitAtFirst ['>'] cs with
  | some (c :: name, rest) =>
    if isNameStart c && name.all isNameRest then .ok (c :: name, rest) else .error .badGroupName
  | _ => .error .badGroupName

/-- What an opening parenthesis introduces: a group, or a change of flags. -/
inductive Opening where
  | group (kind : GroupKind)
  | flags (changes : List FlagChange)

/-- Reads behind an opening parenthesis; also gives the names of groups so far. -/
def readGroup (names : List (List Char)) : List Char →
    Except Error (Opening × List (List Char) × List Char)
  | '?' :: cs =>
    let named (cs : List Char) := do
      let (name, rest) ← readName cs
      if names.contains name then throw Error.repeatedGroupName
      return (Opening.group .capturing, name :: names, rest)
    match cs with
    | [] => .error .unclosedGroup
    | 'P' :: '<' :: cs => named cs
    | '<' :: '=' :: _ | '<' :: '!' :: _ | '=' :: _ | '!' :: _ => .error .unsupported
    | '<' :: cs => named cs
    | cs => do
      let (changes, rest) ← readFlags false [] cs
      match rest with
      | ')' :: rest =>
        if changes.isEmpty then throw .nothingToRepeat
        return (.flags changes, names, rest)
      | _ => return (.group (.plain changes), names, rest.drop 1)
  | cs => .ok (.group .capturing, names, cs)

/-- A decimal number with blanks around it; `none` without digits. -/
def readDecimal (spaced : Bool) (cs : List Char) : Option Nat × List Char :=
  let rec digits : Option Nat → List Char → Option Nat × List Char
    | value, [] => (value, [])
    | value, c :: cs =>
      if c.isDigit then digits (some (10 * value.getD 0 + (c.toNat - 48))) cs
      else if spaced && isBlank c then digits value cs
      else (value, c :: cs)
  let (value, rest) := digits none (cs.dropWhile isBlank)
  (value, rest.dropWhile isBlank)

/-- The greatest count of a repetition. -/
def maxCount : Nat := 4294967295

/-- The bounds of a repetition behind an opening brace, up to and with the closing one. -/
def readBounds (spaced : Bool) (cs : List Char) :
    Except Error ((Nat × Option Nat) × List Char) := do
  let (lo, rest) := readDecimal spaced (gap spaced cs)
  let some lo := lo | throw .badRepetition
  if lo > maxCount then throw .badRepetition
  match rest with
  | '\x7d' :: rest => return ((lo, some lo), rest)
  | ',' :: rest =>
    match gap spaced rest with
    | '\x7d' :: rest => return ((lo, none), rest)
    | rest =>
      let (hi, rest) := readDecimal spaced rest
      let some hi := hi | throw .badRepetition
      if hi > maxCount || hi < lo then throw .badRepetition
      match rest with
      | '\x7d' :: rest => return ((lo, some hi), rest)
      | _ => throw .badRepetition
  | _ => throw .badRepetition

/-- Passes over the question mark that makes a repetition lazy. -/
def dropLazy : List Char → List Char
  | '?' :: cs => cs
  | cs => cs

/-- The last member read becomes repeated; there must be one, and not a change of flags. -/
def repeatLast (lo : Nat) (hi : Option Nat) : List Expr → Except Error (List Expr)
  | [] | .flags _ :: _ => .error .nothingToRepeat
  | e :: before => .ok (.repeated e lo hi :: before)

/-- The sequence of members listed last first. -/
def seqOf : List Expr → Expr
  | [] => .empty
  | last :: before => before.foldl (fun rest first => .seq first rest) last

/-- What is left to read, whether blanks may stand between members, and the names of groups. -/
structure Cursor where
  rest : List Char
  spaced : Bool
  names : List (List Char)

mutual

/-- Sequences separated by bars. Fuel of twice the number of characters left is enough for both
readers: each call takes a character or goes from an alternation to its sequence. -/
def readAlternatives : Nat → Cursor → Except Error (Expr × Cursor)
  | 0, _ => .error .tooLarge
  | n + 1, cur => do
    let (first, cur) ← readSequence n [] cur
    match cur.rest with
    | '|' :: rest =>
      let (others, cur) ← readAlternatives n { cur with rest }
      return (.alt first others, cur)
    | _ => return (first, cur)

/-- Members up to a bar, a closing parenthesis or the end, with those so far, last first. -/
def readSequence : Nat → List Expr → Cursor → Except Error (Expr × Cursor)
  | 0, _, _ => .error .tooLarge
  | n + 1, members, cur =>
    let spaced := cur.spaced
    match gap spaced cur.rest with
    | [] => .ok (seqOf members, { cur with rest := [] })
    | c :: cs =>
      match c with
      | '|' | ')' => .ok (seqOf members, { cur with rest := c :: cs })
      | '(' => do
        let (opening, names, rest) ← readGroup cur.names (gap spaced cs)
        match opening with
        | .flags changes =>
          let spaced := (setting? changes .spaced).getD spaced
          readSequence n (.flags changes :: members) ⟨rest, spaced, names⟩
        | .group kind =>
          let inner := match kind with
            | .plain changes => (setting? changes .spaced).getD spaced
            | .capturing => spaced
          let (body, after) ← readAlternatives n ⟨rest, inner, names⟩
          match after.rest with
          | ')' :: rest => readSequence n (.group kind body :: members) ⟨rest, spaced, after.names⟩
          | _ => throw .unclosedGroup
      | '[' => do
        let (e, rest) ← readBracket spaced cs
        readSequence n (e :: members) { cur with rest }
      | '?' => do
        let members ← repeatLast 0 (some 1) members
        readSequence n members { cur with rest := dropLazy cs }
      | '*' => do
        let members ← repeatLast 0 none members
        readSequence n members { cur with rest := dropLazy cs }
      | '+' => do
        let members ← repeatLast 1 none members
        readSequence n members { cur with rest := dropLazy cs }
      | '\x7b' => do
        let ((lo, hi), rest) ← readBounds spaced cs
        let members ← repeatLast lo hi members
        readSequence n members { cur with rest := dropLazy (gap spaced rest) }
      | '.' => readSequence n (.dot :: members) { cur with rest := cs }
      | '^' => readSequence n (.assertion .lineStart :: members) { cur with rest := cs }
      | '$' => readSequence n (.assertion .lineEnd :: members) { cur with rest := cs }
      | '\\' => do
        let (atom, rest) ← readEscape spaced cs
        readSequence n (atom.toExpr :: members) { cur with rest }
      | c => readSequence n (.literal c false :: members) { cur with rest := cs }

end

/-- The pattern written by a text. -/
def read (text : List Char) : Except Error Expr := do
  let (e, cur) ← readAlternatives (2 * text.length + 2) ⟨text, false, []⟩
  if !cur.rest.isEmpty then throw .unopenedGroup
  if e.depth false false > maxDepth then throw .nestedTooDeeply
  return e

end Patrol.Pattern
