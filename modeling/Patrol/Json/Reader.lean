import Patrol.Json.Value
import Patrol.Text.Digits

/-! Reading JSON. A reader gives what it read with the characters behind it, or nothing where the
text is malformed. -/
namespace Patrol.Json
open Text (hexDigit? ofDigits)

def isSpace (c : Char) : Bool := c == ' ' || c == '\t' || c == '\n' || c == '\r'

def dropSpace (cs : List Char) : List Char := cs.dropWhile isSpace

/-- The code of sixteen bits that four hexadecimal digits write. -/
def unit? : List Char → Option (Nat × List Char)
  | a :: b :: c :: d :: rest => do
    return (ofDigits 16 (← [a, b, c, d].mapM hexDigit?), rest)
  | _ => none

/-- The character with the code behind `\u`. Those beyond sixteen bits are written as two codes,
each of which alone is no character. -/
def codeChar? (cs : List Char) : Option (Char × List Char) := do
  let (high, rest) ← unit? cs
  if 0xD800 ≤ high ∧ high < 0xDC00 then
    let '\\' :: 'u' :: rest := rest | none
    let (low, rest) ← unit? rest
    if 0xDC00 ≤ low ∧ low < 0xE000 then
      some (Char.ofNat (0x10000 + (high - 0xD800) * 0x400 + (low - 0xDC00)), rest)
    else none
  else if 0xDC00 ≤ high ∧ high < 0xE000 then none
  else some (Char.ofNat high, rest)

/-- The character that is written behind a backslash. -/
def escape? : List Char → Option (Char × List Char)
  | [] => none
  | c :: cs =>
    match c with
    | '"' | '\\' | '/' => some (c, cs)
    | 'b' => some ('\x08', cs)
    | 'f' => some ('\x0c', cs)
    | 'n' => some ('\n', cs)
    | 'r' => some ('\r', cs)
    | 't' => some ('\t', cs)
    | 'u' => codeChar? cs
    | _ => none

/-- The text up to its closing quotation mark. Each character takes one place at least, so that
the number of characters is fuel enough. -/
def readQuoted : Nat → List Char → Option (List Char × List Char)
  | 0, _ | _, [] => none
  | fuel + 1, c :: cs =>
    if c = '"' then some ([], cs)
    else if c = '\\' then do
      let (d, rest) ← escape? cs
      let (text, rest) ← readQuoted fuel rest
      some (d :: text, rest)
    else if c.toNat < 0x20 then none
    else do
      let (text, rest) ← readQuoted fuel cs
      some (c :: text, rest)

/-- Decimal digits, one at least. -/
def readDigits (cs : List Char) : Option (List Nat × List Char) :=
  match cs.span Char.isDigit with
  | ([], _) => none
  | (digits, rest) => some (digits.map fun c => c.toNat - '0'.toNat, rest)

/-- The digits of a whole number: no zero stands in front of others. -/
def readWhole (cs : List Char) : Option (List Nat × List Char) :=
  match readDigits cs with
  | some (0 :: _ :: _, _) => none
  | read => read

def readFraction : List Char → Option (List Nat × List Char)
  | '.' :: cs => readDigits cs
  | cs => some ([], cs)

def readExponent : List Char → Option (Int × List Char)
  | 'e' :: cs | 'E' :: cs => do
    let (negative, cs) := match cs with
      | '-' :: cs => (true, cs)
      | '+' :: cs => (false, cs)
      | cs => (false, cs)
    let (digits, rest) ← readDigits cs
    let n : Int := ofDigits 10 digits
    some (if negative then -n else n, rest)
  | cs => some (0, cs)

def readNumber (cs : List Char) : Option (Value × List Char) := do
  let (negative, cs) := match cs with
    | '-' :: cs => (true, cs)
    | cs => (false, cs)
  let (whole, rest) ← readWhole cs
  let (fraction, rest) ← readFraction rest
  let (exponent, rest) ← readExponent rest
  let n : Int := ofDigits 10 (whole ++ fraction)
  some (.number (if negative then -n else n) (exponent - fraction.length), rest)

mutual

/-- One value. Fuel of twice the number of characters is enough for these readers: each call takes
a character or goes from a value to its parts. -/
def readValue : Nat → List Char → Option (Value × List Char)
  | 0, _ => none
  | fuel + 1, cs =>
    match cs with
    | 'n' :: 'u' :: 'l' :: 'l' :: rest => some (.null, rest)
    | 't' :: 'r' :: 'u' :: 'e' :: rest => some (.boolean true, rest)
    | 'f' :: 'a' :: 'l' :: 's' :: 'e' :: rest => some (.boolean false, rest)
    | '"' :: cs => do
      let (text, rest) ← readQuoted cs.length cs
      some (.string (String.ofList text), rest)
    | '[' :: cs =>
      match dropSpace cs with
      | ']' :: rest => some (.array [], rest)
      | cs => do
        let (items, rest) ← readItems fuel cs
        some (.array items, rest)
    | '\x7b' :: cs =>
      match dropSpace cs with
      | '\x7d' :: rest => some (.object [], rest)
      | cs => do
        let (members, rest) ← readMembers fuel cs
        some (.object members, rest)
    | cs => readNumber cs

/-- The items of an array, up to and with its closing bracket. -/
def readItems : Nat → List Char → Option (List Value × List Char)
  | 0, _ => none
  | fuel + 1, cs => do
    let (first, rest) ← readValue fuel cs
    match dropSpace rest with
    | ']' :: rest => some ([first], rest)
    | ',' :: rest =>
      let (others, rest) ← readItems fuel (dropSpace rest)
      some (first :: others, rest)
    | _ => none

/-- The members of an object, up to and with its closing brace. -/
def readMembers : Nat → List Char → Option (List (String × Value) × List Char)
  | 0, _ => none
  | fuel + 1, cs => do
    let '"' :: cs := cs | none
    let (name, rest) ← readQuoted cs.length cs
    let ':' :: rest := dropSpace rest | none
    let (value, rest) ← readValue fuel (dropSpace rest)
    match dropSpace rest with
    | '\x7d' :: rest => some ([(String.ofList name, value)], rest)
    | ',' :: rest =>
      let (others, rest) ← readMembers fuel (dropSpace rest)
      some ((String.ofList name, value) :: others, rest)
    | _ => none

end

/-- The value that a text writes, unless it is malformed. -/
def read (text : String) : Option Value := do
  let cs := text.toList
  let (value, rest) ← readValue (2 * cs.length) (dropSpace cs)
  if (dropSpace rest).isEmpty then some value else none

end Patrol.Json
