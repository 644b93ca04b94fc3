import Patrol.Toml.Value
import Patrol.Toml.Text

/-! Numbers, truth values and times: the values that are written without quotation marks. -/
namespace Patrol.Toml
open Text (hexDigit? ofDigits)

/-- The values of digits between which single underscores may stand. -/
def digits? (digit? : Char → Option Nat) : List Char → Option (List Nat)
  | [] => none
  | [c] => (digit? c).map ([·])
  | c :: '_' :: cs => do return (← digit? c) :: (← digits? digit? cs)
  | c :: cs => do return (← digit? c) :: (← digits? digit? cs)

/-- A digit of a base up to sixteen. -/
def digit? (base : Nat) (c : Char) : Option Nat := (hexDigit? c).filter (· < base)

/-- Decimal digits without a zero in front of others. -/
def wholeDigits? (cs : List Char) : Option (List Nat) :=
  match digits? (digit? 10) cs with
  | some (0 :: _ :: _) => none
  | ds => ds

/-- Whether there is a minus, and what follows the sign. -/
def splitSign : List Char → Bool × List Char
  | '-' :: cs => (true, cs)
  | '+' :: cs => (false, cs)
  | cs => (false, cs)

def signed (negative : Bool) (n : Nat) : Int := if negative then -n else n

/-- Whole numbers have 64 bits. -/
def integer? (n : Int) : Option Value :=
  if -Int.pow 2 63 ≤ n ∧ n < Int.pow 2 63 then some (.integer n) else none

/-- A whole number in one of four bases; a sign goes with decimal digits only. -/
def readInteger (word : List Char) : Option Value :=
  match word with
  | '0' :: 'x' :: cs => do integer? (ofDigits 16 (← digits? (digit? 16) cs))
  | '0' :: 'o' :: cs => do integer? (ofDigits 8 (← digits? (digit? 8) cs))
  | '0' :: 'b' :: cs => do integer? (ofDigits 2 (← digits? (digit? 2) cs))
  | _ => do
    let (negative, cs) := splitSign word
    integer? (signed negative (ofDigits 10 (← wholeDigits? cs)))

/-- The parts around the first character of a kind. -/
def splitAt? (p : Char → Bool) (cs : List Char) : List Char × Option (List Char) :=
  match cs.span (!p ·) with
  | (front, []) => (front, none)
  | (front, _ :: back) => (front, some back)

/-- A number with a fraction, an exponent or both. It must not be too great, but it may be too
small: numbers below all others count as negative infinity. -/
def readReal (word : List Char) : Option Value := do
  let (negative, cs) := splitSign word
  match cs with
  | ['i', 'n', 'f'] => return .real (.infinite negative)
  | ['n', 'a', 'n'] => return .real .notANumber
  | _ =>
    let (mantissa, exponent) := splitAt? (fun c => c == 'e' || c == 'E') cs
    let (whole, fraction) := splitAt? (· == '.') mantissa
    if fraction.isNone && exponent.isNone then failure
    let whole ← wholeDigits? whole
    let fraction ← match fraction with
      | none => some []
      | some cs => digits? (digit? 10) cs
    let exponent ← match exponent with
      | none => some 0
      | some cs => do
        let (down, cs) := splitSign cs
        some (signed down (ofDigits 10 (← digits? (digit? 10) cs)))
    let digits := ofDigits 10 (whole ++ fraction)
    let exponent := exponent - fraction.length
    if !negative && (Decimal.Double.ofDecimal? digits exponent).isNone then failure
    return .real (.finite negative digits exponent)

/-! Times. -/

/-- The number that two digits write, within bounds. -/
def two? (lo hi : Nat) (a b : Char) : Option Nat := do
  let n := 10 * (← digit? 10 a) + (← digit? 10 b)
  if lo ≤ n ∧ n ≤ hi then some n else none

def isLeapYear (year : Nat) : Bool := year % 4 == 0 && (year % 100 != 0 || year % 400 == 0)

def daysIn (year month : Nat) : Nat :=
  if month == 2 then (if isLeapYear year then 29 else 28)
  else if [4, 6, 9, 11].contains month then 30
  else 31

/-- What follows a date. -/
def afterDate? : List Char → Option (List Char)
  | y₁ :: y₂ :: y₃ :: y₄ :: '-' :: m₁ :: m₂ :: '-' :: d₁ :: d₂ :: rest => do
    let year := ofDigits 10 (← [y₁, y₂, y₃, y₄].mapM (digit? 10))
    let month ← two? 1 12 m₁ m₂
    let _ ← two? 1 (daysIn year month) d₁ d₂
    return rest
  | _ => none

/-- What follows a time of day; parts of a second may be given. -/
def afterClock? : List Char → Option (List Char)
  | h₁ :: h₂ :: ':' :: m₁ :: m₂ :: ':' :: s₁ :: s₂ :: rest => do
    let _ ← two? 0 23 h₁ h₂
    let _ ← two? 0 59 m₁ m₂
    let _ ← two? 0 60 s₁ s₂
    match rest with
    | '.' :: parts =>
      let (digits, rest) := parts.span Char.isDigit
      if digits.isEmpty then none else some rest
    | rest => some rest
  | _ => none

/-- The distance to the common time: none at all, or hours and minutes. -/
def isOffset : List Char → Bool
  | ['Z'] | ['z'] => true
  | [sign, h₁, h₂, ':', m₁, m₂] =>
    (sign == '+' || sign == '-') && (two? 0 23 h₁ h₂).isSome && (two? 0 59 m₁ m₂).isSome
  | _ => false

def isClock (cs : List Char) : Bool := afterClock? cs == some []

def isClockWithOffset (cs : List Char) : Bool :=
  (afterClock? cs).any fun rest => rest.isEmpty || isOffset rest

def isDate (cs : List Char) : Bool := afterDate? cs == some []

/-- A date, a time of day, or both. -/
def isTime (word : List Char) : Bool :=
  isClock word ||
    match afterDate? word with
    | none => false
    | some [] => true
    | some (c :: rest) => (c == 'T' || c == 't') && isClockWithOffset rest

def isBareChar (c : Char) : Bool := c.isAlphanum || "+-_.:".toList.contains c

/-- A word without quotation marks. A blank may stand between a date and a time of day. -/
def readBare (cs : List Char) : Option (Value × List Char) :=
  let (word, rest) := cs.span isBareChar
  match word with
  | ['t', 'r', 'u', 'e'] => some (.boolean true, rest)
  | ['f', 'a', 'l', 's', 'e'] => some (.boolean false, rest)
  | _ =>
    match rest with
    | ' ' :: more =>
      let (clock, rest') := more.span isBareChar
      if isDate word && isClockWithOffset clock then some (.time, rest') else single word rest
    | _ => single word rest
where
  single (word rest : List Char) : Option (Value × List Char) :=
    if isTime word then some (.time, rest)
    else (readInteger word <|> readReal word).map (·, rest)

end Patrol.Toml
