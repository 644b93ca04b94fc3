/-! Binary fractions of 53 bits, as numbers are commonly kept, and the shortest decimals that
stand for them. All steps are exact in natural numbers. -/
namespace Patrol.Decimal

/-- A fraction of two natural numbers, the lower one positive. -/
structure Fraction where
  num : Nat
  den : Nat

/-- The fraction `n` times `b` to the power of `e`. -/
def scaled (n b : Nat) (e : Int) : Fraction :=
  if e < 0 then ⟨n, Nat.pow b (-e).toNat⟩ else ⟨n * Nat.pow b e.toNat, 1⟩

/-- The nearest natural number; a half goes to the even neighbour. -/
def Fraction.round (x : Fraction) : Nat :=
  let low := x.num / x.den
  let rest := x.num % x.den
  if 2 * rest < x.den then low
  else if 2 * rest > x.den then low + 1
  else low + low % 2

/-- The number `mantissa · 2 ^ exponent`, with a mantissa below `2 ^ 53`. -/
structure Double where
  mantissa : Nat
  exponent : Int

/-- The least exponent: smaller numbers have fewer bits. -/
def minExponent : Int := -1074

def maxExponent : Int := 971

/-- The number nearest to a positive fraction, unless it is too great. -/
def Double.nearest? (x : Fraction) : Option Double :=
  let guess : Int := (Nat.log2 x.num : Int) - (Nat.log2 x.den : Int) - 53
  let at' (e : Int) : Nat :=
    if e < 0 then Fraction.round ⟨x.num * Nat.pow 2 (-e).toNat, x.den⟩
    else Fraction.round ⟨x.num, x.den * Nat.pow 2 e.toNat⟩
  let e := max minExponent (if at' guess < Nat.pow 2 53 then guess else guess + 1)
  let m := at' e
  let (m, e) := if m < Nat.pow 2 53 then (m, e) else (m / 2, e + 1)
  if e > maxExponent then none else some ⟨m, e⟩

/-- The number that `digits · 10 ^ exponent` is rounded to, unless it is too great. Exponents far
out of reach are settled before any power is taken. -/
def Double.ofDecimal? (digits : Nat) (exponent : Int) : Option Double :=
  let places := (Nat.toDigits 10 digits).length
  if digits = 0 || exponent + places < -400 then some ⟨0, minExponent⟩
  else if exponent + places > 400 then none
  else Double.nearest? (scaled digits 10 exponent)

/-- Whether the decimal `n · 10 ^ p` is rounded to the number: it is no further from it than
half the way to the next one; the middle itself belongs to even mantissas. -/
def Double.stoodForBy (x : Double) (n : Nat) (p : Int) : Bool :=
  let d := scaled n 10 p
  let even := x.mantissa % 2 == 0
  let low := if x.mantissa == Nat.pow 2 52 && x.exponent > minExponent
    then scaled (4 * x.mantissa - 1) 2 (x.exponent - 2)
    else scaled (2 * x.mantissa - 1) 2 (x.exponent - 1)
  let high := scaled (2 * x.mantissa + 1) 2 (x.exponent - 1)
  let above := low.num * d.den
  let place := d.num * low.den
  let below := high.num * d.den
  let place' := d.num * high.den
  (above < place || (even && above == place)) && (place' < below || (even && place' == below))

/-- The shortest decimal that is rounded to the number, as digits and exponent; of two of the same
length the nearer one. Tries the exponents downward from `p`. -/
def Double.shortestFrom (x : Double) : Nat → Int → Nat × Int
  | 0, p => (0, p)
  | fuel + 1, p =>
    let v := scaled x.mantissa 2 x.exponent
    let cell := if p < 0 then Fraction.mk (v.num * Nat.pow 10 (-p).toNat) v.den
      else Fraction.mk v.num (v.den * Nat.pow 10 p.toNat)
    let low := cell.num / cell.den
    let near := cell.round
    let far := if near == low then low + 1 else low
    if x.stoodForBy near p then (near, p)
    else if x.stoodForBy far p then (far, p)
    else x.shortestFrom fuel (p - 1)

def Double.shortest (x : Double) : Nat × Int :=
  if x.mantissa == 0 then (0, 0) else x.shortestFrom 700 309

/-- The decimal `n · 10 ^ p` without an exponent, with one place behind the point at least. -/
def positional (n : Nat) (p : Int) : String :=
  let digits := Nat.toDigits 10 n
  if p ≥ 0 then String.ofList (digits ++ List.replicate p.toNat '0') ++ ".0"
  else
    let places := (-p).toNat
    let padded := List.replicate (places + 1 - digits.length) '0' ++ digits
    let (whole, fraction) := padded.splitAt (padded.length - places)
    String.ofList whole ++ "." ++ String.ofList fraction

end Patrol.Decimal
