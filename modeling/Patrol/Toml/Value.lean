import Patrol.Decimal.Double

/-! The values of configuration documents. -/
namespace Patrol.Toml

/-- A number with a fraction or an exponent, as it is written. -/
inductive Real where
  | finite (negative : Bool) (digits : Nat) (exponent : Int)
  | infinite (negative : Bool)
  | notANumber

/-- The text of the number that is nearest to what is written. -/
def Real.text : Real → String
  | .finite negative digits exponent =>
    let sign := if negative then "-" else ""
    match Decimal.Double.ofDecimal? digits exponent with
    | some x => sign ++ Decimal.positional x.shortest.1 x.shortest.2
    | none => sign ++ "inf"
  | .infinite negative => if negative then "-inf" else "inf"
  | .notANumber => "NaN"

/-- Values; the keys of a table differ and stand in the order of the document. Of dates and times
it only matters that they are none of the other kinds. -/
inductive Value where
  | string (text : String)
  | integer (n : Int)
  | real (x : Real)
  | boolean (b : Bool)
  | time
  | array (items : List Value)
  | table (entries : List (String × Value))
deriving Inhabited

end Patrol.Toml
