/-! JSON values and their text. -/
namespace Patrol.Json

/-- Values. A number is `mantissa · 10 ^ exponent`; the members of an object stand in the order in
which they are written. -/
inductive Value where
  | null
  | boolean (b : Bool)
  | number (mantissa exponent : Int)
  | string (text : String)
  | array (items : List Value)
  | object (members : List (String × Value))

def Value.natural (n : Nat) : Value := .number n 0

/-- A character inside the quotation marks: those marks, backslashes and controls are escaped. -/
def escaped (c : Char) : List Char :=
  match c with
  | '"' => ['\\', '"']
  | '\\' => ['\\', '\\']
  | '\x08' => ['\\', 'b']
  | '\x0c' => ['\\', 'f']
  | '\n' => ['\\', 'n']
  | '\r' => ['\\', 'r']
  | '\t' => ['\\', 't']
  | c =>
    if c.toNat < 0x20 then
      ['\\', 'u', '0', '0', Nat.digitChar (c.toNat / 16), Nat.digitChar (c.toNat % 16)]
    else [c]

def quoted (s : String) : List Char := '"' :: s.toList.flatMap escaped ++ ['"']

def numberText (mantissa exponent : Int) : String :=
  toString mantissa ++ if exponent = 0 then "" else "e" ++ toString exponent

mutual

/-- The text of a value, without any blanks. -/
def Value.chars : Value → List Char
  | .null => "null".toList
  | .boolean b => (if b then "true" else "false").toList
  | .number mantissa exponent => (numberText mantissa exponent).toList
  | .string text => quoted text
  | .array items => '[' :: itemsChars items ++ [']']
  | .object members => '\x7b' :: membersChars members ++ ['\x7d']

def itemsChars : List Value → List Char
  | [] => []
  | [v] => v.chars
  | v :: vs => v.chars ++ ',' :: itemsChars vs

def membersChars : List (String × Value) → List Char
  | [] => []
  | [(name, v)] => quoted name ++ ':' :: v.chars
  | (name, v) :: rest => quoted name ++ ':' :: (v.chars ++ ',' :: membersChars rest)

end

def Value.text (v : Value) : String := String.ofList v.chars

/-- The value of the first member with a name. -/
def Value.get? (v : Value) (name : String) : Option Value :=
  match v with
  | .object members => members.lookup name
  | _ => none

end Patrol.Json
