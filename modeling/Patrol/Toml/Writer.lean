import Patrol.Toml.Value

/-! Documents as they are written. Texts are quoted on one line each. -/
namespace Patrol.Toml

/-- A character inside the quotation marks: those marks, backslashes and controls are escaped. -/
def escaped (c : Char) : List Char :=
  match c with
  | '"' => ['\\', '"']
  | '\\' => ['\\', '\\']
  | '\x08' => ['\\', 'b']
  | '\x0c' => ['\\', 'f']
  | '\n' => ['\\', 'n']
  | '\r' => ['\\', 'r']
  | '\t' => ['\\', 't']
  | c =>
    if c.toNat < 0x20 || c.toNat == 0x7F then
      ['\\', 'u', '0', '0', Nat.digitChar (c.toNat / 16), Nat.digitChar (c.toNat % 16)]
    else [c]

def quoted (s : String) : List Char := '"' :: s.toList.flatMap escaped ++ ['"']

def boolean (b : Bool) : List Char := (if b then "true" else "false").toList

/-- An array on one line; its items are written already. -/
def array (items : List (List Char)) : List Char := '[' :: [',', ' '].intercalate items ++ [']']

/-- The line of a key; its value is written already. -/
def entry (key : String) (value : List Char) : List Char :=
  key.toList ++ [' ', '=', ' '] ++ value ++ ['\n']

/-- The line above the entries of a table. -/
def heading (key : String) : List Char := '[' :: key.toList ++ [']', '\n']

/-- The line above the entries of one table of an array. -/
def itemHeading (key : String) : List Char := '[' :: '[' :: key.toList ++ [']', ']', '\n']

end Patrol.Toml
