import Patrol.Unicode.Class

/-! Texts in quotation marks, written so that every character is seen. -/
namespace Patrol.Text

/-- The number in small hexadecimal digits. -/
def hex (n : Nat) : List Char := (Nat.toDigits 16 n)

/-- Characters that would not be seen by themselves, or would change the one in front. -/
def isHidden (c : Char) : Bool :=
  Unicode.graphemeExtend.contains c.toNat || Unicode.unprintable.contains c.toNat

/-- A character inside quotation marks. -/
def quotedChar (c : Char) : List Char :=
  match c with
  | '\x00' => ['\\', '0']
  | '\t' => ['\\', 't']
  | '\r' => ['\\', 'r']
  | '\n' => ['\\', 'n']
  | '"' => ['\\', '"']
  | '\\' => ['\\', '\\']
  | c => if isHidden c then ['\\', 'u', '\x7b'] ++ hex c.toNat ++ ['\x7d'] else [c]

def quoted (s : String) : String :=
  String.ofList ('"' :: s.toList.flatMap quotedChar ++ ['"'])

end Patrol.Text
