import Patrol.Unicode.Class

/-! Blank characters at the end of a text. -/
namespace Patrol.Text

/-- Whether a text shows nothing: it is empty or all its characters are blank. -/
def isBlankText (s : String) : Bool := s.toList.all isBlank

/-- The list without the blank characters at its end. -/
def dropBlankEnd : List Char → List Char
  | [] => []
  | c :: cs =>
    match dropBlankEnd cs with
    | [] => if isBlank c then [] else [c]
    | kept => c :: kept

def trimEnd (s : String) : String := String.ofList (dropBlankEnd s.toList)

end Patrol.Text
