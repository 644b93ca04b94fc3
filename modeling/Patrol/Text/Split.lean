/-! Cutting lists of characters at a mark. -/
namespace Patrol.Text

/-- The parts in front of and behind the first place where `mark` stands. -/
def splitAtFirst (mark : List Char) : List Char → Option (List Char × List Char)
  | [] => none
  | c :: cs =>
    if mark.isPrefixOf (c :: cs) then some ([], (c :: cs).drop mark.length)
    else (splitAtFirst mark cs).map fun (front, back) => (c :: front, back)

/-- The parts in front of and behind the last character that `isMark` accepts. -/
def splitAtLast (isMark : Char → Bool) : List Char → Option (List Char × List Char)
  | [] => none
  | c :: cs =>
    match splitAtLast isMark cs with
    | some (front, back) => some (c :: front, back)
    | none => if isMark c then some ([], cs) else none

/-- What follows the last mark; all of the text without one. -/
def afterLast (isMark : Char → Bool) (cs : List Char) : List Char :=
  match splitAtLast isMark cs with
  | some (_, back) => back
  | none => cs

/-- The parts between the marks, with an empty part at an end where a mark stands. -/
def splitOn (mark : Char) : List Char → List (List Char)
  | [] => [[]]
  | c :: cs =>
    if c == mark then [] :: splitOn mark cs
    else
      match splitOn mark cs with
      | [] => [[c]]
      | part :: parts => (c :: part) :: parts

end Patrol.Text
