/-! Why a file or a directory cannot be reached or made. -/
namespace Patrol.Tree

inductive Error where
  | notFound | alreadyExists | notADirectory | isADirectory | nameTooLong | tooManyLinks
deriving DecidableEq

/-- The number by which systems know the error. -/
def Error.number : Error → Nat
  | .notFound => 2
  | .alreadyExists => 17
  | .notADirectory => 20
  | .isADirectory => 21
  | .nameTooLong => 36
  | .tooManyLinks => 40

def Error.reason : Error → String
  | .notFound => "No such file or directory"
  | .alreadyExists => "File exists"
  | .notADirectory => "Not a directory"
  | .isADirectory => "Is a directory"
  | .nameTooLong => "File name too long"
  | .tooManyLinks => "Too many levels of symbolic links"

def Error.message (e : Error) : String :=
  e.reason ++ " (os error " ++ toString e.number ++ ")"

end Patrol.Tree
