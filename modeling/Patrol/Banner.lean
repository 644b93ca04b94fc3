/-! The box that is shown when a check starts. -/
namespace Patrol.Banner

/-- The columns inside the box. -/
def width : Nat := 51

/-- A text followed by blanks up to `columns`. -/
def padded (columns : Nat) (text : String) : String :=
  text ++ String.ofList (List.replicate (columns - text.length) ' ')

def lines (count : Nat) (strict : Bool) : List String :=
  [ "Police on patrol...",
    "No sloppy code gets through!",
    "Rules loaded: " ++ padded 2 (toString count) ++ " rules",
    "Mode: " ++ if strict then "STRICT 🔴" else "NORMAL 🟢" ]

/-- A line of the box, two columns from its left side. -/
def boxed (line : String) : String := "║  " ++ padded (width - 2) line ++ "║\n"

def edge (left right : String) : String :=
  left ++ String.ofList (List.replicate width '═') ++ right ++ "\n"

/-- The banner for so many rules. -/
def render (count : Nat) (strict : Bool) : String :=
  edge "╔" "╗" ++ String.join ((lines count strict).map boxed) ++ edge "╚" "╝"

end Patrol.Banner
