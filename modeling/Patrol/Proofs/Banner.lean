import Patrol.Banner
import Patrol.Proofs.Text.Digits
import Patrol.Proofs.Text.Split

/-! What can be read off a banner: the number of rules and the mode. And its lines: they are a closed
box, as long as the number of rules has no more than 29 digits. -/
namespace Patrol.Banner
open Text (eq_of_toString_append splitOn)

/-- The banner up to the number of rules. -/
def opening : String :=
  edge "╔" "╗" ++ boxed "Police on patrol..." ++ boxed "No sloppy code gets through!" ++
    ("║  " ++ "Rules loaded: ")

/-- What stands between the number of rules and the mode. -/
def filling (count : Nat) : String :=
  String.ofList (List.replicate (2 - (toString count).length) ' ') ++ " rules" ++
    String.ofList (List.replicate
      (width - 2 - ("Rules loaded: " ++ padded 2 (toString count) ++ " rules").length) ' ') ++
    "║\n" ++ ("║  " ++ "Mode: ")

def mode (strict : Bool) : String := if strict then "STRICT 🔴" else "NORMAL 🟢"

/-- The rest of the line with the mode, and the lower side of the box. -/
def ending (strict : Bool) : String :=
  String.ofList (List.replicate (width - 2 - ("Mode: " ++ mode strict).length) ' ') ++ "║\n" ++
    edge "╚" "╝"

theorem render_eq (count : Nat) (strict : Bool) :
    render count strict =
      opening ++ (toString count ++ (filling count ++ (mode strict ++ ending strict))) := by
  simp only [render, lines, List.map_cons, List.map_nil, String.join_cons, String.join_nil, opening,
    ending, filling, mode, boxed, padded, String.append_assoc, String.empty_append]

theorem head?_filling (count : Nat) (rest : List Char) :
    ∀ c ∈ ((filling count).toList ++ rest).head?, c.isDigit = false := by
  have blank : ((filling count).toList ++ rest).head? = some ' ' := by
    simp only [filling, String.toList_append, String.toList_ofList, List.append_assoc]
    cases 2 - (toString count).length with
    | zero => rfl
    | succ columns => rfl
  rw [blank]
  rintro c ⟨⟩
  decide

/-- The first letters of the modes differ. -/
theorem mode_of_append {s t : Bool} {rest more : List Char}
    (same : (mode s).toList ++ rest = (mode t).toList ++ more) : s = t := by
  have first (strict : Bool) (rest : List Char) :
      ((mode strict).toList ++ rest).head? = some (if strict then 'S' else 'N') := by
    cases strict <;> rfl
  have heads := congrArg List.head? same
  rw [first, first] at heads
  cases s <;> cases t <;> simp_all

/-- Banners for different numbers of rules or different modes differ. -/
theorem render_inj {m n : Nat} {s t : Bool} : render m s = render n t ↔ m = n ∧ s = t := by
  constructor
  · intro same
    have chars := congrArg String.toList same
    simp only [render_eq, String.toList_append] at chars
    obtain ⟨rfl, tails⟩ := eq_of_toString_append (head?_filling m _) (head?_filling n _)
      (List.append_cancel_left chars)
    exact ⟨rfl, mode_of_append (List.append_cancel_left tails)⟩
  · rintro ⟨rfl, rfl⟩
    rfl

/-! ## The box -/

/-- Whether a text is a closed box: so many rows between two edges, all these lines of the same width
and with their ends, and each row between two bars. -/
def IsBox (text : String) (height columns : Nat) : Prop :=
  ∃ upper rows lower, splitOn '\n' text.toList = upper :: rows ++ [lower] ++ [[]] ∧
    rows.length = height ∧ (∀ line ∈ upper :: rows ++ [lower], line.length = columns) ∧
    ∀ row ∈ rows, ∃ inside, row = '║' :: inside ++ ['║']

/-- A line of the box, without its end. -/
def row (line : String) : List Char := "║  ".toList ++ (padded (width - 2) line).toList ++ ['║']

/-- The upper or lower side of the box, without its end. -/
def side (left right : Char) : List Char := left :: List.replicate width '═' ++ [right]

theorem toList_boxed (line : String) : (boxed line).toList = row line ++ ['\n'] := by
  simp [boxed, row]

theorem toList_render (count : Nat) (strict : Bool) :
    (render count strict).toList =
      (side '╔' '╗' :: (lines count strict).map row ++ [side '╚' '╝']).flatMap (· ++ ['\n']) := by
  simp [render, edge, side, String.toList_join, List.flatMap_map, toList_boxed]

theorem toList_padded (columns : Nat) (text : String) :
    (padded columns text).toList = text.toList ++ List.replicate (columns - text.length) ' ' := by
  rw [padded, String.toList_append, String.toList_ofList]

theorem length_padded (columns : Nat) (text : String) :
    (padded columns text).length = max columns text.length := by
  rw [← String.length_toList, toList_padded, List.length_append, String.length_toList,
    List.length_replicate]
  omega

/-- A line that is too long is not cut off. -/
theorem length_row (line : String) : (row line).length = max (width - 2) line.length + 4 := by
  have bars : "║  ".toList.length + ['║'].length = 4 := rfl
  rw [row, List.length_append, List.length_append, String.length_toList (s := padded _ _),
    length_padded]
  omega

theorem length_row_eq_iff {line : String} :
    (row line).length = width + 2 ↔ line.length + 2 ≤ width := by
  rw [length_row, width]
  omega

theorem length_side (left right : Char) : (side left right).length = width + 2 := by
  simp [side]

theorem newline_not_mem_lines (count : Nat) (strict : Bool) :
    ∀ line ∈ lines count strict, '\n' ∉ line.toList := by
  have digits := Text.newline_not_mem_toString count
  have loaded : '\n' ∉ ("Rules loaded: " ++ padded 2 (toString count) ++ " rules").toList := by
    rw [String.toList_append, String.toList_append, toList_padded]
    simpa using digits
  have mode : '\n' ∉ ("Mode: " ++ if strict then "STRICT 🔴" else "NORMAL 🟢").toList := by
    cases strict <;> decide
  simp only [lines, List.forall_mem_cons]
  exact ⟨by decide, by decide, loaded, mode, nofun⟩

theorem splitOn_render (count : Nat) (strict : Bool) :
    splitOn '\n' (render count strict).toList =
      side '╔' '╗' :: (lines count strict).map row ++ [side '╚' '╝'] ++ [[]] := by
  have edge (left right : Char) (plain : '\n' ≠ left ∧ '\n' ≠ right) : '\n' ∉ side left right := by
    simp [side, plain]
  have rows : ∀ line ∈ (lines count strict).map row, '\n' ∉ line := by
    rw [List.forall_mem_map]
    intro line member
    simp [row, toList_padded, newline_not_mem_lines count strict line member]
  have plain : ∀ line ∈ side '╔' '╗' :: (lines count strict).map row ++ [side '╚' '╝'],
      '\n' ∉ line := by
    rw [List.forall_mem_append, List.forall_mem_cons, List.forall_mem_singleton]
    exact ⟨⟨edge _ _ (by decide), rows⟩, edge _ _ (by decide)⟩
  have parts := Text.splitOn_lines plain []
  rw [List.append_nil, ← toList_render] at parts
  exact parts

/-- The line with the number of rules has room for 29 digits, and the others have room enough. -/
theorem lines_fit_iff {count : Nat} {strict : Bool} :
    (∀ line ∈ lines count strict, line.length + 2 ≤ width) ↔ count < 10 ^ 29 := by
  have loaded : ("Rules loaded: " ++ padded 2 (toString count) ++ " rules").length =
      20 + max 2 (toString count).length := by
    have texts : "Rules loaded: ".length + " rules".length = 20 := rfl
    rw [String.length_append, String.length_append, length_padded]
    omega
  have mode : ("Mode: " ++ if strict then "STRICT 🔴" else "NORMAL 🟢").length = 14 := by
    cases strict <;> rfl
  have first : "Police on patrol...".length = 19 := rfl
  have second : "No sloppy code gets through!".length = 28 := rfl
  rw [← Text.length_toString_le_iff (by decide)]
  simp only [lines, List.forall_mem_cons, loaded, mode, first, second, width,
    List.not_mem_nil, false_implies, implies_true, and_true]
  omega

theorem isBox_render_iff {count : Nat} {strict : Bool} :
    IsBox (render count strict) 4 (width + 2) ↔ count < 10 ^ 29 := by
  have parts := splitOn_render count strict
  have fits : (∀ line ∈ lines count strict, line.length + 2 ≤ width) ↔ count < 10 ^ 29 :=
    lines_fit_iff
  rw [← fits]
  constructor
  · rintro ⟨upper, rows, lower, parts', -, same, -⟩ line member
    have whole := List.append_cancel_right (parts'.symm.trans parts)
    rw [whole] at same
    refine length_row_eq_iff.1 (same (row line) ?_)
    exact List.mem_append_left _ (.tail _ (List.mem_map_of_mem member))
  · intro fits
    refine ⟨_, _, _, parts, rfl, ?_, ?_⟩
    · rw [List.forall_mem_append, List.forall_mem_cons, List.forall_mem_singleton,
        List.forall_mem_map]
      exact ⟨⟨length_side _ _, fun line member => length_row_eq_iff.2 (fits line member)⟩,
        length_side _ _⟩
    · rw [List.forall_mem_map]
      exact fun line _ => ⟨_, rfl⟩

/-- All digits of the number of rules stand in its line. -/
theorem row_loaded (count : Nat) :
    ∃ gap room, row ("Rules loaded: " ++ padded 2 (toString count) ++ " rules") =
      "║  Rules loaded: ".toList ++ (toString count).toList ++ List.replicate gap ' ' ++
        " rules".toList ++ List.replicate room ' ' ++ ['║'] := by
  have bar : "║  Rules loaded: ".toList = "║  ".toList ++ "Rules loaded: ".toList := rfl
  refine ⟨2 - (toString count).length, width - 2 -
    ("Rules loaded: " ++ padded 2 (toString count) ++ " rules").length, ?_⟩
  rw [row, toList_padded, String.toList_append, String.toList_append, toList_padded, bar]
  simp only [List.append_assoc]

/-- **The box is closed.** Whatever number of rules it is for, as long as that fits into 64 bits, the
banner is a box of six lines, each of 53 characters. No line is too long for the blanks behind it to
fill the row, and the line with the number holds all its digits. -/
theorem render_closed {count : Nat} (small : count < 2 ^ 64) (strict : Bool) :
    IsBox (render count strict) 4 53 ∧ (∀ line ∈ lines count strict, line.length + 2 ≤ width) ∧
      ∃ gap room, (splitOn '\n' (render count strict).toList)[3]? =
        some ("║  Rules loaded: ".toList ++ (toString count).toList ++ List.replicate gap ' ' ++
          " rules".toList ++ List.replicate room ' ' ++ ['║']) := by
  have short : count < 10 ^ 29 := by omega
  obtain ⟨gap, room, loaded⟩ := row_loaded count
  refine ⟨isBox_render_iff.2 short, lines_fit_iff.2 short, gap, room, ?_⟩
  rw [splitOn_render, ← loaded]
  rfl

/-- The greatest number has twenty digits. -/
theorem render_closed_greatest :
    18446744073709551615 < 2 ^ 64 ∧ IsBox (render 18446744073709551615 true) 4 53 ∧
      ∃ gap room, (splitOn '\n' (render 18446744073709551615 true).toList)[3]? =
        some ("║  Rules loaded: ".toList ++ "18446744073709551615".toList ++ List.replicate gap ' ' ++
          " rules".toList ++ List.replicate room ' ' ++ ['║']) := by
  have small : 18446744073709551615 < 2 ^ 64 := by decide
  obtain ⟨box, -, loaded⟩ := render_closed small true
  have digits : toString 18446744073709551615 = "18446744073709551615" := by decide +kernel
  rw [digits] at loaded
  exact ⟨small, box, loaded⟩

end Patrol.Banner
