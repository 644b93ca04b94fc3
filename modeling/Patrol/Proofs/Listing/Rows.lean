import Patrol.Proofs.Listing.Records
import Patrol.Proofs.Listing.Table
import Patrol.Total

/-! The listing for readers, line by line. What is shown of a rule stands in a line of its own, unless
an end of a line stands in the rule's marker or title. -/
namespace Patrol.Listing
open Text (splitOn)
variable {c : Catalog} {r : Rule}

/-! ## Rows -/

/-- The dialects behind the title of a rule that is for some dialects only. -/
def dialects (r : Rule) : String :=
  if r.languages.isEmpty then "" else " (" ++ ", ".intercalate (r.languages.map (·.name)) ++ ")"

/-- Whether a row is the one of the rule at a position: the position at the right of two columns, or of
more if it needs them, the name and blanks, the marker, the title and the dialects. -/
def IsRow (position : Nat) (r : Rule) (row : List Char) : Prop :=
  ∃ indent gap, indent + (toString position).length = max 2 (toString position).length ∧
    row = List.replicate indent ' ' ++ (toString position).toList ++ ". ".toList ++
      r.id.text.toList ++ List.replicate gap ' ' ++ "  ".toList ++ r.marker.toList ++ " ".toList ++
      r.title.toList ++ (dialects r).toList

/-- The line of a rule without its end. -/
def row (width position : Nat) (r : Rule) : List Char :=
  (rightAligned 2 (toString position) ++ ". " ++ Banner.padded width r.id.text ++ "  " ++
    r.marker ++ " " ++ r.title ++ dialects r).toList

def rows (c : Catalog) : List (List Char) :=
  c.rules.mapIdx fun i r => row (nameWidth c) (i + 1) r

theorem toList_line (width position : Nat) (r : Rule) :
    (line width position r).toList = row width position r ++ ['\n'] :=
  String.toList_append

theorem isRow_row (width position : Nat) (r : Rule) : IsRow position r (row width position r) := by
  refine ⟨2 - (toString position).length, width - r.id.text.length, by omega, ?_⟩
  simp only [row, rightAligned, Banner.padded, String.toList_append, String.toList_ofList,
    List.append_assoc]

theorem length_rows (c : Catalog) : (rows c).length = c.size := by
  rw [rows, List.length_mapIdx, Catalog.size]

theorem isRow_rows {i : Nat} (there : c.rules[i]? = some r) :
    ∃ row, (rows c)[i]? = some row ∧ IsRow (i + 1) r row := by
  refine ⟨row (nameWidth c) (i + 1) r, ?_, isRow_row _ _ r⟩
  rw [rows, List.getElem?_mapIdx, there, Option.map_some]

theorem toList_table (full : c.rules ≠ []) :
    (table c).toList = (rows c ++ [[], (tally c.size).toList]).flatMap (· ++ ['\n']) := by
  have each : (String.join (c.rules.mapIdx fun i r => line (nameWidth c) (i + 1) r)).toList =
      (rows c).flatMap (· ++ ['\n']) := by
    simp only [rows, String.toList_join, List.mapIdx_eq_zipIdx_map, List.flatMap_map, toList_line]
  have last : (toString c.size ++ " rules active\n").toList = (tally c.size).toList ++ ['\n'] := by
    rw [tally, String.toList_append, String.toList_append, List.append_assoc]
    rfl
  rw [table_eq full, String.append_assoc, String.append_assoc, String.toList_append,
    String.toList_append, each, last, List.flatMap_append]
  simp

/-! ## Ends of lines -/

/-- How many ends of lines the marker and the title of a rule hold. -/
def breaks (r : Rule) : Nat := r.marker.toList.count '\n' + r.title.toList.count '\n'

theorem newline_not_mem_id (id : RuleId) : '\n' ∉ id.text.toList := by
  intro member
  have kind := (isRuleId_iff.1 id.valid).2 _ member
  revert kind
  decide +kernel

theorem newline_not_mem_dialects (r : Rule) : '\n' ∉ (dialects r).toList := by
  have name (l : Language) : '\n' ∉ l.name.toList := by cases l <;> decide
  have names (ls : List Language) : '\n' ∉ (", ".intercalate (ls.map (·.name))).toList := by
    induction ls with
    | nil => decide
    | cons l ls ih =>
      cases ls with
      | nil => simpa using name l
      | cons next ls =>
        rw [List.map_cons, List.map_cons, String.intercalate_cons_cons, String.toList_append,
          String.toList_append]
        simpa [name l] using ih
  unfold dialects
  split
  · decide
  · simpa using names r.languages

/-- The texts of a rule are shown as they are, with their ends of lines. -/
theorem IsRow.count {position : Nat} {row : List Char} (isRow : IsRow position r row) :
    row.count '\n' = breaks r := by
  obtain ⟨indent, gap, -, rfl⟩ := isRow
  have blanks (n : Nat) : (List.replicate n ' ').count '\n' = 0 := by simp [List.count_replicate]
  have digits := List.count_eq_zero.2 (Text.newline_not_mem_toString position)
  have name := List.count_eq_zero.2 (newline_not_mem_id r.id)
  have behind := List.count_eq_zero.2 (newline_not_mem_dialects r)
  have signs : ". ".toList.count '\n' = 0 ∧ "  ".toList.count '\n' = 0 ∧ " ".toList.count '\n' = 0 :=
    ⟨rfl, rfl, rfl⟩
  simp only [List.count_append, blanks, digits, name, behind, signs, breaks]
  omega

theorem breaks_eq_zero_iff : breaks r = 0 ↔ '\n' ∉ r.marker.toList ∧ '\n' ∉ r.title.toList := by
  rw [breaks, Nat.add_eq_zero_iff, List.count_eq_zero, List.count_eq_zero]

theorem total_count_rows (c : Catalog) : total (·.count '\n') (rows c) = total breaks c.rules := by
  have row (width position : Nat) (r : Rule) : (row width position r).count '\n' = breaks r :=
    (isRow_row width position r).count
  rw [rows, List.mapIdx_eq_zipIdx_map, total_map]
  simp only [row]
  conv_rhs => rw [← List.zipIdx_map_fst 0 c.rules, total_map]

/-! ## Lines -/

/-- A listing has a line for each rule, an empty one and the one with their number, and one more for each
end of a line in what is shown of the rules. -/
theorem isLines_table (full : c.rules ≠ []) :
    IsLines (table c) (c.size + 2 + total breaks c.rules) := by
  obtain ⟨parts, all, number⟩ :=
    Text.splitOn_flatMap '\n' (rows c ++ [[], (tally c.size).toList])
  have last : total (·.count '\n') [[], (tally c.size).toList] = 0 := by
    simp [List.count_eq_zero.2 (newline_not_mem_tally c.size)]
  refine ⟨parts, by rw [toList_table full, all], ?_⟩
  rw [number, total_append, total_count_rows, last, List.length_append, length_rows]
  exact Nat.add_comm _ _

/-- Whether a text lists the rules of a catalog line by line: in their order a row for each, an empty
line and the line with their number, all with their ends. -/
def ListsByLine (text : String) (c : Catalog) : Prop :=
  ∃ rows, splitOn '\n' text.toList = rows ++ [[], (tally c.size).toList] ++ [[]] ∧
    rows.length = c.size ∧
    ∀ i r, c.rules[i]? = some r → ∃ row, rows[i]? = some row ∧ IsRow (i + 1) r row

theorem ListsByLine.isLines {text : String} (lists : ListsByLine text c) :
    IsLines text (c.size + 2) := by
  obtain ⟨rows, parts, number, -⟩ := lists
  refine ⟨_, parts, ?_⟩
  rw [List.length_append, number]
  rfl

theorem listsByLine_table_iff (full : c.rules ≠ []) :
    ListsByLine (table c) c ↔ ∀ r ∈ c.rules, '\n' ∉ r.marker.toList ∧ '\n' ∉ r.title.toList := by
  constructor
  · intro lists r member
    have number := lists.isLines.unique (isLines_table full)
    have none : ¬0 < total breaks c.rules := by omega
    rw [total_pos_iff, not_exists] at none
    exact breaks_eq_zero_iff.1 (Nat.eq_zero_of_not_pos fun broken => none r ⟨member, broken⟩)
  · intro whole
    have plain : ∀ line ∈ rows c ++ [[], (tally c.size).toList], '\n' ∉ line := by
      simp only [List.forall_mem_append, List.forall_mem_cons]
      refine ⟨fun line member => ?_, List.not_mem_nil, newline_not_mem_tally c.size, nofun⟩
      obtain ⟨i, inside, rfl⟩ := List.mem_mapIdx.1 member
      rw [← List.count_eq_zero, (isRow_row _ _ _).count]
      exact breaks_eq_zero_iff.2 (whole _ (List.getElem_mem inside))
    have parts := Text.splitOn_lines plain []
    rw [List.append_nil, ← toList_table full] at parts
    exact ⟨rows c, parts, length_rows c, fun i r there => isRow_rows there⟩

/-- **One line for each rule.** A listing of some rules is a row for each of them, in their order, with
its position, name, marker and title, and then an empty line and one with their number. The texts of the
rules are shown as they are: each end of a line in a marker or a title makes one line more. So every rule
has one line exactly if no marker and no title holds an end of a line. -/
theorem one_line_for_each_iff (full : c.rules ≠ []) :
    (∃ rows, (table c).toList = (rows ++ [[], (tally c.size).toList]).flatMap (· ++ ['\n']) ∧
      rows.length = c.size ∧
      ∀ i r, c.rules[i]? = some r → ∃ row, rows[i]? = some row ∧ IsRow (i + 1) r row) ∧
    IsLines (table c) (c.size + 2 + total breaks c.rules) ∧
    (ListsByLine (table c) c ↔
      ∀ r ∈ c.rules, '\n' ∉ r.marker.toList ∧ '\n' ∉ r.title.toList) :=
  ⟨⟨rows c, toList_table full, length_rows c, fun _ _ => isRow_rows⟩, isLines_table full,
    listsByLine_table_iff full⟩

/-- Two rules whose texts look like other parts of a listing, or hold other characters that end lines. -/
def lookAlikes : List Rule.Definition :=
  [⟨"no-var", "2. no\ttitle\r", "", "var", "Use\nlet.", [.vue, .typeScript]⟩,
    ⟨"no-any", "\u2028(vue)", "2 rules active", "any", "No.", []⟩]

theorem one_line_for_each_lookAlikes :
    ∃ c, Catalog.ofDefinitions lookAlikes = .ok c ∧ c.rules ≠ [] ∧
      (∀ r ∈ c.rules, '\n' ∉ r.marker.toList ∧ '\n' ∉ r.title.toList) ∧ ListsByLine (table c) c ∧
      IsLines (table c) 4 := by
  have made : ∃ c, Catalog.ofDefinitions lookAlikes = .ok c ∧ c.rules ≠ [] ∧
      (∀ r ∈ c.rules, '\n' ∉ r.marker.toList ∧ '\n' ∉ r.title.toList) ∧
      c.size + 2 + total breaks c.rules = 4 :=
    ⟨_, rfl, by decide, by decide, by decide⟩
  obtain ⟨c, made, full, whole, number⟩ := made
  obtain ⟨-, lines, byLine⟩ := one_line_for_each_iff full
  exact ⟨c, made, full, whole, byLine.2 whole, number ▸ lines⟩

/-- A rule with a title of two lines makes a listing of four. -/
theorem title_listed_in_two_lines :
    ∃ c, Catalog.ofDefinitions [⟨"no-var", "A\nB", "*", "var", "Use let.", []⟩] = .ok c ∧
      c.rules ≠ [] ∧ c.size = 1 ∧ table c = " 1. no-var  * A\nB\n\n1 rules active\n" ∧
      IsLines (table c) 4 ∧ ¬ListsByLine (table c) c := by
  have made : ∃ c, Catalog.ofDefinitions [⟨"no-var", "A\nB", "*", "var", "Use let.", []⟩] = .ok c ∧
      c.rules ≠ [] ∧ c.size = 1 ∧ table c = " 1. no-var  * A\nB\n\n1 rules active\n" ∧
      total breaks c.rules = 1 := ⟨_, rfl, by decide, rfl, by decide +kernel, by decide⟩
  obtain ⟨c, made, full, one, text, broken⟩ := made
  have four : IsLines (table c) 4 := by
    have lines := isLines_table full
    rwa [one, broken] at lines
  refine ⟨c, made, full, one, text, four, fun lists => ?_⟩
  have three := lists.isLines
  rw [one] at three
  cases three.unique four

end Patrol.Listing
