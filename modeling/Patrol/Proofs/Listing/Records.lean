import Patrol.Listing
import Patrol.Listing.Reader
import Patrol.Proofs.Catalog.Definitions
import Patrol.Proofs.Json.Reader
import Patrol.Proofs.Text.Split

/-! The listing for other programs. Each rule has a line of its own, whatever stands in its texts,
and the lines say all that there is to know of the rules: the catalog can be made again from
them. -/
namespace Patrol.Listing
open Json (Value)
open Text (splitOn)
open Patrol.Catalog (ofDefinitions_toDefinition)
variable {c : Catalog}

/-! ## One line for each rule -/

/-- The lines of the listing, without their ends. -/
def recordLines (c : Catalog) : List (List Char) :=
  c.rules.mapIdx fun i r => (record (i + 1) r).chars

theorem toList_records (c : Catalog) :
    (records c).toList = (recordLines c).flatMap (· ++ ['\n']) := by
  have line (v : Value) : (v.text ++ "\n").toList = v.chars ++ ['\n'] := by
    rw [String.toList_append, Value.text, String.toList_ofList]
    rfl
  simp only [records, recordLines, String.toList_join, List.mapIdx_eq_zipIdx_map, List.flatMap_map,
    line]

theorem newline_not_mem_recordLines : ∀ line ∈ recordLines c, '\n' ∉ line := by
  intro line member
  obtain ⟨i, inside, rfl⟩ := List.mem_mapIdx.1 member
  exact Json.newline_not_mem_chars _

theorem splitOn_records (c : Catalog) :
    splitOn '\n' (records c).toList = recordLines c ++ [[]] := by
  have parts := Text.splitOn_lines (newline_not_mem_recordLines (c := c)) []
  rw [List.append_nil] at parts
  rw [toList_records, parts]
  rfl

theorem length_recordLines (c : Catalog) : (recordLines c).length = c.size := by
  rw [recordLines, List.length_mapIdx, Catalog.size]

/-- Whether a text is so many lines, each with its end. -/
def IsLines (text : String) (n : Nat) : Prop :=
  ∃ lines, splitOn '\n' text.toList = lines ++ [[]] ∧ lines.length = n

theorem IsLines.unique {text : String} {m n : Nat} (lines : IsLines text m) (lines' : IsLines text n) :
    m = n := by
  obtain ⟨parts, all, rfl⟩ := lines
  obtain ⟨parts', all', rfl⟩ := lines'
  rw [List.append_cancel_right (all.symm.trans all')]

theorem isLines_records_iff {n : Nat} : IsLines (records c) n ↔ n = c.size := by
  have own : IsLines (records c) c.size := ⟨recordLines c, splitOn_records c, length_recordLines c⟩
  constructor
  · exact fun lines => lines.unique own
  · rintro rfl
    exact own

/-! ## What a line says -/

/-- Whether a value is an object that says of a rule all that is told of it, each thing once. -/
structure Tells (v : Value) (position : Nat) (r : Rule) : Prop where
  distinct : ∃ members, v = .object members ∧ (members.map (·.1)).Nodup
  kind : v.get? "type" = some (.string "rule")
  position : v.get? "position" = some (.natural position)
  id : v.get? "id" = some (.string r.id.text)
  title : v.get? "title" = some (.string r.title)
  marker : v.get? "marker" = some (.string r.marker)
  pattern : v.get? "pattern" = some (.string r.pattern.source)
  languages : v.get? "languages" = some (.array (r.languages.map fun l => .string l.name))
  message : v.get? "message" = some (.string r.message)

theorem tells_record (position : Nat) (r : Rule) : Tells (record position r) position r where
  distinct := ⟨_, rfl, by simp⟩
  kind := rfl
  position := rfl
  id := rfl
  title := rfl
  marker := rfl
  pattern := rfl
  languages := rfl
  message := rfl

theorem languages?_names (languages : List Language) :
    languages? (.array (languages.map fun l => .string l.name)) = some languages := by
  have named (l : Language) : Language.ofName? l.name = some l := by cases l <;> decide
  induction languages with
  | nil => rfl
  | cons l ls ih =>
    simp only [languages?, List.map_cons, List.mapM_cons] at ih ⊢
    rw [ih]
    simp [string?, named]

/-- An object that tells a rule is read as its definition. -/
theorem Tells.ofRecord? {v : Value} {position : Nat} {r : Rule} (tells : Tells v position r) :
    ofRecord? v = some (position, r.toDefinition) := by
  have number : natural? (.natural position) = some position := rfl
  simp [Listing.ofRecord?, tells.kind, tells.position, tells.id, tells.title, tells.marker,
    tells.pattern, tells.languages, tells.message, languages?_names, string?, number,
    Rule.toDefinition]

theorem readRecord?_text (position : Nat) (r : Rule) :
    readRecord? (record position r).text = some (position, r.toDefinition) := by
  rw [readRecord?, Json.read_text]
  exact (tells_record position r).ofRecord?

theorem mapM_readRecord? (c : Catalog) :
    (recordLines c).mapM (fun line => readRecord? (String.ofList line)) =
      some (c.rules.mapIdx fun i r => (i + 1, r.toDefinition)) := by
  have line (position : Nat) (r : Rule) :
      readRecord? (String.ofList (record position r).chars) = some (position, r.toDefinition) :=
    readRecord?_text position r
  simp only [recordLines, List.mapIdx_eq_zipIdx_map]
  induction c.rules.zipIdx with
  | nil => rfl
  | cons first others ih => simp [List.mapM_cons, line, ih]

/-! ## The catalog again -/

/-- **A listing is read back.** Whatever stands in the texts of the rules, the listing falls into one
line for each rule, each with its end. The line of a rule is an object that tells its position and
all of its parts. The definitions read from the lines stand in the order of the rules; as rules come
of definitions, they make the same catalog again. -/
theorem records_read_back (c : Catalog) :
    ∃ lines read, (records c).toList = lines.flatMap (· ++ ['\n']) ∧
      splitOn '\n' (records c).toList = lines ++ [[]] ∧ lines.length = c.size ∧
      (∀ i r, c.rules[i]? = some r → ∃ line v, lines[i]? = some line ∧
        Json.read (String.ofList line) = some v ∧ Tells v (i + 1) r) ∧
      lines.mapM (fun line => readRecord? (String.ofList line)) = some read ∧
      read = c.rules.mapIdx (fun i r => (i + 1, r.toDefinition)) ∧
      ((∀ r ∈ c.rules, r.IsMade) → Catalog.ofDefinitions (read.map (·.2)) = .ok c) := by
  refine ⟨recordLines c, _, toList_records c, splitOn_records c, length_recordLines c, ?_,
    mapM_readRecord? c, rfl, fun made => ?_⟩
  · intro i r there
    refine ⟨(record (i + 1) r).chars, record (i + 1) r, ?_, Json.read_text _, tells_record _ r⟩
    rw [recordLines, List.getElem?_mapIdx, there, Option.map_some]
  · have definitions :
        (c.rules.mapIdx fun i r => (i + 1, r.toDefinition)).map (·.2) =
          c.rules.map Rule.toDefinition := by
      conv_rhs => rw [← List.zipIdx_map_fst 0 c.rules, List.map_map]
      rw [List.mapIdx_eq_zipIdx_map, List.map_map]
      rfl
    rw [definitions, ofDefinitions_toDefinition made]

/-- A rule whose texts hold quotation marks, backslashes and ends of lines. -/
def hardToWrite : Rule.Definition where
  id := "no-var"
  title := "A \"title\"\n"
  marker := "\\"
  pattern := "va\tr"
  message := "Use\x00let.\n"
  languages := [.vue]

theorem records_read_back_hardToWrite :
    ∃ c read, Catalog.ofDefinitions [hardToWrite] = .ok c ∧
      (splitOn '\n' (records c).toList).dropLast.mapM
        (fun line => readRecord? (String.ofList line)) = some read ∧
      Catalog.ofDefinitions (read.map (·.2)) = .ok c := by
  have made : ∃ c, Catalog.ofDefinitions [hardToWrite] = .ok c := ⟨_, rfl⟩
  obtain ⟨c, built⟩ := made
  obtain ⟨lines, read, -, parts, -, -, decoded, -, again⟩ := records_read_back c
  have source : (Catalog.Source.definitions [hardToWrite]).build = .ok c := built
  have rules := Catalog.Source.isMade_of_build source nofun
  refine ⟨c, read, built, ?_, again rules⟩
  rw [parts, List.dropLast_concat]
  exact decoded

end Patrol.Listing
