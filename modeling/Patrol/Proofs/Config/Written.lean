import Patrol.Config.Writer
import Patrol.Proofs.Config.Load
import Patrol.Proofs.Filter.Pruning
import Patrol.Proofs.Rule.Definition
import Patrol.Proofs.Toml.Decode
import Patrol.Proofs.Toml.Reader
import Patrol.Proofs.Toml.Statement

/-! Settings and rules are read back from the documents that hold them. -/
namespace Patrol
open Toml (Decoder Field Record Spells Statement Value entriesOf fieldsWithItems itemsOf tablesOf)

/-! ## Definitions -/

namespace Rule.Definition

/-- The entries of the table of a definition. -/
def fields (d : Definition) : List (String × Value) :=
  [ ("id", .string d.id), ("title", .string d.title), ("marker", .string d.marker),
    ("pattern", .string d.pattern), ("message", .string d.message) ] ++
    if d.languages.isEmpty then []
    else [("languages", .array (d.languages.map fun l => .string l.name))]

theorem nodup_fields (d : Definition) : (d.fields.map (·.1)).Nodup := by
  unfold fields
  split <;> simp

theorem nodup_tables (definitions : List Definition) :
    ∀ fields ∈ definitions.map (·.fields), (fields.map (·.1)).Nodup :=
  List.forall_mem_map.2 fun d _ => d.nodup_fields

/-- A definition is written as a heading and its entries. -/
theorem spells_written {key : String} {path : List String} (writes : Toml.WritesKey key path)
    (d : Definition) : Spells (d.written key) (.itemHeading path :: entriesOf d.fields) := by
  have text (name : String) (bare : Toml.IsBarePart name) (s : String) :
      Spells (Toml.entry name (Toml.quoted s)) [.entry [name] (.string s)] :=
    (Toml.isLine_entry bare (Toml.writes_quoted s)).spells
  have texts := (((((Toml.isLine_itemHeading writes).spells.append
    (text "id" (by decide) d.id)).append (text "title" (by decide) d.title)).append
    (text "marker" (by decide) d.marker)).append (text "pattern" (by decide) d.pattern)).append
    (text "message" (by decide) d.message)
  unfold written fields
  split
  · exact texts.append Toml.spells_nil
  · have names := Toml.writes_array (d.languages.map (·.name))
    rw [List.map_map, List.map_map] at names
    exact texts.append (Toml.isLine_entry (by decide) names).spells

theorem language_name (l : Language) : language (.string l.name) = .ok l := by
  cases l <;> rfl

theorem fits_fields (d : Definition) : ∀ entry ∈ d.fields, record.Fits entry.1 entry.2 := by
  have text (name s : String)
      (found : record.fields.find? (·.name == name) = some (.needed name Decoder.string)) :
      record.Fits name (.string s) :=
    Record.fits_needed found rfl
  have texts : ∀ entry ∈ [ ("id", Value.string d.id), ("title", .string d.title),
      ("marker", .string d.marker), ("pattern", .string d.pattern),
      ("message", .string d.message) ], record.Fits entry.1 entry.2 := by
    simp only [List.forall_mem_cons, List.not_mem_nil, false_implies, implies_true, and_true]
    exact ⟨text _ _ rfl, text _ _ rfl, text _ _ rfl, text _ _ rfl, text _ _ rfl⟩
  unfold fields
  split
  · rw [List.append_nil]
    exact texts
  · rw [List.forall_mem_append, List.forall_mem_singleton]
    exact ⟨texts, Record.fits_optional rfl (Decoder.list_map language_name d.languages)⟩

theorem complete_fields (d : Definition) :
    ∀ field ∈ record.fields, field.required = true → field.name ∈ d.fields.map (·.1) := by
  simp [record, fields, Field.needed, Field.optional]

theorem decode_fields (d : Definition) : decode (.table d.fields) = .ok d := by
  have names := Decoder.list_map language_name d.languages
  rw [decode, record.entries_table d.fits_fields d.complete_fields]
  unfold fields
  split
  · next none =>
    have same : d = { d with languages := [] } := by rw [← List.isEmpty_iff.1 none]
    rw [same]
    rfl
  · simp [Toml.needed, Toml.optional?, List.lookup_cons, Decoder.string, names, bind, Except.bind,
      pure, Except.pure]

end Rule.Definition

namespace Config

/-! ## Settings -/

def policeFields (e : Enforcement) : List (String × Value) :=
  [("enabled", .boolean e.enabled), ("strict", .boolean e.strict)]

def filesFields (exclude : List String) : List (String × Value) :=
  [("exclude", .array (exclude.map .string))]

def rulesFields (s : RuleSelection) : List (String × Value) :=
  [("typed", .boolean s.typed), ("disabled", .array (s.disabled.map fun id => .string id.text))]

/-- The tables with one heading each. -/
def tables (c : Config) : List (String × List (String × Value)) :=
  [ ("police", policeFields c.enforcement), ("files", filesFields c.exclude),
    ("rules", rulesFields c.rules) ]

/-- What the document says, line by line. -/
def statements (c : Config) : List Statement :=
  tablesOf c.tables ++ itemsOf ["rules", "custom"] (c.rules.custom.map (·.fields))

/-- The entries of the document that holds some settings. -/
def fields (c : Config) : List (String × Value) :=
  [ ("police", .table (policeFields c.enforcement)), ("files", .table (filesFields c.exclude)),
    ("rules",
      .table (fieldsWithItems "custom" (c.rules.custom.map (·.fields)) (rulesFields c.rules))) ]

theorem spells_write (c : Config) : Spells c.write.toList c.statements := by
  have heading (key : String) (bare : Toml.IsBarePart key) :
      Spells (Toml.heading key) [.heading [key]] :=
    (Toml.isLine_section bare).spells
  have switch (key : String) (bare : Toml.IsBarePart key) (b : Bool) :
      Spells (Toml.entry key (Toml.boolean b)) [.entry [key] (.boolean b)] :=
    (Toml.isLine_switch bare b).spells
  have texts (key : String) (bare : Toml.IsBarePart key) (all : List String) :
      Spells (Toml.entry key (Toml.array (all.map Toml.quoted)))
        [.entry [key] (.array (all.map .string))] :=
    (Toml.isLine_texts bare all).spells
  have disabled := texts "disabled" (by decide) (c.rules.disabled.map (·.text))
  rw [List.map_map, List.map_map] at disabled
  have key : Toml.WritesKey "rules.custom" ["rules", "custom"] :=
    ⟨by decide, by decide, by decide, by decide⟩
  have custom := Toml.spells_flatMap (Rule.Definition.spells_written key) c.rules.custom
  have items : itemsOf ["rules", "custom"] (c.rules.custom.map (·.fields)) =
      c.rules.custom.flatMap fun d => .itemHeading ["rules", "custom"] :: entriesOf d.fields := by
    rw [itemsOf, List.flatMap_map]
  rw [write, String.toList_ofList, statements, items]
  exact ((((((((heading "police" (by decide)).append
    (switch "enabled" (by decide) c.enforcement.enabled)).append
    (switch "strict" (by decide) c.enforcement.strict)).append
    (heading "files" (by decide))).append (texts "exclude" (by decide) c.exclude)).append
    (heading "rules" (by decide))).append
    (switch "typed" (by decide) c.rules.typed)).append disabled).append custom

theorem ofStatements_statements (c : Config) : Toml.ofStatements c.statements = some c.fields := by
  have root : Toml.fillFrom c.statements [] = some [] := rfl
  have tables := Toml.addTables_tablesOf [] c.tables (by simp [Config.tables])
    (by simp [Config.tables, policeFields, filesFields, rulesFields])
    (Toml.beginsAnew_itemsOf ["rules", "custom"] (c.rules.custom.map (·.fields)))
  have inRules := Toml.leads_last
    [ ("police", .table .given (Toml.nodesOf (policeFields c.enforcement))),
      ("files", .table .given (Toml.nodesOf (filesFields c.exclude))) ] "rules" (by simp) .given
  have custom := Toml.addTables_itemsOf inRules (Toml.nodesOf (rulesFields c.rules)) "custom"
    (by simp [Toml.keys_nodesOf, rulesFields]) _ (Rule.Definition.nodup_tables c.rules.custom) []
  have added := tables.trans custom
  rw [Toml.ofStatements, root]
  simp only [bind, Option.bind, statements, added, pure]
  simp only [List.nil_append, List.cons_append, Toml.toValues, Toml.Node.toValue,
    Toml.toValues_nodesOf, Toml.toValues_withItems, fields]

theorem read_write (c : Config) : Toml.read c.write = some c.fields := by
  rw [← String.ofList_toList (s := c.write), c.spells_write.read, ofStatements_statements]

theorem ruleId_text (id : RuleId) : ruleId (.string id.text) = .ok id := by
  rw [ruleId, Decoder.string]
  simp [RuleId.ofString?_eq_some_iff.2 rfl, bind, Except.bind, pure, Except.pure]

theorem decode_policeFields (e : Enforcement) :
    Enforcement.decode (.table (policeFields e)) = .ok e := rfl

theorem decode_string (s : String) : Decoder.string (.string s) = .ok s := rfl

theorem decode_filesFields (exclude : List String) :
    files (.table (filesFields exclude)) = .ok exclude := by
  have globs := Decoder.list_map decode_string exclude
  have fits : ∀ entry ∈ filesFields exclude, filesRecord.Fits entry.1 entry.2 :=
    List.forall_mem_singleton.2 (Record.fits_optional rfl globs)
  have complete : ∀ field ∈ filesRecord.fields, field.required = true →
      field.name ∈ (filesFields exclude).map (·.1) := by
    simp [filesRecord, Field.optional]
  rw [files, filesRecord.entries_table fits complete]
  simp [filesFields, Toml.optional?, globs, bind, Except.bind]

theorem decode_rulesFields (s : RuleSelection) :
    rulesSection (.table (fieldsWithItems "custom" (s.custom.map (·.fields)) (rulesFields s))) =
      .ok s := by
  have disabled := Decoder.list_map ruleId_text s.disabled
  have custom := Toml.optional?_fieldsWithItems "custom" (rulesFields s) (by simp [rulesFields])
    Rule.Definition.decode_fields s.custom
  have typed : Decoder.boolean (.boolean s.typed) = .ok s.typed := rfl
  have own : ∀ entry ∈ rulesFields s, rulesRecord.Fits entry.1 entry.2 :=
    List.forall_mem_cons.2 ⟨Record.fits_optional rfl typed,
      List.forall_mem_singleton.2 (Record.fits_optional rfl disabled)⟩
  have fits := Toml.fits_fieldsWithItems "custom" own rfl Rule.Definition.decode_fields s.custom
  have complete : ∀ field ∈ rulesRecord.fields, field.required = true → field.name ∈
      (fieldsWithItems "custom" (s.custom.map (·.fields)) (rulesFields s)).map (·.1) := by
    simp [rulesRecord, Field.optional]
  have first : "typed" ≠ "custom" := by decide
  have second : "disabled" ≠ "custom" := by decide
  simp only [rulesSection, rulesRecord.entries_table fits complete, bind, Except.bind, custom,
    Toml.optional?_fieldsWithItems_of_ne first, Toml.optional?_fieldsWithItems_of_ne second]
  simp [rulesFields, Toml.optional?, typed, disabled, List.lookup_cons, pure, Except.pure]

theorem decode_fields (c : Config) : decode (.table c.fields) = .ok c := by
  have police := decode_policeFields c.enforcement
  have files := decode_filesFields c.exclude
  have rules := decode_rulesFields c.rules
  have fits : ∀ entry ∈ c.fields, record.Fits entry.1 entry.2 :=
    List.forall_mem_cons.2 ⟨Record.fits_optional rfl police,
      List.forall_mem_cons.2 ⟨Record.fits_optional rfl files,
        List.forall_mem_singleton.2 (Record.fits_optional rfl rules)⟩⟩
  have complete : ∀ field ∈ record.fields, field.required = true →
      field.name ∈ c.fields.map (·.1) := by
    simp [record, Field.optional]
  rw [decode, record.entries_table fits complete]
  simp [fields, Toml.optional?, police, files, rules, List.lookup_cons, bind, Except.bind, pure,
    Except.pure]

/-- Settings that are read from the document that holds them are looked at as they are. -/
theorem parse_write (c : Config) : parse c.write = c.validate.map fun () => c :=
  parse_of_decode (read_write c) (decode_fields c)

theorem validate_eq_ok {c : Config} {filter : Filter}
    (globs : Filter.ofGlobs c.exclude = .ok filter) (distinct : c.rules.disabled.Nodup) :
    c.validate = .ok () :=
  validate_eq_ok_iff.2 ⟨⟨filter, globs⟩, distinct⟩

end Config

/-! ## Lists of rules -/

namespace Catalog

theorem spells_write (definitions : List Rule.Definition) :
    Spells (write definitions).toList (itemsOf ["rule"] (definitions.map (·.fields))) := by
  have key : Toml.WritesKey "rule" ["rule"] := Toml.writesKey_singleton (by decide)
  have items := Toml.spells_flatMap (Rule.Definition.spells_written key) definitions
  rw [write, String.toList_ofList, itemsOf, List.flatMap_map]
  exact items

theorem read_write (definitions : List Rule.Definition) :
    Toml.read (write definitions) =
      some (fieldsWithItems "rule" (definitions.map (·.fields)) []) := by
  have anew := Toml.beginsAnew_itemsOf ["rule"] (definitions.map (·.fields))
  have root := Toml.fillFrom_of_beginsAnew anew []
  have added : Toml.addTables (itemsOf ["rule"] (definitions.map (·.fields))) [] =
      some (Toml.withItems "rule" (definitions.map (·.fields)) (Toml.nodesOf [])) :=
    Toml.addTables_itemsOf Toml.leads_nil [] "rule" (by simp) _
      (Rule.Definition.nodup_tables definitions) []
  rw [← String.ofList_toList (s := write definitions), (spells_write definitions).read,
    Toml.ofStatements, root]
  simp only [bind, Option.bind, added, pure, Toml.toValues_withItems]

theorem readDefinitions_write (definitions : List Rule.Definition) :
    readDefinitions (write definitions) = .ok definitions := by
  have list := Toml.optional?_fieldsWithItems "rule" [] (by simp) Rule.Definition.decode_fields
    definitions
  have none : ∀ entry ∈ ([] : List (String × Value)), record.Fits entry.1 entry.2 := nofun
  have fits := Toml.fits_fieldsWithItems "rule" none rfl Rule.Definition.decode_fields definitions
  have complete : ∀ field ∈ record.fields, field.required = true →
      field.name ∈ (fieldsWithItems "rule" (definitions.map (·.fields)) []).map (·.1) := by
    simp [record, Field.optional]
  rw [readDefinitions, read_write]
  simp only [record.entries_table fits complete, bind, Except.bind, Except.mapError, list]

/-- A list of definitions that is read from a document makes the catalog that it makes itself. -/
theorem parse_write (definitions : List Rule.Definition) :
    parse (write definitions) = ofDefinitions definitions := by
  rw [parse, readDefinitions_write]
  rfl

example : write [⟨"no-var", "A \"title\"", "*", "\\bvar", "Use\nlet.", [.vue]⟩] =
    "[[rule]]\nid = \"no-var\"\ntitle = \"A \\\"title\\\"\"\nmarker = \"*\"\n" ++
      "pattern = \"\\\\bvar\"\nmessage = \"Use\\nlet.\"\nlanguages = [\"vue\"]\n" := rfl

end Catalog

/-- **What is written is read back.** Settings whose globs are globs, and which disable no rule
twice, are read from the document that holds them exactly as they are, whatever stands in their
texts. A list of definitions that is written as a document makes what it makes itself: the same
catalog, or none for the same reason. -/
theorem Config.written_read_back :
    (∀ c : Config, (∀ glob ∈ c.exclude, ∃ g, Glob.compile .strict glob = .ok g) →
      c.rules.disabled.Nodup → Config.parse c.write = .ok c) ∧
    ∀ definitions,
      Catalog.parse (Catalog.write definitions) = Catalog.ofDefinitions definitions := by
  refine ⟨fun c compiled distinct => ?_, Catalog.parse_write⟩
  obtain ⟨filter, globs⟩ := Filter.exists_ofGlobs_iff.2 compiled
  rw [Config.parse_write, Config.validate_eq_ok globs distinct]
  rfl

/-- Settings whose texts hold quotation marks, backslashes, controls and ends of lines. -/
def Config.hardToWrite : Config where
  enforcement := .strictly
  exclude := ["**/\"a\"\n*", "\x7f\t"]
  rules :=
    { typed := false
      disabled := [⟨"no-alert", by decide⟩, ⟨"no-eval", by decide⟩]
      custom :=
        [ ⟨"own", "[[rules]]\n", "#", "\\d+\"", "\x00\r\n", [.vue, .typeScript]⟩,
          ⟨"\"", "", "\\", "(", "", []⟩ ] }

theorem Config.written_read_back_hardToWrite :
    Config.parse Config.hardToWrite.write = .ok Config.hardToWrite := by
  refine Config.written_read_back.1 Config.hardToWrite ?_ (by decide)
  exact List.forall_mem_cons.2 ⟨⟨_, rfl⟩, List.forall_mem_singleton.2 ⟨_, rfl⟩⟩

end Patrol
