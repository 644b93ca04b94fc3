import Patrol.Proofs.Catalog.Definitions
import Patrol.Proofs.Config.Load
import Patrol.Proofs.Toml.Alike
import Patrol.Proofs.Toml.Reader

/-! Settings and the order of keys. Documents that differ in nothing but the order in which their
tables give their keys hold the same settings, or both hold none. Settings that are taken can be
used, and whatever a document does not give has its default. -/
namespace Patrol
open Toml (Decoder Field Record Takes Value toOption_bind toOption_pure)
open Toml.Decoder (Steady steady_boolean steady_string)

/-! ## Whatever the order -/

theorem Enforcement.steady_decode : Steady decode := by
  have fields : ∀ field ∈ record.fields, field.check.Steady :=
    List.forall_mem_cons.2
      ⟨steady_boolean.discard, List.forall_mem_singleton.2 steady_boolean.discard⟩
  refine Record.steady_decode fields fun agree => ?_
  simp only [toOption_bind, toOption_pure, agree.optional? steady_boolean]

theorem Rule.Definition.steady_language : Steady language := Decoder.steady_variant _

theorem Rule.Definition.steady_decode : Steady decode := by
  have languages := steady_language.list
  have fields : ∀ field ∈ record.fields, field.check.Steady := by
    simp only [record, List.forall_mem_cons, List.not_mem_nil, false_implies, implies_true,
      and_true]
    exact ⟨steady_string.discard, steady_string.discard, steady_string.discard,
      steady_string.discard, steady_string.discard, languages.discard⟩
  refine Record.steady_decode fields fun agree => ?_
  simp only [toOption_bind, toOption_pure, agree.needed steady_string, agree.optional? languages]

namespace Config

theorem steady_ruleId : Steady ruleId := steady_string.bind _

theorem steady_files : Steady files := by
  have fields : ∀ field ∈ filesRecord.fields, field.check.Steady :=
    List.forall_mem_singleton.2 steady_string.list.discard
  exact Record.steady_decode fields fun agree => agree.optional? steady_string.list _

theorem steady_rulesSection : Steady rulesSection := by
  have disabled := steady_ruleId.list
  have custom := Rule.Definition.steady_decode.list
  have fields : ∀ field ∈ rulesRecord.fields, field.check.Steady := by
    simp only [rulesRecord, List.forall_mem_cons, List.not_mem_nil, false_implies, implies_true,
      and_true]
    exact ⟨steady_boolean.discard, disabled.discard, custom.discard⟩
  refine Record.steady_decode fields fun agree => ?_
  simp only [toOption_bind, toOption_pure, agree.optional? steady_boolean, agree.optional? disabled,
    agree.optional? custom]

theorem steady_decode : Steady decode := by
  have fields : ∀ field ∈ record.fields, field.check.Steady := by
    simp only [record, List.forall_mem_cons, List.not_mem_nil, false_implies, implies_true,
      and_true]
    exact ⟨Enforcement.steady_decode.discard, steady_files.discard, steady_rulesSection.discard⟩
  refine Record.steady_decode fields fun agree => ?_
  simp only [toOption_bind, toOption_pure, agree.optional? Enforcement.steady_decode,
    agree.optional? steady_files, agree.optional? steady_rulesSection]

/-! ## What comes of a document -/

variable {text : String} {entries : List (String × Value)} {c : Config}

theorem validate_eq_error {e : ConfigError} (failed : c.validate = .error e) :
    (∃ bad, e = .badGlob bad) ∨ ∃ id, e = .disabledTwice id := by
  simp only [validate, bind, Except.bind] at failed
  cases globs : Filter.ofGlobs c.exclude with
  | error bad =>
    rw [globs] at failed
    cases failed
    exact .inl ⟨bad, rfl⟩
  | ok filter =>
    simp only [globs, Except.mapError] at failed
    split at failed
    · next id _ =>
      cases failed
      exact .inr ⟨id, rfl⟩
    · cases failed

/-- Documents that are equal up to the order of keys come to the same thing. -/
theorem parse_alike {other : String} {others : List (String × Value)}
    (read : Toml.read text = some entries) (readOther : Toml.read other = some others)
    (alike : (Value.table entries).Alike (.table others)) :
    (∃ c, parse text = .ok c ∧ parse other = .ok c) ∨
    (∃ m m', parse text = .error (.unfit (.mismatch m)) ∧
      parse other = .error (.unfit (.mismatch m'))) ∨
    ∃ e, parse text = .error e ∧ parse other = .error e ∧
      ((∃ bad, e = .badGlob bad) ∨ ∃ id, e = .disabledTwice id) := by
  have same := steady_decode ⟨alike, Toml.keyed_read read, Toml.keyed_read readOther⟩
  cases decoded : decode (.table entries) with
  | error m =>
    cases decodedOther : decode (.table others) with
    | error m' =>
      exact .inr (.inl
        ⟨m, m', parse_of_mismatch read decoded, parse_of_mismatch readOther decodedOther⟩)
    | ok c => rw [decoded, decodedOther] at same; cases same
  | ok c =>
    rw [decoded] at same
    have decodedOther := Toml.toOption_eq_some_iff.1 same.symm
    rw [parse_of_decode read decoded, parse_of_decode readOther decodedOther]
    cases valid : c.validate with
    | ok _ => exact .inl ⟨c, rfl, rfl⟩
    | error e => exact .inr (.inr ⟨e, rfl, rfl, validate_eq_error valid⟩)

end Config

/-! ## What a document gives -/

theorem Toml.Decoder.keys_of_variant {α : Type} {choices : List (String × α)}
    {entries : List (String × Value)} {x : α} (taken : variant choices (.table entries) = .ok x) :
    ∀ entry ∈ entries, entry.1 ∈ choices.map (·.1) := by
  match entries with
  | [] => cases taken
  | [(name, v)] =>
    obtain ⟨chosen, own, -⟩ := bind_eq_ok_iff.1 taken
    rw [List.forall_mem_singleton]
    simp only [variant.choose] at own
    split at own
    · next found =>
      obtain ⟨front, back, whole, -⟩ := List.lookup_eq_some_iff.1 found
      rw [whole]
      simp
    · cases own
  | _ :: _ :: _ => cases taken

/-- Whether the switches are those of some fields, or the default where a field is absent, and no
other fields are there. -/
structure Enforcement.IsGivenBy (e : Enforcement) (fields : List (String × Value)) : Prop where
  keys : ∀ entry ∈ fields, entry.1 ∈ ["enabled", "strict"]
  enabled : Takes (fields.lookup "enabled") Decoder.boolean true e.enabled
  strict : Takes (fields.lookup "strict") Decoder.boolean false e.strict

theorem Enforcement.isGivenBy_of_decode {v : Value} {e : Enforcement} (decoded : decode v = .ok e) :
    e.IsGivenBy (record.given v) := by
  simp only [decode, bind_eq_ok_iff, Toml.optional?_eq_ok_iff] at decoded
  obtain ⟨entries, taken, enabled, first, strict, second, same⟩ := decoded
  cases same
  obtain ⟨rfl, keys⟩ := Record.entries_eq_given taken
  exact ⟨keys, first, second⟩

/-- Whether the languages of a definition are those of some fields, and only known fields and known
languages are there. -/
structure Rule.Definition.IsGivenBy (d : Definition) (fields : List (String × Value)) : Prop where
  keys : ∀ entry ∈ fields,
    entry.1 ∈ ["id", "title", "marker", "pattern", "message", "languages"]
  languages : Takes (fields.lookup "languages") (Decoder.list language) [] d.languages
  dialects : ∀ names inside, fields.lookup "languages" = some (.array names) →
    .table inside ∈ names → ∀ entry ∈ inside, entry.1 ∈ ["vue", "javascript", "typescript"]

theorem Rule.Definition.isGivenBy_of_decode {v : Value} {d : Definition}
    (decoded : decode v = .ok d) : d.IsGivenBy (record.given v) := by
  simp only [decode, bind_eq_ok_iff, Toml.optional?_eq_ok_iff] at decoded
  obtain ⟨entries, taken, _, -, _, -, _, -, _, -, _, -, languages, last, same⟩ := decoded
  cases same
  obtain ⟨rfl, keys⟩ := Record.entries_eq_given taken
  refine ⟨keys, last, fun names inside told member => ?_⟩
  rw [told] at last
  obtain ⟨_, same, all⟩ := Decoder.list_eq_ok_iff.1 last
  cases same
  obtain ⟨l, -, own⟩ := exists_of_forall₂ all.flip member
  exact Decoder.keys_of_variant own

/-- Whether a selection of rules is that of some fields, or the default where a field is absent, and
no other fields are there. -/
structure RuleSelection.IsGivenBy (s : RuleSelection) (fields : List (String × Value)) : Prop where
  keys : ∀ entry ∈ fields, entry.1 ∈ ["typed", "disabled", "custom"]
  typed : Takes (fields.lookup "typed") Decoder.boolean true s.typed
  disabled : Takes (fields.lookup "disabled") (Decoder.list Config.ruleId) [] s.disabled
  custom : Takes (fields.lookup "custom") (Decoder.list Rule.Definition.decode) [] s.custom
  definitions : ∀ items, fields.lookup "custom" = some (.array items) →
    List.Forall₂ (fun item d => d.IsGivenBy (Rule.Definition.record.given item)) items s.custom

theorem RuleSelection.isGivenBy_of_decode {v : Value} {s : RuleSelection}
    (decoded : Config.rulesSection v = .ok s) : s.IsGivenBy (Config.rulesRecord.given v) := by
  simp only [Config.rulesSection, bind_eq_ok_iff, Toml.optional?_eq_ok_iff] at decoded
  obtain ⟨entries, taken, typed, first, disabled, second, custom, third, same⟩ := decoded
  cases same
  obtain ⟨rfl, keys⟩ := Record.entries_eq_given taken
  refine ⟨keys, first, second, third, fun items told => ?_⟩
  rw [told] at third
  obtain ⟨_, same, all⟩ := Decoder.list_eq_ok_iff.1 third
  cases same
  exact all.imp fun _ _ => Rule.Definition.isGivenBy_of_decode

namespace Config

/-- What the section of a document gives to the fields of its record. -/
def told (entries : List (String × Value)) (name : String) (r : Record) : List (String × Value) :=
  match entries.lookup name with
  | some v => r.given v
  | none => []

/-- Whether settings are those of a document, with the default of each field that it does not give,
and the document gives nothing else. -/
structure IsGivenBy (c : Config) (entries : List (String × Value)) : Prop where
  keys : ∀ entry ∈ entries, entry.1 ∈ ["police", "files", "rules"]
  enforcement : c.enforcement.IsGivenBy (told entries "police" Enforcement.record)
  files : ∀ entry ∈ told entries "files" filesRecord, entry.1 = "exclude"
  exclude : Takes ((told entries "files" filesRecord).lookup "exclude")
    (Decoder.list Decoder.string) ["**/node_modules/**", "**/.nuxt/**"] c.exclude
  rules : c.rules.IsGivenBy (told entries "rules" rulesRecord)

/-- A section is given, or its settings are the default. -/
theorem told_cases {α : Type} {entries : List (String × Value)} {name : String} {d : Decoder α}
    {default x : α} (takes : Takes (entries.lookup name) d default x) (r : Record) :
    (∃ v, told entries name r = r.given v ∧ d v = .ok x) ∨
      told entries name r = [] ∧ x = default := by
  unfold told
  cases found : entries.lookup name with
  | none => exact .inr ⟨rfl, by rwa [found] at takes⟩
  | some v => exact .inl ⟨v, rfl, by rwa [found] at takes⟩

theorem isGivenBy_of_decode {entries : List (String × Value)} {c : Config}
    (decoded : decode (.table entries) = .ok c) : c.IsGivenBy entries := by
  simp only [decode, bind_eq_ok_iff, Toml.optional?_eq_ok_iff] at decoded
  obtain ⟨all, taken, enforcement, police, exclude, globs, selection, rules, same⟩ := decoded
  cases same
  obtain ⟨given, keys⟩ := Record.entries_eq_given taken
  replace given : all = entries := given
  subst given
  have enforcement' : enforcement.IsGivenBy (told all "police" Enforcement.record) := by
    obtain ⟨v, given, decoded⟩ | ⟨absent, rfl⟩ := told_cases police Enforcement.record
    · exact given ▸ Enforcement.isGivenBy_of_decode decoded
    · rw [absent]
      exact ⟨nofun, rfl, rfl⟩
  have selection' : selection.IsGivenBy (told all "rules" rulesRecord) := by
    obtain ⟨v, given, decoded⟩ | ⟨absent, rfl⟩ := told_cases rules rulesRecord
    · exact given ▸ RuleSelection.isGivenBy_of_decode decoded
    · rw [absent]
      exact ⟨nofun, rfl, rfl, rfl, nofun⟩
  obtain ⟨v, given, decoded⟩ | ⟨absent, rfl⟩ := told_cases globs filesRecord
  · obtain ⟨own, taken, only⟩ := bind_eq_ok_iff.1 decoded
    obtain ⟨rfl, names⟩ := Record.entries_eq_given taken
    rw [← given] at only names
    refine ⟨keys, enforcement', fun entry member => ?_, Toml.optional?_eq_ok_iff.1 only, selection'⟩
    exact List.mem_singleton.1 (names entry member)
  · refine ⟨keys, enforcement', ?_, ?_, selection'⟩
    · rw [absent]
      exact nofun
    · rw [absent]
      rfl

/-- **The order of keys does not matter, and what is taken can be used.** Documents that are equal
up to the order in which their tables give their keys hold equal settings, or both hold the wrong
things, or the settings of both are refused for the same reason. Of settings that are taken, each
glob is one, and the disabled rules are names, none of them twice. They are those of the document,
which gives known fields alone, and where it does not give one they are the default. -/
theorem parse_unordered_usable :
    (∀ text other entries others, Toml.read text = some entries → Toml.read other = some others →
      (Value.table entries).Alike (.table others) →
      (∃ c, parse text = .ok c ∧ parse other = .ok c) ∨
      (∃ m m', parse text = .error (.unfit (.mismatch m)) ∧
        parse other = .error (.unfit (.mismatch m'))) ∨
      ∃ e, parse text = .error e ∧ parse other = .error e ∧
        ((∃ bad, e = .badGlob bad) ∨ ∃ id, e = .disabledTwice id)) ∧
    ∀ text c, parse text = .ok c →
      (∀ glob ∈ c.exclude, ∃ g, Glob.compile .strict glob = .ok g) ∧
      (∀ id ∈ c.rules.disabled, IsName id.text) ∧ c.rules.disabled.Nodup ∧
      ∃ entries, Toml.read text = some entries ∧ c.IsGivenBy entries := by
  refine ⟨fun text other entries others => parse_alike, fun text c parsed => ?_⟩
  obtain ⟨entries, read, decoded, valid⟩ := parse_eq_ok_iff.1 parsed
  obtain ⟨globs, distinct⟩ := validate_eq_ok_iff.1 valid
  exact ⟨Filter.exists_ofGlobs_iff.1 globs, fun id _ => isRuleId_iff.1 id.valid, distinct,
    entries, read, isGivenBy_of_decode decoded⟩

/-- Settings without one of the rules that are builtin. -/
def withoutAny : Config where
  enforcement := ⟨false, true⟩
  exclude := Filter.defaultGlobs
  rules := ⟨true, [⟨"no-any", by decide⟩], []⟩

/-- A document in two sections. -/
def inSections : String :=
  "[police]\nenabled = false\nstrict = true\n[rules]\ndisabled = [\"no-any\"]\n"

/-- The same with the sections, and the keys in one of them, in another order. -/
def reordered : String :=
  "[rules]\ndisabled = [\"no-any\"]\n[police]\nstrict = true\nenabled = false\n"

section
open Toml

theorem read_inSections : Toml.read inSections = some
    [ ("police", .table [("enabled", .boolean false), ("strict", .boolean true)]),
      ("rules", .table [("disabled", .array [.string "no-any"])]) ] := by
  have text : inSections = String.ofList
      [ heading "police", entry "enabled" (boolean false), entry "strict" (boolean true),
        heading "rules", entry "disabled" (array (["no-any"].map quoted)) ].flatten := rfl
  rw [text, read_lines (.cons (isLine_section (by decide)) <| .cons (isLine_switch (by decide) _) <|
    .cons (isLine_switch (by decide) _) <| .cons (isLine_section (by decide)) <|
    .cons (isLine_texts (by decide) _) .nil)]
  rfl

theorem read_reordered : Toml.read reordered = some
    [ ("rules", .table [("disabled", .array [.string "no-any"])]),
      ("police", .table [("strict", .boolean true), ("enabled", .boolean false)]) ] := by
  have text : reordered = String.ofList
      [ heading "rules", entry "disabled" (array (["no-any"].map quoted)),
        heading "police", entry "strict" (boolean true), entry "enabled" (boolean false) ].flatten :=
    rfl
  rw [text, read_lines (.cons (isLine_section (by decide)) <| .cons (isLine_texts (by decide) _) <|
    .cons (isLine_section (by decide)) <| .cons (isLine_switch (by decide) _) <|
    .cons (isLine_switch (by decide) _) .nil)]
  rfl

end

theorem parse_unordered_usable_reordered :
    parse reordered = .ok withoutAny ∧ withoutAny.rules.disabled.Nodup ∧
      withoutAny.IsGivenBy
        [ ("police", .table [("enabled", .boolean false), ("strict", .boolean true)]),
          ("rules", .table [("disabled", .array [.string "no-any"])]) ] := by
  have taken : parse inSections = .ok withoutAny :=
    parse_eq_ok_iff.2 ⟨_, read_inSections, rfl, rfl⟩
  obtain ⟨-, -, distinct, entries, read, given⟩ := parse_unordered_usable.2 _ _ taken
  cases read_inSections.symm.trans read
  refine ⟨?_, distinct, given⟩
  have police : (Value.table [("enabled", .boolean false), ("strict", .boolean true)]).Alike
      (.table [("strict", .boolean true), ("enabled", .boolean false)]) :=
    .table (.swap _ _ _) rfl (.cons (.same _) (.cons (.same _) .nil))
  obtain ⟨c, first, second⟩ | ⟨m, -, failed, -⟩ | ⟨e, failed, -⟩ :=
    parse_unordered_usable.1 _ _ _ _ read_inSections read_reordered
      (.table (.swap _ _ _) rfl (.cons (.same _) (.cons police .nil)))
  · rw [second, ← first, taken]
  · cases taken.symm.trans failed
  · cases taken.symm.trans failed

end Config
end Patrol
