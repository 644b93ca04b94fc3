import Patrol.Proofs.Results
import Patrol.Proofs.Toml.Statement
import Patrol.Toml.Decode

/-! Values that are taken for settings without complaint. -/
namespace Patrol.Toml

namespace Record
variable {r : Record} {entries all : List (String × Value)}

/-- Whether a value fits the field with a name. -/
def Fits (r : Record) (name : String) (v : Value) : Prop :=
  ∃ field, r.fields.find? (·.name == name) = some field ∧ field.check v = .ok ()

theorem fits_needed {α : Type} {decoder : Decoder α} {name : String} {v : Value} {x : α}
    (found : r.fields.find? (·.name == name) = some (.needed name decoder))
    (decoded : decoder v = .ok x) : r.Fits name v := by
  refine ⟨_, found, ?_⟩
  simp [Field.needed, decoded, discard, Functor.discard, Functor.mapConst, Except.map]

theorem fits_optional {α : Type} {decoder : Decoder α} {name : String} {v : Value} {x : α}
    (found : r.fields.find? (·.name == name) = some (.optional name decoder))
    (decoded : decoder v = .ok x) : r.Fits name v := by
  refine ⟨_, found, ?_⟩
  simp [Field.optional, decoded, discard, Functor.discard, Functor.mapConst, Except.map]

theorem checkEntries_eq_ok (fits : ∀ entry ∈ entries, r.Fits entry.1 entry.2) :
    r.checkEntries entries = .ok () := by
  induction entries with
  | nil => rfl
  | cons entry entries ih =>
    obtain ⟨name, v⟩ := entry
    obtain ⟨⟨field, found, checked⟩, others⟩ := List.forall_mem_cons.1 fits
    simp [checkEntries, found, checked, ih others, bind, Except.bind]

/-- A table is taken for a record if its values fit and no field is missing. -/
theorem entries_table (fits : ∀ entry ∈ entries, r.Fits entry.1 entry.2)
    (complete : ∀ field ∈ r.fields, field.required = true → field.name ∈ entries.map (·.1)) :
    r.entries (.table entries) = .ok entries := by
  have none : r.fields.find?
      (fun field => field.required && (entries.lookup field.name).isNone) = none := by
    rw [List.find?_eq_none]
    intro field member
    cases required : field.required with
    | false => simp
    | true =>
      obtain ⟨entry, there, named⟩ := List.mem_map.1 (complete field member required)
      have given : (entries.lookup field.name).isSome = true :=
        List.lookup_isSome_iff.2 ⟨entry, there, by simp [named]⟩
      simp [Option.isSome_iff_ne_none.1 given]
  simp [Record.entries, checkEntries_eq_ok fits, none, bind, Except.bind, pure, Except.pure]

theorem checkEntries_eq_ok_iff :
    r.checkEntries entries = .ok () ↔ ∀ entry ∈ entries, r.Fits entry.1 entry.2 := by
  refine ⟨fun checked => ?_, checkEntries_eq_ok⟩
  induction entries with
  | nil => exact nofun
  | cons entry entries ih =>
    obtain ⟨name, v⟩ := entry
    simp only [checkEntries, bind, Except.bind] at checked
    cases found : r.fields.find? (·.name == name) with
    | none => simp [found, throw, throwThe, MonadExceptOf.throw] at checked
    | some field =>
      cases fit : field.check v with
      | error e => simp [found, fit] at checked
      | ok own =>
        simp only [found, fit] at checked
        exact List.forall_mem_cons.2 ⟨⟨field, found, fit⟩, ih checked⟩

/-- Whether the entries of a table fit their fields and no field is missing. -/
structure Accepts (r : Record) (entries : List (String × Value)) : Prop where
  fit : ∀ entry ∈ entries, r.Fits entry.1 entry.2
  complete : ∀ field ∈ r.fields, field.required = true → field.name ∈ entries.map (·.1)

theorem entries_table_eq_ok_iff :
    r.entries (.table entries) = .ok all ↔ all = entries ∧ r.Accepts entries := by
  constructor
  · intro taken
    simp only [Record.entries, bind, Except.bind] at taken
    cases checked : r.checkEntries entries with
    | error e => simp [checked] at taken
    | ok own =>
      simp only [checked] at taken
      split at taken
      · cases taken
      · next none =>
        cases taken
        refine ⟨rfl, checkEntries_eq_ok_iff.1 checked, fun field member required => ?_⟩
        have there := List.find?_eq_none.1 none field member
        rw [required, Bool.true_and, Bool.not_eq_true, Option.isNone_eq_false_iff,
          List.lookup_isSome_iff] at there
        obtain ⟨entry, own, named⟩ := there
        exact List.mem_map.2 ⟨entry, own, (beq_iff_eq.1 named).symm⟩
  · rintro ⟨rfl, fit, complete⟩
    exact entries_table fit complete

theorem toOption_entries_table (refused : ¬r.Accepts entries) :
    (r.entries (.table entries)).toOption = none := by
  cases taken : r.entries (.table entries) with
  | error e => rfl
  | ok all => exact absurd (entries_table_eq_ok_iff.1 taken).2 refused

/-- What a value gives to the fields of a record: a table by their names, an array in order. -/
def given (r : Record) : Value → List (String × Value)
  | .table entries => entries
  | .array items => (r.fields.map (·.name)).zip items
  | _ => []

theorem assign_eq_zip {length : Nat} {fields : List Field} {items : List Value}
    (assigned : r.assign length fields items = .ok entries) :
    entries = (fields.map (·.name)).zip items := by
  induction fields generalizing items entries with
  | nil => cases assigned; rfl
  | cons field fields ih =>
    cases items with
    | nil =>
      simp only [assign] at assigned
      split at assigned
      · cases assigned
      · simpa using ih assigned
    | cons item items =>
      simp only [assign, bind_eq_ok_iff] at assigned
      obtain ⟨-, -, rest, others, same⟩ := assigned
      cases same
      rw [ih others]
      rfl

/-- A record is given what a value gives, and by none but the names of its fields. -/
theorem entries_eq_given {v : Value} (taken : r.entries v = .ok entries) :
    entries = r.given v ∧ ∀ entry ∈ r.given v, entry.1 ∈ r.fields.map (·.name) := by
  cases v with
  | table inside =>
    obtain ⟨rfl, fit, -⟩ := entries_table_eq_ok_iff.1 taken
    refine ⟨rfl, fun entry member => ?_⟩
    obtain ⟨field, found, -⟩ := fit entry member
    have named := List.find?_some found
    exact List.mem_map.2 ⟨field, List.mem_of_find?_eq_some found, beq_iff_eq.1 named⟩
  | array items =>
    exact ⟨assign_eq_zip taken, fun entry member => (List.of_mem_zip member).1⟩
  | string _ | integer _ | real _ | boolean _ | time => cases taken

end Record

/-- What comes of a field: what the value says, or the default where none is given. -/
def Takes {α : Type} (told : Option Value) (d : Decoder α) (default x : α) : Prop :=
  match told with
  | some v => d v = .ok x
  | none => x = default

theorem optional?_eq_ok_iff {α : Type} {entries : List (String × Value)} {name : String}
    {d : Decoder α} {default x : α} :
    optional? entries name d default = .ok x ↔ Takes (entries.lookup name) d default x := by
  unfold optional? Takes
  cases entries.lookup name with
  | none => simp [eq_comm]
  | some v => rfl

theorem Decoder.list_eq_ok_iff {α : Type} {item : Decoder α} {v : Value} {xs : List α} :
    Decoder.list item v = .ok xs ↔
      ∃ items, v = .array items ∧ List.Forall₂ (fun i x => item i = .ok x) items xs := by
  simp only [← mapM_eq_ok_iff]
  cases v <;> simp [Decoder.list]

/-- A list is taken item by item. -/
theorem Decoder.list_map {α : Type} {item : Decoder α} {f : α → Value}
    (items : ∀ x, item (f x) = .ok x) (xs : List α) :
    Decoder.list item (.array (xs.map f)) = .ok xs := by
  rw [Decoder.list]
  induction xs with
  | nil => rfl
  | cons x xs ih =>
    rw [List.map_cons, List.mapM_cons, items, ih]
    rfl

/-! ## Arrays of tables -/

section
variable {α : Type} {item : Decoder α} {f : α → List (String × Value)} {key : String}
  {fields : List (String × Value)}

theorem list_tables (items : ∀ x, item (.table (f x)) = .ok x) (xs : List α) :
    Decoder.list item (.array ((xs.map f).map .table)) = .ok xs := by
  rw [List.map_map]
  exact Decoder.list_map items xs

theorem fits_fieldsWithItems (key : String) {r : Record} (own : ∀ entry ∈ fields, r.Fits entry.1 entry.2)
    (found : r.fields.find? (·.name == key) = some (.optional key (Decoder.list item)))
    (items : ∀ x, item (.table (f x)) = .ok x) (xs : List α) :
    ∀ entry ∈ fieldsWithItems key (xs.map f) fields, r.Fits entry.1 entry.2 := by
  unfold fieldsWithItems
  split
  · exact own
  · rw [List.forall_mem_append, List.forall_mem_singleton]
    exact ⟨own, Record.fits_optional found (list_tables items xs)⟩

theorem lookup_fieldsWithItems (new : key ∉ fields.map (·.1))
    (tables : List (List (String × Value))) :
    (fieldsWithItems key tables fields).lookup key =
      if tables.isEmpty then none else some (.array (tables.map .table)) := by
  have before : fields.lookup key = none := by
    rw [List.lookup_eq_none_iff]
    intro field member
    have apart : key ≠ field.1 := by
      rintro rfl
      exact new (List.mem_map_of_mem member)
    simpa using apart
  unfold fieldsWithItems
  split
  · exact before
  · simp [List.lookup_append, before]

/-- Fields that are there before keep their values. -/
theorem optional?_fieldsWithItems_of_ne {β : Type} {name : String} (other : name ≠ key)
    (tables : List (List (String × Value))) (decoder : Decoder β) (default : β) :
    optional? (fieldsWithItems key tables fields) name decoder default =
      optional? fields name decoder default := by
  unfold fieldsWithItems
  split
  · rfl
  · have apart : (name == key) = false := by simpa using other
    simp [optional?, List.lookup_append, List.lookup_cons, apart]

/-- No array is there if it would be empty, which is what is taken for it then. -/
theorem optional?_fieldsWithItems (key : String) (fields : List (String × Value)) (new : key ∉ fields.map (·.1))
    (items : ∀ x, item (.table (f x)) = .ok x) (xs : List α) :
    optional? (fieldsWithItems key (xs.map f) fields) key (Decoder.list item) [] = .ok xs := by
  rw [optional?, lookup_fieldsWithItems new]
  cases xs with
  | nil => rfl
  | cons x xs => exact list_tables items (x :: xs)

end

end Patrol.Toml
