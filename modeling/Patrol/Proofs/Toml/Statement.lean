import Mathlib.Data.List.Nodup
import Patrol.Toml.Statement

/-! What statements make, where each key is given once: the tables of headings in their order, each
with its entries, and arrays of the tables that stand under one heading again and again. -/
namespace Patrol.Toml

namespace Entries
variable {entries : Entries} {key : String} {node : Node}

theorem get?_eq_none_iff : entries.get? key = none ↔ key ∉ entries.map (·.1) := by
  rw [get?, Option.map_eq_none_iff, List.find?_eq_none]
  simp only [beq_iff_eq, List.mem_map, not_exists, not_and]

theorem get?_append (new : key ∉ entries.map (·.1)) (node : Node) (rest : Entries) :
    get? (entries ++ (key, node) :: rest) key = some node := by
  have before := Option.map_eq_none_iff.1 (get?_eq_none_iff.2 new)
  rw [get?, List.find?_append, before]
  simp

/-- A node under a new key comes last. -/
theorem put_new (new : key ∉ entries.map (·.1)) (node : Node) :
    put key node entries = entries ++ [(key, node)] := by
  induction entries with
  | nil => rfl
  | cons first entries ih =>
    obtain ⟨k, old⟩ := first
    simp only [List.map_cons, List.mem_cons, not_or] at new
    simp [put, Ne.symm new.1, ih new.2]

/-- A node under a key that is there takes the place of the old one. -/
theorem put_append (new : key ∉ entries.map (·.1)) (node old : Node) (rest : Entries) :
    put key node (entries ++ (key, old) :: rest) = entries ++ (key, node) :: rest := by
  induction entries with
  | nil => simp [put]
  | cons first entries ih =>
    obtain ⟨k, other⟩ := first
    simp only [List.map_cons, List.mem_cons, not_or] at new
    simp [put, Ne.symm new.1, ih new.2]

end Entries

variable {entries : Entries} {key : String} {fields : List (String × Value)}
  {statements : List Statement}

/-! ## Entries -/

/-- The entries of a table, one for each key. -/
def entriesOf (fields : List (String × Value)) : List Statement :=
  fields.map fun (key, v) => .entry [key] v

/-- The table that they make. -/
def nodesOf (fields : List (String × Value)) : Entries := fields.map fun (key, v) => (key, .value v)

theorem keys_nodesOf (fields : List (String × Value)) :
    (nodesOf fields).map (·.1) = fields.map (·.1) := by
  rw [nodesOf, List.map_map]
  rfl

/-- Whether statements do not go on with an entry of the table at hand. -/
def BeginsAnew (statements : List Statement) : Prop :=
  ∀ path v rest, statements ≠ .entry path v :: rest

theorem fillFrom_of_beginsAnew (anew : BeginsAnew statements) (entries : Entries) :
    fillFrom statements entries = some entries := by
  cases statements with
  | nil => rfl
  | cons s rest =>
    cases s with
    | entry path v => exact absurd rfl (anew path v rest)
    | heading path | itemHeading path => rfl

theorem fillFrom_entriesOf (distinct : (entries.map (·.1) ++ fields.map (·.1)).Nodup)
    (anew : BeginsAnew statements) :
    fillFrom (entriesOf fields ++ statements) entries = some (entries ++ nodesOf fields) := by
  induction fields generalizing entries with
  | nil =>
    have same : entries ++ nodesOf [] = entries := List.append_nil entries
    rw [same]
    exact fillFrom_of_beginsAnew anew entries
  | cons field fields ih =>
    obtain ⟨key, v⟩ := field
    have new : key ∉ entries.map (·.1) := fun member =>
      (List.nodup_append.1 distinct).2.2 key member key (.head _) rfl
    have others : ((entries ++ [(key, Node.value v)]).map (·.1) ++ fields.map (·.1)).Nodup := by
      simpa using distinct
    have inserted : entries.insert .given false v [key] = some (entries ++ [(key, .value v)]) := by
      simp [Entries.insert, Entries.get?_eq_none_iff.2 new, Entries.put_new new]
    change (do
      fillFrom (entriesOf fields ++ statements) (← entries.insert .given false v [key])) = _
    rw [inserted]
    exact (ih others).trans (by simp [nodesOf])

/-- A new table is filled with its entries. -/
theorem fillFrom_nil (distinct : (fields.map (·.1)).Nodup) (anew : BeginsAnew statements) :
    fillFrom (entriesOf fields ++ statements) [] = some (nodesOf fields) := by
  have keys : (([] : Entries).map (·.1) ++ fields.map (·.1)).Nodup := distinct
  exact fillFrom_entriesOf keys anew

theorem addTables_entriesOf (fields : List (String × Value)) (statements : List Statement)
    (entries : Entries) :
    addTables (entriesOf fields ++ statements) entries = addTables statements entries := by
  induction fields with
  | nil => rfl
  | cons field fields ih => exact ih

/-! ## Tables -/

theorem addTables_heading (new : key ∉ entries.map (·.1)) (distinct : (fields.map (·.1)).Nodup)
    (anew : BeginsAnew statements) :
    addTables (.heading [key] :: (entriesOf fields ++ statements)) entries =
      addTables statements (entries ++ [(key, .table .given (nodesOf fields))]) := by
  have opened : Entries.update
      (Entries.open? key (fillFrom (entriesOf fields ++ statements))) [] entries =
        some (entries ++ [(key, .table .given (nodesOf fields))]) := by
    simp [Entries.update, Entries.open?, Entries.get?_eq_none_iff.2 new, fillFrom_nil distinct anew,
      Entries.put_new new]
  have path : splitPath [key] = some ([], key) := rfl
  rw [addTables, path]
  simp only [bind, Option.bind, opened]
  rw [addTables_entriesOf]

/-- Tables with a heading each. -/
def tablesOf (tables : List (String × List (String × Value))) : List Statement :=
  tables.flatMap fun (key, fields) => .heading [key] :: entriesOf fields

theorem BeginsAnew.tablesOf (anew : BeginsAnew statements)
    (tables : List (String × List (String × Value))) :
    BeginsAnew (tablesOf tables ++ statements) := by
  cases tables with
  | nil => exact anew
  | cons table tables => nofun

/-- Tables stand in the order of their headings. -/
theorem addTables_tablesOf (entries : Entries) (tables : List (String × List (String × Value)))
    (distinct : (entries.map (·.1) ++ tables.map (·.1)).Nodup)
    (own : ∀ table ∈ tables, (table.2.map (·.1)).Nodup) (anew : BeginsAnew statements) :
    addTables (tablesOf tables ++ statements) entries =
      addTables statements
        (entries ++ tables.map fun (key, fields) => (key, .table .given (nodesOf fields))) := by
  induction tables generalizing entries with
  | nil => simp [tablesOf]
  | cons table tables ih =>
    obtain ⟨key, fields⟩ := table
    obtain ⟨first, others⟩ := List.forall_mem_cons.1 own
    have new : key ∉ entries.map (·.1) := fun member =>
      (List.nodup_append.1 distinct).2.2 key member key (.head _) rfl
    have rest := ih (entries ++ [(key, .table .given (nodesOf fields))]) (by simpa using distinct)
      others
    have shape : tablesOf ((key, fields) :: tables) ++ statements =
        .heading [key] :: (entriesOf fields ++ (tablesOf tables ++ statements)) := by
      simp [tablesOf]
    rw [shape, addTables_heading new first (anew.tablesOf tables), rest]
    simp

/-! ## Arrays of tables -/

/-- Tables that stand under one heading. -/
def itemsOf (path : List String) (tables : List (List (String × Value))) : List Statement :=
  tables.flatMap fun fields => .itemHeading path :: entriesOf fields

/-- Entries with an array of tables behind them, unless there are none. -/
def withItems (key : String) (tables : List (List (String × Value))) (entries : Entries) :
    Entries :=
  if tables.isEmpty then entries else entries ++ [(key, .items (tables.map nodesOf))]

/-- Whether the tables on the way lead from the entries at hand to those inside. -/
def Leads (way : List String) (place : Entries → Entries) : Prop :=
  ∀ (f : Entries → Option Entries) (inside : Entries),
    Entries.update f way (place inside) = (f inside).map place

theorem leads_nil : Leads [] id := fun f inside => by
  rw [Entries.update, Option.map_id]
  rfl

theorem leads_last (entries : Entries) (key : String) (new : key ∉ entries.map (·.1))
    (kind : TableKind) :
    Leads [key] fun inside => entries ++ [(key, .table kind inside)] := by
  intro f inside
  rw [Entries.update, Entries.get?_append new]
  simp only [Entries.update]
  cases f inside with
  | none => rfl
  | some inside' =>
    simp only [bind, Option.bind, Option.map_some, Entries.put_append new]

/-- Each table is put behind those that are there. -/
theorem openItem?_withItems (new : key ∉ entries.map (·.1)) {fill : Entries → Option Entries}
    (filled : fill [] = some (nodesOf fields)) (before : List (List (String × Value))) :
    Entries.openItem? key fill (withItems key before entries) =
      some (withItems key (before ++ [fields]) entries) := by
  cases before with
  | nil =>
    simp [Entries.openItem?, withItems, Entries.get?_eq_none_iff.2 new, filled,
      Entries.put_new new]
  | cons first before =>
    simp [Entries.openItem?, withItems, Entries.get?_append new, filled, Entries.put_append new]

theorem beginsAnew_itemsOf (path : List String) (tables : List (List (String × Value))) :
    BeginsAnew (itemsOf path tables) := by
  intro other v rest same
  cases tables with
  | nil => cases same
  | cons fields tables => cases same

theorem addTables_itemsOf {way : List String} {place : Entries → Entries} (leads : Leads way place)
    (entries : Entries) (key : String) (new : key ∉ entries.map (·.1))
    (tables : List (List (String × Value)))
    (distinct : ∀ fields ∈ tables, (fields.map (·.1)).Nodup)
    (before : List (List (String × Value))) :
    addTables (itemsOf (way ++ [key]) tables) (place (withItems key before entries)) =
      some (place (withItems key (before ++ tables) entries)) := by
  induction tables generalizing before with
  | nil =>
    rw [List.append_nil]
    rfl
  | cons fields tables ih =>
    obtain ⟨own, others⟩ := List.forall_mem_cons.1 distinct
    have filled := fillFrom_nil own (beginsAnew_itemsOf (way ++ [key]) tables)
    have opened := leads
      (Entries.openItem? key (fillFrom (entriesOf fields ++ itemsOf (way ++ [key]) tables)))
      (withItems key before entries)
    rw [openItem?_withItems new filled, Option.map_some] at opened
    have path : splitPath (way ++ [key]) = some (way, key) := by simp [splitPath]
    have first : itemsOf (way ++ [key]) (fields :: tables) =
        .itemHeading (way ++ [key]) :: (entriesOf fields ++ itemsOf (way ++ [key]) tables) := by
      simp [itemsOf]
    rw [first, addTables, path]
    simp only [bind, Option.bind, opened]
    rw [addTables_entriesOf, ih others, List.append_assoc]
    rfl

/-! ## Values -/

theorem toValues_append (front back : Entries) :
    toValues (front ++ back) = toValues front ++ toValues back := by
  induction front with
  | nil => rfl
  | cons first front ih =>
    obtain ⟨key, node⟩ := first
    rw [List.cons_append, toValues, toValues, ih, List.cons_append]

theorem toValues_nodesOf (fields : List (String × Value)) : toValues (nodesOf fields) = fields := by
  induction fields with
  | nil => rfl
  | cons field fields ih =>
    obtain ⟨key, v⟩ := field
    exact congrArg ((key, v) :: ·) ih

theorem toTables_nodesOf (tables : List (List (String × Value))) :
    toTables (tables.map nodesOf) = tables.map .table := by
  induction tables with
  | nil => rfl
  | cons fields tables ih => rw [List.map_cons, toTables, toValues_nodesOf, ih, List.map_cons]

/-- The fields of a table with an array of tables behind them, unless there are none. -/
def fieldsWithItems (key : String) (tables : List (List (String × Value)))
    (fields : List (String × Value)) : List (String × Value) :=
  if tables.isEmpty then fields else fields ++ [(key, .array (tables.map .table))]

theorem toValues_withItems (key : String) (tables : List (List (String × Value)))
    (fields : List (String × Value)) :
    toValues (withItems key tables (nodesOf fields)) = fieldsWithItems key tables fields := by
  rw [withItems, fieldsWithItems]
  split
  · exact toValues_nodesOf fields
  · rw [toValues_append, toValues_nodesOf, toValues, Node.toValue, toTables_nodesOf]
    rfl

end Patrol.Toml
