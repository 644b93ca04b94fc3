import Mathlib.Data.List.Nodup
import Patrol.Proofs.Toml.Statement
import Patrol.Toml.Reader

/-! Documents never give a key twice: in all tables that are read, those in braces included, the
keys differ. -/
namespace Patrol.Toml

/-- Whether the keys differ in all tables of a value. -/
inductive Value.Keyed : Value → Prop
  | string (text : String) : Keyed (.string text)
  | integer (n : Int) : Keyed (.integer n)
  | real (x : Real) : Keyed (.real x)
  | boolean (b : Bool) : Keyed (.boolean b)
  | time : Keyed .time
  | array {items : List Value} (each : ∀ v ∈ items, v.Keyed) : Keyed (.array items)
  | table {entries : List (String × Value)} (distinct : (entries.map (·.1)).Nodup)
      (each : ∀ entry ∈ entries, entry.2.Keyed) : Keyed (.table entries)

theorem Value.keyed_array_iff {items : List Value} :
    (Value.array items).Keyed ↔ ∀ v ∈ items, v.Keyed := by
  constructor
  · rintro (_ | _ | _ | _ | _ | each)
    exact each
  · exact .array

theorem Value.keyed_table_iff {entries : List (String × Value)} :
    (Value.table entries).Keyed ↔
      (entries.map (·.1)).Nodup ∧ ∀ entry ∈ entries, entry.2.Keyed := by
  constructor
  · rintro (_ | _ | _ | _ | _ | _ | ⟨distinct, each⟩)
    exact ⟨distinct, each⟩
  · rintro ⟨distinct, each⟩
    exact .table distinct each

/-- Whether the keys differ in all tables of a node. -/
inductive Node.Keyed : Node → Prop
  | value {v : Value} (keyed : v.Keyed) : Keyed (.value v)
  | table {kind : TableKind} {entries : Entries} (distinct : (entries.map (·.1)).Nodup)
      (each : ∀ entry ∈ entries, entry.2.Keyed) : Keyed (.table kind entries)
  | items {tables : List Entries} (distinct : ∀ entries ∈ tables, (entries.map (·.1)).Nodup)
      (each : ∀ entries ∈ tables, ∀ entry ∈ entries, entry.2.Keyed) : Keyed (.items tables)

namespace Entries
variable {entries result : Entries} {key : String} {n : Node}

/-- Whether the keys differ in a table and in all tables below it. -/
structure Keyed (entries : Entries) : Prop where
  distinct : (entries.map (·.1)).Nodup
  each : ∀ entry ∈ entries, entry.2.Keyed

theorem keyed_nil : Keyed [] := ⟨.nil, nofun⟩

theorem keyed_table_iff {kind : TableKind} : (Node.table kind entries).Keyed ↔ entries.Keyed := by
  constructor
  · rintro (_ | ⟨distinct, each⟩)
    exact ⟨distinct, each⟩
  · exact fun keyed => .table keyed.distinct keyed.each

theorem keyed_items_iff {tables : List Entries} :
    (Node.items tables).Keyed ↔ ∀ entries ∈ tables, Keyed entries := by
  constructor
  · rintro (_ | _ | ⟨distinct, each⟩)
    exact fun entries member => ⟨distinct entries member, each entries member⟩
  · exact fun keyed => .items (fun entries member => (keyed entries member).distinct)
      fun entries member => (keyed entries member).each

theorem Keyed.of_get? (keyed : entries.Keyed) (found : entries.get? key = some n) : n.Keyed := by
  obtain ⟨entry, there, rfl⟩ := Option.map_eq_some_iff.1 found
  exact keyed.each entry (List.mem_of_find?_eq_some there)

theorem mem_keys_put {k : String} (member : k ∈ (put key n entries).map (·.1)) :
    k = key ∨ k ∈ entries.map (·.1) := by
  induction entries with
  | nil => exact .inl (List.mem_singleton.1 member)
  | cons first entries ih =>
    obtain ⟨own, old⟩ := first
    rw [put] at member
    split at member
    · exact (List.mem_cons.1 member).imp_right (List.mem_cons_of_mem own)
    · obtain rfl | member := List.mem_cons.1 member
      · exact .inr (.head _)
      · exact (ih member).imp_right (List.mem_cons_of_mem own)

theorem Keyed.put (keyed : entries.Keyed) (own : n.Keyed) : (put key n entries).Keyed := by
  obtain ⟨distinct, each⟩ := keyed
  induction entries with
  | nil => exact ⟨List.nodup_singleton key, List.forall_mem_singleton.2 own⟩
  | cons first entries ih =>
    obtain ⟨k, old⟩ := first
    obtain ⟨new, distinct⟩ := List.nodup_cons.1 distinct
    obtain ⟨before, each⟩ := List.forall_mem_cons.1 each
    rw [Entries.put]
    split
    · next same =>
      obtain rfl : k = key := by simpa using same
      exact ⟨List.nodup_cons.2 ⟨new, distinct⟩, List.forall_mem_cons.2 ⟨own, each⟩⟩
    · next other =>
      have rest := ih distinct each
      have apart : k ∉ (Entries.put key n entries).map (·.1) := fun member =>
        (mem_keys_put member).elim (fun same => other (by simp [same])) new
      exact ⟨List.nodup_cons.2 ⟨apart, rest.distinct⟩, List.forall_mem_cons.2 ⟨before, rest.each⟩⟩

theorem Keyed.erase (keyed : entries.Keyed) (key : String) : (erase key entries).Keyed := by
  have part : (Entries.erase key entries).Sublist entries := List.filter_sublist
  exact ⟨keyed.distinct.sublist (part.map _),
    fun entry member => keyed.each entry (part.subset member)⟩

/-- The last table of an array can be entered and changed. -/
theorem Keyed.of_getLast? {tables : List Entries} {last : Entries}
    (keyed : (Node.items tables).Keyed) (ends : tables.getLast? = some last) : last.Keyed :=
  keyed_items_iff.1 keyed last (List.mem_of_getLast? ends)

theorem keyed_dropLast_concat {tables : List Entries} (keyed : (Node.items tables).Keyed)
    (changed : entries.Keyed) : (Node.items (tables.dropLast ++ [entries])).Keyed := by
  rw [keyed_items_iff, List.forall_mem_append, List.forall_mem_singleton]
  refine ⟨fun table member => ?_, changed⟩
  exact keyed_items_iff.1 keyed table (List.dropLast_subset tables member)

/-- A value that is added does not take the key of another. -/
theorem Keyed.insert {v : Value} (value : v.Keyed) {path : List String} {kind : TableKind}
    {inner : Bool} (keyed : entries.Keyed)
    (inserted : insert kind inner v path entries = some result) : result.Keyed := by
  induction path generalizing kind inner entries result with
  | nil => cases inserted
  | cons key path ih =>
    cases path with
    | nil =>
      simp only [Entries.insert] at inserted
      split at inserted
      · cases inserted
      · split at inserted
        · cases inserted
        · cases inserted
          exact keyed.put (.value value)
    | cons next path =>
      simp only [Entries.insert, Option.bind_eq_bind] at inserted
      cases found : get? entries key with
      | none =>
        simp only [found, Option.bind_eq_some_iff, Option.some.injEq] at inserted
        obtain ⟨made, inside, rfl⟩ := inserted
        exact keyed.put (keyed_table_iff.2 (ih keyed_nil inside))
      | some n =>
        have own := keyed.of_get? found
        cases n with
        | value old => simp [found] at inserted
        | table kind old =>
          simp only [found] at inserted
          split at inserted
          · cases inserted
          · simp only [Option.bind_eq_some_iff, Option.some.injEq] at inserted
            obtain ⟨made, inside, rfl⟩ := inserted
            exact keyed.put (keyed_table_iff.2 (ih (keyed_table_iff.1 own) inside))
        | items tables =>
          simp only [found, Option.bind_eq_some_iff, Option.some.injEq] at inserted
          obtain ⟨last, ends, made, inside, rfl⟩ := inserted
          have filled := ih (Keyed.of_getLast? own ends) inside
          exact keyed.put (keyed_dropLast_concat own filled)

/-- Whether a change of a table leaves the keys different. -/
def Keeps (f : Entries → Option Entries) : Prop :=
  ∀ ⦃before after : Entries⦄, before.Keyed → f before = some after → after.Keyed

theorem Keeps.update {f : Entries → Option Entries} (keeps : Keeps f) (path : List String) :
    Keeps (update f path) := by
  induction path with
  | nil => exact keeps
  | cons key path ih =>
    intro entries result keyed updated
    simp only [Entries.update, Option.bind_eq_bind] at updated
    cases found : get? entries key with
    | none =>
      simp only [found, Option.bind_eq_some_iff, Option.some.injEq] at updated
      obtain ⟨made, inside, rfl⟩ := updated
      exact keyed.put (keyed_table_iff.2 (ih keyed_nil inside))
    | some n =>
      have own := keyed.of_get? found
      cases n with
      | value old => simp [found] at updated
      | table kind old =>
        simp only [found, Option.bind_eq_some_iff, Option.some.injEq] at updated
        obtain ⟨made, inside, rfl⟩ := updated
        exact keyed.put (keyed_table_iff.2 (ih (keyed_table_iff.1 own) inside))
      | items tables =>
        simp only [found, Option.bind_eq_some_iff, Option.some.injEq] at updated
        obtain ⟨last, ends, made, inside, rfl⟩ := updated
        have filled := ih (Keyed.of_getLast? own ends) inside
        exact keyed.put (keyed_dropLast_concat own filled)

theorem Keeps.open? {fill : Entries → Option Entries} (keeps : Keeps fill) (key : String) :
    Keeps (open? key fill) := by
  intro entries result keyed opened
  simp only [Entries.open?, Option.bind_eq_bind] at opened
  split at opened
  · simp only [Option.bind_eq_some_iff, Option.some.injEq] at opened
    obtain ⟨made, filled, rfl⟩ := opened
    exact keyed.put (keyed_table_iff.2 (keeps keyed_nil filled))
  · next old found =>
    simp only [Option.bind_eq_some_iff, Option.some.injEq] at opened
    obtain ⟨made, filled, rfl⟩ := opened
    have own := keyed_table_iff.1 (keyed.of_get? found)
    exact (keyed.erase key).put (keyed_table_iff.2 (keeps own filled))
  · cases opened

theorem Keeps.openItem? {fill : Entries → Option Entries} (keeps : Keeps fill) (key : String) :
    Keeps (openItem? key fill) := by
  intro entries result keyed opened
  simp only [Entries.openItem?, Option.bind_eq_bind] at opened
  split at opened
  · simp only [Option.bind_eq_some_iff, Option.some.injEq] at opened
    obtain ⟨made, filled, rfl⟩ := opened
    refine keyed.put (keyed_items_iff.2 (List.forall_mem_singleton.2 ?_))
    exact keeps keyed_nil filled
  · next tables found =>
    simp only [Option.bind_eq_some_iff, Option.some.injEq] at opened
    obtain ⟨made, filled, rfl⟩ := opened
    refine keyed.put (keyed_items_iff.2 (List.forall_mem_append.2 ⟨?_, ?_⟩))
    · exact keyed_items_iff.1 (keyed.of_get? found)
    · exact List.forall_mem_singleton.2 (keeps keyed_nil filled)
  · cases opened

end Entries

/-! ## Documents -/

variable {statements : List Statement} {entries : Entries}

/-- Whether the keys differ in the value of a statement, if it has one. -/
def Statement.Keyed : Statement → Prop
  | .entry _ v => v.Keyed
  | .heading _ | .itemHeading _ => True

theorem keeps_fillFrom (keyed : ∀ s ∈ statements, s.Keyed) :
    Entries.Keeps (fillFrom statements) := by
  intro entries result own filled
  induction statements generalizing entries with
  | nil =>
    cases filled
    exact own
  | cons s statements ih =>
    obtain ⟨first, rest⟩ := List.forall_mem_cons.1 keyed
    cases s with
    | entry path v =>
      simp only [fillFrom, Option.bind_eq_bind, Option.bind_eq_some_iff] at filled
      obtain ⟨added, inserted, filled⟩ := filled
      exact ih rest (own.insert first inserted) filled
    | heading path | itemHeading path =>
      cases filled
      exact own

theorem keeps_addTables (keyed : ∀ s ∈ statements, s.Keyed) :
    Entries.Keeps (addTables statements) := by
  intro entries result own added
  induction statements generalizing entries with
  | nil =>
    cases added
    exact own
  | cons s statements ih =>
    have rest := (List.forall_mem_cons.1 keyed).2
    cases s with
    | entry path v => exact ih rest own added
    | heading path =>
      simp only [addTables, Option.bind_eq_bind, Option.bind_eq_some_iff] at added
      obtain ⟨⟨way, key⟩, -, changed, updated, added⟩ := added
      exact ih rest (((keeps_fillFrom rest).open? key).update way own updated) added
    | itemHeading path =>
      simp only [addTables, Option.bind_eq_bind, Option.bind_eq_some_iff] at added
      obtain ⟨⟨way, key⟩, -, changed, updated, added⟩ := added
      exact ih rest (((keeps_fillFrom rest).openItem? key).update way own updated) added

theorem toValues_eq (entries : Entries) :
    toValues entries = entries.map fun entry => (entry.1, entry.2.toValue) := by
  induction entries with
  | nil => rfl
  | cons entry entries ih => rw [toValues, ih, List.map_cons]

theorem toTables_eq (tables : List Entries) :
    toTables tables = tables.map fun entries => .table (toValues entries) := by
  induction tables with
  | nil => rfl
  | cons entries tables ih => rw [toTables, ih, List.map_cons]

theorem keyed_toValues (distinct : (entries.map (·.1)).Nodup)
    (each : ∀ entry ∈ entries, entry.2.toValue.Keyed) : (Value.table (toValues entries)).Keyed := by
  rw [toValues_eq]
  refine .table ?_ (List.forall_mem_map.2 each)
  rwa [List.map_map]

theorem Node.Keyed.toValue {n : Node} (keyed : n.Keyed) : n.toValue.Keyed := by
  induction keyed with
  | value keyed => exact keyed
  | table distinct _ ih => exact keyed_toValues distinct ih
  | items distinct _ ih =>
    rw [Node.toValue, toTables_eq]
    exact .array (List.forall_mem_map.2 fun entries member =>
      keyed_toValues (distinct entries member) (ih entries member))

theorem keyed_ofStatements (keyed : ∀ s ∈ statements, s.Keyed) {fields : List (String × Value)}
    (made : ofStatements statements = some fields) : (Value.table fields).Keyed := by
  simp only [ofStatements, Option.bind_eq_bind, Option.bind_eq_some_iff, Option.pure_def,
    Option.some.injEq] at made
  obtain ⟨root, filled, all, added, rfl⟩ := made
  have own := keeps_fillFrom keyed Entries.keyed_nil filled
  have table : (Node.table .given all).Keyed :=
    Entries.keyed_table_iff.2 (keeps_addTables keyed own added)
  exact table.toValue

/-! ## Texts -/

theorem keyed_integer? {n : Int} {v : Value} (read : integer? n = some v) : v.Keyed := by
  rw [integer?] at read
  split at read
  · cases read
    exact .integer n
  · cases read

theorem keyed_readInteger {word : List Char} {v : Value} (read : readInteger word = some v) :
    v.Keyed := by
  simp only [readInteger, Option.bind_eq_bind] at read
  split at read
  all_goals
    obtain ⟨digits, -, read⟩ := Option.bind_eq_some_iff.1 read
    exact keyed_integer? read

theorem forall_mem_bind {α β : Type} {P : β → Prop} {o : Option α} {f : α → Option β}
    (each : ∀ a, ∀ b ∈ f a, P b) : ∀ b ∈ o >>= f, P b := by
  intro b member
  obtain ⟨a, -, found⟩ := Option.bind_eq_some_iff.1 member
  exact each a b found

theorem keyed_readReal (word : List Char) : ∀ v ∈ readReal word, v.Keyed := by
  have real (x : Real) : ∀ v ∈ (pure (.real x) : Option Value), v.Keyed := by
    rintro v ⟨⟩
    exact .real x
  simp only [readReal]
  -- whatever the parts of the number are, nothing but a number comes of them
  repeat' first
    | exact real _
    | refine forall_mem_bind fun _ => ?_
    | split

theorem keyed_readBare {cs rest : List Char} {v : Value} (read : readBare cs = some (v, rest)) :
    v.Keyed := by
  have single {word more : List Char} (read : readBare.single word more = some (v, rest)) :
      v.Keyed := by
    rw [readBare.single] at read
    split at read
    · cases read
      exact .time
    · obtain ⟨w, found, same⟩ := Option.map_eq_some_iff.1 read
      cases same
      cases whole : readInteger word with
      | some own =>
        rw [whole] at found
        cases found
        exact keyed_readInteger whole
      | none =>
        rw [whole] at found
        exact keyed_readReal word v found
  simp only [readBare] at read
  split at read
  · cases read
    exact .boolean true
  · cases read
    exact .boolean false
  · split at read
    · split at read
      · cases read
        exact .time
      · exact single read
    · exact single read

theorem keyed_inlineTable {entries : List (List String × Value)} {v : Value}
    (keyed : ∀ entry ∈ entries, entry.2.Keyed) (made : inlineTable entries = some v) : v.Keyed := by
  obtain ⟨table, read, same⟩ := Option.bind_eq_some_iff.1 made
  cases same
  have statements : ∀ s ∈ entries.map fun entry => Statement.entry entry.1 entry.2, s.Keyed :=
    List.forall_mem_map.2 keyed
  exact keyed_ofStatements statements read

/-- What the readers of values give, each with its fuel. -/
theorem keyed_readers (fuel : Nat) :
    (∀ {depth cs v rest}, readValue fuel depth cs = some (v, rest) → v.Keyed) ∧
    (∀ {depth cs items rest}, readItems fuel depth cs = some (items, rest) →
      ∀ v ∈ items, v.Keyed) ∧
    ∀ {depth cs entries rest}, readEntries fuel depth cs = some (entries, rest) →
      ∀ entry ∈ entries, entry.2.Keyed := by
  induction fuel with
  | zero => exact ⟨nofun, nofun, nofun⟩
  | succ fuel ih =>
    obtain ⟨values, items, entries⟩ := ih
    refine ⟨fun {depth cs v rest} read => ?_, fun {depth cs all rest} read => ?_,
      fun {depth cs all rest} read => ?_⟩
    · rw [readValue.eq_def] at read
      simp only [Option.bind_eq_bind] at read
      split at read
      · obtain ⟨found, -, same⟩ := Option.map_eq_some_iff.1 read
        cases same
        exact .string _
      · obtain ⟨found, -, same⟩ := Option.map_eq_some_iff.1 read
        cases same
        exact .string _
      · split at read
        · cases read
        · simp only [Option.bind_eq_some_iff] at read
          obtain ⟨⟨all, more⟩, inside, same⟩ := read
          cases same
          exact .array (items inside)
      · split at read
        · cases read
        · split at read
          · cases read
            exact .table .nil nofun
          · simp only [Option.bind_eq_some_iff] at read
            obtain ⟨⟨all, more⟩, inside, table, made, same⟩ := read
            cases same
            exact keyed_inlineTable (entries inside) made
      · exact keyed_readBare read
    · rw [readItems.eq_def] at read
      simp only [Option.bind_eq_bind] at read
      split at read
      · cases read
      · cases read
        exact nofun
      · next same notClosed =>
        cases same
        simp only [Option.bind_eq_some_iff] at read
        obtain ⟨⟨first, more⟩, value, read⟩ := read
        split at read
        · cases read
          exact List.forall_mem_singleton.2 (values value)
        · simp only [Option.bind_eq_some_iff] at read
          obtain ⟨⟨others, last⟩, inside, same⟩ := read
          cases same
          exact List.forall_mem_cons.2 ⟨values value, items inside⟩
        · cases read
    · simp only [readEntries, Option.bind_eq_bind, Option.bind_eq_some_iff] at read
      obtain ⟨⟨path, more⟩, -, read⟩ := read
      split at read
      · simp only [Option.bind_eq_some_iff] at read
        obtain ⟨⟨v, more⟩, value, read⟩ := read
        split at read
        · cases read
          exact List.forall_mem_singleton.2 (values value)
        · simp only [Option.bind_eq_some_iff] at read
          obtain ⟨⟨others, last⟩, inside, same⟩ := read
          cases same
          exact List.forall_mem_cons.2 ⟨values value, entries inside⟩
        · cases read
      · cases read

theorem keyed_readStatement {cs rest : List Char} {s : Statement}
    (read : readStatement cs = some (s, rest)) : s.Keyed := by
  simp only [readStatement, Option.bind_eq_bind] at read
  split at read
  all_goals obtain ⟨⟨path, more⟩, -, read⟩ := Option.bind_eq_some_iff.1 read
  · split at read
    · cases read
      trivial
    · cases read
  · split at read
    · cases read
      trivial
    · cases read
  · split at read
    · obtain ⟨⟨v, last⟩, value, same⟩ := Option.bind_eq_some_iff.1 read
      cases same
      exact (keyed_readers _).1 value
    · cases read

theorem keyed_readStatements {fuel : Nat} {cs : List Char} {statements : List Statement}
    (read : readStatements fuel cs = some statements) : ∀ s ∈ statements, s.Keyed := by
  induction fuel generalizing cs statements with
  | zero => cases read
  | succ fuel ih =>
    simp only [readStatements, Option.bind_eq_bind] at read
    split at read
    · cases read
      exact nofun
    · split at read
      · obtain ⟨rest, -, read⟩ := Option.bind_eq_some_iff.1 read
        exact ih read
      · obtain ⟨⟨s, rest⟩, first, read⟩ := Option.bind_eq_some_iff.1 read
        obtain ⟨more, -, read⟩ := Option.bind_eq_some_iff.1 read
        obtain ⟨others, behind, same⟩ := Option.bind_eq_some_iff.1 read
        cases same
        exact List.forall_mem_cons.2 ⟨keyed_readStatement first, ih behind⟩

/-- In the table that a text writes, no key is given twice, and neither in any table below it. -/
theorem keyed_read {text : String} {fields : List (String × Value)}
    (read : read text = some fields) : (Value.table fields).Keyed := by
  obtain ⟨statements, stated, made⟩ := Option.bind_eq_some_iff.1 read
  exact keyed_ofStatements (keyed_readStatements stated) made

end Patrol.Toml
