import Patrol.Toml.Number

/-! Documents as sequences of statements: values for keys, and headings that say which table the
following keys belong to. -/
namespace Patrol.Toml

inductive Statement where
  | entry (path : List String) (value : Value)
  | heading (path : List String)
  | itemHeading (path : List String)

/-- The kinds of tables while a document is read. Tables of the kinds `implied` and `dotted` are
there only because longer keys go through them: those of headings, or those of entries. -/
inductive TableKind where
  | implied | dotted | given
deriving DecidableEq

/-- What stands under a key while a document is read. Tables that were written in braces are
values, to which nothing is added. -/
inductive Node where
  | value (v : Value)
  | table (kind : TableKind) (entries : List (String × Node))
  | items (tables : List (List (String × Node)))

abbrev Entries := List (String × Node)

namespace Entries

def get? (entries : Entries) (key : String) : Option Node :=
  (entries.find? (·.1 == key)).map (·.2)

/-- Puts a node under a key: in its old place if there is one, else at the end. -/
def put (key : String) (node : Node) : Entries → Entries
  | [] => [(key, node)]
  | (k, old) :: rest => if k == key then (key, node) :: rest else (k, old) :: put key node rest

def erase (key : String) (entries : Entries) : Entries := entries.filter (·.1 != key)

/-- Adds a value. Tables on the way that are not there yet are made; those that a heading gave
cannot be added to, and neither can those that only longer headings imply. `kind` is that of the
table at hand; a path of one part belongs into the table of the heading alone. -/
def insert (kind : TableKind) (inner : Bool) (value : Value) :
    List String → Entries → Option Entries
  | [], _ => none
  | [key], entries =>
    if inner && kind != .dotted then none
    else if (get? entries key).isSome then none
    else some (put key (.value value) entries)
  | key :: path, entries =>
    match get? entries key with
    | none => do
      let made ← insert .dotted true value path []
      some (put key (.table .dotted made) entries)
    | some (.table kind old) => do
      if kind == .given then none
      else some (put key (.table kind (← insert kind true value path old)) entries)
    | some (.items tables) => do
      let last ← tables.getLast?
      some (put key (.items (tables.dropLast ++ [← insert .given true value path last])) entries)
    | some (.value _) => none

/-- Changes the table at the end of a path of headings. Tables on the way that are not there yet
are made; an array of tables is entered at its last one. -/
def update (f : Entries → Option Entries) : List String → Entries → Option Entries
  | [], entries => f entries
  | key :: path, entries =>
    match get? entries key with
    | none => do some (put key (.table .implied (← update f path [])) entries)
    | some (.table kind old) => do some (put key (.table kind (← update f path old)) entries)
    | some (.items tables) => do
      let last ← tables.getLast?
      some (put key (.items (tables.dropLast ++ [← update f path last])) entries)
    | some (.value _) => none

/-- Opens the table of a heading, which stands at the end then, and fills it. -/
def open? (key : String) (fill : Entries → Option Entries) (entries : Entries) : Option Entries :=
  match get? entries key with
  | none => do some (put key (.table .given (← fill [])) entries)
  | some (.table .implied old) => do
    some (put key (.table .given (← fill old)) (erase key entries))
  | _ => none

/-- Opens one more table of an array and fills it. -/
def openItem? (key : String) (fill : Entries → Option Entries) (entries : Entries) :
    Option Entries :=
  match get? entries key with
  | none => do some (put key (.items [← fill []]) entries)
  | some (.items tables) => do some (put key (.items (tables ++ [← fill []])) entries)
  | _ => none

end Entries

/-- The parts of a path: the tables on the way and the last key. -/
def splitPath (path : List String) : Option (List String × String) :=
  path.getLast?.map (path.dropLast, ·)

/-- Takes the entries up to the next heading into a table. -/
def fillFrom : List Statement → Entries → Option Entries
  | .entry path value :: rest, entries => do
    fillFrom rest (← entries.insert .given false value path)
  | _, entries => some entries

/-- Takes the tables of all headings into the outermost table. -/
def addTables : List Statement → Entries → Option Entries
  | [], entries => some entries
  | .entry _ _ :: rest, entries => addTables rest entries
  | .heading path :: rest, entries => do
    let (way, key) ← splitPath path
    addTables rest (← entries.update (Entries.open? key (fillFrom rest)) way)
  | .itemHeading path :: rest, entries => do
    let (way, key) ← splitPath path
    addTables rest (← entries.update (Entries.openItem? key (fillFrom rest)) way)

mutual

def Node.toValue : Node → Value
  | .value v => v
  | .table _ entries => .table (toValues entries)
  | .items tables => .array (toTables tables)

def toValues : List (String × Node) → List (String × Value)
  | [] => []
  | (key, node) :: rest => (key, node.toValue) :: toValues rest

def toTables : List (List (String × Node)) → List Value
  | [] => []
  | entries :: rest => .table (toValues entries) :: toTables rest

end

/-- The table that a document writes, unless its statements contradict each other. -/
def ofStatements (statements : List Statement) : Option (List (String × Value)) := do
  let root ← fillFrom statements []
  return toValues (← addTables statements root)

end Patrol.Toml
