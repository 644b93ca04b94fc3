import Patrol.Toml.Statement

/-! Reading documents. -/
namespace Patrol.Toml

/-- The table of the entries in braces, which obey the same rules as those of a document. -/
def inlineTable (entries : List (List String × Value)) : Option Value := do
  let table ← ofStatements (entries.map fun (path, v) => .entry path v)
  return .table table

mutual

/-- One value; `depth` bounds the nesting. Fuel of twice the number of characters is enough for
these readers: each call takes a character or goes from a value to its parts. -/
def readValue : Nat → Nat → List Char → Option (Value × List Char)
  | 0, _, _ => none
  | fuel + 1, depth, cs =>
    match cs with
    | '"' :: cs => (readText '"' cs).map fun (t, rest) => (.string (String.ofList t), rest)
    | '\'' :: cs => (readText '\'' cs).map fun (t, rest) => (.string (String.ofList t), rest)
    | '[' :: cs =>
      match depth with
      | 0 => none
      | depth + 1 => do
        let (items, rest) ← readItems fuel depth (dropBlank false cs)
        some (.array items, rest)
    | '\x7b' :: cs =>
      match depth with
      | 0 => none
      | depth + 1 =>
        match dropSpace cs with
        | '\x7d' :: rest => some (.table [], rest)
        | cs => do
          let (entries, rest) ← readEntries fuel depth cs
          some (← inlineTable entries, rest)
    | cs => readBare cs

/-- The items of an array, up to and with its closing bracket. -/
def readItems : Nat → Nat → List Char → Option (List Value × List Char)
  | 0, _, _ => none
  | _ + 1, _, ']' :: rest => some ([], rest)
  | fuel + 1, depth, cs => do
    let (first, rest) ← readValue fuel depth cs
    match dropBlank false rest with
    | ']' :: rest => some ([first], rest)
    | ',' :: rest =>
      let (others, rest) ← readItems fuel depth (dropBlank false rest)
      some (first :: others, rest)
    | _ => none

/-- The entries of a table in braces, up to and with the closing brace. -/
def readEntries : Nat → Nat → List Char → Option (List (List String × Value) × List Char)
  | 0, _, _ => none
  | fuel + 1, depth, cs => do
    let (path, rest) ← readKey cs
    let '=' :: rest := rest | none
    let (value, rest) ← readValue fuel depth (dropSpace rest)
    match dropSpace rest with
    | '\x7d' :: rest => some ([(path, value)], rest)
    | ',' :: rest =>
      let (others, rest) ← readEntries fuel depth rest
      some ((path, value) :: others, rest)
    | _ => none

end

/-- One statement, without the rest of its line. -/
def readStatement (cs : List Char) : Option (Statement × List Char) :=
  match cs with
  | '[' :: '[' :: cs => do
    let (path, rest) ← readKey cs
    let ']' :: ']' :: rest := rest | none
    some (.itemHeading path, rest)
  | '[' :: cs => do
    let (path, rest) ← readKey cs
    let ']' :: rest := rest | none
    some (.heading path, rest)
  | cs => do
    let (path, rest) ← readKey cs
    let '=' :: rest := rest | none
    let (value, rest) ← readValue (2 * rest.length) (maxDepth - 1) (dropSpace rest)
    some (.entry path value, rest)

/-- The statements of a document, one on each line that is not blank. Every statement takes
characters, so their number is fuel enough. -/
def readStatements : Nat → List Char → Option (List Statement)
  | 0, _ => none
  | fuel + 1, cs =>
    match dropSpace cs with
    | [] => some []
    | c :: cs =>
      if c == '#' || c == '\n' || c == '\r' then do
        readStatements fuel (← endOfLine? (c :: cs))
      else do
        let (statement, rest) ← readStatement (c :: cs)
        return statement :: (← readStatements fuel (← endOfLine? rest))

/-- The table that a text writes, unless it is malformed. A mark of the byte order may stand in
front. -/
def read (text : String) : Option (List (String × Value)) := do
  let cs := match text.toList with
    | '\uFEFF' :: cs => cs
    | cs => cs
  ofStatements (← readStatements (cs.length + 1) cs)

end Patrol.Toml
