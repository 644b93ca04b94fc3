import Patrol.Text.Digits

/-! The words of configuration documents: blanks, comments, keys and quoted texts. A reader gives
what it read with the characters behind it, or nothing where the text is malformed. -/
namespace Patrol.Toml
open Text (hexDigit? ofDigits)

/-- Characters of comments and quoted texts: all but controls, though tabs are allowed. -/
def isPlain (c : Char) : Bool := c == '\t' || (0x20 ≤ c.toNat && c.toNat != 0x7F)

def isSpace (c : Char) : Bool := c == ' ' || c == '\t'

def dropSpace (cs : List Char) : List Char := cs.dropWhile isSpace

/-- What follows the end of a line. -/
def newline? : List Char → Option (List Char)
  | '\n' :: cs => some cs
  | '\r' :: '\n' :: cs => some cs
  | _ => none

/-- Passes over blanks, comments and ends of lines; `inComment` up to the next end of a line. -/
def dropBlank : Bool → List Char → List Char
  | _, [] => []
  | _, '\n' :: cs => dropBlank false cs
  | _, '\r' :: '\n' :: cs => dropBlank false cs
  | true, c :: cs => if isPlain c then dropBlank true cs else c :: cs
  | false, c :: cs =>
    if isSpace c then dropBlank false cs else if c == '#' then dropBlank true cs else c :: cs

/-- The rest of a line, where only blanks and a comment are left on it, and its end. -/
def endOfLine? (cs : List Char) : Option (List Char) :=
  let rest := match dropSpace cs with
    | '#' :: comment => comment.dropWhile isPlain
    | rest => rest
  if rest.isEmpty then some [] else newline? rest

/-- The character with the code that the next `n` hexadecimal digits write. -/
def scalar? (n : Nat) (cs : List Char) : Option (Char × List Char) := do
  let digits ← (cs.take n).mapM hexDigit?
  let code := ofDigits 16 digits
  if digits.length = n ∧ code.isValidChar then some (Char.ofNat code, cs.drop n) else none

/-- The character that is written behind a backslash. -/
def escape? : List Char → Option (Char × List Char)
  | [] => none
  | c :: cs =>
    match c with
    | 'b' => some ('\x08', cs)
    | 't' => some ('\t', cs)
    | 'n' => some ('\n', cs)
    | 'f' => some ('\x0c', cs)
    | 'r' => some ('\r', cs)
    | '"' => some ('"', cs)
    | '\\' => some ('\\', cs)
    | 'u' => scalar? 4 cs
    | 'U' => scalar? 8 cs
    | _ => none

/-- A backslash at the end of a line joins it with the next line that is not blank. -/
def joinLines? (cs : List Char) : Option (List Char) :=
  (newline? (dropSpace cs)).map fun rest => rest.dropWhile fun c => isSpace c || c == '\n' || c == '\r'

theorem length_scalar? {n : Nat} {cs : List Char} {c : Char} {rest : List Char}
    (h : scalar? n cs = some (c, rest)) : rest.length ≤ cs.length := by
  simp only [scalar?, Option.bind_eq_bind, Option.bind_eq_some_iff] at h
  obtain ⟨digits, -, h⟩ := h
  split at h
  · simp only [Option.some.injEq, Prod.mk.injEq] at h
    simp [← h.2]
  · simp at h

theorem length_escape? {cs : List Char} {c : Char} {rest : List Char}
    (h : escape? cs = some (c, rest)) : rest.length < cs.length := by
  unfold escape? at h
  split at h
  · simp at h
  · split at h <;> grind [→ length_scalar?]

theorem length_newline? {cs rest : List Char} (h : newline? cs = some rest) :
    rest.length < cs.length := by
  unfold newline? at h
  split at h <;> grind

theorem length_dropWhile_le (p : Char → Bool) (cs : List Char) :
    (cs.dropWhile p).length ≤ cs.length := (List.dropWhile_sublist p).length_le

theorem length_joinLines? {cs rest : List Char} (h : joinLines? cs = some rest) :
    rest.length < cs.length := by
  simp only [joinLines?, Option.map_eq_some_iff] at h
  obtain ⟨more, h, rfl⟩ := h
  have h₁ := length_newline? h
  have h₂ := length_dropWhile_le (fun c => isSpace c || c == '\n' || c == '\r') more
  have h₃ : (dropSpace cs).length ≤ cs.length := length_dropWhile_le ..
  omega

/-- The text up to its closing quotation marks: one, or in texts of several lines three. There the
ends of lines belong to the text, and so do up to two more marks in front of the closing ones.
Backslashes mean themselves between single marks. -/
def readQuoted (mark : Char) (lines : Bool) : List Char → Option (List Char × List Char)
  | [] => none
  | c :: cs =>
    if c == mark then
      let more := (cs.takeWhile (· == mark)).length
      if !lines then some ([], cs)
      else if more < 2 then (readQuoted mark lines cs).map fun (t, rest) => (c :: t, rest)
      else some (List.replicate (min (more - 2) 2) mark, cs.drop (min more 4))
    else if c == '\\' && mark == '"' then
      match h : escape? cs with
      | some (d, rest) =>
        have := length_escape? h
        (readQuoted mark lines rest).map fun (t, rest) => (d :: t, rest)
      | none =>
        match h : joinLines? cs with
        | some rest =>
          have := length_joinLines? h
          if lines then readQuoted mark lines rest else none
        | none => none
    else if isPlain c then (readQuoted mark lines cs).map fun (t, rest) => (c :: t, rest)
    else if !lines then none
    else
      match h : newline? (c :: cs) with
      | some rest =>
        have := length_newline? h
        (readQuoted mark lines rest).map fun (t, rest) => ('\n' :: t, rest)
      | none => none
termination_by cs => cs.length
decreasing_by all_goals simp_all <;> omega

/-- The text behind a first quotation mark. Three marks open a text of several lines; the end of a
line right behind them is dropped. -/
def readText (mark : Char) (cs : List Char) : Option (List Char × List Char) :=
  match cs with
  | a :: b :: rest =>
    if a == mark && b == mark then readQuoted mark true ((newline? rest).getD rest)
    else readQuoted mark false cs
  | _ => readQuoted mark false cs

def isBare (c : Char) : Bool := c.isAlphanum || c == '-' || c == '_'

/-- One part of a key: bare, or a quoted text on one line. -/
def readKeyPart : List Char → Option (String × List Char)
  | '"' :: cs => (readQuoted '"' false cs).map fun (t, rest) => (String.ofList t, rest)
  | '\'' :: cs => (readQuoted '\'' false cs).map fun (t, rest) => (String.ofList t, rest)
  | cs =>
    match cs.span isBare with
    | ([], _) => none
    | (name, rest) => some (String.ofList name, rest)

/-- The parts of a key, which are joined by points; `fuel` bounds their number. -/
def readKeyParts : Nat → List Char → Option (List String × List Char)
  | 0, _ => none
  | fuel + 1, cs => do
    let (first, rest) ← readKeyPart (dropSpace cs)
    match dropSpace rest with
    | '.' :: rest =>
      let (others, rest) ← readKeyParts fuel rest
      some (first :: others, rest)
    | rest => some ([first], rest)

/-- Keys have fewer parts than this, and arrays and tables are nested less deeply. -/
def maxDepth : Nat := 80

def readKey (cs : List Char) : Option (List String × List Char) := readKeyParts (maxDepth - 1) cs

end Patrol.Toml
