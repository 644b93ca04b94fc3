import Patrol.Glob.Token

/-! Reading a glob from its text. -/
namespace Patrol.Glob

/-- The ranges of a class so far, the last one first, get one more character. `afterDash` says that a
dash stands in front of it, which makes it the upper end of the last range. -/
def addToClass (ranges : List (Char × Char)) (afterDash : Bool) (c : Char) :
    Except Error (List (Char × Char)) :=
  match afterDash, ranges with
  | true, (lo, _) :: rest => if c < lo then .error (.invalidRange lo c) else .ok ((lo, c) :: rest)
  | _, _ => .ok ((c, c) :: ranges)

/-- The members of a class up to its closing bracket, with what follows. The first member may be a
bracket or a dash, and a dash at the end stands for itself. -/
def readMembers (first afterDash : Bool) (ranges : List (Char × Char)) :
    List Char → Except Error (List (Char × Char) × List Char)
  | [] => .error .unclosedClass
  | c :: cs =>
    if first then readMembers false false [(c, c)] cs
    else if c == ']' then
      .ok ((if afterDash then ('-', '-') :: ranges else ranges).reverse, cs)
    else if c == '-' && !afterDash then readMembers false true ranges cs
    else do readMembers false false (← addToClass ranges afterDash c) cs

/-- A class behind its opening bracket. -/
def readClass (cs : List Char) : Except Error (Token × List Char) := do
  let (negated, cs) := match cs with
    | '!' :: cs | '^' :: cs => (true, cs)
    | cs => (false, cs)
  let (ranges, rest) ← readMembers true false [] cs
  return (.oneOf negated ranges, rest)

/-- A double star has a meaning of its own where it fills a whole part of the path. `tokens` are
the parts in front of it, the last one first, and `before` the character in front; `inChoice`
says whether it stands in braces. Gives the parts with it, and what is left behind it and a slash
that belongs to it. -/
def readDoubleStar (inChoice : Bool) (before : Option Char) (tokens : List Token)
    (cs : List Char) : List Token × List Char :=
  let twoStars := (.star :: .star :: tokens, cs)
  match tokens, cs with
  | [], [] => ([.leading], [])
  | [], c :: rest => if c == '/' then ([.leading], rest) else twoStars
  | last :: front, cs =>
    let opensPart := before == some '/' || (inChoice && (before == some ',' || before == some '\x7b'))
    let ending (kind : Token) : List Token :=
      match last with
      | .leading | .trailing => tokens
      | _ => kind :: front
    if !opensPart then twoStars
    else
      match cs with
      | [] => (ending .trailing, [])
      | '/' :: rest => (ending .between, rest)
      | c :: _ =>
        if inChoice && (c == ',' || c == '\x7d') then (ending .trailing, cs) else twoStars

mutual

/-- Reads parts up to the end, or in braces up to a comma or the closing brace. `tokens` are the
parts so far, the last one first, and `before` the character in front. Fuel of twice the number
of characters is enough: each call takes one or goes from a choice to its branch. -/
def readTokens (style : Style) (inChoice : Bool) :
    Nat → Option Char → List Token → List Char → Except Error (List Token × List Char)
  | 0, _, _, _ => .error .unclosedChoice
  | _ + 1, _, tokens, [] => if inChoice then .error .unclosedChoice else .ok (tokens.reverse, [])
  | fuel + 1, before, tokens, c :: cs =>
    match c with
    | '?' => readTokens style inChoice fuel (some c) (.any :: tokens) cs
    | '*' =>
      match cs with
      | '*' :: cs =>
        let (tokens, rest) := readDoubleStar inChoice before tokens cs
        readTokens style inChoice fuel (some (if rest.length < cs.length then '/' else '*')) tokens rest
      | cs => readTokens style inChoice fuel (some c) (.star :: tokens) cs
    | '[' =>
      match readClass cs with
      | .ok (token, rest) => readTokens style inChoice fuel (some ']') (token :: tokens) rest
      | .error .unclosedClass =>
        if style = .loose then readTokens style inChoice fuel (some c) (.literal '[' :: tokens) cs
        else .error .unclosedClass
      | .error e => .error e
    | '\x7b' => do
      let (branches, rest) ← readBranches style fuel cs (some c)
      readTokens style inChoice fuel (some '\x7d') (.choice branches :: tokens) rest
    | '\x7d' => if inChoice then .ok (tokens.reverse, c :: cs) else .error .unopenedChoice
    | ',' =>
      if inChoice then .ok (tokens.reverse, c :: cs)
      else readTokens style inChoice fuel (some c) (.literal c :: tokens) cs
    | '\\' =>
      match cs with
      | [] => .error .danglingEscape
      | d :: cs => readTokens style inChoice fuel (some d) (.literal d :: tokens) cs
    | c => readTokens style inChoice fuel (some c) (.literal c :: tokens) cs

/-- The branches of a choice, up to and with its closing brace. -/
def readBranches (style : Style) :
    Nat → List Char → Option Char → Except Error (List (List Token) × List Char)
  | 0, _, _ => .error .unclosedChoice
  | fuel + 1, cs, before => do
    let (first, rest) ← readTokens style true fuel before [] cs
    match rest with
    | ',' :: rest =>
      let (others, rest) ← readBranches style fuel rest (some ',')
      return (first :: others, rest)
    | _ => return ([first], rest.drop 1)

end

/-- The parts of the glob that a text writes. -/
def read (style : Style) (text : List Char) : Except Error (List Token) := do
  let (tokens, _) ← readTokens style false (2 * text.length + 2) none [] text
  return tokens

end Patrol.Glob
