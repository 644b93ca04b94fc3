import Patrol.Pattern.Term
import Patrol.Total

/-! How much room a pattern takes once it is compiled into an automaton over UTF-8 bytes, counted
in bytes. Patterns that need too much are refused, so that the counts of nested repetitions cannot
multiply without bound. -/
namespace Patrol.Pattern

/-- The bytes that may stand at each place of some encoded characters. -/
abbrev ByteRanges := List (Nat × Nat)

/-- The UTF-8 encoding of a code point. -/
def encodeCode (c : Nat) : List Nat :=
  if c < 0x80 then [c]
  else if c < 0x800 then [0xC0 + c / 0x40, 0x80 + c % 0x40]
  else if c < 0x10000 then [0xE0 + c / 0x1000, 0x80 + c / 0x40 % 0x40, 0x80 + c % 0x40]
  else [0xF0 + c / 0x40000, 0x80 + c / 0x1000 % 0x40, 0x80 + c / 0x40 % 0x40, 0x80 + c % 0x40]

/-- Where a stretch of codes is to be cut, so that the encodings of each part are all the choices
of one byte range for each place: the first number of the second part. -/
def cut? (lo hi : Nat) : Option Nat :=
  if lo < 0x80 && 0x80 ≤ hi then some 0x80
  else if lo < 0x800 && 0x800 ≤ hi then some 0x800
  else if lo < 0x10000 && 0x10000 ≤ hi then some 0x10000
  else if hi < 0x80 then none
  else [0x40, 0x1000, 0x40000].findSome? fun block =>
    if lo / block == hi / block then none
    else if lo % block != 0 then some ((lo / block + 1) * block)
    else if hi % block != block - 1 then some (hi / block * block)
    else none

/-- The byte ranges of a stretch of codes; `fuel` bounds the number of cuts in a row. -/
def encodeStretch : Nat → Nat × Nat → List ByteRanges
  | 0, _ => []
  | fuel + 1, (lo, hi) =>
    match cut? lo hi with
    | some mid => encodeStretch fuel (lo, mid - 1) ++ encodeStretch fuel (mid, hi)
    | none => [(encodeCode lo).zip (encodeCode hi)]

/-- The byte ranges of a set of characters, in ascending order. -/
def encodeSet (s : CodeSet) : List ByteRanges :=
  let scalars := s.diff (.range 0xD800 0xDFFF)
  (CodeSet.stretches 0x110000 scalars.bounds).flatMap (encodeStretch 16)

/-- The sequences that share the first range stand next to each other; gathers what follows. -/
def gather : List ByteRanges → List ((Nat × Nat) × List ByteRanges)
  | [] => []
  | [] :: more => gather more
  | (r :: tail) :: more =>
    match gather more with
    | (r', tails) :: groups =>
      if r == r' then (r, tail :: tails) :: groups else (r, [tail]) :: (r', tails) :: groups
    | [] => [(r, [tail])]

/-- The distinct suffix lists met when the sequences are read range by range. Two places of the
automaton behind which the same can follow are one state. -/
def places : Nat → List ByteRanges → List (List ByteRanges) → List (List ByteRanges)
  | 0, _, seen => seen
  | depth + 1, here, seen =>
    if here.contains [] || here.isEmpty || seen.contains here then seen
    else (gather here).foldl (fun seen (_, tails) => places depth tails seen) (here :: seen)

/-- The bytes of one state. -/
def stateBytes : Nat := 32

/-- A set of characters, matched forward: one state for each place and one for the end; each place
lists its ranges, of eight bytes each. -/
def forwardBytes (s : CodeSet) : Nat :=
  let states := places 4 (encodeSet s) []
  stateBytes * (states.length + 1) + 8 * total (gather · |>.length) states

/-- A set of characters, matched backward: here states are shared where the same bytes lie
behind. -/
def backwardBytes (s : CodeSet) : Nat :=
  let sequences := encodeSet s
  let starts := sequences.flatMap fun r => (List.range r.length).map fun n => r.take (n + 1)
  stateBytes * (starts.eraseDups.length + 2) + 4 * sequences.length

/-- A set of ASCII characters takes one state; the ranges are listed where there are several. -/
def asciiBytes (s : CodeSet) : Nat :=
  let ranges := s.bounds.length / 2
  if ranges ≤ 1 then stateBytes else 2 * stateBytes + 8 * ranges

def letterBytes (backward : Bool) (s : CodeSet) : Nat :=
  match s.bounds with
  | [lo, hi] => if hi == lo + 1 then stateBytes * (encodeCode lo).length else other s
  | _ => other s
where
  other (s : CodeSet) : Nat :=
    if s.below 0x80 then asciiBytes s else if backward then backwardBytes s else forwardBytes s

namespace Term

/-- Whether every match has a character. -/
def alwaysConsumes : Term → Bool
  | .empty | .anchor _ => false
  | .letter _ => true
  | .capture t => t.alwaysConsumes
  | .repeated t lo _ => lo != 0 && t.alwaysConsumes
  | .seq first rest => first.alwaysConsumes || rest.alwaysConsumes
  | .alt first rest => first.alwaysConsumes && rest.alwaysConsumes

/-- The room for a term; only the forward automaton records where groups begin and end. -/
def bytes (backward : Bool) : Term → Nat
  | .empty | .anchor _ => stateBytes
  | .letter set => letterBytes backward set
  | .capture t => t.bytes backward + (if backward then 0 else 2 * stateBytes)
  | .repeated t lo none =>
    let once := t.bytes backward
    if lo == 0 then once + stateBytes * (if t.alwaysConsumes then 1 else 2)
    else lo * once + stateBytes
  | .repeated t lo (some hi) =>
    let once := t.bytes backward
    (if lo == 0 then stateBytes else lo * once) + stateBytes + (hi - lo) * (once + stateBytes + 8)
  | .seq first rest => first.bytes backward + rest.bytes backward
  | .alt first rest => first.bytes backward + rest.bytes backward + stateBytes + 4

/-- The room that is granted. -/
def maxBytes : Nat := 10 * Nat.pow 2 20

/-- Whether the automata of both directions are small enough, with their start and their end. -/
def fits (t : Term) : Bool :=
  t.bytes false + 6 * stateBytes ≤ maxBytes && t.bytes true + 6 * stateBytes ≤ maxBytes

end Term
end Patrol.Pattern
