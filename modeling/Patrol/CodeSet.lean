/-! Sets of code numbers, for characters and for bytes alike.
The set operations are membership-wise on sets whose bounds ascend. -/
namespace Patrol

/-- A set of numbers, written as the ascending list of the places where membership changes:
in from the first bound, out from the second, in again from the third. After the last bound
membership stays as it is, so complements are sets of this kind too. -/
structure CodeSet where
  bounds : List Nat
deriving DecidableEq

namespace CodeSet

/-- Membership of `c` behind the given bounds, when the numbers in front of them are members
as `inside` says. -/
def memFrom (c : Nat) : Bool → List Nat → Bool
  | inside, [] => inside
  | inside, b :: bs => if c < b then inside else memFrom c (!inside) bs

def contains (s : CodeSet) (c : Nat) : Bool :=
  memFrom c false s.bounds

def empty : CodeSet := ⟨[]⟩

/-- The numbers from `lo` to `hi`, both included. -/
def range (lo hi : Nat) : CodeSet :=
  if lo ≤ hi then ⟨[lo, hi + 1]⟩ else empty

def single (c : Nat) : CodeSet := ⟨[c, c + 1]⟩

/-- Every number outside `s`. -/
def complement (s : CodeSet) : CodeSet :=
  match s.bounds with
  | 0 :: bs => ⟨bs⟩
  | bs => ⟨0 :: bs⟩

/-- Walks through two bound lists at once. The two flags say on which sides the numbers in
front of the remaining bounds are members; `out` is what `f` makes of them. A bound is kept
where the answer of `f` changes. Each step takes a bound, so their number is fuel enough. -/
def merge (f : Bool → Bool → Bool) : Nat → Bool → Bool → Bool → List Nat → List Nat → List Nat
  | 0, _, _, _, _, _ => []
  | _ + 1, _, _, _, [], [] => []
  | n + 1, inA, inB, out, a :: as, [] =>
    let now := f (!inA) inB
    keepIf (now != out) a (merge f n (!inA) inB now as [])
  | n + 1, inA, inB, out, [], b :: bs =>
    let now := f inA (!inB)
    keepIf (now != out) b (merge f n inA (!inB) now [] bs)
  | n + 1, inA, inB, out, a :: as, b :: bs =>
    let inA' := inA != decide (a ≤ b)
    let inB' := inB != decide (b ≤ a)
    let now := f inA' inB'
    keepIf (now != out) (min a b)
      (merge f n inA' inB' now (if a ≤ b then as else a :: as) (if b ≤ a then bs else b :: bs))
where
  keepIf (changes : Bool) (x : Nat) (rest : List Nat) : List Nat :=
    if changes then x :: rest else rest

/-- The numbers for which `f` holds of membership in `s` and membership in `t`; `f` must be
false of two non-members. -/
def combine (f : Bool → Bool → Bool) (s t : CodeSet) : CodeSet :=
  ⟨merge f (s.bounds.length + t.bounds.length) false false false s.bounds t.bounds⟩

def union (s t : CodeSet) : CodeSet := combine (· || ·) s t
def inter (s t : CodeSet) : CodeSet := combine (· && ·) s t
def diff (s t : CodeSet) : CodeSet := combine (fun a b => a && !b) s t
def symmDiff (s t : CodeSet) : CodeSet := combine xor s t

/-- The union of a list of sets. -/
def unionAll (sets : List CodeSet) : CodeSet :=
  sets.foldr union empty

/-- The bounds of the set of the members of an ascending list. -/
def boundsOf : List Nat → List Nat
  | [] => []
  | c :: cs =>
    match boundsOf cs with
    | [] => [c, c + 1]
    | b :: bs => if b = c then b :: bs else if b = c + 1 then c :: bs else c :: (c + 1) :: b :: bs

/-- The set of the members of a list. -/
def ofList (cs : List Nat) : CodeSet :=
  ⟨boundsOf (cs.mergeSort (· ≤ ·))⟩

/-- Whether every member is below `bound`. -/
def below (s : CodeSet) (bound : Nat) : Bool :=
  s.bounds.length % 2 == 0 && s.bounds.all (· ≤ bound)

/-- The stretches of members below `stop`, each with its first and its last number. -/
def stretches (stop : Nat) : List Nat → List (Nat × Nat)
  | [] => []
  | [lo] => if lo < stop then [(lo, stop - 1)] else []
  | lo :: hi :: rest =>
    if hi ≤ stop then (lo, hi - 1) :: stretches stop rest
    else if lo < stop then [(lo, stop - 1)] else []

end CodeSet
end Patrol
