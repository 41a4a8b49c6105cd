/-! Sets of characters, and tables over all code points.

The classes of the Unicode standard are long alternations of "in" and "out". A
`CodeSet` writes one down as the ascending code points at which membership
changes; a character belongs to it exactly when an odd number of changes is at
or below it. A `CodeMap` writes down a partial map of characters, such as lower
case, as runs that all move by the same distance. -/
namespace Sift.Text

/-- The number of entries of an ascending array that are at most `n`: steps of
falling powers of two, each taken when it stays at or below `n`. -/
def rank (entries : Array Nat) (n : Nat) : Nat → Nat → Nat
  | 0, at_ => at_
  | k + 1, at_ =>
    let next := at_ + 1 <<< k
    if next ≤ entries.size ∧ entries.getD (next - 1) 0 ≤ n then rank entries n k next
    else rank entries n k at_

/-- Characters given by the ascending code points at which membership changes. -/
structure CodeSet where
  flips : Array Nat

namespace CodeSet

def contains (s : CodeSet) (c : Char) : Bool := rank s.flips c.toNat 12 0 % 2 == 1

end CodeSet

/-- The characters `first`, `first + stride`, … up to `last`, each moved by `offset`. -/
structure CodeRun where
  first : Nat
  last : Nat
  stride : Nat
  offset : Int
  deriving Repr

namespace CodeRun

def covers (r : CodeRun) (n : Nat) : Bool :=
  r.first ≤ n && n ≤ r.last && (n - r.first) % r.stride == 0

/-- Where the run takes `n`, if it covers it. -/
def image? (r : CodeRun) (n : Nat) : Option Nat :=
  if r.covers n then some (n + r.offset).toNat else none

/-- The member of the run that is taken to `n`. -/
def source? (r : CodeRun) (n : Nat) : Option Nat :=
  let m := (n - r.offset : Int)
  if 0 ≤ m && r.covers m.toNat then some m.toNat else none

end CodeRun

/-- A map that moves the characters of some runs and leaves all others alone. -/
structure CodeMap where
  runs : List CodeRun

namespace CodeMap

def apply (m : CodeMap) (c : Char) : Char :=
  match m.runs.findSome? (·.image? c.toNat) with
  | some n => Char.ofNat n
  | none => c

/-- The characters that the map takes to `c`, `c` itself apart. -/
def sources (m : CodeMap) (c : Char) : List Char :=
  m.runs.filterMap fun r => (r.source? c.toNat).map Char.ofNat

end CodeMap

end Sift.Text
