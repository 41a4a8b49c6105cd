import Sift.Text.Integer

/-! Prereleases: identifiers with dots between them. A version without any
identifier is stable, and a stable version comes after all its prereleases. -/
namespace Sift.Version

open Text

structure Prerelease where
  text : String
  deriving DecidableEq, Repr, Inhabited

namespace Prerelease

def none : Prerelease := ⟨""⟩

/-- The parts of a text between its dots. -/
def parts : List Char → List (List Char)
  | [] => [[]]
  | c :: rest =>
    match parts rest with
    | part :: more => if c = '.' then [] :: part :: more else (c :: part) :: more
    | [] => [[c]]

/-- The identifiers; empty ones do not count. -/
def identifiers (p : Prerelease) : List (List Char) :=
  (parts p.text.toList).filter fun part => !part.isEmpty

def isStable (p : Prerelease) : Bool := p.identifiers.isEmpty

/-- Characters in the order of their code points. -/
def compareChars : List Char → List Char → Ordering
  | [], [] => .eq
  | [], _ :: _ => .lt
  | _ :: _, [] => .gt
  | a :: as, b :: bs => (compare a.toNat b.toNat).then (compareChars as bs)

/-- Numbers come before words; a number too long for 64 bits is a word. -/
def compareIdentifiers (a b : List Char) : Ordering :=
  match readInt64? a, readInt64? b with
  | some a, some b => compare a b
  | some _, .none => .lt
  | .none, some _ => .gt
  | .none, .none => compareChars a b

/-- The first difference decides; without one, more identifiers come later. -/
def compareLists : List (List Char) → List (List Char) → Ordering
  | [], [] => .eq
  | [], _ :: _ => .lt
  | _ :: _, [] => .gt
  | a :: as, b :: bs => (compareIdentifiers a b).then (compareLists as bs)

def order (a b : Prerelease) : Ordering :=
  match a.isStable, b.isStable with
  | true, true => .eq
  | true, false => .gt
  | false, true => .lt
  | false, false => compareLists a.identifiers b.identifiers

end Prerelease

end Sift.Version
