import Sift.Version.Grammar

/-! Versions: semantic ones and calendar ones, their order and their text. -/
namespace Sift.Version

inductive VersionError where
  | invalidVersion (text : String)
  | invalidConstraint (text : String)
  deriving DecidableEq, Repr

def VersionError.message : VersionError → String
  | .invalidVersion text => s!"'{text}' is not a valid version"
  | .invalidConstraint text => s!"the version constraint '{text}' is not valid"

/-- A segment that is a wildcard or missing counts as zero. -/
def segmentValue (n : Int) : Nat := (max n 0).toNat

/-- `major.minor.patch`, a prerelease and a build. -/
structure Semantic where
  major : Nat
  minor : Nat
  patch : Nat
  prerelease : Prerelease
  build : String
  deriving DecidableEq, Repr

namespace Semantic

def parse (text : String) : Except VersionError Semantic :=
  match readVersion .semantic text with
  | none => .error (.invalidVersion text)
  | some p =>
    .ok ⟨segmentValue p.core.major, segmentValue p.core.minor, segmentValue p.core.patch,
      p.prerelease, p.build⟩

def core (v : Semantic) : Core := ⟨v.major, v.minor, v.patch⟩

def isStable (v : Semantic) : Bool := v.prerelease.isStable

/-- The build has no part in the order. -/
def order (a b : Semantic) : Ordering :=
  (a.core.order b.core).then (a.prerelease.order b.prerelease)

def display (v : Semantic) : String :=
  writeCore .semantic v.core ++ writePrerelease v.prerelease ++
    if v.build.isEmpty then "" else "+" ++ v.build

end Semantic

/-- `year-month-day` and a prerelease. -/
structure Calendar where
  year : Nat
  month : Nat
  day : Nat
  prerelease : Prerelease
  deriving DecidableEq, Repr

namespace Calendar

/-- Segments fit 32 bits. -/
def fits (n : Int) : Bool := segmentValue n < 0x100000000

def parse (text : String) : Except VersionError Calendar :=
  match readVersion .date text with
  | none => .error (.invalidVersion text)
  | some p =>
    if fits p.core.major && fits p.core.minor && fits p.core.patch then
      .ok ⟨segmentValue p.core.major, segmentValue p.core.minor, segmentValue p.core.patch,
        p.prerelease⟩
    else .error (.invalidVersion text)

def core (v : Calendar) : Core := ⟨v.year, v.month, v.day⟩

def isStable (v : Calendar) : Bool := v.prerelease.isStable

def order (a b : Calendar) : Ordering :=
  (a.core.order b.core).then (a.prerelease.order b.prerelease)

def display (v : Calendar) : String :=
  writeCore .date v.core ++ writePrerelease v.prerelease

end Calendar

end Sift.Version
