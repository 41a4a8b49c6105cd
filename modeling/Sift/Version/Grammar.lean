import Sift.Text.Blank
import Sift.Text.Integer
import Sift.Version.Prerelease

/-! The two grammars of versions: semantic versions, `major.minor.patch` with a
prerelease and a build, and calendar versions, `year-month-day` with a
prerelease. They share one reader, which also reads the versions in constraints,
where a segment may be a wildcard or left out. -/
namespace Sift.Version

open Text

inductive Grammar where
  | semantic
  | date
  deriving DecidableEq, Repr

namespace Grammar

def separator : Grammar → Char
  | .semantic => '.'
  | .date => '-'

/-- How many segments a version may have; only the first three count. -/
def maxSegments : Grammar → Nat
  | .semantic => 4
  | .date => 3

end Grammar

/-- The three numbers of a version. -/
structure Core where
  major : Int
  minor : Int
  patch : Int
  deriving DecidableEq, Repr, Inhabited

/-- What stands for a wildcard, or for a segment that is left out. -/
def wildcardSegment : Int := -1

def Core.order (a b : Core) : Ordering :=
  (compare a.major b.major).then ((compare a.minor b.minor).then (compare a.patch b.patch))

/-- The parts of a version as they were read. -/
structure Parts where
  core : Core
  prerelease : Prerelease
  build : String
  deriving DecidableEq, Repr

/-! ### Segments -/

def isWildcard (c : Char) : Bool := c == '*' || c == 'x' || c == 'X'

/-- The segments read so far, with those that are missing as wildcards. -/
def coreOf : List Int → Core
  | [] => ⟨wildcardSegment, wildcardSegment, wildcardSegment⟩
  | [a] => ⟨a, wildcardSegment, wildcardSegment⟩
  | [a, b] => ⟨a, b, wildcardSegment⟩
  | a :: b :: c :: _ => ⟨a, b, c⟩

theorem dropDigits_length {c : Char} (rest : List Char) (h : c.isDigit = true) :
    ((c :: rest).dropWhile Char.isDigit).length < (c :: rest).length := by
  have := (List.dropWhile_suffix (p := Char.isDigit) (l := rest)).length_le
  simp only [List.dropWhile_cons, h, if_true, List.length_cons]
  omega

/-- Further segments. Separators may stand anywhere between them; a calendar
version ends with its last segment. -/
def readSegments (g : Grammar) (segments : List Int) (cs : List Char) :
    Option (List Int × List Char) :=
  match cs with
  | [] => some (segments, [])
  | c :: rest =>
    if _h : c.isDigit then
      match readInt64? ((c :: rest).takeWhile Char.isDigit) with
      | none => none
      | some n =>
        if g.maxSegments ≤ segments.length then none
        else
          let after := (c :: rest).dropWhile Char.isDigit
          if g = .date ∧ segments.length + 1 = g.maxSegments then some (segments ++ [n], after)
          else readSegments g (segments ++ [n]) after
    else if c = g.separator then readSegments g segments rest
    else if isWildcard c then
      if g.maxSegments ≤ segments.length then none
      else readSegments g (segments ++ [wildcardSegment]) rest
    else if c = '-' ∨ c = '+' ∨ c = ' ' ∨ c = '|' then some (segments, c :: rest)
    else none
termination_by cs.length
decreasing_by
  · exact dropDigits_length _ _h
  · simp
  · simp

/-- The three numbers of a version. A semantic version may have a `v` in front. -/
def readCore (g : Grammar) (cs : List Char) : Option (Core × List Char) := do
  let cs :=
    match g, cs with
    | .semantic, 'v' :: rest | .semantic, 'V' :: rest => rest
    | _, cs => cs
  let (segments, rest) ← readSegments g [] cs
  if segments.isEmpty then none else some (coreOf segments, rest)

/-! ### Prerelease and build -/

def isIdentifierChar (c : Char) : Bool := c.isAlphanum || c == '-' || c == '.'

/-- A prerelease behind a hyphen. One that ends the text and is one number has no
leading zero; with anything behind it, it may have one. -/
def readPrerelease : List Char → Option (Prerelease × List Char)
  | '-' :: rest =>
    let id := rest.takeWhile isIdentifierChar
    if id.isEmpty then none
    else if rest.all Char.isDigit && 1 < rest.length && rest.head? == some '0' then none
    else some (⟨String.ofList id⟩, rest.dropWhile isIdentifierChar)
  | rest => some (.none, rest)

/-- The build of a semantic version, behind a plus. -/
def readBuild (g : Grammar) : List Char → String × List Char
  | '+' :: rest =>
    if g = .semantic then
      (String.ofList (rest.takeWhile isIdentifierChar), rest.dropWhile isIdentifierChar)
    else ("", '+' :: rest)
  | rest => ("", rest)

def readParts (g : Grammar) (cs : List Char) : Option (Parts × List Char) := do
  let (core, cs) ← readCore g cs
  let (prerelease, cs) ← readPrerelease cs
  let (build, cs) := readBuild g cs
  some (⟨core, prerelease, build⟩, cs)

/-- A version that takes up all of the text. -/
def readVersion (g : Grammar) (text : String) : Option Parts :=
  match readParts g (strip text.toList) with
  | some (parts, []) => some parts
  | _ => none

/-! ### Writing -/

/-- A segment with at least `width` digits, or the mark of a wildcard. -/
def writeSegment (width : Nat) (n : Int) : String :=
  if n < 0 then "x" else writePadded width n.toNat

def writeCore (g : Grammar) (core : Core) : String :=
  match g with
  | .semantic =>
    writeSegment 0 core.major ++ "." ++ writeSegment 0 core.minor ++ "."
      ++ writeSegment 0 core.patch
  | .date =>
    writeSegment 4 core.major ++ "-" ++ writeSegment 2 core.minor ++ "-"
      ++ writeSegment 2 core.patch

/-- The prerelease as it follows the three numbers. -/
def writePrerelease (p : Prerelease) : String := if p.isStable then "" else "-" ++ p.text

end Sift.Version
