/-! Decimal integers: an optional sign and at least one ASCII digit, nothing else.
Leading zeros are fine, blanks and separators are not. -/
namespace Sift.Text

/-- Integers that fit a signed word of 64 bits. -/
def fitsInt64 (n : Int) : Bool := -0x8000000000000000 ≤ n && n < 0x8000000000000000

def digitValue (c : Char) : Nat := c.toNat - '0'.toNat

/-- The value of a run of decimal digits, read on from `start`. -/
def digitsFrom (start : Nat) (cs : List Char) : Nat :=
  cs.foldl (fun n c => 10 * n + digitValue c) start

def readNat? (cs : List Char) : Option Nat :=
  if !cs.isEmpty && cs.all Char.isDigit then some (digitsFrom 0 cs) else none

/-- Any integer, however long. -/
def readInteger? : List Char → Option Int
  | '-' :: cs => (readNat? cs).map fun n => -(n : Int)
  | '+' :: cs => (readNat? cs).map Int.ofNat
  | cs => (readNat? cs).map Int.ofNat

/-- An integer of 64 bits; one that does not fit is none at all. -/
def readInt64? (cs : List Char) : Option Int := (readInteger? cs).filter fitsInt64

/-- The sum of two integers of 64 bits, if it is one. -/
def addInt64? (a b : Int) : Option Int := if fitsInt64 (a + b) then some (a + b) else none

def writeInteger (n : Int) : String := toString n

/-- At least `width` digits, filled with zeros on the left. -/
def writePadded (width n : Nat) : String :=
  let digits := (toString n).toList
  String.ofList (List.replicate (width - digits.length) '0' ++ digits)

end Sift.Text
