import Sift.Number.Shortest

/-! How a floating-point number is written: the shortest digits that read back,
laid out with or without an exponent. -/
namespace Sift.Number

/-- The choices of a layout. -/
structure Layout where
  tie : Tie
  /-- The least and the greatest power of ten of the leading digit that is
  written without an exponent; none where there never is one. -/
  plain : Option (Int × Int)
  /-- A whole number ends in `.0`. -/
  point : Bool

namespace Layout

def sign (negative : Bool) : String := if negative then "-" else ""

def zeros (n : Int) : String := String.ofList (List.replicate n.toNat '0')

/-- Digits without an exponent. -/
def writePlain (l : Layout) (d : Decimal) : String :=
  let digits := toString d.digits
  let places : Int := digits.length + d.power
  if 0 ≤ d.power then digits ++ zeros d.power ++ if l.point then ".0" else ""
  else if 0 < places then
    String.ofList (digits.toList.take places.toNat) ++ "." ++
      String.ofList (digits.toList.drop places.toNat)
  else "0." ++ zeros (-places) ++ digits

/-- One digit before the point, and the power of ten with its sign. -/
def writeScientific (d : Decimal) : String :=
  let digits := (toString d.digits).toList
  let power : Int := digits.length + d.power - 1
  String.ofList (digits.take 1) ++
    (if digits.length = 1 then "" else "." ++ String.ofList (digits.drop 1)) ++
    "e" ++ (if power < 0 then "-" else "+") ++ toString power.natAbs

def writeDecimal (l : Layout) (d : Decimal) : String :=
  let power : Int := (toString d.digits).length + d.power - 1
  match l.plain with
  | none => l.writePlain d
  | some (least, greatest) =>
    if least ≤ power ∧ power ≤ greatest then l.writePlain d else writeScientific d

def write (l : Layout) : Binary64 → String
  | .nan => "NaN"
  | .infinite negative => sign negative ++ "inf"
  | .finite negative 0 _ => sign negative ++ if l.point then "0.0" else "0"
  | .finite negative mantissa exponent =>
    sign negative ++ l.writeDecimal (shortest l.tie mantissa exponent)

end Layout

/-- Numbers in documents keep their point, and very large and very small ones
have an exponent. -/
def documentLayout : Layout := ⟨.even, some (-5, 15), true⟩

/-- Numbers turned into text have neither an exponent nor an idle point. -/
def textLayout : Layout := ⟨.up, none, false⟩

end Sift.Number
