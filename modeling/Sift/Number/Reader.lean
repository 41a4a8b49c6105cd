import Sift.Number.Binary64
import Sift.Text.Ascii
import Sift.Text.Integer

/-! Reading a floating-point number: digits with at most one point and at least
one digit on either side of it, an optional exponent, an optional sign; or one of
the words for infinity and for no number, in any case. -/
namespace Sift.Number

open Sift.Text

/-- The exponent of a number in text: none at all, or `e` and an integer. -/
def readExponent? : List Char → Option Int
  | [] => some 0
  | c :: cs => if c = 'e' ∨ c = 'E' then readInteger? cs else none

/-- A number without its sign. -/
def readUnsigned? (negative : Bool) (cs : List Char) : Option Binary64 :=
  let whole := cs.takeWhile Char.isDigit
  let rest := cs.dropWhile Char.isDigit
  let (fraction, rest) :=
    match rest with
    | '.' :: more => (more.takeWhile Char.isDigit, more.dropWhile Char.isDigit)
    | _ => ([], rest)
  if whole.isEmpty && fraction.isEmpty then
    let word := asciiLower (String.ofList cs)
    if word == "inf" || word == "infinity" then some (.infinite negative)
    else if word == "nan" then some .nan
    else none
  else
    (readExponent? rest).map fun exponent =>
      .ofDecimal negative (digitsFrom 0 (whole ++ fraction)) (exponent - fraction.length)

def readBinary64? : List Char → Option Binary64
  | '-' :: cs => readUnsigned? true cs
  | '+' :: cs => readUnsigned? false cs
  | cs => readUnsigned? false cs

end Sift.Number
