/-! Floating-point numbers of 64 bits, as exact numbers.

A finite number is a sign, a mantissa below 2 ^ 53 and a power of two from
2 ^ -1074 up to 2 ^ 971; the mantissa has its full 53 bits unless the power is
the smallest. Rounding, comparing and printing are exact arithmetic on these
parts. -/
namespace Sift.Number

inductive Binary64 where
  | finite (negative : Bool) (mantissa : Nat) (exponent : Int)
  | infinite (negative : Bool)
  | nan
  deriving DecidableEq, Repr, Inhabited

namespace Binary64

def leastExponent : Int := -1074

def greatestExponent : Int := 971

def zero (negative : Bool) : Binary64 := .finite negative 0 leastExponent

def isFinite : Binary64 → Bool
  | .finite .. => true
  | _ => false

/-! ### Rounding -/

/-- The quotient rounded to the nearest integer, a half to the even neighbour. -/
def roundQuotient (num den : Nat) : Nat :=
  let quotient := num / den
  let twice := 2 * (num % den)
  if twice < den then quotient
  else if den < twice then quotient + 1
  else quotient + quotient % 2

/-- `num / den` in units of `2 ^ exponent`, as a fraction. -/
def scaled (num den : Nat) (exponent : Int) : Nat × Nat :=
  if exponent < 0 then (num <<< (-exponent).toNat, den) else (num, den <<< exponent.toNat)

/-- The power of two in whose units `num / den` has 53 bits before the point, or
the smallest power there is. -/
def exponentFor (num den : Nat) : Int :=
  let guess : Int := (num.log2 : Int) - den.log2 - 53
  let (n, d) := scaled num den guess
  max leastExponent (if n / d < 1 <<< 53 then guess else guess + 1)

/-- The number nearest to `num / den`, the even one of two. -/
def ofRatio (negative : Bool) (num den : Nat) : Binary64 :=
  if num = 0 then zero negative
  else
    let exponent := exponentFor num den
    let (n, d) := scaled num den exponent
    let mantissa := roundQuotient n d
    let (mantissa, exponent) :=
      if mantissa = 1 <<< 53 then (1 <<< 52, exponent + 1) else (mantissa, exponent)
    if greatestExponent < exponent then .infinite negative else .finite negative mantissa exponent

def ofInt (n : Int) : Binary64 := ofRatio (n < 0) n.natAbs 1

/-- The number nearest to `digits * 10 ^ power`. A value beyond the range on
either side is decided by its number of digits alone. -/
def ofDecimal (negative : Bool) (digits : Nat) (power : Int) : Binary64 :=
  if digits = 0 then zero negative
  else
    let places : Int := (toString digits).length + power
    if 310 < places then .infinite negative
    else if places < -330 then zero negative
    else if power < 0 then ofRatio negative digits (Nat.pow 10 (-power).toNat)
    else ofRatio negative (digits * Nat.pow 10 power.toNat) 1

/-! ### Order -/

/-- The value in units of `2 ^ unit`, for a unit at or below the number's own. -/
def inUnits (negative : Bool) (mantissa : Nat) (exponent unit : Int) : Int :=
  let magnitude : Int := (mantissa <<< (exponent - unit).toNat : Nat)
  if negative then -magnitude else magnitude

/-- The order of two numbers; a number that is none has no place in it. -/
def compare? : Binary64 → Binary64 → Option Ordering
  | .nan, _ => none
  | _, .nan => none
  | .infinite a, .infinite b => some (compare (!a) (!b))
  | .infinite a, .finite .. => some (if a then .lt else .gt)
  | .finite .., .infinite b => some (if b then .gt else .lt)
  | .finite sa ma ea, .finite sb mb eb =>
    let unit := min ea eb
    some (compare (inUnits sa ma ea unit) (inUnits sb mb eb unit))

/-- The same number; zero has two signs and is one number. -/
def same (a b : Binary64) : Bool := compare? a b == some .eq

end Binary64

end Sift.Number
