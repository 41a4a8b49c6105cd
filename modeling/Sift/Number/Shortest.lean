import Sift.Number.Binary64

/-! The shortest decimal that reads back as a given number.

The reals that round to a number form an interval around it, half a unit wide to
either side, or a quarter below a power of two; its ends belong to it when the
mantissa is even. The decimals of one, two, … digits form ever finer grids, and
on each grid only the two neighbours of the number can be the closest one in the
interval. The first grid with a hit wins, of two hits the nearer one. -/
namespace Sift.Number

/-- Which of two equally near decimals is taken. -/
inductive Tie where
  | even
  | up
  deriving DecidableEq, Repr

/-- The decimal `digits * 10 ^ power`. -/
structure Decimal where
  digits : Nat
  power : Int
  deriving DecidableEq, Repr

namespace Shortest

/-- The interval of reals that round to a number, in units of `2 ^ exponent`. -/
structure Interval where
  low : Nat
  value : Nat
  high : Nat
  closed : Bool
  exponent : Int

def interval (mantissa : Nat) (exponent : Int) : Interval :=
  let narrow := mantissa = 1 <<< 52 ∧ Binary64.leastExponent < exponent
  { low := 4 * mantissa - if narrow then 1 else 2
    value := 4 * mantissa
    high := 4 * mantissa + 2
    closed := mantissa % 2 = 0
    exponent := exponent - 2 }

/-- `digits * 10 ^ power` and `n * 2 ^ exponent` as integers in one common unit. -/
def common (digits : Nat) (power : Int) (n : Nat) (exponent : Int) : Nat × Nat :=
  ((digits * Nat.pow 10 power.toNat) <<< (-exponent).toNat,
    n <<< exponent.toNat * Nat.pow 10 (-power).toNat)

def Interval.contains (i : Interval) (d : Decimal) : Bool :=
  let (a, low) := common d.digits d.power i.low i.exponent
  let (b, high) := common d.digits d.power i.high i.exponent
  if i.closed then low ≤ a && b ≤ high else low < a && b < high

/-- The power of ten of the leading digit. -/
def magnitude (n : Nat) (exponent : Int) : Int :=
  if exponent < 0 then
    let shift : Nat := 400
    let whole := (n * Nat.pow 10 shift) >>> (-exponent).toNat
    (toString whole).length - 1 - (shift : Int)
  else (toString (n <<< exponent.toNat)).length - 1

/-- The decimal at or below the value on the grid of multiples of `10 ^ power`. -/
def floor (i : Interval) (power : Int) : Decimal :=
  let (unit, value) := common 1 power i.value i.exponent
  ⟨value / unit, power⟩

/-- The hit on one grid. -/
def onGrid (tie : Tie) (i : Interval) (power : Int) : Option Decimal :=
  let below := floor i power
  let above : Decimal := ⟨below.digits + 1, power⟩
  match i.contains below, i.contains above with
  | false, false => none
  | true, false => some below
  | false, true => some above
  | true, true =>
    let (twice, value) := common (below.digits + above.digits) power (2 * i.value) i.exponent
    if value < twice then some below
    else if twice < value then some above
    else match tie with
      | .up => some above
      | .even => some (if below.digits % 2 = 0 then below else above)

/-- The hit on the coarsest of the grids below `power`, at most `count` of them. -/
def search (tie : Tie) (i : Interval) (power : Int) : Nat → Option Decimal
  | 0 => none
  | count + 1 =>
    match onGrid tie i power with
    | some d => some d
    | none => search tie i (power - 1) count

/-- The decimal without the zeros at its end. -/
def dropZeros : Nat → Decimal → Decimal
  | 0, d => d
  | n + 1, d =>
    if d.digits ≠ 0 ∧ d.digits % 10 = 0 then dropZeros n ⟨d.digits / 10, d.power + 1⟩ else d

end Shortest

/-- The shortest decimal that reads back as `mantissa * 2 ^ exponent`, for a
mantissa that is not zero. Seventeen digits always suffice. -/
def shortest (tie : Tie) (mantissa : Nat) (exponent : Int) : Decimal :=
  let i := Shortest.interval mantissa exponent
  let top := Shortest.magnitude mantissa exponent
  Shortest.dropZeros 20 ((Shortest.search tie i top 18).getD ⟨mantissa, 0⟩)

end Sift.Number
