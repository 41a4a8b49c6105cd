/-! Dates of the Gregorian calendar and instants of universal time. -/
namespace Sift.Time

/-- A moment: whole seconds since 1970-01-01T00:00:00Z, and nanoseconds. In a leap
second the nanoseconds go on beyond one thousand million. -/
structure Instant where
  seconds : Int
  nanos : Nat
  deriving DecidableEq, Repr

def Instant.order (a b : Instant) : Ordering :=
  (compare a.seconds b.seconds).then (compare a.nanos b.nanos)

def isLeapYear (year : Int) : Bool :=
  Int.emod year 4 = 0 && (Int.emod year 100 ≠ 0 || Int.emod year 400 = 0)

def daysInMonth (year : Int) (month : Nat) : Nat :=
  match month with
  | 4 | 6 | 9 | 11 => 30
  | 2 => if isLeapYear year then 29 else 28
  | _ => 31

/-- The years that dates may have. -/
def firstYear : Int := -262143

def lastYear : Int := 262142

/-- Days from 1970-01-01 to a date, counted in years that start in March. -/
def dayNumber (year : Int) (month day : Nat) : Int :=
  let year := if month ≤ 2 then year - 1 else year
  let era := Int.fdiv year 400
  let yearOfEra := year - era * 400
  let monthFromMarch : Int := (month + 9) % 12
  let dayOfYear := (153 * monthFromMarch + 2) / 5 + day - 1
  let dayOfEra := yearOfEra * 365 + yearOfEra / 4 - yearOfEra / 100 + dayOfYear
  era * 146097 + dayOfEra - 719468

def secondsPerDay : Int := 86400

/-- The day of a date that exists. -/
def day? (year : Int) (month day : Nat) : Option Int :=
  if firstYear ≤ year ∧ year ≤ lastYear ∧ 1 ≤ month ∧ month ≤ 12 ∧
      1 ≤ day ∧ day ≤ daysInMonth year month then
    some (dayNumber year month day)
  else none

/-- The instant at a time of a day. The second 60 is the leap second after 59. -/
def instant? (day : Int) (hour minute second nanos : Nat) : Option Instant :=
  if hour ≤ 23 ∧ minute ≤ 59 ∧ second ≤ 60 then
    let start := day * secondsPerDay + hour * 3600 + minute * 60
    some (if second = 60 then ⟨start + 59, nanos + 1000000000⟩ else ⟨start + second, nanos⟩)
  else none

/-- The instants of the first and the last day of the calendar. -/
def firstSecond : Int := dayNumber firstYear 1 1 * secondsPerDay

def lastSecond : Int := dayNumber lastYear 12 31 * secondsPerDay + (secondsPerDay - 1)

/-- The instant some days later, if the calendar reaches that far. -/
def Instant.addDays? (i : Instant) (days : Int) : Option Instant :=
  let seconds := i.seconds + days * secondsPerDay
  if firstSecond ≤ seconds ∧ seconds ≤ lastSecond then some { i with seconds } else none

end Sift.Time
