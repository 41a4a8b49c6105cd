import Sift.Text.Blank
import Sift.Text.Integer
import Sift.Time.Date

/-! Reading dates and times.

A time stamp has all its parts in full and an offset from universal time. The
other layouts have no offset and are taken as universal time; their numbers may
be shorter than usual and may have white space in front, and a year with a sign
may be longer. -/
namespace Sift.Time

open Text

/-- A number of at least `least` and at most `most` digits, and what follows. -/
def readDigits (least most : Nat) (cs : List Char) : Option (Nat × List Char) :=
  let digits := (cs.take most).takeWhile Char.isDigit
  if digits.length < least then none else some (digitsFrom 0 digits, cs.drop digits.length)

def expect (c : Char) : List Char → Option (List Char)
  | d :: rest => if c = d then some rest else none
  | [] => none

/-- A fraction of a second as nanoseconds: of its digits, only nine count. -/
def readFraction (cs : List Char) : Option (Nat × List Char) := do
  let (n, _) ← readDigits 1 9 cs
  let digits := cs.takeWhile Char.isDigit
  some (n * Nat.pow 10 (9 - min 9 digits.length), cs.dropWhile Char.isDigit)

def optionalFraction : List Char → Option (Nat × List Char)
  | '.' :: rest => readFraction rest
  | rest => some (0, rest)

/-- A number without a sign in a loose layout. -/
def looseNumber (cs : List Char) : Option (Nat × List Char) :=
  readDigits 1 2 (cs.dropWhile isBlank)

/-- A year in a loose layout: up to four digits, or any number of them after a sign. -/
def looseYear (cs : List Char) : Option (Int × List Char) :=
  match cs.dropWhile isBlank with
  | '-' :: rest => (readDigits 1 rest.length rest).map fun (n, r) => (-(n : Int), r)
  | '+' :: rest => (readDigits 1 rest.length rest).map fun (n, r) => ((n : Int), r)
  | rest => (readDigits 1 4 rest).map fun (n, r) => ((n : Int), r)

/-! ### Time stamps -/

/-- The offset from universal time, in seconds. -/
def readOffset : List Char → Option (Int × List Char)
  | 'Z' :: rest | 'z' :: rest => some (0, rest)
  | sign :: rest => do
    let factor : Int ←
      if sign = '+' then some 1 else if sign = '-' ∨ sign = '−' then some (-1) else none
    let (hours, rest) ← readDigits 2 2 rest
    let rest ← expect ':' rest
    let (minutes, rest) ← readDigits 2 2 rest
    if 60 ≤ minutes ∨ 24 ≤ hours then none
    else some (factor * (hours * 3600 + minutes * 60), rest)
  | [] => none

/-- A date, `T` or a blank, a time and an offset. -/
def readStamp? (cs : List Char) : Option Instant := do
  let (year, cs) ← readDigits 4 4 cs
  let cs ← expect '-' cs
  let (month, cs) ← readDigits 2 2 cs
  let cs ← expect '-' cs
  let (day, cs) ← readDigits 2 2 cs
  let cs ← (expect 'T' cs).or ((expect 't' cs).or (expect ' ' cs))
  let (hour, cs) ← readDigits 2 2 cs
  let cs ← expect ':' cs
  let (minute, cs) ← readDigits 2 2 cs
  let cs ← expect ':' cs
  let (second, cs) ← readDigits 2 2 cs
  let (nanos, cs) ← optionalFraction cs
  let (offset, cs) ← readOffset cs
  if !cs.isEmpty then none
  else
    let local_ ← instant? (← day? year month day) hour minute second nanos
    some { local_ with seconds := local_.seconds - offset }

/-! ### Loose layouts -/

/-- A date with its year first, and what follows. -/
def looseDate (separator : Char) (cs : List Char) : Option (Int × List Char) := do
  let (year, cs) ← looseYear cs
  let cs ← expect separator cs
  let (month, cs) ← looseNumber cs
  let cs ← expect separator cs
  let (day, cs) ← looseNumber cs
  some (← day? year month day, cs)

/-- A time to the end of the text. -/
def looseTime (day : Int) (cs : List Char) : Option Instant := do
  let (hour, cs) ← looseNumber cs
  let cs ← expect ':' cs
  let (minute, cs) ← looseNumber cs
  let cs ← expect ':' cs
  let (second, cs) ← looseNumber cs
  let (nanos, cs) ← optionalFraction cs
  if cs.isEmpty then instant? day hour minute second nanos else none

def midnight (day : Int) : Instant := ⟨day * secondsPerDay, 0⟩

/-- A date and a time with `T` between them. -/
def readWithT? (cs : List Char) : Option Instant := do
  let (day, cs) ← looseDate '-' cs
  looseTime day (← expect 'T' cs)

/-- A date and a time with white space between them, or nothing at all. -/
def readWithBlank? (cs : List Char) : Option Instant := do
  let (day, cs) ← looseDate '-' cs
  looseTime day (cs.dropWhile isBlank)

def readDate? (separator : Char) (cs : List Char) : Option Instant := do
  let (day, cs) ← looseDate separator cs
  if cs.isEmpty then some (midnight day) else none

/-- Month, day and year. -/
def readMonthFirst? (cs : List Char) : Option Instant := do
  let (month, cs) ← looseNumber cs
  let cs ← expect '/' cs
  let (day, cs) ← looseNumber cs
  let cs ← expect '/' cs
  let (year, cs) ← looseYear cs
  if cs.isEmpty then some (midnight (← day? year month day)) else none

/-- The layouts in the order in which they are tried. -/
def layouts : List (List Char → Option Instant) :=
  [readStamp?, readWithT?, readWithBlank?, readDate? '-', readDate? '/', readMonthFirst?]

/-- The instant that a text gives, in any of the layouts. -/
def readInstant? (s : String) : Option Instant :=
  let cs := strip s.toList
  layouts.findSome? fun read => read cs

end Sift.Time
