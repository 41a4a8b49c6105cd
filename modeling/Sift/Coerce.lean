import Sift.Text.Compare
import Sift.Text.Ascii
import Sift.Text.Blank
import Sift.Number.Layout
import Sift.Number.Reader
import Sift.Time.Reader
import Sift.Value.View

/-! Reading a value as another kind, and comparing values of any kinds.

A text is read as a truth value, a number or a date only where the caller asks
for conversion. What does not convert is none; it is never an error. -/
namespace Sift

open Text Number Time

/-! ### Text forms -/

namespace Format

def bool (b : Bool) : String := if b then "True" else "False"

def integer (n : Int) : String := writeInteger n

def float (x : Binary64) : String := textLayout.write x

def readBool? (s : String) : Option Bool := readTruth? (trim s)

def readInt? (s : String) : Option Int := readInt64? (strip s.toList)

/-- A number in text is finite. -/
def readFloat? (s : String) : Option Binary64 :=
  (readBinary64? (strip s.toList)).filter Binary64.isFinite

end Format

namespace Coerce

variable {α β : Type} [Viewable α] [Viewable β]

/-! ### Conversion -/

/-- A value as text; scalars are written out where `convert` is set. -/
def text? (v : α) (convert : Bool) : Option String :=
  match View.text? v with
  | some s => some s
  | none =>
    if convert then
      match View.kind v with
      | .integer => (View.int? v).map Format.integer
      | .bool => (View.bool? v).map Format.bool
      | .float => (View.float? v).map Format.float
      | _ => none
    else none

def bool? (v : α) (convert : Bool) : Option Bool :=
  match View.bool? v with
  | some b => some b
  | none => if convert then (View.text? v).bind Format.readBool? else none

/-- An integer of 64 bits. -/
def long? (v : α) (convert : Bool) : Option Int :=
  if View.kind v = .integer then View.int? v
  else if convert then (View.text? v).bind Format.readInt?
  else none

/-- An integer of 32 bits. -/
def int? (v : α) (convert : Bool) : Option Int :=
  (long? v convert).filter fun n => -0x80000000 ≤ n && n < 0x80000000

def float? (v : α) (convert : Bool) : Option Binary64 :=
  match View.kind v with
  | .float => View.float? v
  | .integer => if convert then View.float? v else none
  | .text => if convert then (View.text? v).bind Format.readFloat? else none
  | _ => none

/-- A date: a text that gives one, or an integer as days from now. Without
conversion nothing is a date. -/
def instant? (now : Instant) (v : α) (convert : Bool) : Option Instant :=
  if convert then
    match View.kind v with
    | .text => (View.text? v).bind readInstant?
    | .integer => (View.int? v).bind now.addDays?
    | _ => none
  else none

/-- A text as a list of one, or the texts among the items of an array. -/
def texts? (v : α) (convert : Bool) : Option (List String) :=
  match text? v convert with
  | some s => some [s]
  | none =>
    if View.isArray v then some ((View.items v).filterMap fun item => text? item convert)
    else none

/-! ### Comparison -/

/-- Two readings of a pair, if both sides have one. -/
def both? {γ δ : Type} (a : Option γ) (b : Option δ) : Option (γ × δ) :=
  match a, b with
  | some a, some b => some (a, b)
  | _, _ => none

/-- Equality of values: the first of text, truth value, integer and number that
both sides can be read as decides, and null is equal to null only. -/
def equal (expected : α) (actual : β) (caseSensitive convertExpected convertActual : Bool) :
    Bool :=
  match both? (View.text? expected) (View.text? actual) with
  | some (e, a) => equalText e a caseSensitive
  | none =>
    match both? (bool? expected convertExpected) (bool? actual convertActual) with
    | some (e, a) => e == a
    | none =>
      match both? (long? expected convertExpected) (long? actual convertActual) with
      | some (e, a) => e == a
      | none =>
        if View.isNumber expected && View.isNumber actual then
          match both? (View.float? expected) (View.float? actual) with
          | some (e, a) => e.same a
          | none => false
        else View.isNull expected && View.isNull actual

/-- The length that a value is compared by: of a text or an array. -/
def length? (v : α) : Option Nat :=
  match View.text? v with
  | some s => some s.length
  | none => View.count? v

/-- The order of a value against an expected one: as integers, as numbers, as
dates, or the length of the value against an integer. -/
def order? (now : Instant) (actual : α) (expected : β) (convert : Bool) : Option Ordering :=
  match both? (long? actual convert) (long? expected true) with
  | some (a, e) => some (compare a e)
  | none =>
    match both? (float? actual convert) (float? expected true) with
    | some (a, e) => a.compare? e
    | none =>
      match both? (instant? now actual convert) (instant? now expected true) with
      | some (a, e) => some (a.order e)
      | none =>
        match both? (length? actual) (long? expected true) with
        | some (n, e) => some (compare (n : Int) e)
        | none => none

/-- The expected value is the actual one, or one of its items. -/
def isIn (actual : α) (expected : β) (caseSensitive : Bool) : Bool :=
  (View.isArray actual &&
    (View.items actual).any fun item => equal expected item caseSensitive false false) ||
  equal expected actual caseSensitive false false

/-- How often the expected value is among the items of the actual one. -/
def countIn (actual : α) (expected : β) (caseSensitive : Bool) : Nat :=
  if View.isArray actual then
    ((View.items actual).filter fun item => equal expected item caseSensitive false false).length
  else if equal expected actual caseSensitive false false then 1
  else 0

end Coerce

end Sift
