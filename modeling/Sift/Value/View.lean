import Sift.Text.LowerCase
import Sift.Text.Integer
import Sift.Value.Basic

/-! What queries and conditions may see of a document.

Documents come in several representations. `Viewable` says what each has to
show: the shape of a value one level deep, the member that has exactly a given
name, and a copy of the value. All other ways to read a value are defined here,
once for all representations. -/
namespace Sift

open Number Text

/-- A value one level deep. The members of an object are those whose name is a
text, in document order. -/
inductive Shape (α : Type) where
  | null
  | bool (b : Bool)
  | int (n : Int)
  | float (x : Binary64)
  | text (s : String)
  | array (items : List α)
  | object (members : List (String × α))

class Viewable (α : Type) where
  shape : α → Shape α
  /-- The member with exactly this name. -/
  named? : α → String → Option α
  copy : α → Value

instance : Viewable Value where
  shape
    | .null => .null
    | .bool b => .bool b
    | .int n => .int n
    | .float x => .float x
    | .text s => .text s
    | .array items => .array items
    | .object members => .object members
  named?
    | .object members, name => Value.member? members name
    | _, _ => none
  copy v := v

/-- A name is the one asked for: exactly, or up to the lower case of both. -/
def sameName (candidate name : String) (caseSensitive : Bool) : Bool :=
  if caseSensitive then candidate == name
  else candidate == name || lowerText candidate == lowerText name

/-- The place that an index means among `count` items; a negative one counts from
the end. -/
def place? (count : Nat) (index : Int) : Option Nat :=
  let at_ := if index < 0 then count + index else index
  if 0 ≤ at_ ∧ at_ < count then some at_.toNat else none

namespace View

variable {α : Type} [Viewable α]

def kind (v : α) : Kind :=
  match Viewable.shape v with
  | .null => .null
  | .bool _ => .bool
  | .int _ => .integer
  | .float _ => .float
  | .text _ => .text
  | .array _ => .array
  | .object _ => .object

def isNull (v : α) : Bool := kind v == .null

def isArray (v : α) : Bool := kind v == .array

def isObject (v : α) : Bool := kind v == .object

def isNumber (v : α) : Bool := kind v == .integer || kind v == .float

def text? (v : α) : Option String :=
  match Viewable.shape v with
  | .text s => some s
  | _ => none

def bool? (v : α) : Option Bool :=
  match Viewable.shape v with
  | .bool b => some b
  | _ => none

/-- An integer of 64 bits; greater ones are integers that only read as a float. -/
def int? (v : α) : Option Int :=
  match Viewable.shape v with
  | .int n => if fitsInt64 n then some n else none
  | _ => none

def float? (v : α) : Option Binary64 :=
  match Viewable.shape v with
  | .int n => some (.ofInt n)
  | .float x => some x
  | _ => none

/-- The members of an object, in document order. -/
def members (v : α) : List (String × α) :=
  match Viewable.shape v with
  | .object members => members
  | _ => []

/-- The items of an array, in order. -/
def items (v : α) : List α :=
  match Viewable.shape v with
  | .array items => items
  | _ => []

/-- The number of items of an array. -/
def count? (v : α) : Option Nat :=
  match Viewable.shape v with
  | .array items => some items.length
  | _ => none

theorem isArray_eq (v : α) : isArray v = (count? v).isSome := by
  unfold isArray kind count?
  cases Viewable.shape v <;> rfl

theorem count?_eq_some {v : α} {n : Nat} :
    count? v = some n ↔ isArray v = true ∧ (items v).length = n := by
  unfold count? isArray kind items
  cases Viewable.shape v <;> simp

/-- What lies directly below a value: the members of an object, or the items of
an array. -/
def children (v : α) : List α :=
  if isObject v then (members v).map Prod.snd else items v

/-- The member with this name. Where case does not count, an exact name still
goes before any other spelling. -/
def field? (v : α) (name : String) (caseSensitive : Bool) : Option α :=
  match Viewable.named? v name with
  | some found => some found
  | none =>
    if caseSensitive then none
    else ((members v).find? fun m => sameName m.1 name false).map Prod.snd

def item? (v : α) (index : Int) : Option α :=
  (place? (items v).length index).bind fun at_ => (items v)[at_]?

/-- Null, or a text, an array or an object without content. -/
def isNullOrEmpty (v : α) : Bool :=
  match Viewable.shape v with
  | .null => true
  | .text s => s.isEmpty
  | .array items => items.isEmpty
  | .object members => members.isEmpty
  | _ => false

end View

end Sift
