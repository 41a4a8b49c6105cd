import Sift.Number.Binary64

/-! Structured data: what a document holds once it has been read.

The members of an object keep the order in which the document has them. Whole
numbers and floating-point numbers are different kinds of value: `1` and `1.0`
are compared as numbers, but only the first is an integer. -/
namespace Sift

open Number

inductive Value where
  | null
  | bool (b : Bool)
  | int (n : Int)
  | float (x : Binary64)
  | text (s : String)
  | array (items : List Value)
  | object (members : List (String × Value))
  deriving Repr, Inhabited

/-- The kinds of values. -/
inductive Kind where
  | null
  | bool
  | integer
  | float
  | text
  | array
  | object
  deriving DecidableEq, Repr

namespace Value

/-- The member with exactly this name. -/
def member? (members : List (String × Value)) (name : String) : Option Value :=
  (members.find? fun m => m.1 == name).map Prod.snd

/-- The members with one more: a name that is there already keeps its place and
takes the new value. -/
def setMember (members : List (String × Value)) (name : String) (value : Value) :
    List (String × Value) :=
  if members.any fun m => m.1 == name then
    members.map fun m => if m.1 == name then (name, value) else m
  else members ++ [(name, value)]

def text? : Value → Option String
  | .text s => some s
  | _ => none

end Value

end Sift
