import Sift.Condition.Operator
import Sift.Path.Evaluate

/-! Conditions: what a target is tested for.

A leaf tests one value with one operator. A group joins other conditions. A group
may also be asked of every item that a field leads to. Each condition knows where
it stands in the document it was built from. -/
namespace Sift

/-- What a leaf tests. -/
inductive Subject where
  | field (path : Path.Program)
  /-- The name of the target. -/
  | name
  | type
  | value (p : Parameter)

structure Flags where
  caseSensitive : Bool
  convert : Bool
  unique : Bool
  ignoreScheme : Bool
  includePrerelease : Bool
  requireLetters : Bool
  deriving DecidableEq, Repr

structure Leaf where
  operator : Operator
  subject : Option Subject
  flags : Flags

/-- The field that a leaf tests. -/
def Leaf.field? (l : Leaf) : Option Path.Program :=
  match l.subject with
  | some (.field path) => some path
  | _ => none

inductive Condition where
  | leaf (path : String) (l : Leaf)
  | group (path : String) (combinator : Combinator) (children : List Condition)
  /-- A group that is asked of every item of a field, or of those for which
  `filter` holds. Without a quantifier it has to hold for all of them. -/
  | forEach (path : String) (combinator : Combinator) (children : List Condition)
    (field : Path.Program) (filter : Option Condition) (quantifier : Option Quantifier)

namespace Condition

/-- Where a condition stands in its document. -/
def path : Condition → String
  | .leaf path _ => path
  | .group path .. => path
  | .forEach path .. => path

/-- The name of the operator or the combinator. -/
def name : Condition → String
  | .leaf _ l => l.operator.name
  | .group _ combinator _ => combinator.name
  | .forEach _ combinator .. => combinator.name

mutual

/-- How deep conditions are nested. -/
def depth : Condition → Nat
  | .leaf .. => 1
  | .group _ _ children => depthAll children + 1
  | .forEach _ _ children _ filter _ => max (depthAll children) (depthOption filter) + 1
termination_by structural c => c

def depthAll : List Condition → Nat
  | [] => 0
  | c :: rest => max c.depth (depthAll rest)
termination_by structural cs => cs

def depthOption : Option Condition → Nat
  | none => 0
  | some c => c.depth
termination_by structural c => c

end

end Condition

end Sift
