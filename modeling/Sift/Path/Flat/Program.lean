import Sift.Path.Program

/-! Programs with flat predicates.

Here the predicate of a filter is a list of nodes, which name their operands by their
places in it. The programs in its relations have filters of their own, each with a
list of its own. -/
namespace Sift.Path.Flat

/-- The segments that are no filters. -/
inductive Step where
  | root
  | current
  | member (name : String) (marked : Bool)
  | index (i : Int)
  | indexWild
  | memberWild
  | descendant (name : String) (marked : Bool)
  | slice (start stop : Option Int) (step : Int)
  | indexes (is : List Int)
  | names (ns : List String)

mutual

inductive Segment where
  | step (s : Step)
  | filter (f : Filter)

/-- The predicate of a filter: nodes, one of which is the root. -/
inductive Filter where
  | mk (nodes : List Node) (root : Nat)

inductive Node where
  | resolves (path : Program)
  | compare (op : Comparison) (left : Program) (right : Operand)
  | and (a b : Nat)
  | or (a b : Nat)
  | not (a : Nat)

/-- The right side of a comparison. -/
inductive Operand where
  | literal (v : Value)
  /-- A text that the left side has to match. -/
  | pattern (text : String) (p : CasedPattern)
  | path (p : Program)

inductive Program where
  | mk (source : String) (tokens : List Token) (segments : List Segment)

end

namespace Filter

def nodes : Filter → List Node
  | .mk nodes _ => nodes

def root : Filter → Nat
  | .mk _ root => root

end Filter

/-- The places of the operands. -/
def Node.places : Node → List Nat
  | .and a b | .or a b => [a, b]
  | .not a => [a]
  | _ => []

/-- Steps that may lead to more than one value. -/
def Step.isSequence : Step → Bool
  | .root | .current | .member .. | .index _ => false
  | _ => true

def Segment.isSequence : Segment → Bool
  | .step s => s.isSequence
  | .filter _ => true

namespace Program

/-- The path as it was written, without white space around it. -/
def source : Program → String
  | .mk source _ _ => source

def tokens : Program → List Token
  | .mk _ tokens _ => tokens

def segments : Program → List Segment
  | .mk _ _ segments => segments

/-- Evaluation may lead to more than one value. -/
def isSequence (p : Program) : Bool := p.segments.any Segment.isSequence

end Program

end Sift.Path.Flat
