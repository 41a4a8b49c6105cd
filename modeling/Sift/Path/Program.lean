import Sift.Path.Token
import Sift.Regex.Pattern
import Sift.Value.Basic

/-! Programs: paths ready to be evaluated.

A program is a list of segments, each of which takes a value to the values one
step further on. A filter segment holds a predicate, and the relations of a
predicate hold programs of their own. Two programs are equal when their tokens
are, however the paths were written. -/
namespace Sift.Path

/-- One text pattern, ready for both ways to treat case. -/
structure CasedPattern where
  sensitive : Pattern
  insensitive : Pattern

def CasedPattern.isMatch (p : CasedPattern) (text : String) (caseSensitive : Bool) : Bool :=
  if caseSensitive then p.sensitive.isMatch text else p.insensitive.isMatch text

mutual

inductive Segment where
  | root
  | current
  | member (name : String) (marked : Bool)
  | index (i : Int)
  | indexWild
  | memberWild
  | descendant (name : String) (marked : Bool)
  | slice (start stop : Option Int) (step : Int)
  | indexes (is : List Int)
  | names (ns : List String)
  | filter (predicate : Predicate)

inductive Predicate where
  | resolves (path : Program)
  | compare (op : Comparison) (left : Program) (right : Operand)
  | and (a b : Predicate)
  | or (a b : Predicate)
  | not (a : Predicate)

/-- The right side of a comparison. -/
inductive Operand where
  | literal (v : Value)
  /-- A text that the left side has to match. -/
  | pattern (text : String) (p : CasedPattern)
  | path (p : Program)

inductive Program where
  | mk (source : String) (tokens : List Token) (segments : List Segment)

end

/-- Segments that may lead to more than one value. -/
def Segment.isSequence : Segment → Bool
  | .root | .current | .member .. | .index _ => false
  | _ => true

namespace Program

/-- The path as it was written, without white space around it. -/
def source : Program → String
  | .mk source _ _ => source

def tokens : Program → List Token
  | .mk _ tokens _ => tokens

def segments : Program → List Segment
  | .mk _ _ segments => segments

/-- Evaluation may lead to more than one value. -/
def isSequence (p : Program) : Bool := p.segments.any Segment.isSequence

instance : BEq Program := ⟨fun a b => a.tokens == b.tokens⟩

end Program

end Sift.Path
