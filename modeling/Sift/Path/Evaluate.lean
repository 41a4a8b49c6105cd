import Sift.Coerce
import Sift.Path.Program

/-! What a path leads to.

Every segment takes one value to a list of values, and a program is the
composition of its segments. Beside the values stands whether the path was found
at all: a slice is found in every array, even where it selects nothing, and all
other segments are found where some value comes out in the end. -/
namespace Sift.Path

open Time

/-! ### Hits -/

/-- The values a path leads to, in document order. -/
structure Hits (α : Type) where
  found : Bool
  values : List α

namespace Hits

variable {α : Type}

def none : Hits α := ⟨false, []⟩

def one (v : α) : Hits α := ⟨true, [v]⟩

def join (a b : Hits α) : Hits α := ⟨a.found || b.found, a.values ++ b.values⟩

/-- The hits of several values together. -/
def gather (hits : List (Hits α)) : Hits α :=
  ⟨hits.any Hits.found, hits.flatMap Hits.values⟩

def ofOption (f : β → Hits α) : Option β → Hits α
  | .none => none
  | .some v => f v

end Hits

/-! ### Settings -/

/-- How deep a descendant search goes where nothing else is said. -/
def defaultMaxDepth : Nat := 100

structure QueryOptions where
  /-- Case counts in names that are not marked, and in comparisons. -/
  caseSensitive : Bool
  maxDepth : Nat
  now : Instant
  /-- What makes the patterns that come from the document. -/
  engine : Engine
  sizeLimit : Nat

/-! ### Segments with a traversal of their own -/

section Traversal

variable {α : Type} [Viewable α]

/-- The members of that name below a value, at most `levels` levels down, each
handed on to `next`. What is inside a member of that name is not searched. -/
def descend (next : α → Hits α) (name : String) (caseSensitive : Bool) : Nat → α → Hits α
  | 0, _ => .none
  | levels + 1, v =>
    if View.isObject v then
      .gather ((View.members v).map fun m =>
        if name = "*" then (next m.2).join (descend next name caseSensitive levels m.2)
        else if sameName m.1 name caseSensitive then next m.2
        else descend next name caseSensitive levels m.2)
    else
      .gather ((View.items v).map fun item =>
        if name = "*" then (next item).join (descend next name caseSensitive levels item)
        else descend next name caseSensitive levels item)

/-- The items at `index`, `index + step`, … up to the stop or the end of the
array, or to the last integer of 64 bits; going down, a slice that started at the
front ends there. At most `count` of them. -/
def sliceFrom (v : α) (stop : Option Int) (step : Int) (fromFront : Bool) : Nat → Int → List α
  | 0, _ => []
  | count + 1, index =>
    let stopped :=
      match stop with
      | .none => false
      | .some stop => if 0 < step then stop ≤ index else index ≤ stop
    if stopped then []
    else if step < 0 ∧ fromFront ∧ index < 0 then []
    else
      match View.item? v index with
      | .none => []
      | .some item =>
        item ::
          match Text.addInt64? index step with
          | .none => []
          | .some next => sliceFrom v stop step fromFront count next

/-- Where a slice of `count` items starts. Going up, a negative start counts from
the end. -/
def sliceFirst (count : Nat) (start : Option Int) (step : Int) : Int :=
  let first := start.getD (if 0 < step then 0 else -1)
  if 0 < step ∧ first < 0 then max (first + count) 0 else first

/-- Where it stops. Going down, the stop is compared as it was written. -/
def sliceStop (count : Nat) (stop : Option Int) (step : Int) : Option Int :=
  if 0 < step then stop.map fun s => if s < 0 then s + count else s else stop

/-- The items of a slice. No slice visits an item twice. -/
def sliceItems (v : α) (count : Nat) (start stop : Option Int) (step : Int) : List α :=
  let first := sliceFirst count start step
  sliceFrom v (sliceStop count stop step) step (0 ≤ first) (count + 1) first

/-- A step of zero selects nothing and is not found, nor is a slice of anything
but an array. -/
def slice (next : α → Hits α) (v : α) (start stop : Option Int) (step : Int) : Hits α :=
  match View.count? v with
  | .none => .none
  | .some count =>
    if step = 0 then .none
    else ⟨true, (sliceItems v count start stop step).flatMap fun item => (next item).values⟩

end Traversal

/-! ### Comparisons -/

section Comparison

variable {α β : Type} [Viewable α] [Viewable β]

/-- Ordering goes by number, date or length; only equality knows other kinds. -/
def compareValues (o : QueryOptions) (op : Comparison) (left : α) (right : β) : Bool :=
  let ordered := fun (accept : Ordering → Bool) =>
    (Coerce.order? o.now left right false).any accept
  match op with
  | .eq => Coerce.equal left right o.caseSensitive false false
  | .ne => !Coerce.equal left right o.caseSensitive false false
  | .lt => ordered Ordering.isLT
  | .le => ordered Ordering.isLE
  | .gt => ordered Ordering.isGT
  | .ge => ordered Ordering.isGE
  | .regex =>
    match View.text? left, View.text? right with
    | some text, some pattern =>
      (o.engine.compile? pattern o.caseSensitive o.sizeLimit).any fun p => p.isMatch text
    | _, _ => false

end Comparison

/-! ### Programs -/

section Walk

variable {α : Type} [Viewable α]

mutual

/-- The hits of a list of segments, from the value `v` of the document `root`. -/
def walk (o : QueryOptions) (root : α) : List Segment → α → Hits α
  | [], v => .one v
  | .root :: next, _ => walk o root next root
  | .current :: next, v => walk o root next v
  | .member name marked :: next, v =>
    .ofOption (walk o root next) (View.field? v name (o.caseSensitive != marked))
  | .index i :: next, v => .ofOption (walk o root next) (View.item? v i)
  | .indexWild :: next, v => .gather ((View.children v).map (walk o root next))
  | .memberWild :: next, v => .gather ((View.children v).map (walk o root next))
  | .descendant name marked :: next, v =>
    descend (walk o root next) name (o.caseSensitive != marked) (o.maxDepth + 1) v
  | .slice start stop step :: next, v => slice (walk o root next) v start stop step
  | .indexes is :: next, v =>
    .gather ((is.filterMap (View.item? v)).map (walk o root next))
  | .names ns :: next, v =>
    .gather ((ns.filterMap fun n => View.field? v n o.caseSensitive).map (walk o root next))
  | .filter predicate :: next, v =>
    .gather (((View.children v).filter (test o root predicate)).map (walk o root next))
termination_by structural segments => segments

/-- The predicate holds for a candidate. -/
def test (o : QueryOptions) (root : α) : Predicate → α → Bool
  | .and a b, v => test o root a v && test o root b v
  | .or a b, v => test o root a v || test o root b v
  | .not a, v => !test o root a v
  | .resolves path, v => (resolve o root path v).found
  | .compare op left right, v =>
    match (resolve o root left v).values with
    | [] => false
    | first :: _ => testOperand o root op first right v
termination_by structural predicate => predicate

/-- The left value of a comparison against its right side. -/
def testOperand (o : QueryOptions) (root : α) (op : Comparison) (left : α) : Operand → α → Bool
  | .literal value, _ => compareValues o op left value
  | .pattern _ p, _ => (View.text? left).any fun text => p.isMatch text o.caseSensitive
  | .path path, v =>
    match (resolve o root path v).values with
    | [] => false
    | right :: _ => compareValues o op left right
termination_by structural operand => operand

/-- The hits of a program that starts at `v`. -/
def resolve (o : QueryOptions) (root : α) : Program → α → Hits α
  | .mk _ _ segments, v => walk o root segments v
termination_by structural program => program

end

end Walk

/-- What a path leads to: one value, or a sequence of any length. -/
inductive Selection (α : Type) where
  | scalar (v : α)
  | sequence (vs : List α)

namespace Selection

variable {α : Type}

def first? : Selection α → Option α
  | .scalar v => some v
  | .sequence vs => vs.head?

def toList : Selection α → List α
  | .scalar v => [v]
  | .sequence vs => vs

def isSequence : Selection α → Bool
  | .scalar _ => false
  | .sequence _ => true

end Selection

namespace Program

variable {α : Type} [Viewable α]

/-- The selection of a document, if the path is found in it. -/
def evaluate (p : Program) (o : QueryOptions) (root : α) : Option (Selection α) :=
  let hits := resolve o root p root
  if !hits.found then none
  else if p.isSequence then some (.sequence hits.values)
  else hits.values.head?.map .scalar

/-- All values selected; none where the path is not found. -/
def select (p : Program) (o : QueryOptions) (root : α) : List α :=
  match p.evaluate o root with
  | some selection => selection.toList
  | none => []

end Program

end Sift.Path
