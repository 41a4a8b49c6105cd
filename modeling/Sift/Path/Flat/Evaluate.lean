import Sift.Path.Compile
import Sift.Path.Evaluate
import Sift.Path.Flat.Program

/-! What a program with flat predicates leads to.

A predicate is tested from the place of its root, and its operands at the places that
the nodes name. A place may be out of range, and then there is no answer; and there is
none if a test goes through more nodes than there are. Whatever depends on a test that
has no answer has none either. -/
namespace Sift.Path.Flat

variable {α : Type} [Viewable α]

/-! ### Steps -/

/-- The hits of several things together. -/
def gather? {β : Type} (next : β → Option (Hits α)) (vs : List β) : Option (Hits α) :=
  (vs.mapM next).map Hits.gather

def ofOption? (next : α → Option (Hits α)) : Option α → Option (Hits α)
  | none => some .none
  | some v => next v

/-- The values for which a test holds. -/
def filter? (test : α → Option Bool) : List α → Option (List α)
  | [] => some []
  | v :: rest => do
    let kept ← test v
    let more ← filter? test rest
    return if kept then v :: more else more

/-- The members of that name below a value, as `descend` finds them. -/
def descend? (next : α → Option (Hits α)) (name : String) (caseSensitive : Bool) :
    Nat → α → Option (Hits α)
  | 0, _ => some .none
  | levels + 1, v =>
    let below := descend? next name caseSensitive levels
    let both := fun item => do return (← next item).join (← below item)
    if View.isObject v then
      gather? (fun m =>
        if name = "*" then both m.2
        else if sameName m.1 name caseSensitive then next m.2
        else below m.2) (View.members v)
    else gather? (fun item => if name = "*" then both item else below item) (View.items v)

/-- A slice, as `slice` takes it. -/
def slice? (next : α → Option (Hits α)) (v : α) (start stop : Option Int) (step : Int) :
    Option (Hits α) :=
  match View.count? v with
  | none => some .none
  | some count =>
    if step = 0 then some .none
    else do
      let hits ← (sliceItems v count start stop step).mapM next
      return ⟨true, hits.flatMap Hits.values⟩

/-- The hits behind a step, from the value `v` of the document `root`. -/
def advance? (o : QueryOptions) (root : α) (next : α → Option (Hits α)) (v : α) :
    Step → Option (Hits α)
  | .root => next root
  | .current => next v
  | .member name marked =>
    ofOption? next (View.field? v name (o.caseSensitive != marked))
  | .index i => ofOption? next (View.item? v i)
  | .indexWild | .memberWild => gather? next (View.children v)
  | .descendant name marked =>
    descend? next name (o.caseSensitive != marked) (o.maxDepth + 1) v
  | .slice start stop step => slice? next v start stop step
  | .indexes is => gather? next (is.filterMap (View.item? v))
  | .names ns => gather? next (ns.filterMap fun n => View.field? v n o.caseSensitive)

/-! ### Programs -/

theorem sizeOf_node {nodes : List Node} {place : Nat} {n : Node} (h : nodes[place]? = some n) :
    sizeOf n < sizeOf nodes :=
  List.sizeOf_lt_of_mem (List.mem_of_getElem? h)

mutual

/-- The hits of a list of segments. -/
def walk? (o : QueryOptions) (root : α) : List Segment → α → Option (Hits α)
  | [], v => some (.one v)
  | .step s :: next, v => advance? o root (walk? o root next) v s
  | .filter (.mk nodes place) :: next, v => do
    let chosen ← filter? (testAt? o root nodes nodes.length place) (View.children v)
    gather? (walk? o root next) chosen
termination_by segments => (sizeOf segments, 0)

/-- The node at a place holds for a candidate. -/
def testAt? (o : QueryOptions) (root : α) (nodes : List Node) :
    Nat → Nat → α → Option Bool
  | 0, _, _ => none
  | steps + 1, place, v =>
    match _h : nodes[place]? with
    | none => none
    | some (.and a b) => do
      if ← testAt? o root nodes steps a v then testAt? o root nodes steps b v else return false
    | some (.or a b) => do
      if ← testAt? o root nodes steps a v then return true else testAt? o root nodes steps b v
    | some (.not a) => do return !(← testAt? o root nodes steps a v)
    | some (.resolves path) => do return (← resolve? o root path v).found
    | some (.compare op left right) => do
      match (← resolve? o root left v).values with
      | [] => return false
      | first :: _ => testOperand? o root op first right v
termination_by steps => (sizeOf nodes, steps)
decreasing_by
  all_goals
    have hnode := sizeOf_node _h
    simp only [Node.and.sizeOf_spec, Node.or.sizeOf_spec, Node.not.sizeOf_spec,
      Node.resolves.sizeOf_spec, Node.compare.sizeOf_spec] at hnode
    exact closer (by omega)

/-- The left value of a comparison against its right side. -/
def testOperand? (o : QueryOptions) (root : α) (op : Comparison) (left : α) :
    Operand → α → Option Bool
  | .literal value, _ => some (compareValues o op left value)
  | .pattern _ p, _ => some ((View.text? left).any fun text => p.isMatch text o.caseSensitive)
  | .path path, v => do
    match (← resolve? o root path v).values with
    | [] => return false
    | right :: _ => return compareValues o op left right
termination_by operand => (sizeOf operand, 0)

/-- The hits of a program that starts at `v`. -/
def resolve? (o : QueryOptions) (root : α) : Program → α → Option (Hits α)
  | .mk _ _ segments, v => walk? o root segments v
termination_by program => (sizeOf program, 0)

end

namespace Filter

/-- The predicate holds for a candidate. -/
def test? (o : QueryOptions) (root : α) (f : Filter) (v : α) : Option Bool :=
  testAt? o root f.nodes f.nodes.length f.root v

end Filter

namespace Program

/-- The selection of a document, if the path is found in it. -/
def evaluate? (p : Program) (o : QueryOptions) (root : α) : Option (Option (Selection α)) := do
  let hits ← resolve? o root p root
  if !hits.found then return none
  else if p.isSequence then return some (.sequence hits.values)
  else return hits.values.head?.map .scalar

end Program

end Sift.Path.Flat
