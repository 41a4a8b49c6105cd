import Sift.Condition.Build
import Sift.Condition.Listing
import Sift.Nodes

/-! From condition documents to nodes.

A document is compiled while it is read. The children of a group are put behind the
nodes that are there, one after the other, then the filter of its items, and then the
node of the group, which names the places that they were given. A fault ends the
reading, and nothing is left of the nodes. -/
namespace Sift.Builder

/-- What compiles documents. -/
abbrev Compiler (α : Type) := Pushing ConditionNode BuildError α

def leafNode (b : Builder) (location : String) (members : Members) : Compiler Nat := do
  let (path, l) ← b.readLeaf location members
  push ⟨path, .leaf l⟩

section Groups

-- What compiles the parts of a group.
variable (compile : String → Value → Compiler Nat)

/-- Compiles documents in order, each at its place in the group. -/
def compileAll (path : String) (i : Nat) : List Value → Compiler (List Nat)
  | [] => return []
  | v :: rest => do
    let place ← compile s!"{path}[{i}]" v
    let places ← compileAll path (i + 1) rest
    return place :: places

/-- The items that a group is asked of, with the place of their filter. -/
def itemsNode (b : Builder) (path : String) (members : Members) (field : Value) :
    Compiler ItemsNode := do
  let field ← b.field path field
  let filter ← match member? members "where" with
    | none => pure none
    | some v => some <$> compile (path ++ ".where") v
  let quantifier ← quantifier path members
  return ⟨field, filter, quantifier⟩

def groupNode (b : Builder) (location : String) (members : Members) (combinator : Combinator)
    (v : Value) : Compiler Nat := do
  let path := location ++ "." ++ combinator.name
  let documents ← children path combinator v
  let places ← compileAll compile path 0 documents
  let items ← match member? members "field" with
    | none => pure none
    | some field => some <$> b.itemsNode compile path members field
  push ⟨path, .group combinator places items⟩

end Groups

/-- Compiles a document that may be nested `levels` deep. -/
def node (b : Builder) : Nat → String → Value → Compiler Nat
  | 0, location, _ => throw (fault location (.tooDeep b.maxDepth))
  | levels + 1, location, .object members =>
    match combinators members with
    | [] => b.leafNode location members
    | [(combinator, v)] => b.groupNode (b.node levels) location members combinator v
    | _ => throw (fault location .severalCombinators)
  | _, location, _ => throw (fault location .notMapping)

/-- The nodes for a document, with the place of the last one as the root. -/
def compile (b : Builder) (document : Value) : Except BuildError ConditionTree := do
  let (root, nodes) ← (b.node b.maxDepth "" document).run []
  return ⟨nodes, root⟩

end Sift.Builder
