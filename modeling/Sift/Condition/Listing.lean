import Sift.Condition.Basic

/-! Conditions as lists of nodes.

A node names the parts of its condition by their places in the list. In the listing
of a condition a group comes behind its children, and behind the filter of its items,
which comes after the children; so the condition itself is the last node. -/
namespace Sift

/-- The items that a group is asked of. -/
structure ItemsNode where
  field : Path.Program
  filter : Option Nat
  quantifier : Option Quantifier

inductive NodeContent where
  | leaf (l : Leaf)
  | group (combinator : Combinator) (children : List Nat) (items : Option ItemsNode)

structure ConditionNode where
  path : String
  content : NodeContent

namespace ConditionNode

def name (n : ConditionNode) : String :=
  match n.content with
  | .leaf l => l.operator.name
  | .group combinator .. => combinator.name

/-- The places of the children, and then that of the filter. -/
def places (n : ConditionNode) : List Nat :=
  match n.content with
  | .leaf _ => []
  | .group _ children none => children
  | .group _ children (some items) => children ++ items.filter.toList

end ConditionNode

/-- Nodes, one of which is the root. -/
structure ConditionTree where
  nodes : List ConditionNode
  root : Nat

namespace ConditionTree

/-- How deep the nodes on a stack are nested, each with its level, and those that they
lead to; `none` where a place is out of range, or where the rounds do not suffice. -/
def deepest (nodes : List ConditionNode) : Nat → List (Nat × Nat) → Nat → Option Nat
  | _, [], most => some most
  | 0, _ :: _, _ => none
  | rounds + 1, (place, level) :: stack, most => do
    let n ← nodes[place]?
    let next := n.places.reverse.map fun part => (part, level + 1)
    deepest nodes rounds (next ++ stack) (max most level)

/-- How deep the root is nested, which takes one round for each node. -/
def depth? (t : ConditionTree) : Option Nat := deepest t.nodes t.nodes.length [(t.root, 1)] 0

/-- The paths of all nodes, one on a line. -/
def display (t : ConditionTree) : String := String.join (t.nodes.map fun n => n.path ++ "\n")

end ConditionTree

namespace Condition

mutual

/-- The nodes of a condition behind those listed already; the last one is its own. -/
def listFrom (nodes : List ConditionNode) : Condition → List ConditionNode
  | .leaf path l => nodes ++ [⟨path, .leaf l⟩]
  | .group path combinator children =>
    let (nodes, places) := listAll nodes children
    nodes ++ [⟨path, .group combinator places none⟩]
  | .forEach path combinator children field filter quantifier =>
    let (nodes, places) := listAll nodes children
    let (nodes, filter) := listOption nodes filter
    nodes ++ [⟨path, .group combinator places (some ⟨field, filter, quantifier⟩)⟩]
termination_by structural c => c

/-- The same for several conditions, with their places. -/
def listAll (nodes : List ConditionNode) : List Condition → List ConditionNode × List Nat
  | [] => (nodes, [])
  | c :: rest =>
    let nodes := listFrom nodes c
    let (all, places) := listAll nodes rest
    (all, (nodes.length - 1) :: places)
termination_by structural cs => cs

def listOption (nodes : List ConditionNode) :
    Option Condition → List ConditionNode × Option Nat
  | none => (nodes, none)
  | some c =>
    let nodes := listFrom nodes c
    (nodes, some (nodes.length - 1))
termination_by structural c => c

end

def listing (c : Condition) : List ConditionNode := listFrom [] c

/-- The listing with its last node as the root. -/
def tree (c : Condition) : ConditionTree := ⟨c.listing, c.listing.length - 1⟩

end Condition

end Sift
