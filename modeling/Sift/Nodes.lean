/-! Lists of nodes.

Conditions and predicates are compiled to lists of nodes. A node is only ever put
behind those that are there, and is known by its place from then on. -/
namespace Sift

/-- What puts nodes behind others, and may come to a fault instead. -/
abbrev Pushing (N ε α : Type) := StateT (List N) (Except ε) α

/-- Puts a node behind the others, and hands out its place. -/
def push {N ε : Type} (n : N) : Pushing N ε Nat := do
  modify fun nodes => nodes ++ [n]
  return (← get).length - 1

end Sift
