import Sift.Selector.Basic
import Sift.Text.LowerCase
import Sift.Text.Visible

/-! Selectors under their names, whatever the case of the names. -/
namespace Sift

open Text

/-- At most one selector for each lower-case name. -/
structure SelectorRegistry where
  entries : List (String × Selector)

namespace SelectorRegistry

def empty : SelectorRegistry := ⟨[]⟩

def get? (r : SelectorRegistry) (name : String) : Option Selector :=
  r.entries.lookup (lowerText name)

/-- Adds a selector. The one that had its name is replaced, and comes with the
result. -/
def register (r : SelectorRegistry) (s : Selector) : Option Selector × SelectorRegistry :=
  let key := lowerText s.name
  (r.get? s.name, ⟨r.entries.filter (·.1 != key) ++ [(key, s)]⟩)

def registerAll (r : SelectorRegistry) (selectors : List Selector) : SelectorRegistry :=
  selectors.foldl (fun r s => (r.register s).2) r

/-- A name under which there is no selector. -/
structure NotFound where
  name : String
  deriving DecidableEq, Repr

def NotFound.message (e : NotFound) : String := s!"Selector '{e.name}' not found"

def require (r : SelectorRegistry) (name : String) : Except NotFound Selector :=
  match r.get? name with
  | some s => .ok s
  | none => .error ⟨name⟩

/-- Every selector, in the order of the names as they were given. -/
def all (r : SelectorRegistry) : List Selector :=
  (r.entries.map Prod.snd).mergeSort fun a b => a.name ≤ b.name

/-- The names as they were given, in order. -/
def names (r : SelectorRegistry) : List String :=
  (r.entries.map fun e => e.2.name).mergeSort fun a b => a ≤ b

def size (r : SelectorRegistry) : Nat := r.entries.length

def isEmpty (r : SelectorRegistry) : Bool := r.size == 0

/-- The registry in one line. -/
def summary (r : SelectorRegistry) : String :=
  "SelectorRegistry \x7b selectors: " ++ visibleList r.names ++ " \x7d"

end SelectorRegistry

end Sift
