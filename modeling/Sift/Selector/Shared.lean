import Sift.Selector.Registry

/-! Registries that are shared.

A registry is reached through handles. A clone of a handle leads to the same registry: what is
registered through the one is found through the other. -/
namespace Sift

/-- Registries, and for each handle the place of the one that it leads to. -/
structure SharedRegistries where
  registries : List SelectorRegistry
  handles : List Nat

namespace SharedRegistries

inductive Request where
  | create
  | clone (handle : Nat)
  | register (handle : Nat) (s : Selector)
  | get (handle : Nat) (name : String)
  | require (handle : Nat) (name : String)
  | all (handle : Nat)
  | names (handle : Nat)
  | size (handle : Nat)

inductive Response where
  /-- A new handle. -/
  | handle (handle : Nat)
  | replaced (s : Option Selector)
  | found (s : Option Selector)
  | required (result : Except SelectorRegistry.NotFound Selector)
  | selectors (all : List Selector)
  | names (names : List String)
  | size (n : Nat)

/-- The handle that a request is made through. -/
def Request.handle? : Request → Option Nat
  | .create => none
  | .clone h | .register h _ | .get h _ | .require h _ | .all h | .names h | .size h => some h

def empty : SharedRegistries := ⟨[], []⟩

/-- The registry that a handle leads to. -/
def registry? (c : SharedRegistries) (handle : Nat) : Option SelectorRegistry :=
  c.handles[handle]?.bind fun place => c.registries[place]?

/-- A new handle to the registry at a place. -/
def addHandle (c : SharedRegistries) (place : Nat) : Response × SharedRegistries :=
  (.handle c.handles.length, { c with handles := c.handles ++ [place] })

/-- Answers a request. There is no answer through a handle that was not given out. -/
def step (c : SharedRegistries) : Request → Option (Response × SharedRegistries)
  | .create =>
    some (addHandle { c with registries := c.registries ++ [.empty] } c.registries.length)
  | .clone h => c.handles[h]?.map c.addHandle
  | .register h s => do
    let place ← c.handles[h]?
    let r ← c.registries[place]?
    let (replaced, r) := r.register s
    some (.replaced replaced, { c with registries := c.registries.set place r })
  | .get h name => (c.registry? h).map fun r => (.found (r.get? name), c)
  | .require h name => (c.registry? h).map fun r => (.required (r.require name), c)
  | .all h => (c.registry? h).map fun r => (.selectors r.all, c)
  | .names h => (c.registry? h).map fun r => (.names r.names, c)
  | .size h => (c.registry? h).map fun r => (.size r.size, c)

end SharedRegistries

end Sift
