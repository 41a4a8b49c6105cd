import Mathlib.Data.List.Forall2
import Mathlib.Data.List.Nodup
import Mathlib.Data.List.Perm.Basic
import Sift.Nodes

/-! Trees as lists of nodes.

A condition and a predicate are trees, and both are also listed: as nodes that name their parts
by their places. The two listings are made in the same way, parts before what they are parts of,
and here is what follows from that alone. `Enlists` says that the nodes behind those that are
there already list some trees; it is put together from nothing, from two stretches of nodes one
behind the other, and from a stretch with one more node, for what has the trees of the stretch as
its parts.

A listing of one tree is a tree itself (`Arena`): its last node is the root, every other one is
named by exactly one node, which comes later, and one finds the same tree again by following the
places (`Stands`).

Compilers put nodes behind others one at a time. That they leave a listing of what a builder of
trees gives is shown along both, one step after the other (`run_bind`). -/
namespace Sift

/-- Things with parts of their own kind. -/
class Branching (T : Type) [SizeOf T] where
  parts : T → List T
  sizeOf_lt : ∀ t, ∀ part ∈ parts t, sizeOf part < sizeOf t

/-- Nodes that stand for such things. -/
class StandsFor (N : Type) (T : outParam Type) [SizeOf T] [Branching T] where
  /-- The places that a node names. -/
  places : N → List Nat
  /-- A node is the one for a thing, but for the parts. -/
  Shows : N → T → Prop

open Branching StandsFor

/-- A thing with all that is inside of it, the inner ones first. -/
def Branching.family {T : Type} [SizeOf T] [Branching T] (t : T) : List T :=
  (parts t).flatMap family ++ [t]
termination_by sizeOf t
decreasing_by exact sizeOf_lt t _ ‹_›

variable {N T : Type} [SizeOf T] [Branching T] [StandsFor N T]

theorem family_eq (t : T) : family t = (parts t).flatMap family ++ [t] := by
  rw [family]

/-- What stands at a place, by what stands at the places that are named there. -/
inductive Stands (nodes : List N) : Nat → T → Prop where
  | intro {place : Nat} {n : N} {t : T} : nodes[place]? = some n → Shows n t →
      List.Forall₂ (Stands nodes) (places n) (parts t) → Stands nodes place t

/-! ### Stretches of nodes -/

/-- The nodes `new`, behind `before` others, list the things `ts`, at the places `tops`. -/
structure Stretch (before : Nat) (new : List N) (tops : List Nat) (ts : List T) : Prop where
  earlier : ∀ i n, new[i]? = some n → ∀ part ∈ places n, part < before + i
  /-- Each place is named by one of the nodes, once, or is the place of one of the things. -/
  once : (new.flatMap places ++ tops).Perm (List.range' before new.length)
  order : List.Forall₂ Shows new (ts.flatMap family)
  stands : ∀ front back, front.length = before →
    List.Forall₂ (Stands (front ++ new ++ back)) tops ts

variable {before : Nat} {new new' : List N} {tops tops' : List Nat} {ts ts' : List T}

theorem Stretch.nil : Stretch before ([] : List N) [] [] where
  earlier _ _ h := by cases h
  once := .refl _
  order := .nil
  stands _ _ _ := .nil

theorem Stretch.append (h : Stretch before new tops ts)
    (h' : Stretch (before + new.length) new' tops' ts') :
    Stretch before (new ++ new') (tops ++ tops') (ts ++ ts') := by
  constructor
  case earlier =>
    intro i n hn part hpart
    by_cases hi : i < new.length
    · rw [List.getElem?_append_left hi] at hn
      exact h.earlier i n hn part hpart
    · rw [List.getElem?_append_right (Nat.le_of_not_lt hi)] at hn
      have hlt := h'.earlier _ n hn part hpart
      omega
  case once =>
    -- What the nodes of both stretches name, and then what is left of both.
    have hswap : ((new ++ new').flatMap places ++ (tops ++ tops')).Perm
        ((new.flatMap places ++ tops) ++ (new'.flatMap places ++ tops')) := by
      rw [List.flatMap_append, List.append_assoc, List.append_assoc]
      refine List.Perm.append_left _ ?_
      rw [← List.append_assoc, ← List.append_assoc]
      exact List.perm_append_comm.append_right _
    rw [List.length_append, List.range'_append_1.symm]
    exact hswap.trans (h.once.append h'.once)
  case order =>
    rw [List.flatMap_append]
    exact List.rel_append h.order h'.order
  case stands =>
    -- For the trees of one stretch, the nodes of the other are among those around it.
    intro front back hfront
    refine List.rel_append ?_ ?_
    · have hstands := h.stands front (new' ++ back) hfront
      rwa [← List.append_assoc, List.append_assoc front] at hstands
    · have hstands := h'.stands (front ++ new) back (by rw [List.length_append, hfront])
      rwa [List.append_assoc front] at hstands

/-- One more node, for what the things so far are the parts of. -/
theorem Stretch.close {n : N} {t : T} (h : Stretch before new (places n) (parts t))
    (hshows : Shows n t) : Stretch before (new ++ [n]) [before + new.length] [t] := by
  have hbelow : ∀ part ∈ places n, part < before + new.length := by
    intro part hpart
    have hmem := h.once.subset (List.mem_append_right _ hpart)
    exact (List.mem_range'_1.1 hmem).2
  constructor
  case earlier =>
    intro i m hm part hpart
    by_cases hi : i < new.length
    · rw [List.getElem?_append_left hi] at hm
      exact h.earlier i m hm part hpart
    · obtain ⟨hlt, -⟩ := List.getElem?_eq_some_iff.1 hm
      rw [List.length_append, List.length_singleton] at hlt
      obtain rfl : i = new.length := by omega
      rw [List.getElem?_concat_length] at hm
      cases hm
      exact hbelow part hpart
  case once =>
    rw [List.flatMap_append, List.flatMap_singleton, List.length_append, List.length_singleton,
      ← List.range'_append_1]
    exact h.once.append_right _
  case order =>
    rw [List.flatMap_singleton, family_eq]
    exact List.rel_append h.order (.cons hshows .nil)
  case stands =>
    intro front back hfront
    refine .cons (.intro ?_ hshows ?_) .nil
    · rw [← hfront, List.append_assoc, List.getElem?_append_right (Nat.le_add_right _ _),
        Nat.add_sub_cancel_left, List.append_assoc, List.getElem?_append_right (Nat.le_refl _),
        Nat.sub_self]
      rfl
    · have hstands := h.stands front ([n] ++ back) hfront
      rwa [← List.append_assoc, List.append_assoc front] at hstands

/-! ### Listings that grow -/

/-- The nodes `more` are `nodes` with a stretch behind them. -/
def Enlists (nodes more : List N) (tops : List Nat) (ts : List T) : Prop :=
  ∃ new, more = nodes ++ new ∧ Stretch nodes.length new tops ts

theorem Enlists.nil (nodes : List N) : Enlists nodes nodes [] [] :=
  ⟨[], (List.append_nil nodes).symm, .nil⟩

theorem Enlists.append {nodes mid more : List N} (h : Enlists nodes mid tops ts)
    (h' : Enlists mid more tops' ts') : Enlists nodes more (tops ++ tops') (ts ++ ts') := by
  obtain ⟨new, rfl, hnew⟩ := h
  obtain ⟨new', rfl, hnew'⟩ := h'
  rw [List.length_append] at hnew'
  exact ⟨new ++ new', List.append_assoc _ _ _, hnew.append hnew'⟩

theorem Enlists.close {nodes more : List N} {n : N} {t : T}
    (h : Enlists nodes more (places n) (parts t)) (hshows : Shows n t) :
    Enlists nodes (more ++ [n]) [(more ++ [n]).length - 1] [t] := by
  obtain ⟨new, rfl, hnew⟩ := h
  refine ⟨new ++ [n], List.append_assoc _ _ _, ?_⟩
  rw [List.length_append, List.length_singleton, Nat.add_sub_cancel, List.length_append]
  exact hnew.close hshows

/-! ### Listings of one tree -/

/-- What the listing of a tree has to be. -/
structure Arena (nodes : List N) (t : T) : Prop where
  /-- The last node is the root, and the tree hangs from it. -/
  root : Stands nodes (nodes.length - 1) t
  /-- What a node names comes before it. -/
  earlier : ∀ place n, nodes[place]? = some n → ∀ part ∈ places n, part < place
  /-- Every node but the last one is named, and only once. -/
  once : ∀ place, place + 1 < nodes.length → (nodes.flatMap places).count place = 1
  /-- The nodes are for what is in the tree, the inner ones first. -/
  order : List.Forall₂ Shows nodes (family t)

theorem Enlists.arena {nodes : List N} {t : T} (h : Enlists [] nodes [nodes.length - 1] [t]) :
    Arena nodes t := by
  obtain ⟨new, rfl, hnew⟩ := h
  constructor
  case root =>
    have hstands := hnew.stands [] [] rfl
    rw [List.append_nil] at hstands
    cases hstands with
    | cons hroot _ => exact hroot
  case earlier =>
    intro place n hn part hpart
    have hlt := hnew.earlier place n hn part hpart
    rwa [List.length_nil, Nat.zero_add] at hlt
  case once =>
    intro place hplace
    have hcount := hnew.once.count_eq place
    have hroot : [nodes.length - 1].count place = 0 := by
      rw [List.count_eq_zero, List.mem_singleton]
      omega
    have hmem : place ∈ List.range' ([] : List N).length nodes.length := by
      rw [List.mem_range'_1, List.length_nil]
      omega
    rwa [List.count_append, hroot, Nat.add_zero,
      List.count_eq_one_of_mem List.nodup_range' hmem] at hcount
  case order =>
    have horder := hnew.order
    rwa [List.flatMap_singleton] at horder

/-- There is a node for everything in the tree. -/
theorem Arena.length_eq {nodes : List N} {t : T} (h : Arena nodes t) :
    nodes.length = (family t).length :=
  h.order.length_eq

theorem Arena.length_pos {nodes : List N} {t : T} (h : Arena nodes t) : 0 < nodes.length := by
  rw [h.length_eq, family_eq, List.length_append]
  exact Nat.succ_pos _

/-- What the nodes tell of what they stand for. -/
theorem Arena.map_eq {α : Type} {nodes : List N} {t : T} (h : Arena nodes t) {f : N → α} {g : T → α}
    (hfg : ∀ n u, Shows n u → f n = g u) : nodes.map f = (family t).map g := by
  have hmap : List.Forall₂ Eq (nodes.map f) ((family t).map g) :=
    List.rel_map (fun n u => hfg n u) h.order
  rwa [List.forall₂_eq_eq_eq] at hmap

/-! ### Listings that are pushed -/

section Pushing

variable {ε α β γ δ : Type} {nodes : List N}

theorem run_push (n : N) (f : Nat → Pushing N ε α) :
    (push n >>= f).run nodes = (f ((nodes ++ [n]).length - 1)).run (nodes ++ [n]) := rfl

/-- A step that hands out what a reading gives, and then another one. -/
theorem run_bind {m : Pushing N ε α} {f : α → Pushing N ε β} {x : Except ε γ}
    {g : γ → Except ε δ} {hand : γ → α × List N} {hand' : δ → β × List N}
    (hm : m.run nodes = x.map hand)
    (hf : ∀ c, (f (hand c).1).run (hand c).2 = (g c).map hand') :
    (m >>= f).run nodes = (x >>= g).map hand' := by
  rw [StateT.run_bind, hm]
  cases x with
  | error e => rfl
  | ok c => exact hf c

/-- What is read beside the nodes leaves them as they are. -/
theorem run_read (x : Except ε α) (nodes : List N) :
    (liftM x : Pushing N ε α).run nodes = x.map fun a => (a, nodes) := by
  cases x <;> rfl

/-- The same where another form of it is read. -/
theorem run_read_map {x : Except ε α} {y : Except ε γ} {f : γ → α} (h : x = y.map f)
    (nodes : List N) : (liftM x : Pushing N ε α).run nodes = y.map fun c => (f c, nodes) := by
  rw [run_read, h]
  cases y <;> rfl

theorem map_bind {x : Except ε α} {y : Except ε γ} {f : γ → α} {g : α → Except ε β}
    {g' : γ → Except ε δ} {f' : δ → β} (h : x = y.map f) (hg : ∀ c, g (f c) = (g' c).map f') :
    (x >>= g) = (y >>= g').map f' := by
  rw [h]
  cases y with
  | error e => rfl
  | ok c => exact hg c

end Pushing

end Sift
