import Sift.Proofs.Condition.Compile
import Sift.Proofs.Condition.Filters
import Sift.Proofs.Condition.Mappings
import Sift.Regex.Engine

/-! Documents are compiled to trees.

The nodes of a listing come in the order of the mappings that they are read from, one for each,
with different paths; every node but the last one is named once, by a node that comes later. So a
walk over the places, with a stack of those that are left, meets every node once and finds how
deep the condition is nested (`depth?_tree`).

The nodes that the compiler hands out places for are those of a listing. So the main result,
`compiled_is_tree`, says all of this of whatever a document is compiled to (`ConditionTree.IsFor`),
and that nothing is compiled that is nested deeper than the bound. -/
namespace Sift

open Branching StandsFor

/-! ### Nodes -/

namespace ConditionNode

/-- What a node tells of its condition. -/
def label (n : ConditionNode) : Condition.Label where
  path := n.path
  name := n.name
  combinator :=
    match n.content with
    | .leaf _ => none
    | .group k .. => some k

/-- A node is the one for a condition, but for the parts. -/
inductive Shows : ConditionNode → Condition → Prop where
  | leaf (path : String) (l : Leaf) : Shows ⟨path, .leaf l⟩ (.leaf path l)
  | group (path : String) (k : Combinator) (children : List Nat) (cs : List Condition) :
      Shows ⟨path, .group k children none⟩ (.group path k cs)
  | forEach (path : String) (k : Combinator) (children : List Nat) (cs : List Condition)
      (field : Path.Program) (q : Option Quantifier) {place : Option Nat}
      {filter : Option Condition} (h : place.isSome = filter.isSome) :
      Shows ⟨path, .group k children (some ⟨field, place, q⟩)⟩
        (.forEach path k cs field filter q)

instance : StandsFor ConditionNode Condition where
  places := places
  Shows := Shows

theorem Shows.label_eq {n : ConditionNode} {c : Condition} (h : n.Shows c) : n.label = c.label := by
  cases h <;> rfl

end ConditionNode

namespace Condition

open ConditionTree

/-! ### The listing -/

mutual

theorem listFrom_enlists (nodes : List ConditionNode) (c : Condition) :
    Enlists nodes (listFrom nodes c) [(listFrom nodes c).length - 1] [c] := by
  match c with
  | .leaf path l => exact (Enlists.nil nodes).close (.leaf path l)
  | .group path k children =>
    exact Enlists.close (listAll_enlists nodes children) (.group path k _ _)
  | .forEach path k children field filter q =>
    obtain ⟨hfilter, hsome⟩ := listOption_enlists (listAll nodes children).1 filter
    exact Enlists.close ((listAll_enlists nodes children).append hfilter)
      (.forEach path k _ _ field q hsome)

theorem listAll_enlists (nodes : List ConditionNode) (cs : List Condition) :
    Enlists nodes (listAll nodes cs).1 (listAll nodes cs).2 cs := by
  match cs with
  | [] => exact .nil nodes
  | c :: rest => exact (listFrom_enlists nodes c).append (listAll_enlists (listFrom nodes c) rest)

theorem listOption_enlists (nodes : List ConditionNode) (filter : Option Condition) :
    Enlists nodes (listOption nodes filter).1 (listOption nodes filter).2.toList filter.toList ∧
      (listOption nodes filter).2.isSome = filter.isSome := by
  match filter with
  | none => exact ⟨.nil nodes, rfl⟩
  | some c => exact ⟨listFrom_enlists nodes c, rfl⟩

end

/-- The listing of a condition is a tree, and this tree is the condition. -/
theorem arena_listing (c : Condition) : Arena c.listing c :=
  (listFrom_enlists [] c).arena

/-! ### The depth -/

/-- The parts of a condition at a level, in the order in which the walk meets them. -/
def inward (c : Condition) (level : Nat) : List (Condition × Nat) :=
  c.parts.reverse.map fun part => (part, level + 1)

theorem length_inward (c : Condition) (level : Nat) :
    (((inward c level).map Prod.fst).flatMap family).length + 1 = (family c).length := by
  have hparts : (inward c level).map Prod.fst = c.parts.reverse :=
    List.map_map.trans (List.map_id _)
  have hperm := (List.reverse_perm c.parts).flatMap_right family
  rw [hparts, hperm.length_eq, family_eq, List.length_append]
  rfl

theorem level_depth_le_inward {c : Condition} {level n : Nat} :
    level + c.depth ≤ n + 1 ↔
      (∀ part ∈ inward c level, part.2 + part.1.depth ≤ n + 1) ∧ level ≤ n := by
  rw [level_depth_le_iff, inward, List.forall_mem_map]
  simp only [List.mem_reverse]

/-- A place on the stack with its level, for a condition at this level. -/
def Stacked (nodes : List ConditionNode) (top : Nat × Nat) (c : Condition × Nat) : Prop :=
  Stands nodes top.1 c.1 ∧ top.2 = c.2

theorem Stacked.inward {nodes : List ConditionNode} {place : Nat} {c : Condition}
    (h : Stands nodes place c) (level : Nat) : ∃ n, nodes[place]? = some n ∧
      List.Forall₂ (Stacked nodes) (n.places.reverse.map fun part => (part, level + 1))
        (inward c level) := by
  cases h with
  | @intro _ n _ hplace _ hparts =>
    exact ⟨n, hplace, List.rel_map (fun _ _ hpart => ⟨hpart, rfl⟩) (List.rel_reverse hparts)⟩

/-- The walk meets each condition that hangs from the stack once. -/
theorem deepest_stack {nodes : List ConditionNode} {rounds : Nat} (most : Nat)
    {stack : List (Nat × Nat)} {cs : List (Condition × Nat)}
    (hstack : List.Forall₂ (Stacked nodes) stack cs)
    (hrounds : ((cs.map Prod.fst).flatMap family).length ≤ rounds) :
    ∃ depth, deepest nodes rounds stack most = some depth ∧
      ∀ n, depth ≤ n ↔ most ≤ n ∧ ∀ c ∈ cs, c.2 + c.1.depth ≤ n + 1 := by
  -- A round takes one condition from the stack, and what it leaves there has one node less.
  induction rounds generalizing stack cs most with
  | zero =>
    cases hstack with
    | nil => exact ⟨most, by rw [deepest], fun n => by simp⟩
    | @cons _ c _ _ _ _ =>
      have hpos := length_inward c.1 0
      rw [List.map_cons, List.flatMap_cons, List.length_append] at hrounds
      omega
  | succ rounds ih =>
    cases hstack with
    | nil => exact ⟨most, by rw [deepest], fun n => by simp⟩
    | @cons top c stack cs htop hstack =>
      obtain ⟨place, level⟩ := top
      obtain ⟨c, _⟩ := c
      obtain ⟨hstands : Stands nodes place c, rfl⟩ := htop
      obtain ⟨n, hplace, hparts⟩ := Stacked.inward hstands level
      have hrest : (((inward c level ++ cs).map Prod.fst).flatMap family).length ≤ rounds := by
        have hfamily := length_inward c level
        have hall : (family c ++ (cs.map Prod.fst).flatMap family).length ≤ rounds + 1 := hrounds
        rw [List.length_append] at hall
        rw [List.map_append, List.flatMap_append, List.length_append]
        omega
      obtain ⟨depth, hdeepest, hdepth⟩ :=
        ih (max most level) (List.rel_append hparts hstack) hrest
      refine ⟨depth, ?_, fun n => ?_⟩
      · rw [deepest, hplace]
        exact hdeepest
      · rw [hdepth, List.forall_mem_append, List.forall_mem_cons, level_depth_le_inward, Nat.max_le]
        tauto

/-- **The depth of a condition is found in its listing**, in one round for each node. -/
theorem depth?_tree (c : Condition) : c.tree.depth? = some c.depth := by
  have harena := arena_listing c
  have hrounds : (([(c, 1)].map Prod.fst).flatMap family).length ≤ c.listing.length := by
    rw [harena.length_eq, List.map_singleton, List.flatMap_singleton]
  have hstack : List.Forall₂ (Stacked c.listing) [(c.listing.length - 1, 1)] [(c, 1)] :=
    .cons ⟨harena.root, rfl⟩ .nil
  obtain ⟨depth, hdeepest, hdepth⟩ := deepest_stack 0 hstack hrounds
  have heq : depth = c.depth := by
    refine eq_of_forall_ge_iff fun n => ?_
    rw [hdepth, List.forall_mem_singleton, Nat.add_comm n 1, Nat.add_le_add_iff_left,
      and_iff_right (Nat.zero_le n)]
  rw [depth?, ← heq]
  exact hdeepest

end Condition

/-! ### What is built -/

open Builder

variable {b : Builder} {levels : Nat} {location : String} {v : Value} {c : Condition}

theorem map_label_listing (c : Condition) :
    c.listing.map ConditionNode.label = (family c).map Condition.label :=
  c.arena_listing.map_eq fun _ _ => ConditionNode.Shows.label_eq

/-- There is one node for each mapping, in the same order. -/
theorem mappings_listing (h : b.condition levels location v = .ok c) (level : Nat) :
    List.Forall₂ (fun n m => Mapping.IsFor m n.label) c.listing (mappings location level v) := by
  have hread : List.Forall₂ (fun l m => Mapping.IsFor m l) ((family c).map Condition.label)
      (mappings location level v) := List.forall₂_map_left_iff.2 (mappings_family h level)
  rw [← map_label_listing] at hread
  exact List.forall₂_map_left_iff.1 hread

theorem nodup_listing (h : b.condition levels location v = .ok c) :
    (c.listing.map ConditionNode.path).Nodup := by
  have hpaths : c.listing.map ConditionNode.path = (family c).map Condition.path := by
    have hlabels := congrArg (List.map Condition.Label.path) (map_label_listing c)
    rwa [List.map_map, List.map_map] at hlabels
  rw [hpaths]
  exact (paths_family h).nodup

theorem depth_eq_nesting {document : Value} (h : b.build document = .ok c) :
    c.depth = nesting document := by
  refine eq_of_forall_ge_iff fun n => ?_
  rw [nesting_le_iff, forall_level_iff h 1 n, Nat.add_comm n 1, Nat.add_le_add_iff_left]

/-- The nodes are a tree, and they are the ones for the document. -/
structure ConditionTree.IsFor (t : ConditionTree) (document : Value) : Prop where
  /-- The root is the last node. -/
  root : t.root + 1 = t.nodes.length
  /-- The places of children and filters come before the node that names them. -/
  earlier : ∀ place (n : ConditionNode), t.nodes[place]? = some n →
    ∀ part ∈ n.places, part < place
  /-- Every node but the root is named, and only once. -/
  once : ∀ place < t.nodes.length, place ≠ t.root →
    (t.nodes.flatMap ConditionNode.places).count place = 1
  /-- There is one node for each mapping that stands for a condition, in their order. -/
  mapping : List.Forall₂ (fun n m => Mapping.IsFor m n.label) t.nodes (mappings "" 1 document)
  paths : (t.nodes.map ConditionNode.path).Nodup
  /-- The walk over the places comes to its end in range, and finds the depth of the document. -/
  depth : t.depth? = some (nesting document)

/-- The listing of what is built is the tree for the document. -/
theorem isFor_tree {document : Value} (h : b.build document = .ok c) : c.tree.IsFor document where
  root := Nat.succ_pred_eq_of_pos c.arena_listing.length_pos
  earlier := c.arena_listing.earlier
  once place hplace hroot := by
    have hne : place ≠ c.listing.length - 1 := hroot
    have hlt : place < c.listing.length := hplace
    exact c.arena_listing.once place (by omega)
  mapping := mappings_listing h 1
  paths := nodup_listing h
  depth := by rw [c.depth?_tree, depth_eq_nesting h]

/-- **What a document is compiled to is a tree.** The root is the last node, and the places that a
node names come before it; every other node is named once. There is one node for each mapping of
the document that stands for a condition, in their order, and no two nodes have the same path. The
depth that a walk over the places finds is how deep the document is nested, and no more than the
bound. From the root hangs the condition that the document is built as. A document that is nested
deeper than the bound is not compiled. -/
theorem compiled_is_tree (b : Builder) (document : Value) :
    (∀ t, b.compile document = .ok t →
      t.IsFor document ∧ nesting document ≤ b.maxDepth ∧
        ∃ c, b.build document = .ok c ∧ Stands t.nodes t.root c) ∧
    (b.maxDepth < nesting document → ∃ e, b.compile document = .error e) := by
  constructor
  · intro t ht
    rw [compile_eq_tree] at ht
    obtain ⟨c, hc, rfl⟩ := map_eq_ok.1 ht
    have hbound := depth_le hc
    rw [depth_eq_nesting hc] at hbound
    exact ⟨isFor_tree hc, hbound, c, hc, c.arena_listing.root⟩
  · intro hdeep
    cases hcompile : b.compile document with
    | error e => exact ⟨e, rfl⟩
    | ok t =>
      rw [compile_eq_tree] at hcompile
      obtain ⟨c, hc, -⟩ := map_eq_ok.1 hcompile
      have hbound := depth_le hc
      rw [depth_eq_nesting hc] at hbound
      omega

/-- A document with a group of groups and a filter, and what it is nested too deep for. -/
theorem compiled_is_tree_filtered :
    let b := Builder.of Regex.engine {}
    ∃ t, b.compile filteredDocument = .ok t ∧ t.root = 4 ∧
      t.nodes.map ConditionNode.path = [".allOf[0].equals", ".allOf.where.anyOf[0].equals",
        ".allOf.where.anyOf[1].version", ".allOf.where.anyOf", ".allOf"] ∧
      t.IsFor filteredDocument ∧ nesting filteredDocument = 3 ∧
      ∃ e, (b.withMaxDepth 2).compile filteredDocument = .error e := by
  intro b
  have hcompile : b.compile filteredDocument = .ok filteredItems.tree := by
    rw [compile_eq_tree, build_filtered]
    rfl
  obtain ⟨htree, -⟩ := (compiled_is_tree b filteredDocument).1 _ hcompile
  have hnesting : nesting filteredDocument = 3 :=
    (depth_eq_nesting (build_filtered Regex.engine)).symm
  refine ⟨_, hcompile, rfl, rfl, htree, hnesting, ?_⟩
  refine (compiled_is_tree _ filteredDocument).2 ?_
  rw [hnesting]
  decide

end Sift
