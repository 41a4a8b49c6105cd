import Sift.Proofs.Path.Flat.Evaluate
import Sift.Proofs.Path.Relations
import Sift.Regex.Engine

/-! Predicates are compiled to trees.

The nodes that the tokens of a filter are compiled to are those of a listing: every node but the
last one is named once, by a node that comes later, and the relations come in the order in which
they are written. So a test that goes from place to place comes to an end, within as many steps as
there are nodes, and never leaves them.

The main result, `compiled_filter_is_tree`, says this of whatever is compiled, and of the filters
in the paths of its relations, however deep. -/
namespace Sift.Path

open Branching StandsFor

/-! ### Relations -/

namespace Flat

def Operand.tokens : Operand → List Token
  | .literal (.bool b) => [.truth b]
  | .literal (.int i) => [.integer i]
  | .literal (.text t) => [.text t]
  | .literal _ => []
  | .pattern t _ => [.text t]
  | .path p => p.tokens

/-- The tokens of the relation that a node asks, if it asks any by itself. -/
def Node.tokens? : Node → Option (List Token)
  | .resolves path => some path.tokens
  | .compare op left right => some (left.tokens ++ .compare op :: right.tokens)
  | _ => none

end Flat

theorem tokens_flat (p : Program) : p.flat.tokens = p.tokens := by
  cases p
  rfl

theorem operand_tokens_flat (right : Operand) : right.flat.tokens = right.tokens := by
  cases right with
  | literal v => cases v <;> rfl
  | pattern text p => rfl
  | path p => exact tokens_flat p

def Relation.flat : Relation → Flat.Node
  | .resolves path => .resolves path.flat
  | .compare op left right => .compare op left.flat right.flat

section Gathered

variable {β : Type} {g : Flat.Node → List β} {g' : Relation → List β}
  (hrelation : ∀ r : Relation, g r.flat = g' r) (hjoins : ∀ n : Flat.Node, n.places ≠ [] → g n = [])
include hrelation hjoins

/-- What is gathered from the nodes of a listing is gathered from the relations of the predicate, in
the same order, where nodes that join others add nothing. -/
theorem flatMap_listFrom (nodes : List Flat.Node) (p : Predicate) :
    (p.listFrom nodes).flatMap g = nodes.flatMap g ++ p.relations.flatMap g' := by
  match p with
  | .resolves _ | .compare _ _ _ =>
    rw [Predicate.listFrom, Predicate.relations, List.flatMap_append, List.flatMap_singleton,
      List.flatMap_singleton, ← hrelation, Relation.flat]
  | .and a b | .or a b =>
    rw [Predicate.listFrom, Predicate.relations, List.flatMap_append, List.flatMap_singleton, hjoins,
      List.append_nil, flatMap_listFrom _ b, flatMap_listFrom nodes a, List.append_assoc,
      ← List.flatMap_append]
    exact List.cons_ne_nil _ _
  | .not a =>
    rw [Predicate.listFrom, Predicate.relations, List.flatMap_append, List.flatMap_singleton, hjoins,
      List.append_nil, flatMap_listFrom nodes a]
    exact List.cons_ne_nil _ _

theorem flatMap_flat (p : Predicate) : p.flat.nodes.flatMap g = p.relations.flatMap g' :=
  flatMap_listFrom hrelation hjoins [] p

end Gathered

theorem tokens?_relation (r : Relation) : r.flat.tokens? = some r.tokens := by
  cases r with
  | resolves path => exact congrArg some (tokens_flat path)
  | compare op left right =>
    rw [Relation.flat, Flat.Node.tokens?, tokens_flat, operand_tokens_flat, Relation.tokens]

/-- The relations in a listing are those of the predicate, in the same order. -/
theorem relations_flat (p : Predicate) :
    p.flat.nodes.filterMap Flat.Node.tokens? = p.relations.map Relation.tokens := by
  rw [List.filterMap_eq_flatMap_toList, List.map_eq_flatMap]
  refine flatMap_flat (fun r => ?_) (fun n hn => ?_) p
  · rw [tokens?_relation, Option.toList_some]
  · cases n with
    | resolves | compare => exact absurd rfl hn
    | _ => rfl

/-! ### Filters in paths -/

namespace Flat

def Segment.filter? : Segment → Option Filter
  | .filter f => some f
  | .step _ => none

/-- The filters that a path goes through. -/
def Program.filters (p : Program) : List Filter := p.segments.filterMap Segment.filter?

def Operand.filters : Operand → List Filter
  | .path p => p.filters
  | _ => []

def Node.filters : Node → List Filter
  | .resolves path => path.filters
  | .compare _ left right => left.filters ++ right.filters
  | _ => []

/-- The filters in the paths of a filter. -/
def Filter.filters (f : Filter) : List Filter := f.nodes.flatMap Node.filters

/-- A filter inside of another one, behind any number of others. -/
inductive Inside : Filter → Filter → Prop where
  | filter {f g} : g ∈ f.filters → Inside g f
  | deeper {f g h} : h ∈ g.filters → Inside g f → Inside h f

end Flat

theorem program_filters_flat (p : Program) : p.flat.filters = p.filters.map Predicate.flat := by
  obtain ⟨source, tokens, segments⟩ := p
  show (flatAll segments).filterMap Flat.Segment.filter? =
    (segments.filterMap Segment.filter?).map Predicate.flat
  induction segments with
  | nil => rfl
  | cons segment rest ih =>
    rw [flatAll, List.filterMap_cons, List.filterMap_cons, ih]
    cases segment <;> rfl

theorem operand_filters_flat (right : Operand) :
    right.flat.filters = right.filters.map Predicate.flat := by
  cases right with
  | path p => exact program_filters_flat p
  | _ => rfl

theorem filters_relation (r : Relation) : r.flat.filters = r.filters.map Predicate.flat := by
  cases r with
  | resolves path => exact program_filters_flat path
  | compare op left right =>
    rw [Relation.flat, Flat.Node.filters, program_filters_flat, operand_filters_flat,
      Relation.filters, List.map_append]

theorem filters_flat (p : Predicate) : p.flat.filters = p.filters.map Predicate.flat := by
  rw [Flat.Filter.filters, Predicate.filters, List.map_flatMap]
  refine flatMap_flat filters_relation (fun n hn => ?_) p
  cases n with
  | resolves | compare => exact absurd rfl hn
  | _ => rfl

/-- What is inside of the flat form of a predicate is the flat form of a predicate inside. -/
theorem inside_flat {p : Predicate} {g : Flat.Filter} (h : Flat.Inside g p.flat) :
    ∃ q, Inside q p ∧ q.flat = g := by
  generalize hf : p.flat = f at h
  induction h with
  | filter hmem =>
    subst hf
    rw [filters_flat] at hmem
    obtain ⟨q, hq, rfl⟩ := List.mem_map.1 hmem
    exact ⟨q, .filter hq, rfl⟩
  | deeper hmem _ ih =>
    obtain ⟨q, hq, rfl⟩ := ih hf
    rw [filters_flat] at hmem
    obtain ⟨r, hr, rfl⟩ := List.mem_map.1 hmem
    exact ⟨r, .deeper hr hq, rfl⟩

/-! ### What is compiled -/

variable {s : Setting} {ts : List Token} {f : Flat.Filter}

/-- The nodes are a tree, and they are what the tokens ask for. -/
structure Flat.Filter.IsFor (s : Setting) (ts : List Token) (f : Flat.Filter) : Prop where
  /-- The root is the last node. -/
  root : f.root + 1 = f.nodes.length
  /-- Operands come before what they are operands of. -/
  earlier : ∀ place (n : Flat.Node), f.nodes[place]? = some n → ∀ part ∈ n.places, part < place
  /-- Every node but the root is an operand, and only once. -/
  once : ∀ place < f.nodes.length, place ≠ f.root →
    (f.nodes.flatMap Flat.Node.places).count place = 1
  /-- There is one node for each relation outside of the filters in paths, in their order. -/
  relations : f.nodes.filterMap Flat.Node.tokens? = relations ts
  /-- A test ends, within as many steps as there are nodes and always at a node, with the answer
  of the predicate. -/
  test : ∃ p, compilePredicate s ts = .ok p ∧
    ∀ {α : Type} [Viewable α] (o : QueryOptions) (root v : α) (steps : Nat),
      f.nodes.length ≤ steps →
        Flat.testAt? o root f.nodes steps f.root v = some (Path.test o root p v)

theorem isFor_flat {p : Predicate} (h : compilePredicate s ts = .ok p) : p.flat.IsFor s ts where
  root := Nat.sub_add_cancel p.arena_flat.length_pos
  earlier := p.arena_flat.earlier
  once place hplace hroot := by
    have hne : place ≠ p.flat.nodes.length - 1 := hroot
    exact p.arena_flat.once place (by omega)
  relations := by rw [relations_flat, relations_compiled h]
  test := by
    refine ⟨p, h, fun o root v steps hsteps => ?_⟩
    have hroot : p.flat.root < p.flat.nodes.length :=
      Nat.sub_one_lt_of_lt p.arena_flat.length_pos
    exact testAt?_stands o root p v p.arena_flat.earlier p.arena_flat.root
      (Nat.lt_of_lt_of_le hroot hsteps)

/-- **What the tokens of a filter are compiled to is a tree, filters in filters included.** The
root is the last node, operands come before what they are operands of, every other node is an
operand of one node, once, and there is one relation for each that is written outside of the
filters in paths, in the same order. So a test by places ends, within as many steps as there are
nodes and always at a node. And every filter inside was compiled from a part of the tokens in the
same way. -/
theorem compiled_filter_is_tree (h : Flat.compileFilter s ts = .ok f) :
    f.IsFor s ts ∧ ∀ g, Flat.Inside g f → ∃ us, us <:+: ts ∧
      Flat.compileFilter s us = .ok g ∧ g.IsFor s us := by
  rw [compileFilter_flat] at h
  cases hp : compilePredicate s ts with
  | error e =>
    rw [hp] at h
    cases h
  | ok p =>
    rw [hp] at h
    cases h
    refine ⟨isFor_flat hp, fun g hg => ?_⟩
    obtain ⟨q, hq, rfl⟩ := inside_flat hg
    obtain ⟨us, hus, hcompile⟩ := compiled_inside hp hq
    refine ⟨us, hus, ?_, isFor_flat hcompile⟩
    rw [compileFilter_flat, hcompile]
    rfl

section Nested

/-- A path with a filter in its predicate, compared with a number, and two paths in a group. -/
def nestedSetting : Setting :=
  ⟨"$[?@.a[?@.b] == 1 && !(@.c || $.d)]", Regex.engine, defaultSizeLimit⟩

/-- The path to a member of what a reference stands for. -/
def memberPath (reference : Token) (segment : Segment) (name : String) : Program :=
  .mk (Text.trim nestedSetting.source) [reference, .member name false]
    [segment, .member name false]

def innerFilter : Predicate := .resolves (memberPath .current .current "b")

def nestedTokens : List Token :=
  [.current, .member "a" false, .startFilter, .current, .member "b" false, .endFilter,
    .compare .eq, .integer 1, .and, .not, .startGroup, .current, .member "c" false, .or, .root,
    .member "d" false, .endGroup]

def nestedPredicate : Predicate :=
  .and (.compare .eq (.mk (Text.trim nestedSetting.source) (nestedTokens.take 6)
      [.current, .member "a" false, .filter innerFilter]) (.literal (.int 1)))
    (.not (.or (.resolves (memberPath .current .current "c"))
      (.resolves (memberPath .root .root "d"))))

theorem writes_member (n : Nat) (hn : n ≤ nestingLimit) (reference : Token) (segment : Segment)
    (h : reference.isReference = true) (hsegment : reference.segment? = some segment)
    (name : String) : Writes nestedSetting
      (.conjunction n (.relation (.resolves (memberPath reference segment name))))
      [reference, .member name false] :=
  .term (.relation hn (.resolves (.path h hsegment (.selector rfl rfl .nil))))

theorem compile_nested : compilePredicate nestedSetting nestedTokens = .ok nestedPredicate := by
  have hinner := writes_member 0 (by decide) .current .current rfl rfl "b"
  have hleft : Writes nestedSetting (.path (.mk (Text.trim nestedSetting.source)
      (nestedTokens.take 6) [.current, .member "a" false, .filter innerFilter]))
      (nestedTokens.take 6) :=
    .path rfl rfl (.selector rfl rfl (.filter (.conjunction hinner) .nil))
  have hcompare : Writes nestedSetting (.term 0 (.relation (.compare .eq _ (.literal (.int 1)))))
      (nestedTokens.take 8) :=
    .relation (Nat.zero_le _) (.compare hleft (.literal (.integer 1)))
  have hc := writes_member 2 (by decide) .current .current rfl rfl "c"
  have hd := writes_member 2 (by decide) .root .root rfl rfl "d"
  have hgroup := Writes.or (.conjunction hc) hd
  exact compilePredicate_writes (.conjunction (.and (.term hcompare) (.not (.group hgroup))))

/-- Three relations, the first one with a filter in its path, and three nodes that join them. -/
theorem compiled_filter_is_tree_nested :
    let f := nestedPredicate.flat
    Flat.compileFilter nestedSetting nestedTokens = .ok f ∧ f.root = 5 ∧
      f.nodes.map Flat.Node.places = [[], [], [], [1, 2], [3], [0, 4]] ∧
      relations nestedTokens = [nestedTokens.take 8, [.current, .member "c" false],
        [.root, .member "d" false]] ∧
      f.IsFor nestedSetting nestedTokens ∧ Flat.Inside innerFilter.flat f ∧
      ∃ us, us <:+: nestedTokens ∧ Flat.compileFilter nestedSetting us = .ok innerFilter.flat ∧
        innerFilter.flat.IsFor nestedSetting us := by
  intro f
  have hcompile : Flat.compileFilter nestedSetting nestedTokens = .ok f := by
    rw [compileFilter_flat, compile_nested]
    rfl
  have hinside : Flat.Inside innerFilter.flat f := by
    refine .filter ?_
    rw [filters_flat]
    exact List.mem_map_of_mem (List.mem_singleton_self innerFilter)
  obtain ⟨htree, hall⟩ := compiled_filter_is_tree hcompile
  exact ⟨hcompile, rfl, rfl, by decide, htree, hinside, hall _ hinside⟩

end Nested

end Sift.Path
