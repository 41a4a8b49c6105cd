import Mathlib.Data.List.Forall2
import Mathlib.Data.List.Induction
import Sift.Condition.Evaluate
import Sift.Condition.Listing

/-! Conditions answer as their listings.

A listing has no nesting: a node names its parts by their places, and they all come before
it. So the answers of a listing are made from the front, each from the ones before it, and
the last one is the answer of the condition (`answers_listing`). -/
namespace Sift

variable {α : Type} [Viewable α]

/-- Whether an item counts, given the answers of the nodes before its group. -/
def counting (before : List (Evaluation α Bool)) : Option Nat → Evaluation α Bool
  | none => pure true
  | some place => Condition.filtered (before.getD place (pure false))

/-- The answer of a node, given the answers of the nodes before it. -/
def ConditionNode.answer (before : List (Evaluation α Bool)) (n : ConditionNode) :
    Evaluation α Bool :=
  let part := fun place : Nat => before.getD place (pure false)
  match n.content with
  | .leaf l => l.evaluate
  | .group k children none => Condition.combine k (children.map part)
  | .group k children (some items) => do
    let ask := do
      if ← counting before items.filter then some <$> Condition.combine k (children.map part)
      else pure none
    Condition.overItems ask (Condition.itemsPath items.field) items.quantifier 0 0
      (Condition.itemsOf items.field (← get))

namespace Condition

/-- The answers of all nodes of a listing, in order. -/
def answers (nodes : List ConditionNode) : List (Evaluation α Bool) :=
  nodes.foldl (fun before n => before ++ [n.answer before]) []

theorem answers_concat (nodes : List ConditionNode) (n : ConditionNode) :
    answers (α := α) (nodes ++ [n]) = answers nodes ++ [n.answer (answers nodes)] := by
  rw [answers, List.foldl_append]
  rfl

theorem length_answers (nodes : List ConditionNode) :
    (answers (α := α) nodes).length = nodes.length := by
  induction nodes using List.reverseRecOn with
  | nil => rfl
  | append_singleton nodes n ih =>
    rw [answers_concat, List.length_append, List.length_append, ih]
    rfl

/-- The condition `c` answers at a place of a listing. -/
def AnswersAt (nodes : List ConditionNode) (place : Nat) (e : Evaluation α Bool) : Prop :=
  (answers nodes)[place]? = some e

/-- A listing goes on from another one, whose nodes keep their answers. -/
def Extends (α : Type) [Viewable α] (nodes more : List ConditionNode) : Prop :=
  answers (α := α) nodes <+: answers more

theorem Extends.trans {nodes more most : List ConditionNode} (h : Extends α nodes more)
    (h' : Extends α more most) : Extends α nodes most :=
  List.IsPrefix.trans h h'

theorem Extends.concat {nodes more : List ConditionNode} (h : Extends α nodes more)
    (n : ConditionNode) : Extends α nodes (more ++ [n]) := by
  rw [Extends, answers_concat]
  exact List.IsPrefix.trans h (List.prefix_append _ _)

theorem AnswersAt.extends {nodes more : List ConditionNode} {place : Nat} {e : Evaluation α Bool}
    (h : AnswersAt nodes place e) (hmore : Extends α nodes more) : AnswersAt more place e := by
  obtain ⟨rest, hrest⟩ := hmore
  obtain ⟨hlt, -⟩ := List.getElem?_eq_some_iff.1 h
  rw [AnswersAt, ← hrest, List.getElem?_append_left hlt]
  exact h

/-- The last node of a listing answers at the last place. -/
theorem answersAt_concat (nodes : List ConditionNode) (n : ConditionNode) :
    AnswersAt (α := α) (nodes ++ [n]) ((nodes ++ [n]).length - 1) (n.answer (answers nodes)) := by
  rw [AnswersAt, answers_concat, List.length_append, List.length_singleton, Nat.add_sub_cancel,
    ← length_answers (α := α) nodes]
  exact List.getElem?_concat_length

/-- What a node finds at the places of its parts. -/
theorem map_answers {nodes : List ConditionNode} {places : List Nat}
    {asks : List (Evaluation α Bool)} (h : List.Forall₂ (AnswersAt nodes) places asks) :
    (places.map fun place => (answers nodes).getD place (pure false)) = asks := by
  induction h with
  | nil => rfl
  | @cons place ask places asks hask _ ih =>
    rw [List.map_cons, ih, List.getD_eq_getElem?_getD, hask]
    rfl

mutual

/-- The nodes of a condition leave those before them alone, and the last one answers as the
condition. -/
theorem listFrom_answers (nodes : List ConditionNode) (c : Condition) :
    Extends α nodes (listFrom nodes c) ∧
      AnswersAt (α := α) (listFrom nodes c) ((listFrom nodes c).length - 1) c.evaluate := by
  match c with
  | .leaf path l => exact ⟨Extends.concat (List.prefix_refl _) _, answersAt_concat nodes _⟩
  | .group path k children =>
    obtain ⟨hext, hall⟩ := listAll_answers nodes children
    refine ⟨hext.concat _, ?_⟩
    have hanswer := answersAt_concat (α := α) (listAll nodes children).1
      ⟨path, .group k (listAll nodes children).2 none⟩
    rw [ConditionNode.answer] at hanswer
    simp only [map_answers hall] at hanswer
    exact hanswer
  | .forEach path k children field filter q =>
    obtain ⟨hext, hall⟩ := listAll_answers nodes children
    obtain ⟨hext', hfilter⟩ := listOption_answers (listAll nodes children).1 filter
    have hall' := hall.imp fun _ _ h => h.extends hext'
    refine ⟨(hext.trans hext').concat _, ?_⟩
    have hanswer := answersAt_concat (α := α) (listOption (listAll nodes children).1 filter).1
      ⟨path, .group k (listAll nodes children).2
        (some ⟨field, (listOption (listAll nodes children).1 filter).2, q⟩)⟩
    rw [ConditionNode.answer] at hanswer
    simp only [map_answers hall', hfilter] at hanswer
    exact hanswer

theorem listAll_answers (nodes : List ConditionNode) (cs : List Condition) :
    Extends α nodes (listAll nodes cs).1 ∧
      List.Forall₂ (AnswersAt (listAll nodes cs).1) (listAll nodes cs).2
        (evaluateEach (α := α) cs) := by
  match cs with
  | [] => exact ⟨List.prefix_refl _, .nil⟩
  | c :: rest =>
    obtain ⟨hc, hanswer⟩ := listFrom_answers nodes c
    obtain ⟨hrest, hanswers⟩ := listAll_answers (listFrom nodes c) rest
    exact ⟨hc.trans hrest, .cons (hanswer.extends hrest) hanswers⟩

theorem listOption_answers (nodes : List ConditionNode) (filter : Option Condition) :
    Extends α nodes (listOption nodes filter).1 ∧
      counting (answers (α := α) (listOption nodes filter).1) (listOption nodes filter).2 =
        evaluateFilter filter := by
  match filter with
  | none => exact ⟨List.prefix_refl _, rfl⟩
  | some c =>
    obtain ⟨hc, hanswer⟩ := listFrom_answers nodes c
    refine ⟨hc, ?_⟩
    have hat : (answers (α := α) (listFrom nodes c))[(listFrom nodes c).length - 1]? =
        some c.evaluate := hanswer
    show filtered ((answers (listFrom nodes c)).getD ((listFrom nodes c).length - 1) _) = _
    rw [List.getD_eq_getElem?_getD, hat]
    rfl

end

/-- **A condition answers as the last node of its listing.** -/
theorem answers_listing (c : Condition) :
    (answers (α := α) c.listing).getLast? = some c.evaluate := by
  have hlast := (listFrom_answers (α := α) [] c).2
  rw [AnswersAt, ← length_answers (α := α), ← List.getLast?_eq_getElem?] at hlast
  exact hlast

end Condition

end Sift
