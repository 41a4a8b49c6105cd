import Sift.Condition.Compile
import Sift.Proofs.Condition.Location
import Sift.Proofs.Listing

/-! Compiling a document lists what is built from it.

The compiler only puts nodes behind others and hands out places, but it reads the document as a
builder of conditions does. Step by step, the nodes that it leaves are those that the listing of
the condition has, and the place that it hands out is that of the last one (`node_lists`); and
where one of the two comes to a fault, so does the other one. -/
namespace Sift.Builder

open Condition

variable {b : Builder}

/-- The nodes that are put behind others list the condition that is read, and the place that is
handed out is the last one; or both come to the same fault. -/
def Lists (m : Compiler Nat) (r : Except BuildError Condition) : Prop :=
  ∀ nodes, m.run nodes = r.map fun c => ((listFrom nodes c).length - 1, listFrom nodes c)

theorem leafNode_lists (location : String) (members : Members) :
    Lists (b.leafNode location members) (b.leaf location members) := by
  intro nodes
  rw [leafNode, leaf, StateT.run_bind, run_read]
  cases b.readLeaf location members <;> rfl

section Groups

variable {compile : String → Value → Compiler Nat}
  {read : String → Value → Except BuildError Condition}
  (h : ∀ location v, Lists (compile location v) (read location v))
include h

theorem compileAll_run (path : String) (i : Nat) (vs : List Value) (nodes : List ConditionNode) :
    (compileAll compile path i vs).run nodes =
      (readAll read path i vs).map fun cs => ((listAll nodes cs).2, (listAll nodes cs).1) := by
  induction vs generalizing i nodes with
  | nil => rfl
  | cons v rest ih => exact run_bind (h _ v nodes) fun c => run_bind (ih _ _) fun cs => rfl

end Groups

theorem node_lists (b : Builder) (levels : Nat) (location : String) (v : Value) :
    Lists (b.node levels location v) (b.condition levels location v) := by
  induction levels generalizing location v with
  | zero => exact fun _ => rfl
  | succ levels ih =>
    cases v with
    | object members =>
      rw [node, condition]
      obtain _ | ⟨⟨k, v⟩, _ | ⟨_, _⟩⟩ := combinators members
      · exact leafNode_lists location members
      · intro nodes
        refine run_bind (run_read _ nodes) fun documents => ?_
        refine run_bind (compileAll_run ih _ 0 documents nodes) fun cs => ?_
        dsimp only
        cases member? members "field" with
        | none => rfl
        | some field =>
          dsimp only
          rw [bind_map_left, itemsNode, bind_assoc]
          refine run_bind (run_read _ _) fun field => ?_
          cases member? members "where" with
          | none =>
            dsimp only
            rw [pure_bind, pure_bind, bind_assoc]
            exact run_bind (run_read _ _) fun q => rfl
          | some w =>
            dsimp only
            rw [bind_map_left, bind_map_left, bind_assoc]
            refine run_bind (ih _ w _) fun c => ?_
            rw [bind_assoc]
            exact run_bind (run_read _ _) fun q => rfl
      · exact fun _ => rfl
    | _ => exact fun _ => rfl

/-- **Compiling gives the listing of what is built**, with its last node as the root, or the fault
that building ends in. -/
theorem compile_eq_tree (b : Builder) (document : Value) :
    b.compile document = (b.build document).map Condition.tree := by
  have hrun := b.node_lists b.maxDepth "" document []
  rw [compile, hrun, build]
  cases b.condition b.maxDepth "" document <;> rfl

end Sift.Builder
