import Sift.Path.Flat.Evaluate
import Sift.Proofs.Path.Flat.Compile

/-! Flat programs lead where their programs do.

In the flat form of a predicate operands come before what they are operands of, so a test that
goes from place to place comes to an end, never leaves the nodes, and answers as the predicate
does (`testAt?_stands`). So nothing that a path leads to depends on a test without an answer, and
the flat form of a program selects what the program selects (`evaluate?_flat`). -/
namespace Sift.Path

open Flat

/-! ### What is known -/

section Known

variable {α β : Type}

theorem gather?_some (next : β → Hits α) (vs : List β) :
    gather? (fun v => some (next v)) vs = some (.gather (vs.map next)) := by
  have hmap : vs.mapM (fun v => some (next v)) = some (vs.map next) := List.mapM_pure
  rw [gather?, hmap, Option.map_some]

theorem filter?_some (p : α → Bool) (vs : List α) :
    filter? (fun v => some (p v)) vs = some (vs.filter p) := by
  induction vs with
  | nil => rfl
  | cons v vs ih =>
    rw [filter?, ih, List.filter_cons]
    rfl

variable [Viewable α]

theorem descend?_some (next : α → Hits α) (name : String) (caseSensitive : Bool) (levels : Nat)
    (v : α) : descend? (fun v => some (next v)) name caseSensitive levels v =
      some (descend next name caseSensitive levels v) := by
  induction levels generalizing v with
  | zero => rfl
  | succ levels ih =>
    rw [descend?, descend, funext ih]
    have hmembers := gather?_some (fun m : String × α =>
      if name = "*" then (next m.2).join (descend next name caseSensitive levels m.2)
      else if sameName m.1 name caseSensitive then next m.2
      else descend next name caseSensitive levels m.2) (View.members v)
    have hitems := gather?_some (fun item =>
      if name = "*" then (next item).join (descend next name caseSensitive levels item)
      else descend next name caseSensitive levels item) (View.items v)
    simp only [apply_ite some] at hmembers hitems
    rw [apply_ite some, ← hmembers, ← hitems]
    rfl

theorem slice?_some (next : α → Hits α) (v : α) (start stop : Option Int) (step : Int) :
    slice? (fun v => some (next v)) v start stop step = some (slice next v start stop step) := by
  rw [slice?, slice]
  cases View.count? v with
  | none => rfl
  | some count =>
    have hitems : (sliceItems v count start stop step).mapM (fun v => some (next v)) =
        some ((sliceItems v count start stop step).map next) := List.mapM_pure
    dsimp only
    rw [hitems, apply_ite some, Option.bind_eq_bind, Option.bind_some, List.flatMap_map]
    rfl

/-- The hits behind a step, where those of the values one step further on are known. -/
theorem advance?_some (o : QueryOptions) (root v : α) {segment : Path.Segment} {step : Step}
    (h : segment.flat = .step step) (rest : List Path.Segment) :
    advance? o root (fun v => some (walk o root rest v)) v step =
      some (walk o root (segment :: rest) v) := by
  cases segment with
  | filter p => cases h
  | root | current => cases h; rfl
  | member name marked =>
    cases h
    rw [advance?, walk]
    cases View.field? v name (o.caseSensitive != marked) <;> rfl
  | index i =>
    cases h
    rw [advance?, walk]
    cases View.item? v i <;> rfl
  | descendant name marked => cases h; exact descend?_some _ _ _ _ _
  | slice start stop step => cases h; exact slice?_some _ _ _ _ _
  | _ => cases h; exact gather?_some _ _

end Known

/-! ### Nodes -/

open Branching StandsFor

def Predicate.parts : Predicate → List Predicate
  | .and a b => [a, b]
  | .or a b => [a, b]
  | .not a => [a]
  | _ => []

theorem Predicate.sizeOf_part {p part : Predicate} (h : part ∈ p.parts) :
    sizeOf part < sizeOf p := by
  cases p with
  | resolves path => cases h
  | compare op left right => cases h
  | and a b | or a b =>
    have hmem : part = a ∨ part = b := by simpa [parts] using h
    simp only [and.sizeOf_spec, or.sizeOf_spec]
    obtain rfl | rfl := hmem <;> omega
  | not a =>
    obtain rfl := List.mem_singleton.1 h
    rw [not.sizeOf_spec]
    omega

instance : Branching Predicate where
  parts := Predicate.parts
  sizeOf_lt _ _ := Predicate.sizeOf_part

/-- A node is the one for a predicate, but for the operands. -/
inductive Flat.Node.Shows : Flat.Node → Predicate → Prop where
  | resolves (path : Path.Program) : Shows (.resolves path.flat) (.resolves path)
  | compare (op : Comparison) (left : Path.Program) (right : Path.Operand) :
      Shows (.compare op left.flat right.flat) (.compare op left right)
  | and (i j : Nat) (a b : Predicate) : Shows (.and i j) (.and a b)
  | or (i j : Nat) (a b : Predicate) : Shows (.or i j) (.or a b)
  | not (i : Nat) (a : Predicate) : Shows (.not i) (.not a)

instance : StandsFor Flat.Node Predicate where
  places := Flat.Node.places
  Shows := Flat.Node.Shows

theorem Predicate.listFrom_enlists (nodes : List Flat.Node) (p : Predicate) :
    Enlists nodes (p.listFrom nodes) [(p.listFrom nodes).length - 1] [p] := by
  match p with
  | .resolves path => exact (Enlists.nil nodes).close (.resolves path)
  | .compare op left right => exact (Enlists.nil nodes).close (.compare op left right)
  | .and a b =>
    have hoperands := (a.listFrom_enlists nodes).append (b.listFrom_enlists (a.listFrom nodes))
    exact Enlists.close hoperands (.and _ _ a b)
  | .or a b =>
    have hoperands := (a.listFrom_enlists nodes).append (b.listFrom_enlists (a.listFrom nodes))
    exact Enlists.close hoperands (.or _ _ a b)
  | .not a => exact Enlists.close (a.listFrom_enlists nodes) (.not _ a)

/-- The flat form of a predicate is a tree, and this tree is the predicate. -/
theorem Predicate.arena_flat (p : Predicate) : Arena p.flat.nodes p :=
  (p.listFrom_enlists []).arena

/-! ### Programs -/

section Programs

variable {α : Type} [Viewable α]

variable (o : QueryOptions) (root : α)

mutual

theorem walk?_flat (segments : List Segment) (v : α) :
    walk? o root (flatAll segments) v = some (walk o root segments v) := by
  match segments with
  | [] => rw [flatAll, walk?, walk]
  | segment :: rest =>
    have hrest : walk? o root (flatAll rest) = fun v => some (walk o root rest v) :=
      funext fun v => walk?_flat rest v
    cases segment with
    | filter p =>
      have htest : testAt? o root p.flat.nodes p.flat.nodes.length p.flat.root =
          fun v => some (test o root p v) := by
        have harena := p.arena_flat
        have hpos := harena.length_pos
        have hroot : p.flat.root < p.flat.nodes.length := Nat.sub_one_lt_of_lt hpos
        exact funext fun v => testAt?_stands p v harena.earlier harena.root hroot
      show walk? o root (.filter (.mk p.flat.nodes p.flat.root) :: flatAll rest) v = _
      rw [walk?, htest, filter?_some, hrest]
      exact gather?_some _ _
    | _ =>
      rw [flatAll, Segment.flat, walk?, hrest]
      exact advance?_some o root v rfl rest

/-- **A predicate is tested by going from place to place**, in as many steps as there are nodes
up to its own. -/
theorem testAt?_stands (p : Predicate) (v : α) {nodes : List Flat.Node}
    (hearlier : ∀ place (n : Flat.Node), nodes[place]? = some n → ∀ part ∈ n.places, part < place)
    {steps place : Nat} (hstands : Stands nodes place p) (hsteps : place < steps) :
    testAt? o root nodes steps place v = some (test o root p v) := by
  obtain ⟨steps, rfl⟩ := Nat.exists_eq_add_one_of_ne_zero (Nat.ne_zero_of_lt hsteps)
  cases hstands with
  | @intro _ n _ hplace hshows hparts =>
    -- What a node names comes before it, so the place falls with the steps.
    have hbelow : ∀ part ∈ n.places, part < steps := fun part hpart =>
      Nat.lt_of_lt_of_le (hearlier place n hplace part hpart) (Nat.le_of_lt_succ hsteps)
    rw [testAt?, hplace]
    cases hshows with
    | resolves path =>
      dsimp only
      rw [resolve?_flat path v, test]
      rfl
    | compare op left right =>
      dsimp only
      rw [resolve?_flat left v, test]
      show (match (resolve o root left v).values with | [] => _ | first :: _ => _) = _
      cases (resolve o root left v).values with
      | nil => rfl
      | cons first _ => exact testOperand?_flat op first right v
    | and i j a b | or i j a b =>
      cases hparts with
      | cons ha hrest =>
        cases hrest with
        | cons hb _ =>
          have ha := testAt?_stands a v hearlier ha (hbelow i List.mem_cons_self)
          have hb := testAt?_stands b v hearlier hb
            (hbelow j (List.mem_cons_of_mem _ List.mem_cons_self))
          dsimp only
          rw [ha, hb, test]
          cases test o root a v <;> rfl
    | not i a =>
      cases hparts with
      | cons ha _ =>
        have ha := testAt?_stands a v hearlier ha (hbelow i List.mem_cons_self)
        dsimp only
        rw [ha, test]
        rfl

theorem testOperand?_flat (op : Comparison) (left : α) (right : Operand) (v : α) :
    testOperand? o root op left right.flat v = some (testOperand o root op left right v) := by
  match right with
  | .literal value => rw [Operand.flat, testOperand?, testOperand]
  | .pattern text p => rw [Operand.flat, testOperand?, testOperand]
  | .path path =>
    rw [Operand.flat, testOperand?, testOperand, resolve?_flat path v]
    show (match (resolve o root path v).values with | [] => _ | right :: _ => _) = _
    cases (resolve o root path v).values <;> rfl

theorem resolve?_flat (path : Program) (v : α) :
    resolve? o root path.flat v = some (resolve o root path v) := by
  match path with
  | .mk source tokens segments =>
    rw [Program.flat, resolve?, resolve]
    exact walk?_flat segments v

end

theorem isSequence_flat (p : Program) : p.flat.isSequence = p.isSequence := by
  obtain ⟨source, tokens, segments⟩ := p
  show (flatAll segments).any Flat.Segment.isSequence = segments.any Segment.isSequence
  induction segments with
  | nil => rfl
  | cons segment rest ih =>
    have hsegment : segment.flat.isSequence = segment.isSequence := by cases segment <;> rfl
    rw [flatAll, List.any_cons, List.any_cons, ih, hsegment]

/-- **The flat form of a program selects what the program selects.** -/
theorem evaluate?_flat (p : Program) : p.flat.evaluate? o root = some (p.evaluate o root) := by
  rw [Flat.Program.evaluate?, resolve?_flat, isSequence_flat, Program.evaluate]
  dsimp only [Option.bind_eq_bind, Option.bind_some]
  split
  · rfl
  · split <;> rfl

end Programs

end Sift.Path
