import Sift.Proofs.Condition.Evaluate
import Sift.Proofs.Condition.Leaf

/-! Properties of evaluations that pass from the parts to the whole.

Groups are put together from their children, and the asking of items from the visits of single
items, by nothing but going on with the answer. So a property that single answers have, and
that goes on with the answer (`Closed`), is one of groups and of items as soon as it is one of
children and of visits; and what passes from the parts to the whole holds of all conditions,
however they are nested (`Condition.nested`). -/
namespace Sift

variable {α : Type}

/-- What holds of leaves, and passes from the children and the filter to the group, holds of all
conditions. -/
@[elab_as_elim]
theorem Condition.nested {P : Condition → Prop} (leaf : ∀ path l, P (.leaf path l))
    (group : ∀ path k children, (∀ child ∈ children, P child) → P (.group path k children))
    (forEach : ∀ path k children field w q, (∀ child ∈ children, P child) → (∀ v ∈ w, P v) →
      P (.forEach path k children field w q))
    (cond : Condition) : P cond := by
  refine @Condition.rec P (fun children => ∀ child ∈ children, P child) (fun w => ∀ v ∈ w, P v)
    leaf group forEach ?_ ?_ ?_ ?_ cond
  · exact fun _ h => absurd h List.not_mem_nil
  · exact fun _ _ ih ihs => List.forall_mem_cons.2 ⟨ih, ihs⟩
  · rintro _ ⟨⟩
  · rintro _ ih _ ⟨⟩
    exact ih

/-- A property of evaluations that holds of answers, and goes on with them. -/
structure Evaluation.Closed (M : (β : Type) → Evaluation α β → Prop) : Prop where
  pure : ∀ {β : Type} (a : β), M β (pure a)
  bind : ∀ {β γ : Type} {x : Evaluation α β} {k : β → Evaluation α γ}, M β x →
    (∀ a, M γ (k a)) → M γ (x >>= k)

namespace Condition

/-- One item is entered, asked, and left again. -/
def visit {β : Type} (ask : Evaluation α β) (item : α) (place : String) : Evaluation α β := do
  modify fun c => c.enter item place
  let answer ← tryCatch ask fun e => do
    modify Context.leave
    throw e
  modify Context.leave
  pure answer

theorem outcome_visit {β : Type} (ask : Evaluation α β) (item : α) (place : String)
    (c : Context α) : (visit ask item place).outcome c =
      ((ask.outcome (c.enter item place)).1, (ask.outcome (c.enter item place)).2.leave) := by
  rw [visit, outcome_bind, outcome_modify]
  simp only [outcome_bind, outcome_tryCatch]
  rcases ask.outcome (c.enter item place) with ⟨e | answer, c'⟩ <;> rfl

/-- What comes behind the answer of an item. -/
def afterItem (ask : Evaluation α (Option Bool)) (path : String) (q : Option Quantifier)
    (i passed : Nat) (rest : List α) : Option Bool → Evaluation α Bool
  | none => overItems ask path q (i + 1) passed rest
  | some true => overItems ask path q (i + 1) (passed + 1) rest
  | some false => if q.isNone then pure false else overItems ask path q (i + 1) passed rest

theorem overItems_cons (ask : Evaluation α (Option Bool)) (path : String)
    (q : Option Quantifier) (i passed : Nat) (item : α) (rest : List α) :
    overItems ask path q i passed (item :: rest) =
      visit ask item s!"{path}[{i}]" >>= afterItem ask path q i passed rest := by
  refine evaluation_ext fun c => ?_
  rw [outcome_overItems, outcome_bind, outcome_visit]
  rcases ask.outcome (c.enter item s!"{path}[{i}]") with ⟨e | _ | _ | _, c'⟩
  · rfl
  · rfl
  · cases q <;> rfl
  · rfl

theorem forall_mem_evaluateEach [Viewable α] {M : Evaluation α Bool → Prop}
    {children : List Condition} :
    (∀ ask ∈ evaluateEach children, M ask) ↔ ∀ child ∈ children, M child.evaluate := by
  induction children with
  | nil => exact ⟨fun _ _ h => absurd h List.not_mem_nil, fun _ _ h => absurd h List.not_mem_nil⟩
  | cons child rest ih => rw [evaluateEach, List.forall_mem_cons, List.forall_mem_cons, ih]

/-- The items are those that the field leads to before the first of them is entered. -/
theorem outcome_forEach [Viewable α] (path : String) (k : Combinator) (children : List Condition)
    (field : Path.Program) (w : Option Condition) (q : Option Quantifier) (c : Context α) :
    (forEach path k children field w q).evaluate.outcome c =
      (Condition.overItems (askItem (evaluateFilter w) (combine k (evaluateEach children)))
        (itemsPath field) q 0 0 (itemsOf field c)).outcome c := rfl

end Condition

namespace Evaluation.Closed

open Condition

variable {M : (β : Type) → Evaluation α β → Prop} {asks : List (Evaluation α Bool)}

theorem map (h : Closed M) {β γ : Type} {x : Evaluation α β} (f : β → γ) (hx : M β x) :
    M γ (f <$> x) := by
  rw [← bind_pure_comp]
  exact h.bind hx fun a => h.pure (f a)

theorem askAll (h : Closed M) (hasks : ∀ ask ∈ asks, M Bool ask) :
    M Bool (Condition.askAll asks) := by
  induction asks with
  | nil => exact h.pure true
  | cons ask rest ih =>
    obtain ⟨hask, hrest⟩ := List.forall_mem_cons.1 hasks
    refine h.bind hask fun answer => ?_
    cases answer with
    | true => exact ih hrest
    | false => exact h.pure false

theorem askAny (h : Closed M) (hasks : ∀ ask ∈ asks, M Bool ask) :
    M Bool (Condition.askAny asks) := by
  induction asks with
  | nil => exact h.pure false
  | cons ask rest ih =>
    obtain ⟨hask, hrest⟩ := List.forall_mem_cons.1 hasks
    refine h.bind hask fun answer => ?_
    cases answer with
    | true => exact h.pure true
    | false => exact ih hrest

theorem combine (h : Closed M) (k : Combinator) (hasks : ∀ ask ∈ asks, M Bool ask) :
    M Bool (Condition.combine k asks) := by
  cases k with
  | allOf => exact h.askAll hasks
  | anyOf => exact h.askAny hasks
  | not =>
    cases asks with
    | nil => exact h.pure false
    | cons ask rest => exact h.map _ (hasks ask List.mem_cons_self)
  | when =>
    cases asks with
    | nil => exact h.pure true
    | cons ask rest => exact hasks ask List.mem_cons_self

theorem askItem (h : Closed M) {counts ask : Evaluation α Bool} (hcounts : M Bool counts)
    (hask : M Bool ask) : M (Option Bool) (Condition.askItem counts ask) := by
  refine h.bind hcounts fun answer => ?_
  cases answer with
  | true => exact h.map some hask
  | false => exact h.pure none

/-- Items are counted from `i`. -/
theorem overItems (h : Closed M) {ask : Evaluation α (Option Bool)} {path : String}
    {items : List α} (q : Option Quantifier) (i passed : Nat)
    (hvisit : ∀ j item, items[j]? = some item →
      M (Option Bool) (visit ask item s!"{path}[{i + j}]")) :
    M Bool (Condition.overItems ask path q i passed items) := by
  induction items generalizing i passed with
  | nil => exact h.pure _
  | cons item rest ih =>
    have hrest : ∀ passed, M Bool (Condition.overItems ask path q (i + 1) passed rest) := by
      intro passed
      refine ih (i + 1) passed fun j item hj => ?_
      rw [Nat.add_right_comm i 1 j]
      exact hvisit (j + 1) item hj
    rw [overItems_cons]
    refine h.bind (hvisit 0 item rfl) fun answer => ?_
    match answer with
    | none => exact hrest passed
    | some true => exact hrest (passed + 1)
    | some false =>
      cases q with
      | none => exact h.pure false
      | some q => exact hrest passed

end Evaluation.Closed

/-! ### Leaves -/

/-- A leaf has two fields to name in its reasons: its own one, and the one that names a schema. -/
def Leaf.Names (l : Leaf) (operand : String) : Prop :=
  operand = Operator.schemaField ∨ ∃ field ∈ l.field?, field.source = operand

/-- A property of evaluations that also reading the context has, and adding a reason under a field
that the leaf may name. -/
structure Evaluation.ClosedFor (l : Leaf) (M : (β : Type) → Evaluation α β → Prop) : Prop
    extends Closed M where
  get : M (Context α) get
  addReason : ∀ origin operand message, (origin = .path → l.Names operand) →
    M Unit (Operator.addReason origin operand message)

namespace Evaluation.ClosedFor

open Operator Leaf

variable {l : Leaf} {M : (β : Type) → Evaluation α β → Prop} {value : Type}

theorem testSchema [Viewable value] (h : ClosedFor l M) (f : Flags) (schemas : List String)
    (v : value) : M Verdict (Operator.testSchema f schemas v) := by
  have unfit (message : String) :
      M Verdict (Operator.addReason .path schemaField message >>= fun _ => Pure.pure .unfit) :=
    h.bind (h.addReason _ _ message fun _ => .inl rfl) fun _ => h.pure Verdict.unfit
  unfold Operator.testSchema
  cases View.field? v schemaField false with
  | none => exact unfit _
  | some schema =>
    dsimp only
    cases View.text? schema with
    | none => exact unfit _
    | some actual =>
      dsimp only
      split
      · exact unfit _
      · exact h.pure _

theorem judged (h : ClosedFor l M) {operand : Operand value}
    (hnames : operand.origin = .path → l.Names operand.path) (verdict : Verdict) :
    M Bool (Leaf.judged operand verdict) := by
  cases verdict with
  | fail message => exact h.bind (h.addReason _ _ message hnames) fun _ => h.pure false
  | _ => exact h.pure _

variable [Viewable α]

/-- All operators but those that look up a pattern or may compute a constraint only read the
context, or find that a schema is missing. -/
theorem test [Viewable value] (h : ClosedFor l M) {o : Operator} {f : Flags} {v : value}
    (hpattern : ∀ s, M (Option Pattern) (patternOf f s))
    (hversion : ∀ g s, o = .version g s → M Verdict (testVersion f g s v)) (path : String) :
    M Verdict (o.test f path v) := by
  unfold Operator.test
  refine h.bind h.get fun c => ?_
  cases o with
  | «matches» negated s =>
    refine h.bind (hpattern s) fun p => ?_
    cases p with
    | none => exact h.pure _
    | some p => exact h.pure _
  | hasSchema schemas => exact h.testSchema f schemas v
  | version g s => exact hversion g s rfl
  | _ => exact h.pure _

/-- The operator of the leaf may be put to any test. -/
def Tests (l : Leaf) (M : (β : Type) → Evaluation α β → Prop) : Prop :=
  ∀ (value : Type) [Viewable value] (path : String) (v : value),
    M Verdict (l.operator.test l.flags path v)

theorem tried (h : ClosedFor l M) (htest : Tests l M) {operand : Operand α}
    (hnames : operand.origin = .path → l.Names operand.path) : M Bool (l.tried operand) := by
  refine h.bind ?_ (h.judged hnames)
  cases operand.value with
  | target v => exact htest _ _ v
  | made v => exact htest _ _ v

theorem evaluateOperand (h : ClosedFor l M) (htest : Tests l M) : M Bool l.evaluateOperand := by
  have hno : M Bool (Pure.pure false) := h.pure false
  rw [evaluateOperand_eq]
  unfold operand?
  rw [bind_assoc]
  refine h.bind h.get fun c => ?_
  cases hsubject : l.subject with
  | none =>
    rw [pure_bind]
    exact hno
  | some s =>
    cases s with
    | field path =>
      have hnames : l.Names path.source := .inr ⟨path, by rw [field?, hsubject]; rfl, rfl⟩
      dsimp only
      cases c.resolve path with
      | none =>
        dsimp only
        rw [bind_assoc]
        refine h.bind (h.addReason _ _ _ fun _ => hnames) fun _ => ?_
        rw [pure_bind]
        exact hno
      | some v =>
        dsimp only
        rw [pure_bind]
        exact h.tried htest fun _ => hnames
    | name =>
      rw [pure_bind]
      cases c.name? with
      | none => exact hno
      | some found => exact h.tried htest fun horigin => nomatch horigin
    | type =>
      rw [pure_bind]
      cases c.type? with
      | none => exact hno
      | some found => exact h.tried htest fun horigin => nomatch horigin
    | value p =>
      rw [pure_bind]
      exact h.tried htest fun horigin => nomatch horigin

/-- A leaf reads the context, tests its operand, and adds reasons under its fields. -/
theorem evaluate (h : ClosedFor l M) (htest : Tests l M) : M Bool l.evaluate := by
  unfold Leaf.evaluate
  split
  · unfold evaluateResolves
    cases hfield : l.field? with
    | none => exact h.pure false
    | some path =>
      refine h.bind h.get fun c => ?_
      dsimp only
      split
      · exact h.pure true
      · exact h.bind (h.addReason _ _ _ fun _ => .inr ⟨path, hfield, rfl⟩) fun _ => h.pure false
  · refine h.bind h.get fun c => ?_
    split
    · exact h.pure true
    · exact h.evaluateOperand htest

end Evaluation.ClosedFor

end Sift
