import Sift.Path.Compile
import Sift.Path.Evaluate

/-! Formulas: what the predicate of a filter says, and how it may be written.

A formula joins relations by `!`, `&&` and `||`. Its value is the Boolean one, given
which relations hold, and a relation holds or not by the values that its paths lead to.

`Writes` says which token lists write which formula. It has a level for each strength of
binding: a disjunction is made of conjunctions and a conjunction of terms, both grow to
the right, so that only what stands on the right of an operator has to be in a group for
being joined by the same one; and a term is a relation, a negated term or a group, which
may hold any formula, needed or not. At most `nestingLimit` groups and negations may be
open around a relation. The filters inside of a path are written in the same way. -/
namespace Sift.Path

/-! ### Formulas -/

/-- What a filter may ask of a candidate: whether a path leads anywhere, or how the first
value of a path compares. -/
inductive Relation where
  | resolves (path : Program)
  | compare (op : Comparison) (left : Program) (right : Operand)

inductive Formula where
  | relation (r : Relation)
  | not (a : Formula)
  | and (a b : Formula)
  | or (a b : Formula)

def Relation.predicate : Relation → Predicate
  | .resolves path => .resolves path
  | .compare op left right => .compare op left right

namespace Formula

/-- The Boolean value of a formula, given which relations hold. -/
def value (holds : Relation → Bool) : Formula → Bool
  | .relation r => holds r
  | .not a => !a.value holds
  | .and a b => a.value holds && b.value holds
  | .or a b => a.value holds || b.value holds

/-- The formula as the predicate of a program. -/
def predicate : Formula → Predicate
  | .relation r => r.predicate
  | .not a => .not a.predicate
  | .and a b => .and a.predicate b.predicate
  | .or a b => .or a.predicate b.predicate

end Formula

section Meaning

variable {α : Type} [Viewable α]

/-- The first value that a path leads to from a candidate `v`. -/
def first? (o : QueryOptions) (root : α) (path : Program) (v : α) : Option α :=
  (resolve o root path v).values.head?

/-- A relation holds of a candidate. A path that leads nowhere is in no relation to
anything, not even a different value. -/
def Relation.holds (o : QueryOptions) (root : α) (v : α) : Relation → Bool
  | .resolves path => (resolve o root path v).found
  | .compare op left (.literal w) =>
    (first? o root left v).any fun a => compareValues o op a w
  | .compare _ left (.pattern _ p) =>
    (first? o root left v).any fun a =>
      (View.text? a).any fun text => p.isMatch text o.caseSensitive
  | .compare op left (.path right) =>
    match first? o root left v, first? o root right v with
    | some a, some b => compareValues o op a b
    | _, _ => false

theorem test_relation (o : QueryOptions) (root : α) (r : Relation) (v : α) :
    test o root r.predicate v = r.holds o root v := by
  match r with
  | .resolves path => rfl
  | .compare op left right =>
    show test o root (.compare op left right) v = _
    rw [test]
    cases right with
    | literal w =>
      rw [Relation.holds, first?]
      cases (resolve o root left v).values <;> rfl
    | pattern text p =>
      rw [Relation.holds, first?]
      cases (resolve o root left v).values <;> rfl
    | path right =>
      rw [Relation.holds, first?, first?]
      cases (resolve o root left v).values with
      | nil => rfl
      | cons a _ =>
        show testOperand o root op a (.path right) v = _
        rw [testOperand]
        cases (resolve o root right v).values <;> rfl

/-- The predicate of a formula holds where the formula is true of the candidate. -/
theorem test_predicate (o : QueryOptions) (root : α) (f : Formula) (v : α) :
    test o root f.predicate v = f.value (Relation.holds o root v) := by
  induction f with
  | relation r => exact test_relation o root r v
  | not a ih => rw [Formula.predicate, test, Formula.value, ih]
  | and a b iha ihb => rw [Formula.predicate, test, Formula.value, iha, ihb]
  | or a b iha ihb => rw [Formula.predicate, test, Formula.value, iha, ihb]

end Meaning

/-! ### Writings -/

/-- The references that a path may start from. -/
def Token.isReference : Token → Bool
  | .root | .current => true
  | _ => false

/-- Tokens of different kinds are different. -/
theorem ne_of_kind {kind : Token → Bool} {t u : Token} (ht : kind t = true) (hu : kind u = false) :
    t ≠ u := by
  intro heq
  rw [heq, hu] at ht
  cases ht

/-- The literals, by what they are as the right side of `op`. On the right of `~=` a text
is a pattern, and has to be one for both ways to treat case. -/
inductive Literal (s : Setting) (op : Comparison) : Token → Operand → Prop where
  | truth (b : Bool) : Literal s op (.truth b) (.literal (.bool b))
  | integer (i : Int) : Literal s op (.integer i) (.literal (.int i))
  | text (t : String) : op ≠ .regex → Literal s op (.text t) (.literal (.text t))
  | pattern {t p} : op = .regex → casedPattern s t = .ok p → Literal s op (.text t) (.pattern t p)

/-- The parts of a predicate. `open_` counts the groups and negations around a part. -/
inductive Phrase where
  /-- What a path goes on with. -/
  | selectors (segments : List Segment)
  | path (p : Program)
  | operand (op : Comparison) (right : Operand)
  | relation (r : Relation)
  | term (open_ : Nat) (f : Formula)
  | conjunction (open_ : Nat) (f : Formula)
  | disjunction (open_ : Nat) (f : Formula)

inductive Writes (s : Setting) : Phrase → List Token → Prop where
  | nil : Writes s (.selectors []) []
  | selector {t segment segments ts} : t.isSelector = true → t.segment? = some segment →
      Writes s (.selectors segments) ts →
      Writes s (.selectors (segment :: segments)) (t :: ts)
  | filter {f ts segments us} : Writes s (.disjunction 0 f) ts →
      Writes s (.selectors segments) us →
      Writes s (.selectors (.filter f.predicate :: segments))
        (.startFilter :: (ts ++ .endFilter :: us))
  | path {t segment segments ts} : t.isReference = true → t.segment? = some segment →
      Writes s (.selectors segments) ts →
      Writes s (.path (.mk (Text.trim s.source) (t :: ts) (segment :: segments))) (t :: ts)
  | literal {op t right} : Literal s op t right → Writes s (.operand op right) [t]
  | value {op p ts} : Writes s (.path p) ts → Writes s (.operand op (.path p)) ts
  | resolves {p ts} : Writes s (.path p) ts → Writes s (.relation (.resolves p)) ts
  | compare {op left right ts us} : Writes s (.path left) ts → Writes s (.operand op right) us →
      Writes s (.relation (.compare op left right)) (ts ++ .compare op :: us)
  | relation {n r ts} : n ≤ nestingLimit → Writes s (.relation r) ts →
      Writes s (.term n (.relation r)) ts
  | not {n f ts} : Writes s (.term (n + 1) f) ts → Writes s (.term n (.not f)) (.not :: ts)
  | group {n f ts} : Writes s (.disjunction (n + 1) f) ts →
      Writes s (.term n f) (.startGroup :: (ts ++ [.endGroup]))
  | term {n f ts} : Writes s (.term n f) ts → Writes s (.conjunction n f) ts
  | and {n a b ts us} : Writes s (.conjunction n a) ts → Writes s (.term n b) us →
      Writes s (.conjunction n (.and a b)) (ts ++ .and :: us)
  | conjunction {n f ts} : Writes s (.conjunction n f) ts → Writes s (.disjunction n f) ts
  | or {n a b ts us} : Writes s (.disjunction n a) ts → Writes s (.conjunction n b) us →
      Writes s (.disjunction n (.or a b)) (ts ++ .or :: us)

namespace Writes

/-- A phrase that is no deeper inside than `nestingLimit`, if it is more than a path. -/
def Shallow : Phrase → Prop
  | .term n _ | .conjunction n _ | .disjunction n _ => n ≤ nestingLimit
  | _ => True

/-- What holds of a relation holds around it, where fewer groups are open. -/
theorem shallow {s : Setting} {phrase : Phrase} {ts : List Token} (h : Writes s phrase ts) :
    Shallow phrase := by
  induction h with
  | relation hn => exact hn
  | not _ ih => exact Nat.le_of_succ_le ih
  | group _ ih => exact Nat.le_of_succ_le ih
  | term _ ih => exact ih
  | conjunction _ ih => exact ih
  | and _ _ ih => exact ih
  | or _ _ ih => exact ih
  | _ => trivial

end Writes

end Sift.Path
