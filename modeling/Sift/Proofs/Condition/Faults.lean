import Sift.Proofs.Condition.Closure
import Sift.Proofs.Condition.Leaf
import Sift.Selector.Basic
import Sift.Regex.Engine

/-! What ends an evaluation in an error.

Leaves are asked from left to right as long as the answer is open. The trail of a condition
lists those that are asked, each with the context in which it is (`Condition.trail`). A leaf ends
in an error only if its version constraint is computed and comes to nothing that the tested text
can be held against (`Leaf.fails_evaluate_iff`); whatever else does not fit makes it answer no. So
an error is that of the first leaf of this kind on the trail, which is the end of the trail too
(`evaluate_faults`). -/
namespace Sift

variable {α β γ : Type}

/-! ### Answers and errors -/

/-- The evaluation ends in an error. -/
def Evaluation.Fails (x : Evaluation α β) (c : Context α) : Prop :=
  ∃ e, (x.outcome c).1 = .error e

/-- The evaluation gives an answer wherever it is begun. -/
def Evaluation.Answers (β : Type) (x : Evaluation α β) : Prop :=
  ∀ c, ∃ a, (x.outcome c).1 = .ok a

namespace Evaluation

open Condition

theorem answers_closed : Closed (α := α) Answers := by
  constructor
  · intro β a c
    exact ⟨a, rfl⟩
  · intro β γ x k hx hk c
    obtain ⟨a, ha⟩ := hx c
    rw [outcome_bind]
    rcases hout : x.outcome c with ⟨r, c'⟩
    rw [hout] at ha
    cases ha
    exact hk a c'

theorem Answers.get : Answers (α := α) (Context α) get := fun c => ⟨c, rfl⟩

theorem Answers.modify (f : Context α → Context α) : Answers Unit (modify f) :=
  fun _ => ⟨(), rfl⟩

/-- Whatever reasons are added, there is an answer. -/
theorem answers_closedFor (l : Leaf) : ClosedFor (α := α) l Answers :=
  ⟨answers_closed, .get, fun _ _ _ _ => .modify _⟩

theorem Answers.visit {ask : Evaluation α β} (h : Answers β ask) (item : α) (place : String) :
    Answers β (Condition.visit ask item place) := by
  intro c
  rw [outcome_visit]
  exact h _

theorem Answers.filtered {ask : Evaluation α Bool} (h : Answers Bool ask) :
    Answers Bool (Condition.filtered ask) :=
  answers_closed.bind .get fun _ => answers_closed.bind h fun answer =>
    answers_closed.bind (.modify _) fun _ => answers_closed.pure answer

theorem Answers.not_fails {x : Evaluation α β} (h : Answers β x) (c : Context α) :
    ¬ x.Fails c := by
  rintro ⟨e, he⟩
  obtain ⟨a, ha⟩ := h c
  rw [ha] at he
  cases he

/-- Where what comes next always answers, only the first step can fail. -/
theorem fails_bind_iff {x : Evaluation α β} {k : β → Evaluation α γ}
    (hk : ∀ a, Answers γ (k a)) (c : Context α) : (x >>= k).Fails c ↔ x.Fails c := by
  rw [Fails, Fails, outcome_bind]
  rcases x.outcome c with ⟨e | a, c'⟩
  · exact ⟨fun _ => ⟨e, rfl⟩, fun _ => ⟨e, rfl⟩⟩
  · refine iff_of_false ((hk a).not_fails c') ?_
    rintro ⟨_, ⟨⟩⟩

end Evaluation

/-! ### Leaves -/

/-- The text reads as a version. -/
def Version.Grammar.Reads : Version.Grammar → String → Prop
  | .semantic, text => ∃ v, Version.Semantic.parse text = .ok v
  | .date, text => ∃ v, Version.Calendar.parse text = .ok v

/-- A computed constraint comes to nothing that the text could be held against: it is no text
itself, or the text is a version, and the constraint is none. -/
def Version.Grammar.Unusable (g : Version.Grammar) (f : Flags) (produced : Value)
    (tested : String) : Prop :=
  produced.text? = none ∨ ∃ constraint, produced.text? = some constraint ∧ g.Reads tested ∧
    ∀ k, Version.Constraint.parse g constraint f.includePrerelease ≠ .ok k

namespace Operator

open Evaluation Version.Grammar

/-- The constraint is computed for each target. -/
def ComputesConstraint (o : Operator) : Prop := ∃ g e, o = .version g (.function e)

variable [Viewable β]

theorem answers_patternOf [Viewable α] (f : Flags) (s : PatternSource) :
    Answers (α := α) (Option Pattern) (patternOf f s) := by
  cases s with
  | literal p => exact answers_closed.pure _
  | function e =>
    refine answers_closed.bind .get fun c => ?_
    cases (e.eval c.scope).text? with
    | none => exact answers_closed.pure _
    | some s => exact fun c => ⟨_, rfl⟩

theorem version_eq_error (g : Version.Grammar) (text : String)
    (constraint : Except ConfigError Version.Constraint) (e : ConfigError) :
    Verdict.version g text constraint = .error e ↔ constraint = .error e ∧ g.Reads text := by
  cases g with
  | semantic =>
    simp only [Verdict.version, Version.Grammar.Reads]
    cases Version.Semantic.parse text with
    | error _ => simp
    | ok v => cases constraint <;> simp [bind, Except.bind]
  | date =>
    simp only [Verdict.version, Version.Grammar.Reads]
    cases Version.Calendar.parse text with
    | error _ => simp
    | ok v => cases constraint <;> simp [bind, Except.bind]

theorem constraintOf_eq_error (g : Version.Grammar) (f : Flags) (text : String) :
    (∃ e, constraintOf g f text = .error e) ↔
      ∀ k, Version.Constraint.parse g text f.includePrerelease ≠ .ok k := by
  unfold constraintOf
  cases Version.Constraint.parse g text f.includePrerelease with
  | ok k => simp
  | error e => simp

theorem fails_liftExcept_iff (r : Except ConfigError Verdict) (c : Context α) :
    (testVersion.liftExcept r : Evaluation α Verdict).Fails c ↔ ∃ e, r = .error e := by
  cases r with
  | ok verdict => exact iff_of_false ((answers_closed.pure verdict).not_fails c) (by simp)
  | error e => exact iff_of_true ⟨e, rfl⟩ ⟨e, rfl⟩

theorem answers_literal [Viewable α] (f : Flags) (g : Version.Grammar) (k : Version.Constraint) (v : β) :
    Answers (α := α) Verdict (testVersion f g (.literal k) v) := by
  unfold testVersion
  cases View.text? v with
  | none => exact answers_closed.pure _
  | some text =>
    dsimp only
    cases hversion : Verdict.version g text (.ok k) with
    | ok verdict => exact answers_closed.pure _
    | error e => exact absurd ((version_eq_error g text _ e).1 hversion).1 (fun h => nomatch h)

theorem fails_testVersion_iff [Viewable α] (f : Flags) (g : Version.Grammar) (e : Function.Expr) (v : β)
    (c : Context α) : (testVersion f g (.function e) v : Evaluation α Verdict).Fails c ↔
      ∃ tested, View.text? v = some tested ∧ g.Unusable f (e.eval c.scope) tested := by
  unfold testVersion
  cases View.text? v with
  | none => exact iff_of_false ((answers_closed.pure _).not_fails c) (by simp)
  | some tested =>
    simp only [Option.some.injEq, exists_eq_left', Unusable]
    rw [Fails, Condition.outcome_bind, Condition.outcome_get]
    dsimp only
    rw [← Fails]
    cases (e.eval c.scope).text? with
    | none => exact ⟨fun _ => .inl rfl, fun _ => ⟨_, rfl⟩⟩
    | some constraint =>
      simp only [fails_liftExcept_iff, version_eq_error, exists_and_right, constraintOf_eq_error,
        reduceCtorEq, false_or, Option.some.injEq, exists_eq_left']
      exact and_comm

/-- Where the constraint of a version is not computed, all operators come to a verdict. -/
theorem answers_test [Viewable α] {o : Operator} (h : ¬ o.ComputesConstraint) (f : Flags) (path : String)
    (v : β) : Answers (α := α) Verdict (o.test f path v) := by
  refine (answers_closedFor ⟨o, none, f⟩).test (answers_patternOf f) (fun g s ho => ?_) path
  cases s with
  | literal k => exact answers_literal f g k v
  | function e => exact absurd ⟨g, e, ho⟩ h

end Operator

/-- The text that a tested value is. -/
def Tested.text? [Viewable α] : Tested α → Option String
  | .target v => View.text? v
  | .made v => View.text? v

namespace Leaf

open Condition Evaluation Operator

variable [Viewable α]

/-- The text that a leaf tests, where its operand leads to one. -/
def text? (l : Leaf) (c : Context α) : Option String :=
  match l.subject with
  | none => none
  | some (.field path) => (c.resolve path).bind Tested.text?
  | some .name => c.name?.map Prod.fst
  | some .type => c.type?.map Prod.fst
  | some (.value p) => View.text? (p.value c.scope)

/-- The leaf holds a text against a computed constraint that cannot be used for it. -/
def Misconfigured (l : Leaf) (c : Context α) : Prop :=
  ∃ g e tested, l.operator = .version g (.function e) ∧ l.text? c = some tested ∧
    g.Unusable l.flags (e.eval c.scope) tested

theorem answers_evaluate {l : Leaf} (h : ¬ l.operator.ComputesConstraint) :
    Answers (α := α) Bool l.evaluate :=
  (answers_closedFor l).evaluate fun _ _ path v => answers_test h l.flags path v

omit [Viewable α] in
theorem answers_judged {value : Type} (operand : Operand value) (verdict : Verdict) :
    Answers (α := α) Bool (judged operand verdict) := by
  cases verdict with
  | fail message => exact answers_closed.bind (.modify _) fun _ => answers_closed.pure _
  | _ => exact answers_closed.pure _

theorem fails_tried_iff {l : Leaf} {g : Version.Grammar} {e : Function.Expr}
    (h : l.operator = .version g (.function e)) (operand : Operand α) (c : Context α) :
    (l.tried operand).Fails c ↔ ∃ tested, operand.value.text? = some tested ∧
      g.Unusable l.flags (e.eval c.scope) tested := by
  rw [tried, fails_bind_iff (answers_judged operand), h]
  cases operand.value with
  | target v => exact fails_testVersion_iff l.flags g e v c
  | made v => exact fails_testVersion_iff l.flags g e v c

theorem fails_evaluateOperand_iff {l : Leaf} {g : Version.Grammar} {e : Function.Expr}
    (h : l.operator = .version g (.function e)) (c : Context α) :
    l.evaluateOperand.Fails c ↔ ∃ tested, l.text? c = some tested ∧
      g.Unusable l.flags (e.eval c.scope) tested := by
  have none {c' : Context α} : ¬ (pure false : Evaluation α Bool).Fails c' :=
    (answers_closed.pure false).not_fails c'
  rw [evaluateOperand_eq, Fails, outcome_bind]
  unfold operand? text?
  rw [outcome_bind, outcome_get]
  cases l.subject with
  | none => exact iff_of_false none (by simp)
  | some s =>
    cases s with
    | field path =>
      dsimp only
      cases c.resolve path with
      | none => exact iff_of_false none (by simp)
      | some v => exact fails_tried_iff h _ c
    | name =>
      dsimp only
      cases c.name? with
      | none => exact iff_of_false none (by simp)
      | some found => exact fails_tried_iff h _ c
    | type =>
      dsimp only
      cases c.type? with
      | none => exact iff_of_false none (by simp)
      | some found => exact fails_tried_iff h _ c
    | value p => exact fails_tried_iff h _ c

/-- A leaf ends in an error where it is misconfigured, and nowhere else. -/
theorem fails_evaluate_iff (l : Leaf) (c : Context α) :
    l.evaluate.Fails c ↔ l.Misconfigured c := by
  by_cases h : l.operator.ComputesConstraint
  · obtain ⟨g, e, ho⟩ := h
    have hevaluate : l.evaluate.outcome c = l.evaluateOperand.outcome c := by
      unfold evaluate
      rw [ho]
      rfl
    rw [Fails, hevaluate]
    refine (fails_evaluateOperand_iff ho c).trans ?_
    rw [Misconfigured, ho]
    simp
  · refine iff_of_false ((answers_evaluate h).not_fails c) ?_
    rintro ⟨g, e, _, ho, -⟩
    exact h ⟨g, e, ho⟩

end Leaf

/-! ### Trails -/

/-- Leaves in the order in which they are asked, each with the context in which it is. -/
abbrev Trail (α : Type) := List (Leaf × Context α)

/-- What is asked by an evaluation, and then by what comes next after its answer. Nothing comes
next after an error. -/
def followed (t : Context α → Trail α) (x : Evaluation α β) (next : β → Context α → Trail α)
    (c : Context α) : Trail α :=
  t c ++ match x.outcome c with
    | (.ok answer, c') => next answer c'
    | (.error _, _) => []

/-- After this answer of a child, the next child is asked. -/
def Combinator.goesOn : Combinator → Bool → Bool
  | .allOf, answer => answer
  | .anyOf, answer => !answer
  | .not, _ => false
  | .when, _ => false

namespace Condition

/-- Items are entered one after another. Without a quantifier, the first for which the answer is no
is the last. -/
def trailItems (t : Context α → Trail α) (ask : Evaluation α (Option Bool)) (path : String)
    (q : Option Quantifier) : Nat → List α → Context α → Trail α
  | _, [] => fun _ => []
  | i, item :: rest =>
    followed (fun c => t (c.enter item s!"{path}[{i}]")) (visit ask item s!"{path}[{i}]")
      fun
        | some false => if q.isNone then fun _ => [] else trailItems t ask path q (i + 1) rest
        | _ => trailItems t ask path q (i + 1) rest

variable [Viewable α]

mutual

/-- The leaves that a condition asks. An item is asked for the filter first, and for the group if
it counts. -/
def trail : Condition → Context α → Trail α
  | .leaf _ l => fun c => [(l, c)]
  | .group _ k children => trailEach k children
  | .forEach _ k children field w q => fun c =>
    trailItems
      (followed (trailFilter w) (evaluateFilter w) fun counts =>
        if counts then trailEach k children else fun _ => [])
      (askItem (evaluateFilter w) (combine k (evaluateEach children))) (itemsPath field) q 0
      (itemsOf field c) c
termination_by structural cond => cond

def trailEach (k : Combinator) : List Condition → Context α → Trail α
  | [] => fun _ => []
  | child :: rest =>
    followed child.trail child.evaluate fun answer =>
      if k.goesOn answer then trailEach k rest else fun _ => []
termination_by structural children => children

def trailFilter : Option Condition → Context α → Trail α
  | none => fun _ => []
  | some w => w.trail
termination_by structural w => w

end

end Condition

/-! ### From the parts to the whole -/

/-- A way to tie evaluations to their trails that holds of answers, goes on with them, and does not
depend on where an item is entered. -/
structure Evaluation.Trailed
    (M : (β : Type) → Evaluation α β → (Context α → Trail α) → Prop) : Prop where
  pure : ∀ {β : Type} (a : β), M β (pure a) fun _ => []
  bind : ∀ {β γ : Type} {x : Evaluation α β} {t : Context α → Trail α} {k : β → Evaluation α γ}
    {next : β → Context α → Trail α}, M β x t → (∀ a, M γ (k a) (next a)) →
    M γ (x >>= k) (followed t x next)
  visit : ∀ {β : Type} {x : Evaluation α β} {t : Context α → Trail α}, M β x t →
    ∀ (item : α) (place : String),
      M β (Condition.visit x item place) fun c => t (c.enter item place)

/-- Nothing is asked after the answer. -/
theorem followed_nothing (t : Context α → Trail α) (x : Evaluation α β) :
    followed t x (fun _ _ => []) = t := by
  funext c
  rw [followed]
  rcases x.outcome c with ⟨e | a, c'⟩ <;> exact List.append_nil _

namespace Evaluation.Trailed

open Condition

variable {M : (β : Type) → Evaluation α β → (Context α → Trail α) → Prop}

theorem map (h : Trailed M) {x : Evaluation α β} {t : Context α → Trail α} (hx : M β x t)
    (f : β → γ) : M γ (f <$> x) t := by
  have hmap := h.bind hx fun a => h.pure (f a)
  rwa [followed_nothing, bind_pure_comp] at hmap

theorem askItem (h : Trailed M) {w ask : Evaluation α Bool} {t s : Context α → Trail α}
    (hw : M Bool w t) (hask : M Bool ask s) : M (Option Bool) (Condition.askItem w ask)
      (followed t w fun counts => if counts then s else fun _ => []) := by
  refine h.bind hw fun counts => ?_
  cases counts with
  | true => exact h.map hask some
  | false => exact h.pure none

theorem overItems (h : Trailed M) {ask : Evaluation α (Option Bool)} {t : Context α → Trail α}
    (hask : M (Option Bool) ask t) (path : String) (q : Option Quantifier) (i passed : Nat)
    (items : List α) :
    M Bool (Condition.overItems ask path q i passed items) (trailItems t ask path q i items) := by
  induction items generalizing i passed with
  | nil => exact h.pure _
  | cons item rest ih =>
    rw [overItems_cons]
    refine h.bind (h.visit hask item _) fun answer => ?_
    match answer, q with
    | none, _ => exact ih (i + 1) passed
    | some true, _ => exact ih (i + 1) (passed + 1)
    | some false, none => exact h.pure false
    | some false, some q => exact ih (i + 1) passed

variable [Viewable α]

/-- A group has the trail that its children have one after another, as long as it goes on. -/
theorem combine (h : Trailed M) {k : Combinator} {t : Condition → Context α → Trail α}
    {each : List Condition → Context α → Trail α}
    (hcons : ∀ child rest, each (child :: rest) = followed (t child) child.evaluate fun answer =>
      if k.goesOn answer then each rest else fun _ => [])
    (hnil : each [] = fun _ => []) {children : List Condition}
    (hchildren : ∀ child ∈ children, M Bool child.evaluate (t child)) :
    M Bool (Condition.combine k (evaluateEach children)) (each children) := by
  induction children with
  | nil =>
    rw [hnil]
    cases k <;> exact h.pure _
  | cons child rest ih =>
    obtain ⟨hchild, hrest⟩ := List.forall_mem_cons.1 hchildren
    rw [evaluateEach, hcons]
    cases k with
    | allOf =>
      refine h.bind hchild fun answer => ?_
      cases answer with
      | true => exact ih hrest
      | false => exact h.pure false
    | anyOf =>
      refine h.bind hchild fun answer => ?_
      cases answer with
      | true => exact h.pure true
      | false => exact ih hrest
    | not =>
      rw [Condition.combine, ← bind_pure_comp]
      exact h.bind hchild fun answer => h.pure _
    | when =>
      have hpure := h.bind hchild fun answer => h.pure answer
      rw [bind_pure] at hpure
      exact hpure

end Evaluation.Trailed

/-! ### The end of a trail -/

section Ends

variable [Viewable α]

/-- No leaf of the trail is misconfigured. -/
def Trail.Quiet (t : Trail α) : Prop := ∀ s ∈ t, ¬ s.1.Misconfigured s.2

/-- The first leaf of the trail that is misconfigured is its last one, and the error is that of
this leaf. -/
def Trail.EndsIn (t : Trail α) (e : ConfigError) : Prop :=
  ∃ (earlier : Trail α) (l : Leaf) (c : Context α), t = earlier ++ [(l, c)] ∧ earlier.Quiet ∧
    l.Misconfigured c ∧ (l.evaluate.outcome c).1 = .error e

/-- What comes of an evaluation that has asked the leaves of a trail. -/
def Trail.Ends (t : Trail α) : Except ConfigError β → Prop
  | .ok _ => t.Quiet
  | .error e => t.EndsIn e

theorem Trail.quiet_nil : Trail.Quiet (α := α) [] := fun _ hs => absurd hs List.not_mem_nil

theorem Trail.Quiet.append {t more : Trail α} (ht : t.Quiet) (hmore : more.Quiet) :
    (t ++ more).Quiet :=
  List.forall_mem_append.2 ⟨ht, hmore⟩

theorem Trail.Quiet.before {t more : Trail α} (ht : t.Quiet) {r : Except ConfigError β}
    (hmore : more.Ends r) : (t ++ more).Ends r := by
  cases r with
  | ok a => exact ht.append hmore
  | error e =>
    obtain ⟨earlier, l, c, rfl, hearlier, hl, he⟩ := hmore
    exact ⟨t ++ earlier, l, c, (List.append_assoc ..).symm, ht.append hearlier, hl, he⟩

/-- The trail is that of the evaluation, as far as its end can tell. -/
def Evaluation.Follows (x : Evaluation α β) (t : Context α → Trail α) : Prop :=
  ∀ c, (t c).Ends (x.outcome c).1

namespace Evaluation.Follows

open Condition

theorem pure (a : β) : (Pure.pure a : Evaluation α β).Follows fun _ => [] :=
  fun _ => Trail.quiet_nil

theorem leaf (l : Leaf) : (l.evaluate : Evaluation α Bool).Follows fun c => [(l, c)] := by
  intro c
  cases hout : (l.evaluate.outcome c).1 with
  | ok a =>
    intro s hs
    obtain rfl := List.mem_singleton.1 hs
    rw [← l.fails_evaluate_iff c, Fails, hout]
    simp
  | error e =>
    exact ⟨[], l, c, rfl, Trail.quiet_nil, (l.fails_evaluate_iff c).1 ⟨e, hout⟩, hout⟩

theorem bind {x : Evaluation α β} {t : Context α → Trail α} {k : β → Evaluation α γ}
    {next : β → Context α → Trail α} (hx : x.Follows t) (hk : ∀ a, (k a).Follows (next a)) :
    (x >>= k).Follows (followed t x next) := by
  intro c
  have hend := hx c
  rw [followed, outcome_bind]
  rcases hout : x.outcome c with ⟨e | a, c'⟩ <;> rw [hout] at hend
  · rw [List.append_nil]
    exact hend
  · exact hend.before (hk a c')

theorem visit {x : Evaluation α β} {t : Context α → Trail α} (hx : x.Follows t) (item : α)
    (place : String) :
    (Condition.visit x item place).Follows fun c => t (c.enter item place) := by
  intro c
  rw [outcome_visit]
  exact hx _

theorem filtered {x : Evaluation α Bool} {t : Context α → Trail α} (hx : x.Follows t) :
    (Condition.filtered x).Follows t := by
  intro c
  have hend := hx c
  rw [outcome_filtered]
  rcases hout : x.outcome c with ⟨e | answer, c'⟩ <;> rw [hout] at hend <;> exact hend

end Evaluation.Follows

theorem Evaluation.trailed_follows :
    Trailed (α := α) fun _ x t => x.Follows t :=
  ⟨Follows.pure, Follows.bind, Follows.visit⟩

end Ends

/-! ### Conditions -/

namespace Condition

open Evaluation

mutual

/-- All leaves of a condition, asked or not. -/
def leaves : Condition → List Leaf
  | .leaf _ l => [l]
  | .group _ _ children => leavesEach children
  | .forEach _ _ children _ w _ => leavesEach children ++ leavesFilter w
termination_by structural cond => cond

def leavesEach : List Condition → List Leaf
  | [] => []
  | child :: rest => child.leaves ++ leavesEach rest
termination_by structural children => children

def leavesFilter : Option Condition → List Leaf
  | none => []
  | some w => w.leaves
termination_by structural w => w

end

theorem mem_leavesEach {l : Leaf} {child : Condition} {children : List Condition}
    (hchild : child ∈ children) (hl : l ∈ child.leaves) : l ∈ leavesEach children := by
  induction hchild with
  | head rest => exact List.mem_append_left _ hl
  | tail first _ ih => exact List.mem_append_right _ ih

variable [Viewable α]

theorem follows_trail (cond : Condition) : (cond.evaluate (α := α)).Follows cond.trail := by
  induction cond using Condition.nested with
  | leaf path l => exact .leaf l
  | group path k children ih => exact trailed_follows.combine (fun _ _ => rfl) rfl ih
  | forEach path k children field w q ih ihw =>
    have hfilter : (evaluateFilter (α := α) w).Follows (trailFilter w) := by
      cases w with
      | none => exact .pure true
      | some v => exact (ihw v rfl).filtered
    have hgroup : (combine (α := α) k (evaluateEach children)).Follows (trailEach k children) :=
      trailed_follows.combine (fun _ _ => rfl) rfl ih
    exact fun c => trailed_follows.overItems (trailed_follows.askItem hfilter hgroup) _ q 0 0
      (itemsOf field c) c

theorem answers_of_leaves {cond : Condition}
    (h : ∀ l ∈ cond.leaves, ¬ l.operator.ComputesConstraint) :
    Answers (α := α) Bool cond.evaluate := by
  induction cond using Condition.nested with
  | leaf path l => exact l.answers_evaluate (h l List.mem_cons_self)
  | group path k children ih =>
    refine answers_closed.combine k (forall_mem_evaluateEach.2 fun child hchild => ?_)
    exact ih child hchild fun l hl => h l (mem_leavesEach hchild hl)
  | forEach path k children field w q ih ihw =>
    have hgroup : Answers (α := α) Bool (combine k (evaluateEach children)) :=
      answers_closed.combine k (forall_mem_evaluateEach.2 fun child hchild =>
        ih child hchild fun l hl => h l (List.mem_append_left _ (mem_leavesEach hchild hl)))
    have hfilter : Answers (α := α) Bool (evaluateFilter w) := by
      cases w with
      | none => exact answers_closed.pure true
      | some v => exact (ihw v rfl fun l hl => h l (List.mem_append_right _ hl)).filtered
    intro c
    exact answers_closed.overItems q 0 0
      (fun _ item _ => (answers_closed.askItem hfilter hgroup).visit item _) c

end Condition

/-- **An evaluation ends in an error where the leaves that it asks come to one whose version
constraint is computed and cannot be used, and nowhere else.** The first such leaf is the last
that is asked, and its error is the error. So a condition none of whose leaves computes a
constraint gives an answer for every target. -/
theorem evaluate_faults [Viewable α] (cond : Condition) (c : Context α) :
    ((∃ e, (cond.evaluate.outcome c).1 = .error e) ↔
      ∃ s ∈ cond.trail c, s.1.Misconfigured s.2) ∧
    (∀ e, (cond.evaluate.outcome c).1 = .error e →
      ∃ (earlier : Trail α) (l : Leaf) (d : Context α), cond.trail c = earlier ++ [(l, d)] ∧
        (∀ s ∈ earlier, ¬ s.1.Misconfigured s.2) ∧ l.Misconfigured d ∧
        (l.evaluate.outcome d).1 = .error e) ∧
    ((∀ l ∈ cond.leaves, ¬ l.operator.ComputesConstraint) → ∀ name message,
      ((⟨name, cond⟩ : Selector).evaluateIn c).1.outcome ≠ .configError message) := by
  have hend := cond.follows_trail c
  refine ⟨⟨?_, ?_⟩, ?_, ?_⟩
  · rintro ⟨e, he⟩
    rw [he] at hend
    obtain ⟨earlier, l, d, htrail, -, hl, -⟩ := hend
    exact ⟨(l, d), htrail ▸ List.mem_append_right _ List.mem_cons_self, hl⟩
  · rintro ⟨s, hs, hmis⟩
    cases hout : (cond.evaluate.outcome c).1 with
    | ok answer =>
      rw [hout] at hend
      exact absurd hmis (hend s hs)
    | error e => exact ⟨e, rfl⟩
  · intro e he
    rw [he] at hend
    exact hend
  · intro hleaves name message hout
    obtain ⟨answer, hanswer⟩ := Condition.answers_of_leaves hleaves c
    have hofAnswer : Outcome.ofAnswer (cond.evaluate.outcome c).1 = .configError message := hout
    rw [hanswer] at hofAnswer
    cases answer <;> cases hofAnswer

/-- In `anyOf`, a child that holds keeps the one behind it from being asked. -/
example : let set : Leaf := ⟨.hasValue true, some (.value (.literal (.text "1.0.0"))),
      ⟨false, false, false, false, false, false⟩⟩
    let computed : Leaf := { set with operator := .version .semantic (.function (.constant .null)) }
    let trail (k : Combinator) := (Condition.group "" k [.leaf "" set, .leaf "" computed]).trail
      (Context.of Regex.engine Value.null {} ⟨0, 0⟩)
    (trail .anyOf).map (·.1.operator.name) = ["hasValue"] ∧
      (trail .allOf).map (·.1.operator.name) = ["hasValue", "version"] := ⟨rfl, rfl⟩

end Sift
