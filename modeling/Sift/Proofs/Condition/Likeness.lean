import Sift.Proofs.Condition.Closure
import Sift.Proofs.Condition.Mirror
import Sift.Selector.Basic

/-! Conditions give like reports on targets that look the same.

Two evaluations mirror each other when, from contexts that look the same, they come to the same
answer or the same error, and leave contexts that look the same again, with the same reasons in
them (`Mirrors`). That passes on through every step of an evaluation, from the operators over
leaves, groups and items to whole conditions (`mirrors_evaluate`). Values that an evaluation
makes itself are plain data on both sides, and equal. -/
namespace Sift

variable {α β : Type} {R : α → β → Prop}

/-- Related answers, or the same error. -/
inductive Answered {γ δ : Type} (S : γ → δ → Prop) :
    Except ConfigError γ → Except ConfigError δ → Prop where
  | error (e : ConfigError) : Answered S (.error e) (.error e)
  | ok {a : γ} {b : δ} : S a b → Answered S (.ok a) (.ok b)

theorem Answered.eq {γ : Type} {r r' : Except ConfigError γ} (h : Answered Eq r r') : r = r' := by
  cases h with
  | error e => rfl
  | ok hab => rw [hab]

/-- From contexts that look the same, two evaluations come to related answers and to contexts
that look the same. -/
def Evaluation.Mirrors {γ δ : Type} (R : α → β → Prop) (S : γ → δ → Prop) (x : Evaluation α γ)
    (y : Evaluation β δ) : Prop :=
  ∀ c d, c.Like R d → Answered S (x.outcome c).1 (y.outcome d).1 ∧
    (x.outcome c).2.Like R (y.outcome d).2

namespace Evaluation

open Condition

section Rules

variable {γ δ γ' δ' : Type} {S : γ → δ → Prop} {T : γ' → δ' → Prop}

theorem mirrors_pure {a : γ} {b : δ} (h : S a b) :
    Mirrors R S (pure a : Evaluation α γ) (pure b : Evaluation β δ) :=
  fun _ _ hcd => ⟨.ok h, hcd⟩

theorem mirrors_throw (e : ConfigError) :
    Mirrors R S (throw e : Evaluation α γ) (throw e : Evaluation β δ) :=
  fun _ _ hcd => ⟨.error e, hcd⟩

theorem mirrors_modify {f : Context α → Context α} {g : Context β → Context β}
    (h : ∀ c d, c.Like R d → (f c).Like R (g d)) :
    Mirrors R Eq (modify f : Evaluation α Unit) (modify g : Evaluation β Unit) :=
  fun c d hcd => ⟨.ok rfl, h c d hcd⟩

theorem Mirrors.bind {x : Evaluation α γ} {y : Evaluation β δ} {k : γ → Evaluation α γ'}
    {l : δ → Evaluation β δ'} (h : Mirrors R S x y) (hk : ∀ a b, S a b → Mirrors R T (k a) (l b)) :
    Mirrors R T (x >>= k) (y >>= l) := by
  intro c d hcd
  obtain ⟨hanswer, hlike⟩ := h c d hcd
  rw [outcome_bind, outcome_bind]
  rcases hx : x.outcome c with ⟨r, c'⟩
  rcases hy : y.outcome d with ⟨r', d'⟩
  rw [hx, hy] at hanswer hlike
  cases hanswer with
  | error e => exact ⟨.error e, hlike⟩
  | ok hab => exact hk _ _ hab c' d' hlike

/-- An evaluation that reads its context goes on in the same way where contexts look the
same. -/
theorem mirrors_get {k : Context α → Evaluation α γ} {l : Context β → Evaluation β δ}
    (h : ∀ c d, c.Like R d → Mirrors R S (k c) (l d)) : Mirrors R S (get >>= k) (get >>= l) := by
  intro c d hcd
  rw [outcome_bind, outcome_bind]
  exact h c d hcd c d hcd

theorem Mirrors.map {x : Evaluation α γ} {y : Evaluation β δ} {f : γ → γ'} {g : δ → δ'}
    (h : Mirrors R S x y) (hfg : ∀ a b, S a b → T (f a) (g b)) :
    Mirrors R T (f <$> x) (g <$> y) := by
  rw [← bind_pure_comp, ← bind_pure_comp]
  exact h.bind fun a b hab => mirrors_pure (hfg a b hab)

end Rules

/-! ### Operators -/

theorem mirrors_addReason (origin : Origin) (path message : String) :
    Mirrors R Eq (Operator.addReason origin path message : Evaluation α Unit)
      (Operator.addReason origin path message : Evaluation β Unit) :=
  mirrors_modify fun _ _ h => h.addReason origin path message

variable [Viewable α] [Viewable β]

theorem mirrors_patternOf (hR : Mirror R) (f : Flags) (s : PatternSource) :
    Mirrors R Eq (Operator.patternOf f s : Evaluation α (Option Pattern))
      (Operator.patternOf f s : Evaluation β (Option Pattern)) := by
  cases s with
  | literal p => exact mirrors_pure rfl
  | function e =>
    refine mirrors_get fun c d hcd => ?_
    rw [hcd.scope hR]
    cases (e.eval d.scope).text? with
    | none => exact mirrors_pure rfl
    | some s =>
      intro c' d' hcd'
      obtain ⟨hpattern, hlike⟩ := hcd'.pattern s f.caseSensitive
      refine ⟨?_, hlike⟩
      show Answered Eq (.ok (c'.pattern s f.caseSensitive).1) (.ok (d'.pattern s f.caseSensitive).1)
      rw [hpattern]
      exact .ok rfl

section Tests

variable {γ δ : Type} [Viewable γ] [Viewable δ] {Q : γ → δ → Prop} (hQ : Mirror Q) {v : γ} {w : δ}
  (hvw : Q v w)
include hQ hvw

omit [Viewable α] [Viewable β] in
theorem mirrors_testSchema (f : Flags) (schemas : List String) :
    Mirrors R Eq (Operator.testSchema f schemas v : Evaluation α Verdict)
      (Operator.testSchema f schemas w : Evaluation β Verdict) := by
  have hfield := hQ.field? hvw Operator.schemaField false
  unfold Operator.testSchema
  generalize View.field? v Operator.schemaField false = a,
    View.field? w Operator.schemaField false = b at hfield
  cases hfield with
  | none => exact (mirrors_addReason _ _ _).bind fun _ _ _ => mirrors_pure rfl
  | some hschema =>
    dsimp only
    rw [(hQ.agree hschema).text, Verdict.notText_congr hQ hschema]
    split
    · exact (mirrors_addReason _ _ _).bind fun _ _ _ => mirrors_pure rfl
    · split
      · exact (mirrors_addReason _ _ _).bind fun _ _ _ => mirrors_pure rfl
      · exact mirrors_pure rfl

theorem mirrors_testVersion (hR : Mirror R) (f : Flags) (g : Version.Grammar)
    (s : ConstraintSource) :
    Mirrors R Eq (Operator.testVersion f g s v : Evaluation α Verdict)
      (Operator.testVersion f g s w : Evaluation β Verdict) := by
  have lifted (r : Except ConfigError Verdict) :
      Mirrors R Eq (Operator.testVersion.liftExcept r : Evaluation α Verdict)
        (Operator.testVersion.liftExcept r : Evaluation β Verdict) := by
    cases r with
    | ok verdict => exact mirrors_pure rfl
    | error e => exact mirrors_throw e
  unfold Operator.testVersion
  rw [(hQ.agree hvw).text, Verdict.notText_congr hQ hvw]
  cases View.text? w with
  | none => exact mirrors_pure rfl
  | some text =>
    cases s with
    | literal c => exact lifted _
    | function e =>
      refine mirrors_get fun c d hcd => ?_
      rw [hcd.scope hR]
      dsimp only
      cases (e.eval d.scope).text? with
      | none => exact mirrors_throw _
      | some constraint => exact lifted _

theorem mirrors_test (hR : Mirror R) (f : Flags) (path : String) (o : Operator) :
    Mirrors R Eq (o.test f path v : Evaluation α Verdict)
      (o.test f path w : Evaluation β Verdict) := by
  refine mirrors_get fun c d hcd => ?_
  rw [hcd.scope hR, hcd.now]
  cases o with
  | resolves expected => exact mirrors_pure rfl
  | equals negated expected => exact mirrors_pure (Verdict.equals_congr hQ hvw f negated _)
  | hasDefault expected => exact mirrors_pure (Verdict.hasDefault_congr hQ hvw f _)
  | hasValue expected => exact mirrors_pure (Verdict.hasValue_congr hQ hvw expected)
  | «matches» negated s =>
    refine (mirrors_patternOf hR f s).bind ?_
    rintro p _ rfl
    cases p with
    | none => exact mirrors_pure rfl
    | some p => exact mirrors_pure (Verdict.matches_congr hQ hvw negated p)
  | among negated set => exact mirrors_pure (Verdict.among_congr hQ hvw f negated set)
  | setOf items => exact mirrors_pure (Verdict.setOf_congr hQ hvw f path items)
  | subset items => exact mirrors_pure (Verdict.subset_congr hQ hvw f path items)
  | count negated expected => exact mirrors_pure (Verdict.count_congr hQ hvw negated _)
  | bound b limit => exact mirrors_pure (Verdict.bound_congr hQ hvw _ f b _)
  | text t negated patterns => exact mirrors_pure (Verdict.text_congr hQ hvw f t negated patterns)
  | isKind k expected => exact mirrors_pure (Verdict.isKind_congr hQ hvw _ f k expected)
  | hasSchema schemas => exact mirrors_testSchema hQ hvw f schemas
  | version g s => exact mirrors_testVersion hQ hvw hR f g s

end Tests

end Evaluation

/-! ### Leaves -/

namespace Leaf

open Evaluation

/-- Values with the same told about them, to be tested on both sides. -/
structure Operand.Like (R : α → β → Prop) (x : Operand α) (y : Operand β) : Prop where
  origin : x.origin = y.origin
  path : x.path = y.path
  value : Tested.Like R x.value y.value

/-- An answer that follows on a reason. -/
theorem mirrors_told (origin : Origin) (path message : String) {γ δ : Type} {S : γ → δ → Prop}
    {a : γ} {b : δ} (h : S a b) :
    Mirrors R S (do Operator.addReason origin path message; pure a : Evaluation α γ)
      (do Operator.addReason origin path message; pure b : Evaluation β δ) :=
  (mirrors_addReason origin path message).bind fun _ _ _ => mirrors_pure h

variable [Viewable α] [Viewable β] (hR : Mirror R)
include hR

theorem mirrors_operand? (l : Leaf) :
    Mirrors R (Option.Rel (Operand.Like R)) (l.operand? : Evaluation α (Option (Operand α)))
      (l.operand? : Evaluation β (Option (Operand β))) := by
  have bound (origin : Origin) (found : Option (String × String)) :
      Option.Rel (Operand.Like R)
        (found.map fun r => Operand.mk origin r.2 (.made (.text r.1)))
        (found.map fun r => Operand.mk origin r.2 (.made (.text r.1))) := by
    cases found with
    | none => exact .none
    | some _ => exact .some ⟨rfl, rfl, .made _⟩
  unfold operand?
  refine mirrors_get fun c d hcd => ?_
  cases l.subject with
  | none => exact mirrors_pure .none
  | some s =>
    cases s with
    | field path =>
      have hresolve := hcd.resolve hR path
      dsimp only
      generalize c.resolve path = x, d.resolve path = y at hresolve
      cases hresolve with
      | none => exact mirrors_told _ _ _ .none
      | some hxy => exact mirrors_pure (.some ⟨rfl, rfl, hxy⟩)
    | name =>
      dsimp only
      rw [hcd.name? hR]
      exact mirrors_pure (bound .name _)
    | type =>
      dsimp only
      rw [hcd.type? hR]
      exact mirrors_pure (bound .type _)
    | value p =>
      dsimp only
      rw [hcd.scope hR]
      exact mirrors_pure (.some ⟨rfl, rfl, .made _⟩)

theorem mirrors_evaluateResolves (l : Leaf) (expected : Bool) :
    Mirrors R Eq (l.evaluateResolves expected : Evaluation α Bool)
      (l.evaluateResolves expected : Evaluation β Bool) := by
  unfold evaluateResolves
  cases l.field? with
  | none => exact mirrors_pure rfl
  | some path =>
    refine mirrors_get fun c d hcd => ?_
    dsimp only
    rw [hcd.resolves hR path]
    split
    · exact mirrors_pure rfl
    · exact mirrors_told _ _ _ rfl

omit hR [Viewable α] [Viewable β] in
/-- What a verdict comes to is told under the name of the operand. -/
theorem mirrors_judged (origin : Origin) (path : String) (verdict : Verdict) :
    Mirrors R Eq
      (match verdict with
        | .pass => pure true
        | .fail message => do
          Operator.addReason origin path message
          pure false
        | .unfit => pure false : Evaluation α Bool)
      (match verdict with
        | .pass => pure true
        | .fail message => do
          Operator.addReason origin path message
          pure false
        | .unfit => pure false : Evaluation β Bool) := by
  cases verdict with
  | pass => exact mirrors_pure rfl
  | fail message => exact mirrors_told _ _ _ rfl
  | unfit => exact mirrors_pure rfl

theorem mirrors_evaluateOperand (l : Leaf) :
    Mirrors R Eq (l.evaluateOperand : Evaluation α Bool)
      (l.evaluateOperand : Evaluation β Bool) := by
  unfold evaluateOperand
  refine (mirrors_operand? hR l).bind fun x y hxy => ?_
  cases hxy with
  | none => exact mirrors_pure rfl
  | @some x y hxy =>
    obtain ⟨origin, path, v⟩ := x
    obtain ⟨_, _, w⟩ := y
    obtain ⟨rfl, rfl, hvw⟩ := hxy
    dsimp only at hvw ⊢
    cases hvw with
    | target hvw =>
      refine (mirrors_test hR hvw hR l.flags path l.operator).bind ?_
      rintro verdict _ rfl
      exact mirrors_judged origin path verdict
    | made v =>
      refine (mirrors_test mirror_eq rfl hR l.flags path l.operator).bind ?_
      rintro verdict _ rfl
      exact mirrors_judged origin path verdict

theorem isMissing_like (l : Leaf) {c : Context α} {d : Context β} (h : c.Like R d) :
    l.isMissing c = l.isMissing d := by
  unfold isMissing
  congr 1
  funext path
  rw [← Option.not_isSome, h.resolves hR path, Option.not_isSome]

theorem mirrors_evaluate (l : Leaf) :
    Mirrors R Eq (l.evaluate : Evaluation α Bool) (l.evaluate : Evaluation β Bool) := by
  unfold evaluate
  split
  · exact mirrors_evaluateResolves hR l _
  · refine mirrors_get fun c d hcd => ?_
    rw [isMissing_like hR l hcd]
    split
    · exact mirrors_pure rfl
    · exact mirrors_evaluateOperand hR l

end Leaf

/-! ### Groups and items -/

namespace Condition

open Evaluation

section Groups

variable {asks : List (Evaluation α Bool)} {asks' : List (Evaluation β Bool)}
  (h : List.Forall₂ (Mirrors R Eq) asks asks')
include h

theorem mirrors_askAll : Mirrors R Eq (askAll asks) (askAll asks') := by
  induction h with
  | nil => exact mirrors_pure rfl
  | cons hask _ ih =>
    refine hask.bind ?_
    rintro answer _ rfl
    cases answer with
    | true => exact ih
    | false => exact mirrors_pure rfl

theorem mirrors_askAny : Mirrors R Eq (askAny asks) (askAny asks') := by
  induction h with
  | nil => exact mirrors_pure rfl
  | cons hask _ ih =>
    refine hask.bind ?_
    rintro answer _ rfl
    cases answer with
    | true => exact mirrors_pure rfl
    | false => exact ih

theorem mirrors_combine (k : Combinator) :
    Mirrors R Eq (combine k asks) (combine k asks') := by
  cases k with
  | allOf => exact mirrors_askAll h
  | anyOf => exact mirrors_askAny h
  | not =>
    cases h with
    | nil => exact mirrors_pure rfl
    | cons hask _ => exact hask.map fun _ _ hab => congrArg _ hab
  | when =>
    cases h with
    | nil => exact mirrors_pure rfl
    | cons hask _ => exact hask

end Groups

section Items

variable {γ δ : Type} {S : γ → δ → Prop}

theorem mirrors_filtered {ask : Evaluation α Bool} {ask' : Evaluation β Bool}
    (h : Mirrors R Eq ask ask') : Mirrors R Eq (filtered ask) (filtered ask') := by
  refine mirrors_get fun c d hcd => ?_
  refine h.bind ?_
  rintro holds _ rfl
  rw [hcd.reasons]
  exact (mirrors_modify fun _ _ hlike => hlike.keepReasons _).bind fun _ _ _ => mirrors_pure rfl

theorem mirrors_askItem {counts ask : Evaluation α Bool} {counts' ask' : Evaluation β Bool}
    (hcounts : Mirrors R Eq counts counts') (hask : Mirrors R Eq ask ask') :
    Mirrors R Eq (askItem counts ask) (askItem counts' ask') := by
  refine hcounts.bind ?_
  rintro answer _ rfl
  cases answer with
  | true => exact hask.map fun _ _ hab => congrArg some hab
  | false => exact mirrors_pure rfl

theorem mirrors_visit {ask : Evaluation α γ} {ask' : Evaluation β δ} (h : Mirrors R S ask ask')
    {item : α} {item' : β} (hitem : R item item') (place : String) :
    Mirrors R S (visit ask item place) (visit ask' item' place) := by
  intro c d hcd
  obtain ⟨hanswer, hlike⟩ := h _ _ (hcd.enter hitem place)
  rw [outcome_visit, outcome_visit]
  exact ⟨hanswer, hlike.leave⟩

/-- Related items are asked in turn, with the same answers. -/
theorem mirrors_overItems {ask : Evaluation α (Option Bool)} {ask' : Evaluation β (Option Bool)}
    (h : Mirrors R Eq ask ask') (path : String) (q : Option Quantifier) {items : List α}
    {items' : List β} (hitems : List.Forall₂ R items items') (i passed : Nat) :
    Mirrors R Eq (overItems ask path q i passed items) (overItems ask' path q i passed items') := by
  induction hitems generalizing i passed with
  | nil => exact mirrors_pure rfl
  | cons hitem _ ih =>
    rw [overItems_cons, overItems_cons]
    refine (mirrors_visit h hitem _).bind ?_
    rintro answer _ rfl
    match answer with
    | none => exact ih (i + 1) passed
    | some true => exact ih (i + 1) (passed + 1)
    | some false =>
      cases q with
      | none => exact mirrors_pure rfl
      | some q => exact ih (i + 1) passed

end Items

/-! ### Conditions -/

variable [Viewable α] [Viewable β]

/-- The children of a group are asked one by one on both sides. -/
theorem mirrors_evaluateEach {children : List Condition}
    (h : ∀ child ∈ children, Mirrors R Eq (child.evaluate : Evaluation α Bool)
      (child.evaluate : Evaluation β Bool)) :
    List.Forall₂ (Mirrors R Eq) (evaluateEach children : List (Evaluation α Bool))
      (evaluateEach children : List (Evaluation β Bool)) := by
  induction children with
  | nil => exact .nil
  | cons child rest ih =>
    obtain ⟨hchild, hrest⟩ := List.forall_mem_cons.1 h
    exact .cons hchild (ih hrest)

/-- **A condition has the same answer and the same reasons for targets that look the same.** -/
theorem mirrors_evaluate (hR : Mirror R) (cond : Condition) :
    Mirrors R Eq (cond.evaluate : Evaluation α Bool) (cond.evaluate : Evaluation β Bool) := by
  induction cond using Condition.nested with
  | leaf path l => exact Leaf.mirrors_evaluate hR l
  | group path k children ih => exact mirrors_combine (mirrors_evaluateEach ih) k
  | forEach path k children field w q ih ihw =>
    have hfilter : Mirrors R Eq (evaluateFilter w : Evaluation α Bool)
        (evaluateFilter w : Evaluation β Bool) := by
      cases w with
      | none => exact mirrors_pure rfl
      | some v => exact mirrors_filtered (ihw v rfl)
    have hask := mirrors_askItem hfilter (mirrors_combine (mirrors_evaluateEach ih) k)
    intro c d hcd
    rw [outcome_forEach, outcome_forEach]
    exact mirrors_overItems hask (itemsPath field) q (hcd.itemsOf hR field) 0 0 c d hcd

end Condition

/-! ### Selectors -/

/-- **A selector reports the same on targets that look the same**: the same outcome, down to the
text of an error, and the same reasons. -/
theorem Selector.evaluateIn_like [Viewable α] [Viewable β] (hR : Mirror R) (s : Selector)
    {c : Context α} {d : Context β} (h : c.Like R d) :
    (s.evaluateIn c).1 = (s.evaluateIn d).1 := by
  obtain ⟨hanswer, hlike⟩ := Condition.mirrors_evaluate hR s.condition c d h
  have hreport (γ : Type) [Viewable γ] (c : Context γ) : (s.evaluateIn c).1 =
      ⟨.ofAnswer (s.condition.evaluate.outcome c).1,
        if Outcome.ofAnswer (s.condition.evaluate.outcome c).1 = .isMatch then []
        else (s.condition.evaluate.outcome c).2.reasons⟩ := rfl
  rw [hreport, hreport, hanswer.eq, hlike.reasons]

end Sift
