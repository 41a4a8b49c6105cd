import Sift.Proofs.Condition.Leaf
import Sift.Proofs.Condition.Location
import Sift.Proofs.Function.Arguments
import Sift.Proofs.Text.AsciiCase
import Sift.Regex.Engine

/-! Parameters that are written out, and parameters that are computed.

A parameter that is written out is read when its leaf is built, and one that is computed is read
each time the leaf is asked. Both are read in the same way: where a function gives the value that
is written out in another leaf, the two leaves answer alike and give the same reasons
(`literal_or_computed`). -/
namespace Sift

open Text

variable {α β γ : Type}

/-! ### Evaluations that come to the same -/

/-- Two evaluations come to the same in a context: they give the same answer or end in the same
error, and add the same reasons. -/
def Evaluation.SameAt (c : Context α) (x y : Evaluation α β) : Prop :=
  ∃ r new c₁ c₂, x.outcome c = (r, c₁) ∧ y.outcome c = (r, c₂) ∧ c.Adds new c₁ ∧ c.Adds new c₂

namespace Evaluation

open Condition

variable {c : Context α} {loud : β → Prop}

theorem Finds.sameAt {x y : Evaluation α β} (h : x.Finds loud)
    (heq : x.outcome c = y.outcome c) : x.SameAt c y := by
  obtain ⟨r, f, c', _, hout, -, hadds, -, -⟩ := h c c (.refl c)
  exact ⟨r, c.told f, c', c', hout, heq.symm.trans hout, hadds, hadds⟩

/-- What comes next sees no difference between the contexts that are left behind. -/
theorem SameAt.bind {x y : Evaluation α γ} {k : γ → Evaluation α β} (h : x.SameAt c y)
    (hk : ∀ a, (k a).Finds loud) : (x >>= k).SameAt c (y >>= k) := by
  obtain ⟨r, new, c₁, c₂, hx, hy, hadds₁, hadds₂⟩ := h
  unfold SameAt
  rw [outcome_bind, outcome_bind, hx, hy]
  cases r with
  | error e => exact ⟨.error e, new, c₁, c₂, rfl, rfl, hadds₁, hadds₂⟩
  | ok a =>
    obtain ⟨r, f, c₁', c₂', hout₁, hout₂, hmore₁, hmore₂, -⟩ :=
      hk a c₁ c₂ ((Context.Agrees.refl c).adds hadds₁ hadds₂)
    rw [hadds₁.told] at hmore₁
    rw [hadds₂.told] at hmore₂
    exact ⟨r, new ++ c.told f, c₁', c₂', hout₁, hout₂, hadds₁.trans hmore₁, hadds₂.trans hmore₂⟩

end Evaluation

/-! ### Operators -/

/-- Operators with a parameter that may be computed. -/
def OperatorKind.takesParameter : OperatorKind → Bool
  | .equals _ | .hasDefault | .matches _ | .count _ | .bound _ | .version _ => true
  | _ => false

namespace Operator

open Evaluation Condition

/-- The second operator computes the parameter that the first one was built with. -/
inductive Computes (f : Flags) (engine : Engine) (limit : Nat) (v : Value) (e : Function.Expr) :
    Operator → Operator → Prop where
  | equals (negated : Bool) :
    Computes f engine limit v e (.equals negated (.literal v)) (.equals negated (.function e))
  | hasDefault : Computes f engine limit v e (.hasDefault (.literal v)) (.hasDefault (.function e))
  | count (negated : Bool) :
    Computes f engine limit v e (.count negated (.literal v)) (.count negated (.function e))
  | bound (b : Bound) : Computes f engine limit v e (.bound b (.literal v)) (.bound b (.function e))
  | pattern (negated : Bool) {text : String} {p : Pattern} : v.text? = some text →
    engine.compile? text f.caseSensitive limit = some p →
    Computes f engine limit v e (.matches negated (.literal p)) (.matches negated (.function e))
  | version (g : Version.Grammar) {text : String} {k : Version.Constraint} :
    v.text? = some text → Version.Constraint.parse g text f.includePrerelease = .ok k →
    Computes f engine limit v e (.version g (.literal k)) (.version g (.function e))

variable {f : Flags} {engine : Engine} {limit : Nat} {v : Value} {e : Function.Expr}
  {o o' : Operator}

theorem Computes.kind (h : Computes f engine limit v e o o') : o.kind = o'.kind := by
  cases h <;> rfl

theorem Computes.passesMissing (h : Computes f engine limit v e o o') :
    o.passesMissing = o'.passesMissing := by
  cases h <;> rfl

/-- None of these asks whether a field is there. -/
theorem Computes.not_resolves (h : Computes f engine limit v e o o') (expected : Bool) :
    o ≠ .resolves expected ∧ o' ≠ .resolves expected := by
  cases h <;> simp

variable [Viewable α] [Viewable β] {c : Context α}

/-- A pattern that is made while the leaf is asked is the one that was made when it was built. -/
theorem sameAt_patternOf {text : String} {p : Pattern} (hc : c.Honest)
    (hengine : c.engine = engine) (hlimit : c.options.execution.regexSizeLimit = limit)
    (he : e.eval c.scope = v)
    (htext : v.text? = some text) (hp : engine.compile? text f.caseSensitive limit = some p) :
    (patternOf f (.literal p) : Evaluation α (Option Pattern)).SameAt c
      (patternOf f (.function e)) := by
  have hat : c.patternAt (text, f.caseSensitive) = some p := by
    rw [hc, hengine, hlimit]
    exact hp
  have hout : (patternOf f (.function e) : Evaluation α (Option Pattern)).outcome c =
      (.ok (c.pattern text f.caseSensitive).1, (c.pattern text f.caseSensitive).2) := by
    rw [patternOf, outcome_bind, outcome_get]
    dsimp only
    rw [he, htext]
    rfl
  rw [c.pattern_fst, hat] at hout
  exact ⟨.ok (some p), [], c, _, rfl, hout, .refl c, c.pattern_adds text f.caseSensitive⟩

/-- A constraint that is computed to the text that was written out is the same constraint. -/
theorem outcome_testVersion {text : String} {k : Version.Constraint} (g : Version.Grammar)
    (he : e.eval c.scope = v) (htext : v.text? = some text)
    (hk : Version.Constraint.parse g text f.includePrerelease = .ok k) (tested : β) :
    (testVersion f g (.literal k) tested).outcome c =
      (testVersion f g (.function e) tested).outcome c := by
  unfold testVersion
  cases View.text? tested with
  | none => rfl
  | some s =>
    have hconstraint : constraintOf g f text = .ok k := by rw [constraintOf, hk]
    dsimp only
    rw [outcome_bind, outcome_get]
    dsimp only
    rw [he, htext]
    dsimp only
    rw [hconstraint]

theorem Computes.sameAt_test (h : Computes f engine limit v e o o') (hc : c.Honest)
    (hengine : c.engine = engine) (hlimit : c.options.execution.regexSizeLimit = limit)
    (he : e.eval c.scope = v)
    (path : String) (tested : β) :
    (o.test f path tested : Evaluation α Verdict).SameAt c (o'.test f path tested) := by
  have hvalue : (Parameter.function e).value c.scope = v := he
  cases h with
  | pattern negated htext hp =>
    unfold test SameAt
    rw [outcome_bind, outcome_bind, outcome_get]
    dsimp only
    refine (sameAt_patternOf hc hengine hlimit he htext hp).bind fun found =>
      (?_ : Evaluation.Silent _)
    cases found with
    | none => exact silent_pure _
    | some p => exact silent_pure _
  | version g htext hk =>
    exact Finds.sameAt (finds_test f path tested _) (outcome_testVersion g he htext hk tested)
  | _ =>
    refine Finds.sameAt (finds_test f path tested _) ?_
    unfold test
    rw [outcome_bind, outcome_bind, outcome_get]
    dsimp only
    rw [hvalue]
    rfl

end Operator

/-! ### Leaves -/

namespace Leaf

open Evaluation Condition

/-- The second leaf computes the parameter, or the value, that the first one was built with; or the
value is none that they look at. -/
inductive Computes (engine : Engine) (limit : Nat) (v : Value) (e : Function.Expr) :
    Leaf → Leaf → Prop where
  | operator {f : Flags} {o o' : Operator} (subject : Option Subject) :
    Operator.Computes f engine limit v e o o' →
      Computes engine limit v e ⟨o, subject, f⟩ ⟨o', subject, f⟩
  | value (o : Operator) (f : Flags) : Computes engine limit v e
    ⟨o, some (.value (.literal v)), f⟩ ⟨o, some (.value (.function e)), f⟩
  | unread (l : Leaf) : Computes engine limit v e l l

variable [Viewable α] {c : Context α} {engine : Engine} {limit : Nat} {v : Value}
  {e : Function.Expr}

theorem outcome_evaluate {l : Leaf} (h : ∀ expected, l.operator ≠ .resolves expected)
    (c : Context α) : (l.evaluate : Evaluation α Bool).outcome c =
      if l.operator.passesMissing && l.isMissing c then (.ok true, c)
      else l.evaluateOperand.outcome c := by
  unfold evaluate
  split
  · exact absurd ‹_› (h _)
  · rw [outcome_bind, outcome_get]
    dsimp only
    split <;> rfl

/-- Where there is something to test, nothing was left behind in finding it. -/
theorem outcome_operand? (l : Leaf) {operand : Operand α} {c' : Context α}
    (h : l.operand?.outcome c = (.ok (some operand), c')) : c' = c := by
  unfold operand? at h
  rw [outcome_bind, outcome_get] at h
  dsimp only at h
  cases hs : l.subject with
  | none =>
    rw [hs] at h
    cases h
  | some s =>
    rw [hs] at h
    cases s with
    | field path =>
      dsimp only at h
      cases hr : c.resolve path <;> rw [hr] at h <;> cases h
      rfl
    | _ =>
      injection h with _ hc
      exact hc.symm

theorem sameAt_evaluateOperand {f : Flags} {o o' : Operator} (subject : Option Subject)
    (h : Operator.Computes f engine limit v e o o') (hc : c.Honest)
    (hengine : c.engine = engine) (hlimit : c.options.execution.regexSizeLimit = limit)
    (he : e.eval c.scope = v) :
    (evaluateOperand ⟨o, subject, f⟩ : Evaluation α Bool).SameAt c
      (evaluateOperand ⟨o', subject, f⟩) := by
  have htried (operand : Operand α) :
      (tried ⟨o, subject, f⟩ operand).SameAt c (tried ⟨o', subject, f⟩ operand) := by
    unfold tried
    cases operand.value with
    | target w => exact (h.sameAt_test hc hengine hlimit he _ w).bind (finds_judged operand)
    | made w => exact (h.sameAt_test hc hengine hlimit he _ w).bind (finds_judged operand)
  have hsame : (operand? ⟨o', subject, f⟩ : Evaluation α _) = operand? ⟨o, subject, f⟩ := rfl
  rw [evaluateOperand_eq, evaluateOperand_eq, hsame]
  obtain ⟨r, found, c', _, hout, -, hadds, -, -⟩ := finds_operand? ⟨o, subject, f⟩ c c (.refl c)
  unfold SameAt
  rw [outcome_bind, outcome_bind, hout]
  match r with
  | .error e => exact ⟨.error e, _, c', c', rfl, rfl, hadds, hadds⟩
  | .ok none => exact ⟨.ok false, _, c', c', rfl, rfl, hadds, hadds⟩
  | .ok (some operand) =>
    rw [outcome_operand? _ hout]
    exact htried operand

theorem outcome_evaluate_value (o : Operator) (f : Flags) (he : e.eval c.scope = v) :
    (evaluate ⟨o, some (.value (.literal v)), f⟩ : Evaluation α Bool).outcome c =
      (evaluate ⟨o, some (.value (.function e)), f⟩).outcome c := by
  by_cases h : ∃ expected, o = .resolves expected
  · obtain ⟨expected, rfl⟩ := h
    rfl
  · rw [not_exists] at h
    have hoperand : (operand? ⟨o, some (.value (.literal v)), f⟩).outcome c =
        (operand? ⟨o, some (.value (.function e)), f⟩).outcome c := by
      rw [← he]
      rfl
    rw [outcome_evaluate h, outcome_evaluate h, evaluateOperand_eq, evaluateOperand_eq,
      outcome_bind, outcome_bind, hoperand]
    rfl

theorem Computes.sameAt_evaluate {l l' : Leaf} (h : Computes engine limit v e l l') (hc : c.Honest)
    (hengine : c.engine = engine) (hlimit : c.options.execution.regexSizeLimit = limit)
    (he : e.eval c.scope = v) :
    (l.evaluate : Evaluation α Bool).SameAt c l'.evaluate := by
  cases h with
  | unread l => exact l.finds_evaluate.sameAt rfl
  | value o f => exact (finds_evaluate _).sameAt (outcome_evaluate_value o f he)
  | @operator f o o' subject ho =>
    have hoperand := sameAt_evaluateOperand subject ho hc hengine hlimit he
    unfold SameAt at hoperand ⊢
    rw [outcome_evaluate fun expected => (ho.not_resolves expected).1,
      outcome_evaluate fun expected => (ho.not_resolves expected).2]
    have hmissing : isMissing ⟨o', subject, f⟩ c = isMissing ⟨o, subject, f⟩ c := rfl
    rw [← ho.passesMissing, hmissing]
    split
    · exact ⟨.ok true, [], c, c, rfl, rfl, .refl c, .refl c⟩
    · exact hoperand

end Leaf

/-! ### Documents -/

namespace Builder

/-- The keys that are looked up in the document of a leaf, but for its operator. -/
def leafKeys : List String :=
  ["field", "type", "name", "value", "caseSensitive", "convert", "unique", "ignoreScheme",
    "includePrerelease", "requireLetters"]

/-- No operator goes by one of the other keys. -/
theorem leafKeys_of_operator {key name : String} {kind : OperatorKind}
    (h : OperatorKind.ofKey? key = some kind) (hname : name ∈ leafKeys) :
    sameAscii key name = false := by
  have hcatalogue : ∀ entry ∈ OperatorKind.catalogue, ∀ name ∈ leafKeys,
      sameAscii entry.1 name = false := by decide +kernel
  rw [OperatorKind.ofKey?, Option.map_eq_some_iff] at h
  obtain ⟨entry, hentry, -⟩ := h
  have hsame := List.find?_some hentry
  have hdiffer := hcatalogue entry (List.mem_of_find?_eq_some hentry) name hname
  rw [← Bool.not_eq_true, sameAscii_eq_true] at hdiffer ⊢
  rw [← sameAscii_eq_true.1 hsame]
  exact hdiffer

theorem leafKeys_of_value {key name : String} (h : sameAscii key "value" = true)
    (hname : name ∈ leafKeys) (hne : name ≠ "value") : sameAscii key name = false := by
  have hothers : ∀ name ∈ leafKeys, name ≠ "value" → sameAscii "value" name = false := by
    decide +kernel
  have hdiffer := hothers name hname hne
  rw [← Bool.not_eq_true, sameAscii_eq_true] at hdiffer ⊢
  rw [sameAscii_eq_true.1 h]
  exact hdiffer

theorem ofKey?_value {key : String} (h : sameAscii key "value" = true) :
    OperatorKind.ofKey? key = none := by
  cases hkind : OperatorKind.ofKey? key with
  | none => rfl
  | some kind =>
    have hdiffer := leafKeys_of_operator hkind (show "value" ∈ leafKeys by decide)
    rw [h] at hdiffer
    cases hdiffer

/-! ### One member for another -/

variable {before behind : Members} {key : String}

/-- A lookup by key finds the member that was put in the place of another one, or the same as
before. -/
theorem find?_swap (before behind : Members) (p : String → Bool) (v w : Value) :
    (p key = true ∧
      ((before ++ (key, v) :: behind).find? fun m => p m.1).map Prod.snd = some v ∧
      ((before ++ (key, w) :: behind).find? fun m => p m.1).map Prod.snd = some w) ∨
    ((before ++ (key, v) :: behind).find? fun m => p m.1).map Prod.snd =
      ((before ++ (key, w) :: behind).find? fun m => p m.1).map Prod.snd := by
  rw [List.find?_append, List.find?_append, List.find?_cons, List.find?_cons]
  dsimp only
  cases before.find? fun m => p m.1 with
  | some m => exact .inr rfl
  | none =>
    cases p key with
    | true => exact .inl ⟨rfl, rfl, rfl⟩
    | false => exact .inr rfl

theorem member?_swap (before behind : Members) (key name : String) (v w : Value) :
    (sameAscii key name = true ∧ member? (before ++ (key, v) :: behind) name = some v ∧
      member? (before ++ (key, w) :: behind) name = some w) ∨
    member? (before ++ (key, v) :: behind) name = member? (before ++ (key, w) :: behind) name := by
  unfold member? Value.member?
  obtain ⟨hkey, hv, hw⟩ | hsame := find?_swap before behind (· == name) v w
  · rw [hv, hw]
    refine .inl ⟨?_, rfl, rfl⟩
    rw [beq_iff_eq] at hkey
    rw [hkey, sameAscii_eq_true]
  · rw [hsame]
    cases ((before ++ (key, w) :: behind).find? fun m => m.1 == name).map Prod.snd with
    | some found => exact .inr rfl
    | none => exact find?_swap before behind (sameAscii · name) v w

theorem member?_other {name : String} (h : sameAscii key name = false) (v w : Value) :
    member? (before ++ (key, v) :: behind) name = member? (before ++ (key, w) :: behind) name := by
  obtain ⟨hsame, -⟩ | heq := member?_swap before behind key name v w
  · rw [h] at hsame
    cases hsame
  · exact heq

/-- None of the flags is under the key. -/
theorem flags_swap {path : String} (h : ∀ name ∈ leafKeys, name ≠ "value" → sameAscii key name = false)
    (v w : Value) :
    flags path (before ++ (key, v) :: behind) = flags path (before ++ (key, w) :: behind) := by
  have hflag (name : String) (hname : name ∈ leafKeys) (hne : name ≠ "value") :
      flag path (before ++ (key, v) :: behind) name =
        flag path (before ++ (key, w) :: behind) name := by
    unfold flag
    rw [member?_other (h name hname hne) v w]
  unfold flags
  rw [hflag "caseSensitive" (by decide) (by decide), hflag "convert" (by decide) (by decide),
    hflag "unique" (by decide) (by decide), hflag "ignoreScheme" (by decide) (by decide),
    hflag "includePrerelease" (by decide) (by decide), hflag "requireLetters" (by decide) (by decide)]

theorem combinators_swap (v w : Value) (h : combinators (before ++ (key, v) :: behind) = []) :
    combinators (before ++ (key, w) :: behind) = [] := by
  unfold combinators at h ⊢
  rw [List.filterMap_eq_nil_iff] at h ⊢
  intro m hm
  rw [List.mem_append, List.mem_cons] at hm
  obtain hm | rfl | hm := hm
  · exact h m (List.mem_append_left _ hm)
  · have hkey := h (key, v) (List.mem_append_right _ List.mem_cons_self)
    rw [Option.map_eq_none_iff] at hkey ⊢
    exact hkey
  · exact h m (List.mem_append_right _ (List.mem_cons_of_mem _ hm))

/-- The operator stays the same, but for the value under its key. -/
theorem operators_swap {kind : OperatorKind} {found : String} {v value : Value}
    (h : operators (before ++ (key, v) :: behind) = [(kind, found, value)]) (w : Value) :
    (OperatorKind.ofKey? key = some kind ∧ found = key ∧ value = v ∧
      operators (before ++ (key, w) :: behind) = [(kind, key, w)]) ∨
    (OperatorKind.ofKey? key = none ∧
      operators (before ++ (key, w) :: behind) = [(kind, found, value)]) := by
  unfold operators at h ⊢
  rw [List.filterMap_append, List.filterMap_cons] at h ⊢
  dsimp only at h ⊢
  cases hkey : OperatorKind.ofKey? key with
  | none =>
    rw [hkey] at h
    exact .inr ⟨rfl, h⟩
  | some kind' =>
    rw [hkey] at h
    dsimp only [Option.map_some] at h ⊢
    rw [List.append_eq_cons_iff] at h
    obtain ⟨hbefore, hcons⟩ | ⟨_, _, hbehind⟩ := h
    · injection hcons with hhead hbehind
      cases hhead
      rw [hbefore, hbehind]
      exact .inl ⟨rfl, rfl, rfl, rfl⟩
    · cases List.append_eq_nil_iff.1 hbehind.symm |>.2

variable {b : Builder} {F body v : Value} {e : Function.Expr}

theorem require_eq_ok {path : String} {cause : BuildCause} {x : Option α} {a : α} :
    require path cause x = .ok a ↔ x = some a := by
  cases x <;> simp [require]

theorem parameter_literal {path : String} {p : Parameter} (hv : Function.body? v = none) :
    b.parameter path v = .ok p ↔ p = .literal v := by
  rw [parameter, hv, Except.ok.injEq]
  exact eq_comm

theorem parameter_function {path : String} (hF : Function.body? F = some body)
    (he : Function.compile b.functions path body = .ok e) :
    b.parameter path F = .ok (.function e) := by
  rw [parameter, hF]
  dsimp only
  rw [he]
  rfl

/-- What is written out has to be an integer where one is asked for. -/
theorem integer_literal {path : String} {p : Parameter} (hv : Function.body? v = none)
    (h : b.integer path v = .ok p) : p = .literal v ∧ ∃ n, Coerce.long? v true = some n := by
  obtain ⟨q, hq, h⟩ := Path.bind_eq_ok.1 h
  rw [(parameter_literal hv).1 hq] at h
  obtain ⟨n, hn, rfl⟩ := map_eq_ok.1 h
  exact ⟨rfl, n, require_eq_ok.1 hn⟩

theorem pattern_literal {path : String} {f : Flags} {s : PatternSource}
    (hv : Function.body? v = none) (h : b.pattern path f v = .ok s) :
    ∃ text p, v.text? = some text ∧
      b.engine.compile? text f.caseSensitive b.regexSizeLimit = some p ∧ s = .literal p := by
  rw [pattern, hv] at h
  obtain ⟨text, htext, h⟩ := Path.bind_eq_ok.1 h
  obtain ⟨p, hp, h⟩ := Path.bind_eq_ok.1 h
  cases h
  exact ⟨text, p, require_eq_ok.1 htext, require_eq_ok.1 hp, rfl⟩

/-- What is built with a value that is written out is built with one that is computed too. -/
theorem operator_computes {path : String} {f : Flags} {kind : OperatorKind} {o : Operator}
    (h : b.operator path f kind v = .ok o) (hkind : kind.takesParameter = true)
    (hv : Function.body? v = none) (hF : Function.body? F = some body)
    (he : Function.compile b.functions path body = .ok e) :
    ∃ o', b.operator path f kind F = .ok o' ∧
      Operator.Computes f b.engine b.regexSizeLimit v e o o' := by
  have hparameter := parameter_function hF he
  -- What is checked of the value as it is built is not checked of the function.
  have hinteger : b.integer path F = .ok (.function e) := by
    rw [integer, hparameter]
    rfl
  cases kind with
  | equals negated =>
    obtain ⟨p, hp, rfl⟩ := map_eq_ok.1 h
    obtain rfl := (parameter_literal hv).1 hp
    exact ⟨_, map_eq_ok.2 ⟨_, hparameter, rfl⟩, .equals negated⟩
  | hasDefault =>
    obtain ⟨p, hp, rfl⟩ := map_eq_ok.1 h
    obtain rfl := (parameter_literal hv).1 hp
    exact ⟨_, map_eq_ok.2 ⟨_, hparameter, rfl⟩, .hasDefault⟩
  | count negated =>
    obtain ⟨p, hp, rfl⟩ := map_eq_ok.1 h
    obtain ⟨rfl, -⟩ := integer_literal hv hp
    exact ⟨_, map_eq_ok.2 ⟨_, hinteger, rfl⟩, .count negated⟩
  | bound bound =>
    obtain ⟨p, hp, rfl⟩ := map_eq_ok.1 h
    obtain ⟨rfl, -⟩ := integer_literal hv hp
    exact ⟨_, map_eq_ok.2 ⟨_, hinteger, rfl⟩, .bound bound⟩
  | «matches» negated =>
    have hpattern : b.pattern path f F = .ok (.function e) := by
      rw [pattern, hF]
      dsimp only
      rw [he]
      rfl
    obtain ⟨s, hs, rfl⟩ := map_eq_ok.1 h
    obtain ⟨text, p, htext, hp, rfl⟩ := pattern_literal hv hs
    exact ⟨_, map_eq_ok.2 ⟨_, hpattern, rfl⟩, .pattern negated htext hp⟩
  | version g =>
    have hconstraint : b.constraint path g f F = .ok (.function e) := by
      rw [constraint, hF]
      dsimp only
      rw [he]
      rfl
    obtain ⟨s, hs, rfl⟩ := map_eq_ok.1 h
    rw [constraint, hv] at hs
    obtain ⟨text, htext, hs⟩ := Path.bind_eq_ok.1 hs
    split at hs
    · rename_i k hk
      cases hs
      exact ⟨_, map_eq_ok.2 ⟨_, hconstraint, rfl⟩, .version g (require_eq_ok.1 htext) hk⟩
    · cases hs
  | _ => cases hkind

/-- What a leaf tests is the same, or it is the value that is computed now. -/
theorem subject_computes {path : String} {s : Option Subject}
    (hkey : sameAscii key "value" = true) (hv : Function.body? v = none)
    (hF : Function.body? F = some body) (he : Function.compile b.functions path body = .ok e)
    (h : b.subject path (before ++ (key, v) :: behind) = .ok s) :
    b.subject path (before ++ (key, F) :: behind) = .ok s ∨
      (s = some (.value (.literal v)) ∧
        b.subject path (before ++ (key, F) :: behind) = .ok (some (.value (.function e)))) := by
  have hother (name : String) (hname : name ∈ leafKeys) (hne : name ≠ "value") :
      member? (before ++ (key, v) :: behind) name = member? (before ++ (key, F) :: behind) name :=
    member?_other (leafKeys_of_value hkey hname hne) v F
  unfold subject at h ⊢
  rw [hother "field" (by decide) (by decide), hother "type" (by decide) (by decide),
    hother "name" (by decide) (by decide)] at h
  obtain ⟨-, hold, hnew⟩ | hsame :=
    member?_swap before behind key "value" v F
  · rw [hold] at h
    rw [hnew]
    split at h
    · exact .inl h
    · split at h
      · exact .inl h
      · split at h
        · exact .inl h
        · obtain ⟨p, hp, rfl⟩ := map_eq_ok.1 h
          obtain rfl := (parameter_literal hv).1 hp
          exact .inr ⟨rfl, map_eq_ok.2 ⟨_, parameter_function hF he, rfl⟩⟩
  · rw [hsame] at h
    exact .inl h

/-- The key is that of a parameter which may be computed: the parameter of an operator, or the value
that is tested. -/
def TakesParameter (key : String) : Prop :=
  (∃ kind, OperatorKind.ofKey? key = some kind ∧ kind.takesParameter = true) ∨
    sameAscii key "value" = true

/-- Where a leaf is built with a value that is written out, one is built with a function too. -/
theorem leaf_computes {location path : String} {l : Leaf} (hkey : TakesParameter key)
    (hv : Function.body? v = none) (hF : Function.body? F = some body)
    (he : ∀ place, Function.compile b.functions place body = .ok e)
    (h : b.leaf location (before ++ (key, v) :: behind) = .ok (.leaf path l)) :
    ∃ l', b.leaf location (before ++ (key, F) :: behind) = .ok (.leaf path l') ∧
      Leaf.Computes b.engine b.regexSizeLimit v e l l' := by
  obtain ⟨kind, found, w, f, s, o, hone, hf, hs, hneeds, ho, hl⟩ := b.leaf_eq_ok.1 h
  cases hl
  obtain ⟨_, hkind, htakes⟩ | hvalue := hkey
  · have hother (name : String) (hname : name ∈ leafKeys) : sameAscii key name = false :=
      leafKeys_of_operator hkind hname
    have hsubject (place : String) : b.subject place (before ++ (key, v) :: behind) =
        b.subject place (before ++ (key, F) :: behind) := by
      unfold subject
      rw [member?_other (hother "field" (by decide)) v F,
        member?_other (hother "type" (by decide)) v F,
        member?_other (hother "name" (by decide)) v F,
        member?_other (hother "value" (by decide)) v F]
    rw [flags_swap (fun name hname _ => hother name hname) v F] at hf
    rw [hsubject] at hs
    obtain ⟨hkind', rfl, rfl, hone'⟩ | ⟨hnone, -⟩ := operators_swap hone F
    · cases hkind.symm.trans hkind'
      obtain ⟨o', ho', hcomputes⟩ := operator_computes ho htakes hv hF (he _)
      refine ⟨_, b.leaf_eq_ok.2 ⟨_, _, F, f, s, o', hone', hf, hs, hneeds, ho', ?_⟩,
        .operator s hcomputes⟩
      rw [Operator.name, Operator.name, hcomputes.kind]
    · rw [hkind] at hnone
      cases hnone
  · rw [flags_swap (fun name => leafKeys_of_value hvalue) v F] at hf
    obtain ⟨hkind, -⟩ | ⟨-, hone'⟩ := operators_swap hone F
    · rw [ofKey?_value hvalue] at hkind
      cases hkind
    · obtain hsame | ⟨rfl, hs'⟩ := subject_computes hvalue hv hF (he _) hs
      · exact ⟨_, b.leaf_eq_ok.2 ⟨kind, found, w, f, s, o, hone', hf, hsame, hneeds, ho, rfl⟩,
          .unread _⟩
      · refine ⟨_, b.leaf_eq_ok.2 ⟨kind, found, w, f, _, o, hone', hf, hs', ?_, ho, rfl⟩,
          .value o f⟩
        intro hn
        obtain ⟨_, hfield⟩ := hneeds hn
        cases hfield

/-- The function expression for a configured value. -/
def configured (name : String) : Value :=
  .object [(Function.functionKey, .object [("configuration", .text name)])]

theorem body?_configured (name : String) :
    Function.body? (configured name) = some (.object [("configuration", .text name)]) := by
  rw [configured, Function.body?, if_pos rfl]

theorem compile_configured (engine : Engine) (path name : String) :
    Function.compile (.standard engine) path (.object [("configuration", .text name)]) =
      .ok (.configuration name) := by
  have hfind : Function.libraryNames.lookup (lowerText "configuration") = some .configuration := by
    decide +kernel
  have hget : Function.Arguments.get? [("configuration", .constant (.text name))]
      "configuration" = some (.constant (.text name)) := by
    rw [Function.Arguments.get?, List.find?_cons, sameAscii_eq_true.2 rfl]
    rfl
  refine Function.compile_only (Function.find?_library engine hfind) rfl ?_
  show (((Function.Arguments.get? _ "configuration").bind Function.Expr.literal?).bind
    Value.text?).map Function.Expr.configuration = _
  rw [hget]
  rfl

/-- A document that is built as a leaf is read as one. -/
theorem leaf_of_condition {levels : Nat} {location path : String} {members : Members} {l : Leaf}
    (h : b.condition (levels + 1) location (.object members) = .ok (.leaf path l)) :
    combinators members = [] ∧ b.leaf location members = .ok (.leaf path l) := by
  obtain ⟨_, hmembers, hleaf | ⟨k, w, ds, cs, -, -, -, hgroup⟩⟩ := b.condition_eq_ok.1 h
  · cases hmembers
    exact hleaf
  · cases hgroup

/-- A document of a leaf is built as a leaf with a function in place of the value. -/
theorem condition_computes {levels : Nat} {location path : String} {l : Leaf}
    (hkey : TakesParameter key) (hv : Function.body? v = none) (hF : Function.body? F = some body)
    {place : String} (he : Function.compile b.functions place body = .ok e)
    (h : b.condition levels location (.object (before ++ (key, v) :: behind)) =
      .ok (.leaf path l)) :
    ∃ l', b.condition levels location (.object (before ++ (key, F) :: behind)) =
        .ok (.leaf path l') ∧ Leaf.Computes b.engine b.regexSizeLimit v e l l' := by
  cases levels with
  | zero => cases h
  | succ levels =>
    obtain ⟨hnone, hleaf⟩ := leaf_of_condition h
    obtain ⟨l', hbuilt, hcomputes⟩ := leaf_computes hkey hv hF
      (fun q => ok_of_toOption (Function.compile_location _ place q body) he) hleaf
    exact ⟨l', b.condition_eq_ok.2 ⟨_, rfl, .inl ⟨combinators_swap v F hnone, hbuilt⟩⟩, hcomputes⟩

end Builder

/-- **A parameter that is written out and one that is computed to it agree.** Where a leaf is built
with a value under the key of a parameter, it is built with a function expression in its place; and
in every context in which the function gives the value, both leaves give the same answer, or end in
the same error, and add the same reasons. So it is with the configured value of a name. The context
has the engine and the bound that the leaves are built with, and keeps no patterns but those of
their texts. -/
theorem literal_or_computed {b : Builder} {levels : Nat} {location path key : String}
    {before behind : Builder.Members} {v : Value} {l : Leaf} (hkey : Builder.TakesParameter key)
    (hv : Function.body? v = none)
    (h : b.condition levels location (.object (before ++ (key, v) :: behind)) =
      .ok (.leaf path l)) :
    (∀ F body place e, Function.body? F = some body →
      Function.compile b.functions place body = .ok e →
      ∃ l', b.condition levels location (.object (before ++ (key, F) :: behind)) =
          .ok (.leaf path l') ∧
        ∀ {α : Type} [Viewable α] (c : Context α), c.Honest →
          c.engine = b.engine → c.options.execution.regexSizeLimit = b.regexSizeLimit →
          e.eval c.scope = v →
          (Condition.leaf path l).evaluate.SameAt c (Condition.leaf path l').evaluate) ∧
    (b.functions = .standard b.engine → ∀ name,
      ∃ l', b.condition levels location
          (.object (before ++ (key, Builder.configured name) :: behind)) = .ok (.leaf path l') ∧
        ∀ {α : Type} [Viewable α] (c : Context α), c.Honest →
          c.engine = b.engine → c.options.execution.regexSizeLimit = b.regexSizeLimit →
          Value.member? c.options.configuration name = some v →
          (Condition.leaf path l).evaluate.SameAt c (Condition.leaf path l').evaluate) := by
  refine ⟨?_, ?_⟩
  · intro F body place e hF he
    obtain ⟨l', hbuilt, hcomputes⟩ := Builder.condition_computes hkey hv hF he h
    exact ⟨l', hbuilt, fun c hc hengine hlimit hvalue =>
      hcomputes.sameAt_evaluate hc hengine hlimit hvalue⟩
  · intro hstandard name
    have he : Function.compile b.functions "" (.object [("configuration", .text name)]) =
        .ok (.configuration name) := by
      rw [hstandard]
      exact Builder.compile_configured b.engine "" name
    obtain ⟨l', hbuilt, hcomputes⟩ :=
      Builder.condition_computes hkey hv (Builder.body?_configured name) he h
    refine ⟨l', hbuilt, fun c hc hengine hlimit hvalue =>
      hcomputes.sameAt_evaluate hc hengine hlimit ?_⟩
    show (Value.member? c.options.configuration name).getD .null = v
    rw [hvalue]
    rfl

/-- A pattern that is written out, and the same pattern as a configured value. -/
theorem literal_or_computed_pattern :
    let o : Options := { configuration := [("pattern", .text "a")] }
    let document (v : Value) : Value := .object ([("value", .text "b")] ++ [("match", v)])
    let c := Context.of Regex.engine Value.null o ⟨0, 0⟩
    let b := Builder.of Regex.engine o
    ∃ l l', b.condition 1 "" (document (.text "a")) = .ok (.leaf ".match" l) ∧
      b.condition 1 "" (document (Builder.configured "pattern")) = .ok (.leaf ".match" l') ∧
      (Condition.leaf ".match" l).evaluate.SameAt c (Condition.leaf ".match" l').evaluate := by
  intro o document c b
  have hkey : Builder.TakesParameter "match" :=
    .inl ⟨.matches false, by decide +kernel, rfl⟩
  obtain ⟨l, hbuilt⟩ : ∃ l, b.condition 1 "" (document (.text "a")) = .ok (.leaf ".match" l) :=
    ⟨_, rfl⟩
  obtain ⟨l', hbuilt', hsame⟩ := (literal_or_computed hkey rfl hbuilt).2 rfl "pattern"
  exact ⟨l, l', hbuilt, hbuilt', hsame c (Context.honest_of_nil rfl) rfl rfl rfl⟩

end Sift
