import Sift.Proofs.Condition.Computed
import Sift.Proofs.Condition.Fields
import Sift.Proofs.Path.Joined
import Sift.Regex.Engine

/-! Conditions that ask for opposite things.

Two leaves about one field ask for opposite things where one has an operator and the other its
negation, or the same operator with the other truth value, or the bound on the other side
(`Builder.Opposite` lists the pairs). One is not made from the other: each has its own word on
fields that lead nowhere and on values it cannot do anything with. Exactly one of them holds all the
same, of whatever is tested for some pairs, and of what is found, or of arrays, for others
(`opposites_split`). -/
namespace Sift

open Text Builder

/-! ### What opposites owe to each other -/

/-- One answer is yes, and the other no. -/
def Split (r r' : Except ConfigError Bool) : Prop := ∃ holds, r = .ok holds ∧ r' = .ok !holds

theorem split_ok {p q : Bool} : Split (.ok p) (.ok q) ↔ q = !p := by
  constructor
  · intro h
    obtain ⟨holds, hp, hq⟩ := h
    cases hp
    cases hq
    rfl
  · intro h
    exact ⟨p, rfl, by rw [h]⟩

/-- When two leaves are opposites. -/
inductive Occasion where
  | always
  /-- The field leads to something. -/
  | found
  /-- The field leads to an array. -/
  | array
  /-- Both are bounds: neither may hold of what has no place in the order, but of null one does. -/
  | ordered

/-- What two answers owe to each other, where the field leads to a value of this kind, if to any. -/
def Occasion.Splits (occasion : Occasion) (kind : Option Kind) (r r' : Except ConfigError Bool) :
    Prop :=
  match occasion with
  | .always => Split r r'
  | .found => kind.isSome = true → Split r r'
  | .array => kind = some .array → Split r r'
  | .ordered => ¬ (r = .ok true ∧ r' = .ok true) ∧
      (r = .ok true ∨ r' = .ok true ∨ kind = some .null → Split r r')

theorem Split.splits {r r' : Except ConfigError Bool} (h : Split r r') (occasion : Occasion)
    (kind : Option Kind) : occasion.Splits kind r r' := by
  cases occasion with
  | always => exact h
  | found => exact fun _ => h
  | array => exact fun _ => h
  | ordered =>
    refine ⟨fun hboth => ?_, fun _ => h⟩
    obtain ⟨holds, hr, hr'⟩ := h
    rw [hr, hr'] at hboth
    cases holds <;> simp at hboth

/-- Two bounds that do not fit hold of nothing. -/
theorem splits_unfit {kind : Option Kind} (h : kind ≠ some .null) :
    Occasion.ordered.Splits kind (.ok false) (.ok false) := by
  simp [Occasion.Splits, h]

/-- A bound and the one on its other side. -/
inductive Bound.Opposite : Bound → Bound → Prop where
  | less : Bound.Opposite .less .greaterOrEquals
  | greater : Bound.Opposite .greater .lessOrEquals

theorem Bound.Opposite.accepts {b b' : Bound} (h : Bound.Opposite b b') (o : Ordering) :
    b'.accepts o = !b.accepts o := by
  cases h <;> cases o <;> rfl

/-! ### Verdicts -/

def Verdict.passes : Verdict → Bool
  | .pass => true
  | _ => false

@[simp] theorem Verdict.passes_check (holds : Bool) (message : String) :
    (Verdict.check holds message).passes = holds := by
  cases holds <;> rfl

namespace Verdict

variable {β : Type} [Viewable β] (f : Flags) (v : β)

theorem equals_split (expected : Value) :
    (equals f true expected v).passes = !(equals f false expected v).passes := by
  simp [equals]

theorem hasValue_split : (hasValue false v).passes = !(hasValue true v).passes := by
  simp [hasValue]

theorem matches_split (p : Pattern) : (matches_ true p v).passes = !(matches_ false p v).passes := by
  simp [matches_]

theorem among_split (set : List Value) :
    (among f true set v).passes = !(among f false set v).passes := by
  simp [among]

theorem text_split (t : TextTest) (patterns : List String) :
    (text f t true patterns v).passes = !(text f t false patterns v).passes := by
  unfold text
  dsimp only
  split
  · simp
  · split <;> simp

theorem isKind_split (now : Time.Instant) (k : KindTest) :
    (isKind now f k false v).passes = !(isKind now f k true v).passes := by
  unfold isKind
  split <;> simp

theorem count_split {expected : Value} {n : Int} (hn : Coerce.long? expected true = some n)
    (hv : View.kind v = .array) :
    (count true expected v).passes = !(count false expected v).passes := by
  have hnull : View.isNull v = false := by simp [View.isNull, hv]
  have hcount : View.count? v = some (View.items v).length :=
    View.count?_eq_some.2 ⟨by simp [View.isArray, hv], rfl⟩
  simp only [Verdict.count, hn, hnull, hcount]
  simp [bne]

theorem bound_splits (now : Time.Instant) {b b' : Bound} (h : Bound.Opposite b b')
    {limit : Value} {n : Int} (hn : Coerce.long? limit true = some n) :
    Occasion.ordered.Splits (some (View.kind v)) (.ok (bound now f b limit v).passes)
      (.ok (bound now f b' limit v).passes) := by
  simp only [bound, hn]
  by_cases hnull : View.isNull v = true
  · rw [if_pos hnull, if_pos hnull]
    exact (split_ok.2 (by simp [h.accepts])).splits _ _
  · rw [if_neg hnull, if_neg hnull]
    cases Coerce.order? now v (Value.int n) f.convert with
    | none =>
      refine splits_unfit fun hkind => hnull ?_
      simpa [View.isNull] using hkind
    | some o => exact (split_ok.2 (by simp [h.accepts])).splits _ _

end Verdict

/-! ### Operators -/

namespace Operator

open Condition

/-- Operators that ask for opposite things. -/
inductive Opposes : Occasion → Operator → Operator → Prop where
  | resolves : Opposes .always (.resolves true) (.resolves false)
  | equals (expected : Parameter) : Opposes .always (.equals false expected) (.equals true expected)
  | hasValue : Opposes .always (.hasValue true) (.hasValue false)
  | matches (p : Pattern) :
    Opposes .always (.matches false (.literal p)) (.matches true (.literal p))
  | among (set : List Value) : Opposes .always (.among false set) (.among true set)
  | text (t : TextTest) (patterns : List String) :
    Opposes .found (.text t false patterns) (.text t true patterns)
  | isKind (k : KindTest) : Opposes .found (.isKind k true) (.isKind k false)
  | count {expected : Value} {n : Int} : Coerce.long? expected true = some n →
    Opposes .array (.count false (.literal expected)) (.count true (.literal expected))
  | bound {b b' : Bound} {limit : Value} {n : Int} : Bound.Opposite b b' →
    Coerce.long? limit true = some n →
    Opposes .ordered (.bound b (.literal limit)) (.bound b' (.literal limit))

variable {α β : Type} [Viewable α] [Viewable β] {occasion : Occasion} {o o' : Operator}

/-- A field that leads nowhere is left to one of them, where it makes a difference. -/
theorem Opposes.missing (h : Opposes occasion o o') (hresolves : ∀ expected, o ≠ .resolves expected) :
    occasion.Splits none (.ok o.passesMissing) (.ok o'.passesMissing) := by
  cases h with
  | resolves => exact absurd rfl (hresolves true)
  | equals | hasValue | «matches» | among => exact split_ok.2 rfl
  | text | isKind | count => simp [Occasion.Splits]
  | bound => exact splits_unfit (by simp)

theorem Opposes.test (h : Opposes occasion o o') (hresolves : ∀ expected, o ≠ .resolves expected)
    (f : Flags) (path : String) (v : β) (c : Context α) :
    ∃ x x', (o.test f path v).outcome c = (.ok x, c) ∧ (o'.test f path v).outcome c = (.ok x', c) ∧
      occasion.Splits (some (View.kind v)) (.ok x.passes) (.ok x'.passes) := by
  cases h with
  | resolves => exact absurd rfl (hresolves true)
  | equals expected =>
    exact ⟨_, _, rfl, rfl, split_ok.2 (Verdict.equals_split f v (expected.value c.scope))⟩
  | hasValue => exact ⟨_, _, rfl, rfl, split_ok.2 (Verdict.hasValue_split v)⟩
  | «matches» p => exact ⟨_, _, rfl, rfl, split_ok.2 (Verdict.matches_split v p)⟩
  | among set => exact ⟨_, _, rfl, rfl, split_ok.2 (Verdict.among_split f v set)⟩
  | text t patterns =>
    exact ⟨_, _, rfl, rfl, fun _ => split_ok.2 (Verdict.text_split f v t patterns)⟩
  | isKind k => exact ⟨_, _, rfl, rfl, fun _ => split_ok.2 (Verdict.isKind_split f v c.now k)⟩
  | count hn =>
    refine ⟨_, _, rfl, rfl, fun harray => split_ok.2 (Verdict.count_split v hn ?_)⟩
    exact Option.some.inj harray
  | bound hb hn => exact ⟨_, _, rfl, rfl, Verdict.bound_splits f v c.now hb hn⟩

end Operator

/-! ### Leaves -/

/-- The kind of a value that is tested. -/
def Tested.kind {α : Type} [Viewable α] : Tested α → Kind
  | .target v => View.kind v
  | .made v => View.kind v

namespace Leaf

open Condition

variable {α : Type} [Viewable α] {occasion : Occasion} {o o' : Operator}

theorem field?_eq_some {l : Leaf} {field : Path.Program} :
    l.field? = some field ↔ l.subject = some (.field field) := by
  unfold field?
  cases l.subject with
  | none => simp
  | some s => cases s <;> simp

omit [Viewable α] in
theorem judged_answer {value : Type} (operand : Operand value) (x : Verdict) (c : Context α) :
    ((judged operand x : Evaluation α Bool).outcome c).1 = .ok x.passes := by
  cases x <;> rfl

/-- A field that leads nowhere is answered without a test. -/
theorem answer_missing {field : Path.Program} {c : Context α} (hmissing : c.resolve field = none)
    (f : Flags) (hresolves : ∀ expected, o ≠ .resolves expected) :
    ((evaluate ⟨o, some (.field field), f⟩ : Evaluation α Bool).outcome c).1 =
      .ok o.passesMissing := by
  have hnothing : isMissing ⟨o, some (.field field), f⟩ c = true := by
    show (c.resolve field).isNone = true
    rw [hmissing]
    rfl
  rw [outcome_evaluate hresolves, hnothing, Bool.and_true]
  dsimp only
  cases o.passesMissing with
  | true => rfl
  | false =>
    rw [if_neg Bool.false_ne_true, evaluateOperand_eq, operand?, outcome_bind, outcome_bind,
      outcome_get]
    dsimp only
    rw [hmissing]
    rfl

/-- What a field leads to is put to the test. -/
theorem outcome_found {field : Path.Program} {c : Context α} {v : Tested α}
    (hfound : c.resolve field = some v) (f : Flags)
    (hresolves : ∀ expected, o ≠ .resolves expected) :
    (evaluate ⟨o, some (.field field), f⟩ : Evaluation α Bool).outcome c =
      (tried ⟨o, some (.field field), f⟩ ⟨.path, field.source, v⟩).outcome c := by
  have hsomething : isMissing ⟨o, some (.field field), f⟩ c = false := by
    show (c.resolve field).isNone = false
    rw [hfound]
    rfl
  rw [outcome_evaluate hresolves, hsomething, Bool.and_false, if_neg Bool.false_ne_true,
    evaluateOperand_eq, operand?, outcome_bind, outcome_bind, outcome_get]
  dsimp only
  rw [hfound]
  rfl

theorem tried_splits (h : Operator.Opposes occasion o o')
    (hresolves : ∀ expected, o ≠ .resolves expected) (s : Option Subject) (f : Flags)
    (operand : Operand α) (c : Context α) :
    occasion.Splits (some operand.value.kind) ((tried ⟨o, s, f⟩ operand).outcome c).1
      ((tried ⟨o', s, f⟩ operand).outcome c).1 := by
  obtain ⟨origin, path, value⟩ := operand
  cases value with
  | target v =>
    obtain ⟨x, x', hx, hx', hsplits⟩ := h.test hresolves f path v c
    simp only [tried, outcome_bind, hx, hx', judged_answer]
    exact hsplits
  | made v =>
    obtain ⟨x, x', hx, hx', hsplits⟩ := h.test hresolves f path v c
    simp only [tried, outcome_bind, hx, hx', judged_answer]
    exact hsplits

theorem resolves_answer (field : Path.Program) (f : Flags) (expected : Bool) (c : Context α) :
    ((evaluate ⟨.resolves expected, some (.field field), f⟩ : Evaluation α Bool).outcome c).1 =
      .ok ((c.resolve field).isSome == expected) := by
  show ((evaluateResolves ⟨.resolves expected, some (.field field), f⟩ expected).outcome c).1 = _
  unfold evaluateResolves field?
  dsimp only
  rw [outcome_bind, outcome_get]
  dsimp only
  cases (c.resolve field).isSome <;> cases expected <;> rfl

/-- Leaves about one field, with operators that ask for opposite things. -/
theorem opposes_splits (h : Operator.Opposes occasion o o') (field : Path.Program) (f : Flags)
    (c : Context α) :
    occasion.Splits ((c.resolve field).map Tested.kind)
      ((evaluate ⟨o, some (.field field), f⟩ : Evaluation α Bool).outcome c).1
      ((evaluate ⟨o', some (.field field), f⟩ : Evaluation α Bool).outcome c).1 := by
  -- Whether a field is there is answered without a test, and all else is left to the tests.
  by_cases hresolves : ∃ expected, o = .resolves expected
  · obtain ⟨expected, rfl⟩ := hresolves
    cases h
    rw [resolves_answer, resolves_answer]
    exact split_ok.2 (by cases (c.resolve field).isSome <;> rfl)
  · rw [not_exists] at hresolves
    have hresolves' (expected : Bool) : o' ≠ .resolves expected := by
      intro heq
      rw [heq] at h
      cases h
      exact hresolves true rfl
    cases hfound : c.resolve field with
    | none =>
      rw [answer_missing hfound f hresolves, answer_missing hfound f hresolves']
      exact h.missing hresolves
    | some v =>
      rw [outcome_found hfound f hresolves, outcome_found hfound f hresolves']
      exact tried_splits h hresolves _ f ⟨.path, field.source, v⟩ c

end Leaf

/-! ### Documents -/

namespace Builder

/-- Operators with their parameters as they are written, that ask for opposite things. -/
inductive Opposite : Occasion → OperatorKind × Value → OperatorKind × Value → Prop where
  | resolves {yes no : Value} : Coerce.bool? yes true = some true →
    Coerce.bool? no true = some false → Opposite .always (.resolves, yes) (.resolves, no)
  | equals (v : Value) : Opposite .always (.equals false, v) (.equals true, v)
  | hasValue {yes no : Value} : Coerce.bool? yes true = some true →
    Coerce.bool? no true = some false → Opposite .always (.hasValue, yes) (.hasValue, no)
  | matches {v : Value} : Function.body? v = none →
    Opposite .always (.matches false, v) (.matches true, v)
  | among (v : Value) : Opposite .always (.among false, v) (.among true, v)
  | text (t : TextTest) (v : Value) : Opposite .found (.text t false, v) (.text t true, v)
  | isKind (k : KindTest) {yes no : Value} : Coerce.bool? yes true = some true →
    Coerce.bool? no true = some false → Opposite .found (.isKind k, yes) (.isKind k, no)
  | count {v : Value} : Function.body? v = none →
    Opposite .array (.count false, v) (.count true, v)
  | bound {b b' : Bound} {v : Value} : Bound.Opposite b b' → Function.body? v = none →
    Opposite .ordered (.bound b, v) (.bound b', v)

variable {b : Builder} {occasion : Occasion} {kind kind' : OperatorKind} {v v' : Value}

/-- The same parameter is read for both. -/
theorem map_eq_ok_both {ε α β γ : Type} {x : Except ε α} {make : α → β} {make' : α → γ} {o : β}
    {o' : γ} (h : x.map make = .ok o) (h' : x.map make' = .ok o') :
    ∃ a, x = .ok a ∧ o = make a ∧ o' = make' a := by
  obtain ⟨a, ha, rfl⟩ := map_eq_ok.1 h
  rw [ha] at h'
  cases h'
  exact ⟨a, ha, rfl, rfl⟩

/-- A truth value is read that is written in some way. -/
theorem map_bool {path : String} {make : Bool → Operator} {o : Operator} {holds : Bool}
    (hv : Coerce.bool? v true = some holds) (h : (bool path v).map make = .ok o) :
    o = make holds := by
  obtain ⟨a, ha, rfl⟩ := map_eq_ok.1 h
  cases hv.symm.trans (require_eq_ok.1 ha)
  rfl

theorem operator_opposes {path : String} {f : Flags} {o o' : Operator}
    (hpair : Opposite occasion (kind, v) (kind', v')) (h : b.operator path f kind v = .ok o)
    (h' : b.operator path f kind' v' = .ok o') : Operator.Opposes occasion o o' := by
  cases hpair with
  | resolves hyes hno =>
    obtain rfl := map_bool hyes h
    obtain rfl := map_bool hno h'
    exact .resolves
  | hasValue hyes hno =>
    obtain rfl := map_bool hyes h
    obtain rfl := map_bool hno h'
    exact .hasValue
  | isKind k hyes hno =>
    obtain rfl := map_bool hyes h
    obtain rfl := map_bool hno h'
    exact .isKind k
  | equals v =>
    obtain ⟨p, -, rfl, rfl⟩ := map_eq_ok_both h h'
    exact .equals p
  | among v =>
    obtain ⟨set, -, rfl, rfl⟩ := map_eq_ok_both h h'
    exact .among set
  | text t v =>
    obtain ⟨patterns, -, rfl, rfl⟩ := map_eq_ok_both h h'
    exact .text t patterns
  | «matches» hv =>
    obtain ⟨s, hs, rfl, rfl⟩ := map_eq_ok_both h h'
    obtain ⟨_, p, -, -, rfl⟩ := pattern_literal hv hs
    exact .matches p
  | count hv =>
    obtain ⟨p, hp, rfl, rfl⟩ := map_eq_ok_both h h'
    obtain ⟨rfl, n, hn⟩ := integer_literal hv hp
    exact .count hn
  | bound hb hv =>
    obtain ⟨p, hp, rfl, rfl⟩ := map_eq_ok_both h h'
    obtain ⟨rfl, n, hn⟩ := integer_literal hv hp
    exact .bound hb hn

/-- What the operator of a leaf is built from. -/
theorem operator_of_leaf {levels : Nat} {location path key : String} {members : Members} {l : Leaf}
    (hone : operators members = [(kind, key, v)])
    (h : b.condition levels location (.object members) = .ok (.leaf path l)) (place : String) :
    b.operator place l.flags kind v = .ok l.operator := by
  cases levels with
  | zero => cases h
  | succ levels =>
    obtain ⟨-, hleaf⟩ := leaf_of_condition h
    obtain ⟨_, _, _, f, s, o, hone', -, -, -, ho, hl⟩ := b.leaf_eq_ok.1 hleaf
    cases hone.symm.trans hone'
    cases hl
    exact ok_of_toOption (b.operator_location _ place f kind v) ho

end Builder

/-- **Opposites split every target.** Two documents of leaves have operators that ask for opposite
things, and name the same field with the same flags. Then in every context exactly one of the two
leaves holds, whether the field leads anywhere or not; for some operators where it leads to
something, and for counts where it leads to an array. Two bounds never both hold, and exactly one of
them does where any of them holds, and of null. -/
theorem opposites_split {b : Builder} {levels levels' : Nat}
    {location location' path path' key key' : String} {members members' : Builder.Members}
    {kind kind' : OperatorKind} {v v' : Value} {occasion : Occasion} {l l' : Leaf}
    {field : Path.Program} (hpair : Builder.Opposite occasion (kind, v) (kind', v'))
    (hone : Builder.operators members = [(kind, key, v)])
    (hone' : Builder.operators members' = [(kind', key', v')])
    (h : b.condition levels location (.object members) = .ok (.leaf path l))
    (h' : b.condition levels' location' (.object members') = .ok (.leaf path' l'))
    (hfield : l.field? = some field) (hfield' : l'.field? = some field)
    (hflags : l.flags = l'.flags) {α : Type} [Viewable α] (c : Context α) :
    occasion.Splits ((c.resolve field).map Tested.kind)
      ((Condition.leaf path l).evaluate.outcome c).1
      ((Condition.leaf path' l').evaluate.outcome c).1 := by
  have hoperator := Builder.operator_of_leaf hone h ""
  have hoperator' := Builder.operator_of_leaf hone' h' ""
  rw [← hflags] at hoperator'
  have hopposes := Builder.operator_opposes hpair hoperator hoperator'
  obtain ⟨o, s, f⟩ := l
  obtain ⟨o', s', f'⟩ := l'
  obtain rfl : f = f' := hflags
  obtain rfl := Leaf.field?_eq_some.1 hfield
  obtain rfl := Leaf.field?_eq_some.1 hfield'
  exact Leaf.opposes_splits hopposes field f c

/-- An array of one item has not two items. -/
theorem opposites_split_count :
    let b := Builder.of Regex.engine {}
    let document (key : String) : Value := .object [("field", .text "items"), (key, .int 2)]
    let c := Context.of Regex.engine (Value.object [("items", .array [.null])]) {} ⟨0, 0⟩
    ∃ l l' field, b.condition 1 "" (document "count") = .ok (.leaf ".count" l) ∧
      b.condition 1 "" (document "notCount") = .ok (.leaf ".notCount" l') ∧
      l.field? = some field ∧ (c.resolve field).map Tested.kind = some .array ∧
      Split ((Condition.leaf ".count" l).evaluate.outcome c).1
        ((Condition.leaf ".notCount" l').evaluate.outcome c).1 := by
  intro b document c
  let field : Path.Program := .mk "items" [.member "items" false] [.member "items" false]
  let leaf (negated : Bool) : Leaf := ⟨.count negated (.literal (.int 2)), some (.field field),
    ⟨false, false, false, false, false, false⟩⟩
  have hsubject {place : String} {members : Builder.Members}
      (hfield : Builder.member? members "field" = some (.text "items")) :
      b.subject place members = .ok (some (.field field)) :=
    Builder.subject_of_field hfield
      (Builder.field_of_compile (Path.compile_name (by decide +kernel) _ _))
  have hcount : b.condition 1 "" (document "count") = .ok (.leaf ".count" (leaf false)) :=
    b.condition_eq_ok.2 ⟨_, rfl, .inl ⟨rfl, b.leaf_eq_ok.2 ⟨.count false, "count", .int 2, _, _, _,
      rfl, rfl, hsubject rfl, fun _ => ⟨_, rfl⟩, rfl, rfl⟩⟩⟩
  have hnotCount : b.condition 1 "" (document "notCount") = .ok (.leaf ".notCount" (leaf true)) :=
    b.condition_eq_ok.2 ⟨_, rfl, .inl ⟨rfl, b.leaf_eq_ok.2 ⟨.count true, "notCount", .int 2, _, _, _,
      rfl, rfl, hsubject rfl, fun _ => ⟨_, rfl⟩, rfl, rfl⟩⟩⟩
  have hkind : (c.resolve field).map Tested.kind = some .array := by decide +kernel
  exact ⟨leaf false, leaf true, field, hcount, hnotCount, rfl, hkind,
    opposites_split (.count rfl) rfl rfl hcount hnotCount rfl rfl rfl c hkind⟩

end Sift
