import Mathlib.Algebra.Group.Int.Defs
import Sift.Proofs.Condition.Opposites
import Sift.Proofs.Path.Formula
import Sift.Regex.Engine

/-! Integers in order.

Two integers are compared as such if both fit a word of 64 bits, and the bound of a leaf and the
literal of a filter always do. An integer of the document that is greater is still an integer, but
it is only read as a float, and this only where it is to be converted. Without conversion it has no
order against any bound (`Coerce.order?_integer`), so no comparison holds of it. That is right where
it has to be less and wrong where it has to be greater: `integer_bounds` says what leaves and
filters answer, and `large_is_not_greater` shows one of each that is wrong. -/
namespace Sift

open Text (fitsInt64)

/-! ### Bounds as relations -/

/-- How an integer stands to a bound of this kind. -/
def Bound.Relates : Bound → Int → Int → Prop
  | .less, n, e => n < e
  | .lessOrEquals, n, e => n ≤ e
  | .greater, n, e => e < n
  | .greaterOrEquals, n, e => e ≤ n

instance (b : Bound) (n e : Int) : Decidable (b.Relates n e) := by
  cases b <;> unfold Bound.Relates <;> infer_instance

/-- The comparison of filters that asks for the same. -/
def Bound.comparison : Bound → Path.Comparison
  | .less => .lt
  | .lessOrEquals => .le
  | .greater => .gt
  | .greaterOrEquals => .ge

theorem Bound.accepts_compare (b : Bound) (n e : Int) :
    b.accepts (compare n e) = decide (b.Relates n e) := by
  rw [Bool.eq_iff_iff, decide_eq_true_iff]
  cases b with
  | less => exact Ordering.isLT_iff_eq_lt.trans Int.compare_eq_lt
  | lessOrEquals => exact Int.isLE_compare
  | greater => exact Ordering.isGT_iff_eq_gt.trans Int.compare_eq_gt
  | greaterOrEquals => exact Int.isGE_compare

/-- What fits a word, from its lower end on. -/
theorem fitsInt64_iff {n : Int} (hn : -2 ^ 63 ≤ n) : fitsInt64 n = true ↔ n < 2 ^ 63 := by
  simp only [fitsInt64, Bool.and_eq_true, decide_eq_true_eq]
  omega

/-! ### The order of an integer -/

section Order

variable {α : Type} [Viewable α] {v : α} {n e : Int}

theorem Coerce.long?_integer (hv : Viewable.shape v = .int n) (convert : Bool) :
    long? v convert = if fitsInt64 n then some n else none := by
  simp [long?, View.kind, View.int?, hv]

/-- Without conversion, an integer has an order against another one only if it fits a word. -/
theorem Coerce.order?_integer (now : Time.Instant) (hv : Viewable.shape v = .int n)
    (he : fitsInt64 e = true) :
    order? now v (Value.int e) false = if fitsInt64 n then some (compare n e) else none := by
  have hlimit : long? (Value.int e) true = some e := by
    rw [long?_integer rfl, if_pos he]
  rw [order?, long?_integer hv, hlimit]
  cases fitsInt64 n with
  | true => rfl
  | false =>
    -- It is neither read as a float nor as a date, and has no length.
    have hfloat : float? v false = none := by simp [float?, View.kind, hv]
    have hlength : length? v = none := by simp [length?, View.text?, View.count?, hv]
    simp [both?, hfloat, hlength, instant?]

theorem Verdict.bound_integer (now : Time.Instant) {f : Flags} (hf : f.convert = false) (b : Bound)
    (hv : Viewable.shape v = .int n) (he : fitsInt64 e = true) :
    (bound now f b (.int e) v).passes = (decide (b.Relates n e) && fitsInt64 n) := by
  have hnull : View.isNull v = false := by simp [View.isNull, View.kind, hv]
  rw [bound, Coerce.long?_integer rfl, if_pos he]
  dsimp only
  rw [hnull, if_neg Bool.false_ne_true, hf, Coerce.order?_integer now hv he]
  cases fitsInt64 n with
  | true => simp [b.accepts_compare]
  | false => simp [passes]

theorem Path.compareValues_integer (o : QueryOptions) (b : Bound) (hv : Viewable.shape v = .int n)
    (he : fitsInt64 e = true) : compareValues o b.comparison v (Value.int e) =
      (decide (b.Relates n e) && fitsInt64 n) := by
  have hordered : compareValues o b.comparison v (Value.int e) =
      (Coerce.order? o.now v (Value.int e) false).any b.accepts := by cases b <;> rfl
  rw [hordered, Coerce.order?_integer o.now hv he]
  cases fitsInt64 n with
  | true => simp [b.accepts_compare]
  | false => simp

end Order

/-! ### Leaves -/

/-- The value is this integer. -/
def Tested.IsInteger {α : Type} [Viewable α] (n : Int) : Tested α → Prop
  | .target v => Viewable.shape v = .int n
  | .made v => Viewable.shape v = .int n

namespace Leaf

open Condition

variable {α : Type} [Viewable α] {c : Context α} {n e : Int}

/-- The leaf tests this integer: its field leads there, or its value is that. -/
def Tests (l : Leaf) (c : Context α) (n : Int) : Prop :=
  ∃ operand, l.operand?.outcome c = (.ok (some operand), c) ∧ operand.value.IsInteger n

theorem tests_field {o : Operator} {field : Path.Program} {f : Flags} {v : Tested α}
    (hfound : c.resolve field = some v) (hv : v.IsInteger n) :
    Tests ⟨o, some (.field field), f⟩ c n := by
  refine ⟨⟨.path, field.source, v⟩, ?_, hv⟩
  rw [operand?, outcome_bind, outcome_get]
  dsimp only
  rw [hfound]
  rfl

theorem answer_bound {l : Leaf} {b : Bound} (ho : l.operator = .bound b (.literal (.int e)))
    (hf : l.flags.convert = false) (ht : l.Tests c n) (he : fitsInt64 e = true) :
    (l.evaluate.outcome c).1 = .ok (decide (b.Relates n e) && fitsInt64 n) := by
  obtain ⟨⟨origin, path, v⟩, hout, hv⟩ := ht
  rw [outcome_evaluate (fun _ h => nomatch ho.symm.trans h), ho]
  show (l.evaluateOperand.outcome c).1 = _
  rw [evaluateOperand_eq, outcome_bind, hout]
  dsimp only
  unfold tried
  rw [ho]
  cases v with
  | target v =>
    show ((judged _ (Verdict.bound c.now l.flags b (.int e) v) : Evaluation α Bool).outcome c).1 = _
    rw [judged_answer, Verdict.bound_integer c.now hf b hv he]
  | made v =>
    show ((judged _ (Verdict.bound c.now l.flags b (.int e) v) : Evaluation α Bool).outcome c).1 = _
    rw [judged_answer, Verdict.bound_integer c.now hf b hv he]

end Leaf

namespace Builder

/-- Nothing is converted unless it is asked for. -/
theorem flags_convert {path : String} {members : Members} {f : Flags}
    (h : flags path members = .ok f) (hconvert : member? members "convert" = none) :
    f.convert = false := by
  unfold flags at h
  obtain ⟨caseSensitive, -, h⟩ := Path.bind_eq_ok.1 h
  obtain ⟨convert, hflag, h⟩ := Path.bind_eq_ok.1 h
  obtain ⟨unique, -, h⟩ := Path.bind_eq_ok.1 h
  obtain ⟨ignoreScheme, -, h⟩ := Path.bind_eq_ok.1 h
  obtain ⟨includePrerelease, -, h⟩ := Path.bind_eq_ok.1 h
  obtain ⟨requireLetters, -, h⟩ := Path.bind_eq_ok.1 h
  cases h
  rw [flag, hconvert] at hflag
  cases hflag
  rfl

/-- What a leaf is built to with an integer as its bound. -/
theorem leaf_of_bound {b : Builder} {levels : Nat} {location path key : String} {members : Members}
    {bound : Bound} {e : Int} {l : Leaf} (hone : operators members = [(.bound bound, key, .int e)])
    (hconvert : member? members "convert" = none)
    (h : b.condition levels location (.object members) = .ok (.leaf path l)) :
    l.operator = .bound bound (.literal (.int e)) ∧ l.flags.convert = false := by
  have ho := operator_of_leaf hone h ""
  obtain ⟨p, hp, ho⟩ := map_eq_ok.1 ho
  obtain ⟨rfl, -⟩ := integer_literal rfl hp
  cases levels with
  | zero => cases h
  | succ levels =>
    obtain ⟨-, hleaf⟩ := leaf_of_condition h
    obtain ⟨_, _, _, f, _, _, -, hf, -, -, -, hl⟩ := b.leaf_eq_ok.1 hleaf
    cases hl
    exact ⟨ho.symm, flags_convert hf hconvert⟩

end Builder

/-! ### Documents and filters -/

/-- **An integer is compared with an integer as it should be, as long as it is less than 2⁶³.** So
it is by a leaf without conversion, which is built from a document with the bound as an integer, and
by a filter. No greater integer passes: it is never less than the bound, but it is greater. -/
theorem integer_bounds {n e : Int} (hn : -2 ^ 63 ≤ n) (he : fitsInt64 e = true) (bound : Bound)
    (α : Type) [Viewable α] :
    (∀ (b : Builder) (levels : Nat) (location path key : String) (members : Builder.Members)
      (l : Leaf) (c : Context α), Builder.operators members = [(.bound bound, key, .int e)] →
      Builder.member? members "convert" = none →
      b.condition levels location (.object members) = .ok (.leaf path l) → l.Tests c n →
      ((Condition.leaf path l).evaluate.outcome c).1 =
        .ok (decide (bound.Relates n e ∧ n < 2 ^ 63))) ∧
    (∀ (o : Path.QueryOptions) (root candidate v : α) (left : Path.Program),
      Path.first? o root left candidate = some v → Viewable.shape v = .int n →
      Path.test o root (.compare bound.comparison left (.literal (.int e))) candidate =
        decide (bound.Relates n e ∧ n < 2 ^ 63)) ∧
    (bound = .less ∨ bound = .lessOrEquals → bound.Relates n e → n < 2 ^ 63) := by
  have hanswer : (decide (bound.Relates n e) && fitsInt64 n) =
      decide (bound.Relates n e ∧ n < 2 ^ 63) := by
    rw [Bool.eq_iff_iff, Bool.and_eq_true, fitsInt64_iff hn, decide_eq_true_iff, decide_eq_true_iff]
  refine ⟨?_, ?_, ?_⟩
  · intro b levels location path key members l c hone hconvert h ht
    obtain ⟨ho, hf⟩ := Builder.leaf_of_bound hone hconvert h
    rw [← hanswer]
    exact Leaf.answer_bound ho hf ht he
  · intro o root candidate v left hv hshape
    have hfilter :=
      Path.test_relation o root (.compare bound.comparison left (.literal (.int e))) candidate
    rw [Path.Relation.predicate, Path.Relation.holds, hv, Option.any_some] at hfilter
    rw [hfilter, Path.compareValues_integer o bound hshape he, hanswer]
  · have hmax : e < 2 ^ 63 := (fitsInt64_iff (by simp [fitsInt64] at he; omega)).1 he
    rintro (rfl | rfl) hless
    · exact Int.lt_trans hless hmax
    · exact Int.lt_of_le_of_lt hless hmax

section Positive

/-- The condition that the field `v` is greater than zero. -/
def positive : Builder.Members := [("field", .text "v"), ("greater", .int 0)]

/-- The leaf that it is built to. -/
def positiveLeaf : Leaf :=
  ⟨.bound .greater (.literal (.int 0)),
    some (.field (.mk "v" [.member "v" false] [.member "v" false])),
    ⟨false, false, false, false, false, false⟩⟩

theorem condition_positive :
    (Builder.of Regex.engine {}).condition 1 "" (.object positive) =
      .ok (.leaf ".greater" positiveLeaf) := by
  let b := Builder.of Regex.engine {}
  have hsubject : b.subject ".greater" positive = .ok positiveLeaf.subject :=
    Builder.subject_of_field rfl
      (Builder.field_of_compile (Path.compile_name (by decide +kernel) _ _))
  exact b.condition_eq_ok.2 ⟨_, rfl, .inl ⟨rfl, b.leaf_eq_ok.2
    ⟨.bound .greater, "greater", .int 0, _, _, _, rfl, rfl, hsubject, nofun, rfl, rfl⟩⟩⟩

/-- The context of a document in which the field `v` is an integer. -/
def contextOf (n : Int) : Context Value :=
  Context.of Regex.engine (.object [("v", .int n)]) {} ⟨0, 0⟩

theorem positive_tests (n : Int) : positiveLeaf.Tests (contextOf n) n :=
  Leaf.tests_field (v := .target (.int n)) rfl rfl

/-- Five is greater than zero. -/
theorem integer_bounds_five :
    ((Condition.leaf ".greater" positiveLeaf).evaluate.outcome (contextOf 5)).1 = .ok true ∧
      Path.test ⟨false, 100, ⟨0, 0⟩, Regex.engine, defaultSizeLimit⟩ (Value.int 5)
        (.compare .gt (.mk "@" [.current] [.current]) (.literal (.int 0))) (Value.int 5) =
          true := by
  have hfive := integer_bounds (n := 5) (e := 0) (by decide) rfl .greater Value
  refine ⟨?_, ?_⟩
  · exact hfive.1 _ 1 "" ".greater" "greater" positive positiveLeaf (contextOf 5) rfl rfl
      condition_positive (positive_tests 5)
  · exact hfive.2.1 _ (.int 5) (.int 5) (.int 5) _ rfl rfl

/-- The least integer that does not fit is greater than zero as well, and neither says so. -/
theorem large_is_not_greater :
    Bound.greater.Relates (2 ^ 63) 0 ∧ positiveLeaf.Tests (contextOf (2 ^ 63)) (2 ^ 63) ∧
      (Builder.of Regex.engine {}).condition 1 "" (.object positive) =
        .ok (.leaf ".greater" positiveLeaf) ∧
      ((Condition.leaf ".greater" positiveLeaf).evaluate.outcome (contextOf (2 ^ 63))).1 =
        .ok false ∧
      Path.test ⟨false, 100, ⟨0, 0⟩, Regex.engine, defaultSizeLimit⟩ (Value.int (2 ^ 63))
        (.compare .gt (.mk "@" [.current] [.current]) (.literal (.int 0))) (Value.int (2 ^ 63)) =
          false := by
  refine ⟨by decide, positive_tests _, condition_positive, ?_, ?_⟩
  · exact Leaf.answer_bound rfl rfl (positive_tests _) rfl
  · decide +kernel

end Positive

end Sift
