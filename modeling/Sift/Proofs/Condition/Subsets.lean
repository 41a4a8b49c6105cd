import Sift.Proofs.Condition.Sets

/-! Subsets of values.

Of the two operators on arrays, the one for sets looks for each expected item and the one for
subsets counts it. What is looked for may also be the value as a whole, which is not counted where
the value is an array. But an array is equal to nothing, so an item is found exactly where its count
is not zero (`isIn_iff_countIn`), and the two agree on what is there (`membership_counted`). -/
namespace Sift

open Coerce

/-! ### Counts -/

section Counts

variable {α β : Type}

/-- No more than one member is counted exactly if those at different places never are both. -/
theorem countP_le_one {p : α → Bool} {xs : List α} : xs.countP p ≤ 1 ↔
    ∀ i j (hi : i < xs.length) (hj : j < xs.length), p xs[i] = true → p xs[j] = true → i = j := by
  have hpairs (ys : List α) : ys.length ≤ 1 ↔ ys.Pairwise fun _ _ => False := by
    match ys with
    | [] | [_] => simp
    | x :: y :: rest =>
      refine ⟨fun hlength => absurd hlength (by simp), fun h => ?_⟩
      exact (List.rel_of_pairwise_cons h (List.mem_cons_self (a := y))).elim
  have hplaces :=
    @pairwise_not_iff α (fun x y => p x = true ∧ p y = true) xs fun _ _ => And.symm
  rw [List.countP_eq_length_filter, hpairs, List.pairwise_filter]
  simpa only [not_and, and_imp, imp_false] using hplaces

variable [Viewable α] [Viewable β] {v : α} {expected : β} {caseSensitive : Bool}

theorem countIn_array (hv : View.isArray v = true) : countIn v expected caseSensitive =
    (View.items v).countP fun x => equal expected x caseSensitive false false := by
  rw [countIn, if_pos hv, List.countP_eq_length_filter]

/-- A value is found in another exactly if it is counted there. -/
theorem isIn_iff_countIn :
    isIn v expected caseSensitive = true ↔ 0 < countIn v expected caseSensitive := by
  cases hv : View.isArray v with
  | true => rw [Verdict.isIn_array hv, countIn_array hv, List.countP_pos_iff]
  | false =>
    rw [isIn, countIn, hv]
    cases equal expected v caseSensitive false false <;> simp

end Counts

/-! ### Expected subsets -/

/-- The item is equal to values at no two places. -/
def AtMostOnce {α : Type} [Viewable α] (caseSensitive : Bool) (item : Value) (vs : List α) :
    Prop :=
  ∀ i j (hi : i < vs.length) (hj : j < vs.length),
    equal item vs[i] caseSensitive false false = true →
    equal item vs[j] caseSensitive false false = true → i = j

namespace Verdict

variable {α : Type} [Viewable α] {f : Flags} {field : String} {items : List Value} {v : α}

theorem occurrence?_eq_none (hv : View.isArray v = true) {item : Value} :
    occurrence? f field v item = none ↔ isIn v item f.caseSensitive = true ∧
      (f.unique = true → AtMostOnce f.caseSensitive item (View.items v)) := by
  have hcount : countIn v item f.caseSensitive ≤ 1 ↔
      AtMostOnce f.caseSensitive item (View.items v) := by
    rw [countIn_array hv]
    exact countP_le_one
  rw [isIn_iff_countIn, ← hcount, occurrence?]
  by_cases hzero : countIn v item f.caseSensitive = 0
  · simp [hzero]
  · by_cases hmany : 1 < countIn v item f.caseSensitive
    · cases f.unique <;> simp [hzero, hmany, Nat.pos_of_ne_zero]
    · simp [hzero, hmany, Nat.pos_of_ne_zero, Nat.le_of_not_lt hmany]

/-- An array passes that has all items in it, and none more than once if they have to be unique. -/
theorem subset_eq_pass : subset f field items v = .pass ↔ View.isArray v = true ∧
    (∀ item ∈ items, isIn v item f.caseSensitive = true) ∧
      (f.unique = true → ∀ item ∈ items, AtMostOnce f.caseSensitive item (View.items v)) := by
  cases hcount : View.count? v with
  | none => simp [subset, View.isArray_eq, hcount]
  | some n =>
    have hv : View.isArray v = true := (View.count?_eq_some.1 hcount).1
    have hnone : subset f field items v = .pass ↔
        ∀ item ∈ items, occurrence? f field v item = none := by
      rw [subset, hcount, ← List.findSome?_eq_none_iff]
      cases items.findSome? (occurrence? f field v) <;> simp
    simp only [hnone, hv, occurrence?_eq_none hv, true_and]
    constructor
    · exact fun h => ⟨fun item hmem => (h item hmem).1,
        fun hunique item hmem => (h item hmem).2 hunique⟩
    · rintro ⟨hfound, honce⟩ item hmem
      exact ⟨hfound item hmem, fun hunique => honce hunique item hmem⟩

/-- **A value is found in another exactly if it is counted there.** So an array that is the
expected set also has it as a subset, where items may stand in it more than once. Where they have to
be unique, it passes exactly if it does otherwise and none of them is equal to two of its own. -/
theorem membership_counted (f : Flags) (field : String) (items : List Value) (v : α) :
    (∀ {β : Type} [Viewable β] (expected : β) (caseSensitive : Bool),
      isIn v expected caseSensitive = true ↔ 0 < countIn v expected caseSensitive) ∧
    (setOf f field items v = .pass → subset { f with unique := false } field items v = .pass) ∧
    (subset { f with unique := true } field items v = .pass ↔
      subset { f with unique := false } field items v = .pass ∧
        ∀ item ∈ items, AtMostOnce f.caseSensitive item (View.items v)) := by
  refine ⟨fun _ _ => isIn_iff_countIn, fun h => ?_, ?_⟩
  · obtain ⟨hcount, hfound⟩ := setOf_eq_pass.1 h
    exact subset_eq_pass.2 ⟨(View.count?_eq_some.1 hcount).1, hfound, nofun⟩
  · rw [subset_eq_pass, subset_eq_pass]
    simp [and_assoc]

/-- Two integers that are not equal, and a number that is equal to both. -/
theorem membership_counted_rounded :
    let f : Flags := ⟨false, false, false, false, false, false⟩
    let items : List Value := [.float (.ofInt 9007199254740992), .int 9007199254740993]
    let v : Value := .array [.int 9007199254740992, .int 9007199254740993]
    setOf f "v" items v = .pass ∧ subset f "v" items v = .pass ∧
      subset { f with unique := true } "v" items v ≠ .pass := by
  intro f items v
  have hset : setOf f "v" items v = .pass := by decide +kernel
  obtain ⟨-, hsubset, hunique⟩ := membership_counted f "v" items v
  refine ⟨hset, hsubset hset, fun h => ?_⟩
  obtain ⟨-, honce⟩ := hunique.1 h
  have hsame := honce (.float (.ofInt 9007199254740992)) List.mem_cons_self 0 1 (by decide)
    (by decide) (by decide +kernel) (by decide +kernel)
  cases hsame

end Verdict

end Sift
