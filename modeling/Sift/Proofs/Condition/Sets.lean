import Mathlib.Data.Fintype.Card
import Mathlib.Data.Fintype.EquivFin
import Sift.Condition.Test
import Sift.Proofs.Value.Equality

/-! Sets of values.

An operator that asks for a set counts the items of an array, and looks for each expected item
among them. Nothing more is looked at, so this makes the array the expected set only where no item
of it can stand for two expected ones (`Apart`): as many items as expected ones are then one for
each of these (`exists_assignment`). -/
namespace Sift

open Coerce

/-! ### Partners in a list of the same length -/

section Assignment

variable {α β : Type} {R : α → β → Prop} {xs : List α} {ys : List β}

/-- Each of `xs` has a partner in `ys`, which are no more, and none is the partner of two: so there
is one for each. -/
theorem exists_assignment (hlength : ys.length = xs.length) (hfound : ∀ x ∈ xs, ∃ y ∈ ys, R x y)
    (honly : ∀ y ∈ ys, ∀ i j (hi : i < xs.length) (hj : j < xs.length), R xs[i] y → R xs[j] y →
      i = j) : ∃ σ : Fin xs.length ≃ Fin ys.length, ∀ i, R (xs.get i) (ys.get (σ i)) := by
  have hpartner (i : Fin xs.length) : ∃ j, R (xs.get i) (ys.get j) := by
    obtain ⟨y, hy, h⟩ := hfound (xs.get i) (List.get_mem xs i)
    obtain ⟨j, rfl⟩ := List.get_of_mem hy
    exact ⟨j, h⟩
  choose f hf using hpartner
  have hinjective : Function.Injective f := by
    intro i j hij
    have hj := hf j
    rw [← hij] at hj
    exact Fin.ext (honly _ (List.get_mem ys (f i)) i j i.isLt j.isLt (hf i) hj)
  have hbijective : Function.Bijective f :=
    (Fintype.bijective_iff_injective_and_card f).2 ⟨hinjective, by simp [hlength]⟩
  exact ⟨.ofBijective f hbijective, hf⟩

end Assignment

/-- No two members are related exactly if those at different places never are. -/
theorem pairwise_not_iff {α : Type} {R : α → α → Prop} {xs : List α}
    (hsymm : ∀ x y, R x y → R y x) : xs.Pairwise (fun x y => ¬R x y) ↔
      ∀ i j (hi : i < xs.length) (hj : j < xs.length), R xs[i] xs[j] → i = j := by
  rw [List.pairwise_iff_getElem]
  constructor
  · intro h i j hi hj hij
    by_contra hne
    obtain hlt | hlt := Nat.lt_or_gt_of_ne hne
    · exact h i j hi hj hlt hij
    · exact h j i hj hi hlt (hsymm _ _ hij)
  · intro h i j hi hj hlt hij
    exact hlt.ne (h i j hi hj hij)

/-! ### Expected sets -/

/-- No value is equal to expected items at two places. -/
def Apart {α : Type} [Viewable α] (caseSensitive : Bool) (items : List Value) (vs : List α) : Prop :=
  ∀ v ∈ vs, ∀ i j (hi : i < items.length) (hj : j < items.length),
    equal items[i] v caseSensitive false false = true →
    equal items[j] v caseSensitive false false = true → i = j

/-- It is so in every array if the expected items have different keys. -/
theorem apart_of_keys {α : Type} [Viewable α] {caseSensitive : Bool} {items : List Value}
    (vs : List α) (h : items.Pairwise fun v w => key? caseSensitive v ≠ key? caseSensitive w) :
    Apart caseSensitive items vs := by
  intro v _ i j hi hj hiv hjv
  obtain ⟨⟨k, hik, hvk⟩, -⟩ := equal_iff.1 hiv
  obtain ⟨⟨l, hjl, hvl⟩, -⟩ := equal_iff.1 hjv
  have hkeys : key? caseSensitive items[i] = key? caseSensitive items[j] := by
    rw [hik, hjl, ← hvk, hvl]
  exact (pairwise_not_iff fun _ _ => Eq.symm).1 h i j hi hj hkeys

namespace Verdict

variable {α : Type} [Viewable α] {f : Flags} {field : String} {items : List Value} {v : α}

theorem setOf_eq_pass : setOf f field items v = .pass ↔
    View.count? v = some items.length ∧ ∀ item ∈ items, isIn v item f.caseSensitive = true := by
  unfold setOf
  cases hcount : View.count? v with
  | none => simp
  | some count =>
    dsimp only
    by_cases hlength : count = items.length
    · rw [if_pos hlength]
      cases hmissed : items.find? fun item => !isIn v item f.caseSensitive with
      | none => simpa [hlength] using hmissed
      | some item =>
        have hmem := List.mem_of_find?_eq_some hmissed
        have hnot := List.find?_some hmissed
        simp only [reduceCtorEq, false_iff, not_and, not_forall]
        exact fun _ => ⟨item, hmem, by simpa using hnot⟩
    · rw [if_neg hlength]
      simp [hlength]

/-- In an array only the items can be equal to the expected value. -/
theorem isIn_array {β : Type} [Viewable β] {expected : β} {caseSensitive : Bool}
    (hv : View.isArray v = true) :
    isIn v expected caseSensitive = true ↔
      ∃ x ∈ View.items v, equal expected x caseSensitive false false = true := by
  rw [isIn, equal_array hv, hv, Bool.or_false, Bool.true_and, List.any_eq_true]

/-- **An array that passes for a set has as many items as are expected, and all that are.** Where no
item of it is equal to expected items at two places, it has nothing else, and nothing twice. -/
theorem setOf_exact (h : setOf f field items v = .pass) :
    (View.items v).length = items.length ∧
      (∀ item ∈ items, ∃ x ∈ View.items v, equal item x f.caseSensitive false false = true) ∧
      (Apart f.caseSensitive items (View.items v) →
        (∀ x ∈ View.items v, ∃ item ∈ items, equal item x f.caseSensitive false false = true) ∧
          ∀ i j (hi : i < (View.items v).length) (hj : j < (View.items v).length),
            equal (View.items v)[i] (View.items v)[j] f.caseSensitive false false = true →
              i = j) := by
  obtain ⟨hcount, hfound⟩ := setOf_eq_pass.1 h
  obtain ⟨harray, hlength⟩ := View.count?_eq_some.1 hcount
  have hfound (item : Value) (hitem : item ∈ items) :=
    (isIn_array harray).1 (hfound item hitem)
  refine ⟨hlength, hfound, fun hapart => ?_⟩
  obtain ⟨σ, hσ⟩ := exists_assignment hlength hfound hapart
  have hpartner (j : Fin (View.items v).length) :
      equal (items.get (σ.symm j)) ((View.items v).get j) f.caseSensitive false false = true := by
    have h := hσ (σ.symm j)
    rwa [σ.apply_symm_apply] at h
  constructor
  · intro x hx
    obtain ⟨j, hj, rfl⟩ := List.getElem_of_mem hx
    exact ⟨_, List.get_mem items _, hpartner ⟨j, hj⟩⟩
  · intro i j hi hj hij
    -- One of the two items is equal to the expected items of both.
    have hsame : σ.symm ⟨i, hi⟩ = σ.symm ⟨j, hj⟩ := by
      obtain hboth | hboth := equal_bridge (hpartner ⟨i, hi⟩) (hpartner ⟨j, hj⟩) hij
      · exact Fin.ext (hapart _ (List.getElem_mem hi) _ _ (Fin.isLt _) (Fin.isLt _)
          (hpartner ⟨i, hi⟩) hboth)
      · exact Fin.ext (hapart _ (List.getElem_mem hj) _ _ (Fin.isLt _) (Fin.isLt _)
          hboth (hpartner ⟨j, hj⟩))
    exact congrArg Fin.val (σ.symm.injective hsame)

/-- A text in other letters and a number, in another order. -/
theorem setOf_exact_reordered :
    let f : Flags := ⟨false, false, false, false, false, false⟩
    let items : List Value := [.text "a", .int 1]
    let v : Value := .array [.int 1, .text "A"]
    setOf f "v" items v = .pass ∧ Apart false items (View.items v) ∧
      (∀ x ∈ View.items v, ∃ item ∈ items, equal item x false false false = true) ∧
      ∀ i j (hi : i < (View.items v).length) (hj : j < (View.items v).length),
        equal (View.items v)[i] (View.items v)[j] false false false = true → i = j := by
  intro f items v
  have hpass : setOf f "v" items v = .pass := by decide +kernel
  have hapart : Apart false items (View.items v) := by
    refine apart_of_keys _ ?_
    simp [items, key?, Viewable.shape]
  obtain ⟨-, -, hexact⟩ := setOf_exact hpass
  exact ⟨hpass, hapart, hexact hapart⟩

/-- Where one item is expected twice, another one may stand beside it, and it may stand there
twice. -/
theorem setOf_astray :
    let f : Flags := ⟨true, false, false, false, false, false⟩
    let items : List Value := [.text "a", .text "a"]
    setOf f "v" items (Value.array [.text "a", .text "b"]) = .pass ∧
      (∀ item ∈ items, equal item (Value.text "b") true false false = false) ∧
      setOf f "v" items (Value.array [.text "a", .text "a"]) = .pass ∧
      equal (Value.text "a") (Value.text "a") true false false = true := by
  decide +kernel

end Verdict

end Sift
