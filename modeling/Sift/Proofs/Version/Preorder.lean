import Sift.Proofs.Version.Order

/-! The orders of versions are total preorders.

Identifiers are of two kinds, numbers and words, and each pair is compared by the rule of its
kinds. This still is one order: the numbers come first, in the order of their values, and the
words come behind them. What is made of it is put together as the library puts orders together:
lists are compared by their first difference, and versions by their numbers first. So the order
of prereleases is a total preorder whatever their texts are, with the stable ones on top, and so
are the orders of both kinds of versions (`orders_total`). -/
namespace Sift.Version

open Std (TransCmp OrientedCmp)

/-- A comparison whose "at most" is total and transitive, and whose reverse is its mirror
image. Values may be level without being the same. -/
structure IsTotalPreorder {α : Type} (cmp : α → α → Ordering) : Prop where
  total : ∀ a b, (cmp a b).isLE = true ∨ (cmp b a).isLE = true
  reverse : ∀ a b, cmp b a = (cmp a b).swap
  trans : ∀ a b c, (cmp a b).isLE = true → (cmp b c).isLE = true → (cmp a c).isLE = true

theorem isTotalPreorder {α : Type} (cmp : α → α → Ordering) [TransCmp cmp] :
    IsTotalPreorder cmp where
  total a b := by
    have hreverse : cmp b a = (cmp a b).swap := OrientedCmp.eq_swap
    rw [hreverse]
    cases cmp a b <;> simp
  reverse _ _ := OrientedCmp.eq_swap
  trans _ _ _ := TransCmp.isLE_trans

/-! ### Identifiers -/

namespace Prerelease

theorem compareChars_eq (a b : List Char) :
    compareChars a b = List.compareLex (compareOn Char.toNat) a b := by
  induction a generalizing b with
  | nil => cases b <;> rfl
  | cons x a ih =>
    cases b with
    | nil => rfl
    | cons y b =>
      rw [compareChars, List.compareLex_cons_cons, ih]
      rfl

instance : TransCmp compareChars := by
  rw [show compareChars = _ from funext fun a => funext (compareChars_eq a)]
  infer_instance

/-- Numbers come before words, so what is at most a number is one, and what is at least a word
is one. -/
instance : TransCmp compareIdentifiers where
  eq_swap := compareIdentifiers_swap _ _
  isLE_trans {a b c} hab hbc := by
    cases ha : Text.readInt64? a <;> cases hb : Text.readInt64? b <;>
      cases hc : Text.readInt64? c <;> simp only [compareIdentifiers, ha, hb, hc] at hab hbc ⊢
    · exact TransCmp.isLE_trans hab hbc
    · exact hbc
    · cases hab
    · exact hab
    · rfl
    · cases hbc
    · rfl
    · exact TransCmp.isLE_trans hab hbc

theorem compareLists_eq (a b : List (List Char)) :
    compareLists a b = List.compareLex compareIdentifiers a b := by
  induction a generalizing b with
  | nil => cases b <;> rfl
  | cons x a ih =>
    cases b with
    | nil => rfl
    | cons y b => rw [compareLists, List.compareLex_cons_cons, ih]

instance : TransCmp compareLists := by
  rw [show compareLists = _ from funext fun a => funext (compareLists_eq a)]
  infer_instance

/-! ### Prereleases -/

theorem isStable_iff (p : Prerelease) : p.isStable = true ↔ p.identifiers = [] :=
  List.isEmpty_iff

/-- Stable versions are level with each other and above all others. -/
theorem order_of_isStable {a : Prerelease} (h : a.isStable = true) (b : Prerelease) :
    a.order b = if b.isStable then .eq else .gt := by
  unfold order
  rw [h]
  cases b.isStable <;> rfl

instance : TransCmp order where
  eq_swap := order_swap _ _
  isLE_trans {a b c} hab hbc := by
    cases ha : a.isStable <;> cases hb : b.isStable <;> cases hc : c.isStable <;>
      simp only [order, ha, hb, hc] at hab hbc ⊢
    · exact TransCmp.isLE_trans hab hbc
    · rfl
    · cases hbc
    · rfl
    · cases hab
    · cases hab
    · cases hbc
    · rfl

end Prerelease

/-! ### Versions -/

instance : TransCmp Core.order :=
  inferInstanceAs (TransCmp (compareLex (compareOn Core.major)
    (compareLex (compareOn Core.minor) (compareOn Core.patch))))

/-- Values compared by what they are made of. -/
theorem transCmp_on {α β : Type} (f : α → β) (cmp : β → β → Ordering) [TransCmp cmp] :
    TransCmp fun a b => cmp (f a) (f b) where
  eq_swap := OrientedCmp.eq_swap
  isLE_trans := TransCmp.isLE_trans

instance : TransCmp Semantic.order :=
  have := transCmp_on Semantic.core Core.order
  have := transCmp_on Semantic.prerelease Prerelease.order
  inferInstanceAs (TransCmp (compareLex (fun a b => a.core.order b.core)
    (fun a b : Semantic => a.prerelease.order b.prerelease)))

instance : TransCmp Calendar.order :=
  have := transCmp_on Calendar.core Core.order
  have := transCmp_on Calendar.prerelease Prerelease.order
  inferInstanceAs (TransCmp (compareLex (fun a b => a.core.order b.core)
    (fun a b : Calendar => a.prerelease.order b.prerelease)))

/-- **The orders of versions are total preorders.** The order of prereleases is one on all texts
there are; texts without identifiers are level with each other and above all others. So are the
orders of semantic and of calendar versions, and the builds of semantic versions make no
difference. -/
theorem orders_total :
    IsTotalPreorder Prerelease.order ∧
    (∀ stable p : Prerelease, stable.identifiers = [] →
      stable.order p = if p.identifiers = [] then .eq else .gt) ∧
    IsTotalPreorder Semantic.order ∧ IsTotalPreorder Calendar.order ∧
    ∀ (a b : Semantic) (build build' : String),
      Semantic.order { a with build := build } { b with build := build' } = a.order b := by
  refine ⟨isTotalPreorder _, ?_, isTotalPreorder _, isTotalPreorder _, fun _ _ _ _ => rfl⟩
  intro stable p hstable
  simp only [Prerelease.order_of_isStable ((Prerelease.isStable_iff stable).2 hstable),
    Prerelease.isStable_iff]

end Sift.Version
