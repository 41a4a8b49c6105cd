import Sift.Version.Basic

/-! The order of versions, read from both sides.

Whatever a prerelease is to another one, the other is the reverse to it (`order_swap`), since
that holds of each comparison that the order is made of. Numbers are level in the order only
where they are the same. -/
namespace Sift.Version

namespace Prerelease

theorem compareChars_swap (a b : List Char) : compareChars a b = (compareChars b a).swap := by
  induction a generalizing b with
  | nil => cases b <;> rfl
  | cons x a ih =>
    cases b with
    | nil => rfl
    | cons y b =>
      rw [compareChars, compareChars, Ordering.swap_then, ← ih b, Nat.compare_swap]

theorem compareIdentifiers_swap (a b : List Char) :
    compareIdentifiers a b = (compareIdentifiers b a).swap := by
  unfold compareIdentifiers
  cases Text.readInt64? a with
  | none =>
    cases Text.readInt64? b with
    | none => exact compareChars_swap a b
    | some n => rfl
  | some m =>
    cases Text.readInt64? b with
    | none => rfl
    | some n => exact Std.OrientedOrd.eq_swap

theorem compareLists_swap (a b : List (List Char)) :
    compareLists a b = (compareLists b a).swap := by
  induction a generalizing b with
  | nil => cases b <;> rfl
  | cons x a ih =>
    cases b with
    | nil => rfl
    | cons y b =>
      rw [compareLists, compareLists, Ordering.swap_then, ← ih b, ← compareIdentifiers_swap]

theorem order_swap (a b : Prerelease) : a.order b = (b.order a).swap := by
  unfold order
  cases a.isStable with
  | true => cases b.isStable <;> rfl
  | false =>
    cases b.isStable with
    | true => rfl
    | false => exact compareLists_swap _ _

end Prerelease

namespace Core

theorem order_eq_iff (a b : Core) : a.order b = .eq ↔ a = b := by
  cases a
  cases b
  simp [order, Ordering.then_eq_eq]

end Core

end Sift.Version
