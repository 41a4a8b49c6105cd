import Sift.Coerce
import Sift.Proofs.Number.Order

/-! Equality of values, without conversion.

Each value that can be equal to any has a key: its text, as far as case counts, its truth value, or
its rank among the numbers. Equal values have the same key, and values with the same key are equal
unless both are integers of 64 bits, which are compared as such (`equal_iff`). So equality is not
transitive: two integers that round to one floating-point number are both equal to it, and not to
each other. What remains of it is `equal_bridge`. -/
namespace Sift.Coerce

open Text Number

/-- What values are compared by. -/
inductive Key where
  | null
  | bool (b : Bool)
  | number (rank : WithBot (WithTop ℚ))
  | text (s : String)

variable {α β γ δ : Type} [Viewable α] [Viewable β] [Viewable γ] [Viewable δ]

def key? (caseSensitive : Bool) (v : α) : Option Key :=
  match Viewable.shape v with
  | .null => some .null
  | .bool b => some (.bool b)
  | .int n => (Binary64.ofInt n).rank?.map .number
  | .float x => x.rank?.map .number
  | .text s => some (.text (if caseSensitive then s else lowerText s))
  | _ => none

theorem equalText_iff (s t : String) (caseSensitive : Bool) :
    equalText s t caseSensitive = true ↔
      (if caseSensitive then s else lowerText s) = if caseSensitive then t else lowerText t := by
  cases caseSensitive with
  | true => simp [equalText]
  | false =>
    simp only [equalText, Bool.false_eq_true, if_false, Bool.or_eq_true, beq_iff_eq]
    exact ⟨fun h => h.elim (congrArg lowerText) id, .inr⟩

theorem equalText_comm (s t : String) (caseSensitive : Bool) :
    equalText s t caseSensitive = equalText t s caseSensitive := by
  rw [Bool.eq_iff_iff, equalText_iff, equalText_iff]
  exact eq_comm

theorem bool?_plain (v : α) : bool? v false = View.bool? v := by
  unfold bool?
  cases View.bool? v <;> rfl

theorem long?_plain (v : α) : long? v false = View.int? v := by
  unfold long? View.kind View.int?
  cases Viewable.shape v <;> rfl

/-- Integers are compared as such where both have 64 bits, and as numbers where one has more. -/
theorem equal_integers (m n : Int) :
    (match both? (if fitsInt64 m then some m else none) (if fitsInt64 n then some n else none) with
      | some (a, b) => a == b
      | none => (Binary64.ofInt m).same (Binary64.ofInt n)) = true ↔
    (∃ r, (Binary64.ofInt m).rank? = some r ∧ (Binary64.ofInt n).rank? = some r) ∧
      ∀ a b, (if fitsInt64 m then some m else none) = some a →
        (if fitsInt64 n then some n else none) = some b → a = b := by
  by_cases hm : fitsInt64 m = true
  · by_cases hn : fitsInt64 n = true
    · obtain ⟨r, hr⟩ := Binary64.rank?_ofInt m
      simp only [hm, hn, if_true, both?, beq_iff_eq, Option.some.injEq]
      constructor
      · intro h
        subst h
        exact ⟨⟨r, hr, hr⟩, fun a b ha hb => ha.symm.trans hb⟩
      · exact fun h => h.2 m n rfl rfl
    · simp [hm, hn, both?, Binary64.same_iff]
  · simp [hm, both?, Binary64.same_iff]

/-- **Values are equal if they have the same key, and are the same integer if both are integers of
64 bits.** -/
theorem equal_iff {v : α} {w : β} {caseSensitive : Bool} :
    equal v w caseSensitive false false = true ↔
      (∃ k, key? caseSensitive v = some k ∧ key? caseSensitive w = some k) ∧
        ∀ m n, View.int? v = some m → View.int? w = some n → m = n := by
  rw [equal, bool?_plain, bool?_plain, long?_plain, long?_plain]
  -- All but the pairs of like shapes have different keys, or none.
  cases hv : Viewable.shape v <;> cases hw : Viewable.shape w <;>
    simp only [View.text?, View.bool?, View.int?, View.float?, View.isNumber, View.isNull,
      View.kind, key?, hv, hw]
  case int.int m n =>
    refine (equal_integers m n).trans (and_congr_left' ?_)
    simp
  case text.text s t =>
    refine (equalText_iff s t caseSensitive).trans ⟨fun h => ?_, fun h => ?_⟩
    · exact ⟨⟨_, rfl, by rw [h]⟩, nofun⟩
    · obtain ⟨⟨k, hs, ht⟩, -⟩ := h
      simpa using hs.trans ht.symm
  case bool.bool b d =>
    refine beq_iff_eq.trans ⟨fun h => ?_, fun h => ?_⟩
    · exact ⟨⟨_, rfl, by rw [h]⟩, nofun⟩
    · obtain ⟨⟨k, hb, hd⟩, -⟩ := h
      simpa using hb.trans hd.symm
  all_goals simp [both?, Binary64.same_iff]

/-- **Of the partners of two equal values, one is equal to both of them.** -/
theorem equal_bridge {v v' : α} {x y : β} {caseSensitive : Bool}
    (hv : equal v x caseSensitive false false = true)
    (hv' : equal v' y caseSensitive false false = true)
    (hxy : equal x y caseSensitive false false = true) :
    equal v' x caseSensitive false false = true ∨ equal v y caseSensitive false false = true := by
  rw [equal_iff] at hv hv' hxy ⊢
  rw [equal_iff]
  obtain ⟨⟨k, hkv, hkx⟩, hint⟩ := hv
  obtain ⟨⟨k', hkv', hky⟩, hint'⟩ := hv'
  obtain ⟨⟨l, hlx, hly⟩, hsame⟩ := hxy
  obtain rfl : l = k := Option.some_inj.1 (hlx.symm.trans hkx)
  obtain rfl : l = k' := Option.some_inj.1 (hly.symm.trans hky)
  -- Only integers can be in the way, and only if both are: then they are the same one.
  cases hx : View.int? x with
  | none => exact .inl ⟨⟨l, hkv', hlx⟩, fun m n _ hn => absurd hn (by simp)⟩
  | some a =>
    cases hy : View.int? y with
    | none => exact .inr ⟨⟨l, hkv, hly⟩, fun m n _ hn => absurd hn (by simp)⟩
    | some b =>
      obtain rfl := hsame a b hx hy
      refine .inl ⟨⟨l, hkv', hlx⟩, fun m n hm hn => ?_⟩
      cases hn
      exact hint' m a hm hy

/-- An array is equal to nothing. -/
theorem equal_array {v : α} {w : β} (hw : View.isArray w = true) (caseSensitive : Bool) :
    equal v w caseSensitive false false = false := by
  rw [← Bool.not_eq_true, equal_iff]
  intro h
  obtain ⟨⟨k, -, hk⟩, -⟩ := h
  unfold View.isArray View.kind at hw
  unfold key? at hk
  cases hshape : Viewable.shape w <;> simp [hshape] at hw hk

end Sift.Coerce
