import Sift.Proofs.Value.Equality

/-! Equality of values, with conversion.

Only texts are converted: one that is compared to a truth value or to an integer of 64 bits is read
as such, if its side asks for conversion. All other pairs are compared as they are, whatever is
asked for. So what is equal with conversion is equal without it, or is a text and what it reads as
(`equal_converted`); and conversion never tells values apart, although the attempts at a pair come
one after the other and the first that applies decides. The laws of equality (`equal_laws`) follow
from that and from what is known of equality without conversion. -/
namespace Sift.Coerce

open Text Number

variable {α β : Type} [Viewable α] [Viewable β] {v : α} {w : β} {caseSensitive ask ask' : Bool}

/-! ### The two sides -/

theorem both?_swap {γ δ : Type} (a : Option γ) (b : Option δ) :
    both? b a = (both? a b).map Prod.swap := by
  cases a <;> cases b <;> rfl

/-- Neither side goes before the other. -/
theorem equal_comm (v : α) (w : β) (caseSensitive ask ask' : Bool) :
    equal v w caseSensitive ask ask' = equal w v caseSensitive ask' ask := by
  unfold equal
  rw [both?_swap (View.text? v)]
  cases both? (View.text? v) (View.text? w) with
  | some texts => exact equalText_comm ..
  | none =>
    rw [both?_swap (bool? v ask)]
    cases both? (bool? v ask) (bool? w ask') with
    | some truths => exact Bool.beq_comm
    | none =>
      rw [both?_swap (long? v ask)]
      cases both? (long? v ask) (long? w ask') with
      | some longs => exact BEq.comm
      | none =>
        rw [both?_swap (View.float? v), Bool.and_comm (View.isNumber w),
          Bool.and_comm (View.isNull w)]
        cases both? (View.float? v) (View.float? w) with
        | some floats =>
          show (if _ then floats.1.same floats.2 else _) = if _ then floats.2.same floats.1 else _
          rw [Binary64.same_comm]
        | none => rfl

/-! ### What conversion adds -/

/-- The text `v` is `w`, once it is read as a truth value or as an integer of 64 bits. -/
def ReadsAs (v : α) (w : β) : Prop :=
  ∃ s, View.text? v = some s ∧
    ((∃ b, View.bool? w = some b ∧ Format.readBool? s = some b) ∨
      ∃ n, View.int? w = some n ∧ Format.readInt? s = some n)

theorem bool?_of_no_text (hv : View.text? v = none) : bool? v ask = View.bool? v := by
  unfold bool?
  rw [hv]
  cases View.bool? v <;> cases ask <;> rfl

theorem long?_of_no_text (hv : View.text? v = none) : long? v ask = View.int? v := by
  rw [← long?_plain]
  unfold long?
  rw [hv]
  cases ask <;> rfl

theorem shape_of_text {s : String} (hv : View.text? v = some s) : Viewable.shape v = .text s := by
  unfold View.text? at hv
  split at hv
  · rename_i h
    rw [h, Option.some.inj hv]
  · cases hv

theorem not_readsAs_text {s : String} (hw : View.text? w = some s) : ¬ ReadsAs v w := by
  intro h
  obtain ⟨-, -, ⟨b, hb, -⟩ | ⟨n, hn, -⟩⟩ := h
  · rw [View.bool?, shape_of_text hw] at hb
    cases hb
  · rw [View.int?, shape_of_text hw] at hn
    cases hn

theorem not_readsAs_of_no_text (hv : View.text? v = none) : ¬ ReadsAs v w := by
  intro h
  obtain ⟨s, hs, -⟩ := h
  rw [hv] at hs
  cases hs

theorem equal_texts {s t : String} (hv : View.text? v = some s) (hw : View.text? w = some t) :
    equal v w caseSensitive ask ask' = equalText s t caseSensitive := by
  rw [equal, hv, hw]
  rfl

theorem equal_of_no_text (hv : View.text? v = none) (hw : View.text? w = none) :
    equal v w caseSensitive ask ask' = equal v w caseSensitive false false := by
  unfold equal
  rw [bool?_of_no_text hv, bool?_of_no_text hw, long?_of_no_text hv, long?_of_no_text hw,
    bool?_plain, bool?_plain, long?_plain, long?_plain]

/-- A text is equal to what is none exactly if it is read, and reads as that. -/
theorem equal_of_text {s : String} (hv : View.text? v = some s) (hw : View.text? w = none) :
    equal v w caseSensitive ask ask' = true ↔ ask = true ∧ ReadsAs v w := by
  have hshape := shape_of_text hv
  unfold equal ReadsAs
  rw [bool?_of_no_text hw, long?_of_no_text hw]
  unfold bool? long? View.isNumber View.isNull View.kind View.bool? View.int?
  rw [hv, hw, hshape]
  cases ask with
  | false => cases Viewable.shape w <;> simp [both?]
  | true =>
    cases Viewable.shape w with
    | bool b =>
      simp only [if_true, Option.bind_some]
      cases hs : Format.readBool? s <;> simp [both?, hs]
    | int n =>
      simp only [if_true, Option.bind_some]
      by_cases hn : fitsInt64 n = true <;> cases hs : Format.readInt? s <;> simp [both?, hn, hs]
    | _ => simp [both?]

/-- **With conversion the same values are equal as without it, and texts to what they read as.** -/
theorem equal_converted : equal v w caseSensitive ask ask' = true ↔
    equal v w caseSensitive false false = true ∨ (ask = true ∧ ReadsAs v w) ∨
      (ask' = true ∧ ReadsAs w v) := by
  cases hv : View.text? v with
  | some s =>
    cases hw : View.text? w with
    | some t =>
      rw [equal_texts hv hw, equal_texts hv hw]
      simp [not_readsAs_text hv, not_readsAs_text hw]
    | none =>
      rw [equal_of_text hv hw, equal_of_text hv hw]
      simp [not_readsAs_text hv]
  | none =>
    cases hw : View.text? w with
    | some t =>
      rw [equal_comm v w, equal_comm v w, equal_of_text hw hv, equal_of_text hw hv]
      simp [not_readsAs_of_no_text hv]
    | none =>
      rw [equal_of_no_text hv hw]
      simp [not_readsAs_of_no_text hv, not_readsAs_of_no_text hw]

/-! ### Keys and kinds -/

/-- What is left of a key where case does not count. -/
def Key.folded : Key → Key
  | .text s => .text (lowerText s)
  | key => key

theorem key?_folded (v : α) : key? false v = (key? true v).map Key.folded := by
  unfold key?
  cases Viewable.shape v with
  | int | float => exact (Option.map_map Key.folded Key.number _).symm
  | _ => rfl

/-- The kinds of values that have the key. -/
def Key.kinds : Key → List Kind
  | .null => [.null]
  | .bool _ => [.bool]
  | .number _ => [.integer, .float]
  | .text _ => [.text]

theorem kind_of_key {key : Key} (h : key? caseSensitive v = some key) :
    View.kind v ∈ key.kinds := by
  unfold key? at h
  unfold View.kind
  cases hv : Viewable.shape v <;> simp only [hv] at h ⊢
  case int n =>
    obtain ⟨r, -, rfl⟩ := Option.map_eq_some_iff.1 h
    exact List.mem_cons_self
  case float x =>
    obtain ⟨r, -, rfl⟩ := Option.map_eq_some_iff.1 h
    exact List.mem_cons_of_mem _ List.mem_cons_self
  all_goals
    cases h
    try exact List.mem_cons_self

/-- Values of two kinds are not equal unless they are numbers, and arrays and objects never. -/
theorem kinds_of_equal (h : equal v w caseSensitive false false = true) :
    (View.kind v = View.kind w ∨ View.isNumber v = true ∧ View.isNumber w = true) ∧
      View.kind v ∉ [.array, .object] ∧ View.kind w ∉ [.array, .object] := by
  obtain ⟨⟨key, hv, hw⟩, -⟩ := equal_iff.1 h
  have hkv := kind_of_key hv
  have hkw := kind_of_key hw
  unfold View.isNumber
  cases key <;> simp only [Key.kinds, List.mem_cons, List.not_mem_nil, or_false] at hkv hkw
  case number =>
    rcases hkv with hkv | hkv <;> rcases hkw with hkw | hkw <;>
    · rw [hkv, hkw]
      decide
  all_goals
    rw [hkv, hkw]
    decide

/-! ### The laws -/

/-- Where case counts, no more values are equal. -/
theorem equal_ignoring_case (h : equal v w true ask ask' = true) :
    equal v w false ask ask' = true := by
  rw [equal_converted] at h ⊢
  refine h.imp_left fun hplain => ?_
  obtain ⟨⟨key, hv, hw⟩, hint⟩ := equal_iff.1 hplain
  rw [equal_iff, key?_folded, key?_folded, hv, hw]
  exact ⟨⟨key.folded, rfl, rfl⟩, hint⟩

/-- Values that are equal with some conversion are so with more of it. -/
theorem equal_asking_more (h : equal v w caseSensitive ask ask' = true) (more more' : Bool) :
    equal v w caseSensitive (ask || more) (ask' || more') = true := by
  rw [equal_converted] at h ⊢
  refine h.imp_right (Or.imp (And.imp_left fun hask => ?_) (And.imp_left fun hask => ?_))
  · rw [hask, Bool.true_or]
  · rw [hask, Bool.true_or]

/-- **The laws of equality.** Neither side goes before the other. Conversion and ignoring case only
make more values equal. Without conversion, values of two kinds are equal only if both are numbers,
and an array or an object is equal to nothing. -/
theorem equal_laws (v : α) (w : β) (caseSensitive ask ask' : Bool) :
    equal v w caseSensitive ask ask' = equal w v caseSensitive ask' ask ∧
      (∀ more more', equal v w caseSensitive ask ask' = true →
        equal v w caseSensitive (ask || more) (ask' || more') = true) ∧
      (equal v w true ask ask' = true → equal v w false ask ask' = true) ∧
      (equal v w caseSensitive false false = true →
        (View.kind v = View.kind w ∨ View.isNumber v = true ∧ View.isNumber w = true) ∧
          View.kind v ∉ [.array, .object] ∧ View.kind w ∉ [.array, .object]) :=
  ⟨equal_comm .., fun more more' h => equal_asking_more h more more', equal_ignoring_case,
    kinds_of_equal⟩

end Sift.Coerce
