import Mathlib.Data.List.Forall2
import Sift.Coerce

/-! Values that look the same, in two representations.

A relation between values of two representations is a `Likeness` if related values have the
same shape with related parts, and related members under every name. No way to read a value
tells them apart then: what is read without the parts is the same on both sides (`Agree`), and
so is all that is converted and compared; and the parts that are reached are related again. -/
namespace Sift

variable {α β : Type} [Viewable α] [Viewable β]

/-! ### Without the parts -/

/-- Two values show the same, as far as they can be read without their parts. -/
structure View.Agree (v : α) (w : β) : Prop where
  kind : View.kind v = View.kind w
  text : View.text? v = View.text? w
  bool : View.bool? v = View.bool? w
  int : View.int? v = View.int? w
  float : View.float? v = View.float? w
  count : View.count? v = View.count? w

namespace View.Agree

variable {v : α} {w : β}

theorem refl (v : α) : Agree v v := ⟨rfl, rfl, rfl, rfl, rfl, rfl⟩

theorem isNull (h : Agree v w) : View.isNull v = View.isNull w := by
  rw [View.isNull, h.kind]
  rfl

theorem isArray (h : Agree v w) : View.isArray v = View.isArray w := by
  rw [View.isArray, h.kind]
  rfl

theorem isObject (h : Agree v w) : View.isObject v = View.isObject w := by
  rw [View.isObject, h.kind]
  rfl

theorem isNumber (h : Agree v w) : View.isNumber v = View.isNumber w := by
  rw [View.isNumber, h.kind]
  rfl

end View.Agree

namespace Coerce

open View (Agree)

variable {v : α} {w : β}

theorem text?_congr (h : Agree v w) : text? v = text? w := by
  funext convert
  rw [text?, h.text, h.kind, h.int, h.bool, h.float]
  rfl

theorem bool?_congr (h : Agree v w) : bool? v = bool? w := by
  funext convert
  rw [bool?, h.bool, h.text]
  rfl

theorem long?_congr (h : Agree v w) : long? v = long? w := by
  funext convert
  rw [long?, h.kind, h.int, h.text]
  rfl

theorem float?_congr (h : Agree v w) : float? v = float? w := by
  funext convert
  rw [float?, h.kind, h.float, h.text]
  rfl

theorem instant?_congr (h : Agree v w) (now : Time.Instant) : instant? now v = instant? now w := by
  funext convert
  rw [instant?, h.kind, h.text, h.int]
  rfl

theorem length?_congr (h : Agree v w) : length? v = length? w := by
  rw [length?, h.text, h.count]
  rfl

variable {γ δ : Type} [Viewable γ] [Viewable δ] {x : γ} {y : δ}

theorem equal_congr (h : Agree v w) (h' : Agree x y)
    (caseSensitive convertExpected convertActual : Bool) :
    equal v x caseSensitive convertExpected convertActual =
      equal w y caseSensitive convertExpected convertActual := by
  rw [equal, h.text, h'.text, bool?_congr h, bool?_congr h', long?_congr h, long?_congr h',
    h.isNumber, h'.isNumber, h.float, h'.float, h.isNull, h'.isNull]
  rfl

theorem order?_congr (h : Agree v w) (h' : Agree x y) (now : Time.Instant) (convert : Bool) :
    order? now v x convert = order? now w y convert := by
  rw [order?, long?_congr h, long?_congr h', float?_congr h, float?_congr h',
    instant?_congr h, instant?_congr h', length?_congr h]
  rfl

end Coerce

/-! ### Shapes -/

/-- Members with the same names, in the same order, and related values. -/
abbrev MembersLike (R : α → β → Prop) (ms : List (String × α)) (ns : List (String × β)) : Prop :=
  List.Forall₂ (fun m n => m.1 = n.1 ∧ R m.2 n.2) ms ns

/-- The same shape, with related parts. -/
inductive Shape.Like (R : α → β → Prop) : Shape α → Shape β → Prop where
  | null : Like R .null .null
  | bool (b : Bool) : Like R (.bool b) (.bool b)
  | int (n : Int) : Like R (.int n) (.int n)
  | float (x : Number.Binary64) : Like R (.float x) (.float x)
  | text (s : String) : Like R (.text s) (.text s)
  | array {vs : List α} {ws : List β} : List.Forall₂ R vs ws → Like R (.array vs) (.array ws)
  | object {ms : List (String × α)} {ns : List (String × β)} : MembersLike R ms ns →
      Like R (.object ms) (.object ns)

/-- Related values look the same at every depth. -/
structure Likeness (R : α → β → Prop) : Prop where
  shape : ∀ {v w}, R v w → Shape.Like R (Viewable.shape v) (Viewable.shape w)
  named : ∀ {v w}, R v w → ∀ name, Option.Rel R (Viewable.named? v name) (Viewable.named? w name)

namespace Likeness

variable {R : α → β → Prop} {v : α} {w : β}

theorem agree (h : Likeness R) (hvw : R v w) : View.Agree v w := by
  have hshape := h.shape hvw
  constructor
  all_goals
    simp only [View.kind, View.text?, View.bool?, View.int?, View.float?, View.count?]
    generalize Viewable.shape v = s, Viewable.shape w = t at hshape
    cases hshape with
    | array hitems => simp only [hitems.length_eq]
    | _ => rfl

/-! ### Parts -/

theorem items (h : Likeness R) (hvw : R v w) : List.Forall₂ R (View.items v) (View.items w) := by
  have hshape := h.shape hvw
  unfold View.items
  generalize Viewable.shape v = s, Viewable.shape w = t at hshape
  cases hshape with
  | array hitems => exact hitems
  | _ => exact .nil

theorem members (h : Likeness R) (hvw : R v w) :
    MembersLike R (View.members v) (View.members w) := by
  have hshape := h.shape hvw
  unfold View.members
  generalize Viewable.shape v = s, Viewable.shape w = t at hshape
  cases hshape with
  | object hmembers => exact hmembers
  | _ => exact .nil

theorem children (h : Likeness R) (hvw : R v w) :
    List.Forall₂ R (View.children v) (View.children w) := by
  rw [View.children, View.children, (h.agree hvw).isObject]
  split
  · exact List.rel_map (fun _ _ hm => hm.2) (h.members hvw)
  · exact h.items hvw

omit [Viewable α] [Viewable β] in
theorem getElem? {vs : List α} {ws : List β} (h : List.Forall₂ R vs ws) (i : Nat) :
    Option.Rel R vs[i]? ws[i]? := by
  induction h generalizing i with
  | nil => exact .none
  | cons hhead _ ih =>
    cases i with
    | zero => exact .some hhead
    | succ i => exact ih i

theorem item? (h : Likeness R) (hvw : R v w) (index : Int) :
    Option.Rel R (View.item? v index) (View.item? w index) := by
  have hitems := h.items hvw
  rw [View.item?, View.item?, hitems.length_eq]
  cases place? (View.items w).length index with
  | none => exact .none
  | some i => exact getElem? hitems i

omit [Viewable α] [Viewable β] in
theorem found {ms : List (String × α)} {ns : List (String × β)} (h : MembersLike R ms ns)
    (p : String → Bool) : Option.Rel R ((ms.find? fun m => p m.1).map Prod.snd)
      ((ns.find? fun n => p n.1).map Prod.snd) := by
  induction h with
  | nil => exact .none
  | @cons m n ms ns hmn _ ih =>
    rw [List.find?_cons, List.find?_cons, hmn.1]
    cases p n.1 with
    | true => exact .some hmn.2
    | false => exact ih

theorem field? (h : Likeness R) (hvw : R v w) (name : String) (caseSensitive : Bool) :
    Option.Rel R (View.field? v name caseSensitive) (View.field? w name caseSensitive) := by
  have hnamed := h.named hvw name
  unfold View.field?
  generalize Viewable.named? v name = a, Viewable.named? w name = b at hnamed
  cases hnamed with
  | some hab => exact .some hab
  | none =>
    cases caseSensitive with
    | true => exact .none
    | false => exact found (h.members hvw) fun m => sameName m name false

/-! ### What is read of the items -/

omit [Viewable α] [Viewable β] in
theorem map_congr {γ : Type} {f : α → γ} {g : β → γ} (hfg : ∀ v w, R v w → f v = g w)
    {vs : List α} {ws : List β} (h : List.Forall₂ R vs ws) : vs.map f = ws.map g := by
  have hmapped : List.Forall₂ (· = ·) (vs.map f) (ws.map g) := List.rel_map (hfg · ·) h
  rwa [List.forall₂_eq_eq_eq] at hmapped

theorem texts? (h : Likeness R) (hvw : R v w) : Coerce.texts? v = Coerce.texts? w := by
  funext convert
  have hitems : (View.items v).map (Coerce.text? · convert) =
      (View.items w).map (Coerce.text? · convert) := by
    refine map_congr (fun x y hxy => ?_) (h.items hvw)
    rw [Coerce.text?_congr (h.agree hxy)]
  have hfound := congrArg (List.filterMap id) hitems
  simp only [List.filterMap_map, Function.id_comp] at hfound
  rw [Coerce.texts?, Coerce.texts?, Coerce.text?_congr (h.agree hvw), (h.agree hvw).isArray,
    hfound]

/-- An expected value is found at the same places among related items. -/
theorem equals_items (h : Likeness R) (hvw : R v w) (expected : Value) (caseSensitive : Bool) :
    (View.items v).map (Coerce.equal expected · caseSensitive false false) =
      (View.items w).map (Coerce.equal expected · caseSensitive false false) := by
  refine map_congr (fun x y hxy => ?_) (h.items hvw)
  exact Coerce.equal_congr (.refl expected) (h.agree hxy) _ _ _

theorem isIn (h : Likeness R) (hvw : R v w) (expected : Value) (caseSensitive : Bool) :
    Coerce.isIn v expected caseSensitive = Coerce.isIn w expected caseSensitive := by
  have hitems := congrArg (List.any · id) (h.equals_items hvw expected caseSensitive)
  simp only [List.any_map, Function.id_comp] at hitems
  rw [Coerce.isIn, Coerce.isIn, (h.agree hvw).isArray, hitems,
    Coerce.equal_congr (.refl expected) (h.agree hvw)]

theorem countIn (h : Likeness R) (hvw : R v w) (expected : Value) (caseSensitive : Bool) :
    Coerce.countIn v expected caseSensitive = Coerce.countIn w expected caseSensitive := by
  have hitems := congrArg (List.countP id) (h.equals_items hvw expected caseSensitive)
  simp only [List.countP_map, Function.id_comp] at hitems
  rw [Coerce.countIn, Coerce.countIn, (h.agree hvw).isArray, ← List.countP_eq_length_filter,
    ← List.countP_eq_length_filter, hitems, Coerce.equal_congr (.refl expected) (h.agree hvw)]

theorem isNullOrEmpty (h : Likeness R) (hvw : R v w) :
    View.isNullOrEmpty v = View.isNullOrEmpty w := by
  have hshape := h.shape hvw
  unfold View.isNullOrEmpty
  generalize Viewable.shape v = s, Viewable.shape w = t at hshape
  cases hshape with
  | array hitems => cases hitems <;> rfl
  | object hmembers => cases hmembers <;> rfl
  | _ => rfl

end Likeness

end Sift
