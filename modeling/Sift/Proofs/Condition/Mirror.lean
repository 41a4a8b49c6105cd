import Sift.Condition.Evaluate
import Sift.Proofs.Path.Likeness

/-! What conditions read of targets that look the same.

A condition reads a value through its kind, its parts and its copy, and these are the same on
both sides wherever two values mirror each other (`Mirror`). So contexts that only differ in how
the target is represented (`Context.Like`) show the same names, fields, items and surroundings
for functions, and an operator comes to the same verdict, with the same message. -/
namespace Sift

variable {α β : Type} {R : α → β → Prop}

/-- Related values look the same, and have the same copy. -/
structure Mirror [Viewable α] [Viewable β] (R : α → β → Prop) : Prop extends Likeness R where
  copy : ∀ {v w}, R v w → Viewable.copy v = Viewable.copy w

/-- Every value mirrors itself. -/
theorem mirror_eq [Viewable α] : Mirror (Eq : α → α → Prop) := by
  refine ⟨⟨?_, ?_⟩, fun h => congrArg Viewable.copy h⟩
  · rintro v _ rfl
    cases Viewable.shape v with
    | array items => exact .array (List.forall₂_same.2 fun _ _ => rfl)
    | object members => exact .object (List.forall₂_same.2 fun _ _ => ⟨rfl, rfl⟩)
    | null => exact .null
    | bool b => exact .bool b
    | int n => exact .int n
    | float x => exact .float x
    | text s => exact .text s
  · rintro v _ rfl name
    cases Viewable.named? v name with
    | none => exact .none
    | some found => exact .some rfl

/-! ### Contexts -/

namespace Context

/-- Contexts that only differ in how the target and its items are represented. -/
structure Like (R : α → β → Prop) (c : Context α) (d : Context β) : Prop where
  root : R c.root d.root
  entered : List.Forall₂ (fun e f => R e.item f.item ∧ e.place = f.place) c.entered d.entered
  options : c.options = d.options
  engine : c.engine = d.engine
  now : c.now = d.now
  reasons : c.reasons = d.reasons
  patterns : c.patterns = d.patterns
  targetName : c.targetName = d.targetName
  targetType : c.targetType = d.targetType
  parent : c.parent = d.parent

namespace Like

variable {c : Context α} {d : Context β}

theorem query (h : c.Like R d) : c.query = d.query := by
  rw [Context.query, Context.query, h.options, h.engine, h.now]

theorem current (h : c.Like R d) : R c.current d.current := by
  have hentered := h.entered
  unfold Context.current
  generalize c.entered = es, d.entered = fs at hentered
  cases hentered with
  | nil => exact h.root
  | cons hef _ => exact hef.1

theorem itemPath (h : c.Like R d) : c.itemPath = d.itemPath := by
  have hentered := h.entered
  unfold Context.itemPath
  generalize c.entered = es, d.entered = fs at hentered
  induction hentered with
  | nil => rfl
  | cons hef _ ih => rw [List.foldr_cons, List.foldr_cons, ih, hef.2]

theorem enter (h : c.Like R d) {item : α} {item' : β} (hitem : R item item') (place : String) :
    (c.enter item place).Like R (d.enter item' place) :=
  { h with entered := .cons ⟨hitem, rfl⟩ h.entered }

theorem leave (h : c.Like R d) : c.leave.Like R d.leave := by
  have hentered := h.entered
  refine { h with entered := ?_ }
  unfold Context.leave
  generalize c.entered = es, d.entered = fs at hentered
  cases hentered with
  | nil => exact .nil
  | cons _ hrest => exact hrest

theorem addReason (h : c.Like R d) (origin : Origin) (path message : String) :
    (c.addReason origin path message).Like R (d.addReason origin path message) := by
  refine { h with reasons := ?_ }
  simp only [Context.addReason, h.reasons, h.itemPath, h.parent]

theorem keepReasons (h : c.Like R d) (count : Nat) :
    (c.keepReasons count).Like R (d.keepReasons count) := by
  refine { h with reasons := ?_ }
  simp only [Context.keepReasons, h.reasons]

/-- A pattern is found, made or refused on both sides. -/
theorem pattern (h : c.Like R d) (text : String) (caseSensitive : Bool) :
    (c.pattern text caseSensitive).1 = (d.pattern text caseSensitive).1 ∧
      (c.pattern text caseSensitive).2.Like R (d.pattern text caseSensitive).2 := by
  unfold Context.pattern
  rw [h.patterns, h.options, h.engine]
  split
  · exact ⟨rfl, h⟩
  · split
    · exact ⟨rfl, { h with options := rfl, engine := rfl, patterns := rfl }⟩
    · exact ⟨rfl, h⟩

variable [Viewable α] [Viewable β]

theorem scope (hR : Mirror R) (h : c.Like R d) : c.scope = d.scope := by
  unfold Context.scope
  rw [h.options, h.now]
  congr 1
  funext program
  have hselection := Path.evaluate_like hR.toLikeness program d.query h.current
  rw [h.query]
  generalize program.evaluate d.query c.current = a, program.evaluate d.query d.current = b
    at hselection
  cases hselection with
  | none => rfl
  | some hab =>
    cases hab with
    | scalar hvw => exact congrArg some (hR.copy hvw)
    | sequence hvws =>
      cases hvws with
      | nil => rfl
      | cons hvw _ => exact congrArg some (hR.copy hvw)

theorem bind? (hR : Mirror R) (h : c.Like R d) (fields : List String) :
    c.bind? fields = d.bind? fields := by
  unfold Context.bind?
  rw [h.options]
  congr 1
  funext field
  have hfield := hR.field? h.current field d.options.binding.caseSensitive
  generalize View.field? c.current field d.options.binding.caseSensitive = a,
    View.field? d.current field d.options.binding.caseSensitive = b at hfield
  cases hfield with
  | none => rfl
  | some hab => rw [Option.bind_some, Option.bind_some, (hR.agree hab).text]

theorem name? (hR : Mirror R) (h : c.Like R d) : c.name? = d.name? := by
  unfold Context.name?
  rw [h.targetName, h.options, h.bind? hR]

theorem type? (hR : Mirror R) (h : c.Like R d) : c.type? = d.type? := by
  unfold Context.type?
  rw [h.targetType, h.options, h.bind? hR]

/-- The items of a field are related, one by one. -/
theorem itemsOf (hR : Mirror R) (h : c.Like R d) (field : Path.Program) :
    List.Forall₂ R (Condition.itemsOf field c) (Condition.itemsOf field d) := by
  have hselected : List.Forall₂ R (field.select c.query c.current)
      (field.select d.query d.current) := by
    have hselection := Path.evaluate_like hR.toLikeness field d.query h.current
    rw [h.query]
    unfold Path.Program.select
    generalize field.evaluate d.query c.current = a, field.evaluate d.query d.current = b
      at hselection
    cases hselection with
    | none => exact .nil
    | some hab =>
      cases hab with
      | scalar hvw => exact .cons hvw .nil
      | sequence hvws => exact hvws
  unfold Condition.itemsOf
  generalize field.select c.query c.current = vs, field.select d.query d.current = ws at hselected
  cases hselected with
  | nil => exact .nil
  | cons hvw hrest =>
    cases hrest with
    | nil =>
      dsimp only
      rw [(hR.agree hvw).isArray]
      split
      · exact hR.items hvw
      · exact .cons hvw .nil
    | cons hvw' hrest => exact .cons hvw (.cons hvw' hrest)

end Like

end Context

/-- A value to test is a part of both targets, or the same made value. -/
inductive Tested.Like (R : α → β → Prop) : Tested α → Tested β → Prop where
  | target {v : α} {w : β} : R v w → Like R (.target v) (.target w)
  | made (v : Value) : Like R (.made v) (.made v)

theorem Context.Like.resolve [Viewable α] [Viewable β] (hR : Mirror R) {c : Context α}
    {d : Context β} (h : c.Like R d) (field : Path.Program) :
    Option.Rel (Tested.Like R) (c.resolve field) (d.resolve field) := by
  have hselection := Path.evaluate_like hR.toLikeness field d.query h.current
  unfold Context.resolve
  rw [h.query]
  generalize field.evaluate d.query c.current = a, field.evaluate d.query d.current = b
    at hselection
  cases hselection with
  | none => exact .none
  | some hab =>
    cases hab with
    | scalar hvw => exact .some (.target hvw)
    | sequence hvws =>
      have hcopies := Likeness.map_congr (fun _ _ hvw => hR.copy hvw) hvws
      simp only [Option.map_some, hcopies]
      exact .some (.made _)

/-- A field leads somewhere in both or in neither. -/
theorem Context.Like.resolves [Viewable α] [Viewable β] (hR : Mirror R) {c : Context α}
    {d : Context β} (h : c.Like R d) (field : Path.Program) :
    (c.resolve field).isSome = (d.resolve field).isSome := by
  have hresolve := h.resolve hR field
  generalize c.resolve field = x, d.resolve field = y at hresolve
  cases hresolve with
  | none => rfl
  | some _ => rfl

/-! ### Verdicts -/

namespace Verdict

variable [Viewable α] [Viewable β] {v : α} {w : β} (hR : Mirror R) (hvw : R v w)
include hR hvw

theorem shown_congr : shown v = shown w := by
  rw [shown, shown, (hR.agree hvw).text, hR.copy hvw]

theorem isSetTo_congr : isSetTo v = isSetTo w := by
  rw [isSetTo, isSetTo, shown_congr hR hvw]

theorem notText_congr : notText v = notText w := by
  rw [notText, notText, shown_congr hR hvw]

theorem equals_congr (f : Flags) (negated : Bool) (expected : Value) :
    equals f negated expected v = equals f negated expected w := by
  rw [equals, equals, Coerce.equal_congr (.refl expected) (hR.agree hvw), isSetTo_congr hR hvw]

theorem hasDefault_congr (f : Flags) (expected : Value) :
    hasDefault f expected v = hasDefault f expected w := by
  rw [hasDefault, hasDefault, Coerce.equal_congr (.refl expected) (hR.agree hvw),
    isSetTo_congr hR hvw]

theorem hasValue_congr (expected : Bool) : hasValue expected v = hasValue expected w := by
  rw [hasValue, hasValue, hR.isNullOrEmpty hvw, isSetTo_congr hR hvw]

theorem matches_congr (negated : Bool) (p : Pattern) :
    matches_ negated p v = matches_ negated p w := by
  rw [matches_, matches_, (hR.agree hvw).text, shown_congr hR hvw]

theorem among_congr (f : Flags) (negated : Bool) (set : List Value) :
    among f negated set v = among f negated set w := by
  rw [among, among, isSetTo_congr hR hvw, shown_congr hR hvw]
  simp only [hR.isIn hvw]

theorem setOf_congr (f : Flags) (field : String) (items : List Value) :
    setOf f field items v = setOf f field items w := by
  rw [setOf, setOf, (hR.agree hvw).count]
  simp only [hR.isIn hvw]

theorem subset_congr (f : Flags) (field : String) (items : List Value) :
    subset f field items v = subset f field items w := by
  have hoccurrence : occurrence? f field v = occurrence? f field w := by
    funext item
    rw [occurrence?, occurrence?, hR.countIn hvw]
  rw [subset, subset, (hR.agree hvw).count, hoccurrence]

theorem count_congr (negated : Bool) (expected : Value) :
    count negated expected v = count negated expected w := by
  rw [count, count, (hR.agree hvw).isNull, (hR.agree hvw).count]

theorem bound_congr (now : Time.Instant) (f : Flags) (b : Bound) (limit : Value) :
    bound now f b limit v = bound now f b limit w := by
  have horder (n : Int) : Coerce.order? now v (Value.int n) f.convert =
      Coerce.order? now w (Value.int n) f.convert :=
    Coerce.order?_congr (hR.agree hvw) (.refl _) now f.convert
  rw [bound, bound, (hR.agree hvw).isNull, shown_congr hR hvw]
  simp only [horder]

theorem text_congr (f : Flags) (t : TextTest) (negated : Bool) (patterns : List String) :
    text f t negated patterns v = text f t negated patterns w := by
  rw [text, text, Coerce.text?_congr (hR.agree hvw), hR.texts? hvw, notText_congr hR hvw]

theorem isKind_congr (now : Time.Instant) (f : Flags) (k : KindTest) (expected : Bool) :
    isKind now f k expected v = isKind now f k expected w := by
  have hagree := hR.agree hvw
  have hkind : ofKind? now f k v = ofKind? now f k w := by
    cases k with
    | string => rw [ofKind?, ofKind?, hagree.text]
    | array => rw [ofKind?, ofKind?, hagree.isArray]
    | boolean => rw [ofKind?, ofKind?, Coerce.bool?_congr hagree]
    | dateTime => rw [ofKind?, ofKind?, Coerce.instant?_congr hagree]
    | integer => rw [ofKind?, ofKind?, Coerce.long?_congr hagree]
    | numeric => rw [ofKind?, ofKind?, Coerce.long?_congr hagree, Coerce.float?_congr hagree]
    | lower => rw [ofKind?, ofKind?, hagree.text]
    | upper => rw [ofKind?, ofKind?, hagree.text]
  rw [isKind, isKind, hkind, notText_congr hR hvw, shown_congr hR hvw]

end Verdict

end Sift
