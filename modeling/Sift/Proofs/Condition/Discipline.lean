import Sift.Proofs.Condition.Closure
import Sift.Proofs.Condition.Leaf

/-! What evaluating a condition leaves in its context.

However an evaluation ends, all items that it entered are left again, and there are reasons
behind those that were there: each one is the reason of a leaf, and stands where that leaf was
asked (`evaluate_disciplined`). The filters of items leave no reasons, unless they end in an
error. -/
namespace Sift

variable {α : Type} [Viewable α]

/-- Asked in the context `c`, a condition comes to ask the leaf `l` in the context `d`, where
the items around the leaf are entered. -/
inductive Condition.Asks : Condition → Context α → Leaf → Context α → Prop where
  | leaf {path : String} {l : Leaf} {c : Context α} : Asks (.leaf path l) c l c
  | group {path : String} {k : Combinator} {children : List Condition} {child : Condition}
      {c : Context α} {l : Leaf} {d : Context α} : child ∈ children → Asks child c l d →
      Asks (.group path k children) c l d
  | item {path : String} {k : Combinator} {children : List Condition} {field : Path.Program}
      {filter : Option Condition} {q : Option Quantifier} {child : Condition} {i : Nat}
      {item : α} {c : Context α} {l : Leaf} {d : Context α} : child ∈ children →
      (itemsOf field c)[i]? = some item →
      Asks child (c.enter item s!"{itemsPath field}[{i}]") l d →
      Asks (.forEach path k children field filter q) c l d
  | filter {path : String} {k : Combinator} {children : List Condition} {field : Path.Program}
      {w : Condition} {q : Option Quantifier} {i : Nat} {item : α} {c : Context α} {l : Leaf}
      {d : Context α} : (itemsOf field c)[i]? = some item →
      Asks w (c.enter item s!"{itemsPath field}[{i}]") l d →
      Asks (.forEach path k children field (some w) q) c l d

/-- A leaf answers no, and gives this reason for it. -/
def Leaf.Gives (l : Leaf) (c : Context α) (t : Reason) : Prop :=
  (l.evaluate.outcome c).1 = .ok false ∧ (l.evaluate.outcome c).2.reasons = c.reasons ++ [t] ∧
    t.item = c.itemPath ∧ t.parent = c.parent

/-- One of the leaves of a condition gives this reason, where it is asked. -/
def Condition.Gives (cond : Condition) (c : Context α) (t : Reason) : Prop :=
  ∃ (l : Leaf) (d : Context α), cond.Asks c l d ∧ l.Gives d t

/-! ### Evaluations that log reasons of a kind -/

/-- Begun in the context `c₀`, or in one that has more reasons only, an evaluation adds reasons
of a kind and nothing else. -/
def Evaluation.Logs (c₀ : Context α) (P : Reason → Prop) (β : Type) (x : Evaluation α β) : Prop :=
  ∀ c before, c₀.Adds before c → ∃ new, c.Adds new (x.outcome c).2 ∧ ∀ t ∈ new, P t

namespace Evaluation.Logs

open Condition

variable {c₀ : Context α} {P : Reason → Prop} {β : Type}

omit [Viewable α] in
theorem closed (c₀ : Context α) (P : Reason → Prop) : Closed (Logs c₀ P) := by
  constructor
  · intro β a c before _
    exact ⟨[], .refl c, fun _ ht => absurd ht List.not_mem_nil⟩
  · intro β γ x k hx hk c before hc
    obtain ⟨new, hadds, hnew⟩ := hx c before hc
    rw [outcome_bind]
    rcases hout : x.outcome c with ⟨e | a, c'⟩ <;> rw [hout] at hadds
    · exact ⟨new, hadds, hnew⟩
    · obtain ⟨more, hmore, hall⟩ := hk a c' _ (hc.trans hadds)
      exact ⟨new ++ more, hadds.trans hmore, List.forall_mem_append.2 ⟨hnew, hall⟩⟩

omit [Viewable α] in
theorem mono {x : Evaluation α β} {Q : Reason → Prop} (h : Logs c₀ P β x)
    (hPQ : ∀ t, P t → Q t) : Logs c₀ Q β x := by
  intro c before hc
  obtain ⟨new, hadds, hnew⟩ := h c before hc
  exact ⟨new, hadds, fun t ht => hPQ t (hnew t ht)⟩

omit [Viewable α] in
theorem visit {x : Evaluation α β} {item : α} {place : String}
    (h : Logs (c₀.enter item place) P β x) : Logs c₀ P β (Condition.visit x item place) := by
  intro c before hc
  obtain ⟨new, hadds, hnew⟩ := h _ _ (hc.enter item place)
  rw [outcome_visit]
  exact ⟨new, hadds.leave, hnew⟩

omit [Viewable α] in
theorem filtered {x : Evaluation α Bool} (h : Logs c₀ P Bool x) :
    Logs c₀ P Bool (Condition.filtered x) := by
  intro c before hc
  obtain ⟨new, hadds, hnew⟩ := h c before hc
  rw [outcome_filtered]
  rcases hout : x.outcome c with ⟨e | answer, c'⟩ <;> rw [hout] at hadds
  · exact ⟨new, hadds, hnew⟩
  · exact ⟨[], hadds.keepReasons, fun _ ht => absurd ht List.not_mem_nil⟩

theorem leaf (l : Leaf) : Logs c₀ (l.Gives c₀) Bool l.evaluate := by
  intro c before hc
  obtain ⟨r, f, c', d', hout, hout₀, hadds, hadds₀, hquiet⟩ :=
    l.finds_evaluate c c₀ ((Context.Agrees.refl c₀).adds hc (.refl c₀))
  rw [hc.told f] at hadds
  rw [hout]
  refine ⟨c₀.told f, hadds, fun t ht => ?_⟩
  obtain rfl | ⟨_, rfl, rfl⟩ := hquiet
  · cases ht
  · cases f with
    | none => cases ht
    | some f =>
      obtain rfl := List.mem_singleton.1 ht
      refine ⟨?_, ?_, rfl, rfl⟩
      · rw [hout₀]
      · rw [hout₀]
        exact hadds₀.reasons

/-- The items of a group are the same wherever only reasons were added. -/
theorem forEach {path : String} {k : Combinator} {children : List Condition}
    {field : Path.Program} {w : Option Condition} {q : Option Quantifier}
    (h : ∀ (i : Nat) (item : α), (itemsOf field c₀)[i]? = some item → Logs c₀ P (Option Bool)
      (Condition.visit (askItem (evaluateFilter w) (combine k (evaluateEach children))) item
        s!"{itemsPath field}[{i}]")) :
    Logs c₀ P Bool (Condition.forEach path k children field w q).evaluate := by
  intro c before hc
  rw [outcome_forEach, ((Context.Agrees.refl c₀).adds hc (.refl c₀)).itemsOf field]
  refine (closed c₀ P).overItems q 0 0 (fun j item hj => ?_) c before hc
  rw [Nat.zero_add]
  exact h j item hj

end Evaluation.Logs

/-! ### Conditions -/

namespace Condition

open Evaluation

/-- Where a condition is asked, only its leaves give reasons. -/
theorem logs_evaluate (cond : Condition) (c : Context α) :
    Logs c (cond.Gives c) Bool cond.evaluate := by
  induction cond using Condition.nested generalizing c with
  | leaf path l => exact (Logs.leaf l).mono fun t ht => ⟨l, c, .leaf, ht⟩
  | group path k children ih =>
    refine (Logs.closed c _).combine k (forall_mem_evaluateEach.2 fun child hchild => ?_)
    refine (ih child hchild c).mono fun t ht => ?_
    obtain ⟨l, d, hasks, hgives⟩ := ht
    exact ⟨l, d, .group hchild hasks, hgives⟩
  | forEach path k children field w q ih ihw =>
    refine Logs.forEach fun i item hitem => Logs.visit ?_
    refine (Logs.closed _ _).askItem ?_
      ((Logs.closed _ _).combine k (forall_mem_evaluateEach.2 fun child hchild => ?_))
    · cases w with
      | none => exact (Logs.closed _ _).pure true
      | some v =>
        refine ((ihw v rfl _).mono fun t ht => ?_).filtered
        obtain ⟨l, d, hasks, hgives⟩ := ht
        exact ⟨l, d, .filter hitem hasks, hgives⟩
    · refine (ih child hchild _).mono fun t ht => ?_
      obtain ⟨l, d, hasks, hgives⟩ := ht
      exact ⟨l, d, .item hchild hitem hasks, hgives⟩

/-- The parent of the target is the same wherever a leaf is asked. -/
theorem Asks.parent {cond : Condition} {c d : Context α} {l : Leaf} (h : cond.Asks c l d) :
    d.parent = c.parent := by
  induction h with
  | leaf => rfl
  | group _ _ ih => exact ih
  | item _ _ _ ih => exact ih
  | filter _ _ ih => exact ih

/-- Where a leaf is asked, items are entered within those that were entered before. -/
theorem Asks.entered {cond : Condition} {c d : Context α} {l : Leaf} (h : cond.Asks c l d) :
    c.entered <:+ d.entered := by
  induction h with
  | leaf => exact List.suffix_rfl
  | group _ _ ih => exact ih
  | item _ _ _ ih => exact (List.suffix_cons _ _).trans ih
  | filter _ _ ih => exact (List.suffix_cons _ _).trans ih

/-- The patterns that an evaluation keeps are those of their texts. -/
theorem honest_evaluate (cond : Condition) {c : Context α} (hc : c.Honest) :
    (cond.evaluate.outcome c).2.Honest := by
  obtain ⟨_, hadds, -⟩ := cond.logs_evaluate c c [] (.refl c)
  exact hadds.honest hc

end Condition

/-- A leaf has one reason for the answer no, or none, and has none for anything else. The
reason stands where the leaf is asked. -/
theorem Leaf.adds_evaluate (l : Leaf) (c : Context α) : ∃ told : Option Reason,
    c.Adds told.toList (l.evaluate.outcome c).2 ∧
      (∀ t ∈ told, t.item = c.itemPath ∧ t.parent = c.parent) ∧
      ((l.evaluate.outcome c).1 ≠ .ok false → told = none) := by
  obtain ⟨r, f, c', _, hout, -, hadds, -, hquiet⟩ := l.finds_evaluate c c (.refl c)
  rw [hout]
  cases f with
  | none =>
    refine ⟨none, hadds, ?_, fun _ => rfl⟩
    rintro t ⟨⟩
  | some f =>
    refine ⟨some ⟨f.origin, f.path, c.itemPath, c.parent, f.message⟩, hadds, ?_, ?_⟩
    · rintro t ⟨⟩
      exact ⟨rfl, rfl⟩
    · intro hno
      obtain hnone | ⟨_, rfl, rfl⟩ := hquiet
      · cases hnone
      · exact absurd rfl hno

/-- **However the evaluation of a condition ends, every item that it entered is left again, and
the reasons that were there still stand in front.** Behind them are the reasons of leaves, each
under the path of the items around its leaf; and of its leaves, none gives more than one, or
gives one for anything but the answer no. -/
theorem evaluate_disciplined (cond : Condition) (c : Context α) :
    (cond.evaluate.outcome c).2.entered = c.entered ∧
    (∃ new, (cond.evaluate.outcome c).2.reasons = c.reasons ++ new ∧
      ∀ t ∈ new, t.parent = c.parent ∧ ∃ (l : Leaf) (d : Context α), cond.Asks c l d ∧
        c.entered <:+ d.entered ∧ t.item = d.itemPath ∧
        (l.evaluate.outcome d).2.reasons = d.reasons ++ [t]) ∧
    ∀ (l : Leaf) (d : Context α), ∃ told : Option Reason,
      (l.evaluate.outcome d).2.reasons = d.reasons ++ told.toList ∧
        (∀ t ∈ told, t.item = d.itemPath ∧ t.parent = d.parent) ∧
        ((l.evaluate.outcome d).1 ≠ .ok false → told = none) := by
  obtain ⟨new, hadds, hnew⟩ := cond.logs_evaluate c c [] (.refl c)
  refine ⟨hadds.entered, ⟨new, hadds.reasons, fun t ht => ?_⟩, fun l d => ?_⟩
  · obtain ⟨l, d, hasks, -, hreasons, hitem, hparent⟩ := hnew t ht
    exact ⟨hparent.trans hasks.parent, l, d, hasks, hasks.entered, hitem, hreasons⟩
  · obtain ⟨told, hadds, hplace, hquiet⟩ := l.adds_evaluate d
    exact ⟨told, hadds.reasons, hplace, hquiet⟩

end Sift
