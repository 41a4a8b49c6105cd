import Sift.Proofs.Condition.Closure
import Sift.Proofs.Condition.Leaf

/-! Conditions do not see what is around the item that they are asked in.

Two contexts may look the same and still stand in different places, one deeper in a target
than the other. A condition then gives the same answer in both, and the same reasons but for
where they stand (`relocates_evaluate`). So what is said of an item within a target is what is
said of the item as a target of its own (`enter_behind_alone`). -/
namespace Sift

variable {α : Type}

/-- The reason, seen from further out. -/
def Reason.behind (base : String) (r : Reason) : Reason := { r with item := joinPath base r.item }

namespace Context

/-- Two contexts look the same, and the place of `c` is that of `d`, behind `base`. -/
structure Behind (base : String) (c d : Context α) : Prop where
  agrees : c.Agrees d
  parent : c.parent = d.parent
  itemPath : c.itemPath = joinPath base d.itemPath

/-- The context of an item that is a target of its own, with all that was given with the
target. -/
def alone (c : Context α) (item : α) : Context α :=
  { Context.of c.engine item c.options c.now with
    targetName := c.targetName, targetType := c.targetType, parent := c.parent }

theorem honest_alone (c : Context α) (item : α) : (c.alone item).Honest := honest_of_nil rfl

theorem itemPath_enter (c : Context α) (item : α) (place : String) :
    (c.enter item place).itemPath = joinPath c.itemPath place := rfl

namespace Behind

variable {base : String} {c c' d d' : Context α} {new more : List Reason}

theorem adds (h : c.Behind base d) (hc : c.Adds new c') (hd : d.Adds more d') :
    c'.Behind base d' := by
  refine ⟨h.agrees.adds hc hd, ?_, ?_⟩
  · rw [hc.parent, hd.parent, h.parent]
  · rw [hc.itemPath, hd.itemPath, h.itemPath]

theorem enter (h : c.Behind base d) (item : α) (place : String) :
    (c.enter item place).Behind base (d.enter item place) := by
  refine ⟨h.agrees.enter item place, h.parent, ?_⟩
  rw [itemPath_enter, itemPath_enter, h.itemPath, joinPath_assoc]

theorem told (h : c.Behind base d) (f : Option Finding) :
    c.told f = (d.told f).map (Reason.behind base) := by
  cases f with
  | none => rfl
  | some f =>
    rw [Context.told, h.itemPath, h.parent]
    rfl

end Behind

/-- An item that is entered looks like the item as a target of its own. -/
theorem enter_behind_alone {c : Context α} (hc : c.Honest) (item : α) (place : String) :
    (c.enter item place).Behind (joinPath c.itemPath place) (c.alone item) := by
  refine ⟨⟨rfl, rfl, rfl, rfl, rfl, rfl, ?_⟩, rfl, ?_⟩
  · funext key
    exact (hc key).trans (c.honest_alone item key).symm
  · rw [itemPath_enter, show (c.alone item).itemPath = "" from rfl,
      joinPath_empty_right isEmptyPath_empty, plainPath_joinPath]

end Context

/-- In contexts that look the same, an evaluation gives the same result, and the same reasons
but for where they stand. -/
def Evaluation.Relocates (β : Type) (x : Evaluation α β) : Prop :=
  ∀ base c d, c.Behind base d → ∃ r new c' d', x.outcome c = (r, c') ∧ x.outcome d = (r, d') ∧
    c.Adds (new.map (Reason.behind base)) c' ∧ d.Adds new d'

namespace Evaluation

open Condition

theorem relocates_closed : Closed (Relocates (α := α)) := by
  constructor
  · intro β a base c d _
    exact ⟨.ok a, [], c, d, rfl, rfl, .refl c, .refl d⟩
  · intro β γ x k hx hk base c d hbehind
    obtain ⟨r, new, c', d', hc, hd, hadds, hadds'⟩ := hx base c d hbehind
    simp only [outcome_bind, hc, hd]
    cases r with
    | error e => exact ⟨.error e, new, c', d', rfl, rfl, hadds, hadds'⟩
    | ok a =>
      obtain ⟨r, more, c'', d'', hc', hd', hmore, hmore'⟩ :=
        hk a base c' d' (hbehind.adds hadds hadds')
      refine ⟨r, new ++ more, c'', d'', hc', hd', ?_, hadds'.trans hmore'⟩
      rw [List.map_append]
      exact hadds.trans hmore

namespace Relocates

variable {β : Type}

theorem visit {x : Evaluation α β} (h : Relocates β x) (item : α) (place : String) :
    Relocates β (Condition.visit x item place) := by
  intro base c d hbehind
  obtain ⟨r, new, c', d', hc, hd, hadds, hadds'⟩ := h base _ _ (hbehind.enter item place)
  simp only [outcome_visit, hc, hd]
  exact ⟨r, new, c'.leave, d'.leave, rfl, rfl, hadds.leave, hadds'.leave⟩

theorem filtered {x : Evaluation α Bool} (h : Relocates Bool x) :
    Relocates Bool (Condition.filtered x) := by
  intro base c d hbehind
  obtain ⟨r, new, c', d', hc, hd, hadds, hadds'⟩ := h base c d hbehind
  simp only [outcome_filtered, hc, hd]
  cases r with
  | error e => exact ⟨.error e, new, c', d', rfl, rfl, hadds, hadds'⟩
  | ok answer => exact ⟨.ok answer, [], _, _, rfl, rfl, hadds.keepReasons, hadds'.keepReasons⟩

theorem leaf [Viewable α] (l : Leaf) : Relocates Bool (l.evaluate (α := α)) := by
  intro base c d hbehind
  obtain ⟨r, f, c', d', hc, hd, hadds, hadds', -⟩ := l.finds_evaluate c d hbehind.agrees
  rw [hbehind.told f] at hadds
  exact ⟨r, d.told f, c', d', hc, hd, hadds, hadds'⟩

end Relocates

end Evaluation

namespace Condition

open Evaluation

variable [Viewable α]

/-- **What is around the items that a condition is asked in only shows in where its reasons
stand.** -/
theorem relocates_evaluate (cond : Condition) : Relocates Bool (cond.evaluate (α := α)) := by
  induction cond using Condition.nested with
  | leaf path l => exact Relocates.leaf l
  | group path k children ih => exact relocates_closed.combine k (forall_mem_evaluateEach.2 ih)
  | forEach path k children field w q ih ihw =>
    have hfilter : Relocates Bool (evaluateFilter (α := α) w) := by
      cases w with
      | none => exact relocates_closed.pure true
      | some v => exact (ihw v rfl).filtered
    have hask := relocates_closed.askItem hfilter
      (relocates_closed.combine k (forall_mem_evaluateEach.2 ih))
    intro base c d hbehind
    rw [outcome_forEach, outcome_forEach, hbehind.agrees.itemsOf field]
    exact relocates_closed.overItems q 0 0 (fun _ item _ => hask.visit item _) base c d hbehind

end Condition

end Sift
