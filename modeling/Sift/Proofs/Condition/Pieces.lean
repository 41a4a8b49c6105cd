import Sift.Proofs.Condition.Discipline
import Sift.Regex.Engine

/-! Paths in pieces.

The path of a reason is put together from pieces: the path of the target, those of the items that
were entered, each inside of the one before it, and that of the operand. Any neighbours among them
may be joined first (`Assembled`). There is one path that comes of all of them, whatever the
grouping, and it is the one that the reason has (`reasons_regroup`). -/
namespace Sift

/-! ### Groupings -/

/-- The pieces are put together, two neighbours at a time. -/
inductive Assembled : List String → String → Prop where
  | nothing : Assembled [] ""
  | piece (a : String) : Assembled [a] a
  | join {front back : List String} {a b : String} : Assembled front a → Assembled back b →
      Assembled (front ++ back) (joinPath a b)

/-- The pieces, each in front of all that are behind it. -/
def joinAll (pieces : List String) : String := pieces.foldr joinPath ""

theorem plainPath_joinAll (pieces : List String) : plainPath (joinAll pieces) = joinAll pieces := by
  cases pieces with
  | nil => exact plainPath_of_empty isEmptyPath_empty
  | cons a rest => exact plainPath_joinPath

theorem joinAll_append (front back : List String) :
    joinAll (front ++ back) = joinPath (joinAll front) (joinAll back) := by
  induction front with
  | nil =>
    show joinAll back = joinPath "" (joinAll back)
    rw [joinPath_empty_left isEmptyPath_empty, plainPath_joinAll]
  | cons a front ih =>
    show joinPath a (joinAll (front ++ back)) = joinPath (joinPath a (joinAll front)) (joinAll back)
    rw [ih, joinPath_assoc]

namespace Assembled

variable {pieces : List String} {whole : String}

/-- A single piece may be blank; that apart, the grouping makes no difference. -/
theorem plainPath_eq (h : Assembled pieces whole) : plainPath whole = joinAll pieces := by
  induction h with
  | nothing => exact plainPath_of_empty isEmptyPath_empty
  | piece a => exact (joinPath_empty_right isEmptyPath_empty).symm
  | @join front back a b _ _ ihfront ihback =>
    rw [plainPath_joinPath, joinAll_append, ← ihfront, ← ihback, joinPath_plainPath_left,
      joinPath_plainPath_right]

/-- Where there is something to join, what comes of it is not blank unless it is empty. -/
theorem eq_joinAll (h : Assembled pieces whole) (hpieces : 2 ≤ pieces.length) :
    whole = joinAll pieces := by
  rw [← h.plainPath_eq]
  cases h with
  | nothing => cases hpieces
  | piece a => exact absurd hpieces (by simp)
  | join => exact plainPath_joinPath.symm

end Assembled

/-! ### Reasons -/

variable {α : Type}

/-- What the path of a reason begins with: the path of the target, and those of the items that were
entered, outermost first. -/
def Context.pieces (c : Context α) : List String :=
  c.parent :: (c.entered.map Entered.place).reverse

namespace Context

theorem assembled_itemPath (c : Context α) :
    Assembled (c.entered.map Entered.place).reverse c.itemPath := by
  rw [itemPath]
  induction c.entered with
  | nil => exact .nothing
  | cons e outer ih =>
    rw [List.map_cons, List.reverse_cons, List.foldr_cons]
    exact .join ih (.piece e.place)

/-- The path of a reason is one that the pieces give, so each grouping of them gives it. -/
theorem assembled_iff {c : Context α} {t : Reason} (hitem : t.item = c.itemPath)
    (hparent : t.parent = c.parent) {whole : String} :
    Assembled (c.pieces ++ [t.operand]) whole ↔ whole = t.fullPath := by
  have hfull : Assembled (c.pieces ++ [t.operand]) t.fullPath := by
    rw [Reason.fullPath, Reason.path, hitem, hparent, pieces, List.cons_append]
    exact .join (.piece c.parent) (.join c.assembled_itemPath (.piece t.operand))
  constructor
  · intro h
    have hlength : 2 ≤ (c.pieces ++ [t.operand]).length := by simp [pieces]
    rw [h.eq_joinAll hlength, hfull.eq_joinAll hlength]
  · intro h
    rw [h]
    exact hfull

end Context

variable [Viewable α]

/-- **However the pieces of a path are grouped, the path is the same.** Joining is associative, and
a blank path or a lone dot adds nothing on either side; what is blank on the other side becomes
empty. So of each reason that a condition gives, the path is what comes of the path of the target,
those of the items around the leaf, and that of the operand, whichever are joined first. -/
theorem reasons_regroup (cond : Condition) (c : Context α) :
    (∀ a b d, joinPath (joinPath a b) d = joinPath a (joinPath b d)) ∧
    (∀ e, (∀ x ∈ e.toList, Text.isBlank x = true) ∨ e = "." →
      ∀ a, joinPath e a = plainPath a ∧ joinPath a e = plainPath a) ∧
    ∃ new, (cond.evaluate.outcome c).2.reasons = c.reasons ++ new ∧
      ∀ t ∈ new, ∃ (l : Leaf) (d : Context α), cond.Asks c l d ∧
        (l.evaluate.outcome d).2.reasons = d.reasons ++ [t] ∧
        ∀ whole, Assembled (d.pieces ++ [t.operand]) whole ↔ whole = t.fullPath := by
  obtain ⟨new, hadds, hnew⟩ := cond.logs_evaluate c c [] (.refl c)
  refine ⟨joinPath_assoc, fun e he a => ?_, new, hadds.reasons, fun t ht => ?_⟩
  · have hempty : isEmptyPath e = true := by
      rw [isEmptyPath, Text.isBlankText, Bool.or_eq_true, List.all_eq_true, beq_iff_eq]
      exact he
    exact ⟨joinPath_empty_left hempty, joinPath_empty_right hempty⟩
  · obtain ⟨l, d, hasks, -, hreasons, hitem, hparent⟩ := hnew t ht
    exact ⟨l, d, hasks, hreasons, fun _ => Context.assembled_iff hitem hparent⟩

/-- An item of an item, where a lone dot was entered between them. -/
theorem reasons_regroup_items :
    let cond : Condition := .leaf "" ⟨.hasSchema [], some (.value (.literal (.object []))),
      ⟨false, false, false, false, false, false⟩⟩
    let c : Context Value :=
      { Context.of Regex.engine Value.null {} ⟨0, 0⟩ with
        entered := [⟨.null, "[1]"⟩, ⟨.null, "."⟩, ⟨.null, "items[0]"⟩], parent := "template" }
    ∃ t, (cond.evaluate.outcome c).2.reasons = [t] ∧ t.fullPath = "template.items[0][1].$schema" ∧
      ∀ whole, Assembled ["template", "items[0]", ".", "[1]", "$schema"] whole ↔
        whole = t.fullPath := by
  intro cond c
  have hreasons : (cond.evaluate.outcome c).2.reasons =
      [⟨.path, "$schema", "items[0][1]", "template", "The field '$schema' does not exist."⟩] := by
    decide +kernel
  refine ⟨_, hreasons, by decide +kernel, ?_⟩
  obtain ⟨-, -, new, hnew, hpieces⟩ := reasons_regroup cond c
  obtain rfl : _ = new := hreasons.symm.trans hnew
  obtain ⟨l, d, hasks, -, hwhole⟩ := hpieces _ List.mem_cons_self
  dsimp only [cond] at hasks
  cases hasks
  exact hwhole

end Sift
