import Sift.Proofs.Condition.Discipline
import Sift.Proofs.Condition.Relocate
import Sift.Regex.Engine

/-! Evaluations do not depend on what was evaluated before.

One context may serve many evaluations, and each leaves its reasons and the patterns that it made
behind. Neither is seen by a later one: reasons are only added to, and a pattern that is kept is
the one that would be made again (`Used.honest`). So in contexts that differ in nothing else a
condition comes to the same answer and adds the same reasons (`evaluate_forgets`). -/
namespace Sift

variable {α : Type}

namespace Context

/-- The patterns that are kept are those of their texts exactly if each one that is found is. -/
theorem honest_iff {c : Context α} :
    c.Honest ↔ ∀ key p, c.patterns.lookup key = some p →
      c.engine.compile? key.1 key.2 c.options.execution.regexSizeLimit = some p := by
  refine forall_congr' fun key => ?_
  rw [patternAt]
  cases c.patterns.lookup key with
  | none => simp
  | some p => simp [eq_comm]

/-- A context that conditions may have been evaluated in before. Between two evaluations all but
its options, its engine and its patterns may change: items are entered or left, reasons are taken
out, and names are given. -/
inductive Used [Viewable α] : Context α → Prop where
  | unused {c : Context α} : c.patterns = [] → Used c
  | evaluated {c : Context α} (cond : Condition) : Used c → Used (cond.evaluate.outcome c).2
  | changed {c d : Context α} : Used c → d.options = c.options → d.engine = c.engine →
      d.patterns = c.patterns → Used d

/-- **Whatever was evaluated before, a pattern that is kept is the one that its text gives.** -/
theorem Used.honest [Viewable α] {c : Context α} (h : c.Used) : c.Honest := by
  induction h with
  | unused hnil => exact honest_of_nil hnil
  | evaluated cond _ ih => exact cond.honest_evaluate ih
  | changed _ hoptions hengine hpatterns ih =>
    rw [honest_iff, hoptions, hengine, hpatterns]
    exact honest_iff.1 ih

/-- The same is asked in two contexts: they differ in nothing but the reasons that they hold, the
patterns that they keep, and what is around the innermost item. -/
structure Matches (c d : Context α) : Prop where
  current : c.current = d.current
  options : c.options = d.options
  engine : c.engine = d.engine
  now : c.now = d.now
  places : c.entered.map Entered.place = d.entered.map Entered.place
  parent : c.parent = d.parent
  targetName : c.targetName = d.targetName
  targetType : c.targetType = d.targetType

namespace Matches

variable {c d : Context α}

theorem itemPath (h : c.Matches d) : c.itemPath = d.itemPath := by
  have hfolded (c : Context α) : c.itemPath =
      (c.entered.map Entered.place).foldr (fun place outer => joinPath outer place) "" := by
    rw [Context.itemPath, List.foldr_map]
  rw [hfolded, hfolded, h.places]

theorem agrees (h : c.Matches d) (hc : c.Honest) (hd : d.Honest) : c.Agrees d := by
  refine ⟨h.current, h.options, h.engine, h.now, h.targetName, h.targetType, ?_⟩
  funext key
  rw [hc key, hd key, h.options, h.engine]

end Matches

theorem Adds.matches {c c' : Context α} {new : List Reason} (h : c.Adds new c') :
    c'.Matches c := by
  rw [h.eq]
  exact ⟨rfl, rfl, rfl, rfl, rfl, rfl, rfl, rfl⟩

/-- The path of an item is none, or leads somewhere. -/
theorem plainPath_itemPath (c : Context α) : plainPath c.itemPath = c.itemPath := by
  rw [itemPath]
  cases c.entered with
  | nil => exact plainPath_of_empty isEmptyPath_empty
  | cons e outer => exact plainPath_joinPath

/-- Contexts in which the same is asked stand at the same place. -/
theorem Matches.behind {c d : Context α} (h : c.Matches d) (hc : c.Honest) (hd : d.Honest) :
    c.Behind "" d := by
  refine ⟨h.agrees hc hd, h.parent, ?_⟩
  rw [h.itemPath, joinPath_empty_left isEmptyPath_empty, plainPath_itemPath]

variable [Viewable α]

/-- The context behind several evaluations, one after another. -/
def after (c : Context α) (conds : List Condition) : Context α :=
  conds.foldl (fun c cond => (cond.evaluate.outcome c).2) c

theorem adds_after (c : Context α) (conds : List Condition) : ∃ new, c.Adds new (c.after conds) := by
  induction conds generalizing c with
  | nil => exact ⟨[], .refl c⟩
  | cons cond conds ih =>
    obtain ⟨new, hadds, -⟩ := cond.logs_evaluate c c [] (.refl c)
    obtain ⟨more, hmore⟩ := ih (cond.evaluate.outcome c).2
    exact ⟨new ++ more, hadds.trans hmore⟩

theorem Used.after {c : Context α} (h : c.Used) (conds : List Condition) :
    (c.after conds).Used := by
  induction conds generalizing c with
  | nil => exact h
  | cons cond conds ih => exact ih (.evaluated cond h)

end Context

variable [Viewable α]

/-- A condition answers in the same way, and gives the same reasons. -/
def Condition.AnswersAlike (cond : Condition) (c d : Context α) : Prop :=
  (cond.evaluate.outcome c).1 = (cond.evaluate.outcome d).1 ∧
    ∃ new, (cond.evaluate.outcome c).2.reasons = c.reasons ++ new ∧
      (cond.evaluate.outcome d).2.reasons = d.reasons ++ new

theorem Context.Matches.answersAlike {c d : Context α} (h : c.Matches d) (hc : c.Honest)
    (hd : d.Honest) (cond : Condition) : cond.AnswersAlike c d := by
  obtain ⟨r, new, c', d', houtc, houtd, hadds, hadds'⟩ :=
    cond.relocates_evaluate "" c d (h.behind hc hd)
  obtain ⟨told, htold, hgives⟩ := cond.logs_evaluate d d [] (.refl d)
  rw [houtd] at htold
  have hnew : told = new := List.append_cancel_left (htold.reasons.symm.trans hadds'.reasons)
  -- A reason stands where a context does, so it is the same from an empty path.
  have hbehind : new.map (Reason.behind "") = new := by
    refine (List.map_congr_left fun t ht => ?_).trans (List.map_id' new)
    obtain ⟨_, d, -, -, -, hitem, -⟩ := hgives t (hnew ▸ ht)
    rw [Reason.behind, joinPath_empty_left isEmptyPath_empty, hitem, d.plainPath_itemPath, ← hitem]
  rw [hbehind] at hadds
  rw [Condition.AnswersAlike, houtc, houtd]
  exact ⟨rfl, new, hadds.reasons, hadds'.reasons⟩

/-- **What was evaluated before makes no difference to a condition.** In two contexts in which the
same is asked it comes to the same answer, or the same error, and adds the same reasons, whatever
reasons and patterns earlier evaluations have left in them; so it does after any sequence of
conditions, itself among them. All patterns that may be found there are those of their texts. -/
theorem evaluate_forgets (cond : Condition) (c d : Context α) (h : c.Matches d) (hc : c.Used)
    (hd : d.Used) :
    cond.AnswersAlike c d ∧
    (∀ earlier : List Condition, cond.AnswersAlike (c.after earlier) c) ∧
    ∀ key p, c.patterns.lookup key = some p →
      c.engine.compile? key.1 key.2 c.options.execution.regexSizeLimit = some p := by
  refine ⟨h.answersAlike hc.honest hd.honest cond, fun earlier => ?_,
    Context.honest_iff.1 hc.honest⟩
  obtain ⟨_, hadds⟩ := c.adds_after earlier
  exact hadds.matches.answersAlike (hc.after earlier).honest hc.honest cond

/-- The second time the pattern is found, which was made the first time. -/
theorem evaluate_forgets_kept :
    let cond : Condition := .leaf "" ⟨.matches false (.function (.constant (.text "a"))),
      some (.value (.literal (.text "b"))), ⟨false, false, false, false, false, false⟩⟩
    let c := Context.of Regex.engine Value.null {} ⟨0, 0⟩
    let d := c.after [cond]
    d.Matches c ∧ d.Used ∧ c.Used ∧ d.patterns.map Prod.fst = [("a", false)] ∧
      cond.AnswersAlike d c := by
  intro cond c d
  have hc : c.Used := .unused rfl
  obtain ⟨_, hadds⟩ := c.adds_after [cond]
  have hkept : d.patterns.map Prod.fst = [("a", false)] := by rfl
  have hd : d.Used := hc.after [cond]
  exact ⟨hadds.matches, hd, hc, hkept, (evaluate_forgets cond d c hadds.matches hd hc).1⟩

end Sift
