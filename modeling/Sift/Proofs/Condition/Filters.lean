import Sift.Proofs.Condition.Addressed
import Sift.Proofs.Condition.Computed
import Sift.Proofs.Condition.Discipline
import Sift.Proofs.Condition.Faults
import Sift.Regex.Engine

/-! What filters leave behind.

The leaves that a filter asks give reasons as all others do, and the filter takes them back when it
has its answer. So where an evaluation comes to an answer, or to an error outside of its filters,
the reasons that it adds are those of the leaves on its main trail, which are asked for no filter
(`filters_leave_no_reasons`).

A filter that ends in an error takes nothing back: what its leaves had to say up to there stays
(`filter_leaves_reason`). -/
namespace Sift

variable {α β γ : Type} [Viewable α]

/-! ### The main trail -/

namespace Condition

mutual

/-- The leaves that a condition asks, those apart that it asks for a filter. -/
def mainTrail : Condition → Context α → Trail α
  | .leaf _ l => fun c => [(l, c)]
  | .group _ k children => mainTrailEach k children
  | .forEach _ k children field w q => fun c =>
    trailItems
      (followed (fun _ => []) (evaluateFilter w) fun counts =>
        if counts then mainTrailEach k children else fun _ => [])
      (askItem (evaluateFilter w) (combine k (evaluateEach children))) (itemsPath field) q 0
      (itemsOf field c) c
termination_by structural cond => cond

def mainTrailEach (k : Combinator) : List Condition → Context α → Trail α
  | [] => fun _ => []
  | child :: rest =>
    followed child.mainTrail child.evaluate fun answer =>
      if k.goesOn answer then mainTrailEach k rest else fun _ => []
termination_by structural children => children

end

end Condition

section Parts

variable {t s : Context α → Trail α}

omit [Viewable α] in
theorem followed_sublist {x : Evaluation α β} {next more : β → Context α → Trail α}
    (ht : ∀ c, (t c).Sublist (s c)) (hnext : ∀ a c, (next a c).Sublist (more a c)) (c : Context α) :
    (followed t x next c).Sublist (followed s x more c) := by
  refine (ht c).append ?_
  rcases x.outcome c with ⟨e | a, c'⟩
  · exact List.Sublist.refl []
  · exact hnext a c'

omit [Viewable α] in
theorem Condition.trailItems_sublist (ht : ∀ c, (t c).Sublist (s c))
    (ask : Evaluation α (Option Bool)) (path : String) (q : Option Quantifier) (i : Nat)
    (items : List α) (c : Context α) :
    (trailItems t ask path q i items c).Sublist (trailItems s ask path q i items c) := by
  induction items generalizing i c with
  | nil => exact List.Sublist.refl []
  | cons item rest ih =>
    refine followed_sublist (fun c => ht _) (fun answer c => ?_) c
    match answer, q with
    | none, _ => exact ih (i + 1) c
    | some true, _ => exact ih (i + 1) c
    | some false, none => exact List.Sublist.refl []
    | some false, some q => exact ih (i + 1) c

end Parts

namespace Condition

theorem mainTrailEach_sublist (k : Combinator) {children : List Condition}
    (h : ∀ child ∈ children, ∀ c : Context α, (child.mainTrail c).Sublist (child.trail c))
    (c : Context α) : (mainTrailEach k children c).Sublist (trailEach k children c) := by
  induction children generalizing c with
  | nil => exact List.Sublist.refl []
  | cons child rest ih =>
    obtain ⟨hchild, hrest⟩ := List.forall_mem_cons.1 h
    refine followed_sublist hchild (fun answer c => ?_) c
    split
    · exact ih hrest c
    · exact List.Sublist.refl []

/-- What is on the main trail is asked, and in this order. -/
theorem mainTrail_sublist (cond : Condition) (c : Context α) :
    (cond.mainTrail c).Sublist (cond.trail c) := by
  induction cond using Condition.nested generalizing c with
  | leaf path l => exact List.Sublist.refl _
  | group path k children ih => exact mainTrailEach_sublist k ih c
  | forEach path k children field w q ih ihw =>
    refine trailItems_sublist (fun c => ?_) _ _ q 0 _ c
    refine followed_sublist (fun c => List.nil_sublist _) (fun counts c => ?_) c
    cases counts with
    | true => exact mainTrailEach_sublist k ih c
    | false => exact List.Sublist.refl []

end Condition

/-! ### The reasons of a trail -/

/-- The reasons that a leaf adds where it is asked. -/
def Leaf.told (l : Leaf) (c : Context α) : List Reason :=
  (l.evaluate.outcome c).2.reasons.drop c.reasons.length

theorem Leaf.reasons_evaluate (l : Leaf) (c : Context α) :
    (l.evaluate.outcome c).2.reasons = c.reasons ++ l.told c := by
  obtain ⟨told, hadds, -⟩ := l.adds_evaluate c
  rw [Leaf.told, hadds.reasons, List.drop_left]

/-- The reasons that the leaves of a trail add, in order. -/
def Trail.told (t : Trail α) : List Reason := t.flatMap fun s => s.1.told s.2

theorem Trail.told_append (t more : Trail α) : Trail.told (t ++ more) = t.told ++ more.told :=
  List.flatMap_append

/-- With an answer, the leaves of the trail account for all that was added; with an error they do
if it is one of them that is misconfigured. -/
def Trail.Accounts (t : Trail α) (c : Context α) : Except ConfigError β × Context α → Prop
  | (.ok _, c') => t.Quiet ∧ c'.reasons = c.reasons ++ t.told
  | (.error _, c') => ¬ t.Quiet → c'.reasons = c.reasons ++ t.told

/-- Wherever the evaluation is begun, its trail accounts for what it adds. -/
def Evaluation.Accounted (x : Evaluation α β) (t : Context α → Trail α) : Prop :=
  ∀ c, (t c).Accounts c (x.outcome c)

namespace Evaluation.Accounted

open Condition

theorem pure (a : β) : (Pure.pure a : Evaluation α β).Accounted fun _ => [] :=
  fun _ => ⟨Trail.quiet_nil, (List.append_nil _).symm⟩

theorem leaf (l : Leaf) : (l.evaluate : Evaluation α Bool).Accounted fun c => [(l, c)] := by
  intro c
  have htold : (l.evaluate.outcome c).2.reasons = c.reasons ++ Trail.told [(l, c)] := by
    rw [l.reasons_evaluate, Trail.told, List.flatMap_singleton]
  have hend := Follows.leaf l c
  rcases hout : l.evaluate.outcome c with ⟨e | answer, c'⟩ <;> rw [hout] at hend htold
  · exact fun _ => htold
  · exact ⟨hend, htold⟩

theorem bind {x : Evaluation α β} {t : Context α → Trail α} {k : β → Evaluation α γ}
    {next : β → Context α → Trail α} (hx : x.Accounted t) (hk : ∀ a, (k a).Accounted (next a)) :
    (x >>= k).Accounted (followed t x next) := by
  intro c
  have hfirst := hx c
  rw [followed, outcome_bind]
  rcases hout : x.outcome c with ⟨e | a, c'⟩ <;> rw [hout] at hfirst
  · rw [List.append_nil]
    exact hfirst
  · obtain ⟨hquiet, htold⟩ := hfirst
    have hmore := hk a c'
    show Trail.Accounts (t c ++ next a c') c ((k a).outcome c')
    rcases hout' : (k a).outcome c' with ⟨e | b, c''⟩ <;> rw [hout'] at hmore
    · intro hloud
      have hlater : ¬ Trail.Quiet (next a c') := fun h => hloud (hquiet.append h)
      rw [hmore hlater, htold, Trail.told_append, List.append_assoc]
    · refine ⟨hquiet.append hmore.1, ?_⟩
      rw [hmore.2, htold, Trail.told_append, List.append_assoc]

theorem visit {x : Evaluation α β} {t : Context α → Trail α} (hx : x.Accounted t) (item : α)
    (place : String) :
    (Condition.visit x item place).Accounted fun c => t (c.enter item place) := by
  intro c
  have hentered := hx (c.enter item place)
  rw [outcome_visit]
  rcases hout : x.outcome (c.enter item place) with ⟨e | a, c'⟩ <;> rw [hout] at hentered <;>
    exact hentered

/-- A filter that answers has nothing to account for; and no leaf outside of it is to blame where it
does not. -/
theorem filter (w : Option Condition) :
    (evaluateFilter (α := α) w).Accounted fun _ => [] := by
  intro c
  cases w with
  | none => exact pure true c
  | some v =>
    obtain ⟨new, hadds, -⟩ := v.logs_evaluate c c [] (.refl c)
    rw [evaluateFilter, outcome_filtered]
    rcases hout : v.evaluate.outcome c with ⟨e | answer, c'⟩ <;> rw [hout] at hadds
    · exact fun hloud => absurd Trail.quiet_nil hloud
    · exact ⟨Trail.quiet_nil, hadds.keepReasons.reasons⟩

end Evaluation.Accounted

theorem Evaluation.trailed_accounted :
    Trailed (α := α) fun _ x t => x.Accounted t :=
  ⟨Accounted.pure, Accounted.bind, Accounted.visit⟩

/-! ### Conditions -/

open Condition Evaluation

theorem Condition.accounted_mainTrail (cond : Condition) :
    (cond.evaluate (α := α)).Accounted cond.mainTrail := by
  induction cond using Condition.nested with
  | leaf path l => exact .leaf l
  | group path k children ih => exact trailed_accounted.combine (fun _ _ => rfl) rfl ih
  | forEach path k children field w q ih _ =>
    have hgroup : (combine (α := α) k (evaluateEach children)).Accounted
        (mainTrailEach k children) := trailed_accounted.combine (fun _ _ => rfl) rfl ih
    have hitem := trailed_accounted.askItem (Accounted.filter w) hgroup
    exact fun c => trailed_accounted.overItems hitem _ q 0 0 (itemsOf field c) c

/-- **Filters leave no reasons behind.** Where an evaluation comes to an answer, or to the error of
a leaf that is asked for no filter, the reasons that it adds are those of the leaves that are asked
for none, in order. -/
theorem filters_leave_no_reasons (cond : Condition) (c : Context α)
    (h : (∃ answer, (cond.evaluate.outcome c).1 = .ok answer) ∨
      ∃ s ∈ cond.mainTrail c, s.1.Misconfigured s.2) :
    (cond.evaluate.outcome c).2.reasons =
        c.reasons ++ (cond.mainTrail c).flatMap (fun s => s.1.told s.2) ∧
      (cond.mainTrail c).Sublist (cond.trail c) := by
  refine ⟨?_, cond.mainTrail_sublist c⟩
  have haccounts := cond.accounted_mainTrail c
  rcases hout : cond.evaluate.outcome c with ⟨e | answer, c'⟩ <;> rw [hout] at h haccounts
  · obtain ⟨_, ⟨⟩⟩ | ⟨s, hs, hmis⟩ := h
    exact haccounts fun hquiet => hquiet s hs hmis
  · exact haccounts.2

section Versions

/-- One is two: a condition that never holds, and says so. -/
def unequal : Value := .object [("value", .int 1), ("equals", .int 2)]

def unequalLeaf : Leaf :=
  ⟨.equals false (.literal (.int 2)), some (.value (.literal (.int 1))),
    ⟨false, false, false, false, false, false⟩⟩

/-- The version `1.0.0` fits the constraint that is configured as `c`. -/
def fitting : Value :=
  .object [("value", .text "1.0.0"), ("version", Builder.configured "c")]

def fittingLeaf : Leaf :=
  ⟨.version .semantic (.function (.configuration "c")), some (.value (.literal (.text "1.0.0"))),
    ⟨false, false, false, false, false, false⟩⟩

/-- Every item for which the filter holds, has to show that one is two. -/
def filteredDocument : Value :=
  .object [("field", .text "items"), ("where", .object [("anyOf", .array [unequal, fitting])]),
    ("allOf", .array [unequal])]

def filteredItems : Condition :=
  .forEach ".allOf" .allOf [.leaf ".allOf[0].equals" unequalLeaf] itemsField
    (some (.group ".allOf.where.anyOf" .anyOf [.leaf ".allOf.where.anyOf[0].equals" unequalLeaf,
      .leaf ".allOf.where.anyOf[1].version" fittingLeaf])) none

theorem build_filtered (engine : Engine) :
    (Builder.of engine {}).build filteredDocument = .ok filteredItems := by
  let b := Builder.of engine {}
  have hunequal (levels : Nat) (location : String) :
      b.condition (levels + 1) location unequal =
        .ok (.leaf (location ++ "." ++ unequalLeaf.operator.name) unequalLeaf) :=
    b.condition_eq_ok.2 ⟨_, rfl, .inl ⟨rfl, b.leaf_eq_ok.2 ⟨.equals false, "equals", .int 2,
      _, _, _, rfl, rfl, rfl, nofun, rfl, rfl⟩⟩⟩
  have hfitting (levels : Nat) (location : String) :
      b.condition (levels + 1) location fitting =
        .ok (.leaf (location ++ "." ++ fittingLeaf.operator.name) fittingLeaf) := by
    refine b.condition_eq_ok.2 ⟨_, rfl, .inl ⟨rfl, b.leaf_eq_ok.2 ⟨.version .semantic, "version",
      Builder.configured "c", _, _, _, rfl, rfl, rfl, nofun, ?_, rfl⟩⟩⟩
    rw [Builder.operator, Builder.constraint, Builder.body?_configured]
    have hcompiled : Function.compile b.functions (location ++ "." ++ "version")
        (.object [("configuration", .text "c")]) = .ok (.configuration "c") :=
      Builder.compile_configured engine _ _
    dsimp only
    rw [hcompiled]
    rfl
  have hchildren : Builder.readAll (b.condition 99) ".allOf" 0 [unequal] =
      .ok [.leaf ".allOf[0].equals" unequalLeaf] := by
    rw [Builder.readAll, hunequal]
    rfl
  have hasked : Builder.readAll (b.condition 98) ".allOf.where.anyOf" 0
      [unequal, fitting] = .ok [.leaf ".allOf.where.anyOf[0].equals" unequalLeaf,
        .leaf ".allOf.where.anyOf[1].version" fittingLeaf] := by
    rw [Builder.readAll, hunequal, Builder.readAll, hfitting]
    rfl
  have hfilter : b.condition 99 ".allOf.where"
      (.object [("anyOf", .array [unequal, fitting])]) =
        .ok (.group ".allOf.where.anyOf" .anyOf _) :=
    b.condition_eq_ok.2 ⟨_, rfl, .inr ⟨.anyOf, _, _, _, rfl, rfl, hasked, .group rfl⟩⟩
  exact b.condition_eq_ok.2 ⟨_, rfl, .inr ⟨.allOf, _, _, _, rfl, rfl, hchildren,
    .forEach rfl (Builder.field_of_compile (compile_itemsField _ _)) (.some rfl hfilter) rfl⟩⟩

/-- One item, in a context where `c` is configured as a constraint. -/
def configuredItem : Context Value :=
  .of Regex.engine (.object [("items", .array [.null])])
    { configuration := [("c", .text "1.0.0")] } ⟨0, 0⟩

/-- The item counts, and what the filter had to say first is forgotten. -/
theorem filters_leave_no_reasons_item :
    (Builder.of Regex.engine {}).build filteredDocument = .ok filteredItems ∧
      (filteredItems.evaluate.outcome configuredItem).1 = .ok false ∧
      (filteredItems.mainTrail configuredItem).map (·.1.operator.name) = ["equals"] ∧
      (filteredItems.trail configuredItem).map (·.1.operator.name) =
        ["equals", "version", "equals"] ∧
      (filteredItems.evaluate.outcome configuredItem).2.reasons =
        [] ++ (filteredItems.mainTrail configuredItem).flatMap fun s => s.1.told s.2 := by
  have hanswer : (filteredItems.evaluate.outcome configuredItem).1 = .ok false := by decide +kernel
  exact ⟨build_filtered _, hanswer, by decide +kernel, by decide +kernel,
    (filters_leave_no_reasons filteredItems configuredItem (.inl ⟨false, hanswer⟩)).1⟩

/-- One item, in a context where `c` is not configured. -/
def unconfiguredItem : Context Value :=
  .of Regex.engine (.object [("items", .array [.null])]) {} ⟨0, 0⟩

/-- The filter fails at its second leaf, and the reason of its first one stays. -/
theorem filter_leaves_reason :
    (Builder.of Regex.engine {}).build filteredDocument = .ok filteredItems ∧
      (filteredItems.evaluate.outcome unconfiguredItem).1 = .error (.invalidConstraint "null") ∧
      filteredItems.mainTrail unconfiguredItem = [] ∧
      (filteredItems.evaluate.outcome unconfiguredItem).2.reasons =
        [⟨.value, "", "items[0]", "", "Is set to '1'."⟩] ∧
      unequalLeaf.told (unconfiguredItem.enter .null "items[0]") =
        [⟨.value, "", "items[0]", "", "Is set to '1'."⟩] :=
  ⟨build_filtered _, by decide +kernel, rfl, by decide +kernel, by decide +kernel⟩

end Versions

end Sift
