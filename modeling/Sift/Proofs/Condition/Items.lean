import Sift.Proofs.Condition.Relocate
import Sift.Regex.Engine

/-! Groups that are asked of items.

What a group says of an item is what it would say of the item as a target of its own. So the
answer for all items can be told from these answers: without a quantifier, each item that
counts has to pass, and the first that does not is the last that is asked; with one, all are
asked, and the number of those that pass is what the quantifier tests. The reasons are those
of the items in their order, each behind the path of its item (`forEach_asks_items`). -/
namespace Sift

variable {α : Type} [Viewable α]

/-! ### Items on their own -/

namespace Context

/-- The condition holds of an item as a target of its own. -/
def holds (c : Context α) (cond : Condition) (item : α) : Bool :=
  match (cond.evaluate.outcome (c.alone item)).1 with
  | .ok answer => answer
  | .error _ => false

/-- An item counts if the filter holds of it. -/
def counts (c : Context α) (w : Option Condition) (item : α) : Bool :=
  w.all fun v => c.holds v item

/-- Neither the filter nor, if the item counts, the group ends in an error. -/
def Settles (c : Context α) (w : Option Condition) (g : Condition) (item : α) : Prop :=
  (∀ v ∈ w, ∃ answer, (v.evaluate.outcome (c.alone item)).1 = .ok answer) ∧
    (c.counts w item = true → ∃ answer, (g.evaluate.outcome (c.alone item)).1 = .ok answer)

/-- The item counts, and the group does not hold of it. -/
def fails (c : Context α) (w : Option Condition) (g : Condition) (item : α) : Bool :=
  c.counts w item && !c.holds g item

/-- The item counts, and the group holds of it. -/
def passes (c : Context α) (w : Option Condition) (g : Condition) (item : α) : Bool :=
  c.counts w item && c.holds g item

/-- The items that are asked: all of them under a quantifier, and otherwise all up to the
first that fails. -/
def asked (c : Context α) (w : Option Condition) (g : Condition) (q : Option Quantifier)
    (items : List α) : List α :=
  match q with
  | none => items.take (items.findIdx (c.fails w g) + 1)
  | some _ => items

/-- The reasons for an item as a target of its own, seen from where the item is. -/
def reasonsAt (c : Context α) (g : Condition) (place : String) (item : α) : List Reason :=
  (g.evaluate.outcome (c.alone item)).2.reasons.map (Reason.behind (joinPath c.itemPath place))

end Context

namespace Condition

open Context Evaluation

variable {c c' : Context α} {before : List Reason} {w : Option Condition} {g : Condition}
  {item : α}

theorem holds_of_ok {cond : Condition} {answer : Bool}
    (h : (cond.evaluate.outcome (c.alone item)).1 = .ok answer) : c.holds cond item = answer := by
  rw [holds, h]

/-! ### One item -/

/-- In an item that was entered after some reasons, conditions answer as for the item on its
own. -/
theorem outcome_entered (hc : c.Honest) {place : String}
    (h : (c.enter item place).Adds before c') (cond : Condition) :
    ∃ c'', cond.evaluate.outcome c' = ((cond.evaluate.outcome (c.alone item)).1, c'') ∧
      c'.Adds (c.reasonsAt cond place item) c'' := by
  obtain ⟨r, new, c'', d', hout, halone, hadds, hadds'⟩ := cond.relocates_evaluate _ c' _
    ((enter_behind_alone hc item place).adds h (.refl _))
  have hnew : new = d'.reasons := by rw [hadds'.reasons]; rfl
  rw [reasonsAt, halone, ← hnew]
  exact ⟨c'', hout, hadds⟩

theorem outcome_evaluateFilter (hc : c.Honest) (h : c.Adds before c') (place : String)
    (hfilter : ∀ v ∈ w, ∃ answer, (v.evaluate.outcome (c.alone item)).1 = .ok answer) :
    ∃ c'', (evaluateFilter w).outcome (c'.enter item place) = (.ok (c.counts w item), c'') ∧
      (c'.enter item place).Adds [] c'' := by
  cases w with
  | none => exact ⟨_, rfl, .refl _⟩
  | some v =>
    obtain ⟨answer, hanswer⟩ := hfilter v rfl
    obtain ⟨c'', hout, hadds⟩ := outcome_entered hc (h.enter item place) v
    have hcounts : c.counts (some v) item = answer := holds_of_ok hanswer
    refine ⟨_, ?_, hadds.keepReasons⟩
    rw [evaluateFilter, outcome_filtered, hout, hanswer, hcounts]

/-- One item is asked, and what comes of it is what comes of the item on its own. -/
theorem outcome_askItem_entered (hc : c.Honest) (h : c.Adds before c') (place : String)
    (hsettles : c.Settles w g item) :
    ∃ c'', (askItem (evaluateFilter w) g.evaluate).outcome (c'.enter item place) =
        (.ok (if c.counts w item then some (c.holds g item) else none), c'') ∧
      (c'.enter item place).Adds (if c.counts w item then c.reasonsAt g place item else [])
        c'' := by
  obtain ⟨c₁, hfilter, hadds₁⟩ := outcome_evaluateFilter hc h place hsettles.1
  rw [outcome_askItem, hfilter]
  cases hcounts : c.counts w item with
  | false => exact ⟨c₁, rfl, hadds₁⟩
  | true =>
    obtain ⟨answer, hanswer⟩ := hsettles.2 hcounts
    obtain ⟨c₂, hout, hadds₂⟩ := outcome_entered hc ((h.enter item place).trans hadds₁) g
    rw [hanswer] at hout
    simp only [hout, holds_of_ok hanswer]
    exact ⟨c₂, rfl, hadds₁.trans hadds₂⟩

/-- Where one item gives an answer, nothing that was asked of it ended in an error. -/
theorem settles_of_outcome (hc : c.Honest) (h : c.Adds before c') {place : String}
    {answer : Option Bool}
    (hok : ((askItem (evaluateFilter w) g.evaluate).outcome (c'.enter item place)).1 = .ok answer) :
    c.Settles w g item := by
  have hfilter : ∀ v ∈ w, ∃ answer, (v.evaluate.outcome (c.alone item)).1 = .ok answer := by
    rintro v ⟨⟩
    obtain ⟨c'', hout, -⟩ := outcome_entered hc (h.enter item place) v
    rw [outcome_askItem, evaluateFilter, outcome_filtered, hout] at hok
    rcases halone : (v.evaluate.outcome (c.alone item)).1 with e | answer
    · rw [halone] at hok
      cases hok
    · exact ⟨answer, rfl⟩
  refine ⟨hfilter, fun hcounts => ?_⟩
  obtain ⟨c₁, hout, hadds⟩ := outcome_evaluateFilter hc h place hfilter
  obtain ⟨c₂, hout', -⟩ := outcome_entered hc ((h.enter item place).trans hadds) g
  rw [outcome_askItem, hout, hcounts] at hok
  dsimp only at hok
  rw [hout'] at hok
  rcases halone : (g.evaluate.outcome (c.alone item)).1 with e | answer
  · rw [halone] at hok
    cases hok
  · exact ⟨answer, rfl⟩

/-! ### All items -/

/-- The answer for all items, where `passed` have passed before. -/
def answerOf (c : Context α) (w : Option Condition) (g : Condition) (q : Option Quantifier)
    (passed : Nat) (items : List α) : Bool :=
  match q with
  | none => items.all fun item => !c.fails w g item
  | some q => q.accepts (passed + items.countP (c.passes w g) : Nat)

/-- The item is the last that is asked. -/
def stops (c : Context α) (w : Option Condition) (g : Condition) (q : Option Quantifier)
    (item : α) : Bool :=
  q.isNone && c.fails w g item

variable {q : Option Quantifier}

theorem asked_cons (item : α) (rest : List α) : c.asked w g q (item :: rest) =
    item :: if stops c w g q item then [] else c.asked w g q rest := by
  cases q with
  | some q => rfl
  | none =>
    rw [asked, List.findIdx_cons, stops]
    cases c.fails w g item <;> rfl

theorem answerOf_cons (passed : Nat) (item : α) (rest : List α) :
    answerOf c w g q passed (item :: rest) = if stops c w g q item then false else
      answerOf c w g q (if c.passes w g item then passed + 1 else passed) rest := by
  cases q with
  | none =>
    rw [answerOf, List.all_cons, stops]
    cases c.fails w g item <;> rfl
  | some q =>
    rw [answerOf, List.countP_cons, stops]
    cases c.passes w g item with
    | false => rfl
    | true =>
      rw [if_pos rfl, Nat.add_comm (rest.countP _) 1, ← Nat.add_assoc]
      rfl

theorem afterItem_asked (ask : Evaluation α (Option Bool)) (place : String) (i passed : Nat)
    (rest : List α) : afterItem ask place q i passed rest
        (if c.counts w item then some (c.holds g item) else none) =
      if stops c w g q item then pure false else
        overItems ask place q (i + 1) (if c.passes w g item then passed + 1 else passed)
          rest := by
  unfold stops fails passes
  cases c.counts w item <;> cases c.holds g item <;> cases q <;> rfl

/-- The items are counted from `i`. -/
theorem outcome_overItems_asked (hc : c.Honest) (h : c.Adds before c') (place : String)
    (i passed : Nat) (items : List α) (hsettles : ∀ item ∈ c.asked w g q items, c.Settles w g item) :
    ∃ c'', (overItems (askItem (evaluateFilter w) g.evaluate) place q i passed items).outcome c' =
        (.ok (answerOf c w g q passed items), c'') ∧
      c'.Adds ((c.asked w g q items).mapIdx fun j item =>
        if c.counts w item then c.reasonsAt g s!"{place}[{i + j}]" item else []).flatten c'' := by
  induction items generalizing i passed c' before with
  | nil =>
    refine ⟨c', ?_, ?_⟩
    · cases q <;> rfl
    · cases q <;> exact .refl c'
  | cons item rest ih =>
    rw [asked_cons] at hsettles ⊢
    obtain ⟨hitem, hrest⟩ := List.forall_mem_cons.1 hsettles
    obtain ⟨c₁, hout, hadds⟩ := outcome_askItem_entered hc h s!"{place}[{i}]" hitem
    rw [overItems_cons, outcome_bind, outcome_visit, hout, answerOf_cons, List.mapIdx_cons,
      List.flatten_cons]
    dsimp only
    rw [afterItem_asked]
    by_cases hstop : stops c w g q item = true
    · rw [if_pos hstop, if_pos hstop, if_pos hstop]
      exact ⟨c₁.leave, rfl, by simpa using hadds.leave⟩
    · rw [if_neg hstop] at hrest ⊢
      rw [if_neg hstop, if_neg hstop]
      obtain ⟨c₂, hout', hadds'⟩ := ih (h.trans hadds.leave) (i + 1) _ hrest
      refine ⟨c₂, hout', ?_⟩
      simp only [Nat.add_right_comm i 1] at hadds'
      exact hadds.leave.trans hadds'

theorem settles_of_outcome_overItems (hc : c.Honest) (h : c.Adds before c') (place : String)
    (i passed : Nat) (items : List α) {answer : Bool}
    (hok : ((overItems (askItem (evaluateFilter w) g.evaluate) place q i passed items).outcome
      c').1 = .ok answer) :
    ∀ item ∈ c.asked w g q items, c.Settles w g item := by
  induction items generalizing i passed c' before with
  | nil => cases q <;> exact fun item hitem => absurd hitem List.not_mem_nil
  | cons item rest ih =>
    rw [overItems_cons, outcome_bind, outcome_visit] at hok
    have hitem : c.Settles w g item := by
      rcases hout : ((askItem (evaluateFilter w) g.evaluate).outcome
        (c'.enter item s!"{place}[{i}]")).1 with e | a
      · rw [hout] at hok
        cases hok
      · exact settles_of_outcome hc h hout
    obtain ⟨c₁, hout, hadds⟩ := outcome_askItem_entered hc h s!"{place}[{i}]" hitem
    rw [hout] at hok
    dsimp only at hok
    rw [afterItem_asked] at hok
    rw [asked_cons]
    refine List.forall_mem_cons.2 ⟨hitem, ?_⟩
    by_cases hstop : stops c w g q item = true
    · rw [if_pos hstop]
      exact fun item hitem => absurd hitem List.not_mem_nil
    · rw [if_neg hstop] at hok ⊢
      exact ih (h.trans hadds.leave) (i + 1) _ hok

end Condition

/-- **A group that is asked of items says of each what it says of the item as a target of its
own.** Nothing ends in an error unless it does so for an item that is asked. Without a
quantifier the answer is whether the group holds of all items that count, and otherwise what
the quantifier says of the number of those that it holds of. The reasons that are added are
those of the items that count, among those that are asked, in their order and under the paths
of the items. All contexts that an evaluation comes to are honest, if it began without
patterns. -/
theorem forEach_asks_items (path : String) (k : Combinator) (children : List Condition)
    (field : Path.Program) (w : Option Condition) (q : Option Quantifier) (c : Context α)
    (hc : c.Honest) :
    let g := Condition.group path k children
    let items := Condition.itemsOf field c
    let place := fun i : Nat => s!"{Condition.itemsPath field}[{i}]"
    let outcome := (Condition.forEach path k children field w q).evaluate.outcome c
    ((∃ answer, outcome.1 = .ok answer) ↔ ∀ item ∈ c.asked w g q items, c.Settles w g item) ∧
    (∀ answer, outcome.1 = .ok answer →
      (q = none → (answer = true ↔ ∀ item ∈ items, c.counts w item = true →
        c.holds g item = true)) ∧
      (∀ n, q = some n → answer = n.accepts (items.countP (c.passes w g))) ∧
      outcome.2.reasons = c.reasons ++ ((c.asked w g q items).mapIdx fun i item =>
        if c.counts w item then c.reasonsAt g (place i) item else []).flatten) ∧
    ∀ (i : Nat) (item : α), items[i]? = some item → ∀ earlier before, c.Adds earlier before →
      (∀ v ∈ w, (v.evaluate.outcome (before.enter item (place i))).1 =
        (v.evaluate.outcome (c.alone item)).1) ∧
      (g.evaluate.outcome (before.enter item (place i))).1 =
        (g.evaluate.outcome (c.alone item)).1 ∧
      (g.evaluate.outcome (before.enter item (place i))).2.reasons =
        before.reasons ++ c.reasonsAt g (place i) item := by
  intro g items place outcome
  have hsettled (h : ∀ item ∈ c.asked w g q items, c.Settles w g item) :=
    Condition.outcome_overItems_asked hc (.refl c) (Condition.itemsPath field) 0 0 items h
  have hok : (∃ answer, outcome.1 = .ok answer) ↔
      ∀ item ∈ c.asked w g q items, c.Settles w g item := by
    constructor
    · rintro ⟨answer, h⟩
      exact Condition.settles_of_outcome_overItems hc (.refl c) _ 0 0 items h
    · intro h
      obtain ⟨c', hout, -⟩ := hsettled h
      exact ⟨_, congrArg Prod.fst hout⟩
  refine ⟨hok, fun answer h => ?_, fun i item _ earlier before hadds => ?_⟩
  · obtain ⟨c', hout, hadds⟩ := hsettled (hok.1 ⟨answer, h⟩)
    have houtcome : outcome = _ := hout
    rw [houtcome] at h ⊢
    cases h
    refine ⟨?_, ?_, ?_⟩
    · rintro rfl
      simp only [Condition.answerOf, List.all_eq_true, Context.fails, Bool.not_and, Bool.not_not,
        Bool.or_eq_true, Bool.not_eq_true', ← Bool.not_eq_true, ← imp_iff_not_or]
    · rintro n rfl
      rw [Condition.answerOf, Nat.zero_add]
    · simpa only [Nat.zero_add] using hadds.reasons
  · have hadds := hadds.enter item (place i)
    refine ⟨fun v _ => ?_, ?_⟩
    · obtain ⟨_, hout, -⟩ := Condition.outcome_entered hc hadds v
      rw [hout]
    · obtain ⟨_, hout, hmore⟩ := Condition.outcome_entered hc hadds g
      rw [hout]
      exact ⟨rfl, hmore.reasons⟩

theorem forEach_asks_items_counted :
    let leaf (o : Operator) : Condition :=
      .leaf "" ⟨o, some (.field (.mk "size" [] [.member "size" false])),
        ⟨false, false, false, false, false, false⟩⟩
    let field := Path.Program.mk "items[*]" [] [.member "items" false, .indexWild]
    let items : List Value := [.object [("size", .int 3)], .null, .object [("size", .int 5)]]
    let c := Context.of Regex.engine (Value.object [("items", .array items)]) {} ⟨0, 0⟩
    c.Honest ∧ ((Condition.forEach "" .not [leaf (.equals false (.literal (.int 3)))] field
      (some (leaf (.resolves true))) (some (.count 1))).evaluate.outcome c).1 = .ok true := by
  intro leaf field items c
  have hc : c.Honest := Context.honest_of_nil rfl
  obtain ⟨hok, hanswer, -⟩ := forEach_asks_items "" .not
    [leaf (.equals false (.literal (.int 3)))] field (some (leaf (.resolves true)))
    (some (.count 1)) c hc
  have hitems : Condition.itemsOf field c = items := rfl
  obtain ⟨answer, h⟩ := hok.2 (by
    rw [hitems]
    simp only [Context.asked, items, List.forall_mem_cons]
    refine ⟨⟨?_, fun _ => ⟨_, rfl⟩⟩, ⟨?_, fun _ => ⟨_, rfl⟩⟩, ⟨?_, fun _ => ⟨_, rfl⟩⟩,
      List.forall_mem_nil _⟩
    all_goals
      rintro v ⟨⟩
      exact ⟨_, rfl⟩)
  refine ⟨hc, ?_⟩
  rw [h, (hanswer answer h).2.1 _ rfl]
  rfl

end Sift
