import Sift.Path.Evaluate
import Sift.Proofs.Value.Likeness

/-! Paths lead to like values in documents that look the same.

Every segment takes related values to related values, in the same order, and is found on both
sides or on neither; every predicate holds on both sides or on neither (`walk_like`). So a path
selects from one document what it selects from the other (`evaluate_like`). -/
namespace Sift.Path

variable {α β : Type} {R : α → β → Prop}

/-! ### Hits -/

/-- Found on both sides or on neither, with related values. -/
structure Hits.Like (R : α → β → Prop) (a : Hits α) (b : Hits β) : Prop where
  found : a.found = b.found
  values : List.Forall₂ R a.values b.values

namespace Hits

theorem like_none : (Hits.none : Hits α).Like R (Hits.none : Hits β) := ⟨rfl, .nil⟩

theorem like_one {v : α} {w : β} (h : R v w) : (one v).Like R (one w) := ⟨rfl, .cons h .nil⟩

theorem Like.join {a a' : Hits α} {b b' : Hits β} (h : a.Like R b) (h' : a'.Like R b') :
    (a.join a').Like R (b.join b') := by
  refine ⟨?_, List.rel_append h.values h'.values⟩
  rw [Hits.join, Hits.join, h.found, h'.found]

theorem like_gather {as : List (Hits α)} {bs : List (Hits β)}
    (h : List.Forall₂ (Hits.Like R) as bs) : (gather as).Like R (gather bs) := by
  refine ⟨?_, List.rel_flatMap h fun _ _ hab => hab.values⟩
  induction h with
  | nil => rfl
  | cons hab _ ih =>
    simp only [gather, List.any_cons, hab.found] at ih ⊢
    rw [ih]

variable {next : α → Hits α} {next' : β → Hits β}

theorem like_ofOption (hnext : ∀ v w, R v w → (next v).Like R (next' w)) {a : Option α}
    {b : Option β} (h : Option.Rel R a b) : (ofOption next a).Like R (ofOption next' b) := by
  cases h with
  | none => exact like_none
  | some hab => exact hnext _ _ hab

theorem like_gather_map (hnext : ∀ v w, R v w → (next v).Like R (next' w)) {vs : List α}
    {ws : List β} (h : List.Forall₂ R vs ws) :
    (gather (vs.map next)).Like R (gather (ws.map next')) :=
  like_gather (List.rel_map hnext h)

end Hits

/-! ### Segments with a traversal of their own -/

variable [Viewable α] [Viewable β]

section Traversal

variable {next : α → Hits α} {next' : β → Hits β} {v : α} {w : β}

theorem descend_like (h : Likeness R) (hnext : ∀ v w, R v w → (next v).Like R (next' w))
    (name : String) (caseSensitive : Bool) (levels : Nat) (hvw : R v w) :
    (descend next name caseSensitive levels v).Like R
      (descend next' name caseSensitive levels w) := by
  induction levels generalizing v w with
  | zero => exact Hits.like_none
  | succ levels ih =>
    rw [descend, descend, (h.agree hvw).isObject]
    split
    · refine Hits.like_gather (List.rel_map (fun m n hmn => ?_) (h.members hvw))
      rw [hmn.1]
      split
      · exact (hnext _ _ hmn.2).join (ih hmn.2)
      · split
        · exact hnext _ _ hmn.2
        · exact ih hmn.2
    · refine Hits.like_gather (List.rel_map (fun v w hvw => ?_) (h.items hvw))
      split
      · exact (hnext _ _ hvw).join (ih hvw)
      · exact ih hvw

omit [Viewable α] [Viewable β] in
theorem forall₂_ite {c : Prop} [Decidable c] {vs vs' : List α} {ws ws' : List β}
    (h : List.Forall₂ R vs ws) (h' : List.Forall₂ R vs' ws') :
    List.Forall₂ R (if c then vs else vs') (if c then ws else ws') := by
  split
  · exact h
  · exact h'

theorem sliceFrom_like (h : Likeness R) (hvw : R v w) (stop : Option Int) (step : Int)
    (fromFront : Bool) (count : Nat) (index : Int) :
    List.Forall₂ R (sliceFrom v stop step fromFront count index)
      (sliceFrom w stop step fromFront count index) := by
  induction count generalizing index with
  | zero => exact .nil
  | succ count ih =>
    have hitem := h.item? hvw index
    refine forall₂_ite .nil (forall₂_ite .nil ?_)
    generalize View.item? v index = a, View.item? w index = b at hitem
    cases hitem with
    | none => exact .nil
    | some hab =>
      refine .cons hab ?_
      cases Text.addInt64? index step with
      | none => exact .nil
      | some next => exact ih next

theorem sliceItems_like (h : Likeness R) (hvw : R v w) (count : Nat) (start stop : Option Int)
    (step : Int) :
    List.Forall₂ R (sliceItems v count start stop step) (sliceItems w count start stop step) :=
  sliceFrom_like h hvw _ _ _ _ _

theorem slice_like (h : Likeness R) (hnext : ∀ v w, R v w → (next v).Like R (next' w))
    (hvw : R v w) (start stop : Option Int) (step : Int) :
    (slice next v start stop step).Like R (slice next' w start stop step) := by
  rw [slice, slice, (h.agree hvw).count]
  cases View.count? w with
  | none => exact Hits.like_none
  | some count =>
    dsimp only
    split
    · exact Hits.like_none
    · exact ⟨rfl, List.rel_flatMap (sliceItems_like h hvw count start stop step)
        fun _ _ hitem => (hnext _ _ hitem).values⟩

end Traversal

/-! ### Comparisons -/

theorem compareValues_congr {γ δ : Type} [Viewable γ] [Viewable δ] {v : α} {w : β} {x : γ}
    {y : δ} (h : View.Agree v w) (h' : View.Agree x y) (o : QueryOptions) (op : Comparison) :
    compareValues o op v x = compareValues o op w y := by
  simp only [compareValues, Coerce.equal_congr h h', Coerce.order?_congr h h', h.text, h'.text]

/-! ### Programs -/

section Walk

variable {root : α} {root' : β}

mutual

/-- **Segments lead from related values to related values**, in the same order. -/
theorem walk_like (h : Likeness R) (o : QueryOptions) (hroot : R root root')
    (segments : List Segment) :
    ∀ v w, R v w → (walk o root segments v).Like R (walk o root' segments w) := by
  intro v w hvw
  cases segments with
  | nil => exact Hits.like_one hvw
  | cons segment next =>
    have hnext := walk_like h o hroot next
    cases segment with
    | root => exact hnext _ _ hroot
    | current => exact hnext _ _ hvw
    | member name marked => exact Hits.like_ofOption hnext (h.field? hvw name _)
    | index i => exact Hits.like_ofOption hnext (h.item? hvw i)
    | indexWild => exact Hits.like_gather_map hnext (h.children hvw)
    | memberWild => exact Hits.like_gather_map hnext (h.children hvw)
    | descendant name marked => exact descend_like h hnext name _ _ hvw
    | slice start stop step => exact slice_like h hnext hvw start stop step
    | indexes is =>
      refine Hits.like_gather_map hnext (List.rel_filterMap ?_ (List.forall₂_eq_eq_eq ▸ rfl))
      rintro i _ rfl
      exact h.item? hvw i
    | names ns =>
      refine Hits.like_gather_map hnext (List.rel_filterMap ?_ (List.forall₂_eq_eq_eq ▸ rfl))
      rintro n _ rfl
      exact h.field? hvw n _
    | filter predicate =>
      refine Hits.like_gather_map hnext (List.rel_filter ?_ (h.children hvw))
      intro u u' hu
      simp only [test_like h o hroot predicate u u' hu]
termination_by structural segments

/-- Predicates hold of both of two related values or of neither. -/
theorem test_like (h : Likeness R) (o : QueryOptions) (hroot : R root root')
    (predicate : Predicate) :
    ∀ v w, R v w → test o root predicate v = test o root' predicate w := by
  intro v w hvw
  cases predicate with
  | and a b => rw [test, test, test_like h o hroot a v w hvw, test_like h o hroot b v w hvw]
  | or a b => rw [test, test, test_like h o hroot a v w hvw, test_like h o hroot b v w hvw]
  | not a => rw [test, test, test_like h o hroot a v w hvw]
  | resolves path => rw [test, test, (resolve_like h o hroot path v w hvw).found]
  | compare op left right =>
    have hleft := (resolve_like h o hroot left v w hvw).values
    rw [test, test]
    generalize (resolve o root left v).values = as, (resolve o root' left w).values = bs at hleft
    cases hleft with
    | nil => rfl
    | cons hab _ => exact testOperand_like h o hroot op hab right v w hvw
termination_by structural predicate

theorem testOperand_like (h : Likeness R) (o : QueryOptions) (hroot : R root root')
    (op : Comparison) {left : α} {left' : β} (hleft : R left left') (operand : Operand) :
    ∀ v w, R v w →
      testOperand o root op left operand v = testOperand o root' op left' operand w := by
  intro v w hvw
  cases operand with
  | literal value =>
    rw [testOperand, testOperand, compareValues_congr (h.agree hleft) (.refl value)]
  | pattern text p => rw [testOperand, testOperand, (h.agree hleft).text]
  | path path =>
    have hright := (resolve_like h o hroot path v w hvw).values
    rw [testOperand, testOperand]
    generalize (resolve o root path v).values = as, (resolve o root' path w).values = bs at hright
    cases hright with
    | nil => rfl
    | cons hab _ => exact compareValues_congr (h.agree hleft) (h.agree hab) o op
termination_by structural operand

theorem resolve_like (h : Likeness R) (o : QueryOptions) (hroot : R root root')
    (program : Program) :
    ∀ v w, R v w → (resolve o root program v).Like R (resolve o root' program w) := by
  intro v w hvw
  cases program with
  | mk source tokens segments => exact walk_like h o hroot segments v w hvw
termination_by structural program

end

end Walk

/-! ### Selections -/

/-- One value on both sides, or sequences of as many, with related values. -/
inductive Selection.Like (R : α → β → Prop) : Selection α → Selection β → Prop where
  | scalar {v : α} {w : β} : R v w → Like R (.scalar v) (.scalar w)
  | sequence {vs : List α} {ws : List β} : List.Forall₂ R vs ws →
      Like R (.sequence vs) (.sequence ws)

/-- **A path selects from a document what it selects from one that looks the same.** -/
theorem evaluate_like (h : Likeness R) (p : Program) (o : QueryOptions) {root : α} {root' : β}
    (hroot : R root root') :
    Option.Rel (Selection.Like R) (p.evaluate o root) (p.evaluate o root') := by
  obtain ⟨hfound, hvalues⟩ := resolve_like h o hroot p root root' hroot
  simp only [Program.evaluate, hfound]
  split
  · exact .none
  · split
    · exact .some (.sequence hvalues)
    · generalize (resolve o root p root).values = as, (resolve o root' p root').values = bs
        at hvalues
      cases hvalues with
      | nil => exact .none
      | cons hab _ => exact .some (.scalar hab)

end Sift.Path
