import Sift.Proofs.Condition.Frame

/-! What a leaf leaves behind.

A leaf answers by what its context shows, and adds at most one reason, which stands where the
context stands (`finds_evaluate`). It only has something to add when it answers no: some
operators say themselves what is wrong and find then that nothing can be tested, and all
others leave it to the leaf. -/
namespace Sift

variable {α β γ : Type}

/-! ### Findings -/

/-- What a reason says, wherever it stands. -/
structure Finding where
  origin : Origin
  path : String
  message : String

/-- The reason that a finding is in a context. -/
def Context.told (c : Context α) (f : Option Finding) : List Reason :=
  f.toList.map fun f => ⟨f.origin, f.path, c.itemPath, c.parent, f.message⟩

theorem Context.Adds.told {c c' : Context α} {new : List Reason} (h : c.Adds new c')
    (f : Option Finding) : c'.told f = c.told f := by
  rw [Context.told, h.itemPath, h.parent]
  rfl

/-- Contexts that agree give the same result and the same finding, if there is one; and there
is one only with an answer that is `loud`. -/
def Evaluation.Finds (loud : β → Prop) (x : Evaluation α β) : Prop :=
  ∀ c d, c.Agrees d → ∃ r f c' d', x.outcome c = (r, c') ∧ x.outcome d = (r, d') ∧
    c.Adds (c.told f) c' ∧ d.Adds (d.told f) d' ∧ (f = none ∨ ∃ a, r = .ok a ∧ loud a)

/-- An evaluation that adds no reason. -/
abbrev Evaluation.Silent (x : Evaluation α β) : Prop := x.Finds fun _ => False

namespace Evaluation

open Condition

variable {loud : β → Prop} {loud' : γ → Prop}

theorem Finds.mono {x : Evaluation α β} {louder : β → Prop} (h : x.Finds loud)
    (hle : ∀ a, loud a → louder a) : x.Finds louder := by
  intro c d hagree
  obtain ⟨r, f, c', d', hc, hd, hadds, hadds', hquiet⟩ := h c d hagree
  refine ⟨r, f, c', d', hc, hd, hadds, hadds', hquiet.imp_right ?_⟩
  intro hloud
  obtain ⟨a, hr, ha⟩ := hloud
  exact ⟨a, hr, hle a ha⟩

theorem Silent.finds {x : Evaluation α β} (h : x.Silent) : x.Finds loud :=
  Finds.mono h fun _ hfalse => hfalse.elim

theorem silent_pure (a : β) : (pure a : Evaluation α β).Silent := by
  intro c d _
  exact ⟨.ok a, none, c, d, rfl, rfl, .refl c, .refl d, .inl rfl⟩

theorem silent_throw (e : ConfigError) : (throw e : Evaluation α β).Silent := by
  intro c d _
  exact ⟨.error e, none, c, d, rfl, rfl, .refl c, .refl d, .inl rfl⟩

/-- An evaluation that reads its context goes on in the same way where contexts agree. -/
theorem Finds.get {k : Context α → Evaluation α β} (hread : ∀ c d, c.Agrees d → k c = k d)
    (hk : ∀ c, (k c).Finds loud) : (get >>= k).Finds loud := by
  intro c d hagree
  simp only [outcome_bind, outcome_get, hread c d hagree]
  exact hk d c d hagree

/-- After a step that may have found something, a loud answer is the end of it. -/
theorem Finds.bind {x : Evaluation α β} {k : β → Evaluation α γ} (hx : x.Finds loud)
    (hk : ∀ a, (k a).Finds loud') (hloud : ∀ a, loud a → ∃ b, k a = pure b ∧ loud' b) :
    (x >>= k).Finds loud' := by
  intro c d hagree
  obtain ⟨r, f, c', d', hc, hd, hadds, hadds', hquiet⟩ := hx c d hagree
  simp only [outcome_bind, hc, hd]
  cases r with
  | error e =>
    have hnone : f = none := hquiet.resolve_right fun ⟨_, hr, _⟩ => nomatch hr
    exact ⟨.error e, f, c', d', rfl, rfl, hadds, hadds', .inl hnone⟩
  | ok a =>
    obtain rfl | ⟨_, hr, ha⟩ := hquiet
    · obtain ⟨r, f, c'', d'', hc', hd', hmore, hmore', hquiet'⟩ :=
        hk a c' d' (hagree.adds hadds hadds')
      rw [hadds.told] at hmore
      rw [hadds'.told] at hmore'
      exact ⟨r, f, c'', d'', hc', hd', hadds.trans hmore, hadds'.trans hmore', hquiet'⟩
    · cases hr
      obtain ⟨b, hpure, hb⟩ := hloud a ha
      simp only [hpure]
      exact ⟨.ok b, f, c', d', rfl, rfl, hadds, hadds', .inr ⟨b, rfl, hb⟩⟩

/-- After a step that adds nothing, all is left to what comes next. -/
theorem Silent.bind {x : Evaluation α β} {k : β → Evaluation α γ} (hx : x.Silent)
    (hk : ∀ a, (k a).Finds loud') : (x >>= k).Finds loud' :=
  Finds.bind hx hk fun _ hfalse => hfalse.elim

end Evaluation

/-! ### Operators -/

namespace Operator

open Evaluation

/-- One reason is added, and the answer behind it is loud. -/
theorem finds_addReason {loud : β → Prop} (origin : Origin) (path message : String) {a : β}
    (ha : loud a) :
    (do addReason origin path message; pure a : Evaluation α β).Finds loud := by
  intro c d _
  refine ⟨.ok a, some ⟨origin, path, message⟩, c.addReason origin path message,
    d.addReason origin path message, rfl, rfl, ?_, ?_, .inr ⟨a, rfl, ha⟩⟩
  · exact ⟨rfl, rfl⟩
  · exact ⟨rfl, rfl⟩

theorem silent_pattern (text : String) (caseSensitive : Bool) :
    (modifyGet fun c => c.pattern text caseSensitive :
      Evaluation α (Option Pattern)).Silent := by
  intro c d hagree
  refine ⟨.ok (c.patternAt (text, caseSensitive)), none, _, _, ?_, ?_,
    c.pattern_adds text caseSensitive, d.pattern_adds text caseSensitive, .inl rfl⟩
  · rw [← c.pattern_fst]
    rfl
  · rw [hagree.patternAt, ← d.pattern_fst]
    rfl

variable [Viewable β]

theorem silent_patternOf [Viewable α] (f : Flags) (s : PatternSource) :
    (patternOf f s : Evaluation α (Option Pattern)).Silent := by
  cases s with
  | literal p => exact silent_pure _
  | function e =>
    refine Finds.get (fun c d h => by simp only [h.scope]) fun c => ?_
    cases (e.eval c.scope).text? with
    | none => exact silent_pure _
    | some s => exact silent_pattern s f.caseSensitive

theorem finds_testSchema (f : Flags) (schemas : List String) (v : β) :
    (testSchema f schemas v : Evaluation α Verdict).Finds (· = .unfit) := by
  unfold testSchema
  cases View.field? v schemaField false with
  | none => exact finds_addReason _ _ _ rfl
  | some schema =>
    dsimp only
    cases View.text? schema with
    | none => exact finds_addReason _ _ _ rfl
    | some actual =>
      dsimp only
      split
      · exact finds_addReason _ _ _ rfl
      · exact (silent_pure _).finds

variable [Viewable α]

theorem silent_testVersion (f : Flags) (g : Version.Grammar) (s : ConstraintSource) (v : β) :
    (testVersion f g s v : Evaluation α Verdict).Silent := by
  have lifted (r : Except ConfigError Verdict) :
      (testVersion.liftExcept r : Evaluation α Verdict).Silent := by
    cases r with
    | ok verdict => exact silent_pure verdict
    | error e => exact silent_throw e
  unfold testVersion
  cases View.text? v with
  | none => exact silent_pure _
  | some text =>
    cases s with
    | literal c => exact lifted _
    | function e =>
      refine Finds.get (fun c d h => by simp only [h.scope]) fun c => ?_
      dsimp only
      cases (e.eval c.scope).text? with
      | none => exact silent_throw _
      | some constraint => exact lifted _

/-- Where an operator gives a reason itself, it does not leave another one to the leaf. -/
theorem finds_test (f : Flags) (path : String) (v : β) (o : Operator) :
    (o.test f path v : Evaluation α Verdict).Finds (· = .unfit) := by
  unfold test
  refine Finds.get (fun c d h => by simp only [h.scope, h.now]) fun c => ?_
  cases o with
  | «matches» negated s =>
    refine (silent_patternOf f s).bind fun p => ?_
    cases p with
    | none => exact (silent_pure _).finds
    | some p => exact (silent_pure _).finds
  | hasSchema schemas => exact finds_testSchema f schemas v
  | version g s => exact (silent_testVersion f g s v).finds
  | _ => exact (silent_pure _).finds

end Operator

/-! ### Leaves -/

namespace Leaf

open Evaluation

variable [Viewable α]

theorem finds_operand? (l : Leaf) :
    (l.operand? : Evaluation α (Option (Operand α))).Finds (· = none) := by
  unfold operand?
  refine Finds.get (fun c d h => by simp only [h.resolve, h.name?, h.type?, h.scope]) fun c => ?_
  cases l.subject with
  | none => exact (silent_pure _).finds
  | some s =>
    cases s with
    | field path =>
      dsimp only
      cases c.resolve path with
      | none => exact Operator.finds_addReason _ _ _ rfl
      | some v => exact (silent_pure _).finds
    | _ => exact (silent_pure _).finds

theorem finds_evaluateResolves (l : Leaf) (expected : Bool) :
    (l.evaluateResolves expected : Evaluation α Bool).Finds (· = false) := by
  unfold evaluateResolves
  cases l.field? with
  | none => exact (silent_pure _).finds
  | some path =>
    refine Finds.get (fun c d h => by simp only [h.resolve]) fun c => ?_
    dsimp only
    split
    · exact (silent_pure _).finds
    · exact Operator.finds_addReason _ _ _ rfl

/-- What a verdict comes to, told under the name of the operand. -/
def judged {value : Type} (operand : Operand value) : Verdict → Evaluation α Bool
  | .pass => pure true
  | .fail message => do
    Operator.addReason operand.origin operand.path message
    pure false
  | .unfit => pure false

/-- The operand is put to the test. -/
def tried (l : Leaf) (operand : Operand α) : Evaluation α Bool :=
  (match operand.value with
    | .target v => l.operator.test l.flags operand.path v
    | .made v => l.operator.test l.flags operand.path v) >>= judged operand

theorem evaluateOperand_eq (l : Leaf) : (l.evaluateOperand : Evaluation α Bool) =
    l.operand? >>= fun
      | none => pure false
      | some operand => l.tried operand := by
  unfold evaluateOperand
  congr 1
  funext operand
  cases operand with
  | none => rfl
  | some operand =>
    dsimp only [tried]
    cases operand.value <;> rfl

omit [Viewable α] in
theorem finds_judged {value : Type} (operand : Operand value) (verdict : Verdict) :
    (judged operand verdict : Evaluation α Bool).Finds (· = false) := by
  cases verdict with
  | pass => exact (silent_pure _).finds
  | fail message => exact Operator.finds_addReason _ _ _ rfl
  | unfit => exact (silent_pure _).finds

theorem finds_tried (l : Leaf) (operand : Operand α) : (l.tried operand).Finds (· = false) := by
  unfold tried
  cases operand.value with
  | target v =>
    refine Finds.bind (Operator.finds_test _ _ v _) (finds_judged operand) ?_
    rintro _ rfl
    exact ⟨false, rfl, rfl⟩
  | made v =>
    refine Finds.bind (Operator.finds_test _ _ v _) (finds_judged operand) ?_
    rintro _ rfl
    exact ⟨false, rfl, rfl⟩

theorem finds_evaluateOperand (l : Leaf) :
    (l.evaluateOperand : Evaluation α Bool).Finds (· = false) := by
  rw [evaluateOperand_eq]
  refine Finds.bind l.finds_operand? ?_ ?_
  · intro operand
    cases operand with
    | none => exact (silent_pure _).finds
    | some operand => exact l.finds_tried operand
  · rintro _ rfl
    exact ⟨false, rfl, rfl⟩

theorem isMissing_congr (l : Leaf) {c d : Context α} (h : c.Agrees d) :
    l.isMissing c = l.isMissing d := by
  rw [isMissing, h.resolve]
  rfl

/-- **A leaf adds at most one reason, and only with the answer no.** -/
theorem finds_evaluate (l : Leaf) : (l.evaluate : Evaluation α Bool).Finds (· = false) := by
  unfold evaluate
  split
  · exact l.finds_evaluateResolves _
  · refine Finds.get (fun c d h => by simp only [l.isMissing_congr h]) fun c => ?_
    split
    · exact (silent_pure _).finds
    · exact l.finds_evaluateOperand

end Leaf

end Sift
