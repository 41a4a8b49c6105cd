import Sift.Proofs.Condition.Reading

/-! Conditions answer as their documents read.

`Means` ties an evaluation to a question: in every context it gives the answer that the
rules give, and leaves the context that they leave. One lemma for each form of evaluation
carries it from the parts to the whole; the induction over the nesting of the document is
at the end. -/
namespace Sift.Condition

open Builder

variable {α : Type} [Viewable α] {b : Builder}

/-- An evaluation gives exactly what the rules give for a question. -/
def Means (b : Builder) (e : Evaluation α Bool) (question : Question α) : Prop :=
  ∀ c r c', e.outcome c = (r, c') ↔ Reads b question c r c'

/-! ### Several documents -/

theorem means_series {asks : List (Evaluation α Bool)} {ds : List Value}
    (h : List.Forall₂ (fun ask d => Means b ask (.document d)) asks ds) (stop : Bool) :
    Means b (askSeries stop asks) (.series stop ds) := by
  induction h with
  | nil =>
    have hnil (c : Context α) : (askSeries stop []).outcome c = (.ok !stop, c) := by
      cases stop <;> rfl
    intro c r c'
    rw [hnil]
    constructor
    · intro h
      cases h
      exact .seriesNil
    · intro h
      cases h
      rfl
  | @cons ask d asks ds hask _ ih =>
    intro c r c'
    rw [outcome_askSeries]
    constructor
    · intro h
      rcases hout : ask.outcome c with ⟨e | answer, c₁⟩ <;> simp only [hout] at h
      · cases h
        exact .seriesError ((hask _ _ _).1 hout)
      · by_cases hstop : answer = stop
        · rw [if_pos hstop] at h
          cases h
          exact .seriesStop (hstop ▸ (hask _ _ _).1 hout)
        · rw [if_neg hstop] at h
          exact .seriesNext ((hask _ _ _).1 hout) hstop ((ih _ _ _).1 h)
    · intro h
      cases h with
      | seriesNext hd hstop hds =>
        simp only [(hask _ _ _).2 hd, if_neg hstop]
        exact (ih _ _ _).2 hds
      | seriesStop hd => simp only [(hask _ _ _).2 hd, if_true]
      | seriesError hd => simp only [(hask _ _ _).2 hd]

/-! ### Groups -/

/-- Combinators of one condition have one document, or none under a null. -/
theorem children_unary {p : String} {k : Combinator} {v : Value} {ds : List Value}
    (h : children p k v = .ok ds) (hk : k.isUnary = true) :
    (∃ d, ds = [d]) ∨ (k = .when ∧ ds = []) := by
  unfold children at h
  split at h
  · rw [hk] at h
    simp only [Bool.not_true, Bool.false_eq_true, if_false] at h
    split at h
    · rename_i hone
      cases h
      exact .inl (List.length_eq_one_iff.1 hone)
    · cases h
  · rw [if_pos hk] at h
    split at h
    · cases h
      exact .inl ⟨_, rfl⟩
    · split at h
      · rename_i hnull
        rw [Bool.and_eq_true, decide_eq_true_iff] at hnull
        cases h
        exact .inr ⟨hnull.1, rfl⟩
      · cases h

theorem means_group {k : Combinator} {asks : List (Evaluation α Bool)} {ds : List Value}
    (h : List.Forall₂ (fun ask d => Means b ask (.document d)) asks ds)
    (hk : k.isUnary = true → (∃ d, ds = [d]) ∨ (k = .when ∧ ds = [])) :
    Means b (combine k asks) (.group k ds) := by
  intro c r c'
  cases k with
  | allOf =>
    rw [reads_allOf]
    exact means_series h false c r c'
  | anyOf =>
    rw [reads_anyOf]
    exact means_series h true c r c'
  | not =>
    obtain ⟨d, rfl⟩ | ⟨hwhen, -⟩ := hk rfl
    · obtain ⟨ask, asks, hask, hnil, rfl⟩ := List.forall₂_cons_right_iff.1 h
      rw [combine, outcome_map, reads_not, ← hask c]
      rcases ask.outcome c with ⟨e | answer, c₁⟩
      · cases r <;> simp [Except.map]
      · rcases r with e | other
        · simp [Except.map]
        · cases answer <;> cases other <;> simp [Except.map]
    · cases hwhen
  | when =>
    obtain ⟨d, rfl⟩ | ⟨-, rfl⟩ := hk rfl
    · obtain ⟨ask, asks, hask, hnil, rfl⟩ := List.forall₂_cons_right_iff.1 h
      rw [reads_when]
      exact hask c r c'
    · rw [List.forall₂_nil_right_iff] at h
      subst h
      constructor
      · intro hout
        cases hout
        exact .whenNothing
      · intro hreads
        cases hreads
        rfl

/-! ### Items -/

/-- One item is asked: for its filter first, and then for the group. -/
def askItem (counts ask : Evaluation α Bool) : Evaluation α (Option Bool) := do
  if ← counts then some <$> ask else pure none

omit [Viewable α] in
theorem outcome_askItem (counts ask : Evaluation α Bool) (c : Context α) :
    (askItem counts ask).outcome c =
      match counts.outcome c with
      | (.ok true, c') => ((ask.outcome c').1.map some, (ask.outcome c').2)
      | (.ok false, c') => (.ok none, c')
      | (.error e, c') => (.error e, c') := by
  rw [askItem, outcome_bind]
  rcases counts.outcome c with ⟨e | _ | _, c'⟩
  · rfl
  · rfl
  · exact outcome_map c' some ask

theorem means_items {counts ask : Evaluation α Bool} {w : Option Value} {k : Combinator}
    {ds : List Value} (hcounts : Means b counts (.filter w)) (hask : Means b ask (.group k ds))
    (place : String) (q : Option Quantifier) (i passed : Nat) (items : List α) :
    Means b (overItems (askItem counts ask) place q i passed items)
      (.items w k ds place q i passed items) := by
  induction items generalizing i passed with
  | nil =>
    intro c r c'
    constructor
    · intro h
      cases h
      exact .itemsNil
    · intro h
      cases h
      rfl
  | cons item rest ih =>
    intro c r c'
    rw [outcome_overItems, outcome_askItem]
    constructor
    · intro h
      rcases hf : counts.outcome (c.enter item s!"{place}[{i}]") with ⟨e | _ | _, c₁⟩ <;>
        rw [hf] at h
      · cases h
        exact .itemsFilterError ((hcounts _ _ _).1 hf)
      · exact .itemsSkip ((hcounts _ _ _).1 hf) ((ih _ _ _ _ _).1 h)
      · rcases hg : ask.outcome c₁ with ⟨e | _ | _, c₂⟩ <;> simp only [hg, Except.map] at h
        · cases h
          exact .itemsError ((hcounts _ _ _).1 hf) ((hask _ _ _).1 hg)
        · cases q with
          | none =>
            cases h
            exact .itemsFail ((hcounts _ _ _).1 hf) ((hask _ _ _).1 hg)
          | some q =>
            exact .itemsMiss ((hcounts _ _ _).1 hf) ((hask _ _ _).1 hg) ((ih _ _ _ _ _).1 h)
        · exact .itemsPass ((hcounts _ _ _).1 hf) ((hask _ _ _).1 hg) ((ih _ _ _ _ _).1 h)
    · intro h
      cases h with
      | itemsFilterError hf => rw [(hcounts _ _ _).2 hf]
      | itemsSkip hf hr =>
        rw [(hcounts _ _ _).2 hf]
        exact (ih _ _ _ _ _).2 hr
      | itemsError hf hg =>
        rw [(hcounts _ _ _).2 hf]
        simp only [(hask _ _ _).2 hg]
        rfl
      | itemsPass hf hg hr =>
        rw [(hcounts _ _ _).2 hf]
        simp only [(hask _ _ _).2 hg]
        exact (ih _ _ _ _ _).2 hr
      | itemsFail hf hg =>
        rw [(hcounts _ _ _).2 hf]
        simp only [(hask _ _ _).2 hg]
        rfl
      | itemsMiss hf hg hr =>
        rw [(hcounts _ _ _).2 hf]
        simp only [(hask _ _ _).2 hg]
        exact (ih _ _ _ _ _).2 hr

theorem means_unfiltered : Means b (evaluateFilter (α := α) none) (.filter none) := by
  intro c r c'
  constructor
  · intro h
    cases h
    exact .unfiltered
  · intro h
    cases h
    rfl

theorem means_filter {ask : Evaluation α Bool} {w : Value} (h : Means b ask (.document w)) :
    Means b (filtered ask) (.filter (some w)) := by
  intro c r c'
  rw [outcome_filtered]
  constructor
  · intro hout
    rcases hrun : ask.outcome c with ⟨e | answer, c₁⟩ <;> rw [hrun] at hout <;> cases hout
    · exact .filterError ((h _ _ _).1 hrun)
    · exact .filter ((h _ _ _).1 hrun)
  · intro hreads
    cases hreads with
    | filter hd => rw [(h _ _ _).2 hd]
    | filterError hd => rw [(h _ _ _).2 hd]

/-! ### Documents -/

/-- Documents that were read in a list answer one by one. -/
theorem means_each {read : String → Value → Except BuildError Condition} {path : String}
    {ds : List Value}
    (hread : ∀ p d c, read p d = .ok c → Means b (c.evaluate (α := α)) (.document d))
    {i : Nat} {cs : List Condition} (h : readAll read path i ds = .ok cs) :
    List.Forall₂ (fun ask d => Means b ask (.document d)) (evaluateEach (α := α) cs) ds := by
  induction ds generalizing i cs with
  | nil =>
    cases h
    exact .nil
  | cons d ds ih =>
    obtain ⟨c, hc, h⟩ := Path.bind_eq_ok.1 h
    obtain ⟨cs, hcs, h⟩ := Path.bind_eq_ok.1 h
    cases h
    exact .cons (hread _ d c hc) (ih hcs)

theorem means_leaf {members : Members} {location path : String} {l : Leaf}
    (hnone : combinators members = []) (hleaf : b.leaf location members = .ok (.leaf path l)) :
    Means b (evaluate (α := α) (.leaf path l)) (.document (.object members)) := by
  obtain ⟨path', hempty⟩ := b.leaf_location "" hleaf
  intro c r c'
  exact (reads_leaf hnone hempty).symm

theorem means_grouped {levels : Nat} {path : String} {members : Members} {k : Combinator}
    {w : Value} {ds : List Value} {cs : List Condition} {c : Condition}
    (hread : ∀ p d c, b.condition levels p d = .ok c → Means b (c.evaluate (α := α)) (.document d))
    (hone : combinators members = [(k, w)]) (hds : children path k w = .ok ds)
    (hcs : readAll (b.condition levels) path 0 ds = .ok cs)
    (hc : Grouped b levels path members k cs c) :
    Means b (c.evaluate (α := α)) (.document (.object members)) := by
  have hgroup : Means b (combine k (evaluateEach (α := α) cs)) (.group k ds) :=
    means_group (means_each hread hcs) fun hk => children_unary hds hk
  have hempty : children "" k w = .ok ds := ok_of_toOption (children_location _ _ k w) hds
  intro x r x'
  cases hc with
  | group hfield =>
    rw [reads_combined hone hfield hempty]
    exact hgroup x r x'
  | @forEach v field filter q hfield hf hfilter hq =>
    have hf' : b.field "" v = .ok field := ok_of_toOption (b.field_location _ _ v) hf
    have hq' : quantifier "" members = .ok q := ok_of_toOption (quantifier_location _ _ members) hq
    have hcounts :
        Means b (evaluateFilter (α := α) filter) (.filter (member? members "where")) := by
      cases hfilter with
      | none hwhere =>
        rw [hwhere]
        exact means_unfiltered
      | some hwhere hread' =>
        rw [hwhere]
        exact means_filter (hread _ _ _ hread')
    rw [reads_forEach hone hfield hempty hf' hq']
    exact means_items hcounts hgroup (itemsPath field) q 0 0 (itemsOf field x) x r x'

theorem means_condition (levels : Nat) {location : String} {v : Value} {c : Condition}
    (h : b.condition levels location v = .ok c) : Means b (c.evaluate (α := α)) (.document v) := by
  induction levels generalizing location v c with
  | zero => cases h
  | succ levels ih =>
    obtain ⟨members, rfl, ⟨hnone, hleaf⟩ | ⟨k, w, ds, cs, hone, hds, hcs, hc⟩⟩ :=
      b.condition_eq_ok.1 h
    · obtain ⟨path, l, rfl⟩ := b.leaf_ok hleaf
      exact means_leaf hnone hleaf
    · exact means_grouped (fun _ _ _ hd => ih hd) hone hds hcs hc

end Sift.Condition
