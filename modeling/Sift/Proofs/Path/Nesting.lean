import Sift.Proofs.Path.Display

/-! Well-nested tokens.

A path goes from selector to selector, and its filters hold predicates; a predicate is made of
words, of paths behind a reference, and of groups, which hold predicates again. `Nested` says so,
and no more: it asks neither for operands nor for operators between them. Each level is closed
where it was opened, so the group around a whole predicate is told from groups inside of it by
counting (`unwrap_group`, `unwrap_of_not_isGroup`). -/
namespace Sift.Path

/-- Where tokens stand: on the way of a path, or between the words of a predicate. -/
inductive Level where
  | path
  | predicate
  deriving DecidableEq, Repr

/-- Comparisons, connectives and `!`. -/
def Token.isOperator : Token → Bool
  | .compare _ | .and | .or | .not => true
  | _ => false

inductive Nested : Level → List Token → Prop where
  | nil {level} : Nested level []
  | selector {t ts} : t.isSelector = true → Nested .path ts → Nested .path (t :: ts)
  | filter {ts us} : Nested .predicate ts → Nested .path us →
      Nested .path (.startFilter :: (ts ++ .endFilter :: us))
  | word {t ts} : t.isOperator = true ∨ t.isLiteral = true → Nested .predicate ts →
      Nested .predicate (t :: ts)
  | reference {t us ts} : t.isReference = true → Nested .path us → Nested .predicate ts →
      Nested .predicate (t :: (us ++ ts))
  | group {us ts} : Nested .predicate us → Nested .predicate ts →
      Nested .predicate (.startGroup :: (us ++ .endGroup :: ts))

/-- A token of another kind than `u`, of either kind that a word may be of. -/
theorem ne_of_word {t u : Token} (h : t.isOperator = true ∨ t.isLiteral = true)
    (hop : u.isOperator = false) (hlit : u.isLiteral = false) : t ≠ u :=
  h.elim (ne_of_kind · hop) (ne_of_kind · hlit)

theorem Nested.append {level : Level} {ts us : List Token} (ht : Nested level ts)
    (hu : Nested level us) : Nested level (ts ++ us) := by
  induction ht with
  | nil => exact hu
  | selector ht _ ih => exact .selector ht (ih hu)
  | filter hp _ _ ih =>
    rw [List.cons_append, List.append_assoc, List.cons_append]
    exact .filter hp (ih hu)
  | word ht _ ih => exact .word ht (ih hu)
  | reference ht hs _ _ ih =>
    rw [List.cons_append, List.append_assoc]
    exact .reference ht hs (ih hu)
  | group hp _ _ ih =>
    rw [List.cons_append, List.append_assoc, List.cons_append]
    exact .group hp (ih hu)

/-- The level that a part of a path stands on. -/
def Part.level : Part → Level
  | .selectors => .path
  | .path | .operand | .term | .predicate => .predicate

/-- What has the shape of a path or a predicate is well nested. -/
theorem Shaped.nested {part : Part} {ts : List Token} (h : Shaped part ts) :
    Nested part.level ts := by
  induction h with
  | nil => exact .nil
  | selector ht _ ih => exact .selector ht ih
  | filter _ _ ihp ihs => exact .filter ihp ihs
  | @path t ts ht _ ih =>
    have hpath := Nested.reference ht ih .nil
    rwa [List.append_nil] at hpath
  | literal ht => exact .word (.inr ht) .nil
  | value _ ih => exact ih
  | resolves _ ih => exact ih
  | compare _ _ ihl ihr => exact ihl.append (.word (.inl rfl) ihr)
  | not _ ih => exact .word (.inl rfl) ih
  | group _ ih => exact .group ih .nil
  | term _ ih => exact ih
  | join ht _ _ iha ihb =>
    refine iha.append (.word (.inl ?_) ihb)
    rcases ht with rfl | rfl <;> rfl

/-! ### Groups -/

theorem spans_cons {t : Token} (hopen : t ≠ .startGroup) (hclose : t ≠ .endGroup) (depth : Nat)
    (ts : List Token) : State.spans depth (t :: ts) = State.spans depth ts := by
  cases t with
  | startGroup => exact absurd rfl hopen
  | endGroup => exact absurd rfl hclose
  | _ => rfl

namespace Nested

/-- The groups of well-nested tokens are closed inside of them. -/
theorem spans {level : Level} {ts : List Token} (h : Nested level ts) {depth : Nat}
    (hdepth : 1 ≤ depth) (rest : List Token) :
    State.spans depth (ts ++ rest) = State.spans depth rest := by
  induction h generalizing depth rest with
  | nil => rfl
  | @selector t ts ht _ ih =>
    rw [List.cons_append, spans_cons (ne_of_kind ht rfl) (ne_of_kind ht rfl), ih hdepth]
  | @filter ts us _ _ iht ihu =>
    rw [List.cons_append, List.append_assoc, List.cons_append,
      spans_cons Token.noConfusion Token.noConfusion, iht hdepth,
      spans_cons Token.noConfusion Token.noConfusion, ihu hdepth]
  | @word t ts ht _ ih =>
    rw [List.cons_append, spans_cons (ne_of_word ht rfl rfl) (ne_of_word ht rfl rfl), ih hdepth]
  | @reference t us ts ht _ _ ihu iht =>
    rw [List.cons_append, List.append_assoc, spans_cons (ne_of_kind ht rfl) (ne_of_kind ht rfl),
      ihu hdepth, iht hdepth]
  | @group us ts _ _ ihu iht =>
    rw [List.cons_append, List.append_assoc, List.cons_append]
    show State.spans (depth + 1) (us ++ .endGroup :: (ts ++ rest)) = _
    rw [ihu (Nat.le_add_left 1 depth)]
    show (if depth + 1 ≤ 1 then _ else State.spans depth (ts ++ rest)) = _
    rw [if_neg (by omega), iht hdepth]

/-- A group is taken off the predicate that it stands around. -/
theorem unwrap_group {ts : List Token} (h : Nested .predicate ts) :
    State.unwrap (.startGroup :: (ts ++ [.endGroup])) = ts := by
  have hspans : State.spans 1 (ts ++ [.endGroup]) = true := by
    rw [h.spans (Nat.le_refl 1)]
    rfl
  rw [State.unwrap, if_pos hspans, List.dropLast_concat]

end Nested

/-- Tokens that are one group and nothing else. -/
def IsGroup (ts : List Token) : Prop :=
  ∃ us, Nested .predicate us ∧ ts = .startGroup :: (us ++ [.endGroup])

/-- A predicate that only starts with a group, or only ends with one, stays as it is. -/
theorem Nested.unwrap_of_not_isGroup {ts : List Token} (h : Nested .predicate ts)
    (hgroup : ¬ IsGroup ts) : State.unwrap ts = ts := by
  cases h with
  | nil => rfl
  | @word t ts ht _ =>
    have hopen : t ≠ .startGroup := ne_of_word ht rfl rfl
    rw [State.unwrap]
    intro body heq
    exact hopen (List.cons.inj heq).1
  | @reference t us ts ht _ _ =>
    have hopen : t ≠ .startGroup := ne_of_kind ht rfl
    rw [State.unwrap]
    intro body heq
    exact hopen (List.cons.inj heq).1
  | @group us ts hu _ =>
    have hts : ts ≠ [] := by
      rintro rfl
      exact hgroup ⟨us, hu, rfl⟩
    have hspans : State.spans 1 (us ++ .endGroup :: ts) = false := by
      rw [hu.spans (Nat.le_refl 1)]
      exact List.isEmpty_eq_false_iff.2 hts
    rw [State.unwrap, hspans]
    rfl

end Sift.Path
