import Sift.Proofs.Path.Nesting
import Sift.Proofs.Path.Precedence

/-! Filters and groups are closed where they were opened.

`Enclosure.depth?` counts what is open, and has no number to give once something is closed that
was never opened. Well-nested tokens always have one, and leave as much open as there was in front
of them (`Nested.depth?`); so the end that is found for a filter by counting is its own
(`filterLength_nested`). A parser goes through the tokens of a predicate from the front, and what
it leaves need not be well nested any more. But the filters in it still are: `Matched` holds of
every end of well-nested tokens. -/
namespace Sift.Path

/-- What tokens may open and close. -/
inductive Enclosure where
  | filter
  | group
  deriving DecidableEq, Repr

namespace Enclosure

def opening : Enclosure → Token
  | .filter => .startFilter
  | .group => .startGroup

def closing : Enclosure → Token
  | .filter => .endFilter
  | .group => .endGroup

/-- How much is open behind a token, if `depth` of it was open in front of it; nothing, if the
token closes what is not open. -/
def move? (e : Enclosure) (depth : Nat) (t : Token) : Option Nat :=
  if t = e.opening then some (depth + 1)
  else if t = e.closing then if depth = 0 then none else some (depth - 1)
  else some depth

/-- How much is open behind all the tokens. -/
def depth? (e : Enclosure) (depth : Nat) (ts : List Token) : Option Nat := ts.foldlM e.move? depth

variable {e : Enclosure}

theorem depth?_cons (depth : Nat) (t : Token) (ts : List Token) :
    e.depth? depth (t :: ts) = (e.move? depth t).bind fun n => e.depth? n ts :=
  List.foldlM_cons ..

theorem depth?_append (depth : Nat) (ts us : List Token) :
    e.depth? depth (ts ++ us) = (e.depth? depth ts).bind fun n => e.depth? n us :=
  List.foldlM_append

theorem depth?_trans {a b c : Nat} {ts us : List Token} (ht : e.depth? a ts = some b)
    (hu : e.depth? b us = some c) : e.depth? a (ts ++ us) = some c := by
  rw [depth?_append, ht]
  exact hu

theorem depth?_other {t : Token} (hopen : t ≠ e.opening) (hclose : t ≠ e.closing) (depth : Nat)
    (ts : List Token) : e.depth? depth (t :: ts) = e.depth? depth ts := by
  rw [depth?_cons, move?, if_neg hopen, if_neg hclose]
  rfl

theorem depth?_kind {kind : Token → Bool} {t : Token} (ht : kind t = true)
    (hopen : kind e.opening = false) (hclose : kind e.closing = false) (depth : Nat)
    (ts : List Token) : e.depth? depth (t :: ts) = e.depth? depth ts :=
  depth?_other (ne_of_kind ht hopen) (ne_of_kind ht hclose) depth ts

/-- What is opened is closed again. -/
theorem depth?_enclosed (e' : Enclosure) {ts : List Token}
    (h : ∀ depth, e.depth? depth ts = some depth) (depth : Nat) :
    e.depth? depth (e'.opening :: (ts ++ [e'.closing])) = some depth := by
  obtain ⟨n, hopen, hclose⟩ :
      ∃ n, e.move? depth e'.opening = some n ∧ e.move? n e'.closing = some depth := by
    cases e <;> cases e' <;> exact ⟨_, rfl, rfl⟩
  rw [depth?_cons, hopen, Option.bind_some, depth?_append, h, Option.bind_some, depth?_cons, hclose]
  rfl

theorem move?_add {depth n : Nat} {t : Token} (h : e.move? depth t = some n) (more : Nat) :
    e.move? (depth + more) t = some (n + more) := by
  unfold move? at h ⊢
  split_ifs at h ⊢
  all_goals
    simp only [Option.some.injEq] at h ⊢
    omega

/-- More that is open in front is more that is open behind. -/
theorem depth?_add {depth n : Nat} {ts : List Token} (h : e.depth? depth ts = some n) (more : Nat) :
    e.depth? (depth + more) ts = some (n + more) := by
  induction ts generalizing depth with
  | nil =>
    cases h
    rfl
  | cons t ts ih =>
    rw [depth?_cons, Option.bind_eq_some_iff] at h
    obtain ⟨m, hm, hn⟩ := h
    rw [depth?_cons, move?_add hm, Option.bind_some]
    exact ih hn

end Enclosure

namespace Nested

variable {level : Level} {ts : List Token}

/-- Well-nested tokens close what they open, and nothing else. -/
theorem depth? (e : Enclosure) (h : Nested level ts) (depth : Nat) :
    e.depth? depth ts = some depth := by
  induction h generalizing depth with
  | nil => rfl
  | selector ht _ ih =>
    rw [Enclosure.depth?_kind ht (by cases e <;> rfl) (by cases e <;> rfl)]
    exact ih depth
  | @filter ps us _ _ ihp ih =>
    have hsplit : Token.startFilter :: (ps ++ .endFilter :: us) =
        (.startFilter :: (ps ++ [.endFilter])) ++ us := by simp
    rw [hsplit]
    exact Enclosure.depth?_trans (Enclosure.depth?_enclosed .filter ihp depth) (ih depth)
  | word ht _ ih =>
    rw [Enclosure.depth?_other (ne_of_word ht (by cases e <;> rfl) (by cases e <;> rfl))
      (ne_of_word ht (by cases e <;> rfl) (by cases e <;> rfl))]
    exact ih depth
  | reference ht _ _ ihu ih =>
    rw [Enclosure.depth?_kind ht (by cases e <;> rfl) (by cases e <;> rfl)]
    exact Enclosure.depth?_trans (ihu depth) (ih depth)
  | @group us vs _ _ ihu ih =>
    have hsplit : Token.startGroup :: (us ++ .endGroup :: vs) =
        (.startGroup :: (us ++ [.endGroup])) ++ vs := by simp
    rw [hsplit]
    exact Enclosure.depth?_trans (Enclosure.depth?_enclosed .group ihu depth) (ih depth)

/-- Where no filter of a path is open, there are selectors and what starts a filter. -/
theorem outside (h : Nested .path ts) {front back : List Token} {t : Token}
    (hts : ts = front ++ t :: back) (hdepth : Enclosure.filter.depth? 0 front = some 0) :
    t.isSelector = true ∨ t = .startFilter := by
  generalize hlevel : Level.path = level at h
  induction h generalizing front with
  | nil => exact absurd hts.symm (by simp)
  | selector hu _ ih =>
    cases front with
    | nil =>
      cases hts
      exact .inl hu
    | cons v front =>
      obtain ⟨rfl, hus⟩ := List.cons.inj hts
      rw [Enclosure.depth?_kind hu rfl rfl] at hdepth
      exact ih hus hdepth hlevel
  | @filter ps us hp _ _ ih =>
    cases front with
    | nil =>
      cases hts
      exact .inr rfl
    | cons v front =>
      obtain ⟨rfl, hps⟩ := List.cons.inj hts
      have hopen : Enclosure.filter.depth? 1 front = some 0 := hdepth
      -- Within the filter and at its end, it is open.
      have hinside {as : List Token} (hsplit : ps = front ++ as) : False := by
        have hclosed := hp.depth? .filter 0
        rw [hsplit, Enclosure.depth?_append, Option.bind_eq_some_iff] at hclosed
        obtain ⟨n, hn, -⟩ := hclosed
        have hmore := Enclosure.depth?_add hn 1
        rw [Nat.zero_add, hopen] at hmore
        cases hmore
      rcases List.append_eq_append_iff.1 hps with ⟨as, hfront, hrest⟩ | ⟨as, hps', hrest⟩
      · cases as with
        | nil => exact (@hinside [] (by rw [hfront, List.append_nil, List.append_nil])).elim
        | cons a as =>
          obtain ⟨rfl, rfl⟩ := List.cons.inj hrest
          refine ih rfl ?_ hlevel
          rw [hfront, Enclosure.depth?_append, hp.depth?] at hopen
          exact hopen
      · exact (hinside hps').elim
  | word | reference | group => cases hlevel

end Nested

/-- The end of a filter is found behind its predicate. -/
theorem filterLength_nested {ps : List Token} (h : Nested .predicate ps) (rest : List Token) :
    filterLength 0 (ps ++ .endFilter :: rest) = some ps.length := by
  rw [h.balanced]
  simp [filterLength]

/-! ### Ends of well-nested tokens -/

/-- Every filter that is opened is closed, behind a well-nested predicate. -/
def Matched (ts : List Token) : Prop :=
  ∀ front rest, ts = front ++ .startFilter :: rest →
    ∃ ps back, Nested .predicate ps ∧ rest = ps ++ .endFilter :: back

namespace Matched

variable {ts us : List Token}

theorem nil : Matched [] := by
  intro front rest h
  exact absurd h.symm (by simp)

theorem suffix (h : Matched ts) (hsuffix : us <:+ ts) : Matched us := by
  obtain ⟨vs, rfl⟩ := hsuffix
  intro front rest hus
  exact h (vs ++ front) rest (by rw [hus, List.append_assoc])

theorem tail {t : Token} (h : Matched (t :: ts)) : Matched ts :=
  h.suffix (List.suffix_cons t ts)

theorem cons {t : Token} (ht : t ≠ .startFilter) (h : Matched ts) : Matched (t :: ts) := by
  intro front rest hts
  cases front with
  | nil => exact absurd (List.cons.inj hts).1 ht
  | cons u front => exact h front rest (List.cons.inj hts).2

theorem append (ht : Matched ts) (hu : Matched us) : Matched (ts ++ us) := by
  induction ts with
  | nil => exact hu
  | cons t ts ih =>
    intro front rest hts
    cases front with
    | nil =>
      obtain ⟨rfl, rfl⟩ := List.cons.inj hts
      obtain ⟨ps, back, hps, rfl⟩ := ht [] ts rfl
      exact ⟨ps, back ++ us, hps, List.append_assoc ..⟩
    | cons u front => exact ih ht.tail front rest (List.cons.inj hts).2

end Matched

theorem Nested.matched {level : Level} {ts : List Token} (h : Nested level ts) : Matched ts := by
  induction h with
  | nil => exact .nil
  | selector ht _ ih => exact .cons (isSelector_ne ht).1 ih
  | @filter ps us hp _ ihp ih =>
    intro front rest hts
    cases front with
    | nil =>
      obtain ⟨-, rfl⟩ := List.cons.inj hts
      exact ⟨ps, us, hp, rfl⟩
    | cons u front =>
      exact (ihp.append (.cons (by simp) ih)) front rest (List.cons.inj hts).2
  | word ht _ ih => exact .cons (ne_of_word ht rfl rfl) ih
  | reference ht _ _ ihu ih => exact .cons (isReference_ne ht).1 (ihu.append ih)
  | group _ _ ihu ih => exact .cons (by simp) (ihu.append (.cons (by simp) ih))

/-! ### Paths -/

/-- Tokens in the order and nesting of a path. -/
structure WellNested (ts : List Token) : Prop where
  /-- There are selectors and filters, behind the root that a path may start from. -/
  path : ∃ us, Nested .path us ∧ (ts = .root :: us ∨ ts = us)
  /-- Filters are closed where they were opened, and none that was not. -/
  filters : Enclosure.filter.depth? 0 ts = some 0
  /-- Whatever belongs to a predicate stands where a filter is open. -/
  outside : ∀ front t back, ts = front ++ t :: back → Enclosure.filter.depth? 0 front = some 0 →
    t.isSelector = true ∨ t = .startFilter ∨ (t = .root ∧ front = [])
  /-- The end that is found for a filter is that of its predicate, in which filters and groups are
  closed where they were opened. -/
  inside : ∀ front rest, ts = front ++ .startFilter :: rest → ∃ ps back,
    rest = ps ++ .endFilter :: back ∧ Nested .predicate ps ∧
      (∀ e : Enclosure, e.depth? 0 ps = some 0) ∧ filterLength 0 rest = some ps.length

theorem wellNested_of_nested {ts us : List Token} (h : Nested .path us)
    (hts : ts = .root :: us ∨ ts = us) : WellNested ts where
  path := ⟨us, h, hts⟩
  filters := by
    rcases hts with rfl | rfl <;> exact h.depth? .filter 0
  outside := by
    intro front t back hsplit hdepth
    rcases hts with rfl | rfl
    · cases front with
      | nil =>
        obtain ⟨rfl, -⟩ := List.cons.inj hsplit
        exact .inr (.inr ⟨rfl, rfl⟩)
      | cons u front =>
        obtain ⟨rfl, hus⟩ := List.cons.inj hsplit
        exact (h.outside hus hdepth).imp_right .inl
    · exact (h.outside hsplit hdepth).imp_right .inl
  inside := by
    intro front rest hsplit
    have hmatched : Matched ts := by
      rcases hts with rfl | rfl
      · exact .cons Token.noConfusion h.matched
      · exact h.matched
    obtain ⟨ps, back, hps, rfl⟩ := hmatched front rest hsplit
    exact ⟨ps, back, rfl, hps, fun e => hps.depth? e 0, filterLength_nested hps back⟩

end Sift.Path
