import Sift.Proofs.Path.Formula

/-! How predicates are read.

Each parser takes tokens from the front and promises that those it leaves are fewer.
`Leaves` forgets the promise, and one lemma for each parser says what it gives and
leaves: from here on no proof opens a parser again. The lemmas are stated for what
succeeds, since no error is ever taken back. -/
namespace Sift.Path

/-- A parser gives `b` and leaves the tokens `rest`. -/
def Leaves {β : Type} {P : List Token → Prop}
    (x : Except PathError (β × { rest : List Token // P rest })) (b : β) (rest : List Token) :
    Prop :=
  ∃ h, x = .ok (b, ⟨rest, h⟩)

section Leaves

variable {β γ : Type} {P Q : List Token → Prop}

theorem leaves_ok {b c : β} {l : { rest : List Token // P rest }} {rest : List Token} :
    Leaves (.ok (c, l)) b rest ↔ c = b ∧ l.val = rest := by
  constructor
  · intro h
    obtain ⟨h, he⟩ := h
    cases he
    exact ⟨rfl, rfl⟩
  · intro h
    obtain ⟨rfl, rfl⟩ := h
    exact ⟨l.property, rfl⟩

theorem leaves_error {e : PathError} {b : β} {rest : List Token} :
    Leaves (.error e : Except PathError (β × { rest : List Token // P rest })) b rest ↔ False := by
  constructor
  · intro h
    obtain ⟨h, he⟩ := h
    cases he
  · exact False.elim

/-- What follows a parser goes on from its result and the tokens that it leaves. -/
theorem leaves_bind {x : Except PathError (β × { rest : List Token // P rest })}
    {f : β × { rest : List Token // P rest } →
      Except PathError (γ × { rest : List Token // Q rest })} {c : γ} {rest : List Token} :
    Leaves (x >>= f) c rest ↔
      ∃ b mid, ∃ h, x = .ok (b, ⟨mid, h⟩) ∧ Leaves (f (b, ⟨mid, h⟩)) c rest := by
  cases x with
  | error e =>
    constructor
    · intro h
      exact (leaves_error.1 h).elim
    · intro h
      obtain ⟨b, mid, h, he, -⟩ := h
      cases he
  | ok r =>
    constructor
    · intro h
      exact ⟨r.1, r.2.val, r.2.property, rfl, h⟩
    · intro h
      obtain ⟨b, mid, h, he, hf⟩ := h
      cases he
      exact hf

/-- The same where the first computation only gives a result. -/
theorem leaves_bind_pure {x : Except PathError β}
    {f : β → Except PathError (γ × { rest : List Token // Q rest })} {c : γ} {rest : List Token} :
    Leaves (x >>= f) c rest ↔ ∃ b, x = .ok b ∧ Leaves (f b) c rest := by
  cases x with
  | error e =>
    constructor
    · intro h
      exact (leaves_error.1 h).elim
    · intro h
      obtain ⟨b, he, -⟩ := h
      cases he
  | ok b =>
    constructor
    · intro h
      exact ⟨b, rfl, h⟩
    · intro h
      obtain ⟨b, he, hf⟩ := h
      cases he
      exact hf

variable {x : Except PathError (β × { rest : List Token // P rest })}

/-- A parser that makes something else of the result of `x` leaves the same tokens. -/
theorem leaves_map (f : β → γ) (hQ : ∀ rest, P rest → Q rest) {c : γ} {rest : List Token} :
    Leaves (do
      let (b, ⟨mid, h⟩) ← x
      .ok (f b, ⟨mid, hQ mid h⟩) : Except PathError (γ × { rest : List Token // Q rest })) c rest ↔
      ∃ b, Leaves x b rest ∧ c = f b := by
  constructor
  · intro h
    obtain ⟨b, mid, hm, hb, h⟩ := leaves_bind.1 h
    obtain ⟨rfl, rfl⟩ := leaves_ok.1 h
    exact ⟨b, ⟨hm, hb⟩, rfl⟩
  · intro h
    obtain ⟨b, ⟨hm, hb⟩, rfl⟩ := h
    exact leaves_bind.2 ⟨b, rest, hm, hb, leaves_ok.2 ⟨rfl, rfl⟩⟩

/-- A parser that goes on with `f` where `x` stops. -/
theorem leaves_seq {R : List Token → List Token → Prop}
    (f : β → (mid : List Token) → Except PathError (γ × { rest : List Token // R mid rest }))
    (hQ : ∀ mid rest, P mid → R mid rest → Q rest) {c : γ} {rest : List Token} :
    Leaves (do
      let (b, ⟨mid, h⟩) ← x
      let (c, ⟨last, h'⟩) ← f b mid
      .ok (c, ⟨last, hQ mid last h h'⟩) : Except PathError (γ × { rest : List Token // Q rest }))
      c rest ↔ ∃ b mid, Leaves x b mid ∧ Leaves (f b mid) c rest := by
  constructor
  · intro h
    obtain ⟨b, mid, hm, hb, h⟩ := leaves_bind.1 h
    obtain ⟨d, last, hl, hd, h⟩ := leaves_bind.1 h
    obtain ⟨rfl, rfl⟩ := leaves_ok.1 h
    exact ⟨b, mid, ⟨hm, hb⟩, hl, hd⟩
  · intro h
    obtain ⟨b, mid, ⟨hm, hb⟩, hl, hc⟩ := h
    refine leaves_bind.2 ⟨b, mid, hm, hb, ?_⟩
    exact leaves_bind.2 ⟨c, rest, hl, hc, leaves_ok.2 ⟨rfl, rfl⟩⟩

end Leaves

variable (s : Setting) (size depth : Nat)

/-! ### Paths and relations -/

theorem leaves_parsePath (t : Token) (p : Program) (ts rest : List Token) :
    Leaves (parsePath s size t ts) p rest ↔
      ∃ n, selectorLength s size ts = .ok n ∧ compileTokens s (t :: ts.take n) = .ok p ∧
        ts.drop n = rest := by
  rw [parsePath]
  simp only [leaves_bind_pure, leaves_ok]
  constructor
  · intro h
    obtain ⟨n, hn, q, hq, rfl, hr⟩ := h
    exact ⟨n, hn, hq, hr⟩
  · intro h
    obtain ⟨n, hn, hq, hr⟩ := h
    exact ⟨n, hn, p, hq, rfl, hr⟩

theorem leaves_parseOperand (op : Comparison) (right : Operand) (ts rest : List Token) :
    Leaves (parseOperand s size op ts) right rest ↔
      ∃ t us, ts = t :: us ∧
        (Literal s op t right ∧ us = rest ∨
          t.isReference = true ∧
            ∃ p, Leaves (parsePath s size t us) p rest ∧ right = .path p) := by
  rw [parseOperand.eq_def]
  constructor
  · intro h
    split at h
    · exact (leaves_error.1 h).elim
    · rename_i t us
      refine ⟨t, us, rfl, ?_⟩
      cases t with
      | truth b =>
        obtain ⟨rfl, rfl⟩ := leaves_ok.1 h
        exact Or.inl ⟨.truth b, rfl⟩
      | integer i =>
        obtain ⟨rfl, rfl⟩ := leaves_ok.1 h
        exact Or.inl ⟨.integer i, rfl⟩
      | text text =>
        simp only at h
        split at h
        · rename_i hop
          obtain ⟨p, hp, h⟩ := leaves_bind_pure.1 h
          obtain ⟨rfl, rfl⟩ := leaves_ok.1 h
          exact Or.inl ⟨.pattern hop hp, rfl⟩
        · rename_i hop
          obtain ⟨rfl, rfl⟩ := leaves_ok.1 h
          exact Or.inl ⟨.text text hop, rfl⟩
      | current =>
        obtain ⟨p, hp, rfl⟩ := (leaves_map _ _).1 h
        exact Or.inr ⟨rfl, p, hp, rfl⟩
      | root =>
        obtain ⟨p, hp, rfl⟩ := (leaves_map _ _).1 h
        exact Or.inr ⟨rfl, p, hp, rfl⟩
      | _ => exact (leaves_error.1 h).elim
  · intro h
    obtain ⟨t, us, rfl, ⟨hl, rfl⟩ | ⟨ht, p, hp, rfl⟩⟩ := h
    · cases hl with
      | truth b => exact leaves_ok.2 ⟨rfl, rfl⟩
      | integer i => exact leaves_ok.2 ⟨rfl, rfl⟩
      | text t hop =>
        simp only [if_neg hop]
        exact leaves_ok.2 ⟨rfl, rfl⟩
      | pattern hop hp =>
        simp only [if_pos hop]
        exact leaves_bind_pure.2 ⟨_, hp, leaves_ok.2 ⟨rfl, rfl⟩⟩
    · cases t with
      | current => exact (leaves_map _ _).2 ⟨p, hp, rfl⟩
      | root => exact (leaves_map _ _).2 ⟨p, hp, rfl⟩
      | _ => cases ht

theorem leaves_parseRelation (t : Token) (r : Predicate) (ts rest : List Token) :
    Leaves (parseRelation s size t ts) r rest ↔
      ∃ left mid, Leaves (parsePath s size t ts) left mid ∧
        ((∃ op more right, mid = .compare op :: more ∧
            Leaves (parseOperand s size op more) right rest ∧ r = .compare op left right) ∨
          (∀ op more, mid ≠ .compare op :: more) ∧ r = .resolves left ∧ mid = rest) := by
  rw [parseRelation]
  constructor
  · intro h
    obtain ⟨left, mid, hm, hp, h⟩ := leaves_bind.1 h
    refine ⟨left, mid, ⟨hm, hp⟩, ?_⟩
    dsimp only at h
    split at h
    · rename_i op more _
      obtain ⟨right, after, ha, ho, h⟩ := leaves_bind.1 h
      obtain ⟨rfl, rfl⟩ := leaves_ok.1 h
      exact Or.inl ⟨op, more, right, rfl, ⟨ha, ho⟩, rfl⟩
    · rename_i hne
      obtain ⟨rfl, rfl⟩ := leaves_ok.1 h
      refine Or.inr ⟨fun op more he => ?_, rfl, rfl⟩
      subst he
      exact hne op more hm rfl HEq.rfl
  · intro h
    obtain ⟨left, mid, ⟨hm, hp⟩, ⟨op, more, right, rfl, ⟨ha, ho⟩, rfl⟩ | ⟨hne, rfl, rfl⟩⟩ := h
    · refine leaves_bind.2 ⟨left, _, hm, hp, ?_⟩
      exact leaves_bind.2 ⟨right, rest, ha, ho, leaves_ok.2 ⟨rfl, rfl⟩⟩
    · refine leaves_bind.2 ⟨left, mid, hm, hp, ?_⟩
      dsimp only
      split
      · rename_i op more _
        exact absurd rfl (hne op more)
      · exact leaves_ok.2 ⟨rfl, rfl⟩

/-! ### Terms and what joins them -/

theorem leaves_parseUnary (p : Predicate) (ts rest : List Token) :
    Leaves (parseUnary s size depth ts) p rest ↔
      depth ≤ nestingLimit ∧
        ((∃ us q, ts = .not :: us ∧ Leaves (parseUnary s size (depth + 1) us) q rest ∧
            p = .not q) ∨
          (∃ us, ts = .startGroup :: us ∧
            Leaves (parseOr s size (depth + 1) us) p (.endGroup :: rest)) ∨
          ∃ t us, ts = t :: us ∧ t.isReference = true ∧
            Leaves (parseRelation s size t us) p rest) := by
  rw [parseUnary.eq_def]
  by_cases hd : nestingLimit < depth
  · rw [if_pos hd, leaves_error, false_iff, not_and]
    omega
  · rw [if_neg hd, and_iff_right (Nat.le_of_not_lt hd)]
    constructor
    · intro h
      split at h
      · exact (leaves_error.1 h).elim
      · rename_i t us
        cases t with
        | not =>
          obtain ⟨q, hq, rfl⟩ := (leaves_map _ _).1 h
          exact Or.inl ⟨us, q, rfl, hq, rfl⟩
        | startGroup =>
          obtain ⟨q, after, ha, hq, h⟩ := leaves_bind.1 h
          dsimp only at h
          split at h
          · obtain ⟨rfl, rfl⟩ := leaves_ok.1 h
            exact Or.inr (Or.inl ⟨us, rfl, _, hq⟩)
          · exact (leaves_error.1 h).elim
        | current =>
          obtain ⟨q, hq, rfl⟩ := (leaves_map id _).1 h
          exact Or.inr (Or.inr ⟨_, us, rfl, rfl, hq⟩)
        | root =>
          obtain ⟨q, hq, rfl⟩ := (leaves_map id _).1 h
          exact Or.inr (Or.inr ⟨_, us, rfl, rfl, hq⟩)
        | _ => exact (leaves_error.1 h).elim
    · intro h
      rcases h with ⟨us, q, rfl, hq, rfl⟩ | ⟨us, rfl, hu, hq⟩ | ⟨t, us, rfl, ht, hq⟩
      · exact (leaves_map _ _).2 ⟨q, hq, rfl⟩
      · exact leaves_bind.2 ⟨p, .endGroup :: rest, hu, hq, leaves_ok.2 ⟨rfl, rfl⟩⟩
      · cases t with
        | current => exact (leaves_map id _).2 ⟨p, hq, rfl⟩
        | root => exact (leaves_map id _).2 ⟨p, hq, rfl⟩
        | _ => cases ht

/-- How a parser joins further operands to what it has, to the left: while the next token
is `separator`, it takes an operand behind it. -/
def Chains (separator : Token) (join : Predicate → Predicate → Predicate)
    (operand : (ts : List Token) → Except PathError (Predicate × Shorter ts))
    (chain : Predicate → (ts : List Token) → Except PathError (Predicate × NoLonger ts)) : Prop :=
  ∀ left ts p rest, Leaves (chain left ts) p rest ↔
    (∃ us right mid, ts = separator :: us ∧ Leaves (operand us) right mid ∧
      Leaves (chain (join left right) mid) p rest) ∨
    (∀ us, ts ≠ separator :: us) ∧ p = left ∧ ts = rest

/-- A parser that goes on behind a separator, and stops where there is none, chains. -/
theorem chains_of_eqs {separator : Token} {join : Predicate → Predicate → Predicate}
    {operand : (ts : List Token) → Except PathError (Predicate × Shorter ts)}
    {chain : Predicate → (ts : List Token) → Except PathError (Predicate × NoLonger ts)}
    (hnext : ∀ left us p rest, Leaves (chain left (separator :: us)) p rest ↔
      ∃ right mid, Leaves (operand us) right mid ∧ Leaves (chain (join left right) mid) p rest)
    (hstop : ∀ left ts, (∀ us, ts ≠ separator :: us) →
      chain left ts = .ok (left, ⟨ts, Nat.le_refl _⟩)) :
    Chains separator join operand chain := by
  intro left ts p rest
  by_cases hts : ∃ us, ts = separator :: us
  · obtain ⟨us, rfl⟩ := hts
    rw [hnext]
    constructor
    · intro h
      obtain ⟨right, mid, hright, hrest⟩ := h
      exact Or.inl ⟨us, right, mid, rfl, hright, hrest⟩
    · intro h
      rcases h with ⟨us', right, mid, heq, hright, hrest⟩ | ⟨hne, -, -⟩
      · cases heq
        exact ⟨right, mid, hright, hrest⟩
      · exact absurd rfl (hne us)
  · have hne : ∀ us, ts ≠ separator :: us := fun us heq => hts ⟨us, heq⟩
    rw [hstop left ts hne, leaves_ok]
    constructor
    · intro h
      exact Or.inr ⟨hne, h.1.symm, h.2⟩
    · intro h
      rcases h with ⟨us, right, mid, heq, -⟩ | ⟨-, hp, hrest⟩
      · exact absurd heq (hne us)
      · exact ⟨hp.symm, hrest⟩

theorem chains_parseAnds :
    Chains .and .and (parseUnary s size depth) (parseAnds s size depth) := by
  refine chains_of_eqs (fun left us p rest => ?_) (fun left ts hne => ?_)
  · rw [parseAnds.eq_1]
    exact leaves_seq (fun right => parseAnds s size depth (.and left right))
      fun _ _ h h' => Nat.le_succ_of_le (Nat.le_trans h' (Nat.le_of_lt h))
  · exact parseAnds.eq_2 s size depth left ts hne

theorem leaves_parseAnd (p : Predicate) (ts rest : List Token) :
    Leaves (parseAnd s size depth ts) p rest ↔
      ∃ left mid, Leaves (parseUnary s size depth ts) left mid ∧
        Leaves (parseAnds s size depth left mid) p rest := by
  rw [parseAnd]
  exact leaves_seq (parseAnds s size depth) fun _ _ h h' => Nat.lt_of_le_of_lt h' h

theorem chains_parseOrs :
    Chains .or .or (parseAnd s size depth) (parseOrs s size depth) := by
  refine chains_of_eqs (fun left us p rest => ?_) (fun left ts hne => ?_)
  · rw [parseOrs.eq_1]
    exact leaves_seq (fun right => parseOrs s size depth (.or left right))
      fun _ _ h h' => Nat.le_succ_of_le (Nat.le_trans h' (Nat.le_of_lt h))
  · exact parseOrs.eq_2 s size depth left ts hne

theorem leaves_parseOr (p : Predicate) (ts rest : List Token) :
    Leaves (parseOr s size depth ts) p rest ↔
      ∃ left mid, Leaves (parseAnd s size depth ts) left mid ∧
        Leaves (parseOrs s size depth left mid) p rest := by
  rw [parseOr]
  exact leaves_seq (parseOrs s size depth) fun _ _ h h' => Nat.lt_of_le_of_lt h' h

/-- No condition is made of no tokens. -/
theorem not_leaves_parseOr_nil (p : Predicate) (rest : List Token) :
    ¬ Leaves (parseOr s size depth []) p rest := by
  intro h
  obtain ⟨left, mid, h, -⟩ := (leaves_parseOr s size depth p [] rest).1 h
  obtain ⟨left, mid, h, -⟩ := (leaves_parseAnd s size depth left [] mid).1 h
  obtain ⟨-, ⟨us, q, h, -⟩ | ⟨us, h, -⟩ | ⟨t, us, h, -⟩⟩ :=
    (leaves_parseUnary s size depth left [] mid).1 h <;>
  cases h

/-! ### Predicates and segments -/

theorem compilePredicate_eq_ok (ts : List Token) (p : Predicate) :
    compilePredicate s ts = .ok p ↔ Leaves (parseOr s ts.length 0 ts) p [] := by
  rw [compilePredicate.eq_def]
  split
  · constructor
    · intro h
      cases h
    · intro h
      exact absurd h (not_leaves_parseOr_nil s _ 0 p [])
  · constructor
    · intro h
      obtain ⟨⟨q, rest, hr⟩, hq, h⟩ := bind_eq_ok.1 h
      dsimp only at h
      split at h
      · cases h
        exact ⟨hr, hq⟩
      · cases h
    · intro h
      obtain ⟨hr, hq⟩ := h
      exact bind_eq_ok.2 ⟨_, hq, rfl⟩

theorem compileTokens_eq_ok (ts : List Token) (p : Program) :
    compileTokens s ts = .ok p ↔ ∃ segments,
      compileSegments s ts.length ts = .ok segments ∧ p = .mk (Text.trim s.source) ts segments := by
  rw [compileTokens, bind_eq_ok]
  constructor
  · intro h
    obtain ⟨segments, hs, h⟩ := h
    cases h
    exact ⟨segments, hs, rfl⟩
  · intro h
    obtain ⟨segments, hs, rfl⟩ := h
    exact ⟨segments, hs, rfl⟩

theorem compileSegments_nil : compileSegments s size [] = .ok [] := by
  rw [compileSegments.eq_def]

theorem compileSegments_filter (ts : List Token) (segments : List Segment) :
    compileSegments s size (.startFilter :: ts) = .ok segments ↔
      ∃ n p rest, filterLength 0 ts = some n ∧ compilePredicate s (ts.take n) = .ok p ∧
        compileSegments s size (ts.drop (n + 1)) = .ok rest ∧ segments = .filter p :: rest := by
  rw [compileSegments.eq_def]
  dsimp only
  rw [if_pos rfl]
  cases filterLength 0 ts with
  | none =>
    constructor
    · intro h
      cases h
    · intro h
      obtain ⟨n, p, rest, h, -⟩ := h
      cases h
  | some n =>
    dsimp only
    rw [bind_eq_ok]
    constructor
    · intro h
      obtain ⟨p, hp, h⟩ := h
      obtain ⟨rest, hr, h⟩ := bind_eq_ok.1 h
      cases h
      exact ⟨n, p, rest, rfl, hp, hr, rfl⟩
    · intro h
      obtain ⟨n', p, rest, hn, hp, hr, rfl⟩ := h
      cases hn
      exact ⟨p, hp, bind_eq_ok.2 ⟨rest, hr, rfl⟩⟩

theorem compileSegments_cons {t : Token} (ht : t ≠ .startFilter) (ts : List Token)
    (segments : List Segment) :
    compileSegments s size (t :: ts) = .ok segments ↔
      ∃ segment rest, t.segment? = some segment ∧ compileSegments s size ts = .ok rest ∧
        segments = segment :: rest := by
  rw [compileSegments.eq_def]
  dsimp only
  rw [if_neg ht]
  cases t.segment? with
  | none =>
    constructor
    · intro h
      cases h
    · intro h
      obtain ⟨segment, rest, h, -⟩ := h
      cases h
  | some segment =>
    dsimp only
    rw [bind_eq_ok]
    constructor
    · intro h
      obtain ⟨rest, hr, h⟩ := h
      cases h
      exact ⟨segment, rest, rfl, hr, rfl⟩
    · intro h
      obtain ⟨segment', rest, hs, hr, rfl⟩ := h
      cases hs
      exact ⟨rest, hr, rfl⟩

/-! ### Where filters and paths end -/

theorem filterLength_cons {t : Token} (h₁ : t ≠ .startFilter) (h₂ : t ≠ .endFilter) (d : Nat)
    (ts : List Token) : filterLength d (t :: ts) = (filterLength d ts).map (· + 1) := by
  rw [filterLength, if_neg h₁, if_neg h₂]

/-- The end of a filter is found without a look at what follows it. -/
theorem filterLength_split {d n : Nat} {ts : List Token} (h : filterLength d ts = some n) :
    ∃ front back, ts = front ++ .endFilter :: back ∧ front.length = n ∧
      ∀ back', filterLength d (front ++ .endFilter :: back') = some n := by
  induction ts generalizing d n with
  | nil => cases h
  | cons t rest ih =>
    -- Every token before the end only counts, wherever it leaves the depth.
    have step {d' m : Nat} (hm : filterLength d' rest = some m) (hn : m + 1 = n)
        (hd : ∀ us, filterLength d (t :: us) = (filterLength d' us).map (· + 1)) :
        ∃ front back, t :: rest = front ++ .endFilter :: back ∧ front.length = n ∧
          ∀ back', filterLength d (front ++ .endFilter :: back') = some n := by
      obtain ⟨front, back, rfl, hl, hf⟩ := ih hm
      refine ⟨t :: front, back, rfl, by rw [List.length_cons, hl, hn], fun back' => ?_⟩
      rw [List.cons_append, hd, hf back', ← hn]
      rfl
    by_cases h₁ : t = .startFilter
    · subst h₁
      obtain ⟨m, hm, hn⟩ := Option.map_eq_some_iff.1 h
      exact step hm hn fun us => rfl
    · by_cases h₂ : t = .endFilter
      · subst h₂
        cases d with
        | zero =>
          cases h
          exact ⟨[], rest, rfl, rfl, fun back' => rfl⟩
        | succ d =>
          obtain ⟨m, hm, hn⟩ := Option.map_eq_some_iff.1 h
          exact step hm hn fun us => rfl
      · rw [filterLength_cons h₁ h₂] at h
        obtain ⟨m, hm, hn⟩ := Option.map_eq_some_iff.1 h
        exact step hm hn fun us => filterLength_cons h₁ h₂ d us

theorem selectorLength_selector {t : Token} (ht : t.isSelector = true) (ts : List Token) (n : Nat) :
    selectorLength s size (t :: ts) = .ok n ↔
      ∃ m, selectorLength s size ts = .ok m ∧ n = m + 1 := by
  rw [selectorLength, if_pos ht, bind_eq_ok]
  constructor
  · intro h
    obtain ⟨m, hm, h⟩ := h
    cases h
    exact ⟨m, hm, rfl⟩
  · intro h
    obtain ⟨m, hm, rfl⟩ := h
    exact ⟨m, hm, rfl⟩

theorem selectorLength_filter (ts : List Token) (n : Nat) :
    selectorLength s size (.startFilter :: ts) = .ok n ↔
      ∃ k m, filterLength 0 ts = some k ∧ selectorLength s size (ts.drop (k + 1)) = .ok m ∧
        n = k + 2 + m := by
  rw [selectorLength, if_neg (by decide), if_pos rfl]
  cases filterLength 0 ts with
  | none =>
    constructor
    · intro h
      cases h
    · intro h
      obtain ⟨k, m, h, -⟩ := h
      cases h
  | some k =>
    dsimp only
    rw [bind_eq_ok]
    constructor
    · intro h
      obtain ⟨m, hm, h⟩ := h
      cases h
      exact ⟨k, m, rfl, hm, rfl⟩
    · intro h
      obtain ⟨k', m, hk, hm, rfl⟩ := h
      cases hk
      exact ⟨m, hm, rfl⟩

/-- A path ends before a token that is no selector and starts no filter. -/
theorem selectorLength_end {t : Token} (h₁ : t.isSelector = false) (h₂ : t ≠ .startFilter)
    (ts : List Token) : selectorLength s size (t :: ts) = .ok 0 := by
  rw [selectorLength, if_neg (by simp [h₁]), if_neg h₂]

end Sift.Path
