import Sift.Proofs.Path.Nesting
import Sift.Proofs.Path.Parse

/-! Precedence, grouping and negation.

`compilePredicate_iff_writes`: the predicate of a token list is the formula that the list
writes. Read from right to left this says that every way to write a formula is understood,
with all groups that are needed and any that are not; read from left to right, that
nothing else is accepted.

Accepting goes by induction on the writing. A phrase is followed by tokens that cannot go
on with it, and for a chain of operands the claim is about what the parser makes of the
chain so far, since chains grow at the end that is read last. The other direction goes by
induction on the number of tokens: inside of a predicate the tokens become fewer with
every term, and a filter in a path is a shorter predicate again. -/
namespace Sift.Path

variable (s : Setting) (size : Nat)

/-! ### Every writing is accepted -/

/-- Tokens that a disjunction, a conjunction and a path stop at. -/
def Token.endsDisjunct : Token → Bool
  | .endGroup | .or => true
  | _ => false

def Token.endsTerm : Token → Bool
  | .and => true
  | t => t.endsDisjunct

def Token.endsPath : Token → Bool
  | .compare _ => true
  | t => t.endsTerm

/-- The tokens that follow a phrase start with one that it stops at, or there are none. -/
abbrev Follows (stop : Token → Bool) (rest : List Token) : Prop := rest.head?.all stop = true

theorem Follows.term {rest : List Token} (h : Follows Token.endsDisjunct rest) :
    Follows Token.endsTerm rest := by
  cases rest with
  | nil => rfl
  | cons t rest => cases t <;> first | rfl | cases h

theorem Follows.path {rest : List Token} (h : Follows Token.endsTerm rest) :
    Follows Token.endsPath rest := by
  cases rest with
  | nil => rfl
  | cons t rest => cases t <;> first | rfl | cases h

/-- A token list counts as one piece where the end of a filter is looked for. -/
def Balanced (ts : List Token) : Prop :=
  ∀ d rest, filterLength d (ts ++ rest) = (filterLength d rest).map (· + ts.length)

theorem balanced_nil : Balanced [] := by
  intro d rest
  simp

theorem balanced_cons {t : Token} {ts : List Token} (h₁ : t ≠ .startFilter) (h₂ : t ≠ .endFilter)
    (h : Balanced ts) : Balanced (t :: ts) := by
  intro d rest
  rw [List.cons_append, filterLength_cons h₁ h₂, h d rest, Option.map_map]
  rfl

theorem Balanced.append {ts us : List Token} (ht : Balanced ts) (hu : Balanced us) :
    Balanced (ts ++ us) := by
  intro d rest
  rw [List.append_assoc, ht, hu, Option.map_map, List.length_append]
  congr 1
  funext n
  show n + us.length + ts.length = n + (ts.length + us.length)
  omega

theorem balanced_filter {ts us : List Token} (ht : Balanced ts) (hu : Balanced us) :
    Balanced (.startFilter :: (ts ++ .endFilter :: us)) := by
  intro d rest
  have hopen : filterLength (d + 1) (.endFilter :: (us ++ rest)) =
      (filterLength d (us ++ rest)).map (· + 1) := rfl
  show (filterLength (d + 1) (ts ++ .endFilter :: us ++ rest)).map (· + 1) = _
  rw [List.append_assoc, ht, List.cons_append, hopen, hu, Option.map_map, Option.map_map,
    Option.map_map]
  congr 1
  funext n
  simp only [Function.comp_apply, List.length_cons, List.length_append]
  omega

theorem isSelector_ne {t : Token} (h : t.isSelector = true) :
    t ≠ .startFilter ∧ t ≠ .endFilter :=
  ⟨ne_of_kind h rfl, ne_of_kind h rfl⟩

theorem isReference_ne {t : Token} (h : t.isReference = true) :
    t ≠ .startFilter ∧ t ≠ .endFilter :=
  ⟨ne_of_kind h rfl, ne_of_kind h rfl⟩

theorem Nested.balanced {level : Level} {ts : List Token} (h : Nested level ts) : Balanced ts := by
  induction h with
  | nil => exact balanced_nil
  | selector ht _ ih => exact balanced_cons (isSelector_ne ht).1 (isSelector_ne ht).2 ih
  | filter _ _ ihp ih => exact balanced_filter ihp ih
  | word ht _ ih => exact balanced_cons (ne_of_word ht rfl rfl) (ne_of_word ht rfl rfl) ih
  | reference ht _ _ ihu ih =>
    exact balanced_cons (isReference_ne ht).1 (isReference_ne ht).2 (ihu.append ih)
  | group _ _ ihu ih =>
    exact balanced_cons (by simp) (by simp) (ihu.append (balanced_cons (by simp) (by simp) ih))

theorem Writes.balanced {s : Setting} {phrase : Phrase} {ts : List Token}
    (h : Writes s phrase ts) : Balanced ts :=
  h.shaped.nested.balanced

/-- What the parser for a phrase makes of its tokens, whatever follows them. -/
def Accepts : Phrase → List Token → Prop
  | .selectors segments, ts =>
    (∀ size, compileSegments s size ts = .ok segments) ∧
      ∀ size rest, Follows Token.endsPath rest → selectorLength s size (ts ++ rest) = .ok ts.length
  | .path p, ts => ∃ t us, ts = t :: us ∧ t.isReference = true ∧
      ∀ size rest, Follows Token.endsPath rest → Leaves (parsePath s size t (us ++ rest)) p rest
  | .operand op right, ts => ∀ size rest, Follows Token.endsPath rest →
      Leaves (parseOperand s size op (ts ++ rest)) right rest
  | .relation r, ts => ∃ t us, ts = t :: us ∧ t.isReference = true ∧
      ∀ size rest, Follows Token.endsTerm rest →
        Leaves (parseRelation s size t (us ++ rest)) r.predicate rest
  | .term n f, ts => ∀ size rest, Follows Token.endsTerm rest →
      Leaves (parseUnary s size n (ts ++ rest)) f.predicate rest
  | .conjunction n f, ts => ∀ size rest q last, Follows Token.endsTerm rest →
      Leaves (parseAnds s size n f.predicate rest) q last →
        Leaves (parseAnd s size n (ts ++ rest)) q last
  | .disjunction n f, ts => ∀ size rest q last, Follows Token.endsDisjunct rest →
      Leaves (parseOrs s size n f.predicate rest) q last →
        Leaves (parseOr s size n (ts ++ rest)) q last

theorem selectorLength_follows {rest : List Token} (h : Follows Token.endsPath rest) :
    selectorLength s size rest = .ok 0 := by
  cases rest with
  | nil => rw [selectorLength]
  | cons t rest =>
    apply selectorLength_end
    · cases t <;> first | rfl | cases h
    · intro heq
      subst heq
      cases h

/-- A chain ends where no separator follows. -/
theorem Chains.stop {separator : Token} {join : Predicate → Predicate → Predicate}
    {operand : (ts : List Token) → Except PathError (Predicate × Shorter ts)}
    {chain : Predicate → (ts : List Token) → Except PathError (Predicate × NoLonger ts)}
    (h : Chains separator join operand chain) (stop : Token → Bool) (hs : stop separator = false)
    (p : Predicate) {rest : List Token} (hr : Follows stop rest) :
    Leaves (chain p rest) p rest := by
  refine (h p rest p rest).2 (Or.inr ⟨?_, rfl, rfl⟩)
  intro us heq
  subst heq
  rw [Follows, List.head?_cons, Option.all_some, hs] at hr
  cases hr

/-- A disjunction that nothing goes on with is read to its end. -/
theorem accepts_disjunction {n : Nat} {f : Formula} {ts : List Token}
    (h : Accepts s (.disjunction n f) ts) (rest : List Token)
    (hr : rest.head?.all (· == .endGroup) = true) :
    Leaves (parseOr s size n (ts ++ rest)) f.predicate rest := by
  refine h size rest f.predicate rest ?_ ?_
  · cases rest with
    | nil => rfl
    | cons t rest =>
      have ht : t = .endGroup := by simpa using hr
      subst ht
      rfl
  · exact (chains_parseOrs s size n).stop (· == .endGroup) rfl _ hr

theorem Writes.accepts {phrase : Phrase} {ts : List Token} (h : Writes s phrase ts) :
    Accepts s phrase ts := by
  induction h with
  | nil =>
    exact ⟨fun size => compileSegments_nil s size, fun size rest hr =>
      selectorLength_follows s size hr⟩
  | @selector t segment segments ts ht hs _ ih =>
    refine ⟨fun size => ?_, fun size rest hr => ?_⟩
    · exact (compileSegments_cons s size (isSelector_ne ht).1 _ _).2
        ⟨segment, segments, hs, ih.1 size, rfl⟩
    · exact (selectorLength_selector s size ht _ _).2 ⟨_, ih.2 size rest hr, rfl⟩
  | @filter f ts segments us hf _ ihf ihs =>
    -- The end of the filter is found, for the predicate is balanced.
    have hlength (rest : List Token) :
        filterLength 0 (ts ++ .endFilter :: rest) = some ts.length := by
      rw [hf.balanced]
      simp [filterLength]
    refine ⟨fun size => ?_, fun size rest hr => ?_⟩
    · refine (compileSegments_filter s size _ _).2
        ⟨ts.length, f.predicate, segments, hlength us, ?_, ?_, rfl⟩
      · rw [List.take_left, compilePredicate_eq_ok]
        have hread := accepts_disjunction s ts.length ihf [] rfl
        rwa [List.append_nil] at hread
      · rw [show ts ++ .endFilter :: us = (ts ++ [.endFilter]) ++ us by simp,
          List.drop_left' (by simp)]
        exact ihs.1 size
    · rw [List.cons_append, List.append_assoc, List.cons_append]
      refine (selectorLength_filter s size _ _).2 ⟨ts.length, us.length, hlength _, ?_, ?_⟩
      · rw [show ts ++ .endFilter :: (us ++ rest) = (ts ++ [.endFilter]) ++ (us ++ rest) by simp,
          List.drop_left' (by simp)]
        exact ihs.2 size rest hr
      · simp only [List.length_cons, List.length_append]
        omega
  | @path t segment segments ts ht hs _ ih =>
    refine ⟨t, ts, rfl, ht, fun size rest hr => ?_⟩
    refine (leaves_parsePath s size t _ _ rest).2 ⟨ts.length, ih.2 size rest hr, ?_, by simp⟩
    rw [List.take_left]
    have hsegments : compileSegments s (t :: ts).length (t :: ts) = .ok (segment :: segments) :=
      (compileSegments_cons s _ (isReference_ne ht).1 _ _).2 ⟨segment, segments, hs, ih.1 _, rfl⟩
    exact (compileTokens_eq_ok s _ _).2 ⟨segment :: segments, hsegments, rfl⟩
  | @literal op t right hl =>
    intro size rest _
    exact (leaves_parseOperand s size op right _ rest).2 ⟨t, rest, rfl, Or.inl ⟨hl, rfl⟩⟩
  | @value op p ts _ ih =>
    obtain ⟨t, us, rfl, ht, hp⟩ := ih
    intro size rest hr
    exact (leaves_parseOperand s size op _ _ rest).2
      ⟨t, us ++ rest, rfl, Or.inr ⟨ht, p, hp size rest hr, rfl⟩⟩
  | @resolves p ts _ ih =>
    obtain ⟨t, us, rfl, ht, hp⟩ := ih
    refine ⟨t, us, rfl, ht, fun size rest hr => ?_⟩
    refine (leaves_parseRelation s size t _ _ rest).2
      ⟨p, rest, hp size rest hr.path, Or.inr ⟨?_, rfl, rfl⟩⟩
    intro op more heq
    subst heq
    cases hr
  | @compare op left right ts us _ _ ihl ihr =>
    obtain ⟨t, vs, rfl, ht, hp⟩ := ihl
    refine ⟨t, vs ++ .compare op :: us, rfl, ht, fun size rest hr => ?_⟩
    rw [List.append_assoc, List.cons_append]
    exact (leaves_parseRelation s size t _ _ rest).2 ⟨left, .compare op :: (us ++ rest),
      hp size _ rfl, Or.inl ⟨op, us ++ rest, right, rfl, ihr size rest hr.path, rfl⟩⟩
  | @relation n r ts hn _ ih =>
    obtain ⟨t, us, rfl, ht, hp⟩ := ih
    intro size rest hr
    exact (leaves_parseUnary s size n _ _ rest).2
      ⟨hn, Or.inr (Or.inr ⟨t, us ++ rest, rfl, ht, hp size rest hr⟩)⟩
  | @not n f ts h ih =>
    intro size rest hr
    exact (leaves_parseUnary s size n _ _ rest).2
      ⟨Nat.le_of_succ_le h.shallow, Or.inl ⟨ts ++ rest, f.predicate, rfl, ih size rest hr, rfl⟩⟩
  | @group n f ts h ih =>
    intro size rest hr
    refine (leaves_parseUnary s size n _ _ rest).2
      ⟨Nat.le_of_succ_le h.shallow, Or.inr (Or.inl ⟨ts ++ .endGroup :: rest, by simp, ?_⟩)⟩
    exact accepts_disjunction s size ih _ rfl
  | @term n f ts _ ih =>
    intro size rest q last hr hq
    exact (leaves_parseAnd s size n _ _ _).2 ⟨f.predicate, rest, ih size rest hr, hq⟩
  | @and n a b ts us _ _ iha ihb =>
    intro size rest q last hr hq
    rw [List.append_assoc]
    refine iha size _ q last rfl ((chains_parseAnds s size n _ _ _ _).2 (Or.inl ?_))
    exact ⟨us ++ rest, b.predicate, rest, rfl, ihb size rest hr, hq⟩
  | @conjunction n f ts _ ih =>
    intro size rest q last hr hq
    refine (leaves_parseOr s size n _ _ _).2 ⟨f.predicate, rest, ?_, hq⟩
    exact ih size rest _ _ hr.term ((chains_parseAnds s size n).stop _ rfl _ hr)
  | @or n a b ts us _ _ iha ihb =>
    intro size rest q last hr hq
    rw [List.append_assoc]
    refine iha size _ q last rfl ((chains_parseOrs s size n _ _ _ _).2 (Or.inl ?_))
    exact ⟨us ++ rest, b.predicate, rest, rfl,
      ihb size rest _ _ hr.term ((chains_parseAnds s size n).stop _ rfl _ hr), hq⟩

/-! ### Only writings are accepted -/

/-- The tokens `ts` start with a writing of a formula that has the predicate `p`, and go
on with `rest`. -/
def Reads (phrase : Formula → Phrase) (ts : List Token) (p : Predicate) (rest : List Token) :
    Prop :=
  ∃ f us, ts = us ++ rest ∧ f.predicate = p ∧ Writes s (phrase f) us

/-- Predicates of fewer than `m` tokens are written formulas. -/
def WrittenBelow (m : Nat) : Prop :=
  ∀ ts p, ts.length < m → compilePredicate s ts = .ok p → Reads s (.disjunction 0) ts p []

section Paths

variable {s} {m : Nat} (hm : WrittenBelow s m)

include hm

/-- What a path goes on with is selectors and written filters. -/
theorem selectors_written {size size' n : Nat} {ts : List Token} {segments : List Segment}
    (hl : ts.length ≤ m) (hn : selectorLength s size ts = .ok n)
    (hc : compileSegments s size' (ts.take n) = .ok segments) :
    Writes s (.selectors segments) (ts.take n) := by
  induction ts using (measure List.length).wf.induction generalizing n segments with
  | _ ts ih =>
    cases ts with
    | nil =>
      rw [List.take_nil, compileSegments_nil] at hc
      cases hc
      rw [List.take_nil]
      exact .nil
    | cons t rest =>
      by_cases ht : t.isSelector = true
      · obtain ⟨k, hk, rfl⟩ := (selectorLength_selector s size ht rest n).1 hn
        rw [List.take_succ_cons] at hc ⊢
        obtain ⟨segment, tail, hs, htail, rfl⟩ :=
          (compileSegments_cons s size' (isSelector_ne ht).1 _ _).1 hc
        exact .selector ht hs (ih rest (Nat.lt_succ_self _) (Nat.le_of_succ_le hl) hk htail)
      · by_cases hf : t = .startFilter
        · subst hf
          obtain ⟨k, j, hk, hj, rfl⟩ := (selectorLength_filter s size rest n).1 hn
          obtain ⟨front, back, rfl, rfl, hfront⟩ := filterLength_split hk
          rw [List.length_cons, List.length_append, List.length_cons] at hl
          have htake : (.startFilter :: (front ++ .endFilter :: back)).take (front.length + 2 + j) =
              .startFilter :: (front ++ .endFilter :: back.take j) := by
            rw [show front.length + 2 + j = front.length + (j + 1) + 1 by omega,
              List.take_succ_cons, List.take_length_add_append, List.take_succ_cons]
          have hdrop (us : List Token) :
              (front ++ .endFilter :: us).drop (front.length + 1) = us := by
            rw [List.drop_length_add_append]
            rfl
          rw [htake] at hc ⊢
          obtain ⟨k', p, tail, hk', hp, htail, rfl⟩ := (compileSegments_filter s size' _ _).1 hc
          rw [hfront] at hk'
          cases hk'
          rw [List.take_left] at hp
          rw [hdrop] at hj htail
          obtain ⟨f, us, hus, rfl, hw⟩ := hm front p (by omega) hp
          rw [List.append_nil] at hus
          subst hus
          refine .filter hw (ih back ?_ (by omega) hj htail)
          show back.length < (Token.startFilter :: (front ++ .endFilter :: back)).length
          simp only [List.length_cons, List.length_append]
          omega
        · rw [selectorLength_end s size (by simpa using ht) hf] at hn
          cases hn
          rw [List.take_zero, compileSegments_nil] at hc
          cases hc
          exact .nil

theorem path_written {size : Nat} {t : Token} {ts rest : List Token} {p : Program}
    (ht : t.isReference = true) (hl : ts.length ≤ m) (h : Leaves (parsePath s size t ts) p rest) :
    ∃ us, ts = us ++ rest ∧ Writes s (.path p) (t :: us) := by
  obtain ⟨n, hn, hp, rfl⟩ := (leaves_parsePath s size t p ts rest).1 h
  obtain ⟨segments, hs, rfl⟩ := (compileTokens_eq_ok s _ _).1 hp
  obtain ⟨segment, tail, hsegment, htail, rfl⟩ :=
    (compileSegments_cons s _ (isReference_ne ht).1 _ _).1 hs
  exact ⟨ts.take n, (List.take_append_drop n ts).symm,
    .path ht hsegment (selectors_written hm hl hn htail)⟩

theorem operand_written {size : Nat} {op : Comparison} {ts rest : List Token} {right : Operand}
    (hl : ts.length ≤ m) (h : Leaves (parseOperand s size op ts) right rest) :
    ∃ us, ts = us ++ rest ∧ Writes s (.operand op right) us := by
  obtain ⟨t, us, rfl, ⟨hliteral, rfl⟩ | ⟨ht, p, hp, rfl⟩⟩ :=
    (leaves_parseOperand s size op right ts rest).1 h
  · exact ⟨[t], rfl, .literal hliteral⟩
  · obtain ⟨vs, rfl, hw⟩ := path_written hm ht (Nat.le_of_succ_le hl) hp
    exact ⟨t :: vs, rfl, .value hw⟩

theorem relation_written {size : Nat} {t : Token} {ts rest : List Token} {p : Predicate}
    (ht : t.isReference = true) (hl : ts.length ≤ m)
    (h : Leaves (parseRelation s size t ts) p rest) :
    ∃ r us, ts = us ++ rest ∧ r.predicate = p ∧ Writes s (.relation r) (t :: us) := by
  obtain ⟨left, mid, hleft, hmid⟩ := (leaves_parseRelation s size t p ts rest).1 h
  obtain ⟨us, rfl, hw⟩ := path_written hm ht hl hleft
  rw [List.length_append] at hl
  rcases hmid with ⟨op, more, right, rfl, hright, rfl⟩ | ⟨-, rfl, rfl⟩
  · rw [List.length_cons] at hl
    obtain ⟨vs, rfl, hv⟩ := operand_written hm (by omega) hright
    exact ⟨.compare op left right, us ++ .compare op :: vs, by simp, rfl, .compare hw hv⟩
  · exact ⟨.resolves left, us, rfl, rfl, .resolves hw⟩

end Paths

/-- A chain of written operands is written, if what was joined before it is. -/
theorem Chains.written {s : Setting} {separator : Token} {join : Formula → Formula → Formula}
    {joined : Predicate → Predicate → Predicate}
    {operand : (ts : List Token) → Except PathError (Predicate × Shorter ts)}
    {chain : Predicate → (ts : List Token) → Except PathError (Predicate × NoLonger ts)}
    (h : Chains separator joined operand chain)
    (hjoin : ∀ f g, (join f g).predicate = joined f.predicate g.predicate)
    (inner outer : Formula → Phrase)
    (hw : ∀ {f g ts us}, Writes s (outer f) ts → Writes s (inner g) us →
      Writes s (outer (join f g)) (ts ++ separator :: us))
    {ts rest vs : List Token} {f : Formula} {p : Predicate}
    (ho : ∀ us right mid, us.length < ts.length → Leaves (operand us) right mid →
      Reads s inner us right mid)
    (hf : Writes s (outer f) vs) (hc : Leaves (chain f.predicate ts) p rest) :
    ∃ g us, ts = us ++ rest ∧ g.predicate = p ∧ Writes s (outer g) (vs ++ us) := by
  induction ts using (measure List.length).wf.induction generalizing f vs with
  | _ ts ih =>
    rcases (h _ _ _ _).1 hc with ⟨us, right, mid, rfl, hright, hrest⟩ | ⟨-, rfl, rfl⟩
    · obtain ⟨g, ws, rfl, rfl, hg⟩ := ho us right mid (Nat.lt_succ_self _) hright
      rw [← hjoin] at hrest
      have hlt : mid.length < (separator :: (ws ++ mid)).length := by
        rw [List.length_cons, List.length_append]
        omega
      obtain ⟨g', xs, rfl, hp, hx⟩ := ih mid hlt
        (fun us right mid' hl => ho us right mid' (Nat.lt_trans hl hlt)) (hw hf hg) hrest
      exact ⟨g', separator :: (ws ++ xs), by simp, hp, by simpa using hx⟩
    · exact ⟨f, [], rfl, rfl, by simpa using hf⟩

variable {s} {m : Nat}

/-- A disjunction is written if the terms among its tokens are. -/
theorem disjunction_written {size n : Nat} {ts rest : List Token} {p : Predicate}
    (ht : ∀ us q mid, us.length ≤ ts.length → Leaves (parseUnary s size n us) q mid →
      Reads s (.term n) us q mid)
    (h : Leaves (parseOr s size n ts) p rest) : Reads s (.disjunction n) ts p rest := by
  have hconjunction : ∀ us q mid, us.length ≤ ts.length →
      Leaves (parseAnd s size n us) q mid → Reads s (.conjunction n) us q mid := by
    intro us q mid hl hq
    obtain ⟨left, more, hleft, hmore⟩ := (leaves_parseAnd s size n q us mid).1 hq
    obtain ⟨f, vs, rfl, rfl, hf⟩ := ht us left more hl hleft
    rw [List.length_append] at hl
    obtain ⟨g, ws, rfl, rfl, hg⟩ := (chains_parseAnds s size n).written (fun _ _ => rfl)
      (.term n) (.conjunction n) Writes.and (fun us q mid hu => ht us q mid (by omega))
      (.term hf) hmore
    exact ⟨g, vs ++ ws, by simp, rfl, hg⟩
  obtain ⟨left, more, hleft, hmore⟩ := (leaves_parseOr s size n p ts rest).1 h
  obtain ⟨f, vs, rfl, rfl, hf⟩ := hconjunction ts left more (Nat.le_refl _) hleft
  rw [List.length_append] at hconjunction
  obtain ⟨g, ws, rfl, rfl, hg⟩ := (chains_parseOrs s size n).written (fun _ _ => rfl)
    (.conjunction n) (.disjunction n) Writes.or
    (fun us q mid hu => hconjunction us q mid (by omega)) (.conjunction hf) hmore
  exact ⟨g, vs ++ ws, by simp, rfl, hg⟩

theorem term_written (hm : WrittenBelow s m) {size n : Nat} {ts rest : List Token} {p : Predicate}
    (hl : ts.length ≤ m) (h : Leaves (parseUnary s size n ts) p rest) :
    Reads s (.term n) ts p rest := by
  induction ts using (measure List.length).wf.induction generalizing n p rest with
  | _ ts ih =>
    obtain ⟨hn, ⟨us, q, rfl, hq, rfl⟩ | ⟨us, rfl, hp⟩ | ⟨t, us, rfl, ht, hr⟩⟩ :=
      (leaves_parseUnary s size n p ts rest).1 h
    · obtain ⟨f, vs, rfl, rfl, hf⟩ := ih us (Nat.lt_succ_self _) (Nat.le_of_succ_le hl) hq
      exact ⟨.not f, .not :: vs, rfl, rfl, .not hf⟩
    · obtain ⟨f, vs, rfl, rfl, hf⟩ := disjunction_written (fun vs q mid hv hq =>
        ih vs (Nat.lt_succ_of_le hv) (Nat.le_trans hv (Nat.le_of_succ_le hl)) hq) hp
      exact ⟨f, .startGroup :: (vs ++ [.endGroup]), by simp, rfl, .group hf⟩
    · obtain ⟨r, vs, rfl, rfl, hw⟩ := relation_written hm ht (Nat.le_of_succ_le hl) hr
      exact ⟨.relation r, t :: vs, rfl, rfl, .relation hn hw⟩

/-- Whatever is accepted as a predicate is a written formula. -/
theorem predicate_written (ts : List Token) (p : Predicate) (h : compilePredicate s ts = .ok p) :
    Reads s (.disjunction 0) ts p [] := by
  induction ts using (measure List.length).wf.induction generalizing p with
  | _ ts ih =>
    have hm : WrittenBelow s ts.length := fun us q hl => ih us hl q
    exact disjunction_written (fun us q mid hl => term_written hm hl)
      ((compilePredicate_eq_ok s ts p).1 h)

theorem compilePredicate_writes {f : Formula} {ts : List Token}
    (h : Writes s (.disjunction 0 f) ts) : compilePredicate s ts = .ok f.predicate := by
  have hread := accepts_disjunction s ts.length (h.accepts s) [] rfl
  rw [List.append_nil] at hread
  exact (compilePredicate_eq_ok s ts _).2 hread

/-- A formula is determined by its predicate. -/
theorem Formula.predicate_injective {f g : Formula} (h : f.predicate = g.predicate) : f = g := by
  induction f generalizing g with
  | relation r =>
    cases g with
    | relation r' =>
      cases r <;> cases r' <;> cases h
      · rfl
      · rfl
    | _ => cases r <;> cases h
  | not a ih =>
    cases g with
    | not b => rw [ih (Predicate.not.inj h)]
    | relation r => cases r <;> cases h
    | _ => cases h
  | and a b iha ihb =>
    cases g with
    | and a' b' => rw [iha (Predicate.and.inj h).1, ihb (Predicate.and.inj h).2]
    | relation r => cases r <;> cases h
    | _ => cases h
  | or a b iha ihb =>
    cases g with
    | or a' b' => rw [iha (Predicate.or.inj h).1, ihb (Predicate.or.inj h).2]
    | relation r => cases r <;> cases h
    | _ => cases h

/-- **A filter means the formula that is written in it**, and only formulas are accepted.
A token list that writes a formula is compiled, to the predicate of that formula and no
other, however many groups it has that are not needed; the predicate holds of a candidate
where the formula is true of it; and whatever is compiled is written. -/
theorem compilePredicate_iff_writes (s : Setting) :
    (∀ f ts, Writes s (.disjunction 0 f) ts ↔ compilePredicate s ts = .ok f.predicate) ∧
      (∀ ts p, compilePredicate s ts = .ok p ↔
        ∃ f, Writes s (.disjunction 0 f) ts ∧ p = f.predicate) ∧
      ∀ (α : Type) [Viewable α] (o : QueryOptions) (root v : α) (f : Formula),
        test o root f.predicate v = f.value (Relation.holds o root v) := by
  have hwritten (ts : List Token) (p : Predicate) (h : compilePredicate s ts = .ok p) :
      ∃ f, Writes s (.disjunction 0 f) ts ∧ p = f.predicate := by
    obtain ⟨f, us, hus, rfl, hf⟩ := predicate_written ts p h
    rw [List.append_nil] at hus
    subst hus
    exact ⟨f, hf, rfl⟩
  refine ⟨fun f ts => ⟨compilePredicate_writes, fun h => ?_⟩, fun ts p => ⟨hwritten ts p, ?_⟩, ?_⟩
  · obtain ⟨g, hg, he⟩ := hwritten ts _ h
    rwa [Formula.predicate_injective he]
  · intro h
    obtain ⟨f, hf, rfl⟩ := h
    exact compilePredicate_writes hf
  · intro α _ o root v f
    exact test_predicate o root f v

end Sift.Path
