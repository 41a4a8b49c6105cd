import Sift.Proofs.Path.Precedence

/-! The relations of a predicate, and the filters in its paths.

Which relations a predicate asks is told by its tokens alone: they are what stands between
connectives, negations and groups, outside of the filters in paths (`relations`). The predicate
that is compiled asks just these, in this order (`relations_compiled`).

The filters in its paths are predicates again, and so are those in the paths of these (`Inside`);
each was compiled from a part of the tokens (`compiled_inside`). -/
namespace Sift.Path

/-! ### Runs of tokens -/

/-- Tokens between relations. -/
def Token.joins : Token → Bool
  | .and | .or | .not | .startGroup | .endGroup => true
  | _ => false

/-- A run of tokens as a relation, if there are any. -/
def flush (run : List Token) : List (List Token) := if run.isEmpty then [] else [run]

/-- The relations among tokens behind the start `run` of one, with `depth` filters open. -/
def relationsFrom (depth : Nat) (run : List Token) : List Token → List (List Token)
  | [] => flush run
  | t :: rest =>
    if t = .startFilter then relationsFrom (depth + 1) (run ++ [t]) rest
    else if t = .endFilter then relationsFrom (depth - 1) (run ++ [t]) rest
    else if depth = 0 ∧ t.joins = true then flush run ++ relationsFrom 0 [] rest
    else relationsFrom depth (run ++ [t]) rest

/-- The relations of a predicate, each with its tokens. -/
def relations (ts : List Token) : List (List Token) := relationsFrom 0 [] ts

/-- Tokens that are part of the relation around them, with `depth` filters open. -/
def Kept (depth : Nat) (ts : List Token) : Prop :=
  ∀ run rest, relationsFrom depth run (ts ++ rest) = relationsFrom depth (run ++ ts) rest

theorem Kept.nil {depth : Nat} : Kept depth [] := by
  intro run rest
  rw [List.nil_append, List.append_nil]

theorem Kept.append {depth : Nat} {ts us : List Token} (ht : Kept depth ts) (hu : Kept depth us) :
    Kept depth (ts ++ us) := by
  intro run rest
  rw [List.append_assoc, ht, hu, List.append_assoc]

theorem Kept.single {depth : Nat} {t : Token} (h₁ : t ≠ .startFilter) (h₂ : t ≠ .endFilter)
    (h : depth = 0 → t.joins = false) : Kept depth [t] := by
  intro run rest
  have hjoins : ¬ (depth = 0 ∧ t.joins = true) := by
    intro hboth
    rw [h hboth.1] at hboth
    exact Bool.false_ne_true hboth.2
  rw [List.singleton_append, relationsFrom, if_neg h₁, if_neg h₂, if_neg hjoins]

theorem Kept.cons {depth : Nat} {t : Token} {ts : List Token} (h₁ : t ≠ .startFilter)
    (h₂ : t ≠ .endFilter) (h : depth = 0 → t.joins = false) (hts : Kept depth ts) :
    Kept depth (t :: ts) :=
  (Kept.single h₁ h₂ h).append hts

/-- A filter with what it holds. -/
theorem Kept.filter {depth : Nat} {ts us : List Token} (ht : Kept (depth + 1) ts)
    (hu : Kept depth us) : Kept depth (.startFilter :: (ts ++ .endFilter :: us)) := by
  intro run rest
  have hopen : ∀ run rest, relationsFrom depth run (.startFilter :: rest) =
      relationsFrom (depth + 1) (run ++ [.startFilter]) rest := fun _ _ => rfl
  have hclose : ∀ run rest, relationsFrom (depth + 1) run (.endFilter :: rest) =
      relationsFrom depth (run ++ [.endFilter]) rest := fun _ _ => rfl
  rw [List.cons_append, List.append_assoc, List.cons_append, hopen, ht, hclose, hu]
  simp only [List.append_assoc, List.cons_append, List.nil_append]

theorem Kept.inside {depth : Nat} {t : Token} {ts : List Token} (h₁ : t ≠ .startFilter)
    (h₂ : t ≠ .endFilter) (hts : Kept (depth + 1) ts) : Kept (depth + 1) (t :: ts) :=
  hts.cons h₁ h₂ nofun

/-- In a filter everything is kept. -/
theorem Nested.kept {level : Level} {ts : List Token} (h : Nested level ts) (depth : Nat) :
    Kept (depth + 1) ts := by
  induction h generalizing depth with
  | nil => exact .nil
  | selector ht _ ih => exact (ih depth).inside (isSelector_ne ht).1 (isSelector_ne ht).2
  | filter _ _ ihp ih => exact .filter (ihp (depth + 1)) (ih depth)
  | word ht _ ih => exact (ih depth).inside (ne_of_word ht rfl rfl) (ne_of_word ht rfl rfl)
  | reference ht _ _ ihu ih =>
    exact ((ihu depth).append (ih depth)).inside (isReference_ne ht).1 (isReference_ne ht).2
  | group _ _ ihu ih =>
    have hclosed := (ih depth).inside (by simp) (by simp : Token.endGroup ≠ .endFilter)
    exact ((ihu depth).append hclosed).inside (by simp) (by simp)

/-! ### The relations of a predicate -/

def Operand.tokens : Operand → List Token
  | .literal (.bool b) => [.truth b]
  | .literal (.int i) => [.integer i]
  | .literal (.text t) => [.text t]
  | .literal _ => []
  | .pattern t _ => [.text t]
  | .path p => p.tokens

def Relation.tokens : Relation → List Token
  | .resolves path => path.tokens
  | .compare op left right => left.tokens ++ .compare op :: right.tokens

/-- What a predicate asks, from left to right. -/
def Predicate.relations : Predicate → List Relation
  | .resolves path => [.resolves path]
  | .compare op left right => [.compare op left right]
  | .and a b => a.relations ++ b.relations
  | .or a b => a.relations ++ b.relations
  | .not a => a.relations
termination_by structural p => p

theorem relations_predicate (r : Relation) : r.predicate.relations = [r] := by
  cases r <;> rfl

theorem Literal.tokens_eq {s : Setting} {op : Comparison} {t : Token} {right : Operand}
    (h : Literal s op t right) : right.tokens = [t] := by
  cases h <;> rfl

theorem Literal.kept {s : Setting} {op : Comparison} {t : Token} {right : Operand}
    (h : Literal s op t right) : Kept 0 [t] := by
  cases h <;> exact .single (by simp) (by simp) fun _ => rfl

/-- The relation that stands in front of tokens that it stops at. -/
theorem relationsFrom_stop {run rest : List Token} (hrun : run ≠ [])
    (hrest : Follows Token.joins rest) :
    relationsFrom 0 run rest = run :: relationsFrom 0 [] rest := by
  have hflush : flush run = [run] := by
    rw [flush, List.isEmpty_eq_false_iff.2 hrun]
    rfl
  cases rest with
  | nil => exact hflush
  | cons t rest =>
    have hjoins : t.joins = true := hrest
    have h₁ : t ≠ .startFilter := ne_of_kind hjoins rfl
    have h₂ : t ≠ .endFilter := ne_of_kind hjoins rfl
    rw [relationsFrom, relationsFrom, if_neg h₁, if_neg h₂, if_pos ⟨rfl, hjoins⟩, if_neg h₁,
      if_neg h₂, if_pos ⟨rfl, hjoins⟩, hflush]
    rfl

theorem relationsFrom_join {t : Token} (hjoins : t.joins = true) (rest : List Token) :
    relationsFrom 0 [] (t :: rest) = relationsFrom 0 [] rest := by
  rw [relationsFrom, if_neg (ne_of_kind hjoins rfl), if_neg (ne_of_kind hjoins rfl),
    if_pos ⟨rfl, hjoins⟩]
  rfl

/-- What the tokens of a phrase tell of the relations in it. -/
def Tells : Phrase → List Token → Prop
  | .selectors _, ts => Kept 0 ts
  | .path p, ts => p.tokens = ts ∧ Kept 0 ts ∧ ts ≠ []
  | .operand _ right, ts => right.tokens = ts ∧ Kept 0 ts
  | .relation r, ts => r.tokens = ts ∧ Kept 0 ts ∧ ts ≠ []
  | .term _ f, ts | .conjunction _ f, ts | .disjunction _ f, ts =>
    ∀ rest, Follows Token.joins rest → relationsFrom 0 [] (ts ++ rest) =
      f.predicate.relations.map Relation.tokens ++ relationsFrom 0 [] rest

/-- Operands with a separator between them ask what both of them ask. -/
theorem tells_joined {a b : List (List Token)} {ts us : List Token} {separator : Token}
    (hseparator : separator.joins = true)
    (ha : ∀ rest, Follows Token.joins rest → relationsFrom 0 [] (ts ++ rest) =
      a ++ relationsFrom 0 [] rest)
    (hb : ∀ rest, Follows Token.joins rest → relationsFrom 0 [] (us ++ rest) =
      b ++ relationsFrom 0 [] rest) (rest : List Token) (hrest : Follows Token.joins rest) :
    relationsFrom 0 [] (ts ++ separator :: us ++ rest) = a ++ b ++ relationsFrom 0 [] rest := by
  rw [List.append_assoc, List.cons_append, ha (separator :: (us ++ rest)) hseparator,
    relationsFrom_join hseparator, hb rest hrest, List.append_assoc]

theorem Writes.tells {s : Setting} {phrase : Phrase} {ts : List Token} (h : Writes s phrase ts) :
    Tells phrase ts := by
  induction h with
  | nil => exact .nil
  | @selector t _ _ _ ht _ _ ih =>
    have hjoins : t.joins = false := by cases t <;> first | rfl | cases ht
    exact Kept.cons (isSelector_ne ht).1 (isSelector_ne ht).2 (fun _ => hjoins) ih
  -- The connectives of a filter belong to the path that the filter is in.
  | filter hf _ _ ih => exact Kept.filter (hf.shaped.nested.kept 0) ih
  | @path t _ _ _ ht _ _ ih =>
    have hjoins : t.joins = false := by cases t <;> first | rfl | cases ht
    exact ⟨rfl, Kept.cons (isReference_ne ht).1 (isReference_ne ht).2 (fun _ => hjoins) ih,
      List.cons_ne_nil _ _⟩
  | literal hl => exact ⟨hl.tokens_eq, hl.kept⟩
  | value _ ih => exact ⟨ih.1, ih.2.1⟩
  | resolves _ ih => exact ih
  | @compare op left right ts us _ _ ihl ihr =>
    obtain ⟨rfl, hleft, -⟩ := ihl
    obtain ⟨rfl, hright⟩ := ihr
    refine ⟨rfl, hleft.append (hright.cons (by simp) (by simp) fun _ => rfl), ?_⟩
    exact List.append_ne_nil_of_right_ne_nil _ (List.cons_ne_nil _ _)
  | @relation n r ts _ _ ih =>
    obtain ⟨rfl, hkept, hne⟩ := ih
    intro rest hrest
    rw [hkept, List.nil_append, relationsFrom_stop hne hrest]
    show _ = r.predicate.relations.map Relation.tokens ++ _
    rw [relations_predicate]
    rfl
  | not _ ih =>
    intro rest hrest
    rw [List.cons_append, relationsFrom_join rfl]
    exact ih rest hrest
  | group _ ih =>
    intro rest hrest
    rw [List.cons_append, relationsFrom_join rfl, List.append_assoc, ih _ rfl,
      List.singleton_append, relationsFrom_join rfl]
  | term _ ih => exact ih
  | @and n a b _ _ _ _ iha ihb =>
    intro rest hrest
    rw [tells_joined rfl iha ihb rest hrest, ← List.map_append]
    rfl
  | conjunction _ ih => exact ih
  | @or n a b _ _ _ _ iha ihb =>
    intro rest hrest
    rw [tells_joined rfl iha ihb rest hrest, ← List.map_append]
    rfl

/-- The relations of a predicate that was compiled are those of its tokens. -/
theorem relations_compiled {s : Setting} {ts : List Token} {p : Predicate}
    (h : compilePredicate s ts = .ok p) : p.relations.map Relation.tokens = relations ts := by
  obtain ⟨f, us, hus, rfl, hf⟩ := predicate_written ts p h
  rw [List.append_nil] at hus
  subst hus
  have htells := hf.tells [] rfl
  rw [List.append_nil] at htells
  rw [relations, htells]
  exact (List.append_nil _).symm

/-! ### Filters in paths -/

def Segment.filter? : Segment → Option Predicate
  | .filter p => some p
  | _ => none

/-- The predicates of the filters that a path goes through. -/
def Program.filters (p : Program) : List Predicate := p.segments.filterMap Segment.filter?

def Operand.filters : Operand → List Predicate
  | .path p => p.filters
  | _ => []

def Relation.filters : Relation → List Predicate
  | .resolves path => path.filters
  | .compare _ left right => left.filters ++ right.filters

/-- The predicates of the filters in the paths of a predicate. -/
def Predicate.filters (p : Predicate) : List Predicate := p.relations.flatMap Relation.filters

/-- A predicate inside of another one, behind any number of filters. -/
inductive Inside : Predicate → Predicate → Prop where
  | filter {p q} : q ∈ p.filters → Inside q p
  | deeper {p q r} : r ∈ q.filters → Inside q p → Inside r p

def Phrase.filters : Phrase → List Predicate
  | .selectors segments => segments.filterMap Segment.filter?
  | .path p => p.filters
  | .operand _ right => right.filters
  | .relation r => r.filters
  | .term _ f | .conjunction _ f | .disjunction _ f => f.predicate.filters

/-- Predicates that were compiled from parts of the tokens. -/
def CompiledIn (s : Setting) (ts : List Token) (ps : List Predicate) : Prop :=
  ∀ p ∈ ps, ∃ us, us <:+: ts ∧ compilePredicate s us = .ok p

variable {s : Setting} {ts us : List Token} {ps qs : List Predicate}

theorem CompiledIn.widen (h : CompiledIn s ts ps) (hts : ts <:+: us) : CompiledIn s us ps := by
  intro p hp
  obtain ⟨vs, hvs, hcompile⟩ := h p hp
  exact ⟨vs, hvs.trans hts, hcompile⟩

theorem CompiledIn.cons (h : CompiledIn s ts ps) (t : Token) : CompiledIn s (t :: ts) ps :=
  h.widen (List.suffix_cons t ts).isInfix

theorem CompiledIn.joined (h : CompiledIn s ts ps) (h' : CompiledIn s us qs) (t : Token) :
    CompiledIn s (ts ++ t :: us) (ps ++ qs) := by
  have hright : us <:+ ts ++ t :: us := (List.suffix_cons t us).trans (List.suffix_append ts _)
  exact List.forall_mem_append.2
    ⟨h.widen (List.prefix_append ts _).isInfix, h'.widen hright.isInfix⟩

theorem filters_segment {t : Token} {segment : Segment} (h : t.segment? = some segment)
    (segments : List Segment) : (segment :: segments).filterMap Segment.filter? =
      segments.filterMap Segment.filter? := by
  cases t <;> cases h <;> rfl

theorem filters_predicate (r : Relation) : r.predicate.filters = r.filters := by
  rw [Predicate.filters, relations_predicate, List.flatMap_singleton]

theorem filters_and (a b : Predicate) : (Predicate.and a b).filters = a.filters ++ b.filters :=
  List.flatMap_append

theorem filters_or (a b : Predicate) : (Predicate.or a b).filters = a.filters ++ b.filters :=
  List.flatMap_append

/-- The filters of a phrase were compiled from its tokens. -/
theorem Writes.compiledIn {phrase : Phrase} (h : Writes s phrase ts) :
    CompiledIn s ts phrase.filters := by
  induction h with
  | nil => exact fun p hp => absurd hp List.not_mem_nil
  | @selector t segment segments ts _ hs _ ih =>
    rw [Phrase.filters, filters_segment hs]
    exact ih.cons t
  | @filter f ts segments us hf _ _ ih =>
    have hself : CompiledIn s ts [f.predicate] := by
      intro p hp
      obtain rfl := List.mem_singleton.1 hp
      exact ⟨ts, List.infix_refl ts, compilePredicate_writes hf⟩
    exact (hself.joined ih .endFilter).cons .startFilter
  | @path t segment segments ts _ hs _ ih =>
    show CompiledIn s (t :: ts) ((segment :: segments).filterMap Segment.filter?)
    rw [filters_segment hs]
    exact ih.cons t
  | literal hl =>
    cases hl <;> exact fun p hp => absurd hp List.not_mem_nil
  | value _ ih => exact ih
  | resolves _ ih => exact ih
  | @compare op _ _ _ _ _ _ ihl ihr => exact ihl.joined ihr (.compare op)
  | @relation n r ts _ _ ih =>
    show CompiledIn s ts r.predicate.filters
    rw [filters_predicate]
    exact ih
  | not _ ih => exact ih.cons .not
  | group _ ih => exact (ih.widen (List.prefix_append _ _).isInfix).cons .startGroup
  | term _ ih => exact ih
  | @and n a b ts us _ _ iha ihb =>
    show CompiledIn s _ (Predicate.and a.predicate b.predicate).filters
    rw [filters_and]
    exact iha.joined ihb .and
  | conjunction _ ih => exact ih
  | @or n a b ts us _ _ iha ihb =>
    show CompiledIn s _ (Predicate.or a.predicate b.predicate).filters
    rw [filters_or]
    exact iha.joined ihb .or

/-- Every predicate inside of one that was compiled was compiled itself, from a part of the
tokens. -/
theorem compiled_inside {p q : Predicate} (h : compilePredicate s ts = .ok p) (hq : Inside q p) :
    ∃ us, us <:+: ts ∧ compilePredicate s us = .ok q := by
  have hfilters {ts : List Token} {p : Predicate} (h : compilePredicate s ts = .ok p) :
      CompiledIn s ts p.filters := by
    obtain ⟨f, us, hus, rfl, hf⟩ := predicate_written ts p h
    rw [List.append_nil] at hus
    subst hus
    exact hf.compiledIn
  induction hq with
  | filter hmem => exact hfilters h _ hmem
  | deeper hmem _ ih =>
    obtain ⟨us, hus, hcompile⟩ := ih h
    obtain ⟨vs, hvs, hcompile⟩ := hfilters hcompile _ hmem
    exact ⟨vs, hvs.trans hus, hcompile⟩

end Sift.Path
