import Sift.Proofs.Path.Counts

/-! What the tokens of a path are refused for.

The tokens that a scan gives are well nested, so nothing is wrong with them but their predicates:
operands or parentheses are missing, or there are too many of them, or a pattern is none.
`Parses` says of a parser that it fails for nothing else, and that what it leaves are the last ones
of its tokens, which are matched again. A path inside of a predicate ends where its selectors do,
and the predicates of its filters have fewer tokens (`selectorLength_matched`); so all parsers are
done with by induction on the number of tokens. -/
namespace Sift.Path

/-- What a predicate may be refused for. -/
inductive Rejection (s : Setting) : PathError → Prop where
  | pattern (pattern : String) : Rejection s (.invalidPattern s.source pattern)
  | empty : Rejection s (s.invalid "empty filter")
  | nested : Rejection s (s.invalid "filter is nested too deeply")
  | condition : Rejection s (s.invalid "expected a condition")
  | parenthesis : Rejection s (s.invalid "expected ')'")
  | unexpected (t : Token) : Rejection s (s.unexpected t)
  | value (op : Comparison) : Rejection s (s.invalid s!"expected a value after '{op.symbol}'")

/-- The computation fails for nothing else. -/
def Refuses (s : Setting) {β : Type} (x : Except PathError β) : Prop :=
  ∀ e, x = .error e → Rejection s e

/-- The parser fails for nothing else, and leaves the last ones of the tokens `ts`. -/
def Parses (s : Setting) (ts : List Token) {β : Type} {P : List Token → Prop} :
    Except PathError (β × { rest : List Token // P rest }) → Prop
  | .ok (_, rest) => rest.val <:+ ts
  | .error e => Rejection s e

section Rules

variable {s : Setting} {β γ : Type} {P Q : List Token → Prop} {ts us : List Token}

theorem refuses_ok (b : β) : Refuses s (.ok b) := by
  intro e h
  cases h

theorem refuses_error {e : PathError} (h : Rejection s e) :
    Refuses s (.error e : Except PathError β) := by
  intro e' h'
  cases h'
  exact h

theorem Refuses.bind {x : Except PathError β} {f : β → Except PathError γ} (hx : Refuses s x)
    (hf : ∀ b, Refuses s (f b)) : Refuses s (x >>= f) := by
  cases x with
  | error e => exact refuses_error (hx e rfl)
  | ok b => exact hf b

theorem Parses.refuses {x : Except PathError (β × { rest : List Token // P rest })}
    (h : Parses s ts x) : Refuses s x := by
  intro e he
  rw [he] at h
  exact h

theorem Parses.mono {x : Except PathError (β × { rest : List Token // P rest })}
    (h : Parses s ts x) (hsuffix : ts <:+ us) : Parses s us x := by
  cases x with
  | error e => exact h
  | ok r => exact List.IsSuffix.trans h hsuffix

theorem Parses.bind {x : Except PathError (β × { rest : List Token // P rest })}
    {f : β × { rest : List Token // P rest } →
      Except PathError (γ × { rest : List Token // Q rest })} (hx : Parses s ts x)
    (hf : ∀ b mid h, mid <:+ ts → Parses s us (f (b, ⟨mid, h⟩))) : Parses s us (x >>= f) := by
  cases x with
  | error e => exact hx
  | ok r => exact hf r.1 r.2.val r.2.property hx

theorem Refuses.parses {x : Except PathError β}
    {f : β → Except PathError (γ × { rest : List Token // Q rest })} (hx : Refuses s x)
    (hf : ∀ b, Parses s us (f b)) : Parses s us (x >>= f) := by
  cases x with
  | error e => exact hx e rfl
  | ok b => exact hf b

end Rules

variable {s : Setting} {m : Nat}

/-! ### Paths -/

/-- A path goes on with the selectors and filters in front of the rest. -/
theorem selectorLength_matched {ts : List Token} (h : Matched ts) (s : Setting) (size : Nat) :
    ∃ us rest, ts = us ++ rest ∧ Nested .path us ∧ selectorLength s size ts = .ok us.length := by
  induction ts using (measure List.length).wf.induction with
  | _ ts ih =>
    cases ts with
    | nil =>
      refine ⟨[], [], rfl, .nil, ?_⟩
      rw [selectorLength]
      rfl
    | cons t ts =>
      by_cases ht : t.isSelector = true
      · obtain ⟨us, rest, rfl, hus, hlength⟩ := ih ts (Nat.lt_succ_self _) h.tail
        exact ⟨t :: us, rest, rfl, .selector ht hus,
          (selectorLength_selector s size ht _ _).2 ⟨_, hlength, rfl⟩⟩
      · by_cases hfilter : t = .startFilter
        · subst hfilter
          obtain ⟨ps, back, hps, rfl⟩ := h [] ts rfl
          have hback : back <:+ ps ++ .endFilter :: back :=
            (List.suffix_cons _ _).trans (List.suffix_append _ _)
          have hshorter : back.length < (Token.startFilter :: (ps ++ .endFilter :: back)).length :=
            Nat.lt_succ_of_le hback.length_le
          obtain ⟨us, rest, rfl, hus, hlength⟩ := ih back hshorter (h.tail.suffix hback)
          refine ⟨.startFilter :: (ps ++ .endFilter :: us), rest, by simp, .filter hps hus, ?_⟩
          refine (selectorLength_filter s size _ _).2
            ⟨ps.length, us.length, filterLength_nested hps _, ?_, ?_⟩
          · rw [List.drop_length_add_append]
            exact hlength
          · simp only [List.length_cons, List.length_append]
            omega
        · exact ⟨[], t :: ts, rfl, .nil,
            selectorLength_end s size (by simpa using ht) hfilter ts⟩

theorem segment?_isSelector {t : Token} (h : t.isSelector = true) :
    ∃ segment, t.segment? = some segment := by
  cases t <;> first | exact ⟨_, rfl⟩ | cases h

theorem segment?_isReference {t : Token} (h : t.isReference = true) :
    ∃ segment, t.segment? = some segment := by
  cases t <;> first | exact ⟨_, rfl⟩ | cases h

theorem refuses_segment {t : Token} {segment : Segment} (hne : t ≠ .startFilter)
    (ht : t.segment? = some segment) {size : Nat} {ts : List Token}
    (h : Refuses s (compileSegments s size ts)) : Refuses s (compileSegments s size (t :: ts)) := by
  rw [compileSegments.eq_def]
  simp only [if_neg hne, ht]
  exact h.bind fun segments => refuses_ok _

/-- Predicates of fewer than `m` tokens are refused as they should be. -/
def RefusedBelow (s : Setting) (m : Nat) : Prop :=
  ∀ ts, ts.length < m → Matched ts → Refuses s (compilePredicate s ts)

/-- A text that is no pattern. -/
theorem refuses_casedPattern (pattern : String) : Refuses s (casedPattern s pattern) := by
  rw [casedPattern]
  split
  · exact refuses_ok _
  · exact refuses_error (.pattern pattern)

section Below

variable (hm : RefusedBelow s m)
include hm

theorem refuses_compileSegments {ts : List Token} (h : Nested .path ts) (hl : ts.length ≤ m)
    (size : Nat) : Refuses s (compileSegments s size ts) := by
  generalize hlevel : Level.path = level at h
  induction h with
  | nil =>
    rw [compileSegments_nil]
    exact refuses_ok []
  | selector ht _ ih =>
    obtain ⟨segment, hsegment⟩ := segment?_isSelector ht
    exact refuses_segment (isSelector_ne ht).1 hsegment (ih (Nat.le_of_succ_le hl) hlevel)
  | @filter ps us hps _ _ ih =>
    rw [List.length_cons, List.length_append, List.length_cons] at hl
    rw [compileSegments.eq_def]
    simp only [if_true, filterLength_nested hps, List.take_left, List.drop_length_add_append]
    refine (hm ps (by omega) hps.matched).bind fun p => ?_
    exact (ih (by omega) hlevel).bind fun segments => refuses_ok _
  | word | reference | group => cases hlevel

theorem parses_parsePath {t : Token} (ht : t.isReference = true) {ts : List Token}
    (h : Matched ts) (hl : ts.length ≤ m) (size : Nat) : Parses s ts (parsePath s size t ts) := by
  obtain ⟨us, rest, rfl, hus, hlength⟩ := selectorLength_matched h s size
  obtain ⟨segment, hsegment⟩ := segment?_isReference ht
  rw [List.length_append] at hl
  have hsegments : Refuses s (compileTokens s (t :: us)) := by
    rw [compileTokens]
    refine Refuses.bind ?_ fun segments => refuses_ok _
    exact refuses_segment (isReference_ne ht).1 hsegment
      (refuses_compileSegments hm hus (by omega) _)
  rw [parsePath, hlength]
  show Parses s _ (compileTokens s (t :: (us ++ rest).take us.length) >>= _)
  rw [List.take_left]
  exact hsegments.parses fun p => List.drop_suffix _ _

theorem parses_parseOperand (op : Comparison) {ts : List Token} (h : Matched ts)
    (hl : ts.length ≤ m) (size : Nat) : Parses s ts (parseOperand s size op ts) := by
  rw [parseOperand.eq_def]
  cases ts with
  | nil => exact .value op
  | cons t ts =>
    have hsuffix : ts <:+ t :: ts := List.suffix_cons t ts
    have hreference (ht : t.isReference = true) : Parses s ts (parsePath s size t ts) :=
      parses_parsePath hm ht h.tail (Nat.le_of_succ_le hl) size
    cases t with
    | truth | integer => exact hsuffix
    | text str =>
      simp only
      split
      · exact (refuses_casedPattern str).parses fun p => hsuffix
      · exact hsuffix
    | current | root =>
      exact (hreference rfl).bind fun p mid _ hmid => hmid.trans hsuffix
    | _ => exact .value op

theorem parses_parseRelation {t : Token} (ht : t.isReference = true) {ts : List Token}
    (h : Matched ts) (hl : ts.length ≤ m) (size : Nat) :
    Parses s ts (parseRelation s size t ts) := by
  rw [parseRelation]
  refine (parses_parsePath hm ht h hl size).bind fun left mid hmid hsuffix => ?_
  dsimp only
  split
  · rename_i op more _
    have hmore : more <:+ ts := (List.suffix_cons _ _).trans hsuffix
    have hlength := hmore.length_le
    refine (parses_parseOperand hm op (h.suffix hmore) (by omega) size).bind
      fun right after _ hafter => ?_
    exact hafter.trans hmore
  · exact hsuffix

end Below

/-! ### Terms and what joins them -/

/-- A chain of operands parses if the operands do. -/
theorem parses_chain (separator : Token) (join : Predicate → Predicate → Predicate)
    {operand : (ts : List Token) → Except PathError (Predicate × Shorter ts)}
    {chain : Predicate → (ts : List Token) → Except PathError (Predicate × NoLonger ts)}
    (hnext : ∀ left us, Parses s us (operand us) →
      (∀ right mid, mid.length < us.length → mid <:+ us →
        Parses s mid (chain (join left right) mid)) →
      Parses s us (chain left (separator :: us)))
    (hstop : ∀ left ts, (∀ us, ts ≠ separator :: us) →
      chain left ts = .ok (left, ⟨ts, Nat.le_refl _⟩))
    {ts : List Token} (h : Matched ts)
    (ho : ∀ us, us.length ≤ ts.length → Matched us → Parses s us (operand us)) (left : Predicate) :
    Parses s ts (chain left ts) := by
  induction ts using (measure List.length).wf.induction generalizing left with
  | _ ts ih =>
    by_cases hts : ∃ us, ts = separator :: us
    · obtain ⟨us, rfl⟩ := hts
      have hus : Parses s us (chain left (separator :: us)) := by
        refine hnext left us (ho us (Nat.le_succ _) h.tail) fun right mid hmid hsuffix => ?_
        have hlt : mid.length < (separator :: us).length := Nat.lt_succ_of_lt hmid
        exact ih mid hlt (h.tail.suffix hsuffix)
          (fun vs hvs => ho vs (Nat.le_trans hvs (Nat.le_of_lt hlt))) (join left right)
      exact hus.mono (List.suffix_cons _ _)
    · rw [hstop left ts fun us heq => hts ⟨us, heq⟩]
      exact List.suffix_refl ts

section Terms

variable {size depth : Nat} {ts : List Token}
  (ho : ∀ us, us.length ≤ ts.length → Matched us → Parses s us (parseUnary s size depth us))
include ho

theorem parses_parseAnd (h : Matched ts) : Parses s ts (parseAnd s size depth ts) := by
  rw [parseAnd]
  refine (ho ts (Nat.le_refl _) h).bind fun left mid hmid hsuffix => ?_
  have hands : Parses s mid (parseAnds s size depth left mid) := by
    refine parses_chain .and .and ?_ (parseAnds.eq_2 s size depth)
      (h.suffix hsuffix) (fun us hus => ho us (Nat.le_trans hus (Nat.le_of_lt hmid))) left
    intro left us hus hrest
    rw [parseAnds.eq_1]
    refine hus.bind fun right mid hmid hsuffix => ?_
    exact (hrest right mid hmid hsuffix).bind fun all last _ hlast => hlast.trans hsuffix
  exact hands.bind fun all last _ hlast => hlast.trans hsuffix

theorem parses_parseOr (h : Matched ts) : Parses s ts (parseOr s size depth ts) := by
  have hand (us : List Token) (hl : us.length ≤ ts.length) (hus : Matched us) :
      Parses s us (parseAnd s size depth us) :=
    parses_parseAnd (fun vs hvs => ho vs (Nat.le_trans hvs hl)) hus
  rw [parseOr]
  refine (hand ts (Nat.le_refl _) h).bind fun left mid hmid hsuffix => ?_
  have hors : Parses s mid (parseOrs s size depth left mid) := by
    refine parses_chain .or .or ?_ (parseOrs.eq_2 s size depth)
      (h.suffix hsuffix) (fun us hus => hand us (Nat.le_trans hus (Nat.le_of_lt hmid))) left
    intro left us hus hrest
    rw [parseOrs.eq_1]
    refine hus.bind fun right mid hmid hsuffix => ?_
    exact (hrest right mid hmid hsuffix).bind fun all last _ hlast => hlast.trans hsuffix
  exact hors.bind fun all last _ hlast => hlast.trans hsuffix

end Terms

theorem parses_parseUnary (hm : RefusedBelow s m) {ts : List Token} (h : Matched ts)
    (hl : ts.length ≤ m) (size depth : Nat) : Parses s ts (parseUnary s size depth ts) := by
  induction ts using (measure List.length).wf.induction generalizing depth with
  | _ ts ih =>
    rw [parseUnary.eq_def]
    split
    · exact .nested
    · cases ts with
      | nil => exact .condition
      | cons t ts =>
        have hsuffix : ts <:+ t :: ts := List.suffix_cons t ts
        have hlength : ts.length ≤ m := Nat.le_of_succ_le hl
        have hreference (ht : t.isReference = true) : Parses s ts (parseRelation s size t ts) :=
          parses_parseRelation hm ht h.tail hlength size
        have hunary (us : List Token) (hle : us.length ≤ ts.length) (hus : Matched us) :
            Parses s us (parseUnary s size (depth + 1) us) :=
          ih us (Nat.lt_succ_of_le hle) hus (Nat.le_trans hle hlength) (depth + 1)
        cases t with
        | not =>
          exact (hunary ts (Nat.le_refl _) h.tail).bind fun inner mid _ hmid =>
            hmid.trans hsuffix
        | startGroup =>
          refine (parses_parseOr hunary h.tail).bind fun inner mid hmid hafter => ?_
          dsimp only
          split
          · exact ((List.suffix_cons _ _).trans hafter).trans hsuffix
          · exact .parenthesis
        | current | root => exact (hreference rfl).bind fun r mid _ hmid => hmid.trans hsuffix
        | _ => exact .unexpected _

/-- What is refused as a predicate is refused for what is missing from it, or too much in it. -/
theorem refuses_compilePredicate {ts : List Token} (h : Matched ts) :
    Refuses s (compilePredicate s ts) := by
  induction ts using (measure List.length).wf.induction with
  | _ ts ih =>
    have hm : RefusedBelow s ts.length := fun us hl hus => ih us hl hus
    rw [compilePredicate.eq_def]
    split
    · exact refuses_error .empty
    · have hunary (us : List Token) (hl : us.length ≤ ts.length) (hus : Matched us) :
          Parses s us (parseUnary s ts.length 0 us) :=
        parses_parseUnary hm hus hl _ _
      refine (parses_parseOr hunary h).refuses.bind fun r => ?_
      obtain ⟨p, rest, hrest⟩ := r
      cases rest with
      | nil => exact refuses_ok p
      | cons t rest => exact refuses_error (.unexpected t)

theorem refuses_compileTokens {us ts : List Token} (h : Nested .path us)
    (hts : ts = .root :: us ∨ ts = us) : Refuses s (compileTokens s ts) := by
  have hm : RefusedBelow s us.length := fun _ _ hus => refuses_compilePredicate hus
  have hsegments (size : Nat) : Refuses s (compileSegments s size us) :=
    refuses_compileSegments hm h (Nat.le_refl _) size
  rw [compileTokens]
  refine Refuses.bind ?_ fun segments => refuses_ok _
  rcases hts with rfl | rfl
  · exact refuses_segment Token.noConfusion rfl (hsegments _)
  · exact hsegments _

/-! ### The tokens of a path -/

/-- No cause starts with a quoted token, as that for a token outside of a filter would. -/
theorem Rejection.cause {path cause : String} (h : Rejection s (.invalidFilter path cause)) :
    cause.toList.head? ≠ some '\'' := by
  generalize he : PathError.invalidFilter path cause = e at h
  cases h with
  | pattern => cases he
  | unexpected t =>
    cases he
    simp [toString, String.toList_append]
  | value op =>
    cases he
    simp [toString, String.toList_append]
  | _ =>
    cases he
    decide

/-- **The tokens of a path are well nested**, and no count of what is open is ever off on the way
to them. So each filter ends where its end is looked for, and compiling fails for nothing but what
is missing from a predicate, or too much in it. -/
theorem tokenize_wellNested {path : String} {ts : List Token} (h : tokenize path = .ok ts) :
    WellNested ts ∧ (∀ s, State.Visits (Text.strip path.toList) s → s.Counted) ∧
      ∀ engine sizeLimit e, Program.compile engine path sizeLimit = .error e →
        Rejection ⟨path, engine, sizeLimit⟩ e ∧
          (∀ position, e ≠ .unterminatedFilter path position) ∧
          ∀ t : Token, e ≠ .invalidFilter path s!"'{t.display}' is only valid inside a filter" := by
  obtain ⟨us, hus, hts⟩ := (tokenize_eq_ok.1 h).nested
  refine ⟨wellNested_of_nested hus hts, fun s hs => hs.counted, fun engine sizeLimit e he => ?_⟩
  have hcompile : compileTokens ⟨path, engine, sizeLimit⟩ ts = .error e := by
    rw [Program.compile, h] at he
    exact he
  have hrejection : Rejection ⟨path, engine, sizeLimit⟩ e :=
    refuses_compileTokens hus hts e hcompile
  refine ⟨hrejection, ?_, ?_⟩
  · rintro position rfl
    cases hrejection
  · rintro t rfl
    exact hrejection.cause (by simp [toString, String.toList_append])

/-- A filter in the path of a filter, with a group around its predicate. -/
theorem tokenize_wellNested_filters :
    let path := "$[?@[?(@)]]"
    let ts : List Token := [.root, .startFilter, .current, .startFilter, .current, .endFilter,
      .endFilter]
    tokenize path = .ok ts ∧ WellNested ts ∧
      (∀ s, State.Visits (Text.strip path.toList) s → s.Counted) ∧
      ∀ engine sizeLimit e, Program.compile engine path sizeLimit = .error e →
        Rejection ⟨path, engine, sizeLimit⟩ e ∧
          (∀ position, e ≠ .unterminatedFilter path position) ∧
          ∀ t : Token, e ≠ .invalidFilter path s!"'{t.display}' is only valid inside a filter" := by
  intro path ts
  let body : List Char := ['@', ')', ']', ']']
  have hcurrent : Spells .predicate [.current] body [')', ']', ']'] :=
    .reference gap_nil rfl .nil (ends_cons rfl) .nil
  have hinner : Spells .path [.startFilter, .current, .endFilter] ('[' :: '?' :: '(' :: body)
      [']'] :=
    @Spells.enclosed [.current] [] [] [] body [] [] [']'] [']'] gap_nil gap_nil hcurrent gap_nil
      gap_nil .nil
  let ps : List Token := [.current, .startFilter, .current, .endFilter]
  have hpredicate : Spells .predicate ps ('@' :: '[' :: '?' :: '(' :: body) [']'] :=
    .reference gap_nil rfl hinner (ends_cons rfl) .nil
  have hgroup : ¬ IsGroup ps := by
    rintro ⟨us, -, hus⟩
    cases (List.cons.inj hus).1
  have houter : Spells .path (.startFilter :: (ps ++ [.endFilter]))
      ('[' :: '?' :: '@' :: '[' :: '?' :: '(' :: body) [] :=
    @Spells.filter ps [] [] _ [] [] [] gap_nil hpredicate gap_nil hgroup .nil
  have htokens : tokenize path = .ok ts := by
    have hstrip :
        Text.strip path.toList = '$' :: '[' :: '?' :: '@' :: '[' :: '?' :: '(' :: body := by
      decide +kernel
    rw [tokenize_eq_ok, Spelled, hstrip]
    exact .root (ends_cons (isNameChar_delimiter '[' (by decide))) houter
  exact ⟨htokens, tokenize_wellNested htokens⟩

end Sift.Path
