import Sift.Proofs.Path.Tokenize
import Sift.Proofs.Path.Precedence

/-! Spelling does not change a path.

Two spellings of the same tokens give these tokens back, whichever quotes, dots, parentheses and
white space they choose (`tokenize_eq_ok`). What is left is that a program remembers the path as it
was written, and so does every path inside of its filters. None of this has a say in what is
compiled: a predicate is compiled exactly if its tokens write a formula, and they write one that
does the same whatever the text is that they come from, and from another root too where they do not
refer to it (`Writes.elsewhere`). -/
namespace Sift.Path

/-! ### The same tokens elsewhere -/

theorem casedPattern_eq_ok {s : Setting} {pattern : String} {p : CasedPattern} :
    casedPattern s pattern = .ok p ↔
      s.pattern? pattern true = some p.sensitive ∧
        s.pattern? pattern false = some p.insensitive := by
  rw [casedPattern]
  split
  · rename_i hsensitive hinsensitive
    rw [hsensitive, hinsensitive, Option.some.injEq, Option.some.injEq, Except.ok.injEq]
    constructor
    · rintro rfl
      exact ⟨rfl, rfl⟩
    · rintro ⟨rfl, rfl⟩
      rfl
  · rename_i hne
    constructor
    · intro h
      cases h
    · rintro ⟨hsensitive, hinsensitive⟩
      exact absurd hinsensitive (hne _ _ hsensitive)

theorem Literal.elsewhere {s s' : Setting} (hpattern : s.pattern? = s'.pattern?)
    {op : Comparison} {t : Token} {right : Operand} (h : Literal s op t right) :
    Literal s' op t right := by
  cases h with
  | truth b => exact .truth b
  | integer i => exact .integer i
  | text t hop => exact .text t hop
  | pattern hop hp =>
    rw [casedPattern_eq_ok, hpattern] at hp
    exact .pattern hop (casedPattern_eq_ok.2 hp)

section Elsewhere

variable {α : Type} [Viewable α] {o : QueryOptions} {root root' : α} {s s' : Setting}

/-- Segments that do not refer to the root lead to the same from another root. -/
theorem walk_cons_congr {segment : Segment} {front back : List Segment}
    (hfilter : ∀ p, segment ≠ .filter p) (hroot : segment = .root → root = root')
    (h : walk o root front = walk o root' back) :
    walk o root (segment :: front) = walk o root' (segment :: back) := by
  funext v
  cases segment with
  | filter p => exact absurd rfl (hfilter p)
  | root =>
    rw [walk, walk, h, hroot rfl]
  | _ => simp only [walk, h]

theorem walk_filter_congr {p q : Predicate} {front back : List Segment}
    (hp : test o root p = test o root' q) (h : walk o root front = walk o root' back) :
    walk o root (.filter p :: front) = walk o root' (.filter q :: back) := by
  funext v
  rw [walk, walk, hp, h]

/-- In another setting, the tokens write a phrase of the same kind which does the same from another
root. -/
def Elsewhere (s' : Setting) (o : QueryOptions) (root root' : α) : Phrase → List Token → Prop
  | .selectors segments, ts => ∃ segments', Writes s' (.selectors segments') ts ∧
      walk o root segments = walk o root' segments'
  | .path p, ts => ∃ q, Writes s' (.path q) ts ∧ resolve o root p = resolve o root' q
  | .operand op right, ts => ∃ right', Writes s' (.operand op right') ts ∧
      ∀ left, testOperand o root op left right = testOperand o root' op left right'
  | .relation r, ts => ∃ r', Writes s' (.relation r') ts ∧
      test o root r.predicate = test o root' r'.predicate
  | .term n f, ts => ∃ f', Writes s' (.term n f') ts ∧
      test o root f.predicate = test o root' f'.predicate
  | .conjunction n f, ts => ∃ f', Writes s' (.conjunction n f') ts ∧
      test o root f.predicate = test o root' f'.predicate
  | .disjunction n f, ts => ∃ f', Writes s' (.disjunction n f') ts ∧
      test o root f.predicate = test o root' f'.predicate

theorem root_of_segment? {t : Token} (h : t.segment? = some .root) : t = .root := by
  cases t <;> first | rfl | cases h

theorem not_filter_of_segment? {t : Token} {segment : Segment} (h : t.segment? = some segment)
    (p : Predicate) : segment ≠ .filter p := by
  cases t <;> cases h <;> simp

theorem Literal.testOperand_eq {s : Setting} {op : Comparison} {t : Token} {right : Operand}
    (h : Literal s op t right) (o : QueryOptions) (root root' left : α) :
    testOperand o root op left right = testOperand o root' op left right := by
  funext v
  cases h <;> rfl

/-- Where tokens refer to the root it has to be the same. -/
def SameRoot (root root' : α) (ts : List Token) : Prop := root = root' ∨ Token.root ∉ ts

omit [Viewable α] in
theorem SameRoot.subset {ts us : List Token} (h : SameRoot root root' us) (hsub : ts ⊆ us) :
    SameRoot root root' ts :=
  h.imp_right fun hroot hmem => hroot (hsub hmem)

theorem Writes.elsewhere (hpattern : s.pattern? = s'.pattern?) {phrase : Phrase} {ts : List Token}
    (h : Writes s phrase ts) (hroot : SameRoot root root' ts) :
    Elsewhere s' o root root' phrase ts := by
  induction h with
  | nil => exact ⟨[], .nil, rfl⟩
  | @selector t segment segments ts ht hs _ ih =>
    obtain ⟨segments', hw, hwalk⟩ := ih (hroot.subset (List.subset_cons_self _ _))
    refine ⟨_, .selector ht hs hw, walk_cons_congr (not_filter_of_segment? hs) ?_ hwalk⟩
    intro hseg
    rw [hseg] at hs
    rw [root_of_segment? hs] at ht
    cases ht
  | @filter f ts segments us _ _ ihf ihs =>
    have hts : ts ⊆ .startFilter :: (ts ++ .endFilter :: us) :=
      fun x hx => List.mem_cons_of_mem _ (List.mem_append_left _ hx)
    have hus : us ⊆ .startFilter :: (ts ++ .endFilter :: us) := fun x hx =>
      List.mem_cons_of_mem _ (List.mem_append_right _ (List.mem_cons_of_mem _ hx))
    obtain ⟨f', hf, htest⟩ := ihf (hroot.subset hts)
    obtain ⟨segments', hw, hwalk⟩ := ihs (hroot.subset hus)
    exact ⟨_, .filter hf hw, walk_filter_congr htest hwalk⟩
  | @path t segment segments ts ht hs _ ih =>
    obtain ⟨segments', hw, hwalk⟩ := ih (hroot.subset (List.subset_cons_self _ _))
    refine ⟨_, .path ht hs hw, walk_cons_congr (not_filter_of_segment? hs) ?_ hwalk⟩
    intro hseg
    rw [hseg] at hs
    refine hroot.resolve_right fun hfree => hfree ?_
    rw [root_of_segment? hs]
    exact List.mem_cons_self
  | literal hl =>
    exact ⟨_, .literal (hl.elsewhere hpattern), hl.testOperand_eq o root root'⟩
  | value _ ih =>
    obtain ⟨q, hq, hresolve⟩ := ih hroot
    refine ⟨_, .value hq, fun left => ?_⟩
    funext v
    rw [testOperand, testOperand, hresolve]
  | resolves _ ih =>
    obtain ⟨q, hq, hresolve⟩ := ih hroot
    refine ⟨_, .resolves hq, ?_⟩
    funext v
    rw [Relation.predicate, Relation.predicate, test, test, hresolve]
  | compare _ _ ihl ihr =>
    obtain ⟨left', hl, hresolve⟩ := ihl (hroot.subset (by simp))
    obtain ⟨right', hr, hoperand⟩ := ihr (hroot.subset (by simp))
    refine ⟨_, .compare hl hr, ?_⟩
    funext v
    rw [Relation.predicate, Relation.predicate, test, test, hresolve]
    simp only [hoperand]
  | relation hn _ ih =>
    obtain ⟨r', hr, htest⟩ := ih hroot
    exact ⟨_, .relation hn hr, htest⟩
  | not _ ih =>
    obtain ⟨f', hf, htest⟩ := ih (hroot.subset (by simp))
    refine ⟨_, .not hf, ?_⟩
    funext v
    rw [Formula.predicate, Formula.predicate, test, test, htest]
  | group _ ih =>
    obtain ⟨f', hf, htest⟩ := ih (hroot.subset (by simp))
    exact ⟨_, .group hf, htest⟩
  | term _ ih =>
    obtain ⟨f', hf, htest⟩ := ih hroot
    exact ⟨_, .term hf, htest⟩
  | and _ _ iha ihb =>
    obtain ⟨a', ha, htesta⟩ := iha (hroot.subset (by simp))
    obtain ⟨b', hb, htestb⟩ := ihb (hroot.subset (by simp))
    refine ⟨_, .and ha hb, ?_⟩
    funext v
    rw [Formula.predicate, Formula.predicate, test, test, htesta, htestb]
  | conjunction _ ih =>
    obtain ⟨f', hf, htest⟩ := ih hroot
    exact ⟨_, .conjunction hf, htest⟩
  | or _ _ iha ihb =>
    obtain ⟨a', ha, htesta⟩ := iha (hroot.subset (by simp))
    obtain ⟨b', hb, htestb⟩ := ihb (hroot.subset (by simp))
    refine ⟨_, .or ha hb, ?_⟩
    funext v
    rw [Formula.predicate, Formula.predicate, test, test, htesta, htestb]

/-- The same tokens are compiled to segments that lead to the same. -/
theorem compileSegments_elsewhere (hpattern : s.pattern? = s'.pattern?) {size : Nat} (size' : Nat)
    {ts : List Token} {segments : List Segment} (h : compileSegments s size ts = .ok segments)
    (hroot : SameRoot root root' ts) : ∃ segments', compileSegments s' size' ts = .ok segments' ∧
      walk o root segments = walk o root' segments' := by
  induction ts using (measure List.length).wf.induction generalizing segments with
  | _ ts ih =>
    cases ts with
    | nil =>
      rw [compileSegments_nil] at h
      cases h
      exact ⟨[], compileSegments_nil s' size', rfl⟩
    | cons t rest =>
      by_cases ht : t = .startFilter
      · subst ht
        obtain ⟨n, p, tail, hn, hp, htail, rfl⟩ := (compileSegments_filter s size _ _).1 h
        obtain ⟨f, us, hus, rfl, hf⟩ := predicate_written _ p hp
        rw [List.append_nil] at hus
        subst hus
        obtain ⟨f', hf', htest⟩ := hf.elsewhere (o := o) hpattern
          (hroot.subset fun x hx => List.mem_cons_of_mem _ (List.mem_of_mem_take hx))
        have hshorter : (rest.drop (n + 1)).length < (Token.startFilter :: rest).length := by
          rw [List.length_drop, List.length_cons]
          omega
        obtain ⟨tail', htail', hwalk⟩ := ih _ hshorter htail
          (hroot.subset fun x hx => List.mem_cons_of_mem _ (List.mem_of_mem_drop hx))
        exact ⟨_, (compileSegments_filter s' size' _ _).2
          ⟨n, _, tail', hn, compilePredicate_writes hf', htail', rfl⟩,
          walk_filter_congr htest hwalk⟩
      · obtain ⟨segment, tail, hs, htail, rfl⟩ := (compileSegments_cons s size ht _ _).1 h
        obtain ⟨tail', htail', hwalk⟩ := ih rest (Nat.lt_succ_self _) htail
          (hroot.subset (List.subset_cons_self _ _))
        refine ⟨_, (compileSegments_cons s' size' ht _ _).2 ⟨segment, tail', hs, htail', rfl⟩,
          walk_cons_congr (not_filter_of_segment? hs) ?_ hwalk⟩
        intro hseg
        rw [hseg] at hs
        refine hroot.resolve_right fun hfree => hfree ?_
        rw [root_of_segment? hs]
        exact List.mem_cons_self


end Elsewhere

theorem compileTokens_elsewhere {s s' : Setting} (hpattern : s.pattern? = s'.pattern?)
    {ts : List Token} {p : Program} (h : compileTokens s ts = .ok p) :
    ∃ q, compileTokens s' ts = .ok q ∧ (p == q) = true := by
  obtain ⟨segments, hs, rfl⟩ := (compileTokens_eq_ok s ts p).1 h
  obtain ⟨segments', hs', -⟩ := compileSegments_elsewhere (o := ⟨false, 0, ⟨0, 0⟩, s.engine, 0⟩)
    hpattern ts.length hs (.inl (Eq.refl Value.null))
  exact ⟨_, (compileTokens_eq_ok s' ts _).2 ⟨segments', hs', rfl⟩, beq_self_eq_true ts⟩

/-! ### Spellings -/

theorem compile_of_tokenize {path : String} {ts : List Token} (h : tokenize path = .ok ts)
    (engine : Engine) (sizeLimit : Nat) :
    Program.compile engine path sizeLimit = compileTokens ⟨path, engine, sizeLimit⟩ ts := by
  rw [Program.compile, h]
  rfl

/-- **Spelling does not change a path.** All spellings of some tokens are tokenized to them.
They are compiled or not together, whatever the bound on patterns is, and to equal programs. -/
theorem compile_respelled {ts : List Token} {p q : String} (hp : Spelled ts p)
    (hq : Spelled ts q) :
    tokenize p = .ok ts ∧ tokenize q = .ok ts ∧ ∀ engine sizeLimit,
      (∀ a, Program.compile engine p sizeLimit = .ok a →
        ∃ b, Program.compile engine q sizeLimit = .ok b ∧ (a == b) = true) ∧
      (∀ b, Program.compile engine q sizeLimit = .ok b →
        ∃ a, Program.compile engine p sizeLimit = .ok a ∧ (b == a) = true) := by
  have htp : tokenize p = .ok ts := tokenize_eq_ok.2 hp
  have htq : tokenize q = .ok ts := tokenize_eq_ok.2 hq
  refine ⟨htp, htq, fun engine sizeLimit => ?_⟩
  have hpattern : (⟨p, engine, sizeLimit⟩ : Setting).pattern? =
      (⟨q, engine, sizeLimit⟩ : Setting).pattern? := rfl
  rw [compile_of_tokenize htp, compile_of_tokenize htq]
  exact ⟨fun a ha => compileTokens_elsewhere hpattern ha,
    fun b hb => compileTokens_elsewhere hpattern.symm hb⟩

/-- Other quotes, a dot in front of the bracket, parentheses around the predicate, and white
space. -/
theorem compile_respelled_filter :
    let p := "$.a[?@.b=='x']"
    let q := "$['a'].[?( @[\"b\"] == \"x\" )]"
    let ts : List Token := [.root, .member "a" false, .startFilter, .current, .member "b" false,
      .compare .eq, .text "x", .endFilter]
    Spelled ts p ∧ Spelled ts q ∧ tokenize p = .ok ts ∧ tokenize q = .ok ts ∧ ∀ engine sizeLimit,
      (∀ a, Program.compile engine p sizeLimit = .ok a →
        ∃ b, Program.compile engine q sizeLimit = .ok b ∧ (a == b) = true) ∧
      (∀ b, Program.compile engine q sizeLimit = .ok b →
        ∃ a, Program.compile engine p sizeLimit = .ok a ∧ (b == a) = true) := by
  intro p q ts
  have hgap : Gap [' '] := by
    intro c hc
    rw [List.mem_singleton.1 hc]
    rfl
  have hends {c : Char} {rest : List Char} (hc : c ∈ delimiters) : Ends isNameChar (c :: rest) :=
    ends_cons (isNameChar_delimiter c hc)
  have hequal {c : Char} {rest : List Char} (hc : (c == '=') = false) :
      SpellsWord (.compare .eq) ('=' :: '=' :: c :: rest) (c :: rest) :=
    .operator rfl fun _ => ends_cons hc
  let ps : List Token := [.current, .member "b" false, .compare .eq, .text "x"]
  have hp : Spelled ts p := by
    let value : List Char := ['=', '=', '\'', 'x', '\'', ']']
    let predicate : List Char := '@' :: '.' :: 'b' :: value
    have hvalue : Spells .predicate [.compare .eq, .text "x"] value [']'] :=
      .word gap_nil (hequal rfl) (.word gap_nil (.text ⟨'\'', rfl, by decide, rfl⟩) .nil)
    have hb : SpellsName "b" ('b' :: value) value :=
      .plain ⟨['b'], by decide, by decide +kernel, .inl rfl⟩ (by decide) (by decide)
        (hends (by decide))
    have hpredicate : Spells .predicate ps predicate [']'] :=
      .reference gap_nil rfl (.selector (.member hb) .nil) (ends_cons rfl) hvalue
    have hgroup : ¬ IsGroup ps := by
      rintro ⟨us, -, hus⟩
      cases (List.cons.inj hus).1
    have hfilter : Spells .path (.startFilter :: (ps ++ [.endFilter])) ('[' :: '?' :: predicate)
        [] :=
      @Spells.filter ps [] [] predicate [] [] [] gap_nil hpredicate gap_nil hgroup .nil
    have ha : SpellsName "a" ('a' :: '[' :: '?' :: predicate) ('[' :: '?' :: predicate) :=
      .plain ⟨['a'], by decide, by decide +kernel, .inl rfl⟩ (by decide) (by decide)
        (hends (by decide))
    have hstrip : Text.strip p.toList = '$' :: '.' :: 'a' :: '[' :: '?' :: predicate := by
      decide +kernel
    rw [Spelled, hstrip]
    exact .root (hends (by decide)) (.selector (.member ha) hfilter)
  have hq : Spelled ts q := by
    let value : List Char := [' ', '=', '=', ' ', '"', 'x', '"', ' ', ')', ']']
    let predicate : List Char := ' ' :: '@' :: '[' :: '"' :: 'b' :: '"' :: ']' :: value
    have hvalue : Spells .predicate [.compare .eq, .text "x"] value [' ', ')', ']'] :=
      .word hgap (hequal rfl) (.word hgap (.text ⟨'"', rfl, by decide, rfl⟩) .nil)
    have hbracket {n : String} {c d : Char} (hd : isQuote d = true) (hn : d ∉ n.toList)
        (hc : n.toList = [c]) : SpellsBracket (.member n false) [d, c, d] :=
      .name (.last ⟨[], [d, c, d], [], gap_nil, ⟨d, hd, hn, by rw [hc]; rfl⟩, gap_nil, rfl⟩)
    have hb : SpellsBracket (.member "b" false) ['"', 'b', '"'] := hbracket rfl (by decide) rfl
    have hpredicate : Spells .predicate ps predicate [' ', ')', ']'] :=
      .reference hgap rfl (.selector (.bracket hb) .nil) (ends_cons rfl) hvalue
    have hfilter : Spells .path (.startFilter :: (ps ++ [.endFilter]))
        ('[' :: '?' :: '(' :: predicate) [] :=
      @Spells.enclosed ps [] [] [] predicate [' '] [] [] [] gap_nil gap_nil hpredicate hgap
        gap_nil .nil
    have hstrip : Text.strip q.toList =
        '$' :: '[' :: '\'' :: 'a' :: '\'' :: ']' :: '.' :: '[' :: '?' :: '(' :: predicate := by
      decide +kernel
    have ha : SpellsBracket (.member "a" false) ['\'', 'a', '\''] := hbracket rfl (by decide) rfl
    rw [Spelled, hstrip]
    exact .root (hends (by decide)) (.selector (.bracket ha) (.dot hfilter))
  exact ⟨hp, hq, compile_respelled hp hq⟩

end Sift.Path
