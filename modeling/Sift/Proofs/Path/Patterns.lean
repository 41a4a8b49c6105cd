import Mathlib.Data.List.Chain
import Sift.Proofs.Path.Respelling

/-! The patterns of a path.

A pattern is written in a filter as a text behind `~=`. Filters may stand in paths that stand in
filters, but all of their tokens are in the one list of the path, so a pattern is wherever a text
comes right behind a `~=` (`HoldsPattern`). A path is only compiled if all of these compile under
its bound, for both ways to treat case (`fits_of_compile`). -/
namespace Sift.Path

/-- The pattern compiles under the bound, whether case counts or not. -/
def FitsPattern (engine : Engine) (limit : Nat) (pattern : String) : Prop :=
  ∀ caseSensitive, (engine.compile? pattern caseSensitive limit).isSome = true

/-- The path has the pattern in one of its filters. -/
def HoldsPattern (path pattern : String) : Prop :=
  ∃ ts, tokenize path = .ok ts ∧ [.compare .regex, .text pattern] <:+: ts

/-- If the two tokens, one behind the other, make up a pattern, it fits. -/
def Admits (engine : Engine) (limit : Nat) (t u : Token) : Prop :=
  t = .compare .regex → ∀ pattern, u = .text pattern → FitsPattern engine limit pattern

section Tokens

variable {engine : Engine} {limit : Nat} {t u : Token} {ts us : List Token}

theorem admits_left (ht : t ≠ .compare .regex) : Admits engine limit t u := fun h => absurd h ht

theorem admits_right (hu : ∀ pattern, u ≠ .text pattern) : Admits engine limit t u :=
  fun _ pattern h => absurd h (hu pattern)

/-- A token that is not `~=` may stand in front of anything. -/
theorem isChain_cons_of_ne (ht : t ≠ .compare .regex) (h : ts.IsChain (Admits engine limit)) :
    (t :: ts).IsChain (Admits engine limit) :=
  h.cons fun _ _ => admits_left ht

/-- A token that is neither a text nor `~=` may stand between anything. -/
theorem isChain_between (hts : ts.IsChain (Admits engine limit)) (ht : t ≠ .compare .regex)
    (htext : ∀ pattern, t ≠ .text pattern) (hus : us.IsChain (Admits engine limit)) :
    (ts ++ t :: us).IsChain (Admits engine limit) := by
  refine hts.append (isChain_cons_of_ne ht hus) fun _ _ u hu => ?_
  obtain rfl := Option.mem_some_iff.1 hu
  exact admits_right htext

/-- Behind `~=`, a pattern that was accepted fits, and anything else is no pattern. -/
theorem Writes.admits_head {s : Setting} {op : Comparison} {right : Operand}
    (h : Writes s (.operand op right) ts) :
    ∀ u ∈ ts.head?, Admits s.engine s.sizeLimit (.compare op) u := by
  intro u hu
  cases h with
  | literal hl =>
    obtain rfl := Option.mem_some_iff.1 hu
    cases hl with
    | text text hop => exact admits_left fun heq => hop (Token.compare.inj heq)
    | pattern hop hp =>
      obtain ⟨hsensitive, hinsensitive⟩ := casedPattern_eq_ok.1 hp
      rintro - _ ⟨⟩ caseSensitive
      cases caseSensitive with
      | true => exact Option.isSome_iff_exists.2 ⟨_, hsensitive⟩
      | false => exact Option.isSome_iff_exists.2 ⟨_, hinsensitive⟩
    | _ => exact admits_right nofun
  | value hpath =>
    cases hpath with
    | path ht _ _ =>
      obtain rfl := Option.mem_some_iff.1 hu
      exact admits_right fun _ => ne_of_kind ht rfl

/-- All patterns of a phrase that was accepted fit. -/
theorem Writes.isChain {s : Setting} {phrase : Phrase} (h : Writes s phrase ts) :
    ts.IsChain (Admits s.engine s.sizeLimit) := by
  induction h with
  | nil => exact .nil
  | selector ht _ _ ih => exact isChain_cons_of_ne (ne_of_kind ht rfl) ih
  | filter _ _ ihf ihs =>
    exact isChain_cons_of_ne nofun (isChain_between ihf nofun nofun ihs)
  | path ht _ _ ih => exact isChain_cons_of_ne (ne_of_kind ht rfl) ih
  | literal _ => exact .singleton _
  | value _ ih => exact ih
  | resolves _ ih => exact ih
  | @compare op left right ts us _ hright ihl ihr =>
    refine ihl.append (ihr.cons hright.admits_head) fun _ _ u hu => ?_
    obtain rfl := Option.mem_some_iff.1 hu
    exact admits_right nofun
  | relation _ _ ih => exact ih
  | not _ ih => exact isChain_cons_of_ne nofun ih
  | group _ ih => exact isChain_cons_of_ne nofun (isChain_between ih nofun nofun .nil)
  | term _ ih => exact ih
  | and _ _ iha ihb => exact isChain_between iha nofun nofun ihb
  | conjunction _ ih => exact ih
  | or _ _ iha ihb => exact isChain_between iha nofun nofun ihb

end Tokens

/-- All patterns of a path that was accepted fit. -/
theorem compileSegments_isChain {s : Setting} {size : Nat} {ts : List Token}
    {segments : List Segment} (h : compileSegments s size ts = .ok segments) :
    ts.IsChain (Admits s.engine s.sizeLimit) := by
  induction ts using (measure List.length).wf.induction generalizing segments with
  | _ ts ih =>
    cases ts with
    | nil => exact .nil
    | cons t rest =>
      by_cases ht : t = .startFilter
      · subst ht
        obtain ⟨n, p, tail, hn, hp, htail, rfl⟩ := (compileSegments_filter s size _ _).1 h
        obtain ⟨front, back, rfl, rfl, -⟩ := filterLength_split hn
        rw [List.take_left] at hp
        have hdrop : (front ++ .endFilter :: back).drop (front.length + 1) = back := by
          rw [List.drop_length_add_append]
          rfl
        rw [hdrop] at htail
        obtain ⟨f, us, hus, rfl, hf⟩ := predicate_written _ p hp
        rw [List.append_nil] at hus
        subst hus
        have hshorter :
            back.length < (Token.startFilter :: (front ++ .endFilter :: back)).length := by
          simp only [List.length_cons, List.length_append]
          omega
        exact isChain_cons_of_ne nofun
          (isChain_between hf.isChain nofun nofun (ih back hshorter htail))
      · obtain ⟨segment, tail, hs, htail, rfl⟩ := (compileSegments_cons s size ht _ _).1 h
        refine isChain_cons_of_ne ?_ (ih rest (Nat.lt_succ_self _) htail)
        rintro rfl
        cases hs

/-- **All patterns of a path that was compiled compile under its bound.** -/
theorem fits_of_compile {engine : Engine} {path pattern : String} {limit : Nat} {p : Program}
    (h : Program.compile engine path limit = .ok p) (hp : HoldsPattern path pattern) :
    FitsPattern engine limit pattern := by
  obtain ⟨ts, hts, hin⟩ := hp
  rw [compile_of_tokenize hts] at h
  obtain ⟨segments, hs, -⟩ := (compileTokens_eq_ok _ _ _).1 h
  have hpair := List.IsChain.infix (compileSegments_isChain hs) hin
  exact List.isChain_pair.1 hpair rfl pattern rfl

/-! ### A filter with a pattern -/

/-- The pattern of names that have a thousand letters. -/
def longName : String := "^[a-z]{1000}$"

/-- The path of the items with such names. -/
def longNamePath : String := "items[?(@.name ~= '^[a-z]{1000}$')]"

def longNameFilter : List Token :=
  [.current, .member "name" false, .compare .regex, .text longName]

def longNameTokens : List Token :=
  .member "items" false :: .startFilter :: (longNameFilter ++ [.endFilter])

theorem tokenize_longName : tokenize longNamePath = .ok longNameTokens := by
  let pattern : List Char := '\'' :: (longName.toList ++ ['\''])
  let value : List Char := ' ' :: '~' :: '=' :: ' ' :: (pattern ++ [')', ']'])
  let predicate : List Char := ['@', '.', 'n', 'a', 'm', 'e'] ++ value
  have hgap : Gap [' '] := by
    intro c hc
    rw [List.mem_singleton.1 hc]
    rfl
  have hvalue : Spells .predicate [.compare .regex, .text longName] value [')', ']'] :=
    .word hgap (.operator rfl nofun) (.word hgap (.text ⟨'\'', rfl, by decide, rfl⟩) .nil)
  have hname : SpellsName "name" (['n', 'a', 'm', 'e'] ++ value) value :=
    .plain ⟨_, by decide, by decide +kernel, .inl rfl⟩ (by decide) (by decide)
      (ends_cons (by decide +kernel))
  have hpredicate : Spells .predicate longNameFilter predicate [')', ']'] :=
    .reference gap_nil rfl (.selector (.member hname) .nil) (ends_cons rfl) hvalue
  have hfilter : Spells .path (.startFilter :: (longNameFilter ++ [.endFilter]))
      (['[', '?', '('] ++ predicate) [] :=
    @Spells.enclosed longNameFilter [] [] [] predicate [] [] [] [] gap_nil gap_nil hpredicate
      gap_nil gap_nil .nil
  have hitems : SpellsName "items" (['i', 't', 'e', 'm', 's'] ++ (['[', '?', '('] ++ predicate))
      (['[', '?', '('] ++ predicate) :=
    .plain ⟨_, by decide, by decide +kernel, .inl rfl⟩ (by decide) (by decide)
      (ends_cons (isNameChar_delimiter _ (by decide)))
  have hstrip : Text.strip longNamePath.toList =
      ['i', 't', 'e', 'm', 's'] ++ (['[', '?', '('] ++ predicate) := by
    decide +kernel
  rw [tokenize_eq_ok, Spelled, hstrip]
  exact .name hitems hfilter

theorem holds_longName : HoldsPattern longNamePath longName :=
  ⟨longNameTokens, tokenize_longName,
    [.member "items" false, .startFilter, .current, .member "name" false], [.endFilter], rfl⟩

/-- It is compiled if there is room for its pattern. -/
theorem compile_longName {engine : Engine} {limit : Nat} (h : FitsPattern engine limit longName) :
    ∃ p, Program.compile engine longNamePath limit = .ok p := by
  let s : Setting := ⟨longNamePath, engine, limit⟩
  obtain ⟨sensitive, hsensitive⟩ := Option.isSome_iff_exists.1 (h true)
  obtain ⟨insensitive, hinsensitive⟩ := Option.isSome_iff_exists.1 (h false)
  have hcased : casedPattern s longName = .ok ⟨sensitive, insensitive⟩ :=
    casedPattern_eq_ok.2 ⟨hsensitive, hinsensitive⟩
  have hname : Writes s (.selectors [.member "name" false]) [.member "name" false] :=
    .selector rfl rfl .nil
  have hpath : Writes s (.path (.mk (Text.trim longNamePath) [.current, .member "name" false]
      [.current, .member "name" false])) [.current, .member "name" false] :=
    .path rfl rfl hname
  have hwrites : Writes s (.disjunction 0 (.relation (.compare .regex _ _))) longNameFilter :=
    .conjunction (.term (.relation (Nat.zero_le _)
      (.compare hpath (.literal (.pattern rfl hcased)))))
  have hfilter := (compileSegments_filter s 7 (longNameFilter ++ [Token.endFilter]) _).2
    ⟨4, _, [], rfl, compilePredicate_writes hwrites, compileSegments_nil s 7, rfl⟩
  have hsegments : compileSegments s longNameTokens.length longNameTokens = .ok _ :=
    (compileSegments_cons s 7 Token.noConfusion _ _).2
      ⟨.member "items" false, _, rfl, hfilter, rfl⟩
  rw [compile_of_tokenize tokenize_longName]
  exact ⟨_, (compileTokens_eq_ok s _ _).2 ⟨_, hsegments, rfl⟩⟩

end Sift.Path
